import ReleasePreview.Tools.Names

/-! Programs that change the tree of files: directories, links, modes, and removal. -/
namespace ReleasePreview.Tools

/-- What a program does to the files, and what it says about that. -/
structure Effect where
  files : FileTree
  moved : Option (Place × Place) := none
  output : List String := []
  errors : List String := []

/-- The files as a program sees them: from a directory, by paths in bytes. -/
structure View where
  files : FileTree
  directory : Place

namespace View

def place (v : View) (path : String) (follow : Bool) : Except FileError Place :=
  v.files.resolve v.directory (Text.Octets.readable path) follow

/-- The place and node of a path. -/
def find (v : View) (path : String) (follow : Bool) : Except FileError (Place × FileNode) := do
  let p ← v.place path follow
  match v.files.node? p with
  | some node => return (p, node)
  | none => throw .notFound

def isDirectory (v : View) (path : String) : Bool :=
  match v.find path true with
  | .ok (_, .directory) => true
  | _ => false

def unchanged (v : View) : Effect := { files := v.files }

def fails (v : View) (message : String) : Effect := { files := v.files, errors := [message] }

end View

/-- Changes the files and says what there is to say. Gives whether all went well. -/
def effect (c : ProgramCall) (f : View → Effect) : Program Bool := do
  let e ← Program.act fun number w =>
    let e := f ⟨w.files, w.directory number⟩
    (w.setFiles e.files e.moved, e)
  writeAll (e.output.map (·.toList))
  e.errors.forM (complain c)
  return e.errors.isEmpty

/-- Does something for each operand. Gives the status. -/
def eachOperand (c : ProgramCall) (f : String → View → Effect) (status : Nat) :
    List String → Program Nat
  | [] => return status
  | path :: paths => do
    let ok ← effect c (f path)
    eachOperand c f (if ok then status else 1) paths

/-- The path below a directory for a name of another path. -/
def below (target source : String) : String := Path.join target (lastName source)

def makeDirectory (parents shows : Bool) (path : String) (v : View) : Effect :=
  let text := Text.Octets.readable path
  let refuse (e : FileError) : String := s!"cannot create directory '{path}': {e.reason}"
  if parents then
    match v.files.makeDirectories v.directory text with
    | (files, .ok ()) =>
      let names := (Text.split '/' path.toList).map String.ofList
      let fronts := (List.range names.length).map fun i => "/".intercalate (names.take (i + 1))
      let new := fronts.filter fun front => !front.isEmpty && !v.isDirectory front
      { files
        output := if shows then new.map fun p => s!"mkdir: created directory '{p}'\n" else [] }
    | (files, .error .alreadyExists) =>
      let names := (Text.split '/' path.toList).map String.ofList
      let fronts := (List.range names.length).map fun i => "/".intercalate (names.take (i + 1))
      let isFile (front : String) : Bool :=
        match v.find front true with
        | .ok (_, .file _ _) => true
        | _ => false
      match fronts.find? isFile with
      | some front =>
        let e : FileError := if front = path then .alreadyExists else .notDirectory
        { files, errors := [s!"cannot create directory '{front}': {e.reason}"] }
      | none => { files, errors := [refuse .alreadyExists] }
    | (files, .error e) =>
      let names := (Text.split '/' path.toList).map String.ofList
      let fronts := (List.range names.length).map fun i => "/".intercalate (names.take (i + 1))
      let front := (fronts.find? fun front => !front.isEmpty && !v.isDirectory front).getD path
      { files, errors := [s!"cannot create directory '{front}': {e.reason}"] }
  else
    match v.files.makeDirectory v.directory text with
    | .ok files =>
      { files, output := if shows then [s!"mkdir: created directory '{path}'\n"] else [] }
    | .error e => v.fails (refuse e)

def mkdir : Tool := fun _ => withOptions
  { letters := "m:pvZ", names := [("parents", 'p'), ("mode", 'm'), ("verbose", 'v')] } 1
  fun c o => do
  if o.args.isEmpty then misuse c "missing operand" 1
  else eachOperand c (makeDirectory (o.has 'p') (o.has 'v')) 0 o.args

/-- Removes a directory with nothing in it. -/
def removeDirectory (path : String) (v : View) : Effect :=
  let removed : Except String FileTree :=
    if lastName path = "." then .error "Invalid argument"
    else match v.find path false with
      | .error e => .error e.reason
      | .ok (p, .directory) =>
        if (v.files.children p).isEmpty then .ok (v.files.erase p)
        else .error FileError.notEmpty.reason
      | .ok _ => .error FileError.notDirectory.reason
  match removed with
  | .ok files => { files }
  | .error reason => v.fails s!"failed to remove '{path}': {reason}"

/-- A path and those in front of it. -/
def fronts (path : String) : List String :=
  let names := ((Text.split '/' path.toList).filter (!·.isEmpty)).map String.ofList
  let front := if Path.isAbsolute path then "/" else ""
  (List.range names.length).map fun i => front ++ "/".intercalate (names.take (names.length - i))

def rmdir : Tool := fun _ => withOptions
  { letters := "pv", names := [("parents", 'p'), ("verbose", 'v')] } 1 fun c o => do
  if o.args.isEmpty then misuse c "missing operand" 1
  else eachOperand c removeDirectory 0 (if o.has 'p' then o.args.flatMap fronts else o.args)

def touchFile (creates : Bool) (path : String) (v : View) : Effect :=
  match v.find path true with
  | .ok _ => v.unchanged
  | .error .notFound =>
    if !creates then v.unchanged
    else
      match v.files.write v.directory (Text.Octets.readable path) [] with
      | .ok files => { files }
      | .error e => v.fails s!"cannot touch '{path}': {e.reason}"
  | .error e => v.fails s!"cannot touch '{path}': {e.reason}"

def touch : Tool := fun _ => withOptions
  { letters := "acd:fhmr:t:", names := [("no-create", 'c'), ("date", 'd'), ("reference", 'r')] } 1
  fun c o => do
  if o.args.isEmpty then misuse c "missing file operand" 1
  else eachOperand c (touchFile !(o.has 'c')) 0 o.args

/-- The paths of a node and what is below it, the deepest ones first. The fuel is how deep. -/
def pathsBelow (t : FileTree) : (fuel : Nat) → String → Place → List (String × FileNode)
  | 0, _, _ => []
  | fuel + 1, path, p =>
    match t.node? p with
    | some .directory =>
      let names := (t.children p).mergeSort fun a b => a ≤ b
      (names.flatMap fun name =>
        pathsBelow t fuel (Path.join path (Text.Octets.ofText name)) (p ++ [name])) ++
        [(path, .directory)]
    | some node => [(path, node)]
    | none => []

def maxDepth : Nat := 1000

/-- Removes a node, and with `deep` what is below it. -/
def removeNode (deep force empty shows : Bool) (path : String) (v : View) : Effect :=
  let refuse (reason : String) : Effect := v.fails s!"cannot remove '{path}': {reason}"
  let name := lastName path
  if deep && (name = "." || name = "..") then
    v.fails s!"refusing to remove '.' or '..' directory: skipping '{path}'"
  else
    match v.find path false with
    | .error e =>
      if force && (e = .notFound || e = .notDirectory) then v.unchanged else refuse e.reason
    | .ok (p, node) =>
      let said (path : String) (node : FileNode) : String :=
        if node = .directory then s!"removed directory '{path}'\n" else s!"removed '{path}'\n"
      if node = .directory && !deep then
        if !empty then refuse FileError.isDirectory.reason
        else if (v.files.children p).isEmpty then { files := v.files.erase p }
        else refuse FileError.notEmpty.reason
      else
        let (removed, kept) := (pathsBelow v.files maxDepth path p).partition (·.2.isRemovable)
        if kept.isEmpty then
          let output := if shows then removed.map fun (q, n) => said q n else []
          { files := v.files.eraseAll p, output }
        else
          { files := v.files.eraseRemovable p
            errors := kept.map fun (q, _) =>
              s!"cannot remove '{q}': {FileError.permissionDenied.reason}" }

def rm : Tool := fun _ => withOptions
  { letters := "dfiIrRv", names := [("force", 'f'), ("recursive", 'r'), ("verbose", 'v'),
      ("dir", 'd'), ("interactive", 'i')] } 1 fun c o => do
  if o.args.isEmpty then
    if o.has 'f' then return 0 else misuse c "missing operand" 1
  else
    eachOperand c
      (removeNode (o.has 'r' || o.has 'R') (o.has 'f') (o.has 'd') (o.has 'v')) 0 o.args

/-- Makes a link to a target at a path. -/
def makeLink (symbolic force : Bool) (shows : Bool) (target path : String) (v : View) : Effect :=
  let what := if symbolic then "symbolic link" else "hard link"
  let refuse (e : FileError) : Effect :=
    if symbolic then v.fails s!"failed to create {what} '{path}': {e.reason}"
    else if e = .alreadyExists then v.fails s!"failed to create {what} '{path}': {e.reason}"
    else v.fails s!"failed to create {what} '{path}' => '{target}': {e.reason}"
  let node : Except String FileNode :=
    if symbolic then .ok (.link (Text.Octets.readable target))
    else match v.find target false with
      | .ok (_, .directory) => .error s!"{target}: hard link not allowed for directory"
      | .ok (_, node) => .ok node
      | .error e => .error s!"failed to access '{target}': {e.reason}"
  match node, v.place path false with
  | .error message, _ => v.fails message
  | .ok _, .error e => refuse e
  | .ok node, .ok p =>
    if (v.files.node? p).isSome && !(force && v.files.node? p ≠ some .directory) then
      refuse .alreadyExists
    else
      let arrow := if symbolic then "->" else "=>"
      { files := v.files.set p node
        output := if shows then [s!"'{path}' {arrow} '{target}'\n"] else [] }

def ln : Tool := fun _ => withOptions
  { letters := "bdfFiLnPrst:Tv", names := [("symbolic", 's'), ("force", 'f'), ("verbose", 'v'),
      ("no-dereference", 'n'), ("relative", 'r'), ("target-directory", 't')] } 1 fun c o => do
  let link := makeLink (o.has 's') (o.has 'f') (o.has 'v')
  let isDirectory (path : String) : Program Bool := Program.files fun files directory =>
    let v : View := ⟨files, directory⟩
    if o.has 'n' then
      match v.find path false with
      | .ok (_, node) => node = .directory
      | .error _ => false
    else v.isDirectory path
  match o.value? 't', o.args.reverse with
  | some target, sources =>
    eachOperand c (fun s => link s (below target s)) 0 sources.reverse
  | none, [] => misuse c "missing file operand" 1
  | none, [target] => eachOperand c (fun s => link s (below "." s)) 0 [target]
  | none, [path, target] =>
    let path := if (← isDirectory path) && !o.has 'T' then below path target else path
    eachOperand c (fun s => link s path) 0 [target]
  | none, directory :: sources =>
    if ← isDirectory directory then
      eachOperand c (fun s => link s (below directory s)) 0 sources.reverse
    else
      complain c s!"target '{directory}': {FileError.notFound.reason}"
      return 1

/-- Whether a file can be run under a changed mode, given that it could be before; `none` if the
text is no mode. -/
def modeAfter? (mode : String) (before : Bool) : Option Bool :=
  let clauses := Text.split ',' mode.toList
  match mode.toList with
  | [] => none
  | ds@(d :: _) =>
    if Decimal.isDigit d then
      if ds.all (fun c => '0' ≤ c && c ≤ '7') && ds.length ≤ 5 then
        some (ds.any fun c => c = '1' || c = '3' || c = '5' || c = '7')
      else none
    else
      clauses.foldlM
        (fun now clause =>
          let rest := clause.dropWhile fun c => "ugoa".toList.contains c
          match rest with
          | operator :: perms =>
            let runs := perms.contains 'x' || (perms.contains 'X' && now)
            if !perms.all (fun c => "rwxXstugo".toList.contains c) then none
            else if operator = '+' then some (now || runs)
            else if operator = '-' then some (if perms.contains 'x' then false else now)
            else if operator = '=' then some runs
            else none
          | [] => none)
        before

/-- Changes the mode of a node, and with `deep` of what is below it. -/
def changeMode (mode : String) (deep : Bool) (path : String) (v : View) : Effect :=
  match v.find path true with
  | .error e => v.fails s!"cannot access '{path}': {e.reason}"
  | .ok (p, _) =>
    let changed (q : Place) (node : FileNode) : FileNode :=
      match node with
      | .file content old =>
        if q = p || (deep && p.isPrefixOf q) then
          .file content { old with
            executable := (modeAfter? mode old.executable).getD old.executable }
        else node
      | node => node
    { files := ⟨v.files.nodes.map fun (q, node) => (q, changed q node)⟩ }

def isModeOption (arg : String) : Bool :=
  match arg.toList with
  | '-' :: c :: _ => "rwxXst".toList.contains c
  | _ => false

def chmod : Tool := fun _ c =>
  let modes := c.args.filter isModeOption
  withOptions
    { letters := "cfRv", names := [("recursive", 'R'), ("verbose", 'v'), ("quiet", 'f')] } 1
    (fun c o => do
      match modes ++ o.args with
      | [] => misuse c "missing operand" 1
      | [mode] => misuse c s!"missing operand after '{mode}'" 1
      | mode :: paths =>
        if (modeAfter? mode false).isNone then misuse c s!"invalid mode: '{mode}'" 1
        else eachOperand c (changeMode mode (o.has 'R')) 0 paths)
    { c with args := c.args.filter fun a => !isModeOption a }

/-- The target of a link, or the path of a node with all links followed. -/
def readlink : Tool := fun _ => withOptions
  { letters := "efmnqsvz", names := [("canonicalize", 'f'), ("no-newline", 'n')] } 1
  fun c o => do
  if o.args.isEmpty then misuse c "missing operand" 1
  else
    let found ← Program.files fun files directory =>
      let v : View := ⟨files, directory⟩
      o.args.map fun path =>
        if o.has 'f' || o.has 'm' || o.has 'e' then
          match v.place path true with
          | .ok p =>
            if o.has 'e' && (files.node? p).isNone then none else some (Text.Octets.ofText p.path)
          | .error _ => none
        else match v.find path false with
          | .ok (_, .link target) => some (Text.Octets.ofText target)
          | _ => none
    let lines := found.filterMap id
    Program.out (if o.has 'n' && lines.length = 1 then String.join lines
      else String.join (lines.map (· ++ "\n")))
    return if lines.length = o.args.length then 0 else 1

def realpath : Tool := fun _ => withOptions
  { letters := "eLmPqsz", names := [("canonicalize-existing", 'e'), ("strip", 's')] } 1
  fun c o => do
  if o.args.isEmpty then misuse c "missing operand" 1
  else
    eachOperand c
      (fun path v =>
        match v.place path true with
        | .ok p =>
          if o.has 'e' && (v.files.node? p).isNone then
            v.fails s!"{path}: {FileError.notFound.reason}"
          else { files := v.files, output := [Text.Octets.ofText p.path ++ "\n"] }
        | .error e => v.fails s!"{path}: {e.reason}")
      0 o.args

/-- A template with letters for its last crosses. -/
def filledTemplate (n : Nat) (template : String) : String :=
  let crosses := (template.toList.reverse.takeWhile (· = 'X')).length
  let letters := (Nat.toDigits 36 (n * 7919 + 60466176)).reverse
  let filling := (List.replicate crosses 'a').zipIdx.map fun (c, i) => letters[i]?.getD c
  String.ofList (template.toList.take (template.length - crosses) ++ filling)

def mktemp : Tool := fun _ => withOptions
  { letters := "dp:qtu", names := [("directory", 'd'), ("tmpdir", 'p'), ("dry-run", 'u')] } 1
  fun c o => do
  let template := o.args.headD "tmp.XXXXXXXXXX"
  if (template.toList.reverse.takeWhile (· = 'X')).length < 3 then
    complain c s!"too few X's in template '{template}'"
    return 1
  else
    let directory := if o.args.isEmpty || o.has 't' || o.has 'p' then
        ((o.value? 'p').filter (!·.isEmpty)).orElse fun _ => c.valueOf? "TMPDIR"
      else some ""
    let template := Path.join (directory.getD "/tmp") template
    let kind := if o.has 'd' then "directory" else "file"
    let number ← Program.ask fun number w => number + w.clock
    let path := filledTemplate number template
    if o.has 'u' then
      Program.out (path ++ "\n")
      return 0
    else
      let ok ← effect c fun v =>
        let text := Text.Octets.readable path
        let made := if o.has 'd' then v.files.makeDirectory v.directory text
          else v.files.write v.directory text []
        match made with
        | .ok files => { files, output := [path ++ "\n"] }
        | .error e => v.fails s!"failed to create {kind} via template '{template}': {e.reason}"
      return if ok then 0 else 1

/-- Makes files as long as they should be. -/
def truncate : Tool := fun _ => withOptions
  { letters := "cor:s:", names := [("size", 's'), ("no-create", 'c')] } 1 fun c o => do
  match o.value? 's' with
  | none => misuse c "you must specify either '--size' or '--reference'" 1
  | some size =>
    let (relative, digits) := match size.toList with
      | '+' :: ds => (some true, ds)
      | '-' :: ds => (some false, ds)
      | ds => (none, ds)
    match Decimal.natural? digits with
    | none => misuse c s!"Invalid number: '{size}'" 1
    | some n =>
      if o.args.isEmpty then misuse c "missing file operand" 1
      else
        eachOperand c
          (fun path v =>
            let text := Text.Octets.readable path
            let content := ((v.files.read v.directory text).toOption).getD []
            let length := match relative with
              | some true => content.length + n
              | some false => content.length - n
              | none => n
            let new := content.take length ++ List.replicate (length - content.length) 0
            match v.files.write v.directory text new with
            | .ok files => { files }
            | .error e => v.fails s!"cannot open '{path}' for writing: {e.reason}")
          0 o.args

def unlink : Tool := fun _ => withOptions { letters := "" } 1 fun c o => do
  match o.args with
  | [path] =>
    eachOperand c
      (fun path v =>
        match v.find path false with
        | .ok (_, .directory) => v.fails s!"cannot unlink '{path}': {FileError.isDirectory.reason}"
        | .ok (p, node) =>
          if node.isRemovable then { files := v.files.erase p }
          else v.fails s!"cannot unlink '{path}': {FileError.permissionDenied.reason}"
        | .error e => v.fails s!"cannot unlink '{path}': {e.reason}")
      0 [path]
  | [] => misuse c "missing operand" 1
  | _ :: extra :: _ => misuse c s!"extra operand '{extra}'" 1

end ReleasePreview.Tools
