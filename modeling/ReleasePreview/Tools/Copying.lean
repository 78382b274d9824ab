import ReleasePreview.Tools.Nodes

/-! Copying and moving files and directories. -/
namespace ReleasePreview.Tools

/-- A path for a directory, which may not be there yet. -/
def directoryPath (path : String) : String :=
  match path.toList.reverse.dropWhile (· = '/') with
  | [] => path
  | s => String.ofList s.reverse

/-- How copies are made. -/
structure CopyMode where
  deep : Bool := false
  /-- Links in the operands are followed, and those below them. -/
  follows : Bool := true
  followsBelow : Bool := false
  /-- What is there already stays. -/
  keeps : Bool := false
  shows : Bool := false

/-- The nodes of a copy: a node and what is below it, at another place. -/
def copies (t : FileTree) (source target : Place) : List (Place × FileNode) :=
  (t.nodes.filter fun e => source.isPrefixOf e.1).map fun (p, node) =>
    (target ++ p.drop source.length, node)

/-- Puts a node where another one may be. A directory takes in what another one has; a file that is
there keeps its mode. -/
def putNode (t : FileTree) (p : Place) (node : FileNode) : FileTree :=
  match node, t.node? p with
  | .directory, some .directory => t
  | .file content _, some (.file _ mode) => t.set p (.file content mode)
  | node, _ => t.set p node

/-- The lines that show what is copied to where. -/
def shownCopies (v : View) (source : Place) (path destination : String) : List String :=
  let below := (copies v.files source []).map (·.1)
  let sorted := below.mergeSort fun a b => !(b.lex a fun x y => x < y)
  sorted.map fun p =>
    let rest := String.join (p.map fun name => "/" ++ Text.Octets.ofText name)
    s!"'{path}{rest}' -> '{destination}{rest}'\n"

def copyNode (m : CopyMode) (path destination : String) (v : View) : Effect :=
  match v.find path (m.follows || !m.deep) with
  | .error e => v.fails s!"cannot stat '{path}': {e.reason}"
  | .ok (source, node) =>
    if node = .directory && !m.deep then
      v.fails s!"-r not specified; omitting directory '{path}'"
    else
      let refuse (e : FileError) : Effect :=
        if node = .directory then v.fails s!"cannot create directory '{destination}': {e.reason}"
        else v.fails s!"cannot create regular file '{destination}': {e.reason}"
      let isLink : Bool := match node with
        | .link _ => true
        | _ => false
      let target := if node = .directory then directoryPath destination else destination
      match v.place target (!isLink) with
      | .error e => refuse e
      | .ok target =>
        if source = target then v.fails s!"'{path}' and '{destination}' are the same file"
        else if source.isPrefixOf target && node = .directory then
          let new := (copies v.files source target).filter fun e =>
            !target.isPrefixOf (source ++ e.1.drop target.length)
          { files := (new.foldr (fun (p, n) t => putNode t p n) v.files).set target .directory
            errors := [s!"cannot copy a directory, '{path}', into itself, '{destination}'"] }
        else if (Device.ofPlace? target).isSome then
          if Device.ofPlace? target = some .full then
            v.fails s!"error writing '{destination}': {FileError.noSpace.reason}"
          else v.unchanged
        else
          let slashAtEnd : Bool := destination.toList.getLast? = some '/'
          match node, v.files.node? target with
          | .directory, some (.file _ _) | .directory, some (.link _) =>
            v.fails s!"cannot overwrite non-directory '{destination}' with directory '{path}'"
          | _, some .directory =>
            if node = .directory then
              let new := copies v.files source target
              { files := new.foldr (fun (p, n) t => putNode t p n) v.files
                output := if m.shows then shownCopies v source path destination else [] }
            else v.fails s!"cannot overwrite directory '{destination}' with non-directory"
          | _, found =>
            if m.keeps && found.isSome then v.unchanged
            else if found.isNone && slashAtEnd && node ≠ .directory then refuse .notDirectory
            else
              let new := copies v.files source target
              { files := new.foldr (fun (p, n) t => putNode t p n) v.files
                output := if m.shows then shownCopies v source path destination else [] }

/-- Moves a node and everything below it. -/
def movedTree (t : FileTree) (source target : Place) : FileTree :=
  let moved := t.nodes.filter fun e => source.isPrefixOf e.1
  ⟨moved.map (fun e => (target ++ e.1.drop source.length, e.2)) ++
    ((t.eraseAll source).erase target).nodes⟩

def moveNode (keeps shows : Bool) (path destination : String) (v : View) : Effect :=
  match v.find path false with
  | .error e => v.fails s!"cannot stat '{path}': {e.reason}"
  | .ok (source, node) =>
    let slashAtEnd : Bool := destination.toList.getLast? = some '/'
    match v.place (if node = .directory then directoryPath destination else destination) false with
    | .error e => v.fails s!"cannot move '{path}' to '{destination}': {e.reason}"
    | .ok target =>
      let done : Effect :=
        { files := movedTree v.files source target
          moved := some (source, target)
          output := if shows then [s!"renamed '{path}' -> '{destination}'\n"] else [] }
      if source = target then v.fails s!"'{path}' and '{destination}' are the same file"
      else if source.isPrefixOf target then
        v.fails s!"cannot move '{path}' to a subdirectory of itself, '{destination}'"
      else if !node.isRemovable then
        v.fails s!"cannot move '{path}' to '{destination}': {FileError.permissionDenied.reason}"
      else
        match node, v.files.node? target with
        | .directory, some .directory =>
          if (v.files.children target).isEmpty then done
          else v.fails s!"cannot overwrite '{destination}': {FileError.notEmpty.reason}"
        | .directory, some _ =>
          v.fails s!"cannot overwrite non-directory '{destination}' with directory '{path}'"
        | _, some .directory =>
          v.fails s!"cannot overwrite directory '{destination}' with non-directory"
        | .directory, none => done
        | _, some _ => if keeps then v.unchanged else done
        | _, none =>
          if slashAtEnd then
            v.fails s!"cannot move '{path}' to '{destination}': {FileError.notDirectory.reason}"
          else done

/-- Takes operands to a target: a directory that they are put into, or a path for the only one. -/
def toTarget (c : ProgramCall) (o : Options) (act : String → String → View → Effect) :
    Program Nat := do
  let isDirectory (path : String) : Program Bool :=
    Program.files fun files directory => (View.mk files directory).isDirectory path
  let into (directory : String) (sources : List String) : Program Nat := do
    if ← isDirectory directory then
      eachOperand c (fun s => act s (below directory s)) 0 sources
    else
      let reason ← Program.files fun files directory' =>
        match (View.mk files directory').find directory true with
        | .ok _ => FileError.notDirectory.reason
        | .error e => e.reason
      complain c s!"target '{directory}': {reason}"
      return 1
  match o.value? 't', o.args.reverse with
  | some directory, sources => into directory sources.reverse
  | none, [] => misuse c "missing file operand" 1
  | none, [source] => misuse c s!"missing destination file operand after '{source}'" 1
  | none, [target, source] =>
    if !o.has 'T' && (← isDirectory target) then into target [source]
    else eachOperand c (fun s => act s target) 0 [source]
  | none, directory :: sources => into directory sources.reverse

/-- Copies what can only be read to a path. -/
def copyInput (c : ProgramCall) (path destination : String) : Program Nat := do
  match ← openNew path .reading with
  | .error e =>
    complain c s!"cannot stat '{path}': {e.reason}"
    return 1
  | .ok source =>
    match ← openNew destination .writing with
    | .error e =>
      complain c s!"cannot create regular file '{destination}': {e.reason}"
      return 1
    | .ok target =>
      match ← Program.readAll source with
      | .error e =>
        complain c s!"error reading '{path}': {e.reason}"
        return 1
      | .ok bytes =>
        match ← Program.write target bytes with
        | some e =>
          complain c s!"error writing '{destination}': {e.reason}"
          return 1
        | none => return 0

def cp : Tool := fun _ => withOptions
  { letters := "abdfHilLnprRst:TuvxP", names := [("archive", 'a'), ("recursive", 'r'),
      ("force", 'f'), ("no-clobber", 'n'), ("verbose", 'v'), ("target-directory", 't'),
      ("no-target-directory", 'T'), ("dereference", 'L'), ("no-dereference", 'P'),
      ("update", 'u')] } 1 fun c o =>
  let deep := o.has 'r' || o.has 'R' || o.has 'a'
  let mode : CopyMode := {
    deep := deep || o.has 'P' || o.has 'd'
    follows := !(deep || o.has 'P' || o.has 'd') || o.has 'L' || o.has 'H'
    keeps := o.has 'n'
    shows := o.has 'v' }
  match o.args with
  | [source, target] =>
    if (World.deviceDescriptor? source).isSome || source = "/dev/zero" then
      copyInput c source target
    else toTarget c o (copyNode mode)
  | _ => toTarget c o (copyNode mode)

def mv : Tool := fun _ => withOptions
  { letters := "bfint:Tuv", names := [("force", 'f'), ("no-clobber", 'n'), ("verbose", 'v'),
      ("target-directory", 't'), ("no-target-directory", 'T'), ("update", 'u')] } 1 fun c o =>
  toTarget c o (moveNode (o.has 'n') (o.has 'v'))

end ReleasePreview.Tools
