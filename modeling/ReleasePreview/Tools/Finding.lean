import ReleasePreview.Regex.Parse
import ReleasePreview.Text.Pattern
import ReleasePreview.Tools.Listing
import ReleasePreview.Tools.Running

/-! The search for nodes below some paths. -/
namespace ReleasePreview.Tools.Finding

/-- What is asked of a node, and what is done with it. All of them say yes or no. -/
inductive Criterion where
  | always (answer : Bool)
  | name (folds : Bool) (pattern : String)
  | path (folds : Bool) (pattern : String)
  | target (folds : Bool) (pattern : String)
  | expression (e : Regex.Expression) (folds : Bool)
  | kind (letters : List Char)
  | empty
  | size (relation : Ordering) (count unit : Nat)
  | permissions (mode : Nat) (some_ all : Bool)
  | prune
  | quit
  | print (ending : String)
  | format (text : String)
  | delete
  /-- Runs a program with the path in the place of each mark. -/
  | run (words : List String) (inside : Bool)
  /-- Keeps the path for a program that is run in the end. -/
  | keep (words : List String)
  | negated (a : Criterion)
  | both (a b : Criterion)
  | either (a b : Criterion)
  | afterwards (a b : Criterion)

/-- A word of the search. -/
inductive Word where
  | opens
  | closes
  | negates (shown : String)
  | joins (shown : String)
  | criterion (c : Criterion) (name : String)

/-- What holds for the search as a whole. -/
structure Limits where
  least : Nat := 0
  most : Option Nat := none
  /-- What is in a directory comes before it. -/
  isDeep : Bool := false
  /-- Links are followed. -/
  follows : Bool := false
  /-- Links that are operands are followed. -/
  followsOperands : Bool := false

/-- Whether a word begins the search rather than stands for a path. -/
def looksLikeWord (isFirst : Bool) (arg : String) : Bool :=
  match arg.toList with
  | '-' :: _ :: _ => true
  | [')'] | [','] => !isFirst
  | ['!'] | ['('] => true
  | _ => false

/-- A number with a sign for a relation. -/
def bound? (s : String) : Option (Ordering × Nat × List Char) := do
  let (relation, ds) : Ordering × List Char := match s.toList with
    | '+' :: ds => (.gt, ds)
    | '-' :: ds => (.lt, ds)
    | ds => (.eq, ds)
  let digits := ds.takeWhile Decimal.isDigit
  return (relation, ← Decimal.natural? digits, ds.drop digits.length)

def sizeOf (s : String) : Except String Criterion :=
  match bound? s with
  | none => .error s!"Invalid argument \x60{s}' to -size"
  | some (relation, n, unit) =>
    match unit with
    | [] | ['b'] => .ok (.size relation n 512)
    | ['c'] => .ok (.size relation n 1)
    | ['w'] => .ok (.size relation n 2)
    | ['k'] => .ok (.size relation n 1024)
    | ['M'] => .ok (.size relation n 1048576)
    | ['G'] => .ok (.size relation n 1073741824)
    | _ => .error s!"invalid -size type \x60{String.ofList unit}'"

/-- The permissions that a text stands for. -/
def permissionBits? (s : List Char) : Option Nat :=
  match s with
  | [] => none
  | c :: _ =>
    if Decimal.isDigit c then Decimal.positional? 8 s
    else
      (Text.split ',' s).foldlM
        (fun n clause =>
          let who := clause.takeWhile "ugoa".toList.contains
          match clause.drop who.length with
          | sign :: letters =>
            if !(['+', '-', '='].contains sign) || !letters.all "rwx".toList.contains then none
            else
              let bits := (if letters.contains 'r' then 4 else 0) +
                (if letters.contains 'w' then 2 else 0) + (if letters.contains 'x' then 1 else 0)
              let place (c : Char) : Nat :=
                if who.isEmpty || who.contains c || who.contains 'a' then bits else 0
              some (n ||| (place 'u' * 64 + place 'g' * 8 + place 'o'))
          | [] => none)
        0

def permissionsOf (s : String) : Except String Criterion :=
  let (some_, all, text) := match s.toList with
    | '-' :: text => (false, true, text)
    | '/' :: text => (true, false, text)
    | text => (false, false, text)
  match permissionBits? text with
  | some n => .ok (.permissions n some_ all)
  | none => .error ("invalid mode " ++ quotedName s)

/-- How expressions for paths are written, unless it is said. -/
def pathDialect (kind : String) : Regex.Dialect :=
  if ["posix-extended", "posix-egrep", "egrep", "posix-awk", "awk"].contains kind then
    { extended := true }
  else {}

/-- A text in which plain signs and those behind backslashes repeat alike. -/
def repeating : List Char → List Char
  | '\\' :: c :: s => '\\' :: c :: repeating s
  | '+' :: s => '\\' :: '+' :: repeating s
  | '?' :: s => '\\' :: '?' :: repeating s
  | c :: s => c :: repeating s
  | [] => []

def expressionOf (kind text : String) (folds : Bool) : Except String Criterion := do
  let d := pathDialect kind
  let s := if d.extended || kind = "posix-basic" || kind = "grep" || kind = "sed" then text.toList
    else repeating text.toList
  let (e, _) ← Regex.parse d s
  return .expression e folds

/-- The words of a program up to its end. -/
def programWords (name : String) : List String → Except String (Criterion × List String)
  | args => do
    let inside := name = "-execdir"
    let rec go (done : List String) : List String → Except String (Criterion × List String)
      | [] => .error s!"missing argument to \x60{name}'"
      | ";" :: args =>
        if done.isEmpty then .error s!"invalid argument \x60;' to \x60{name}'"
        else .ok (.run done.reverse inside, args)
      | "\x7b\x7d" :: "+" :: args =>
        match done.find? fun w => (w.splitOn "\x7b\x7d").length ≠ 1 with
        | some _ => .error s!"Only one instance of \x7b\x7d is supported with {name} ... +"
        | none => .ok (.keep done.reverse, args)
      | word :: "+" :: args =>
        if (word.splitOn "\x7b\x7d").length = 1 then go (word :: done) ("+" :: args)
        else
          let rule := "the '\x7b\x7d' must appear by itself, but you specified"
          .error (s!"In '{name} ... \x7b\x7d +' {rule} " ++ quotedName word)
      | word :: args => go (word :: done) args
    go [] args

/-- What has been read of the search. -/
structure Reading where
  limits : Limits := {}
  words : List Word := []
  kind : String := "emacs"

def hasValue (name : String) : Bool :=
  ["-name", "-iname", "-path", "-ipath", "-wholename", "-iwholename", "-lname", "-ilname", "-regex",
    "-iregex", "-regextype", "-type", "-xtype", "-size", "-perm", "-maxdepth", "-mindepth",
    "-printf", "-user", "-group", "-uid", "-gid", "-links", "-mtime", "-atime", "-ctime", "-mmin",
    "-amin", "-cmin", "-newer"].contains name

/-- A criterion that has a value. -/
def valued (r : Reading) (name value : String) : Except String (Criterion × Reading) :=
  let plain (c : Criterion) : Except String (Criterion × Reading) := .ok (c, r)
  let depth (f : Nat → Limits) : Except String (Criterion × Reading) :=
    match Decimal.natural? value.toList with
    | some n => .ok (.always true, { r with limits := f n })
    | none =>
      .error s!"Expected a positive decimal integer argument to {name}, but got '{value}'"
  let age (now : Nat) : Except String (Criterion × Reading) :=
    match bound? value with
    | some (relation, n, []) => plain (.always (compare now n = relation))
    | _ => .error s!"invalid argument \x60{value}' to \x60{name}'"
  match name with
  | "-name" => plain (.name false value)
  | "-iname" => plain (.name true value)
  | "-path" | "-wholename" => plain (.path false value)
  | "-ipath" | "-iwholename" => plain (.path true value)
  | "-lname" => plain (.target false value)
  | "-ilname" => plain (.target true value)
  | "-regex" => (expressionOf r.kind value false).map (·, r)
  | "-iregex" => (expressionOf r.kind value true).map (·, r)
  | "-regextype" => .ok (.always true, { r with kind := value })
  | "-type" | "-xtype" =>
    let letters := ((Text.split ',' value.toList).flatten)
    match letters.find? fun c => !(['b', 'c', 'd', 'p', 'f', 'l', 's'].contains c) with
    | some _ => .error s!"Unknown argument to {name}: {value}"
    | none => plain (.kind letters)
  | "-size" => (sizeOf value).map (·, r)
  | "-perm" => (permissionsOf value).map (·, r)
  | "-maxdepth" => depth fun n => { r.limits with most := some n }
  | "-mindepth" => depth fun n => { r.limits with least := n }
  | "-printf" => plain (.format value)
  | "-user" | "-group" | "-uid" | "-gid" => plain (.always (value = "root" || value = "0"))
  | "-links" => age 1
  | "-mmin" | "-amin" | "-cmin" => age (if value.startsWith "-" then 0 else 1)
  | "-newer" => plain (.always false)
  | _ => age 0

/-- A criterion without a value; `none` if the name is not known. -/
def unvalued? (r : Reading) (name : String) : Option (Criterion × Reading) :=
  let plain (c : Criterion) : Option (Criterion × Reading) := some (c, r)
  match name with
  | "-empty" => plain .empty
  | "-true" | "-readable" | "-writable" | "-noleaf" | "-xdev" | "-mount" | "-daystart" | "-warn"
    | "-nowarn" | "-ignore_readdir_race" | "-noignore_readdir_race" => plain (.always true)
  | "-false" | "-nouser" | "-nogroup" => plain (.always false)
  | "-executable" => plain (.permissions 73 true false)
  | "-prune" => plain .prune
  | "-quit" => plain .quit
  | "-print" => plain (.print "\n")
  | "-print0" => plain (.print "\x00")
  | "-delete" => some (.delete, { r with limits := { r.limits with isDeep := true } })
  | "-depth" | "-d" => some (.always true, { r with limits := { r.limits with isDeep := true } })
  | "-follow" => some (.always true, { r with limits := { r.limits with follows := true } })
  | _ => none

/-- Whether one more word joins on to those before. -/
def endsOperand : List Word → Bool
  | .criterion _ _ :: _ | .closes :: _ => true
  | _ => false

/-- Adds a word. What stands side by side is joined. -/
def Reading.add (r : Reading) (w : Word) : Reading :=
  let begins := match w with
    | .closes | .joins _ => false
    | _ => true
  let words := if begins && endsOperand r.words then .joins "-a" :: r.words else r.words
  { r with words := w :: words }

/-- Reads the words of a search, with the complaints if there is something wrong. The fuel is their
number. -/
def readWords (isThere : String → Bool) : (fuel : Nat) → Reading → List String →
    Except (List String) Reading
  | 0, r, _ => .ok r
  | _, r, [] => .ok r
  | fuel + 1, r, arg :: args =>
    let go := readWords isThere fuel
    if !looksLikeWord false arg then
      let hint := match r.words with
        | .criterion _ name :: _ =>
          if isThere arg then [s!"possible unquoted pattern after predicate \x60{name}'?"] else []
        | _ => []
      .error (s!"paths must precede expression: \x60{arg}'" :: hint)
    else
      let name := if arg.startsWith "--" then String.ofList (arg.toList.drop 1) else arg
      match arg with
      | "(" => go (r.add .opens) args
      | ")" => go (r.add .closes) args
      | "!" | "-not" => go (r.add (.negates arg)) args
      | "-a" | "-and" | "-o" | "-or" | "," => go (r.add (.joins arg)) args
      | "-exec" | "-execdir" | "-ok" | "-okdir" =>
        match programWords arg args with
        | .error e => .error [e]
        | .ok (c, rest) =>
          let c := if arg = "-ok" || arg = "-okdir" then .always false else c
          go (r.add (.criterion c arg)) rest
      | _ =>
        if hasValue name then
          match args with
          | [] => .error [s!"missing argument to \x60{arg}'"]
          | value :: args =>
            match valued r name value with
            | .error e => .error [e]
            | .ok (c, r) => go (r.add (.criterion c arg)) args
        else
          match unvalued? r name with
          | some (c, r) => go (r.add (.criterion c arg)) args
          | none => .error [s!"unknown predicate \x60{arg}'"]

/-- How tightly a word joins: not at all, in a list, to choose, or at once. -/
def tightness (shown : String) : Nat :=
  match shown with
  | "," => 1
  | "-o" | "-or" => 2
  | _ => 3

def joined (shown : String) (a b : Criterion) : Criterion :=
  match tightness shown with
  | 1 => .afterwards a b
  | 2 => .either a b
  | _ => .both a b

mutual

/-- Reads an operand. -/
def operand (before : String) : (fuel : Nat) → List Word → Except String (Criterion × List Word)
  | 0, _ => .error "invalid expression"
  | _, [] => .error s!"expected an expression after '{before}'"
  | _ + 1, .criterion c _ :: ws => .ok (c, ws)
  | _ + 1, .joins shown :: _ =>
    let rule := "invalid expression; you have used a binary operator"
    .error s!"{rule} '{shown}' with nothing before it."
  | _ + 1, .closes :: _ =>
    if before.isEmpty then .error "you have too many ')'"
    else .error s!"expected an expression between '{before}' and ')'"
  | fuel + 1, .negates shown :: ws => do
    let (c, ws) ← operand shown fuel ws
    return (.negated c, ws)
  | _ + 1, [.opens] =>
    let rule := "invalid expression; expected to find a ')' but didn't see one."
    .error s!"{rule} Perhaps you need an extra predicate after '('"
  | _ + 1, .opens :: .closes :: _ =>
    .error "invalid expression; empty parentheses are not allowed."
  | fuel + 1, .opens :: ws => do
    let (c, ws) ← operators 0 "" fuel ws
    match ws with
    | .closes :: ws => return (c, ws)
    | _ =>
      .error "invalid expression; I was expecting to find a ')' somewhere but did not see one."

/-- Reads operands with what joins them more tightly than a level. -/
def operators (level : Nat) (before : String) :
    (fuel : Nat) → List Word → Except String (Criterion × List Word)
  | 0, _ => .error "invalid expression"
  | fuel + 1, ws => do
    let (c, ws) ← operand before fuel ws
    continued level c fuel ws

/-- Reads what is joined to an operand. -/
def continued (level : Nat) (c : Criterion) :
    (fuel : Nat) → List Word → Except String (Criterion × List Word)
  | 0, _ => .error "invalid expression"
  | fuel + 1, .joins shown :: ws => do
    if tightness shown ≤ level then return (c, .joins shown :: ws)
    else
      let (d, ws) ← operators (tightness shown) shown fuel ws
      continued level (joined shown c d) fuel ws
  | _ + 1, ws => return (c, ws)

end

namespace Criterion

/-- Whether something is done, so that paths need not be written. -/
def acts : Criterion → Bool
  | print _ | format _ | delete | run _ _ | keep _ => true
  | negated a => a.acts
  | both a b | either a b | afterwards a b => a.acts || b.acts
  | _ => false

/-- The programs that are run in the end. -/
def programs : Criterion → List (List String)
  | keep words => [words]
  | negated a => a.programs
  | both a b | either a b | afterwards a b => a.programs ++ b.programs
  | _ => []

end Criterion

/-- The criterion of a search. Paths are written if nothing else is done. -/
def criterionOf (ws : List Word) : Except String Criterion := do
  if ws.isEmpty then return .print "\n"
  let (c, rest) ← operators 0 "" (3 * ws.length + 3) ws
  if !rest.isEmpty then throw "you have too many ')'"
  return if c.acts then c else .both c (.print "\n")

/-- A node that has been found. -/
structure Found where
  /-- The operand that it was found below. -/
  start : String
  path : String
  depth : Nat
  place : Place
  node : FileNode

/-- How a search goes on. -/
structure Progress where
  status : Nat := 0
  /-- What is in the directory is left out. -/
  prunes : Bool := false
  hasQuit : Bool := false
  /-- Words of programs, and the paths that they are run with, backwards. -/
  kept : List (List String × List String) := []

/-- A pattern as names are matched with. A caret turns a set around. -/
def turned : List (Char × Bool) → List (Char × Bool)
  | ('[', false) :: ('^', false) :: s => ('[', false) :: ('!', false) :: turned s
  | c :: s => c :: turned s
  | [] => []

def fits (folds : Bool) (pattern text : String) : Bool :=
  let lower (s : String) : String := if folds then s.toLower else s
  let p := turned (Text.marked (lower pattern).toList)
  Text.matchesPattern (Text.patternOf (p.length + 1) p) (lower text).toList

/-- The size of a node in bytes. -/
def sizeOfNode : FileNode → Nat
  | .directory => 4096
  | .file content _ => content.length
  | .link target => target.utf8ByteSize

def permissionsOfNode : FileNode → Nat
  | .directory => 493
  | .file _ mode =>
    (if mode.readable then 420 else 128) + if mode.executable then 73 else 0
  | .link _ => 511

def letterOf : FileNode → Char
  | .directory => 'd'
  | .file _ _ => 'f'
  | .link _ => 'l'

/-- The path of a node below its operand. -/
def Found.lower (f : Found) : String :=
  let rest := f.path.toList.drop f.start.length
  String.ofList (if rest.head? = some '/' then rest.drop 1 else rest)

def Found.directory (f : Found) : String :=
  let front := (f.path.toList.reverse.dropWhile (· = '/')).dropWhile (· ≠ '/')
  match front with
  | [] => "."
  | ['/'] => ""
  | _ :: front => String.ofList front.reverse

/-- What a letter stands for in the text that is written for a node. -/
def directive (f : Found) (c : Char) : Option String :=
  match c with
  | 'p' => some f.path
  | 'f' => some (lastName f.path)
  | 'h' => some f.directory
  | 'P' => some f.lower
  | 'H' => some f.start
  | 'd' => some (toString f.depth)
  | 's' => some (toString (sizeOfNode f.node))
  | 'y' => some (String.singleton (letterOf f.node))
  | 'm' => some (String.ofList (Nat.toDigits 8 (permissionsOfNode f.node)))
  | 'l' => some (match f.node with
    | .link target => Text.Octets.ofText target
    | _ => "")
  | 'u' | 'g' => some "root"
  | 'U' | 'G' => some "0"
  | 'n' => some "1"
  | '%' => some "%"
  | _ => none

/-- The text that is written for a node. The fuel is the length of the format. -/
def formatted (f : Found) : (fuel : Nat) → List Char → List Char
  | 0, _ => []
  | _, [] => []
  | fuel + 1, '%' :: c :: s =>
    ((directive f c).map (·.toList)).getD ['%', c] ++ formatted f fuel s
  | fuel + 1, '\\' :: c :: s =>
    if c = 'c' then []
    else
      let (char, rest) := Format.escape (c :: s)
      (if char = '\\' && c ≠ '\\' && rest.length = s.length + 1 then ['\\'] else [char]) ++
        formatted f fuel rest
  | fuel + 1, c :: s => c :: formatted f fuel s

/-- Runs a program. Gives whether it went well. -/
def runs (launch : Launcher) (c : ProgramCall) (words : List String) (directory : Option Place) :
    Program Bool := do
  let child ← Program.fork do
    match directory with
    | some p => Program.tell fun number w => w.change number fun r => { r with directory := p }
    | none => pure ()
    let e ← Program.become launch { c with name := words.headD "", args := words.drop 1 }
    complain c (quotedName (words.headD "") ++ ": " ++ e.reason)
    return 1
  return (← Program.join child) = .exited 0

/-- Removes a node. Gives whether that could be done. -/
def removes (c : ProgramCall) (f : Found) : Program Bool := do
  if f.path = "." then return true
  else effect c fun v =>
    if f.node = .directory && !(v.files.children f.place).isEmpty then
      v.fails s!"cannot delete '{f.path}': {FileError.notEmpty.reason}"
    else if f.node.isRemovable then { files := v.files.erase f.place }
    else v.fails s!"cannot delete '{f.path}': {FileError.permissionDenied.reason}"

abbrev Search := StateT Progress Program

def withMark (path word : String) : String :=
  String.ofList (substituted "\x7b\x7d".toList path.toList (word.length + 1) word.toList)

/-- Asks a criterion of a node. -/
def asked (launch : Launcher) (c : ProgramCall) (f : Found) : Criterion → Search Bool
  | .always answer => return answer
  | .name folds pattern => return fits folds pattern (lastName f.path)
  | .path folds pattern => return fits folds pattern f.path
  | .target folds pattern => return match f.node with
    | .link target => fits folds pattern (Text.Octets.ofText target)
    | _ => false
  | .expression e folds =>
    let t : Regex.Subject := { text := f.path.toList.toArray, foldsCase := folds }
    return (e.ends t [0]).contains t.size
  | .kind letters => return letters.contains (letterOf f.node)
  | .empty =>
    match f.node with
    | .directory => Program.files fun t _ => (t.children f.place).isEmpty
    | .file content _ => return content.isEmpty
    | .link _ => return false
  | .size relation count unit =>
    return compare ((sizeOfNode f.node + unit - 1) / unit) count = relation
  | .permissions mode some_ all =>
    let n := permissionsOfNode f.node
    return if some_ then mode = 0 || n &&& mode ≠ 0 else if all then n &&& mode = mode else n = mode
  | .prune => do
    modify fun s => { s with prunes := true }
    return true
  | .quit => do
    modify fun s => { s with hasQuit := true }
    return true
  | .print ending => do
    Program.out (f.path ++ ending)
    return true
  | .format text => do
    writeAll [formatted f (text.length + 1) text.toList]
    return true
  | .delete => do
    let ok ← removes c f
    if !ok then modify fun s => { s with status := 1 }
    return ok
  | .run words inside =>
    if inside then
      runs launch c (words.map (withMark ("./" ++ lastName f.path))) (some f.place.dropLast)
    else runs launch c (words.map (withMark f.path)) none
  | .keep words => do
    modify fun s =>
      let paths := (s.kept.lookup words).getD []
      { s with kept := (words, f.path :: paths) :: s.kept.filter (·.1 ≠ words) }
    return true
  | .negated a => return !(← asked launch c f a)
  | .both a b => do
    if (← asked launch c f a) && !(← get).hasQuit then asked launch c f b else return false
  | .either a b => do
    if (← asked launch c f a) || (← get).hasQuit then return true else asked launch c f b
  | .afterwards a b => do
    let _ ← asked launch c f a
    asked launch c f b

/-- Goes over a node and what is below it. The fuel is how deep. -/
def visit (launch : Launcher) (c : ProgramCall) (limits : Limits) (criterion : Criterion) :
    (fuel : Nat) → Found → Search Unit
  | 0, _ => return
  | fuel + 1, f => do
    let ask : Search Unit := do
      if limits.least ≤ f.depth && !(← get).hasQuit then
        modify fun s => { s with prunes := false }
        discard (asked launch c f criterion)
    if !limits.isDeep then ask
    let s ← get
    let goesDown := f.node = .directory && limits.most.all (f.depth < ·) &&
      (limits.isDeep || !s.prunes) && !s.hasQuit
    modify fun s => { s with prunes := false }
    if goesDown then
      let names? ← Program.files fun t _ => (t.node? f.place).map fun _ => t.children f.place
      match names? with
      | none =>
        complain c s!"'{f.path}': {FileError.notFound.reason}"
        modify fun s => { s with status := 1 }
      | some names =>
        (names.mergeSort fun a b => a ≤ b).forM fun name => do
          if (← get).hasQuit then return
          let path := (if f.path.endsWith "/" then f.path else f.path ++ "/") ++
            Text.Octets.ofText name
          let found ← Program.files fun t _ => do
            let link ← t.node? (f.place ++ [name])
            match link, t.resolve f.place name limits.follows with
            | .link _, .ok p => return (((t.node? p).map fun node => (p, node)).getD
                (f.place ++ [name], link))
            | _, _ => return (f.place ++ [name], link)
          match found with
          | none => return
          | some (place, node) =>
            visit launch c limits criterion fuel
              { start := f.start, path, depth := f.depth + 1, place, node }
    if limits.isDeep then ask

/-- Goes over the operands. -/
def search (launch : Launcher) (c : ProgramCall) (limits : Limits) (criterion : Criterion) :
    List String → Search Unit
  | [] => return
  | path :: paths => do
    let follows := limits.follows || limits.followsOperands
    let found ← Program.files fun files directory =>
      let v : View := ⟨files, directory⟩
      match if follows then v.find path true else .error .notFound with
      | .ok found => Except.ok found
      | .error _ => v.find path (path.endsWith "/")
    match found with
    | .error e =>
      complain c s!"'{path}': {e.reason}"
      modify fun s => { s with status := 1 }
    | .ok (place, node) =>
      visit launch c limits criterion maxDepth { start := path, path, depth := 0, place, node }
    if !(← get).hasQuit then search launch c limits criterion paths

/-- Runs the programs that paths were kept for. -/
def finish (launch : Launcher) (c : ProgramCall) : List (List String) → Search Unit
  | [] => return
  | words :: rest => do
    match (← get).kept.lookup words with
    | some paths =>
      if !(← runs launch c (words ++ paths.reverse) none) then
        modify fun s => { s with status := 1 }
    | none => return
    finish launch c rest

/-- Options in front of the operands. -/
def options : Limits → List String → Limits × List String
  | limits, "-L" :: args => options { limits with follows := true } args
  | limits, "-H" :: args => options { limits with followsOperands := true } args
  | limits, "-P" :: args => options { limits with follows := false, followsOperands := false } args
  | limits, "--" :: args => (limits, args)
  | limits, args => (limits, args)

end Finding

open Finding in
/-- Finds nodes and does something with them. -/
def find : Tool := fun launch c => do
  let (limits, args) := options {} c.args
  let paths := args.takeWhile (!looksLikeWord true ·)
  let rest := args.drop paths.length
  let there ← Program.files fun files directory =>
    rest.filter fun arg => ((⟨files, directory⟩ : View).find arg false).toOption.isSome
  match readWords there.contains (rest.length + 1) { limits } rest with
  | .error messages =>
    messages.forM (complain c)
    return 1
  | .ok r =>
    match criterionOf r.words.reverse with
    | .error message =>
      complain c message
      return 1
    | .ok criterion =>
      let work : Search Unit := do
        search launch c r.limits criterion (if paths.isEmpty then ["."] else paths)
        finish launch c criterion.programs
      let (_, s) ← work.run {}
      return s.status

end ReleasePreview.Tools
