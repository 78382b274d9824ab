import ReleasePreview.Format.Print
import ReleasePreview.Shell.Builtin.Places
import ReleasePreview.Shell.Builtin.Signals
import ReleasePreview.Shell.Builtin.Variables
import ReleasePreview.Shell.Condition

/-! Builtins that write texts and test conditions. -/
namespace ReleasePreview.Shell.Builtin

def echo : Builtin := fun args => do
  let (ending, args) := if args.head? = some "-n" then ([], args.drop 1) else (['\n'], args)
  let (s, goesOn) := Format.unescaped (" ".intercalate args)
  Script.emit (String.ofList (if goesOn then s ++ ending else s))
  return 0

def complaintText : Format.Complaint → String
  | .notNumeric arg => s!"{arg}: expected numeric value"
  | .partlyNumeric arg => s!"{arg}: not completely converted"
  | .outOfRange arg => s!"{arg}: Numerical result out of range"

def printf : Builtin := fun args => do
  let (_, args) ← options "" args
  match args with
  | [] => Script.fail "usage: printf format [arg ...]"
  | format :: args =>
    let p := Format.printed format args
    Script.emit p.text
    p.complaints.forM fun c => Script.report (complaintText c)
    match p.halt with
    | some (.noConversion text) => Script.fail s!"{text}: invalid directive"
    | some .noLetter => Script.fail "missing format character"
    | _ => return if p.complaints.isEmpty then 0 else 1

/-- Tests a condition. -/
def condition : Builtin := fun args => do
  let facts ← Script.perform (Program.files fun files directory => { files, directory })
  match Condition.holds facts args with
  | .ok true => return 0
  | .ok false => return 1
  | .error message => Script.fail message

/-- Tests a condition up to a closing bracket. -/
def bracket : Builtin := fun args => do
  if args.getLast? = some "]" then condition args.dropLast else Script.fail "missing ]"

end ReleasePreview.Shell.Builtin

/-! What the name of a command stands for. -/
namespace ReleasePreview.Shell

/-- What a name stands for. -/
inductive Target where
  | function (body : Command)
  | builtin (name : String)
  /-- The program of a path. -/
  | program (path : String)
  | missing (why : FileError)

namespace Builtin

/-- The builtins that do not run other commands. -/
def table : List (String × Builtin) :=
  [(":", fun _ => return 0), ("true", fun _ => return 0), ("false", fun _ => return 1),
    ("[", bracket), ("alias", setAliases), ("bg", noJobControl), ("break", skipping .breaks),
    ("cd", changeDirectory), ("chdir", changeDirectory), ("continue", skipping .continues),
    ("echo", echo), ("exit", exit), ("export", exportAll), ("fg", noJobControl),
    ("getopts", nextOption), ("jobs", jobs), ("kill", kill),
    ("local", localAll), ("printf", printf), ("pwd", showDirectory), ("read", read),
    ("readonly", readonly), ("return", leaveFunction), ("set", set), ("shift", shift),
    ("test", condition), ("times", times), ("trap", trap), ("ulimit", limits), ("umask", mask),
    ("unalias", removeAliases), ("unset", unset), ("wait", wait)]

/-- The builtins that run other commands or look them up. -/
def others : List String := [".", "command", "eval", "exec", "hash", "type"]

/-- The builtins whose mistakes end the shell. -/
def special : List String :=
  [".", ":", "break", "continue", "eval", "exec", "exit", "export", "local", "readonly", "return",
    "set", "shift", "times", "trap", "unset"]

/-- The builtins whose arguments are assignments. -/
def assigning : List String := ["alias", "export", "local", "readonly"]

def isBuiltin (name : String) : Bool := (table.lookup name).isSome || others.contains name

end Builtin

/-- The directories that programs are looked for in. -/
def State.searchPath (s : State) : String :=
  (s.directories.or (s.value? "PATH")).getD ProgramCall.usualDirectories

/-- The path of a program by its name. -/
def findProgram (directories name : String) (t : FileTree) (directory : Place) : Target :=
  let found := (ProgramCall.candidates directories name).map fun path =>
    (path, (t.find directory (Text.Octets.readable path)).toOption)
  match found.find? fun (_, node) => node matches some (.file _ { executable := true, .. }) with
  | some (path, _) => .program path
  | none => .missing (if found.any (·.2.isSome) then .permissionDenied else .notFound)

/-- What a name stands for. Functions are passed over if they are not wanted. -/
def locate (functions : Bool) (name : String) : Script Target := do
  let s ← get
  match (if functions then s.functions.lookup name else none) with
  | some body => return .function body
  | none =>
    if Builtin.isBuiltin name then return .builtin name
    else if name.toList.contains '/' then return .program name
    else Script.perform (Program.files (findProgram s.searchPath name))

namespace Builtin

/-- The path of a program that is there. -/
def presentPath (path : String) : Script (Option String) := Script.perform <|
  Program.files fun t directory =>
    match t.find directory (Text.Octets.readable path) with
    | .ok (.file _ { executable := true, .. }) => some path
    | _ => none

/-- Remembers where a program has been found. -/
def remember (name path : String) : Script Unit :=
  modify fun s => { s with found := (name, path) :: s.found.filter (·.1 ≠ name) }

/-- Shows or forgets the programs that have been found, or looks for programs. -/
def hash : Builtin := fun args => do
  let (options, names) ← options "r" args
  if !options.isEmpty then
    modify fun s => { s with found := [] }
    return 0
  else if names.isEmpty then
    (← get).found.forM fun (_, path) => Script.emit (path ++ "\n")
    return 0
  else
    let missing ← names.filterM fun name => do
      match ← locate true name with
      | .missing _ =>
        Script.report s!"{name}: not found"
        return true
      | .program path =>
        if path ≠ name then remember name path
        return false
      | _ => return false
    return if missing.isEmpty then 0 else 1

/-- Says what a name stands for: in words, or shortly as it can be called. -/
def describe (inWords : Bool) (name : String) : Script Nat := do
  let tell (words short : String) : Script Nat := do
    Script.emit ((if inWords then s!"{name} {words}" else short) ++ "\n")
    return 0
  let missing : Script Nat := do
    if inWords then Script.emit s!"{name}: not found\n"
    return 127
  if Token.keywords.contains name then tell "is a shell keyword" name
  else
    match (← get).aliases.lookup name with
    | some text => tell s!"is an alias for {text}" s!"alias {name}={quoted text}"
    | none =>
      match ← locate true name with
      | .function _ => tell "is a shell function" name
      | .builtin _ =>
        tell (if special.contains name then "is a special shell builtin" else "is a shell builtin")
          name
      | .program path =>
        match ← presentPath path with
        | some path =>
          let isFound := (← get).found.any (·.1 = name)
          tell (if isFound then s!"is a tracked alias for {path}" else s!"is {path}") path
        | none => missing
      | .missing _ => missing

/-- Describes names up to the end. Gives the last failure. -/
def describeAll (inWords : Bool) (status : Nat) : List String → Script Nat
  | [] => return status
  | name :: names => do
    let n ← describe inWords name
    describeAll inWords (if n = 0 then status else n) names

end Builtin

end ReleasePreview.Shell
