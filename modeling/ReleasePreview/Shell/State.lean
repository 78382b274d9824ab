import ReleasePreview.Decimal.Natural
import ReleasePreview.Process.Program
import ReleasePreview.Shell.Token

/-! What a shell keeps while it runs a script, and what its commands do with that. -/
namespace ReleasePreview.Shell

structure Binding where
  value : Option String := none
  isExported : Bool := false
  isReadonly : Bool := false
deriving Repr, DecidableEq

/-- What is left out behind a command: the rest of loops or of a function. -/
inductive Skip where
  | nothing
  | breaks (levels : Nat)
  | continues (levels : Nat)
  | returns
deriving Repr, DecidableEq

/-- Why a script goes no further. -/
inductive Stop where
  | ended
  /-- Something is wrong, which a builtin may keep to itself. -/
  | failed
deriving Repr, DecidableEq

/-- A command in the background: its processes, and what the last one of them has come to. -/
structure Job where
  id : Nat
  processes : List Nat
  text : String
  outcome : Option ProcessEnd := none

structure State where
  /-- The name of the script, and the line in it. -/
  script : String
  line : Nat := 1
  args : List String := []
  bindings : List (String × Binding) := []
  functions : List (String × Command) := []
  aliases : List (String × String) := []
  /-- Where programs are looked for instead of the usual places. -/
  directories : Option String := none
  /-- Programs that have been found by their names. -/
  found : List (String × String) := []
  /-- The permissions that new files are not given. -/
  mask : Nat := 18
  status : Nat := 0
  /-- The builtin that is at work. -/
  builtin : Option String := none
  options : List Char := []
  /-- Commands for signals, and for the end as number zero. -/
  traps : List (Nat × String) := []
  skip : Skip := .nothing
  loops : Nat := 0
  /-- The number of the shell itself, whatever runs for it. -/
  number : Nat := 0
  lastJob : Option Nat := none
  jobs : List Job := []
  documents : Array Word := #[]
  /-- What variables were before the function or command that has them for itself. -/
  locals : List (List (String × Option Binding)) := []
  depth : Nat := 0
  directory : String := "/"
  /-- The next argument to look for options in, and the place within the one before it. -/
  optionIndex : Nat := 1
  optionOffset : Nat := 0
  /-- What builtins have written and is still to go out. -/
  output : List String := []
  /-- The status of the last command that was substituted. -/
  substituted : Option Nat := none
  /-- The status from before a command for a signal or for the end. -/
  saved : Option Nat := none

/-- The work of a shell. -/
abbrev Script := ExceptT Stop (StateT State Program)

namespace Script

def perform {α : Type} (p : Program α) : Script α := ExceptT.lift (StateT.lift p)

/-- Writes a message that says where it comes from. -/
def report (message : String) : Script Unit := do
  let s ← get
  let builtin := s.builtin.elim "" fun name => s!"{name}: "
  perform (Program.err s!"{s.script}: {s.line}: {builtin}{message}")

/-- The status of a mistake. -/
def faultStatus : Nat := 2

def setStatus (status : Nat) : Script Unit := modify fun s => { s with status }

/-- Reports a mistake and stops. -/
def failWith {α : Type} (status : Nat) (message : String) : Script α := do
  report message
  setStatus status
  throw .failed

def fail {α : Type} (message : String) : Script α := failWith faultStatus message

/-- Writes to the standard output when the builtin has done its work. -/
def emit (s : String) : Script Unit := modify fun st => { st with output := s :: st.output }

def hasOption (letter : Char) : Script Bool := do return (← get).options.contains letter

end Script

namespace State

def value? (s : State) (name : String) : Option String :=
  (s.bindings.lookup name).bind (·.value)

/-- The shelf that a variable is kept on. -/
def shelf (name : String) : Nat :=
  let codes := name.toList.map (·.toNat)
  codes.foldl (· + ·) (16 * codes.headD 0) % 39

/-- The variables that programs are given: shelf after shelf, the oldest first. -/
def environment (s : State) : List (String × String) :=
  let given := s.bindings.reverse.filterMap fun (name, b) =>
    match b with
    | { value := some value, isExported := true, .. } => some (name, value)
    | _ => none
  given.mergeSort fun a b => shelf a.1 ≤ shelf b.1

/-- Changes a variable, or makes it. -/
def change (s : State) (name : String) (f : Binding → Binding) : State :=
  if (s.bindings.lookup name).isSome then
    { s with bindings := s.bindings.map fun (n, b) => if n = name then (n, f b) else (n, b) }
  else { s with bindings := (name, f {}) :: s.bindings }

/-- Puts a variable back to what it was. -/
def restore (s : State) (name : String) (b : Option Binding) : State :=
  match b with
  | some b => s.change name fun _ => b
  | none => { s with bindings := s.bindings.filter (·.1 ≠ name) }

/-- The characters that fields are split at. -/
def separators (s : State) : List Char := ((s.value? "IFS").getD " \t\n").toList

/-- What stands between parameters that are joined. -/
def joint (s : State) : List Char := s.separators.take 1

/-- The parameters joined. -/
def joined (s : State) : String := (String.ofList s.joint).intercalate s.args

end State

namespace Script

/-- A text that has to be a natural number. -/
def number (s : String) : Script Nat := do
  match Decimal.natural? s.toList with
  | some n => return n
  | none => fail s!"Illegal number: {s}"

/-- Gives a variable a value. -/
def assign (name value : String) : Script Unit := do
  let s ← get
  if !isName name then fail s!"{name}: bad variable name"
  if (s.bindings.lookup name).any (·.isReadonly) then fail s!"{name}: is read only"
  let exports := s.options.contains 'a'
  modify fun s => s.change name fun b =>
    { b with value := some value, isExported := b.isExported || exports }
  if name = "PATH" then modify fun s => { s with found := [] }
  if name = "OPTIND" then
    let i ← number value
    modify fun s => { s with optionIndex := max 1 i, optionOffset := 0 }

/-- Keeps what a variable is, to be put back behind the function or command at work. -/
def keep (name : String) : Script Unit := modify fun s =>
  match s.locals with
  | kept :: rest =>
    if (kept.lookup name).isSome then s
    else { s with locals := ((name, s.bindings.lookup name) :: kept) :: rest }
  | [] => s

/-- Says what has ended a process, unless that is no surprise. -/
def announce (outcome : ProcessEnd) : Script Unit := do
  match outcome with
  | .killed 2 => return
  | .killed 13 => return
  | .killed n => perform (Program.err (Signal.describe n))
  | .exited _ => return

/-- Has variables of its own. -/
def enterScope : Script Unit := modify fun s => { s with locals := [] :: s.locals }

def leaveScope : Script Unit := modify fun s =>
  match s.locals with
  | kept :: rest => kept.foldl (fun s (name, b) => s.restore name b) { s with locals := rest }
  | [] => s

/-- The signals that have come and are looked after. -/
def takeSignals : Script (List Nat) := perform <| Program.act fun number w =>
  let pending := ((w.record? number).map (·.pending)).getD []
  (if pending.isEmpty then w else w.change number fun r => { r with pending := [] }, pending)

/-- Writes what builtins have to say. -/
def flush : Script Unit := do
  let s ← get
  if !s.output.isEmpty then
    modify fun s => { s with output := [] }
    match ← perform (Program.put 1 (String.join s.output.reverse)) with
    | none => return
    | some _ =>
      report (s.builtin.elim "I/O error" fun name => s!"{name}: I/O error")
      setStatus 1

end Script

end ReleasePreview.Shell
