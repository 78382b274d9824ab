import ReleasePreview.Awk.Run

/-! The program on the command line: its options, and the run of its rules. -/
namespace ReleasePreview.Awk

/-- What the options ask for. -/
structure Settings where
  separator : Option String := none
  /-- Variables and values, in order. -/
  assignments : List (String × String) := []
  files : List String := []
  args : List String := []

/-- The settings of arguments, or what is wrong with them. -/
def Settings.read : (fuel : Nat) → Settings → List String → Except String Settings
  | 0, s, args => .ok { s with args }
  | _, s, [] => .ok s
  | fuel + 1, s, arg :: args =>
    match arg.toList with
    | ['-', '-'] => .ok { s with args }
    | '-' :: letter :: rest =>
      if !(['F', 'f', 'v'].contains letter) then .error s!"not an option: {arg}"
      else
        let found : Option (String × List String) := match rest, args with
          | [], value :: args => some (value, args)
          | [], [] => none
          | value, args => some (String.ofList value, args)
        match found with
        | none => .error s!"option -{letter} lacks argument"
        | some (value, args) =>
          if letter = 'F' then
            read fuel { s with separator := some (Lexing.unescaped value.toList) } args
          else if letter = 'f' then read fuel { s with files := s.files ++ [value] } args
          else match Running.assignment? value with
            | some a => read fuel { s with assignments := s.assignments ++ [a] } args
            | none => .error s!"improper assignment: -v {value}"
    | _ => .ok { s with args := arg :: args }

/-- The text of a fault. -/
def Fault.text (place : String) : Fault → String
  | .at line message => s!"{place}line {line}: {message}"
  | .stranger c => s!"1: unexpected character {Lexing.strange c}"

/-- The text of some files, or what is wrong with one of them. -/
def sourceOf : List String → ReleasePreview.Program (Except String (List Char))
  | [] => return .ok []
  | path :: paths => do
    let opened ← if path = "-" then pure (.ok 0) else Tools.openNew path .reading
    match opened with
    | .error e => return .error s!"cannot open \"{path}\" ({e.reason})"
    | .ok d =>
      let r ← Program.readAll d
      if d ≠ 0 then Program.close d
      match r with
      | .error e => return .error s!"cannot open \"{path}\" ({e.reason})"
      | .ok bytes =>
        match ← sourceOf paths with
        | .error e => return .error e
        | .ok rest => return .ok ((Text.Octets.ofBytes bytes).toList ++ '\n' :: rest)

namespace Running

/-- Does what rules say for which there is no record. -/
def edges (pattern : RulePattern → Bool) : List Rule → Running Unit
  | [] => return
  | r :: rules => do
    if pattern r.pattern then execute Program.fuel (r.action.getD .nothing)
    edges pattern rules

/-- The record is in a range, by the place of its rule. -/
def isInRange (place : Nat) (start stop : Running Bool) : Running Bool := do
  let isIn ← if (← get).begun.contains place then pure true else start
  if !isIn then return false
  let ends ← stop
  modify fun s =>
    let others := s.begun.filter (· ≠ place)
    { s with begun := if ends then others else place :: others }
  return true

/-- Does what rules say for the record. -/
def apply : (place : Nat) → List Rule → Running Unit
  | _, [] => return
  | place, r :: rules => do
    let holds (a : Expression) : Running Bool := do
      return (← evaluate Program.fuel a).isTrue
    let isFor ← match r.pattern with
      | .always => pure true
      | .before | .after => pure false
      | .when a => holds a
      | .range start stop => isInRange place (holds start) (holds stop)
    if isFor then execute Program.fuel (r.action.getD (.print [] none))
    apply (place + 1) rules

/-- Goes over the records. -/
def records (rules : List Rule) : (fuel : Nat) → Running Unit
  | 0 => return
  | fuel + 1 => do
    tick
    match ← nextRecord Program.fuel with
    | none => return
    | some record =>
      setField 0 (.input record)
      try apply 0 rules catch
        | .nextRecord => pure ()
        | .nextFile => closeInput
        | stop => throw stop
      records rules fuel

/-- Runs the rules of the program. -/
def all : Running Unit := do
  let rules := (← get).program.rules
  let isBefore : RulePattern → Bool
    | .before => true
    | _ => false
  let isAfter : RulePattern → Bool
    | .after => true
    | _ => false
  let reads := rules.any fun r => !isBefore r.pattern
  let unlessExit (act : Running Unit) : Running Bool := do
    try
      act
      return true
    catch
      | .exit => return false
      | stop => throw stop
  let goesOn ← unlessExit (edges isBefore rules)
  if goesOn && reads then discard (unlessExit (records rules Program.fuel))
  discard (unlessExit (edges isAfter rules))
  closeOutlets

end Running

/-- The machine before a program runs. -/
def Machine.start (launch : Launcher) (c : ProgramCall) (program : Program) (s : Settings) :
    Machine :=
  let args := c.name :: s.args
  let environment := c.environment.foldl
    (fun (t : Table) (name, value) => t.set (.text name) (.input value)) {}
  let values : List (Special × Value) :=
    [(.recordNumber, .number 0), (.fileRecordNumber, .number 0),
      (.fieldSeparator, .text (s.separator.getD " ")), (.outputFieldSeparator, .text " "),
      (.outputRecordSeparator, .text "\n"), (.recordSeparator, .text "\n"), (.fileName, .text ""),
      (.keySeparator, .text "\x1c"), (.matchStart, .number 0), (.matchLength, .number (-1)),
      (.conversionFormat, .text "%.6g"), (.outputFormat, .text "%.6g"),
      (.argumentCount, .number (Float.ofNat args.length))]
  let globals := Array.replicate program.names.size (Cell.unset none)
  let globals := values.foldl (fun cells (v, a) => cells.setIfInBounds v.number (.value a)) globals
  let globals := globals.setIfInBounds Special.environment.number (.table 0)
  let globals := globals.setIfInBounds Special.arguments.number (.table 1)
  let argumentTable := args.zipIdx.foldl
    (fun (t : Table) (arg, n) => t.set (.integer n) (.input arg)) {}
  { launch, call := c, program, globals, tables := #[environment, argumentTable] }

/-- Runs a program. -/
def run (launch : Launcher) (c : ProgramCall) (program : Program) (s : Settings) :
    ReleasePreview.Program Nat := do
  let whole : Running Unit := do
    s.assignments.forM fun (name, value) => Running.assignName name value
    Running.all
  let (_, after) ← (whole.run).run (Machine.start launch c program s)
  let (_, after) ← (Running.flush.run).run after
  return after.status

/-- The tool: settings first, then the program, then its run. -/
def awk (launch : Launcher) (c : ProgramCall) : ReleasePreview.Program Nat := do
  let refuse (message : String) : ReleasePreview.Program Nat := do
    Tools.complain c message
    return 2
  match Settings.read (c.args.length + 1) {} c.args with
  | .error message => refuse message
  | .ok s =>
    let separatorFault : Option String := do
      let separator ← s.separator
      if separator.length < 2 then none
      else match pattern separator with
        | .error fault => some s!"line 0: {patternComplaint fault separator}"
        | .ok _ => none
    if let some message := separatorFault then return ← refuse message
    let (place, source, s) ← match s.files, s.args with
      | [], text :: args =>
        pure ("", Except.ok (text.toList ++ ['\n']), { s with args })
      | [], [] => pure ("", Except.error "usage: awk [options] program [file ...]", s)
      | files, _ => do
        pure ((files.getLast?).getD "" ++ ": ", ← sourceOf files, s)
    match source with
    | .error message => refuse message
    | .ok text =>
      match parse text with
      | .error faults =>
        faults.forM fun f => Tools.complain c (f.text place)
        return 2
      | .ok program => run launch c program s

end ReleasePreview.Awk
