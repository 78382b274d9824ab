import ReleasePreview.Decimal.Natural
import ReleasePreview.Process.Program
import ReleasePreview.Text.Utf8

/-! What programs have in common: options, complaints, and reading their input. -/
namespace ReleasePreview.Tools

/-- What a program does. It gives its status, and may start other programs. -/
abbrev Tool := Launcher → ProgramCall → Program Nat

/-- Says something under the name of the program. -/
def complain (c : ProgramCall) (message : String) : Program Unit :=
  Program.err s!"{c.name}: {message}"

/-- A name in quotes, as it stands in a message. -/
def quotedName (name : String) : String := s!"'{name}'"

/-- Complains of the way a program is called. -/
def misuse (c : ProgramCall) (message : String) (status : Nat) : Program Nat := do
  complain c s!"{message}\nTry '{c.name} --help' for more information."
  return status

/-- The options of a program: letters, with colons behind those that have values, and longer names
for letters. -/
structure OptionTable where
  letters : String
  names : List (String × Char) := []
  /-- Options that may go without their values. These follow at once. -/
  optional : String := ""
  /-- Options may stand behind other arguments. -/
  anywhere : Bool := true

/-- Options with their values, and the other arguments. -/
structure Options where
  found : List (Char × String) := []
  args : List String := []

namespace Options

def has (o : Options) (letter : Char) : Bool := o.found.any (·.1 = letter)

/-- The value that is given last. -/
def value? (o : Options) (letter : Char) : Option String := o.found.reverse.lookup letter

def values (o : Options) (letter : Char) : List String :=
  (o.found.filter (·.1 = letter)).map (·.2)

def cons (letter : Char) (value : String) (o : Options) : Options :=
  { o with found := (letter, value) :: o.found }

end Options

namespace OptionTable

/-- Whether a letter is an option, and has a value. -/
def takesValue? (t : OptionTable) (letter : Char) : Option Bool :=
  match t.letters.toList.dropWhile (· ≠ letter) with
  | [] => none
  | _ :: ':' :: _ => if letter = ':' then none else some true
  | _ => if letter = ':' then none else some false

/-- The letter of a longer name, which may be cut short. -/
def named (t : OptionTable) (name : String) : Except String Char :=
  match t.names.find? (·.1 = name) with
  | some (_, letter) => .ok letter
  | none =>
    match t.names.filter fun n => n.1.startsWith name with
    | [(_, letter)] => .ok letter
    | [] => .error s!"unrecognized option '--{name}'"
    | _ => .error s!"option '--{name}' is ambiguous"

/-- The options among arguments, or what is wrong with them. The fuel is the length of the
arguments. -/
def readFrom (t : OptionTable) : (fuel : Nat) → (rest : List Char) → List String →
    Except String Options
  | 0, _, args => .ok { args }
  | _, [], [] => .ok {}
  | fuel + 1, c :: rest, args =>
    if t.optional.toList.contains c then
      (readFrom t fuel [] args).map (·.cons c (String.ofList rest))
    else match t.takesValue? c with
    | none => .error s!"invalid option -- '{c}'"
    | some false => (readFrom t fuel rest args).map (·.cons c "")
    | some true =>
      match rest, args with
      | [], [] => .error s!"option requires an argument -- '{c}'"
      | [], value :: args => (readFrom t fuel [] args).map (·.cons c value)
      | value, args => (readFrom t fuel [] args).map (·.cons c (String.ofList value))
  | fuel + 1, [], arg :: args =>
    match arg.toList with
    | ['-', '-'] => .ok { args }
    | '-' :: '-' :: long => do
      let name := long.takeWhile (· ≠ '=')
      let letter ← t.named (String.ofList name)
      let needsValue : Bool := t.takesValue? letter = some true
      let takesValue := needsValue || t.optional.toList.contains letter
      match long.drop name.length, args with
      | _ :: value, args =>
        if takesValue then (readFrom t fuel [] args).map (·.cons letter (String.ofList value))
        else .error s!"option '--{String.ofList name}' doesn't allow an argument"
      | [], value :: rest =>
        if needsValue then (readFrom t fuel [] rest).map (·.cons letter value)
        else (readFrom t fuel [] args).map (·.cons letter "")
      | [], [] =>
        if needsValue then .error s!"option '--{String.ofList name}' requires an argument"
        else (readFrom t fuel [] args).map (·.cons letter "")
    | '-' :: c :: rest => readFrom t fuel (c :: rest) args
    | _ =>
      if t.anywhere then (readFrom t fuel [] args).map fun o => { o with args := arg :: o.args }
      else .ok { args := arg :: args }

def read (t : OptionTable) (args : List String) : Except String Options :=
  t.readFrom ((args.map (·.length + 2)).foldl (· + ·) 1) [] args

end OptionTable

/-- A number of lines or bytes, with a letter for its unit. -/
def count? (s : List Char) : Option Nat := do
  let digits := s.takeWhile Decimal.isDigit
  let n ← Decimal.natural? digits
  match String.ofList (s.drop digits.length) with
  | "" => return n
  | "b" => return n * 512
  | "k" | "K" | "KiB" => return n * 1024
  | "kB" | "KB" => return n * 1000
  | "M" | "MiB" => return n * 1048576
  | "MB" => return n * 1000000
  | _ => none

/-- Does something with the options of a program, or says what is wrong with them. -/
def withOptions (t : OptionTable) (status : Nat) (act : ProgramCall → Options → Program Nat) :
    ProgramCall → Program Nat := fun c =>
  match t.read c.args with
  | .error message => misuse c message status
  | .ok o => act c o

/-- Opens a file at a descriptor of its own. -/
def openNew (path : String) (mode : World.Mode) : Program (Except FileError Nat) :=
  Program.act fun number w =>
    match w.openPath number path mode with
    | .error e => (w, .error e)
    | .ok (w, file) =>
      let d := w.freeDescriptor number 3
      let (w, i) := w.newFile file
      (w.connect number ⟨d, i, true⟩, .ok d)

/-- Does something with the descriptor of a path. A dash stands for the standard input. -/
def withInput (path : String) (act : Nat → Program (Option FileError)) :
    Program (Option FileError) := do
  if path = "-" then act 0
  else
    match ← openNew path .reading with
    | .error e => return some e
    | .ok d =>
      let e ← act d
      Program.close d
      return e

/-- Does something with each input in turn, as long as it wants more. Gives the status. -/
def eachInput (c : ProgramCall) (failure : Nat) (status : Nat)
    (act : (path : String) → Nat → Program (Option FileError)) : List String → Program Nat
  | [] => return status
  | path :: paths => do
    match ← withInput path (act path) with
    | none => eachInput c failure status act paths
    | some e =>
      complain c s!"{path}: {e.reason}"
      eachInput c failure failure act paths

/-- The paths of a program, or the standard input if there are none. -/
def orInput (paths : List String) : List String := if paths.isEmpty then ["-"] else paths

/-- The lines of a text, each with its end. -/
def linesOf (s : List Char) : List (List Char) :=
  let (line, lines) := s.foldr
    (fun c ((line : List Char), (lines : List (List Char))) =>
      if c = '\n' then ([c], if line.isEmpty then lines else line :: lines)
      else (c :: line, lines))
    ([], [])
  if line.isEmpty then lines else line :: lines

/-- A line without its end. -/
def bare (line : List Char) : List Char :=
  if line.getLast? = some '\n' then line.dropLast else line

/-- Takes back what has been read too much, if that can be read again. -/
def giveBack (d count : Nat) : Program Unit := Program.tell fun number w =>
  match w.openFile? number d with
  | some (i, { source := .file _, .. }) =>
    { w with openFiles := w.openFiles.modify i fun f => { f with position := f.position - count } }
  | _ => w

/-- What comes of a line: the state behind it, what is written, and whether more lines are
wanted. -/
structure Step (σ : Type) where
  state : σ
  output : List Char := []
  goesOn : Bool := true

/-- Goes over lines. Gives the state, what is written backwards, and the lines that are not
wanted. -/
def overLines {σ : Type} (step : σ → List Char → Step σ) :
    σ → List (List Char) → List (List Char) → σ × List (List Char) × Option (List (List Char))
  | s, [], written => (s, written, none)
  | s, line :: lines, written =>
    let r := step s line
    if r.goesOn then overLines step r.state lines (r.output :: written)
    else (r.state, r.output :: written, some lines)

/-- How the reading of lines has ended. -/
structure Reading (σ : Type) where
  state : σ
  goesOn : Bool := true
  error : Option FileError := none

def writeAll (pieces : List (List Char)) : Program Unit :=
  let text := pieces.flatten
  if text.isEmpty then return else Program.out (String.ofList text)

/-- Reads lines from a descriptor and writes what comes of them. A line without an end is the last
one. -/
def eachLineFrom {σ : Type} (step : σ → List Char → Step σ) (d : Nat) :
    (fuel : Nat) → σ → (begun : List Char) → Program (Reading σ)
  | 0, s, _ => return { state := s }
  | fuel + 1, s, begun => do
    match ← Program.read d 65536 with
    | .error e => return { state := s, error := some e }
    | .ok [] =>
      if begun.isEmpty then return { state := s }
      else
        let r := step s begun
        writeAll [r.output]
        return { state := r.state, goesOn := r.goesOn }
    | .ok bytes =>
      let lines := linesOf (begun ++ (Text.Octets.ofBytes bytes).toList)
      let (whole, open_) := match lines.getLast? with
        | some line => if line.getLast? = some '\n' then (lines, []) else (lines.dropLast, line)
        | none => (lines, [])
      let (s, written, left) := overLines step s whole []
      writeAll written.reverse
      match left with
      | none => eachLineFrom step d fuel s open_
      | some left =>
        giveBack d (left.flatten.length + open_.length)
        return { state := s, goesOn := false }

def eachLine {σ : Type} (step : σ → List Char → Step σ) (s : σ) (d : Nat) : Program (Reading σ) :=
  eachLineFrom step d Program.fuel s []

/-- Reads the lines of some inputs as one. Gives the state, and the status. An input that cannot be
opened is complained of with some words in front. -/
def eachLineOf {σ : Type} (c : ProgramCall) (failure : Nat) (step : σ → List Char → Step σ)
    (front : String := "") :
    (status : Nat) → σ → List String → Program (σ × Nat)
  | status, s, [] => return (s, status)
  | status, s, path :: paths => do
    let opened ← if path = "-" then pure (.ok 0) else openNew path .reading
    match opened with
    | .error e =>
      complain c s!"{front}{path}: {e.reason}"
      eachLineOf c failure step front failure s paths
    | .ok d =>
      let r ← eachLine step s d
      if d ≠ 0 then Program.close d
      match r.error with
      | some e =>
        complain c s!"{path}: {e.reason}"
        eachLineOf c failure step front failure r.state paths
      | none =>
        if r.goesOn then eachLineOf c failure step front status r.state paths
        else return (r.state, status)

/-- A list in pieces of some length. The fuel is its length. -/
def inPieces {α : Type} (size : Nat) : (fuel : Nat) → List α → List (List α)
  | 0, _ => []
  | _, [] => []
  | fuel + 1, l => l.take size :: inPieces size fuel (l.drop size)

/-- The text of some inputs as one, and the status. -/
def textOf (c : ProgramCall) (failure : Nat) (paths : List String) :
    Program (List Char × Nat) := do
  let rec go (status : Nat) (pieces : List (List Char)) : List String →
      Program (List Char × Nat)
    | [] => return (pieces.reverse.flatten, status)
    | path :: paths => do
      let opened ← if path = "-" then pure (.ok 0) else openNew path .reading
      match opened with
      | .error e =>
        complain c s!"{path}: {e.reason}"
        go failure pieces paths
      | .ok d =>
        let r ← Program.readAll d
        if d ≠ 0 then Program.close d
        match r with
        | .error e =>
          complain c s!"{path}: {e.reason}"
          go failure pieces paths
        | .ok bytes => go status ((Text.Octets.ofBytes bytes).toList :: pieces) paths
  go 0 [] (orInput paths)

end ReleasePreview.Tools

/-! Commands of the shell that programs run. -/
namespace ReleasePreview.Tools

/-- Turns into a shell for a command. -/
def becomeShell (launch : Launcher) (c : ProgramCall) (command : String) (name : String := "sh") :
    Program Nat := do
  let _ ← launch "/bin/sh" { c with name, args := ["-c", command] }
  return 127

/-- Runs a command and waits for it. -/
def runCommand (launch : Launcher) (c : ProgramCall) (command : String) : Program ProcessEnd := do
  let child ← Program.fork (becomeShell launch c command)
  Program.join child

/-- Starts a command whose output can be read from a descriptor. Gives that one and the process. -/
def openCommand (launch : Launcher) (c : ProgramCall) (command : String) (name : String := "sh") :
    Program (Nat × Nat) := do
  let (output, input) ← Program.newPipe
  let child ← Program.fork do
    Program.close output
    Program.move input 1
    becomeShell launch c command name
  Program.close input
  return (output, child)

/-- Starts a command whose input can be written to a descriptor. Gives that one and the process. -/
def feedCommand (launch : Launcher) (c : ProgramCall) (command : String) (name : String := "sh") :
    Program (Nat × Nat) := do
  let (output, input) ← Program.newPipe
  let child ← Program.fork do
    Program.close input
    Program.move output 0
    becomeShell launch c command name
  Program.close output
  return (input, child)

/-- The output of a command. -/
def outputOf (launch : Launcher) (c : ProgramCall) (command : String) : Program String := do
  let (d, child) ← openCommand launch c command
  let bytes ← Program.readAll d
  Program.close d
  discard (Program.join child)
  return Text.Octets.ofBytes (bytes.toOption.getD [])

end ReleasePreview.Tools

/-! Lines of several inputs, taken one by one as a program needs them. -/
namespace ReleasePreview.Tools

/-- Inputs, and what has been read of them but not taken. -/
structure LineSource where
  /-- The inputs that have not been opened. -/
  paths : List String := []
  /-- The end of a line. -/
  mark : Char := '\n'
  path : String := "-"
  descriptor : Option Nat := none
  /-- Whole lines, each with its end. -/
  ready : List (List Char) := []
  /-- What has been read of a line. -/
  begun : List Char := []

namespace LineSource

/-- The lines of a text, and what stands behind the last end. -/
def linesAndRest (mark : Char) (s : List Char) : List (List Char) × List Char :=
  s.foldr
    (fun c (lines, rest) =>
      if c = mark then ([c] :: lines, rest)
      else match lines with
        | line :: lines => ((c :: line) :: lines, rest)
        | [] => ([], c :: rest))
    ([], [])

/-- Reads until there is a line. A line without an end is the last one. Nothing is ready behind the
end of the input. -/
def fillFrom (d : Nat) : (fuel : Nat) → LineSource → Program (Except FileError LineSource)
  | 0, s => return .ok s
  | fuel + 1, s => do
    match s.ready with
    | _ :: _ => return .ok s
    | [] =>
      match ← Program.read d 65536 with
      | .error e => return .error e
      | .ok [] =>
        return .ok { s with ready := if s.begun.isEmpty then [] else [s.begun], begun := [] }
      | .ok bytes =>
        let text := (Text.Octets.ofBytes bytes).toList
        if text.contains s.mark then
          let (lines, rest) := linesAndRest s.mark (s.begun ++ text)
          return .ok { s with ready := lines, begun := rest }
        else fillFrom d fuel { s with begun := s.begun ++ text }

/-- Reads until there is a line, or the input has ended. -/
def fill (s : LineSource) : Program (Except FileError LineSource) :=
  match s.descriptor with
  | none => return .ok s
  | some d => fillFrom d Program.fuel s

/-- Opens an input. -/
def openInput (s : LineSource) (path : String) : Program (Except FileError LineSource) := do
  if path = "-" then return .ok { s with path, descriptor := some 0, ready := [], begun := [] }
  match ← openNew path .reading with
  | .error e => return .error e
  | .ok d => return .ok { s with path, descriptor := some d, ready := [], begun := [] }

/-- Closes the input. What has not been taken is left to others if it can be read again. -/
def close (s : LineSource) : Program LineSource := do
  match s.descriptor with
  | none => return s
  | some d =>
    giveBack d (s.ready.flatten.length + s.begun.length)
    if d ≠ 0 then Program.close d
    return { s with descriptor := none, ready := [], begun := [] }

end LineSource

end ReleasePreview.Tools
