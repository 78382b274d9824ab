import ReleasePreview.Awk.Machine
import ReleasePreview.Awk.Token

/-! Records that are read, and what is written. -/
namespace ReleasePreview.Awk.Running

/-- Where a record ends. -/
inductive RecordEnd where
  | char (c : Char)
  /-- At empty lines. -/
  | paragraph
  | pattern (e : Regex.Expression)

def recordEnd : Running RecordEnd := do
  let s ← textOf (← global .recordSeparator)
  match s.toList with
  | [] => return .paragraph
  | [c] => return .char c
  | _ => return .pattern (← patternOf s)

/-- The first paragraph of a text without line ends in front, and what follows it; `none` if it may
go on behind the text. -/
def paragraph? (s : List Char) : Option (List Char × List Char) :=
  let rec go (found : List Char) : List Char → Option (List Char × List Char)
    | '\n' :: '\n' :: rest => some (found.reverse, rest)
    | c :: rest => go (c :: found) rest
    | [] => none
  go [] s

/-- The first record of a text, and what follows it; `none` if it may go on behind the text. -/
def RecordEnd.first? (e : RecordEnd) (s : List Char) (isAll : Bool) :
    Option (List Char × List Char) :=
  match e with
  | char c =>
    let record := s.takeWhile (· ≠ c)
    match s.drop record.length with
    | _ :: rest => some (record, rest)
    | [] => none
  | paragraph => paragraph? (s.dropWhile (· = '\n'))
  | pattern e =>
    let t : Regex.Subject := { text := s.toArray }
    match e.search? t false 0 with
    | none => none
    | some m =>
      if m.stop = m.start || (m.stop = t.size && !isAll) then none
      else some ((t.text.extract 0 m.start).toList, (t.text.extract m.stop t.size).toList)

/-- The last record of a text that has no end. -/
def RecordEnd.last? (e : RecordEnd) (s : List Char) : Option (List Char) :=
  let s := match e with
    | paragraph =>
      ((s.dropWhile (· = '\n')).reverse.dropWhile (· = '\n')).reverse
    | _ => s
  if s.isEmpty then none else some s

/-- So many bytes are read at once. -/
def blockSize : Nat := 4096

/-- The next record of a feed, and the feed behind it. -/
def nextOf (e : RecordEnd) : (fuel : Nat) → Feed → Running (Option String × Feed)
  | 0, feed => return (none, feed)
  | fuel + 1, feed => do
    match e.first? feed.ready feed.hasEnded with
    | some (record, ready) => return (some (String.ofList record), { feed with ready })
    | none =>
      if feed.hasEnded then
        return ((e.last? feed.ready).map String.ofList, { feed with ready := [] })
      else
        match ← perform (Program.read feed.descriptor blockSize) with
        | .error fault => abort s!"read error ({fault.reason})"
        | .ok [] => nextOf e fuel { feed with hasEnded := true }
        | .ok bytes =>
          let text := (Text.Octets.ofBytes bytes).toList
          nextOf e fuel { feed with ready := feed.ready ++ text }

/-- Writes what is to be written to an outlet. -/
def flushOutlet (o : Outlet) : Running Outlet := do
  if o.size = 0 then return o
  discard (perform (Program.put o.descriptor (String.join o.written.reverse)))
  return { o with written := [], size := 0 }

/-- Writes what is to be written to the usual output. -/
def flushOutput : Running Unit := do
  let s ← get
  if s.size ≠ 0 then
    modify fun s => { s with written := [], size := 0 }
    perform (Program.out (String.join s.written.reverse))

/-- Writes all that is to be written. -/
def flush : Running Unit := do
  flushOutput
  let outlets ← (← get).outlets.reverse.mapM flushOutlet
  modify fun s => { s with outlets := outlets.reverse }

/-- The characters that are kept before they are written. -/
def keptSize : Nat := 4096

def write (text : String) : Running Unit := do
  modify fun s =>
    { s with written := text :: s.written, size := s.size + text.utf8ByteSize }
  if keptSize ≤ (← get).size then flushOutput

/-- The variable and the value that an argument assigns. -/
def assignment? (arg : String) : Option (String × String) :=
  let s := arg.toList
  let name := s.takeWhile fun c => Lexing.isNameStart c || Decimal.isDigit c
  match s.drop name.length with
  | '=' :: value =>
    if name.head?.any Lexing.isNameStart then
      some (String.ofList name, Lexing.unescaped value)
    else none
  | _ => none

/-- Assigns to a variable by its name. -/
def assignName (name value : String) : Running Unit := do
  match (← get).program.names.findIdx? (· = name) with
  | some n => setValue (.global n) (.input value)
  | none => return

/-- The text of an argument of the program. -/
def argument (n : Nat) : Running String := do
  match (← get).globals[Special.arguments.number]? with
  | some (.table t) =>
    match ← withTable t fun t => t.seek (.integer n) false with
    | some a => textOf a
    | none => return ""
  | _ => return ""

/-- Opens the next input, if there is one. The fuel is the number of arguments. -/
def openNext : (fuel : Nat) → Running Bool
  | 0 => return false
  | fuel + 1 => do
    let count := truncated (← global .argumentCount).toNumber
    let n := (← get).nextArgument
    if (n : Int) < count then
      modify fun s => { s with nextArgument := n + 1 }
      let arg ← argument n
      if arg.isEmpty then openNext fuel
      else match assignment? arg with
        | some (name, value) =>
          assignName name value
          openNext fuel
        | none =>
          let opened ← if arg = "-" then pure (.ok 0)
            else perform (Tools.openNew arg .reading)
          match opened with
          | .error fault => abort s!"cannot open \"{arg}\" ({fault.reason})"
          | .ok descriptor =>
            begin arg descriptor
            return true
    else if (← get).hasInput then return false
    else
      begin "-" 0
      return true
where
  begin (name : String) (descriptor : Nat) : Running Unit := do
    setPlain .fileName (.text name)
    setPlain .fileRecordNumber (.number 0)
    modify fun s => { s with hasInput := true, input := some { descriptor } }

/-- Leaves the input. -/
def closeInput : Running Unit := do
  match (← get).input with
  | none => return
  | some feed =>
    if feed.descriptor ≠ 0 then perform (Program.close feed.descriptor)
    modify fun s => { s with input := none }

def count (v : Special) : Running Unit := do
  setPlain v (.number ((← global v).toNumber + 1))

/-- The next record of the input. The fuel bounds the files. -/
def nextRecord : (fuel : Nat) → Running (Option String)
  | 0 => return none
  | fuel + 1 => do
    match (← get).input with
    | none => if ← openNext fuel then nextRecord fuel else return none
    | some feed =>
      let (record, feed) ← nextOf (← recordEnd) Program.fuel feed
      modify fun s => { s with input := some feed }
      match record with
      | some record =>
        count .recordNumber
        count .fileRecordNumber
        return some record
      | none =>
        closeInput
        nextRecord fuel

/-- The next record of a file or of the output of a command; `none` if there is nothing to be read.
-/
def nextFrom (isCommand : Bool) (name : String) : Running (Except Unit (Option String)) := do
  let key := (isCommand, name)
  let opened ← match (← get).feeds.lookup key with
    | some feed => pure (some feed)
    | none =>
      if isCommand then
        flush
        let s ← get
        let (descriptor, process) ← perform (Tools.openCommand s.launch s.call name "/bin/sh")
        pure (some { descriptor, process := some process })
      else if name = "-" || name = "/dev/stdin" then pure (some { descriptor := 0 })
      else
        match ← perform (Tools.openNew name .reading) with
        | .error _ => pure none
        | .ok descriptor => pure (some { descriptor })
  match opened with
  | none => return .error ()
  | some feed =>
    let (record, feed) ← nextOf (← recordEnd) Program.fuel feed
    modify fun s => { s with feeds := (key, feed) :: s.feeds.filter (·.1 ≠ key) }
    return .ok record

/-- What is told of the end of a process. -/
def statusOf : ProcessEnd → Int
  | .exited status => status
  | .killed signal => 256 + signal

/-- Closes all of a name. Gives what is told of it. -/
def closeName (name : String) : Running Int := do
  let s ← get
  let outlets ← (s.outlets.filter (·.name = name)).mapM flushOutlet
  let feeds := s.feeds.filter (·.1.2 = name)
  set { s with
    outlets := s.outlets.filter (·.name ≠ name)
    feeds := s.feeds.filter (·.1.2 ≠ name) }
  let ends := outlets.map (fun o => (o.descriptor, o.process)) ++
    feeds.map (fun f => (f.2.descriptor, f.2.process))
  ends.foldlM
    (fun _ (descriptor, process) => do
      if descriptor ≠ 0 then perform (Program.close descriptor)
      match process with
      | none => return 0
      | some process => return statusOf (← perform (Program.join process)))
    (-1)

/-- Writes to a file or a command. -/
def writeTo (kind : OutputKind) (name text : String) : Running Unit := do
  let isCommand := kind = .command
  if !isCommand && name = "/dev/stdout" then write text
  else if !isCommand && name = "/dev/stderr" then discard (perform (Program.put 2 text))
  else
    let s ← get
    let outlet ← match s.outlets.find? fun o => o.name = name && o.isCommand = isCommand with
      | some outlet => pure outlet
      | none =>
        let outlet : Outlet ← if isCommand then
            flush
            let (descriptor, process) ←
              perform (Tools.feedCommand s.launch s.call name "/bin/sh")
            pure { name, isCommand, descriptor, process := some process }
          else
            let mode := if kind = .appendix then World.Mode.appending else .writing
            match ← perform (Tools.openNew name mode) with
            | .error fault => abort s!"cannot open \"{name}\" for output ({fault.reason})"
            | .ok descriptor => pure { name, isCommand, descriptor }
        modify fun s => { s with outlets := outlet :: s.outlets }
        pure outlet
    let outlet :=
      { outlet with written := text :: outlet.written, size := outlet.size + text.utf8ByteSize }
    let outlet ← if keptSize ≤ outlet.size then flushOutlet outlet else pure outlet
    modify fun s =>
      { s with
        outlets := s.outlets.map fun o =>
          if o.descriptor = outlet.descriptor then outlet else o }

/-- Closes all commands that have been written to, and waits for them. -/
def closeOutlets : Running Unit := do
  let outlets ← (← get).outlets.reverse.mapM flushOutlet
  modify fun s => { s with outlets := outlets.reverse }
  (← get).outlets.reverse.forM fun o => do
    match o.process with
    | none => return
    | some process =>
      perform (Program.close o.descriptor)
      discard (perform (Program.join process))

end ReleasePreview.Awk.Running
