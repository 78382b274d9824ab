import ReleasePreview.StreamEditor.Script
import ReleasePreview.Tools.Basic

/-! Editing lines: a script is run once for each line, between reading it and printing it. -/
namespace ReleasePreview.StreamEditor

open Tools (LineSource)

/-- A text that stands for a line, and whether it has an end. -/
structure Line where
  text : List Char := []
  hasEnd : Bool := true

/-- Two lines as one. -/
def Line.append (mark : Char) (a b : Line) : Line where
  text := a.text ++ mark :: b.text
  hasEnd := b.hasEnd

/-- How far a range has got. -/
inductive RangeState where
  | outside
  | inside (stop : Option Nat)
  | over
deriving Repr, DecidableEq

/-- What is written behind a line. -/
inductive Appendage where
  | text (s : List Char)
  | file (path : String)
  | lineOf (path : String)

structure Editor where
  launch : Launcher
  call : ProgramCall
  program : Array Instruction
  isQuiet : Bool := false
  /-- Each input is edited for itself. -/
  isSeparate : Bool := false
  /-- Inputs are changed. Their old contents are kept under names made of this. -/
  inPlace : Option String := none
  width : Nat := 70
  source : LineSource
  /-- The number of the line. -/
  number : Nat := 0
  line : Line := {}
  held : Line := {}
  appendages : List Appendage := []
  replaced : Bool := false
  last : Option Pattern := none
  ranges : Array RangeState
  /-- Files that are written to, and their descriptors. -/
  targets : List (String × Nat) := []
  /-- Files that lines are read from. -/
  sources : List (String × LineSource) := []
  /-- What is to be written, backwards, and its size. -/
  written : List (List Char) := []
  size : Nat := 0
  /-- Outputs whose last line has no end yet. -/
  owing : List String := []
  status : Nat := 0

abbrev Editing := StateT Editor Program

/-- What comes behind a run of the script. -/
inductive Sequel where
  | finished
  | deleted
  | again
  | quit (status : Nat)
  | quitAtOnce (status : Nat)

namespace Editing

def perform {α : Type} (p : Program α) : Editing α := fun s => do
  let a ← p
  return (a, s)

def complain (message : String) : Editing Unit := do
  perform (Tools.complain (← get).call message)

/-- The output that counts as the usual one. -/
def stdout : String := "/dev/stdout"

/-- Writes what is to be written. -/
def flush : Editing Unit := do
  let s ← get
  set { s with written := [], size := 0 }
  perform (Tools.writeAll s.written.reverse)

/-- Ends the program. -/
def stop {α : Type} (status : Nat) : Editing α := do
  flush
  perform (Program.exit status)

/-- The characters that are kept before they are written. -/
def keptSize : Nat := 4096

/-- Writes to an output. -/
def write (target : String) (s : List Char) : Editing Unit := do
  let e ← get
  let s := if e.owing.contains target then e.source.mark :: s else s
  set { e with owing := e.owing.filter (· ≠ target) }
  if target = stdout then
    modify fun e => { e with written := s :: e.written, size := e.size + s.length }
    let e ← get
    if keptSize ≤ e.size && e.inPlace.isNone then flush
  else if target = "/dev/stderr" then discard (perform (Program.put 2 (String.ofList s)))
  else match e.targets.lookup target with
    | some d => discard (perform (Program.put d (String.ofList s)))
    | none => pure ()

/-- Writes a text as a line. -/
def writeLine (target : String) (line : Line) : Editing Unit := do
  let mark := (← get).source.mark
  if line.hasEnd then write target (line.text ++ [mark])
  else
    write target line.text
    modify fun e => { e with owing := target :: e.owing }

/-- The name that the old content of a file is kept under. -/
def keptName (path suffix : String) : String :=
  let name := path.toList.reverse.takeWhile (· ≠ '/') |>.reverse
  let front := path.toList.take (path.length - name.length)
  if suffix.toList.contains '*' then
    let whole := suffix.toList.flatMap fun c => if c = '*' then name else [c]
    if whole.contains '/' then String.ofList whole else String.ofList (front ++ whole)
  else path ++ suffix

/-- Puts what has been written in the place of the input. -/
def replaceInput : Editing Unit := do
  let s ← get
  match s.inPlace, s.source.descriptor with
  | some suffix, some _ =>
    let path := Text.Octets.readable s.source.path
    let content := Text.Octets.toBytes (String.ofList s.written.reverse.flatten)
    let kept := if suffix.isEmpty then none
      else some (Text.Octets.readable (keptName s.source.path suffix))
    set { s with written := [], size := 0, owing := s.owing.filter (· ≠ stdout) }
    discard (perform (Program.changeFiles fun t directory => do
      let place ← t.resolve directory path true
      match t.node? place with
      | some (.file old mode) =>
        let t ← match kept with
          | some name => do
            let other ← t.resolve directory name true
            pure (t.set other (.file old mode))
          | none => pure t
        return t.set place (.file content mode)
      | _ => return t))
  | _, _ => return

/-- Opens the next input that can be opened. Gives whether there is one. -/
def openNext : List String → Editing Bool
  | [] => do
    modify fun s => { s with source := { s.source with paths := [] } }
    return false
  | path :: paths => do
    let s ← get
    let source := { s.source with paths }
    set { s with source }
    let isRegular ← if s.inPlace.isNone then pure true else
      perform (Program.files fun t directory =>
        match t.find directory (Text.Octets.readable path) with
        | .ok (.file ..) => true
        | .ok _ => false
        | .error _ => true)
    if !isRegular then
      complain s!"couldn't edit {path}: not a regular file"
      modify fun s => { s with status := 4 }
      openNext paths
    else match ← perform (source.openInput path) with
      | .ok source =>
        modify fun s => { s with source, number := if s.isSeparate then 0 else s.number }
        return true
      | .error e =>
        complain s!"can't read {path}: {e.reason}"
        modify fun s => { s with status := 2 }
        openNext paths

/-- There is another line; with `across` it may be one of another input. The fuel is the number of
inputs. -/
def supply (across : Bool) : (fuel : Nat) → Editing Bool
  | 0 => return false
  | fuel + 1 => do
    let s ← get
    match ← perform s.source.fill with
    | .error e =>
      let name := if s.source.path = "-" then "stdin" else s.source.path
      complain s!"read error on {name}: {e.reason}"
      stop 4
    | .ok source =>
      set { s with source }
      if !source.ready.isEmpty then return true
      if source.descriptor.isSome && !across then return false
      replaceInput
      let closed ← perform source.close
      modify fun s => { s with source := closed }
      if ← openNext closed.paths then supply across fuel else return false

def hasMore (across : Bool) : Editing Bool := do
  supply across ((← get).source.paths.length + 2)

/-- The line is the last one. -/
def isLast : Editing Bool := do
  return !(← hasMore (!(← get).isSeparate))

/-- Takes the next line of a source. -/
def takeFrom (source : LineSource) : Option (Line × LineSource) :=
  match source.ready with
  | [] => none
  | line :: ready =>
    let hasEnd := line.getLast? = some source.mark
    some (⟨if hasEnd then line.dropLast else line, hasEnd⟩, { source with ready })

/-- The next line of a file that lines are read from. -/
def lineOf? (path : String) : Editing (Option Line) := do
  let s ← get
  let opened ← match s.sources.lookup path with
    | some source => pure source
    | none =>
      let source : LineSource := { mark := s.source.mark }
      match ← perform (source.openInput path) with
      | .ok source => pure source
      | .error _ => pure source
  let filled := (← perform opened.fill).toOption.getD { opened with ready := [] }
  let keep (source : LineSource) : Editing Unit := modify fun s =>
    { s with sources := (path, source) :: s.sources.filter (·.1 ≠ path) }
  match takeFrom filled with
  | some (line, source) =>
    keep source
    return some line
  | none =>
    keep filled
    return none

/-- Writes what stands behind a line. -/
def writeAppendages : Editing Unit := do
  let s ← get
  set { s with appendages := [] }
  s.appendages.reverse.forM fun
    | .text t => write stdout t
    | .file path => do
      write stdout []
      let path := if path = "/dev/stdin" then "-" else path
      let opened ← if path = "-" then pure (.ok 0) else perform (Tools.openNew path .reading)
      match opened with
      | .error _ => return
      | .ok d =>
        let r ← perform (Program.readAll d)
        if d ≠ 0 then perform (Program.close d)
        let content := (Text.Octets.ofBytes (r.toOption.getD [])).toList
        unless content.isEmpty do write stdout content
    | .lineOf path => do
      write stdout []
      match ← lineOf? path with
      | some line => writeLine stdout { line with hasEnd := true }
      | none => return

/-- Takes the next line, if there is one. -/
def takeLine : Editing (Option Line) := do
  if !(← hasMore true) then return none
  let s ← get
  match takeFrom s.source with
  | some (line, source) =>
    set { s with source, number := s.number + 1 }
    return some line
  | none => return none

/-- Where a pattern matches the line from a place on. The pattern is the one used last if there is
none. -/
def search (pattern : Option Pattern) (groups : Bool) (i : Nat) (text : Array Char) :
    Editing (Regex.Subject × Option Regex.Match) := do
  match pattern.or (← get).last with
  | none =>
    perform (Program.err "sed: -e expression #1, char 0: no previous regular expression")
    stop 1
  | some p =>
    modify fun s => { s with last := some p }
    let subject : Regex.Subject := { text, foldsCase := p.foldsCase, hasLines := p.hasLines }
    return (subject, p.expression.search? subject groups i)

def isAt : Address → Editing Bool
  | .line n => return (← get).number = n
  | .every first step => do
    let n := (← get).number
    return first ≤ n && (n - first) % step = 0
  | .last => isLast
  | .matching p => do
    let (_, found) ← search p false 0 (← get).line.text.toArray
    return found.isSome

/-- The line is in a range; the place is that of its command. -/
def isInRange (place : Nat) (start : Address) (stop : RangeEnd) : Editing Bool := do
  let n := (← get).number
  let turn (r : RangeState) : Editing Unit :=
    modify fun s => { s with ranges := s.ranges.setIfInBounds place r }
  match ((← get).ranges[place]?).getD .outside with
  | .inside (some last) =>
    if last ≤ n then turn .over
    return n ≤ last
  | .inside none =>
    match stop with
    | .at a => if ← isAt a then turn .over
    | _ => pure ()
    return true
  | _ =>
    if !(← isAt start) then return false
    let last : Option Nat := match stop with
      | .at (.line m) => some m
      | .at _ => none
      | .after count => some (n + count)
      | .multiple size => some (if size = 0 then n else (n / size + 1) * size)
    turn (if last.any (· ≤ n) then .over else .inside last)
    return true

def isSelected (place : Nat) (i : Instruction) : Editing Bool := do
  let found ← match i.selection with
    | .all => pure true
    | .one a => isAt a
    | .range start stop => isInRange place start stop
  return found != i.negated

/-- How letters change for the next character, and for all of them. -/
structure Casing where
  next : Option Bool := none
  all : Option Bool := none

def cased (upper : Option Bool) (c : Char) : Char :=
  match upper with
  | some true => c.toUpper
  | some false => c.toLower
  | none => c

def Casing.apply (k : Casing) : List Char → List Char × Casing
  | [] => ([], k)
  | c :: s => (cased (k.next.or k.all) c :: s.map (cased k.all), { k with next := none })

/-- The text of a replacement. -/
def replacementText (t : Regex.Subject) (m : Regex.Match) : Casing → List Piece → List Char
  | _, [] => []
  | k, .text s :: pieces =>
    let (s, k) := k.apply s
    s ++ replacementText t m k pieces
  | k, .group n :: pieces =>
    let (s, k) := k.apply (m.group t n)
    s ++ replacementText t m k pieces
  | k, .change c :: pieces =>
    let k : Casing := match c with
      | .upper => { all := some true }
      | .lower => { all := some false }
      | .none => {}
      | .upperNext => { k with next := some true }
      | .lowerNext => { k with next := some false }
    replacementText t m k pieces

/-- Replaces matches from a place on. Gives the text in pieces, and whether something has been
replaced. The end of the match before keeps an empty match from following it. The fuel is the length
of the text. -/
def replaceFrom (s : Substitution) (text : Array Char) : (fuel count place : Nat) →
    (before : Option Nat) → (replaced : Bool) → Editing (List (List Char) × Bool)
  | 0, _, place, _, replaced => return ([(text.extract place text.size).toList], replaced)
  | fuel + 1, count, place, before, replaced => do
    let rest := (text.extract place text.size).toList
    if text.size < place then return ([], replaced)
    let (subject, found) ← search s.pattern true place text
    match found with
    | none => return ([rest], replaced)
    | some m =>
      let front := (text.extract place m.start).toList
      if m.start = m.stop && before = some m.start then
        let (pieces, r) ← replaceFrom s text fuel count (m.start + 1) none replaced
        return ((text.extract place (m.start + 1)).toList :: pieces, r)
      else
        let count := count + 1
        if count < s.number then
          let next := if m.start = m.stop then m.stop + 1 else m.stop
          let (pieces, r) ← replaceFrom s text fuel count next (some m.stop) replaced
          return ((text.extract place next).toList :: pieces, r)
        else
          let new := replacementText subject m {} s.replacement
          if s.isGlobal then
            let next := if m.start = m.stop then m.stop + 1 else m.stop
            let skipped := (text.extract m.stop next).toList
            let (pieces, _) ← replaceFrom s text fuel count next (some m.stop) true
            return (front :: new :: skipped :: pieces, true)
          else return ([front, new, (text.extract m.stop text.size).toList], true)

/-- The output of a command, without its last line end. -/
def outputOf (command : List Char) : Editing (List Char) := do
  let s ← get
  flush
  let output ← perform (Tools.outputOf s.launch s.call (String.ofList command))
  return output.toList

def withoutEnd (s : List Char) : List Char := if s.getLast? = some '\n' then s.dropLast else s

def substitute (s : Substitution) : Editing Unit := do
  let text := (← get).line.text.toArray
  let (pieces, replaced) ← replaceFrom s text (text.size + 2) 0 0 none false
  if replaced then
    let text := pieces.flatten
    let text ← if s.runs then withoutEnd <$> outputOf text else pure text
    modify fun e => { e with replaced := true, line := { e.line with text } }
    if s.prints then writeLine stdout (← get).line
    match s.target with
    | some target => writeLine target (← get).line
    | none => return

/-- A character as it is shown. -/
def shownChar (c : Char) : List Char :=
  match c with
  | '\\' => ['\\', '\\']
  | '\x07' => ['\\', 'a']
  | '\x08' => ['\\', 'b']
  | '\x0c' => ['\\', 'f']
  | '\n' => ['\\', 'n']
  | '\r' => ['\\', 'r']
  | '\t' => ['\\', 't']
  | '\x0b' => ['\\', 'v']
  | c =>
    if ' ' ≤ c && c ≤ '~' then [c]
    else
      let digits := Nat.toDigits 8 c.toNat
      '\\' :: List.replicate (3 - digits.length) '0' ++ digits

/-- The shown characters in lines of some width. -/
def shownLines (width column : Nat) : List Char → List Char
  | [] => ['$', '\n']
  | c :: s =>
    let shown := shownChar c
    if width ≠ 0 && width - 1 < column + shown.length then
      '\\' :: '\n' :: shown ++ shownLines width shown.length s
    else shown ++ shownLines width (column + shown.length) s

/-- Does what an instruction asks for on a selected line. Gives where it goes on. -/
def act (place : Nat) (i : Instruction) : Editing (Except Sequel Nat) := do
  let s ← get
  let onwards : Editing (Except Sequel Nat) := return .ok (place + 1)
  let append (a : Appendage) : Editing (Except Sequel Nat) := do
    modify fun s => { s with appendages := a :: s.appendages }
    onwards
  let replace (text : List Char) : Editing (Except Sequel Nat) := do
    modify fun s => { s with line := { s.line with text } }
    onwards
  let firstLine : List Char := s.line.text.takeWhile (· ≠ s.source.mark)
  let isAlone := firstLine.length = s.line.text.length
  let first : Line := ⟨firstLine, !isAlone || s.line.hasEnd⟩
  match i.action with
  | .block _ | .nothing => onwards
  | .append text => append (.text text)
  | .readFile path => append (.file path)
  | .readLine path => append (.lineOf path)
  | .insert text =>
    write stdout text
    onwards
  | .change text =>
    let isInside : Bool := match s.ranges[place]? with
      | some (.inside _) => true
      | _ => false
    if !isInside then write stdout text
    return .error .deleted
  | .branch place =>
    perform (Program.pause 3)
    return .ok place
  | .branchIf replaced target =>
    perform (Program.pause 3)
    set { s with replaced := false }
    return .ok (if s.replaced = replaced then target else place + 1)
  | .delete => return .error .deleted
  | .deleteFirst =>
    if isAlone then return .error .deleted
    discard (replace (s.line.text.drop (firstLine.length + 1)))
    return .error .again
  | .get =>
    set { s with line := s.held }
    onwards
  | .getMore =>
    set { s with line := s.line.append s.source.mark s.held }
    onwards
  | .hold =>
    set { s with held := s.line }
    onwards
  | .holdMore =>
    set { s with held := s.held.append s.source.mark s.line }
    onwards
  | .exchange =>
    set { s with line := s.held, held := s.line }
    onwards
  | .list width =>
    write stdout (shownLines (width.getD s.width) 0 s.line.text)
    onwards
  | .next =>
    if ← isLast then return .error (.quit 0)
    if !s.isQuiet then writeLine stdout s.line
    writeAppendages
    match ← takeLine with
    | some line =>
      modify fun s => { s with line }
      onwards
    | none => return .error .finished
  | .nextMore =>
    if ← isLast then return .error (.quit 0)
    writeAppendages
    match ← takeLine with
    | some line =>
      modify fun s =>
        { s with line := { line with text := s.line.text ++ s.source.mark :: line.text } }
      onwards
    | none => return .error .finished
  | .print =>
    writeLine stdout s.line
    onwards
  | .printFirst =>
    writeLine stdout first
    onwards
  | .quit status => return .error (.quit status)
  | .quitAtOnce status => return .error (.quitAtOnce status)
  | .writeLine path =>
    writeLine path s.line
    onwards
  | .writeFirst path =>
    writeLine path first
    onwards
  | .substitute sub =>
    substitute sub
    onwards
  | .transliterate table =>
    replace (s.line.text.map fun c => (table.lookup c).getD c)
  | .showNumber =>
    write stdout (toString s.number ++ "\n").toList
    onwards
  | .showName =>
    write stdout (s.source.path ++ "\n").toList
    onwards
  | .clear => replace []
  | .run none =>
    let output ← outputOf s.line.text
    replace (withoutEnd output)
  | .run (some command) =>
    let output ← outputOf command
    write stdout output
    onwards

/-- Runs the instructions from a place on. -/
def runFrom : (fuel place : Nat) → Editing Sequel
  | 0, _ => return .finished
  | fuel + 1, place => do
    match (← get).program[place]? with
    | none => return .finished
    | some i =>
      if ← isSelected place i then
        match ← act place i with
        | .ok next => runFrom fuel next
        | .error sequel => return sequel
      else match i.action with
        | .block stop => runFrom fuel stop
        | _ => runFrom fuel (place + 1)

/-- Prints the line unless nothing is to be printed, and what stands behind it. -/
def finishLine : Editing Unit := do
  let s ← get
  if !s.isQuiet then writeLine stdout s.line
  writeAppendages

/-- Runs the script for each line. Gives the status. -/
def cycles : (fuel : Nat) → (reads : Bool) → Editing Nat
  | 0, _ => return 0
  | fuel + 1, reads => do
    let isThere ← if !reads then pure true else do
      match ← takeLine with
      | some line =>
        modify fun s => { s with line, replaced := false }
        pure true
      | none => pure false
    if !isThere then return (← get).status
    match ← runFrom Program.fuel 0 with
    | .finished =>
      finishLine
      cycles fuel true
    | .deleted =>
      writeAppendages
      cycles fuel true
    | .again =>
      writeAppendages
      cycles fuel false
    | .quit status =>
      finishLine
      let found := (← get).status
      return if status = 0 then found else status
    | .quitAtOnce status => return status

/-- The files that a program writes to. -/
def targetsOf (i : Instruction) : List String :=
  match i.action with
  | .writeLine path | .writeFirst path => [path]
  | .substitute s => s.target.toList
  | _ => []

/-- Opens the files that are written to. -/
def openTargets : List String → Editing Unit
  | [] => return
  | path :: paths => do
    let isKnown := path = stdout || path = "/dev/stderr" || ((← get).targets.lookup path).isSome
    if !isKnown then
      match ← perform (Tools.openNew path .writing) with
      | .ok d => modify fun s => { s with targets := (path, d) :: s.targets }
      | .error e =>
        complain s!"couldn't open file {path}: {e.reason}"
        stop 4
    openTargets paths

/-- Copies what is left of an input that is changed. -/
def copyRest : (fuel : Nat) → Editing Unit
  | 0 => return
  | fuel + 1 => do
    if ← hasMore false then
      match takeFrom (← get).source with
      | some (line, source) =>
        modify fun s => { s with source }
        writeLine stdout line
        copyRest fuel
      | none => return

/-- Edits the inputs. Gives the status. -/
def edit : Editing Nat := do
  openTargets ((← get).program.toList.flatMap targetsOf)
  let status ← cycles Program.fuel true
  if (← get).inPlace.isSome && (← get).source.descriptor.isSome then
    copyRest Program.fuel
    replaceInput
  flush
  let closed ← perform (← get).source.close
  modify fun s => { s with source := closed }
  return status

end Editing

/-- A part of a script: its text, and the file that it is from. -/
structure Part where
  path : Option String := none
  text : List Char

/-- Says where a script is wrong. -/
def Part.blame (number : Nat) (parts : List Part) (place : Nat) : String :=
  match parts with
  | [] => s!"-e expression #{number}, char {place}"
  | p :: rest =>
    if place ≤ p.text.length || rest.isEmpty then
      match p.path with
      | none => s!"-e expression #{number}, char {place}"
      | some path =>
        let line := (p.text.take (place - 1)).count '\n' + 1
        s!"file {path} line {line}"
    else Part.blame (if p.path.isNone then number + 1 else number) rest (place - p.text.length - 1)

/-- The parts of a script that options give. -/
def partsOf (c : ProgramCall) : List (Char × String) → Program (List Part)
  | [] => return []
  | ('e', text) :: rest => return { text := text.toList } :: (← partsOf c rest)
  | ('f', path) :: rest => do
    let opened ← if path = "-" then pure (.ok 0) else Tools.openNew path .reading
    match opened with
    | .error e =>
      Tools.complain c s!"couldn't open file {path}: {e.reason}"
      Program.exit 1
    | .ok d =>
      let r ← Program.readAll d
      if d ≠ 0 then Program.close d
      let text := (Text.Octets.ofBytes (r.toOption.getD [])).toList
      return { path := some path, text := Editing.withoutEnd text } :: (← partsOf c rest)
  | _ :: rest => partsOf c rest

def options : Tools.OptionTable where
  letters := "bsnrzuEe:f:l:"
  names := [("expression", 'e'), ("file", 'f'), ("quiet", 'n'), ("silent", 'n'),
    ("in-place", 'i'), ("regexp-extended", 'E'), ("separate", 's'), ("null-data", 'z'),
    ("zero-terminated", 'z'), ("line-length", 'l'), ("unbuffered", 'u'), ("posix", 'p'),
    ("sandbox", 'S'), ("follow-symlinks", 'F'), ("debug", 'D'), ("binary", 'b')]
  optional := "i"

/-- How the program is called. -/
def usage : String :=
  "Usage: sed [OPTION]... \x7bscript-only-if-no-other-script\x7d [input-file]...\n"

def sed : Tools.Tool := fun launch c => do
  match options.read c.args with
  | .error message =>
    Tools.complain c message
    Program.err usage
    return 1
  | .ok o =>
    let given := o.found.filter fun (letter, _) => letter = 'e' || letter = 'f'
    let (found, paths) := match given, o.args with
      | [], script :: paths => ([('e', script)], paths)
      | given, paths => (given, paths)
    if found.isEmpty then
      Program.err usage
      return 1
    let parts ← partsOf c found
    let text := ['\n'].intercalate (parts.map (·.text))
    match Script.read (o.has 'E' || o.has 'r') text with
    | .error fault =>
      let isWhole := fault.message.startsWith "can't find" ||
        fault.message = Regex.Reader.loneClass
      if isWhole then Tools.complain c fault.message
      else
        let place := if fault.place = 0 then "-e expression #1, char 0"
          else Part.blame 1 parts fault.place
        Tools.complain c s!"{place}: {fault.message}"
      return 1
    | .ok script =>
      let inPlace := o.value? 'i'
      if inPlace.isSome && paths.isEmpty then
        Tools.complain c "no input files"
        return 4
      let ranges := script.program.map fun i => match i.selection with
        | .range (.line 0) _ => RangeState.inside none
        | _ => .outside
      let editor : Editor :=
        { launch, call := c, program := script.program, inPlace, ranges
          isQuiet := script.isQuiet || o.has 'n'
          isSeparate := inPlace.isSome || o.has 's'
          width := ((o.value? 'l').bind (·.toNat?)).getD 70
          source :=
            { paths := Tools.orInput paths
              mark := if o.has 'z' then '\x00' else '\n' } }
      return (← (Editing.edit.run editor : Program (Nat × Editor))).1

end ReleasePreview.StreamEditor
