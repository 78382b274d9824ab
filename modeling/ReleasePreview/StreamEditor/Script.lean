import ReleasePreview.Decimal.Natural
import ReleasePreview.StreamEditor.Command

/-! Reading the script of an editor of lines. -/
namespace ReleasePreview.StreamEditor

/-- What is wrong with a script, behind so many of its characters; zero if it is wrong as a whole.
-/
structure Fault where
  place : Nat
  message : String
deriving Repr, DecidableEq

/-- A jump that is to be settled: the instruction, and its label. -/
structure Jump where
  instruction : Nat
  label : String

/-- What is left of a script, and what has been read of it. -/
structure Scan where
  rest : List Char
  taken : Nat := 0
  extended : Bool := false
  /-- The script says that lines are not printed. -/
  isQuiet : Bool := false
  program : Array Instruction := #[]
  blocks : List Nat := []
  labels : List (String × Nat) := []
  jumps : List Jump := []

abbrev Reader := StateT Scan (Except Fault)

namespace Reader

def fail {α : Type} (message : String) : Reader α := do
  throw ⟨(← get).taken, message⟩

/-- The next character is taken. -/
def next? : Reader (Option Char) := modifyGet fun s =>
  match s.rest with
  | [] => (none, s)
  | c :: rest => (some c, { s with rest, taken := s.taken + 1 })

def peek? : Reader (Option Char) := return (← get).rest.head?

def take (n : Nat) : Reader Unit := modify fun s =>
  { s with rest := s.rest.drop n, taken := s.taken + min n s.rest.length }

def takeWhile (p : Char → Bool) : Reader (List Char) := modifyGet fun s =>
  let found := s.rest.takeWhile p
  (found, { s with rest := s.rest.drop found.length, taken := s.taken + found.length })

def isBlank (c : Char) : Bool := c = ' ' || c = '\t'

def isGap (c : Char) : Bool := Decimal.isGap c

def skipBlanks : Reader Unit := discard (takeWhile isBlank)

/-- The number in front; zero if there is none. -/
def number : Reader Nat := return Decimal.naturalValue (← takeWhile Decimal.isDigit)

/-- The text of a bracketed set up to its end, and what follows it; `none` if it has no end. -/
def bracketed? : (fuel : Nat) → (isFirst : Bool) → List Char → Option (List Char × List Char)
  | 0, _, _ => none
  | fuel + 1, isFirst, s =>
    match s with
    | [] => none
    | ']' :: rest =>
      if isFirst then (bracketed? fuel false rest).map fun (t, r) => (']' :: t, r)
      else some ([']'], rest)
    | '[' :: kind :: rest =>
      if kind = ':' || kind = '.' || kind = '=' then
        let name := rest.takeWhile (· ≠ kind)
        match rest.drop name.length with
        | _ :: ']' :: behind =>
          (bracketed? fuel false behind).map fun (t, r) =>
            ('[' :: kind :: name ++ kind :: ']' :: t, r)
        | _ => (bracketed? fuel false (kind :: rest)).map fun (t, r) => ('[' :: t, r)
      else (bracketed? fuel false (kind :: rest)).map fun (t, r) => ('[' :: t, r)
    | c :: rest => (bracketed? fuel false rest).map fun (t, r) => (c :: t, r)

/-- The text up to a delimiter. Before a delimiter a backslash is taken away; with `isPattern` a
backslash before an `n` makes a line end, and delimiters in sets are no delimiters. -/
def delimited? (mark : Char) (isPattern : Bool) : (fuel : Nat) → List Char →
    Option (List Char × List Char)
  | 0, _ => none
  | fuel + 1, s =>
    let behind (front rest : List Char) : Option (List Char × List Char) :=
      (delimited? mark isPattern fuel rest).map fun (t, r) => (front ++ t, r)
    match s with
    | [] => none
    | '\\' :: c :: rest =>
      if mark = '\\' then some ([], c :: rest)
      else if c = mark then behind (if !isPattern && c = '&' then ['\\', c] else [c]) rest
      else if c = 'n' && isPattern then behind ['\n'] rest
      else behind ['\\', c] rest
    | c :: rest =>
      if c = mark then some ([], rest)
      else if c = '\n' && isPattern then none
      else if c = '[' && isPattern then
        let (negation, inner) := match rest with
          | '^' :: inner => (['^'], inner)
          | inner => ([], inner)
        match bracketed? (inner.length + 1) true inner with
        | some (set, rest) => behind ('[' :: negation ++ set) rest
        | none => none
      else behind [c] rest

/-- The text up to a delimiter; `none` if there is none in the rest. -/
def upTo? (mark : Char) (isPattern : Bool) : Reader (Option (List Char)) := do
  let s ← get
  match delimited? mark isPattern (s.rest.length + 1) s.rest with
  | none =>
    let line := if isPattern then s.rest.takeWhile (· ≠ '\n') else s.rest
    take (line.length + 1)
    return none
  | some (text, rest) =>
    take (s.rest.length - rest.length)
    return some text

/-- The character of an escape, and what follows it; `none` for what is no escape. -/
def escape? (s : List Char) : Option (Char × List Char) :=
  let based (base count : Nat) (rest : List Char) : Option (Char × List Char) :=
    let digits := (rest.take count).takeWhile fun c => (Decimal.digit? base c).isSome
    match Decimal.positional? base digits with
    | some n => some (Char.ofNat (n % 256), rest.drop digits.length)
    | none => none
  match s with
  | 'a' :: rest => some ('\x07', rest)
  | 'f' :: rest => some ('\x0c', rest)
  | 'r' :: rest => some ('\r', rest)
  | 't' :: rest => some ('\t', rest)
  | 'v' :: rest => some ('\x0b', rest)
  | 'c' :: c :: rest => some (Char.ofNat (c.toUpper.toNat ^^^ 64), rest)
  | 'd' :: rest => based 10 3 rest
  | 'o' :: rest => based 8 3 rest
  | 'x' :: rest => based 16 2 rest
  | _ => none

/-- The text of a pattern with characters in place of escapes. -/
def withoutEscapes : (fuel : Nat) → List Char → List Char
  | 0, s => s
  | _, [] => []
  | fuel + 1, '\\' :: rest =>
    match escape? rest, rest with
    | some (c, rest), _ => c :: withoutEscapes fuel rest
    | none, c :: rest => '\\' :: c :: withoutEscapes fuel rest
    | none, [] => ['\\']
  | fuel + 1, c :: rest => c :: withoutEscapes fuel rest

/-- The pattern of a text; none for the empty one. -/
def pattern (s : List Char) (foldsCase hasLines : Bool) : Reader (Option Pattern) := do
  if s.isEmpty then return none
  let extended := (← get).extended
  let grammar := { extended, isStrict := true, refusesLoneClasses := true }
  match Regex.parse grammar (withoutEscapes s.length s) with
  | .error message => fail message
  | .ok (expression, groups) => return some { expression, groups, foldsCase, hasLines }

/-- The letters behind a pattern of an address. -/
def addressPattern (text : List Char) : (fuel : Nat) → (foldsCase hasLines : Bool) →
    Reader Address
  | 0, _, _ => return .last
  | fuel + 1, foldsCase, hasLines => do
    skipBlanks
    match ← peek? with
    | some 'I' =>
      take 1
      addressPattern text fuel true hasLines
    | some 'M' =>
      take 1
      addressPattern text fuel foldsCase true
    | _ => return .matching (← pattern text foldsCase hasLines)

/-- The address in front, if there is one. -/
def address? : Reader (Option Address) := do
  let matching (mark : Char) : Reader (Option Address) := do
    match ← upTo? mark true with
    | none => fail "unterminated address regex"
    | some text => return some (← addressPattern text ((← get).rest.length + 1) false false)
  match (← get).rest with
  | '/' :: _ =>
    take 1
    matching '/'
  | '\\' :: c :: _ =>
    take 2
    matching c
  | '$' :: _ =>
    take 1
    return some .last
  | c :: _ =>
    if !Decimal.isDigit c then return none
    let first ← number
    skipBlanks
    match ← peek? with
    | some '~' =>
      take 1
      skipBlanks
      let step ← number
      return some (if step = 0 then .line first else .every first step)
    | _ => return some (.line first)
  | [] => return none

/-- The end of a range in front. -/
def rangeEnd? : Reader (Option RangeEnd) := do
  match ← peek? with
  | some '+' =>
    take 1
    skipBlanks
    return some (.after (← number))
  | some '~' =>
    take 1
    skipBlanks
    return some (.multiple (← number))
  | _ => return (← address?).map .at

/-- The lines that a command is for. -/
def selection : Reader Selection := do
  match ← peek? with
  | some '+' | some '~' =>
    take 1
    discard number
    fail "invalid usage of +N or ~N as first address"
  | _ => pure ()
  match ← address? with
  | none => return .all
  | some a => do
    skipBlanks
    let isZero : Bool := match a with
      | .line 0 => true
      | _ => false
    match ← peek? with
    | some ',' =>
      take 1
      skipBlanks
      match ← rangeEnd? with
      | none =>
        take 1
        fail "unexpected \x60,'"
      | some (.at (.matching p)) => return .range a (.at (.matching p))
      | some e =>
        skipBlanks
        if isZero then
          take 1
          fail "invalid usage of line address 0"
        return .range a e
    | _ =>
      if isZero then
        take 1
        fail "invalid usage of line address 0"
      return .one a

/-- The end of a command. -/
def finish : Reader Unit := do
  skipBlanks
  match ← peek? with
  | some '\x7d' | some '#' | none => return
  | some c =>
    take 1
    unless c = '\n' || c = ';' do fail "extra characters after command"

/-- The name of a label. -/
def label : Reader String := do
  skipBlanks
  return String.ofList (← takeWhile fun c => !isGap c && c ≠ ';' && c ≠ '\x7d')

/-- The name of a file, up to the end of the line. -/
def fileName : Reader String := do
  skipBlanks
  let name ← takeWhile (· ≠ '\n')
  if name.isEmpty then fail "missing filename in r/R/w/W commands"
  return String.ofList name

/-- The characters of a text up to the end of the line, and what follows them. -/
def textLines : (fuel : Nat) → List Char → List Char × List Char
  | 0, s => ([], s)
  | _, [] => (['\n'], [])
  | _, '\n' :: rest => (['\n'], rest)
  | _, ['\\'] => (['\n'], [])
  | fuel + 1, '\\' :: rest =>
    match escape? rest, rest with
    | some (c, rest), _ =>
      let (text, rest) := textLines fuel rest
      (c :: text, rest)
    | none, c :: rest =>
      let (text, rest) := textLines fuel rest
      ((if c = 'n' then '\n' else c) :: text, rest)
    | none, [] => (['\n'], [])
  | fuel + 1, c :: rest =>
    let (text, rest) := textLines fuel rest
    (c :: text, rest)

/-- The text of a command that has one. -/
def text : Reader (List Char) := do
  skipBlanks
  let readLines : Reader (List Char) := do
    let s := (← get).rest
    let (text, rest) := textLines (s.length + 1) s
    take (s.length - rest.length)
    return text
  match (← get).rest with
  | [] => fail "expected \\ after \x60a', \x60c' or \x60i'"
  | '\\' :: rest =>
    take 1
    let blanks := rest.takeWhile isBlank
    match rest.drop blanks.length with
    | [] => return []
    | '\n' :: _ =>
      take (blanks.length + 1)
      readLines
    | c :: _ =>
      if blanks.isEmpty && c ≠ '\\' then
        take 1
        return c :: (← readLines)
      else readLines
  | '\n' :: _ => return ['\n']
  | _ => readLines

/-- The pieces of a replacement. -/
def pieces : (fuel : Nat) → List Char → List Piece
  | 0, _ => []
  | _, [] => []
  | fuel + 1, '&' :: rest => .group 0 :: pieces fuel rest
  | fuel + 1, '\\' :: rest =>
    match escape? rest, rest with
    | some (c, rest), _ => .text [c] :: pieces fuel rest
    | none, 'L' :: rest => .change .lower :: pieces fuel rest
    | none, 'U' :: rest => .change .upper :: pieces fuel rest
    | none, 'l' :: rest => .change .lowerNext :: pieces fuel rest
    | none, 'u' :: rest => .change .upperNext :: pieces fuel rest
    | none, 'E' :: rest => .change .none :: pieces fuel rest
    | none, 'n' :: rest => .text ['\n'] :: pieces fuel rest
    | none, c :: rest =>
      (if Decimal.isDigit c then .group (Decimal.digitValue c) else .text [c]) :: pieces fuel rest
    | none, [] => [.text ['\\']]
  | fuel + 1, c :: rest =>
    let front := rest.takeWhile fun c => c ≠ '&' && c ≠ '\\'
    .text (c :: front) :: pieces fuel (rest.drop front.length)

/-- What stands behind a substitution. -/
structure Flags where
  foldsCase : Bool := false
  hasLines : Bool := false
  number : Option Nat := none
  isGlobal : Bool := false
  prints : Bool := false
  runs : Bool := false
  target : Option String := none

def flags : (fuel : Nat) → Flags → Reader Flags
  | 0, f => return f
  | fuel + 1, f => do
    match ← peek? with
    | none | some '\x7d' | some '#' => return f
    | some c =>
      if Decimal.isDigit c then
        let n ← number
        if f.number.isSome then fail "multiple number options to \x60s' command"
        if n = 0 then fail "number option to \x60s' command may not be zero"
        flags fuel { f with number := some n }
      else
        take 1
        match c with
        | '\n' | ';' => return f
        | ' ' | '\t' | '\r' => flags fuel f
        | 'i' | 'I' => flags fuel { f with foldsCase := true }
        | 'm' | 'M' => flags fuel { f with hasLines := true }
        | 'e' => flags fuel { f with runs := true }
        | 'p' =>
          if f.prints then fail "multiple \x60p' options to \x60s' command"
          flags fuel { f with prints := true }
        | 'g' =>
          if f.isGlobal then fail "multiple \x60g' options to \x60s' command"
          flags fuel { f with isGlobal := true }
        | 'w' => return { f with target := some (← fileName) }
        | _ => fail "unknown option to \x60s'"

def substitution : Reader Substitution := do
  let unterminated : Reader (List Char) := fail "unterminated \x60s' command"
  let mark ← match ← next? with
    | some c => if c = '\n' then fail "unterminated \x60s' command" else pure c
    | none => fail "unterminated \x60s' command"
  let source ← (← upTo? mark true).elim unterminated pure
  let replacement ← (← upTo? mark false).elim unterminated pure
  let f ← flags ((← get).rest.length + 1) {}
  let pattern ← pattern source f.foldsCase f.hasLines
  let replacement := pieces (replacement.length + 1) replacement
  let highest := (replacement.map fun
    | .group n => n
    | _ => 0).foldl max 0
  if let some p := pattern then
    if p.groups < highest then
      fail s!"invalid reference \\{highest} on \x60s' command's RHS"
  return {
    pattern, replacement, number := f.number.getD 1, isGlobal := f.isGlobal, prints := f.prints,
    runs := f.runs, target := f.target }

/-- The characters of one side of a transliteration. -/
def sideChars : List Char → List Char
  | '\\' :: c :: rest => (if c = 'n' then '\n' else c) :: sideChars rest
  | c :: rest => c :: sideChars rest
  | [] => []

def transliteration : Reader (List (Char × Char)) := do
  let unterminated : Reader (List Char) := fail "unterminated \x60y' command"
  let mark ← match ← next? with
    | some c => pure c
    | none => fail "unterminated \x60y' command"
  let old ← (← upTo? mark false).elim unterminated pure
  let new ← (← upTo? mark false).elim unterminated pure
  let plain (s : List Char) : List Char := sideChars (withoutEscapes s.length s)
  let (old, new) := (plain old, plain new)
  if old.length ≠ new.length then fail "strings for \x60y' command are different lengths"
  finish
  return old.zip new

/-- Keeps an instruction. -/
def keep (selection : Selection) (negated : Bool) (action : Action) : Reader Unit :=
  modify fun s => { s with program := s.program.push { selection, negated, action } }

/-- Keeps a jump whose place is settled later. -/
def keepJump (selection : Selection) (negated : Bool) (action : Action) : Reader Unit := do
  let name ← label
  skipBlanks
  match ← peek? with
  | some ';' | some '\n' => take 1
  | _ => pure ()
  modify fun s => { s with jumps := ⟨s.program.size, name⟩ :: s.jumps }
  keep selection negated action

/-- A command behind its addresses. -/
def command (selection : Selection) (negated : Bool) : Reader Unit := do
  let keep := keep selection negated
  let plain (action : Action) : Reader Unit := do
    finish
    keep action
  let onlyOne : Reader Unit := do
    match selection with
    | .range .. => fail "command only uses one address"
    | _ => pure ()
  let count : Reader (Option Nat) := do
    skipBlanks
    let digits ← takeWhile Decimal.isDigit
    return Decimal.natural? digits
  match ← next? with
  | none => fail "missing command"
  | some c =>
    match c with
    | '#' =>
      match selection with
      | .all => discard (takeWhile (· ≠ '\n'))
      | _ => fail "comments don't accept any addresses"
    | '\x7b' =>
      modify fun s => { s with blocks := s.program.size :: s.blocks }
      keep (.block 0)
    | '\x7d' =>
      match (← get).blocks with
      | [] => fail "unexpected \x60\x7d'"
      | start :: blocks =>
        match selection with
        | .all => pure ()
        | _ => fail "\x60\x7d' doesn't want any addresses"
        finish
        modify fun s =>
          let program := s.program.modify start fun i =>
            { i with action := .block s.program.size }
          { s with blocks, program }
    | ':' =>
      match selection with
      | .all => pure ()
      | _ => fail ": doesn't want any addresses"
      let name ← label
      if name.isEmpty then fail "\":\" lacks a label"
      modify fun s => { s with labels := (name, s.program.size) :: s.labels }
    | '=' => plain .showNumber
    | 'a' => keep (.append (← text))
    | 'i' => keep (.insert (← text))
    | 'c' => keep (.change (← text))
    | 'b' => keepJump selection negated (.branch 0)
    | 't' => keepJump selection negated (.branchIf true 0)
    | 'T' => keepJump selection negated (.branchIf false 0)
    | 'd' => plain .delete
    | 'D' => plain .deleteFirst
    | 'e' =>
      skipBlanks
      let line ← takeWhile (· ≠ '\n')
      keep (.run (if line.isEmpty then none else some line))
    | 'F' => plain .showName
    | 'g' => plain .get
    | 'G' => plain .getMore
    | 'h' => plain .hold
    | 'H' => plain .holdMore
    | 'l' =>
      let width ← count
      plain (.list width)
    | 'n' => plain .next
    | 'N' => plain .nextMore
    | 'p' => plain .print
    | 'P' => plain .printFirst
    | 'q' =>
      onlyOne
      let status := (← count).getD 0
      plain (.quit (status % 256))
    | 'Q' =>
      onlyOne
      let status := (← count).getD 0
      plain (.quitAtOnce (status % 256))
    | 'r' => keep (.readFile (← fileName))
    | 'R' => keep (.readLine (← fileName))
    | 'w' => keep (.writeLine (← fileName))
    | 'W' => keep (.writeFirst (← fileName))
    | 's' => keep (.substitute (← substitution))
    | 'v' =>
      let version ← label
      if "4.9" < version then fail "expected newer version of sed"
      finish
    | 'x' => plain .exchange
    | 'y' => keep (.transliterate (← transliteration))
    | 'z' => plain .clear
    | c => fail s!"unknown command: \x60{c}'"

/-- The commands of a script. -/
def commands : (fuel : Nat) → Reader Unit
  | 0 => return
  | fuel + 1 => do
    discard (takeWhile fun c => isGap c || c = ';')
    if (← get).rest.isEmpty then return
    let s ← selection
    skipBlanks
    let negated : Bool ← match ← peek? with
      | some '!' =>
        take 1
        skipBlanks
        if (← peek?) = some '!' then
          take 1
          fail "multiple \x60!'s"
        pure true
      | _ => pure false
    command s negated
    commands fuel

/-- An action with the place that it jumps to. -/
def settled (place : Nat) : Action → Action
  | .branch _ => .branch place
  | .branchIf replaced _ => .branchIf replaced place
  | a => a

/-- A whole script. The first line may say that lines are not printed. -/
def script : Reader Unit := do
  match (← get).rest with
  | ['#', 'n'] | '#' :: 'n' :: '\n' :: _ => modify ({ · with isQuiet := true })
  | _ => pure ()
  commands ((← get).rest.length + 1)
  let s ← get
  if !s.blocks.isEmpty then throw ⟨0, "unmatched \x60\x7b'"⟩
  s.jumps.reverse.forM fun j => do
    let place ←
      if j.label.isEmpty then pure s.program.size
      else match s.labels.lookup j.label with
        | some place => pure place
        | none => throw ⟨0, s!"can't find label for jump to \x60{j.label}'"⟩
    modify fun s =>
      let program := s.program.modify j.instruction fun i =>
        { i with action := settled place i.action }
      { s with program }

end Reader

/-- A script that has been read. -/
structure Script where
  program : Array Instruction
  isQuiet : Bool

def Script.read (extended : Bool) (s : List Char) : Except Fault Script := do
  let (_, scan) ← Reader.script.run { rest := s, extended }
  return { program := scan.program, isQuiet := scan.isQuiet }

end ReleasePreview.StreamEditor
