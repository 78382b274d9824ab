import ReleasePreview.Decimal.Natural
import ReleasePreview.Regex.Expression

/-! Reading regular expressions, basic and extended ones. -/
namespace ReleasePreview.Regex

/-- How expressions are written. -/
structure Dialect where
  extended : Bool := false
  /-- Backslashes stand before the names of control characters, and before members of sets. -/
  namesControls : Bool := false
  /-- Codes behind backslashes stand for characters. -/
  namesCodes : Bool := false
  /-- There are names for words and their edges. -/
  hasNames : Bool := true
  /-- Braces may hold bounds. -/
  hasBounds : Bool := true
  /-- A set may not look like the name of a class. -/
  refusesLoneClasses : Bool := false
  /-- Operators have something to repeat, and braces hold bounds. -/
  isStrict : Bool := false
  /-- No branch is empty. -/
  refusesEmpty : Bool := false

/-- The rest of an expression, and the number of groups so far. -/
structure Scan where
  rest : List Char
  groups : Nat := 0

abbrev Reader := StateT Scan (Except String)

namespace Reader

def take (n : Nat) : Reader Unit := modify fun s => { s with rest := s.rest.drop n }

/-- Characters behind a backslash that stand for others. -/
def controlChar? : Char → Option Char
  | 'n' => some '\n'
  | 't' => some '\t'
  | 'r' => some '\r'
  | 'f' => some '\x0c'
  | 'v' => some '\x0b'
  | 'a' => some '\x07'
  | _ => none

/-- The character of a code behind a backslash, and what follows it. -/
def codedChar? (s : List Char) : Option (Char × List Char) :=
  let read (base count : Nat) (s : List Char) : Option (Char × List Char) :=
    let ds := (s.take count).takeWhile fun c => (Decimal.digit? base c).isSome
    if ds.isEmpty then none
    else some (Char.ofNat ((Decimal.positional? base ds).getD 0 % 256), s.drop ds.length)
  match s with
  | 'b' :: rest => some ('\x08', rest)
  | 'x' :: rest => read 16 2 rest
  | s => read 8 3 s

/-- A character of a set, and what follows it. -/
def setChar (d : Dialect) (s : List Char) : Option (Char × List Char) :=
  match s with
  | '[' :: '.' :: c :: '.' :: ']' :: rest => some (c, rest)
  | '[' :: '=' :: c :: '=' :: ']' :: rest => some (c, rest)
  | '\\' :: c :: rest =>
    match if d.namesCodes then codedChar? (c :: rest) else none with
    | some found => some found
    | none =>
      if d.namesControls then some ((controlChar? c).getD c, rest) else some ('\\', c :: rest)
  | c :: rest => some (c, rest)
  | [] => none

def unmatchedSet : String := "Unmatched [, [^, [:, [., or [="

/-- The members of a set up to its bracket. The fuel is the length of the text. -/
def setItems (d : Dialect) (isFirst : Bool) : (fuel : Nat) → List Char →
    Except String (List Text.SetItem × List Char)
  | 0, _ => .error unmatchedSet
  | _, [] => .error unmatchedSet
  | fuel + 1, s =>
    match s, isFirst, Text.className? s with
    | ']' :: rest, false, _ => .ok ([], rest)
    | _, _, some (name, rest) => do
      if (Text.characterClass? name).isNone then throw "Invalid character class name"
      let (items, rest) ← setItems d false fuel rest
      return (.named name :: items, rest)
    | s, _, none =>
      match setChar d s with
      | none => .error unmatchedSet
      | some (low, '-' :: ']' :: rest) => do
        let (items, rest) ← setItems d false fuel ('-' :: ']' :: rest)
        return (.range low low :: items, rest)
      | some (low, '-' :: rest) =>
        match setChar d rest with
        | none => .error unmatchedSet
        | some (high, rest) => do
          if high < low && !d.namesCodes then throw "Invalid range end"
          let (items, rest) ← setItems d false fuel rest
          return (.range low (if high < low then low else high) :: items, rest)
      | some (c, rest) => do
        let (items, rest) ← setItems d false fuel rest
        return (.range c c :: items, rest)

def loneClass : String := "character class syntax is [[:space:]], not [:space:]"

/-- A set behind its opening bracket. -/
def set (d : Dialect) : Reader Expression := do
  let s := (← get).rest
  if d.refusesLoneClasses && s.head? = some ':' then
    let name := (s.drop 1).takeWhile (· ≠ ']')
    if 1 < name.length && name.getLast? = some ':' then throw loneClass
  let (negated, s) := match s with
    | '^' :: s => (true, s)
    | s => (false, s)
  let (items, rest) ← setItems d true (s.length + 1) s
  modify ({ · with rest })
  return .set negated items

/-- The bounds behind a brace, and the rest behind their end; `none` if they are none. -/
def bounds? (d : Dialect) (s : List Char) : Option (Nat × Option Nat × List Char) := do
  let low := s.takeWhile Decimal.isDigit
  let s := s.drop low.length
  let (high, s) : Option (List Char) × List Char := match s with
    | ',' :: s =>
      let high := s.takeWhile Decimal.isDigit
      (some high, s.drop high.length)
    | s => (none, s)
  let rest ← match d.extended, s with
    | true, '\x7d' :: s => some s
    | false, '\\' :: '\x7d' :: s => some s
    | _, _ => none
  let least ← if low.isEmpty then (if high.isSome then some 0 else none) else Decimal.natural? low
  match high with
  | none => return (least, some least, rest)
  | some [] => return (least, none, rest)
  | some high => return (least, Decimal.natural? high, rest)

/-- The operator in front that repeats what stands before it, and the rest behind it. -/
def repetition? (d : Dialect) (s : List Char) : Option (Nat × Option Nat × List Char) :=
  match d.extended, s with
  | _, '*' :: s => some (0, none, s)
  | true, '+' :: s => some (1, none, s)
  | true, '?' :: s => some (0, some 1, s)
  | false, '\\' :: '+' :: s => some (1, none, s)
  | false, '\\' :: '?' :: s => some (0, some 1, s)
  | true, '\x7b' :: s => if d.hasBounds then bounds? d s else none
  | false, '\\' :: '\x7b' :: s => bounds? d s
  | _, _ => none

/-- What is wrong with the operator in front, if it is one without sense. -/
def repetitionFault? (d : Dialect) (s : List Char) : Option String :=
  let fault (isAsked : Bool) (s : List Char) : Option String :=
    if !isAsked then none
    else match bounds? d s with
      | some (least, some most, _) =>
        if most < least then some "Invalid content of \\\x7b\\\x7d" else none
      | some (_, none, _) => none
      | none =>
        let rest := s.dropWhile fun c => Decimal.isDigit c || c = ','
        if rest.isEmpty || rest = ['\\'] then some "Unmatched \\\x7b"
        else some "Invalid content of \\\x7b\\\x7d"
  match d.extended, s with
  | true, '\x7b' :: s => fault (d.hasBounds && (d.isStrict || (bounds? d s).isSome)) s
  | false, '\\' :: '\x7b' :: s => fault true s
  | _, _ => none

def word : List Text.SetItem := [.named "alnum", .range '_' '_']

/-- What a character behind a backslash stands for by its name. -/
def named? (c : Char) : Option Expression :=
  match c with
  | 'w' => some (.set false word)
  | 'W' => some (.set true word)
  | 's' => some (.set false [.named "space"])
  | 'S' => some (.set true [.named "space"])
  | 'b' => some (.edge .word)
  | 'B' => some (.edge .noWord)
  | '<' => some (.edge .wordStart)
  | '>' => some (.edge .wordStop)
  | '\x60' => some (.edge .start)
  | '\'' => some (.edge .stop)
  | _ => none

/-- What stands in front ends a branch. -/
def endsBranch (d : Dialect) (depth : Nat) (s : List Char) : Bool :=
  match d.extended, s with
  | _, [] => true
  | true, '|' :: _ => true
  | false, '\\' :: '|' :: _ => true
  | true, ')' :: _ => depth ≠ 0
  | false, '\\' :: ')' :: _ => true
  | _, _ => false

def noOperand : String := "Invalid preceding regular expression"

/-- Repeats an expression as often as operators say. The fuel is their number. -/
def repeating (d : Dialect) : (fuel : Nat) → Expression → Reader Expression
  | 0, e => return e
  | fuel + 1, e => do
    if let some fault := repetitionFault? d (← get).rest then throw fault
    match repetition? d (← get).rest with
    | none => return e
    | some (least, most, rest) =>
      modify ({ · with rest })
      repeating d fuel (.repeated e least most)

mutual

/-- Branches with bars between them. -/
def choice (d : Dialect) : (fuel depth : Nat) → Reader Expression
  | 0, _ => return .empty
  | fuel + 1, depth => do
    let e ← branch d fuel depth true .empty
    match d.extended, (← get).rest with
    | true, '|' :: _ =>
      take 1
      return .choice e (← choice d fuel depth)
    | false, '\\' :: '|' :: _ =>
      take 2
      return .choice e (← choice d fuel depth)
    | _, _ => return e

/-- Parts of a branch behind those that there are. -/
def branch (d : Dialect) : (fuel depth : Nat) → (isFirst : Bool) → Expression → Reader Expression
  | 0, _, _, e => return e
  | fuel + 1, depth, isFirst, e => do
    let s := (← get).rest
    if endsBranch d depth s then
      if d.refusesEmpty && e = .empty then
        throw (if s.isEmpty && depth ≠ 0 then "Unmatched ( or \\(" else noOperand)
      if !d.extended && depth = 0 && (s.take 2 = ['\\', ')']) then throw "Unmatched ) or \\)"
      return e
    let (isEdge, part) ← atom d fuel depth isFirst
    let part ← if isEdge && (!d.extended || d.isStrict) then pure part
      else repeating d s.length part
    let whole := if e = .empty then part else .sequence e part
    branch d fuel depth (isEdge && isFirst) whole

/-- A part of a branch, and whether it is an edge. -/
def atom (d : Dialect) : (fuel depth : Nat) → (isFirst : Bool) → Reader (Bool × Expression)
  | 0, _, _ => return (false, .empty)
  | fuel + 1, depth, isFirst => do
    let s := (← get).rest
    let group (count : Nat) : Reader (Bool × Expression) := do
      take count
      let number := (← get).groups + 1
      modify fun s => { s with groups := number }
      let e ← choice d fuel (depth + 1)
      let close := if d.extended then [')'] else ['\\', ')']
      if !close.isPrefixOf (← get).rest then throw "Unmatched ( or \\("
      take close.length
      return (false, .group number e)
    match d.extended, s with
    | _, [] => return (false, .empty)
    | _, '.' :: _ =>
      take 1
      return (false, .any)
    | _, '[' :: _ =>
      take 1
      return (false, ← set d)
    | true, '(' :: _ => group 1
    | false, '\\' :: '(' :: _ => group 2
    | extended, '^' :: _ =>
      take 1
      return if extended || isFirst then (true, .edge .lineStart) else (false, .char '^')
    | extended, '$' :: rest =>
      take 1
      return if extended || endsBranch d depth rest then (true, .edge .lineStop)
        else (false, .char '$')
    | _, ['\\'] =>
      if !d.namesCodes then throw "Trailing backslash"
      take 1
      return (false, .char '\\')
    | _, '\\' :: c :: _ =>
      if let some (c, rest) := if d.namesCodes then codedChar? (s.drop 1) else none then
        modify ({ · with rest })
        return (false, .char c)
      take 2
      if Decimal.isDigit c && c ≠ '0' then
        let n := Decimal.digitValue c
        if (← get).groups < n then throw "Invalid back reference"
        return (false, .reference n)
      match if d.hasNames then named? c else none with
      | some e => return (false, e)
      | none =>
        return (false, .char (if d.namesControls then (controlChar? c).getD c else c))
    | true, '*' :: _ | true, '+' :: _ | true, '?' :: _ =>
      if isFirst && !d.isStrict && !d.refusesEmpty then
        take 1
        return (false, .empty)
      else throw noOperand
    | true, ')' :: _ =>
      if d.isStrict then throw "Unmatched ) or \\)"
      take 1
      return (false, .char ')')
    | true, '\x7b' :: _ =>
      if d.isStrict then throw noOperand
      take 1
      return (false, .char '\x7b')
    | _, c :: _ =>
      take 1
      return (false, .char c)

end

end Reader

/-- The expression of a text, with the number of its groups, or what is wrong with it. -/
def parse (d : Dialect) (s : List Char) : Except String (Expression × Nat) := do
  let (e, after) ← (Reader.choice d (4 * s.length + 8) 0).run { rest := s }
  if after.rest.isEmpty then return (e, after.groups) else throw "Unmatched ) or \\)"

end ReleasePreview.Regex
