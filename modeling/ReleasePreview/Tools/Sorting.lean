import ReleasePreview.Format.Floating
import ReleasePreview.Tools.Pieces

/-! Programs for sorted lines: sorting, leaving out repeated lines, and comparing two inputs. -/
namespace ReleasePreview.Tools

/-- How texts are compared. -/
structure Comparison where
  numeric : Bool := false
  general : Bool := false
  sizes : Bool := false
  versions : Bool := false
  foldsCase : Bool := false
  skipsBlanks : Bool := false
  reversed : Bool := false
deriving DecidableEq

/-- A part of a line that counts: from a field and a place in it to others, counted from zero. The
end is behind a whole field if its place is zero. -/
structure SortKey where
  field : Nat
  place : Nat := 0
  last : Option (Nat × Nat) := none
  how : Comparison := {}

namespace Sorting

def isBlank (c : Char) : Bool := c = ' ' || c = '\t'

/-- What stands behind so many fields. -/
def behindFields (tab : Option Char) : Nat → List Char → List Char
  | 0, s => s
  | n + 1, s =>
    match tab with
    | some t => behindFields tab n ((s.dropWhile (· ≠ t)).drop 1)
    | none => behindFields tab n ((s.dropWhile isBlank).dropWhile (!isBlank ·))

/-- The length of a line up to the end of a key. -/
def endOf (tab : Option Char) (line : List Char) (last : Nat × Nat) : Nat :=
  let (field, place) := last
  if place = 0 then
    let rest := behindFields tab field line
    let rest := match tab with
      | some t => rest.dropWhile (· ≠ t)
      | none => (rest.dropWhile isBlank).dropWhile (!isBlank ·)
    line.length - rest.length
  else
    let rest := behindFields tab field line
    line.length - (rest.drop place).length

/-- The text of a key in a line. -/
def keyText (tab : Option Char) (k : SortKey) (line : List Char) : List Char :=
  let stop := match k.last with
    | some last => endOf tab line last
    | none => line.length
  let rest := behindFields tab k.field line
  let rest := if k.how.skipsBlanks then rest.dropWhile isBlank else rest
  let rest := rest.drop k.place
  rest.take (stop - (line.length - rest.length))

/-- The number in front of a text, as a whole number and the count of its decimal places. -/
def numberOf (s : List Char) : Int × Nat :=
  let s := s.dropWhile isBlank
  let (negative, s) := match s with
    | '-' :: s => (true, s)
    | s => (false, s)
  let whole := s.takeWhile Decimal.isDigit
  let part := match s.drop whole.length with
    | '.' :: s => s.takeWhile Decimal.isDigit
    | _ => []
  let n : Int := Decimal.naturalValue (whole ++ part)
  (if negative then -n else n, part.length)

def compareNumbers (a b : Int × Nat) : Ordering :=
  compare (a.1 * Nat.pow 10 b.2) (b.1 * Nat.pow 10 a.2)

/-- The rank of the letter behind a number of some size. -/
def unitOf (s : List Char) : Nat :=
  let rest := (s.dropWhile isBlank).dropWhile fun c => Decimal.isDigit c || c = '-' || c = '.'
  match rest.head? with
  | some 'K' | some 'k' => 1
  | some 'M' => 2
  | some 'G' => 3
  | some 'T' => 4
  | some 'P' => 5
  | _ => 0

def compareTexts (a b : List Char) : Ordering :=
  compare (String.ofList a) (String.ofList b)

/-- The texts in front of the numbers of a text, each with its number. -/
def versionParts : List Char → List (List Char × Nat)
  | [] => []
  | c :: s =>
    let front := (c :: s).takeWhile (!Decimal.isDigit ·)
    let rest := (c :: s).drop front.length
    let digits := rest.takeWhile Decimal.isDigit
    (front, Decimal.naturalValue digits) :: versionParts (rest.drop digits.length)
termination_by s => s.length
decreasing_by
  cases h : Decimal.isDigit c
  · simp only [List.takeWhile_cons, h, Bool.not_false, if_true, List.length_cons,
      List.drop_succ_cons, List.length_drop]
    omega
  · simp only [List.takeWhile_cons, h, Bool.not_true, Bool.false_eq_true, if_false, if_true,
      List.length_nil, List.drop_zero, List.length_cons, List.drop_succ_cons, List.length_drop]
    omega

/-- Compares texts with numbers in them. -/
def compareVersions (a b : List Char) : Ordering :=
  List.compareLex (fun x y => (compareTexts x.1 y.1).then (compare x.2 y.2))
    (versionParts a) (versionParts b)

/-- Compares texts in ascending order. -/
def compareUp (how : Comparison) (a b : List Char) : Ordering :=
  if how.numeric then compareNumbers (numberOf a) (numberOf b)
  else if how.general then
    let value (s : List Char) : Float := ((Format.float? s).map (·.1)).getD 0
    if value a < value b then .lt else if value b < value a then .gt else .eq
  else if how.sizes then
    (compare (unitOf a) (unitOf b)).then (compareNumbers (numberOf a) (numberOf b))
  else if how.versions then compareVersions a b
  else if how.foldsCase then compareTexts (a.map Char.toUpper) (b.map Char.toUpper)
  else compareTexts a b

def compareBy (how : Comparison) (a b : List Char) : Ordering :=
  if how.reversed then (compareUp how a b).swap else compareUp how a b

def withLetter (h : Comparison) (letter : Char) : Comparison :=
  match letter with
  | 'n' => { h with numeric := true }
  | 'g' => { h with general := true }
  | 'h' => { h with sizes := true }
  | 'V' => { h with versions := true }
  | 'f' => { h with foldsCase := true }
  | 'b' => { h with skipsBlanks := true }
  | 'r' => { h with reversed := true }
  | _ => h

/-- A place in a key: field, character, and letters behind them. -/
def position? (s : List Char) : Option (Nat × Nat × List Char) := do
  let field := s.takeWhile Decimal.isDigit
  let n ← Decimal.natural? field
  match s.drop field.length with
  | '.' :: rest =>
    let place := rest.takeWhile Decimal.isDigit
    return (n, ← Decimal.natural? place, rest.drop place.length)
  | rest => return (n, 0, rest)

/-- The key of a text, or what is wrong with it. -/
def key (usual : Comparison) (text : String) : Except String SortKey := do
  let invalid : String := s!"invalid number at field start: invalid count at start of '{text}'"
  let front := text.toList.takeWhile (· ≠ ',')
  let (field, place, letters) ← ((position? front).elim (.error invalid) .ok :
    Except String (Nat × Nat × List Char))
  if field = 0 then throw s!"field number is zero: invalid field specification '{text}'"
  let last ← match text.toList.drop front.length with
    | _ :: back =>
      match position? back with
      | none => throw s!"invalid number after ',': invalid count at start of '{String.ofList back}'"
      | some (0, _, _) => throw s!"field number is zero: invalid field specification '{text}'"
      | some (n, place, letters) => pure (some ((n - 1, place), letters))
    | [] => pure none
  let letters := letters ++ (last.map (·.2)).getD []
  let how := if letters.isEmpty then usual else letters.foldl withLetter {}
  return { field := field - 1, place := place - 1, last := last.map (·.1), how }

/-- Compares lines by their keys. -/
def compareKeys (tab : Option Char) (keys : List SortKey) (a b : List Char) : Ordering :=
  keys.foldl (fun r k => r.then (compareBy k.how (keyText tab k a) (keyText tab k b))) .eq

/-- How lines are put in order. -/
structure Order where
  tab : Option Char
  keys : List SortKey
  usual : Comparison
  /-- Lines with the same keys count as equal. -/
  byKeysAlone : Bool

def Order.compare (o : Order) (a b : List Char) : Ordering :=
  let r := compareKeys o.tab o.keys a b
  if o.byKeysAlone then r
  else r.then (if o.usual.reversed then (compareTexts a b).swap else compareTexts a b)

def Order.allows (o : Order) (a b : List Char) : Bool := o.compare a b ≠ .gt

/-- Keeps the first one of lines that are equal. -/
def distinct (same : List Char → List Char → Bool) : List (List Char) → List (List Char)
  | a :: b :: lines =>
    if same a b then distinct same (a :: lines) else a :: distinct same (b :: lines)
  | lines => lines
termination_by lines => lines.length

/-- The lines of some inputs in order. Inputs that are merged are in order themselves. -/
def Order.arranged (o : Order) (unique merges : Bool) (inputs : List (List (List Char))) :
    List (List Char) :=
  let sorted := if merges then inputs.foldl (fun a b => a.merge b o.allows) []
    else inputs.flatten.mergeSort o.allows
  if unique then distinct (fun a b => o.compare a b = .eq) sorted else sorted

/-- Whether a line may not be the next one. -/
def Order.isWrong (o : Order) (unique : Bool) (a b : List Char) : Bool :=
  if unique then o.compare a b ≠ .lt else !o.allows a b

/-- The first line that is not in order, with its number. -/
def disorder (wrong : List Char → List Char → Bool) (n : Nat) : List (List Char) →
    Option (Nat × List Char)
  | a :: b :: lines => if wrong a b then some (n + 1, b) else disorder wrong (n + 1) (b :: lines)
  | _ => none

def optionTable : OptionTable where
  letters := "bCcdfghik:Mmno:rS:st:T:uVz"
  names := [("reverse", 'r'), ("numeric-sort", 'n'), ("unique", 'u'), ("key", 'k'),
    ("field-separator", 't'), ("output", 'o'), ("stable", 's'), ("check", 'c'),
    ("ignore-case", 'f'), ("ignore-leading-blanks", 'b'), ("general-numeric-sort", 'g'),
    ("human-numeric-sort", 'h'), ("version-sort", 'V')]

/-- Sorts lines, or says that they are not sorted. -/
def run (c : ProgramCall) (o : Options) (tab : Option Char) (keys : List SortKey)
    (usual : Comparison) : Program Nat := do
  let paths := orInput o.args
  let keys := if keys.isEmpty then [{ field := 0, how := usual }] else keys
  let unique := o.has 'u'
  let order : Order := { tab, keys, usual, byKeysAlone := unique || o.has 's' }
  let lines (path : String) : Program (Except FileError (List (List Char))) := do
    let opened ← if path = "-" then pure (.ok 0) else openNew path .reading
    match opened with
    | .error e =>
      let words := if o.has 'c' || o.has 'C' then "open failed" else "cannot read"
      complain c s!"{words}: {path}: {e.reason}"
      return .error e
    | .ok d =>
      let r ← Program.readAll d
      if d ≠ 0 then Program.close d
      match r with
      | .error e =>
        complain c s!"read failed: {path}: {e.reason}"
        return .error e
      | .ok bytes => return .ok ((linesOf (Text.Octets.ofBytes bytes).toList).map bare)
  let rec gather (done : List (List (List Char))) : List String →
      Program (Option (List (List (List Char))))
    | [] => return some done.reverse
    | path :: paths => do
      match ← lines path with
      | .error _ => return none
      | .ok found => gather (found :: done) paths
  if let some extra := if o.has 'c' || o.has 'C' then paths[1]? else none then
    let letter := if o.has 'c' then 'c' else 'C'
    complain c s!"extra operand '{extra}' not allowed with -{letter}"
    return 2
  match ← gather [] paths with
  | none => return 2
  | some inputs =>
    if o.has 'c' || o.has 'C' then
      match disorder (order.isWrong unique) 1 inputs.flatten with
      | none => return 0
      | some (n, line) =>
        if o.has 'c' then complain c (paths.headD "-" ++ s!":{n}: disorder: {String.ofList line}")
        return 1
    else
      let text := (order.arranged unique (o.has 'm') inputs).flatMap fun line => line ++ ['\n']
      match o.value? 'o' with
      | none =>
        writeAll [text]
        return 0
      | some path =>
        match ← openNew path .writing with
        | .error e =>
          complain c s!"open failed: {path}: {e.reason}"
          return 2
        | .ok d =>
          discard (Program.put d (String.ofList text))
          return 0

end Sorting

def sort : Tool := fun _ => withOptions Sorting.optionTable 2 fun c o => do
  let usual := (o.found.map (·.1)).foldl Sorting.withLetter {}
  match (o.values 'k').mapM (Sorting.key usual) with
  | .error message =>
    complain c message
    return 2
  | .ok keys =>
    match (o.value? 't').map (·.toList) with
    | none => Sorting.run c o none keys usual
    | some [t] => Sorting.run c o (some t) keys usual
    | some ['\\', '0'] => Sorting.run c o (some '\x00') keys usual
    | some [] =>
      complain c "empty tab"
      return 2
    | some s =>
      complain c s!"multi-character tab '{String.ofList s}'"
      return 2

/-- A line that has been read, how often it was there, and what has been written. -/
structure Repetition where
  line : List Char
  count : Nat

def uniq : Tool := fun _ => withOptions
  { letters := "cdDf:is:uw:z", names := [("count", 'c'), ("repeated", 'd'), ("unique", 'u'),
      ("ignore-case", 'i'), ("skip-fields", 'f'), ("skip-chars", 's'), ("check-chars", 'w')] } 1
  fun c o => do
  let number (letter : Char) : Option Nat := (o.value? letter).bind (·.toNat?)
  let compared (line : List Char) : List Char :=
    let rest := (List.range ((number 'f').getD 0)).foldl
      (fun s _ => (s.dropWhile Sorting.isBlank).dropWhile (!Sorting.isBlank ·)) line
    let rest := rest.drop ((number 's').getD 0)
    let rest := match number 'w' with
      | some n => rest.take n
      | none => rest
    if o.has 'i' then rest.map Char.toUpper else rest
  let shown (r : Repetition) : List Char :=
    let wanted := if o.has 'd' || o.has 'D' then 1 < r.count
      else if o.has 'u' then r.count = 1 else true
    let wanted := wanted && !(o.has 'u' && 1 < r.count)
    if !wanted then []
    else if o.has 'D' then (List.replicate r.count (r.line ++ ['\n'])).flatten
    else (if o.has 'c' then column 7 r.count ++ [' '] else []) ++ r.line ++ ['\n']
  let step (s : Option Repetition) (line : List Char) : Step (Option Repetition) :=
    let text := bare line
    match s with
    | none => { state := some ⟨text, 1⟩ }
    | some r =>
      if compared r.line = compared text then { state := some { r with count := r.count + 1 } }
      else { state := some ⟨text, 1⟩, output := shown r }
  match o.args with
  | _ :: _ :: extra :: _ => misuse c s!"extra operand '{extra}'" 1
  | args =>
    let target := (args.drop 1).head?.filter (· ≠ "-")
    let opened ← match target with
      | some path => do pure ((← Program.openAt 1 path .writing).map (path, ·))
      | none => pure none
    match opened with
    | some (path, e) =>
      complain c s!"{path}: {e.reason}"
      return 1
    | none =>
      let (left, status) ← eachLineOf c 1 step "" 0 none (orInput (args.take 1))
      writeAll (left.map shown).toList
      return status

namespace Merging

/-- An input that is merged: the lines that have been taken, the last one first, and the others. -/
structure Side where
  taken : List (List Char) := []
  rest : List (List Char)

/-- How a merging goes on. -/
structure Progress where
  /-- Lines are said to be out of order even if all have partners. `none` is for never. -/
  checks : Option Bool := some false
  hasLoneLine : Bool := false
  /-- The inputs that have been complained of. -/
  unordered : List Nat := []

/-- Complains of lines that are out of order, once for each input. -/
def check (c : ProgramCall) (number : Nat) (s : Progress) (a b : List Char) :
    Program Progress := do
  let isChecked := s.checks.any fun always => always || s.hasLoneLine
  if isChecked && !s.unordered.contains number && Sorting.compareTexts a b = .gt then
    complain c s!"file {number} is not in sorted order"
    if s.checks = some true then Program.exit 1
    else return { s with unordered := number :: s.unordered }
  else return s

/-- Takes the next line of an input. -/
def advance (c : ProgramCall) (number : Nat) (s : Progress) (side : Side) :
    Program (Progress × Side) := do
  match side.rest with
  | [] => return (s, side)
  | line :: rest =>
    let s ← match rest, side.taken with
      | next :: _, _ => check c number s line next
      | [], before :: _ => check c number s before line
      | [], [] => pure s
    return (s, ⟨line :: side.taken, rest⟩)

/-- Goes over the lines of two inputs side by side. The fuel is their number. -/
def merge (c : ProgramCall) (emit : Nat → List Char → Program Unit) :
    (fuel : Nat) → Progress → Side → Side → Program Progress
  | 0, s, _, _ => return s
  | fuel + 1, s, left, right => do
    let order : Option (Ordering × List Char) := match left.rest, right.rest with
      | [], [] => none
      | a :: _, [] => some (.lt, a)
      | [], b :: _ => some (.gt, b)
      | a :: _, b :: _ =>
        let order := Sorting.compareTexts a b
        some (order, if order = .gt then b else a)
    match order with
    | none => return s
    | some (.eq, line) =>
      emit 2 line
      let (s, left) ← advance c 1 s left
      let (s, right) ← advance c 2 s right
      merge c emit fuel s left right
    | some (.lt, line) =>
      emit 0 line
      let (s, left) ← advance c 1 { s with hasLoneLine := true } left
      merge c emit fuel s left right
    | some (.gt, line) =>
      emit 1 line
      let (s, right) ← advance c 2 { s with hasLoneLine := true } right
      merge c emit fuel s left right

end Merging

def comm : Tool := fun _ => withOptions
  { letters := "123cnD:z", names := [("check-order", 'c'), ("nocheck-order", 'n'),
      ("output-delimiter", 'D'), ("zero-terminated", 'z')] } 1 fun c o => do
  match o.args with
  | [a, b] =>
    let (s, status) ← textOf c 1 [a]
    if status ≠ 0 then return 1
    let (t, status) ← textOf c 1 [b]
    if status ≠ 0 then return 1
    let lines (s : List Char) := (linesOf s).map bare
    let hidden (n : Nat) : Bool := o.has (Char.ofNat (n + 49))
    let gap := ((o.value? 'D').getD "\t").toList
    let emit (n : Nat) (line : List Char) : Program Unit :=
      if hidden n then return
      else
        let gaps := ((List.range n).filter (!hidden ·)).flatMap fun _ => gap
        writeAll [gaps ++ line ++ ['\n']]
    let checks := if o.has 'n' then none else some (o.has 'c')
    let r ← Merging.merge c emit (s.length + t.length + 1) { checks } ⟨[], lines s⟩ ⟨[], lines t⟩
    if r.unordered.isEmpty then return 0
    complain c "input is not in sorted order"
    return 1
  | [] => misuse c "missing operand" 1
  | [a] => misuse c s!"missing operand after '{a}'" 1
  | _ :: _ :: extra :: _ => misuse c s!"extra operand '{extra}'" 1

end ReleasePreview.Tools
