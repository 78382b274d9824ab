import ReleasePreview.Awk.Program
import ReleasePreview.Decimal.Natural
import ReleasePreview.Format.Conversion

/-!
Values: numbers, texts, and texts from outside that count as numbers if they look like them. Formats
have values in them.
-/
namespace ReleasePreview.Awk

inductive Value where
  | unset
  | number (x : Float)
  | text (s : String)
  | input (s : String)

instance : Inhabited Value := ⟨.unset⟩

/-- The number in front of a text behind a sign, hexadecimal behind `0x` or one of the names of what
is no finite number, and what follows it. -/
def unsigned? (s : List Char) : Option (Float × List Char) :=
  let name := (s.takeWhile Char.isAlpha).map Char.toLower
  let hexadecimal : Option (Float × List Char) := match s with
    | '0' :: x :: s =>
      if x = 'x' || x = 'X' then
        let whole := (Decimal.digitsIn 16 s).1
        let s := s.drop whole.length
        let part := match s with
          | '.' :: s => (Decimal.digitsIn 16 s).1
          | _ => []
        let s := if part.isEmpty then s else s.drop (part.length + 1)
        let digits := whole ++ part
        let value := Float.ofNat ((Decimal.positional? 16 digits).getD 0)
        let (power, s) : Int × List Char := match s with
          | 'p' :: rest | 'P' :: rest =>
            match Decimal.decimalInteger? rest with
            | some (n, after) => (n, after)
            | none => (0, s)
          | s => (0, s)
        if digits.isEmpty then none else some (value.scaleB (power - 4 * part.length), s)
      else none
    | _ => none
  match hexadecimal with
  | some found => some found
  | none =>
    if "infinity".toList.isPrefixOf name then some (1 / 0, s.drop 8)
    else if "inf".toList.isPrefixOf name then some (1 / 0, s.drop 3)
    else if "nan".toList.isPrefixOf name then some (0 / 0, s.drop 3)
    else match s with
      | c :: _ => if Decimal.isDigit c || c = '.' then Format.float? s else none
      | [] => none

/-- The number in front of a text behind blanks, and what follows it. -/
def number? (s : List Char) : Option (Float × List Char) :=
  match s.dropWhile Decimal.isGap with
  | '-' :: s => (unsigned? s).map fun (x, rest) => (-x, rest)
  | '+' :: s => unsigned? s
  | s => unsigned? s

/-- The number that a text looks like. -/
def looksLike? (s : List Char) : Option Float :=
  let s := ((s.dropWhile Decimal.isGap).reverse.dropWhile Decimal.isGap).reverse
  match s with
  | [] => none
  | c :: _ =>
    if Decimal.isDigit c || "+-.".toList.contains c then
      match number? s with
      | some (x, []) => some x
      | _ => none
    else none

/-- A number without its places. The largest numbers of 64 bits stand for what is beyond them. -/
def truncated (x : Float) : Int :=
  match Format.Stored.of x with
  | .notANumber => Decimal.minInteger
  | .infinite negative => if negative then -Decimal.maxInteger else 18446744073709551615
  | .finite negative m e =>
    let n : Int := (m * Decimal.twoTo e.toNat) / Decimal.twoTo (-e).toNat
    if !negative then min n 18446744073709551615
    else if -n < Decimal.minInteger then -Decimal.maxInteger
    else -n

/-- The integer that a number is, if it has few enough digits. -/
def integer? (x : Float) : Option Int :=
  if x.floor == x && -9223372036854775808.0 ≤ x && x ≤ 18446744073709551616.0 then
    some (truncated x)
  else none

/-- A number as a conversion writes it. -/
def converted (c : Format.Conversion) (x : Float) : List Char :=
  if x.isNaN then c.inColumns false ['-'] "nan".toList else c.ofFloat x

/-- The conversion of a format that has nothing else in it. -/
def conversion? (format : String) : Option Format.Conversion :=
  match format.toList with
  | '%' :: s =>
    let flags := s.takeWhile fun c => "-+ #0".toList.contains c
    let (width, s) := Decimal.digitsIn 10 (s.drop flags.length)
    let (precision, s) := match s with
      | '.' :: s => (some (Decimal.naturalValue (Decimal.digitsIn 10 s).1),
          (Decimal.digitsIn 10 s).2)
      | s => (none, s)
    match s with
    | [letter] => some ⟨flags, Decimal.naturalValue width, precision, letter⟩
    | _ => none
  | _ => none

/-- The text of a number that is no integer. -/
def fractionText (format : String) (x : Float) : String :=
  let c := (conversion? format).getD ⟨[], 0, some 6, 'g'⟩
  String.ofList (if "di".toList.contains c.letter then c.ofInteger (truncated x)
    else converted c x)

/-- The text of a number. -/
def numberText (format : String) (x : Float) : String :=
  match integer? x with
  | some n => toString n
  | none => fractionText format x

namespace Value

def ofBool (b : Bool) : Value := .number (if b then 1 else 0)

def toNumber : Value → Float
  | unset => 0
  | number x => x
  | text s | input s => ((number? s.toList).map (·.1)).getD 0

def toText (format : String) : Value → String
  | unset => ""
  | number x => numberText format x
  | text s | input s => s

/-- The number that a value is compared as, unless it is compared as a text. -/
def numeric? : Value → Option Float
  | unset => some 0
  | number x => some x
  | text _ => none
  | input s => looksLike? s.toList

def isTrue : Value → Bool
  | unset => false
  | number x => x != 0
  | text s => !s.isEmpty
  | input s =>
    match looksLike? s.toList with
    | some x => x != 0
    | none => !s.isEmpty

/-- The order of two values: that of numbers if both can be numbers. -/
def order (format : String) (a b : Value) : Ordering :=
  match a.numeric?, b.numeric? with
  | some x, some y => if x < y then .lt else if x > y then .gt else .eq
  | _, _ => compare (a.toText format) (b.toText format)

end Value

def Comparison.holds : Comparison → Ordering → Bool
  | less, o => o = .lt
  | lessEqual, o => o ≠ .gt
  | equal, o => o = .eq
  | notEqual, o => o ≠ .eq
  | greater, o => o = .gt
  | greaterEqual, o => o ≠ .lt

/-- What is left of a number when multiples of another one are taken away, towards zero. -/
def remainder (x y : Float) : Float :=
  match Format.Stored.of x, Format.Stored.of y with
  | .finite negative m e, .finite _ n f =>
    if n = 0 then 0 / 0
    else
      let least := min e f
      let a := m * Decimal.twoTo (e - least).toNat
      let b := n * Decimal.twoTo (f - least).toNat
      let r := (Float.ofNat (a % b)).scaleB least
      if negative then -r else r
  | .finite .., .infinite _ => x
  | _, _ => 0 / 0

def Operation.apply : Operation → Float → Float → Float
  | add, x, y => x + y
  | subtract, x, y => x - y
  | multiply, x, y => x * y
  | divide, x, y => x / y
  | remainder, x, y => Awk.remainder x y
  | power, x, y => x.pow y

/-- What a format has given so far, backwards, and the values that are left. -/
structure Formatting where
  args : List Value
  written : List (List Char) := []
  /-- The number of the conversion. -/
  number : Nat := 1

/-- What is wrong with a format. -/
inductive FormatFault where
  | noArgument
  | noConversion (number : Nat)
deriving Repr, DecidableEq

def FormatFault.message : FormatFault → (function format : String) → String
  | noArgument, function, format =>
    s!"not enough arguments passed to {function}(\"{format}\")"
  | noConversion n, function, format =>
    s!"improper conversion(number {n}) in {function}(\"{format}\")"

abbrev Formatter := ExceptT FormatFault (StateM Formatting)

namespace Formatter

def write (s : List Char) : Formatter Unit := modify fun p => { p with written := s :: p.written }

def next : Formatter Value := do
  match (← get).args with
  | [] => throw .noArgument
  | a :: args =>
    modify ({ · with args })
    return a

/-- A width, which may be a value. -/
def width (s : List Char) : Formatter (Int × List Char) := do
  match s with
  | '*' :: s => return (truncated (← next).toNumber, s)
  | s =>
    let (digits, rest) := Decimal.digitsIn 10 s
    return (Decimal.naturalValue digits, rest)

/-- The character that a value stands for, by its code if it is a number. -/
def character (a : Value) : Char :=
  let code? : Option Float := match a with
    | .number x => some x
    | .input s => looksLike? s.toList
    | _ => none
  match code? with
  | some x => Char.ofNat (Int.emod (truncated x) 256).toNat
  | none => ((a.toText "").toList.head?).getD '\x00'

/-- Writes a value as a conversion asks for it. -/
def convert (texts : String) (c : Format.Conversion) (a : Value) : Formatter Unit := do
  let wrapped (n : Int) : Nat := (Int.emod n 18446744073709551616).toNat
  if c.letter = 's' then write (c.ofText (a.toText texts).toList)
  else if c.letter = 'c' then write ({ c with precision := none }.ofText [character a])
  else if c.letter = 'd' || c.letter = 'i' then write (c.ofInteger (truncated a.toNumber))
  else if "ouxX".toList.contains c.letter then
    write (c.ofNatural (wrapped (truncated a.toNumber)))
  else if "eEfgG".toList.contains c.letter then write (converted c a.toNumber)
  else throw (.noConversion (← get).number)

/-- Goes over a format. The fuel is its length. -/
def pass (texts : String) : (fuel : Nat) → List Char → Formatter Unit
  | 0, _ => return
  | _, [] => return
  | fuel + 1, '%' :: '%' :: s => do
    write ['%']
    pass texts fuel s
  | fuel + 1, '%' :: s => do
    if (← get).args.isEmpty then throw .noArgument
    let flags := s.takeWhile fun c => "-+ #0".toList.contains c
    let (columns, s) ← width (s.drop flags.length)
    let flags := if columns < 0 then '-' :: flags else flags
    let (precision, s) ← match s with
      | '.' :: s => do
        let (n, s) ← width s
        pure (if n < 0 then none else some n.toNat, s)
      | s => pure (none, s)
    match s.dropWhile fun c => "hlqLjzt".toList.contains c with
    | [] => throw (.noConversion (← get).number)
    | letter :: rest =>
      let isKnown := "cdiouxXeEfgGs".toList.contains letter
      if !isKnown then throw (.noConversion (← get).number)
      convert texts ⟨flags, columns.natAbs, precision, letter⟩ (← next)
      modify fun p => { p with number := p.number + 1 }
      pass texts fuel rest
  | fuel + 1, s => do
    let plain := s.takeWhile (· ≠ '%')
    write plain
    pass texts fuel (s.drop plain.length)

end Formatter

/-- What a format gives, and what is wrong with it. -/
def formatted (texts format : String) (args : List Value) : String × Option FormatFault :=
  let (r, p) := ((Formatter.pass texts (format.length + 1) format.toList).run).run { args }
  (String.ofList p.written.reverse.flatten, match r with
    | .error e => some e
    | .ok () => none)

end ReleasePreview.Awk
