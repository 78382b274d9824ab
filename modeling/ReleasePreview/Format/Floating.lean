/-! Decimal texts of binary floating-point numbers. They are exact up to the last digit, where a tie
goes to the even one. -/
namespace ReleasePreview.Format

/-- A number as it is stored. -/
inductive Stored where
  | notANumber
  | infinite (negative : Bool)
  /-- The mantissa, times two to the exponent. -/
  | finite (negative : Bool) (mantissa : Nat) (exponent : Int)

def Stored.of (x : Float) : Stored :=
  let bits := x.toBits.toNat
  let negative := bits / Nat.pow 2 63 = 1
  let exponent := bits / Nat.pow 2 52 % 2048
  let fraction := bits % Nat.pow 2 52
  if exponent = 2047 then if fraction = 0 then .infinite negative else .notANumber
  else if exponent = 0 then .finite negative fraction (-1074)
  else .finite negative (fraction + Nat.pow 2 52) ((exponent : Int) - 1075)

/-- The nearest whole number to a fraction. -/
def nearest (numerator denominator : Nat) : Nat :=
  let q := numerator / denominator
  let twice := 2 * (numerator % denominator)
  if denominator < twice || (twice = denominator && q % 2 = 1) then q + 1 else q

/-- The fraction of a mantissa and an exponent of two, times a power of ten. -/
def fraction (mantissa : Nat) (exponent tens : Int) : Nat × Nat :=
  (mantissa * Nat.pow 2 exponent.toNat * Nat.pow 10 tens.toNat,
    Nat.pow 2 (-exponent).toNat * Nat.pow 10 (-tens).toNat)

def digits (n : Nat) : List Char := Nat.toDigits 10 n

/-- Digits with a point before the last ones. -/
def withPoint (places : Nat) (alwaysPoint : Bool) (ds : List Char) : List Char :=
  let ds := List.replicate (places + 1 - ds.length) '0' ++ ds
  let whole := ds.take (ds.length - places)
  if places = 0 then if alwaysPoint then whole ++ ['.'] else whole
  else whole ++ '.' :: ds.drop (ds.length - places)

/-- The digits with so many places behind the point. -/
def fixed (mantissa : Nat) (exponent : Int) (places : Nat) (alwaysPoint : Bool) : List Char :=
  let (n, d) := fraction mantissa exponent places
  withPoint places alwaysPoint (digits (nearest n d))

/-- The first digits, with so many places behind the first one, and the power of ten of that. -/
def leading (mantissa : Nat) (exponent : Int) (places : Nat) : Nat × Int :=
  if mantissa = 0 then (0, 0)
  else
    let (n, d) := fraction mantissa exponent 0
    let guess : Int := ((digits n).length : Int) - (digits d).length
    let power := if n * Nat.pow 10 (-guess).toNat < d * Nat.pow 10 guess.toNat then guess - 1
      else guess
    let (n, d) := fraction mantissa exponent ((places : Int) - power)
    let found := nearest n d
    if found = Nat.pow 10 (places + 1) then (found / 10, power + 1) else (found, power)

def exponentText (letter : Char) (power : Int) : List Char :=
  let ds := digits power.natAbs
  letter :: (if power < 0 then '-' else '+') :: (if ds.length = 1 then '0' :: ds else ds)

def scientific (mantissa : Nat) (exponent : Int) (places : Nat) (alwaysPoint : Bool)
    (letter : Char) : List Char :=
  let (found, power) := leading mantissa exponent places
  withPoint places alwaysPoint (digits found) ++ exponentText letter power

/-- Without zeros at the end of the places behind the point. -/
def shortened (s : List Char) : List Char :=
  if s.contains '.' then
    let s := s.reverse.dropWhile (· = '0')
    (if s.head? = some '.' then s.drop 1 else s).reverse
  else s

/-- The shorter one of both ways, with so many digits in all. -/
def general (mantissa : Nat) (exponent : Int) (count : Nat) (keepZeros : Bool) (letter : Char) :
    List Char :=
  let count := max count 1
  let (found, power) := leading mantissa exponent (count - 1)
  let trim := if keepZeros then id else shortened
  if -4 ≤ power && power < count then
    trim (fixed mantissa exponent ((count : Int) - 1 - power).toNat keepZeros)
  else
    trim (withPoint (count - 1) keepZeros (digits found)) ++ exponentText letter power

/-- Decimal digits with a point and an exponent as a floating-point number. -/
def floatOf (negative : Bool) (mantissa : Nat) (tens : Int) : Float :=
  let x := Float.ofScientific mantissa (tens < 0) tens.natAbs
  if negative then -x else x

/-- The number in front of a text, with a sign, a point and an exponent at will, and what follows;
`none` if there are no digits. -/
def float? (s : List Char) : Option (Float × List Char) :=
  let s := s.dropWhile fun c => " \t\n\x0b\x0c\r".toList.contains c
  let (negative, s) :=
    match s with
    | '-' :: s => (true, s)
    | '+' :: s => (false, s)
    | s => (false, s)
  let whole := s.takeWhile Char.isDigit
  let s := s.drop whole.length
  let (part, s) :=
    match s with
    | '.' :: s =>
      let part := s.takeWhile Char.isDigit
      if whole.isEmpty && part.isEmpty then ([], '.' :: s) else (part, s.drop part.length)
    | s => ([], s)
  if whole.isEmpty && part.isEmpty then none
  else
    let valueOf (ds : List Char) : Nat := ds.foldl (fun n c => n * 10 + (c.toNat - 48)) 0
    let (power, s) : Int × List Char :=
      match s with
      | e :: rest =>
        if e = 'e' || e = 'E' then
          let (down, ds) :=
            match rest with
            | '-' :: ds => (true, ds)
            | '+' :: ds => (false, ds)
            | ds => (false, ds)
          let ds' := ds.takeWhile Char.isDigit
          if ds'.isEmpty then (0, s)
          else
            let n : Int := min (valueOf ds') 5000
            (if down then -n else n, ds.drop ds'.length)
        else (0, s)
      | [] => (0, s)
    some (floatOf negative (valueOf (whole ++ part)) (power - part.length), s)

end ReleasePreview.Format
