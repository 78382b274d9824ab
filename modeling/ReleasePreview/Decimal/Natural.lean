/-!
Natural numbers in decimal digits, and in digits of other bases, letters being the digits above
nine.
-/
namespace ReleasePreview.Decimal

/-- The ASCII digits. -/
def isDigit (c : Char) : Bool := '0' ≤ c && c ≤ '9'

def digitValue (c : Char) : Nat := c.toNat - '0'.toNat

/-- The value of a digit string of any length. -/
def naturalValue (ds : List Char) : Nat := ds.foldl (fun n c => n * 10 + digitValue c) 0

/-- The number that a text of digits alone denotes. Leading zeros are allowed. -/
def natural? (s : List Char) : Option Nat :=
  if !s.isEmpty && s.all isDigit then some (naturalValue s) else none

def tenTo (n : Nat) : Nat := Nat.pow 10 n

def twoTo (n : Nat) : Nat := Nat.pow 2 n

/-- The shortest digits of a number. -/
def naturalText (n : Nat) : String := String.ofList (Nat.toDigits 10 n)

/-- The value of a digit, if it is one of the base. -/
def digit? (base : Nat) (c : Char) : Option Nat :=
  let value? :=
    if isDigit c then some (digitValue c)
    else if 'a' ≤ c ∧ c ≤ 'z' then some (c.toNat - 'a'.toNat + 10)
    else if 'A' ≤ c ∧ c ≤ 'Z' then some (c.toNat - 'A'.toNat + 10)
    else none
  value?.filter (· < base)

/-- The number of a text of digits. No digits stand for zero. -/
def positional? (base : Nat) (s : List Char) : Option Nat :=
  s.foldlM (fun n c => (digit? base c).map (n * base + ·)) 0

end ReleasePreview.Decimal

/-! Integers of 64 bits, and texts of numbers as they are read for them. -/
namespace ReleasePreview.Decimal

def maxInteger : Int := 9223372036854775807

def minInteger : Int := -9223372036854775808

/-- The integer of 64 bits that agrees with a number in them. -/
def wrapped (n : Int) : Int := Int.bmod n 18446744073709551616

/-- The nearest integer of 64 bits. -/
def clamped (n : Int) : Int := max minInteger (min maxInteger n)

/-- The digits in front that a base has, and what follows them. -/
def digitsIn (base : Nat) (s : List Char) : List Char × List Char :=
  let digits := s.takeWhile fun c => (digit? base c).isSome
  (digits, s.drop digits.length)

/-- A number in front, hexadecimal behind `0x`, octal behind another zero, and what follows it. -/
def basedNatural? (s : List Char) : Option (Nat × List Char) :=
  let read (base : Nat) (s : List Char) : Option (Nat × List Char) :=
    let (digits, rest) := digitsIn base s
    if digits.isEmpty then none else (positional? base digits).map (·, rest)
  match s with
  | '0' :: x :: c :: rest =>
    if (x = 'x' || x = 'X') && (digit? 16 c).isSome then read 16 (c :: rest) else read 8 s
  | '0' :: _ => read 8 s
  | _ => read 10 s

def isGap (c : Char) : Bool := " \t\n\x0b\x0c\r".toList.contains c

/-- An integer in front behind blanks, with a sign at will, and what follows it. -/
def integer? (read : List Char → Option (Nat × List Char)) (s : List Char) :
    Option (Int × List Char) :=
  match s.dropWhile isGap with
  | '-' :: s => (read s).map fun (n, rest) => (-(n : Int), rest)
  | '+' :: s => (read s).map fun (n, rest) => ((n : Int), rest)
  | s => (read s).map fun (n, rest) => ((n : Int), rest)

/-- An integer in decimal digits. -/
def decimalInteger? (s : List Char) : Option (Int × List Char) :=
  integer? (fun s => (positional? 10 (digitsIn 10 s).1).bind fun n =>
    if (digitsIn 10 s).1.isEmpty then none else some (n, (digitsIn 10 s).2)) s

end ReleasePreview.Decimal
