import ReleasePreview.Json.Value
import ReleasePreview.Decimal.Natural

/-!
Number literals: the grammar, and the value of a literal. A literal that is no 64-bit integer is
read as a float from its leading digits, as many as fit 64 bits, and a power of ten, with one
multiplication or division by that power.
-/
namespace ReleasePreview.Json

open Decimal

/-- A number literal in its parts. An exponent is a sign and digits. -/
structure Literal where
  negative : Bool
  whole : List Char
  fraction : Option (List Char)
  exponent : Option (Bool × List Char)
deriving Repr, DecidableEq

/-- How a literal goes wrong: it breaks off at the end of the text, or something else than a digit
stands where one is due. -/
inductive LiteralFault where
  | cut
  | misshapen
deriving Repr, DecidableEq

/-- The digits at the front, of which there must be one. -/
def someDigits (s : List Char) : Except LiteralFault (List Char × List Char) :=
  match s with
  | [] => .error .cut
  | c :: _ =>
    if isDigit c then .ok (s.takeWhile isDigit, s.dropWhile isDigit) else .error .misshapen

/-- The digits before the point: a leading zero stands alone. -/
def wholeDigits (s : List Char) : Except LiteralFault (List Char × List Char) :=
  match s with
  | '0' :: c :: rest => if isDigit c then .error .misshapen else .ok (['0'], c :: rest)
  | _ => someDigits s

def fractionDigits (s : List Char) : Except LiteralFault (Option (List Char) × List Char) :=
  match s with
  | '.' :: rest => (someDigits rest).map fun (ds, rest) => (some ds, rest)
  | _ => .ok (none, s)

/-- An exponent is negative after a minus sign. -/
def exponentDigits (s : List Char) :
    Except LiteralFault (Option (Bool × List Char) × List Char) :=
  match s with
  | c :: rest =>
    if c == 'e' || c == 'E' then
      let (negative, rest) :=
        match rest with
        | '+' :: rest => (false, rest)
        | '-' :: rest => (true, rest)
        | rest => (false, rest)
      (someDigits rest).map fun (ds, rest) => (some (negative, ds), rest)
    else .ok (none, s)
  | [] => .ok (none, [])

/-- The literal at the front of a text, and what follows it. -/
def scanLiteral (s : List Char) : Except LiteralFault (Literal × List Char) := do
  let (negative, s) :=
    match s with
    | '-' :: rest => (true, rest)
    | _ => (false, s)
  let (whole, s) ← wholeDigits s
  let (fraction, s) ← fractionDigits s
  let (exponent, s) ← exponentDigits s
  return (⟨negative, whole, fraction, exponent⟩, s)

/-- Digits gathered into a natural number while it fits 64 bits: the number, how many digits went
into it, and how many were left over. -/
def gather (start : Nat) : List Char → Nat × Nat × Nat
  | [] => (start, 0, 0)
  | c :: cs =>
    let next := start * 10 + digitValue c
    if next ≤ Number.maxNatural then
      let (n, used, left) := gather next cs
      (n, used + 1, left)
    else (start, 0, cs.length + 1)

/-- The largest decimal exponent of a float. -/
def maxPower : Nat := 308

/-- Divides by powers of ten until the rest of the exponent has one. -/
def scaleDown (x : Float) (power : Nat) : Float :=
  if _h : power ≤ maxPower then x / Float.ofScientific 1 false power
  else if x == 0 then x
  else scaleDown (x / Float.ofScientific 1 false maxPower) (power - maxPower)
termination_by power
decreasing_by simp only [maxPower] at *; omega

/-- `significand * 10 ^ power`, unless it is infinite. -/
def scaled (significand : Nat) (power : Int) : Except SyntaxError Float :=
  let x := Float.ofNat significand
  if power < 0 then .ok (scaleDown x power.natAbs)
  else if power.natAbs ≤ maxPower then
    let y := x * Float.ofScientific 1 false power.natAbs
    if y.isInf then .error .numberOutOfRange else .ok y
  else if x == 0 then .ok x
  else .error .numberOutOfRange

/-- The largest exponent that is added up; a larger one gives zero or is out of range. -/
def maxExponent : Nat := 2147483647

namespace Literal

/-- The float that a literal is read as. -/
def float (l : Literal) : Except SyntaxError Float := do
  let (whole, _, left) := gather 0 l.whole
  let (significand, used, _) := gather whole (l.fraction.getD [])
  let base : Int := left - used
  match l.exponent with
  | none => scaled significand base
  | some (negative, ds) =>
    let e := naturalValue ds
    if e ≤ maxExponent then scaled significand (if negative then base - e else base + e)
    else if significand == 0 || negative then return 0
    else throw .numberOutOfRange

/-- The value of a literal. Minus zero is a float, and so is every integer beyond 64 bits. -/
def value (l : Literal) : Except SyntaxError Number := do
  let n := naturalValue l.whole
  if l.fraction.isNone && l.exponent.isNone && !l.negative && n ≤ Number.maxNatural then
    return .natural n
  else if l.fraction.isNone && l.exponent.isNone && l.negative && 0 < n
      && n ≤ Number.maxNegative then
    return .negative n
  else
    let x ← l.float
    return .float (if l.negative then (-x).toBits else x.toBits)

end Literal

end ReleasePreview.Json
