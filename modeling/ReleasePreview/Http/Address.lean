import ReleasePreview.Decimal.Natural
import ReleasePreview.Text.Split

/-! Numeric hosts: addresses of four bytes, loosely written, and addresses of eight groups. -/
namespace ReleasePreview.Http.Address

/-- A part of an address: hexadecimal behind `0x`, octal behind another zero, decimal else. -/
def part? (s : List Char) : Option Nat :=
  match s with
  | [] => none
  | '0' :: 'x' :: s => Decimal.positional? 16 s
  | '0' :: 'X' :: s => Decimal.positional? 16 s
  | '0' :: c :: s => Decimal.positional? 8 (c :: s)
  | s => Decimal.positional? 10 s

/-- The parts of a host name, without an empty one at its end. -/
def parts (name : List Char) : List (List Char) :=
  let parts := Text.split '.' name
  if parts.getLast? = some [] then parts.dropLast else parts

/-- A name whose last part is a number has to be an address. -/
def endsInNumber (parts : List (List Char)) : Bool :=
  match parts.getLast? with
  | some part => !part.isEmpty && (part.all Decimal.isDigit || (part? part).isSome)
  | none => false

/-- All parts but the last are bytes. The last one fills the bytes that are left. -/
def isBytes (parts : List (List Char)) : Bool :=
  match parts.mapM part? with
  | some numbers =>
    numbers.length ≤ 4 && numbers.dropLast.all (· < 256)
      && (numbers.getLast?.getD 0) < Nat.pow 256 (5 - numbers.length)
  | none => false

/-- A byte without leading zeros. -/
def isByte (s : List Char) : Bool :=
  (Decimal.natural? s).any (· < 256) && (s.length = 1 || s.head? ≠ some '0')

/-- Four hexadecimal digits or fewer. -/
def isGroup (s : List Char) : Bool :=
  !s.isEmpty && s.length ≤ 4 && (Decimal.positional? 16 s).isSome

/-- How many groups a part of an address has. Its last two groups may be four bytes. -/
def countGroups (s : List Char) (bytesAllowed : Bool) : Option Nat :=
  let groups := Text.split ':' s
  let last := (groups.getLast?).getD []
  if s.isEmpty then some 0
  else if !groups.dropLast.all isGroup then none
  else if isGroup last then some groups.length
  else if bytesAllowed && (Text.split '.' last).length = 4 && (Text.split '.' last).all isByte then
    some (groups.length + 1)
  else none

/-- Splits a text at two colons in a row. -/
def splitGap : List Char → Option (List Char × List Char)
  | ':' :: ':' :: s => some ([], s)
  | c :: s => (splitGap s).map fun (before, after) => (c :: before, after)
  | [] => none

/-- Eight groups, or fewer around a gap. -/
def isGroups (s : List Char) : Bool :=
  match splitGap s with
  | none => !s.isEmpty && countGroups s true = some 8
  | some (before, after) =>
    match countGroups before false, countGroups after true with
    | some m, some n => m + n ≤ 7
    | _, _ => false

end ReleasePreview.Http.Address
