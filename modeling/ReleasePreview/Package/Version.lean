import ReleasePreview.Decimal.Natural
import ReleasePreview.Text.Split
import ReleasePreview.Text.Unprintable

/-! Versions: three numbers with dots between them. -/
namespace ReleasePreview

structure Version where
  major : UInt32
  minor : UInt32
  patch : UInt32
deriving Repr, DecidableEq

namespace Version

/-- A number of a version: digits alone, for a value of 32 bits. -/
def component? (s : List Char) : Option UInt32 := do
  let n ← Decimal.natural? s
  guard (n < UInt32.size)
  return UInt32.ofNat n

def parse? (s : String) : Option Version := do
  match Text.split '.' s.toList with
  | [major, minor, patch] =>
    return ⟨← component? major, ← component? minor, ← component? patch⟩
  | _ => none

/-- The refusal of a text that is no version. -/
def refusal (s : String) : String :=
  "invalid version " ++ Text.quoted s ++ ": expected MAJOR.MINOR.PATCH"

/-- A text that is no version is its own error. -/
def parse (s : String) : Except String Version :=
  match parse? s with
  | some v => .ok v
  | none => .error s

def text (v : Version) : String :=
  Decimal.naturalText v.major.toNat ++ "." ++ Decimal.naturalText v.minor.toNat ++ "." ++
    Decimal.naturalText v.patch.toNat

/-- The numeric order, the first number that differs deciding. -/
def ble (a b : Version) : Bool :=
  a.major < b.major || a.major = b.major &&
    (a.minor < b.minor || a.minor = b.minor && a.patch ≤ b.patch)

/-- In ascending order, repetitions kept. -/
def sorted (vs : List Version) : List Version := vs.mergeSort ble

/-- The later of two versions. -/
def later (a b : Version) : Version := if a.ble b then b else a

/-- The latest of some versions. -/
def latest? : List Version → Option Version
  | [] => none
  | v :: vs => some (vs.foldl later v)

end Version

end ReleasePreview
