import ReleasePreview.Decimal.Natural

/-!
The shortest decimal that reads back to a binary float, and its text. Digits are selected by exact
arithmetic on the float's bits.
-/
namespace ReleasePreview.Decimal

/-- A finite float without its sign, `m * 2 ^ q`. -/
structure Binary where
  m : Nat
  q : Int
  /-- The gap to the value below is half the gap to the value above. -/
  narrowBelow : Bool
deriving Repr, DecidableEq

/-- The value of the bits of a finite float, the sign left out. -/
def Binary.ofBits (bits : UInt64) : Binary :=
  let exponent := ((bits >>> 52) &&& 0x7FF).toNat
  let fraction := (bits &&& 0xFFFFFFFFFFFFF).toNat
  if exponent == 0 then ⟨fraction, -1074, false⟩
  else ⟨twoTo 52 + fraction, exponent - 1075, fraction == 0 && 1 < exponent⟩

/-- The decimal `digits * 10 ^ power`. -/
structure Scaled where
  digits : Nat
  power : Int
deriving Repr, DecidableEq

/-- Compares `a * 10 ^ i` with `n * 2 ^ j`. -/
def compareScaled (a : Nat) (i : Int) (n : Nat) (j : Int) : Ordering :=
  compare (a * tenTo i.toNat * twoTo (-j).toNat) (n * twoTo j.toNat * tenTo (-i).toNat)

/-- The decimal lies among the reals that round to the float, to nearest and ties to even. -/
def Binary.readsBack (x : Binary) (d : Scaled) : Bool :=
  let lo := if x.narrowBelow then 4 * x.m - 1 else 4 * x.m - 2
  let hi := 4 * x.m + 2
  let closed := x.m % 2 == 0
  let below := compareScaled d.digits d.power lo (x.q - 2)
  let above := compareScaled d.digits d.power hi (x.q - 2)
  (below == .gt || closed && below == .eq) && (above == .lt || closed && above == .eq)

/-- The largest multiple of `10 ^ power` that is not above the float, in units of it. -/
def Binary.floorAt (x : Binary) (power : Int) : Nat :=
  (x.m * twoTo x.q.toNat * tenTo (-power).toNat) / (twoTo (-x.q).toNat * tenTo power.toNat)

/-- The least power of ten above the float, looked for downwards. -/
def Binary.scaleFrom (x : Binary) : Nat → Int → Int
  | 0, k => k
  | fuel + 1, k => if compareScaled 1 (k - 1) x.m x.q == .gt then x.scaleFrom fuel (k - 1) else k

/-- Every finite float is below `10 ^ 309` and, unless zero, above `10 ^ (-324)`. -/
def Binary.scale (x : Binary) : Int := x.scaleFrom 640 309

/-- The neighbours of the float on a decimal grid that read back, the nearer one first; of two
equally near ones the even one. -/
def Binary.nearestOn (x : Binary) (power : Int) : Option Scaled :=
  let below := x.floorAt power
  let lower : Scaled := ⟨below, power⟩
  let upper : Scaled := ⟨below + 1, power⟩
  match x.readsBack lower, x.readsBack upper with
  | true, true =>
    match compareScaled (2 * below + 1) power (2 * x.m) x.q with
    | .lt => some upper
    | .gt => some lower
    | .eq => some (if below % 2 == 0 then lower else upper)
  | true, false => some lower
  | false, true => some upper
  | false, false => none

/-- Moves trailing zeros from the digits to the power. -/
def Scaled.strip : Nat → Scaled → Scaled
  | 0, d => d
  | fuel + 1, d =>
    if d.digits != 0 && d.digits % 10 == 0 then strip fuel ⟨d.digits / 10, d.power + 1⟩ else d

/-- The shortest decimal that reads back. Seventeen digits always do; the exact value stands in
for a search that finds nothing. -/
def Binary.shortest (x : Binary) : Scaled :=
  if x.m == 0 then ⟨0, 0⟩
  else
    let k := x.scale
    let found := (List.range 17).findSome? fun (n : Nat) => x.nearestOn (k - (n + 1))
    let d := found.getD ⟨x.m * twoTo x.q.toNat * Nat.pow 5 (-x.q).toNat, -(-x.q).toNat⟩
    d.strip 400

def zeros (n : Nat) : List Char := List.replicate n '0'

/-- A decimal is written positionally while its leading digit stands between the fifth place behind
the point and the sixteenth before it, and always with a point. Otherwise its exponent carries a
sign. -/
def Scaled.text (d : Scaled) : List Char :=
  let digits := Nat.toDigits 10 d.digits
  let lead : Int := d.power + digits.length - 1
  if -5 ≤ lead && lead < 16 then
    if 0 ≤ d.power then digits ++ zeros d.power.toNat ++ ['.', '0']
    else if 0 ≤ lead then
      digits.take (lead.toNat + 1) ++ ['.'] ++ digits.drop (lead.toNat + 1)
    else ['0', '.'] ++ zeros ((-lead).toNat - 1) ++ digits
  else
    let mantissa :=
      match digits with
      | [c] => [c]
      | c :: cs => c :: '.' :: cs
      | [] => []
    mantissa ++ ['e', if lead < 0 then '-' else '+'] ++ Nat.toDigits 10 lead.natAbs

/-- The shortest text of a finite float. -/
def floatText (bits : UInt64) : String :=
  let text := (Binary.ofBits bits).shortest.text
  String.ofList (if bits >>> 63 == 1 then '-' :: text else text)

end ReleasePreview.Decimal
