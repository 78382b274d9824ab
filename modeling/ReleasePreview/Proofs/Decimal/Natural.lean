import Mathlib.Data.Nat.Digits.Lemmas
import ReleasePreview.Decimal.Natural

/-! The digits of a number denote the number, and no zero leads them. -/
namespace ReleasePreview.Decimal

theorem naturalValue_eq (ds : List Char) : naturalValue ds = Nat.ofDigitChars 10 ds 0 := by
  simp only [naturalValue, Nat.ofDigitChars_eq_foldl, Nat.mul_comm 10]
  rfl

variable (n : Nat)

theorem isDigit_of_mem_toDigits {c : Char} (h : c ∈ Nat.toDigits 10 n) : isDigit c = true :=
  Nat.isDigit_of_mem_toDigits (by decide) (by decide) h

theorem exists_toDigits_eq_cons :
    ∃ c ds, Nat.toDigits 10 n = c :: ds ∧ isDigit c = true := by
  obtain ⟨c, ds, h⟩ := List.exists_cons_of_ne_nil (Nat.toDigits_ne_nil (b := 10) (n := n))
  exact ⟨c, ds, h, isDigit_of_mem_toDigits n (h ▸ List.mem_cons_self)⟩

theorem naturalValue_toDigits : naturalValue (Nat.toDigits 10 n) = n := by
  rw [naturalValue_eq, Nat.ofDigitChars_ten_toDigits]

theorem natural?_toDigits : natural? (Nat.toDigits 10 n) = some n := by
  have hall : (Nat.toDigits 10 n).all isDigit = true :=
    List.all_eq_true.mpr fun c hc => isDigit_of_mem_toDigits n hc
  rw [natural?, if_pos (by simp [Nat.toDigits_ne_nil, hall]), naturalValue_toDigits]

/-- Only the digits of zero begin with a zero. -/
theorem toDigits_head {ds : List Char} (h : Nat.toDigits 10 n = '0' :: ds) : n = 0 := by
  induction n using Nat.strongRecOn generalizing ds with
  | ind n ih =>
    rw [Nat.toDigits_eq_if (by decide)] at h
    split at h
    next hlt =>
      have hc : n.digitChar.toNat = 48 := by rw [(List.cons.inj h).1]; rfl
      rw [Nat.toNat_digitChar_of_lt_ten hlt] at hc
      omega
    next hge =>
      cases hhigh : Nat.toDigits 10 (n / 10) with
      | nil => exact absurd hhigh Nat.toDigits_ne_nil
      | cons c cs =>
        rw [hhigh] at h
        have hc : c = '0' := (List.cons.inj h).1
        have hzero : n / 10 = 0 := ih _ (by omega) (hc ▸ hhigh)
        omega

/-- The four hexadecimal digits of a control character. -/
theorem positional?_control {n : Nat} (h : n < 0x20) :
    positional? 16 ['0', '0', Nat.digitChar (n / 16), Nat.digitChar (n % 16)] = some n := by
  revert n
  decide

/-! Numerals are digits of any number, zeros in front included. The digits of the number that a
numeral denotes are those of the numeral without the zeros that could be left out. -/

/-- The number that digits denote, each counted by its place from the end. -/
def numeral (run : List Char) : ℕ := Nat.ofDigits 10 (run.reverse.map fun c => c.toNat - '0'.toNat)

/-- The second numeral is the first one without its superfluous zeros. A zero that is all there is
stays. -/
structure Shortens (run short : List Char) : Prop where
  zeros : ∃ n, run = List.replicate n '0' ++ short
  nonempty : short ≠ []
  head : ∀ rest, short = '0' :: rest → rest = []

theorem naturalValue_eq_numeral (run : List Char) : naturalValue run = numeral run := by
  rw [numeral, Nat.ofDigits_eq_foldr, List.foldr_map, List.foldr_reverse]
  refine congrArg (fun f => List.foldl f 0 run) (funext₂ fun n c => ?_)
  rw [digitValue, Nat.cast_id, Nat.add_comm, Nat.mul_comm]

theorem isDigit_iff {c : Char} : isDigit c ↔ '0' ≤ c ∧ c ≤ '9' := by
  rw [isDigit, Bool.and_eq_true, decide_eq_true_eq, decide_eq_true_eq]

theorem natural?_eq_some {run : List Char} {n : ℕ} :
    natural? run = some n ↔ run ≠ [] ∧ (∀ c ∈ run, '0' ≤ c ∧ c ≤ '9') ∧ numeral run = n := by
  have hdigits : run.all isDigit ↔ ∀ c ∈ run, '0' ≤ c ∧ c ≤ '9' := by
    simp only [List.all_eq_true, isDigit_iff]
  rw [natural?, naturalValue_eq_numeral, ← hdigits, Option.ite_none_right_eq_some, Bool.and_eq_true,
    Option.some_inj, and_assoc]
  simp

theorem digitValue_lt {c : Char} (h : isDigit c) :
    digitValue c < 10 ∧ (digitValue c).digitChar = c := by
  have hrange : 48 ≤ c.toNat ∧ c.toNat ≤ 57 := by
    rw [isDigit_iff, Char.le_def, Char.le_def, UInt32.le_iff_toNat_le, UInt32.le_iff_toNat_le] at h
    exact h
  have hlt : digitValue c < 10 := show c.toNat - 48 < 10 by omega
  refine ⟨hlt, Char.toNat_inj.mp ?_⟩
  rw [Nat.toNat_digitChar_of_lt_ten hlt, digitValue]
  change 48 + (c.toNat - 48) = c.toNat
  omega

theorem naturalValue_concat (run : List Char) (c : Char) :
    naturalValue (run ++ [c]) = 10 * naturalValue run + digitValue c := by
  rw [naturalValue, List.foldl_append, List.foldl_cons, List.foldl_nil, Nat.mul_comm, naturalValue]

/-- Where no zero is superfluous, the digits of the number are those that denote it. -/
theorem toDigits_naturalValue {run : List Char} (hne : run ≠ []) (hdigits : ∀ c ∈ run, isDigit c)
    (hhead : ∀ rest, run = '0' :: rest → rest = []) : Nat.toDigits 10 (naturalValue run) = run := by
  induction run using List.reverseRecOn with
  | nil => exact absurd rfl hne
  | append_singleton run c ih =>
    obtain ⟨hlt, hchar⟩ := digitValue_lt (hdigits c (List.mem_append_right run List.mem_cons_self))
    rw [naturalValue_concat]
    cases run with
    | nil =>
      change Nat.toDigits 10 (0 + digitValue c) = [c]
      rw [Nat.zero_add, Nat.toDigits_of_lt_base hlt, hchar]
    | cons d run =>
      have hfront := ih (List.cons_ne_nil d run)
        (fun e he => hdigits e (List.mem_append_left [c] he)) fun rest hrest => by
          have hempty := hhead (rest ++ [c]) (by rw [hrest, List.cons_append])
          exact absurd hempty (List.append_ne_nil_of_right_ne_nil rest (List.cons_ne_nil c []))
      -- A number of more than one digit does not begin with a zero, so it is not zero.
      have hpos : 0 < naturalValue (d :: run) := by
        refine Nat.pos_of_ne_zero fun hzero => ?_
        rw [hzero, Nat.toDigits_zero] at hfront
        obtain ⟨rfl, rfl⟩ := List.cons.inj hfront
        exact absurd (hhead [c] rfl) (List.cons_ne_nil c [])
      rw [← Nat.toDigits_append_toDigits (by decide) hpos hlt, hfront, Nat.toDigits_of_lt_base hlt,
        hchar]

/-- What is written for the number of a numeral is the numeral, shortened. -/
theorem shortens_toDigits {run : List Char} (hne : run ≠ [])
    (hdigits : ∀ c ∈ run, '0' ≤ c ∧ c ≤ '9') : Shortens run (Nat.toDigits 10 (numeral run)) := by
  rw [← naturalValue_eq_numeral]
  refine ⟨?_, Nat.toDigits_ne_nil, fun rest hrest => ?_⟩
  · simp only [← isDigit_iff] at hdigits
    induction run with
    | nil => exact absurd rfl hne
    | cons c run ih =>
      by_cases hzero : c = '0' ∧ run ≠ []
      · obtain ⟨rfl, hrun⟩ := hzero
        obtain ⟨n, hn⟩ := ih hrun (List.forall_mem_cons.mp hdigits).2
        refine ⟨n + 1, ?_⟩
        rw [List.replicate_succ, List.cons_append]
        exact congrArg ('0' :: ·) hn
      · refine ⟨0, (toDigits_naturalValue hne hdigits fun rest hrest => ?_).symm⟩
        obtain ⟨rfl, rfl⟩ := List.cons.inj hrest
        by_contra hrun
        exact hzero ⟨rfl, hrun⟩
  · rw [toDigits_head _ hrest, Nat.toDigits_zero] at hrest
    exact (List.cons.inj hrest).2.symm

end ReleasePreview.Decimal
