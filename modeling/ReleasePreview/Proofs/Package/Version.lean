import Mathlib.Data.Prod.Lex
import ReleasePreview.Package.Version
import ReleasePreview.Proofs.Decimal.Natural
import ReleasePreview.Proofs.Text.Split

/-!
The texts that are versions: three numerals for numbers of 32 bits, with dots between them. A
version is written without the zeros that a numeral may have in front. Versions are ordered by their
numbers, and a list of them has a latest one by that order.
-/
namespace ReleasePreview.Version

section Text

theorem component?_toDigits (n : UInt32) : component? (Nat.toDigits 10 n.toNat) = some n := by
  have hguard : (guard (n.toNat < UInt32.size) : Option Unit) = some () := if_pos n.toNat_lt
  rw [component?, Decimal.natural?_toDigits]
  change ((guard (n.toNat < UInt32.size) : Option Unit) >>= fun _ =>
    some (UInt32.ofNat n.toNat)) = some n
  rw [hguard, UInt32.ofNat_toNat]
  rfl

theorem dot_notMem_toDigits (n : Nat) : '.' ∉ Nat.toDigits 10 n := fun h =>
  absurd (Decimal.isDigit_of_mem_toDigits n h) (by decide)

theorem toList_text (v : Version) : v.text.toList =
    Nat.toDigits 10 v.major.toNat ++
      '.' :: (Nat.toDigits 10 v.minor.toNat ++ '.' :: Nat.toDigits 10 v.patch.toNat) := by
  simp [text, Decimal.naturalText]

theorem parse?_text (v : Version) : parse? v.text = some v := by
  rw [parse?, toList_text, Text.split_append (dot_notMem_toDigits _),
    Text.split_append (dot_notMem_toDigits _), Text.split_of_not_mem (dot_notMem_toDigits _)]
  simp [component?_toDigits]

theorem parse_text (v : Version) : parse v.text = .ok v := by
  rw [parse, parse?_text]

theorem text_injective : Function.Injective text := fun u v h =>
  Option.some.inj ((parse?_text u).symm.trans (h ▸ parse?_text v))

end Text

section Spelling

open Decimal

/-- ASCII digits that denote a number of 32 bits. -/
structure IsComponent (run : List Char) : Prop where
  nonempty : run ≠ []
  digits : ∀ c ∈ run, '0' ≤ c ∧ c ≤ '9'
  bounded : numeral run ≤ 4294967295

/-- Three numerals with dots between them. -/
structure Spells (s : String) (major minor patch : List Char) : Prop where
  text : s.toList = major ++ '.' :: (minor ++ '.' :: patch)
  major : IsComponent major
  minor : IsComponent minor
  patch : IsComponent patch

/-- A version has the numbers of three numerals. -/
structure Denoted (major minor patch : List Char) (v : Version) : Prop where
  major : v.major.toNat = numeral major
  minor : v.minor.toNat = numeral minor
  patch : v.patch.toNat = numeral patch

theorem component?_eq_some {run : List Char} {n : UInt32} :
    component? run = some n ↔ IsComponent run ∧ n.toNat = numeral run := by
  simp only [component?, Option.bind_eq_bind, Option.bind_eq_some_iff, natural?_eq_some,
    Option.guard_eq_some', Option.pure_def, Option.some_inj]
  constructor
  · rintro ⟨k, ⟨hne, hdigits, rfl⟩, -, hlt, rfl⟩
    rw [UInt32.toNat_ofNat_of_lt' hlt]
    exact ⟨⟨hne, hdigits, Nat.le_of_lt_succ hlt⟩, rfl⟩
  · rintro ⟨⟨hne, hdigits, hle⟩, hn⟩
    refine ⟨_, ⟨hne, hdigits, rfl⟩, (), Nat.lt_succ_of_le hle, ?_⟩
    rw [← hn, UInt32.ofNat_toNat]

theorem IsComponent.dot_notMem {run : List Char} (h : IsComponent run) : '.' ∉ run := fun hmem =>
  absurd (h.digits '.' hmem) (by decide)

/-- A text has one spelling at most, for the dots in it are those between the numerals. -/
theorem Spells.split {s : String} {a b c : List Char} (h : Spells s a b c) :
    Text.split '.' s.toList = [a, b, c] := by
  rw [h.text, Text.split_append h.major.dot_notMem, Text.split_append h.minor.dot_notMem,
    Text.split_of_not_mem h.patch.dot_notMem]

theorem parse?_eq_some {s : String} {v : Version} :
    parse? s = some v ↔ ∃ a b c, Spells s a b c ∧ Denoted a b c v := by
  constructor
  · intro h
    unfold parse? at h
    split at h
    · next a b c hsplit =>
      simp only [Option.bind_eq_bind, Option.bind_eq_some_iff, component?_eq_some, Option.pure_def,
        Option.some_inj] at h
      obtain ⟨x, ⟨ha, hx⟩, y, ⟨hb, hy⟩, z, ⟨hc, hz⟩, rfl⟩ := h
      refine ⟨a, b, c, ⟨?_, ha, hb, hc⟩, hx, hy, hz⟩
      rw [← Text.intercalate_split '.' s.toList, hsplit]
      simp [List.intercalate_cons_cons]
    · contradiction
  · rintro ⟨a, b, c, hs, hv⟩
    have ha := component?_eq_some.mpr ⟨hs.major, hv.major⟩
    have hb := component?_eq_some.mpr ⟨hs.minor, hv.minor⟩
    have hc := component?_eq_some.mpr ⟨hs.patch, hv.patch⟩
    rw [parse?, hs.split]
    simp [ha, hb, hc]

/-- Every spelling is that of a version. -/
theorem Spells.exists_denoted {s : String} {a b c : List Char} (h : Spells s a b c) :
    ∃ v, Denoted a b c v := by
  have hnumber : ∀ {run : List Char}, IsComponent run →
      (UInt32.ofNat (numeral run)).toNat = numeral run := fun hrun =>
    UInt32.toNat_ofNat_of_lt' (Nat.lt_succ_of_le hrun.bounded)
  exact ⟨⟨.ofNat (numeral a), .ofNat (numeral b), .ofNat (numeral c)⟩, hnumber h.major,
    hnumber h.minor, hnumber h.patch⟩

theorem parse_eq_ok {s : String} {v : Version} : parse s = .ok v ↔ parse? s = some v := by
  rw [parse]
  cases parse? s <;> simp

theorem parse_eq_error {s e : String} : parse s = .error e ↔ parse? s = none ∧ e = s := by
  rw [parse]
  cases parse? s <;> simp [eq_comm]

/-- The written version is the spelling with each numeral shortened. -/
theorem Spells.text_shortens {s : String} {a b c : List Char} {v : Version} (h : Spells s a b c)
    (hv : Denoted a b c v) : ∃ a' b' c', v.text.toList = a' ++ '.' :: (b' ++ '.' :: c') ∧
      Shortens a a' ∧ Shortens b b' ∧ Shortens c c' := by
  refine ⟨_, _, _, v.toList_text, ?_, ?_, ?_⟩
  · rw [hv.major]
    exact shortens_toDigits h.major.nonempty h.major.digits
  · rw [hv.minor]
    exact shortens_toDigits h.minor.nonempty h.minor.digits
  · rw [hv.patch]
    exact shortens_toDigits h.patch.nonempty h.patch.digits

/-- A text is a version if it spells one, and else it is its own error. What a version is written as
is read back, and is the text that it was read from but for superfluous zeros. -/
theorem parse_spelling (s : String) :
    ((∃ v, parse s = .ok v) ↔ ∃ a b c, Spells s a b c) ∧
    (∀ v, parse s = .ok v ↔ ∃ a b c, Spells s a b c ∧ Denoted a b c v) ∧
    (∀ e, parse s = .error e ↔ e = s ∧ ∀ a b c, ¬ Spells s a b c) ∧
    (∀ v : Version, parse v.text = .ok v) ∧
    ∀ a b c v, Spells s a b c → parse s = .ok v → parse v.text = .ok v ∧
      ∃ a' b' c', v.text.toList = a' ++ '.' :: (b' ++ '.' :: c') ∧
        Shortens a a' ∧ Shortens b b' ∧ Shortens c c' := by
  have hok : ∀ v, parse s = .ok v ↔ ∃ a b c, Spells s a b c ∧ Denoted a b c v := fun v =>
    parse_eq_ok.trans parse?_eq_some
  have hspelled : (∃ v, parse s = .ok v) ↔ ∃ a b c, Spells s a b c := by
    constructor
    · rintro ⟨v, hv⟩
      obtain ⟨a, b, c, hs, -⟩ := (hok v).mp hv
      exact ⟨a, b, c, hs⟩
    · rintro ⟨a, b, c, hs⟩
      obtain ⟨v, hv⟩ := hs.exists_denoted
      exact ⟨v, (hok v).mpr ⟨a, b, c, hs, hv⟩⟩
  refine ⟨hspelled, hok, fun e => ?_, parse_text, fun a b c v hs hv => ⟨parse_text v, ?_⟩⟩
  · have hnone : parse? s = none ↔ ∀ a b c, ¬ Spells s a b c := by
      rw [Option.eq_none_iff_forall_ne_some]
      simp only [ne_eq, ← parse_eq_ok, ← not_exists, hspelled]
    rw [parse_eq_error, hnone, and_comm]
  · obtain ⟨a', b', c', hs', hdenoted⟩ := (hok v).mp hv
    have hsame : [a, b, c] = [a', b', c'] := hs.split.symm.trans hs'.split
    obtain ⟨rfl, rfl, rfl⟩ : a = a' ∧ b = b' ∧ c = c' := by simpa using hsame
    exact hs.text_shortens hdenoted

end Spelling

section Order

/-- The three numbers, of which the first that differs decides. -/
def rank (v : Version) : ℕ ×ₗ ℕ ×ₗ ℕ :=
  toLex (v.major.toNat, toLex (v.minor.toNat, v.patch.toNat))

theorem rank_injective : Function.Injective rank := by
  intro a b h
  obtain ⟨hmajor, h⟩ := Prod.mk.inj (toLex.injective h)
  obtain ⟨hminor, hpatch⟩ := Prod.mk.inj (toLex.injective h)
  cases a
  cases b
  rw [mk.injEq]
  exact ⟨UInt32.toNat_inj.mp hmajor, UInt32.toNat_inj.mp hminor, UInt32.toNat_inj.mp hpatch⟩

theorem ble_iff {a b : Version} : a.ble b ↔ a.rank ≤ b.rank := by
  simp only [ble, rank, Prod.Lex.toLex_le_toLex, Bool.or_eq_true, Bool.and_eq_true,
    decide_eq_true_eq, UInt32.lt_iff_toNat_lt, UInt32.le_iff_toNat_le, UInt32.toNat_inj]

/-- A version of a list that no other one of the list comes after. -/
def IsLatest (v : Version) (vs : List Version) : Prop := v ∈ vs ∧ ∀ u ∈ vs, u.rank ≤ v.rank

theorem IsLatest.unique {u v : Version} {vs : List Version} (hu : u.IsLatest vs)
    (hv : v.IsLatest vs) : u = v :=
  rank_injective (le_antisymm (hv.2 u hu.1) (hu.2 v hv.1))

private theorem later_isLatest (a b : Version) : (later a b).IsLatest [a, b] := by
  rw [later]
  split
  · next h => simpa [IsLatest] using ble_iff.mp h
  · next h => simpa [IsLatest] using (le_total a.rank b.rank).resolve_left (mt ble_iff.mpr h)

private theorem foldl_later_isLatest (v : Version) (vs : List Version) :
    (vs.foldl later v).IsLatest (v :: vs) := by
  induction vs generalizing v with
  | nil => simp [IsLatest]
  | cons u us ih =>
    obtain ⟨hmem, hmax⟩ := ih (later v u)
    obtain ⟨hlater, hle⟩ := later_isLatest v u
    rw [List.foldl_cons]
    have hhead : (later v u).rank ≤ (us.foldl later (later v u)).rank :=
      hmax _ List.mem_cons_self
    refine ⟨?_, ?_⟩
    · rcases List.mem_cons.mp hmem with heq | hmem
      · rw [heq]
        exact List.mem_append_left us hlater
      · exact List.mem_cons_of_mem v (List.mem_cons_of_mem u hmem)
    · intro x hx
      rcases List.mem_cons.mp hx with rfl | hx
      · exact (hle _ (by simp)).trans hhead
      · rcases List.mem_cons.mp hx with rfl | hx
        · exact (hle _ (by simp)).trans hhead
        · exact hmax x (List.mem_cons_of_mem _ hx)

theorem latest?_eq_none {vs : List Version} : latest? vs = none ↔ vs = [] := by
  cases vs <;> simp [latest?]

theorem latest?_eq_some {vs : List Version} {v : Version} :
    latest? vs = some v ↔ v.IsLatest vs := by
  cases vs with
  | nil => simp [latest?, IsLatest]
  | cons u us =>
    rw [latest?, Option.some_inj]
    constructor
    · rintro rfl
      exact foldl_later_isLatest u us
    · exact (foldl_later_isLatest u us).unique

end Order

end ReleasePreview.Version
