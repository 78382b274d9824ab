import Mathlib.Logic.Function.Basic
import ReleasePreview.Proofs.Awk.Places
import Std.Data.HashMap.Lemmas

/-!
Tables as maps from texts to values. Where keys are kept, as what, and how often there have been too
many of them makes no difference to what a table holds.
-/
namespace ReleasePreview.Awk.Table

section Values

variable {t : Table} {s : String} {n : ℤ} {a : Value}

/-- The value in a row of a key. -/
def rowValue? (row : Array Value) (s : String) : Option Value :=
  (integerOf? s).bind fun n => if 1 ≤ n ∧ toString n = s then row[(n - 1).toNat]? else none

/-- The value of a key, by its text. -/
def value? (t : Table) (s : String) : Option Value :=
  match t.row with
  | some row => rowValue? row s
  | none => t.values[s]?

theorem rowValue?_toString (row : Array Value) (n : ℤ) :
    rowValue? row (toString n) = if 1 ≤ n then row[(n - 1).toNat]? else none := by
  rw [rowValue?, integerOf?_toString, Option.bind_some]
  simp only [and_true]

theorem rowValue?_eq_some {row : Array Value} :
    rowValue? row s = some a ↔ ∃ i : ℕ, s = toString (i + 1 : ℤ) ∧ row[i]? = some a := by
  constructor
  · intro h
    obtain ⟨n, -, hn⟩ := Option.bind_eq_some_iff.mp h
    split at hn
    · next hpos =>
      refine ⟨(n - 1).toNat, ?_, hn⟩
      have heq : ((n - 1).toNat + 1 : ℤ) = n := by omega
      rw [heq, hpos.2]
    · contradiction
  · rintro ⟨i, rfl, h⟩
    rw [rowValue?_toString, if_pos (by omega)]
    have heq : ((i + 1 : ℤ) - 1).toNat = i := by omega
    rwa [heq]

theorem rowValue?_empty (s : String) : rowValue? #[] s = none := by
  rw [Option.eq_none_iff_forall_ne_some]
  intro a ha
  obtain ⟨i, -, hi⟩ := rowValue?_eq_some.mp ha
  simp at hi

/-- A table without a row, whose keys are all kept: by their texts, or as integers as long as there
are no others. -/
structure Indexed (t : Table) : Prop where
  row : t.row = none
  cells : ∃ q, Cells t (fun s => t.hasTexts = true ∧ s ∈ t.values) q ∧
    (∀ n, q n → toString n ∈ t.values) ∧
    (t.hasTexts = false → ∀ s ∈ t.values, ∃ n, q n ∧ toString n = s)

/-- A table is a row, or has nothing yet, or keeps its keys. -/
def WellFormed (t : Table) : Prop :=
  t.row.isSome ∨ (t.row = none ∧ t.places = 0 ∧ ∀ s, s ∉ t.values) ∨ Indexed t

theorem Indexed.value?_eq (h : Indexed t) (s : String) : t.value? s = t.values[s]? := by
  rw [value?, h.row]

theorem indexed_empty {places : ℕ} (h : 0 < places) : Indexed (empty places) where
  row := rfl
  cells := by
    have hnone (s : String) : s ∉ (empty places).values := Std.HashMap.not_mem_empty
    refine ⟨fun _ => False, ?_, fun n h => h.elim, fun _ s hs => absurd hs (hnone s)⟩
    have hcells := cells_empty h
    exact ⟨hcells.sizes, hcells.pos, hcells.texts.congr fun s => by simp [hnone s], hcells.integers⟩

/-- A table that keeps the first keys of a row, as integers. -/
structure Spreads (row : Array Value) (k : ℕ) (t : Table) : Prop where
  noRow : t.row = none
  noTexts : t.hasTexts = false
  cells : Cells t (fun _ => False) fun n => ∃ i < k, n = (i + 1 : ℤ)
  values (s : String) (a : Value) :
    t.values[s]? = some a ↔ ∃ i < k, s = toString (i + 1 : ℤ) ∧ row[i]? = some a

theorem spreads_range {row : Array Value} {fresh : Table} (hfresh : Spreads row 0 fresh) {k : ℕ}
    (hk : k ≤ row.size) : Spreads row k ((List.range k).foldl
      (fun t (i : Nat) =>
        let n : Int := (i : Int) + 1
        { t with
          values := t.values.insert (toString n) ((row[i]?).getD .unset)
          integers := t.integers.modify (t.integerPlace n) (n :: ·) }) fresh) := by
  induction k with
  | zero => exact hfresh
  | succ k ih =>
    rw [List.range_succ, List.foldl_append, List.foldl_cons, List.foldl_nil]
    have hspreads := ih (by omega)
    generalize (List.range k).foldl _ fresh = u at hspreads ⊢
    have hnew : ¬ ∃ i < k, ((k : ℤ) + 1) = (i + 1 : ℤ) := by
      rintro ⟨i, hi, heq⟩
      omega
    refine ⟨hspreads.noRow, hspreads.noTexts, ?_, fun s a => ?_⟩
    · refine hspreads.cells.congr rfl Array.size_modify hspreads.cells.texts ?_
      refine (hspreads.cells.integers.push (hspreads.cells.integerPlace_lt _) hnew).congr ?_
      intro n
      constructor
      · rintro (⟨i, hi, rfl⟩ | rfl)
        · exact ⟨i, by omega, rfl⟩
        · exact ⟨k, by omega, rfl⟩
      · rintro ⟨i, hi, rfl⟩
        rcases Nat.lt_succ_iff_lt_or_eq.mp hi with hi | rfl
        · exact .inl ⟨i, hi, rfl⟩
        · exact .inr rfl
    · have hvalue : (row[k]?).getD .unset = row[k] := by
        rw [Array.getElem?_eq_getElem (by omega), Option.getD_some]
      rw [Std.HashMap.getElem?_insert, hvalue]
      by_cases hs : toString ((k : ℤ) + 1) = s
      · rw [if_pos (beq_iff_eq.mpr hs)]
        constructor
        · intro heq
          exact ⟨k, by omega, hs.symm, by rw [Array.getElem?_eq_getElem (by omega), heq]⟩
        · rintro ⟨i, hi, hsi, ha⟩
          obtain rfl : k = i := by
            have heq := toString_inj.mp (hs.trans hsi)
            omega
          rwa [Array.getElem?_eq_getElem (by omega)] at ha
      · rw [if_neg (mt beq_iff_eq.mp hs), hspreads.values]
        constructor
        · rintro ⟨i, hi, hsi⟩
          exact ⟨i, by omega, hsi⟩
        · rintro ⟨i, hi, hsi, ha⟩
          have hne : i ≠ k := fun heq => hs (heq ▸ hsi.symm)
          exact ⟨i, by omega, hsi, ha⟩

theorem Spreads.indexed {row : Array Value} (h : Spreads row row.size t) :
    t.Indexed ∧ ∀ s, t.value? s = rowValue? row s := by
  have hmem (s : String) : s ∈ t.values ↔ ∃ i < row.size, s = toString (i + 1 : ℤ) := by
    rw [Std.HashMap.mem_iff_isSome_getElem?, Option.isSome_iff_exists]
    constructor
    · rintro ⟨a, ha⟩
      obtain ⟨i, hi, hs, -⟩ := (h.values s a).mp ha
      exact ⟨i, hi, hs⟩
    · rintro ⟨i, hi, hs⟩
      exact ⟨row[i], (h.values s _).mpr ⟨i, hi, hs, Array.getElem?_eq_getElem hi⟩⟩
  refine ⟨⟨h.noRow, _, ⟨h.cells.sizes, h.cells.pos, ?_, h.cells.integers⟩, ?_, ?_⟩, fun s => ?_⟩
  · exact h.cells.texts.congr fun s => by simp [h.noTexts]
  · rintro n ⟨i, hi, rfl⟩
    exact (hmem _).mpr ⟨i, hi, rfl⟩
  · intro _ s hs
    obtain ⟨i, hi, rfl⟩ := (hmem s).mp hs
    exact ⟨i + 1, ⟨i, hi, rfl⟩, rfl⟩
  · rw [value?, h.noRow]
    refine Option.ext fun a => ?_
    rw [h.values, rowValue?_eq_some]
    constructor
    · rintro ⟨i, -, hi⟩
      exact ⟨i, hi⟩
    · rintro ⟨i, hs, ha⟩
      exact ⟨i, (Array.getElem?_eq_some_iff.mp ha).1, hs, ha⟩

theorem le_room (count fuel places : ℕ) : places ≤ room count fuel places := by
  induction fuel generalizing places with
  | zero => exact Nat.le_refl _
  | succ fuel ih =>
    rw [room]
    split
    · exact Nat.le_trans (by omega) (ih (2 * places))
    · exact Nat.le_refl _

/-- Spreading a row makes no difference to what a table holds. -/
theorem WellFormed.spread (h : t.WellFormed) :
    t.spread.Indexed ∧ ∀ s, t.spread.value? s = t.value? s := by
  unfold Table.spread
  cases hrow : t.row with
  | some row =>
    have hroom : 0 < room row.size 40 firstSize :=
      Nat.lt_of_lt_of_le (by decide) (le_room row.size 40 firstSize)
    have hcells := cells_empty hroom
    have hfresh :
        Spreads row 0 { empty (room row.size 40 firstSize) with hasIntegers := true } := by
      refine ⟨rfl, rfl, ?_, fun s a => ?_⟩
      · exact hcells.congr rfl rfl hcells.texts (hcells.integers.congr fun n => by simp)
      · have hnone : (empty (room row.size 40 firstSize)).values[s]? = none :=
          Std.HashMap.getElem?_empty
        simp [hnone]
    obtain ⟨hindexed, hvalue⟩ := (spreads_range hfresh (Nat.le_refl row.size)).indexed
    refine ⟨hindexed, fun s => (hvalue s).trans ?_⟩
    rw [value?, hrow]
  | none =>
    dsimp only
    rcases h with hsome | ⟨-, hplaces, hvalues⟩ | hindexed
    · simp [hrow] at hsome
    · rw [if_pos hplaces]
      refine ⟨indexed_empty (by decide), fun s => ?_⟩
      have hnone : t.values[s]? = none := Std.HashMap.getElem?_eq_none (hvalues s)
      rw [value?, value?, hrow]
      exact Std.HashMap.getElem?_empty.trans hnone.symm
    · obtain ⟨q, hcells, -⟩ := hindexed.cells
      rw [if_neg (by rw [hcells.places_eq]; exact Nat.ne_of_gt hcells.pos)]
      exact ⟨hindexed, fun s => rfl⟩

/-- Giving all integers a place as a text makes no difference to what a table holds. -/
theorem WellFormed.withTexts (h : t.WellFormed) : t.withTexts.Indexed ∧
    t.withTexts.hasTexts = true ∧ ∀ s, t.withTexts.value? s = t.value? s := by
  obtain ⟨hspread, hvalue⟩ := h.spread
  unfold Table.withTexts
  dsimp only
  split
  · next htexts => exact ⟨hspread, htexts, hvalue⟩
  · next htexts =>
    rw [Bool.not_eq_true] at htexts
    obtain ⟨q, hcells, hq, hall⟩ := hspread.cells
    have hmem (s : String) : s ∈ t.spread.values ↔
        s ∈ t.spread.integers.toList.flatten.map (toString : ℤ → String) := by
      rw [List.mem_map]
      constructor
      · intro hs
        obtain ⟨n, hn, rfl⟩ := hall htexts s hs
        exact ⟨n, hcells.integers.mem_flatten.mpr hn, rfl⟩
      · rintro ⟨n, hn, rfl⟩
        exact hq n (hcells.integers.mem_flatten.mp hn)
    have hnodup : (t.spread.integers.toList.flatten.map (toString : ℤ → String)).Nodup :=
      hcells.integers.nodup_flatten.map fun m n => toString_inj.mp
    have hkept := hcells.texts.foldl_push hnodup (fun s _ hs => by simp [htexts] at hs)
      hcells.placeOf_lt
    rw [List.foldl_map] at hkept
    refine ⟨⟨hspread.row, q, hcells.congr ?_ rfl (hkept.congr fun s => ?_) hcells.integers, hq,
      nofun⟩, rfl, fun s => ?_⟩
    · exact size_foldl_modify (fun texts n => Array.size_modify) _ _
    · rw [← hmem]
      simp [htexts]
    · rw [← hvalue, hspread.value?_eq]
      rw [value?]
      simp only [hspread.row]

end Values

section Changes

variable {t : Table} {p : String → Prop} {q : ℤ → Prop} {s u : String} {n : ℤ} {a : Value}
  {create : Bool} {key : TableKey}

theorem grown_row (t : Table) : t.grown.row = t.row := by
  unfold grown
  split <;> rfl

theorem grown_values (t : Table) : t.grown.values = t.values := by
  unfold grown
  split <;> rfl

theorem grown_hasTexts (t : Table) : t.grown.hasTexts = t.hasTexts := by
  unfold grown
  split <;> rfl

@[simp] theorem make_row (t : Table) (s : String) : (t.make s).row = t.row := grown_row _

@[simp] theorem make_values (t : Table) (s : String) :
    (t.make s).values = t.values.insert s .unset := grown_values _

@[simp] theorem make_hasTexts (t : Table) (s : String) : (t.make s).hasTexts = t.hasTexts :=
  grown_hasTexts _

/-- Which values the keys have is nothing to where they are. -/
theorem Cells.withValues (h : Cells t p q) (values : Std.HashMap String Value) :
    Cells { t with values } p q :=
  h.congr rfl rfl h.texts h.integers

theorem Cells.make (h : Cells t p q) (s : String) : Cells (t.make s) p q :=
  (h.withValues (t.values.insert s .unset)).grown

theorem Indexed.raiseText (h : t.Indexed) (htexts : t.hasTexts = true) (hs : s ∈ t.values) :
    (t.raiseText s).Indexed := by
  obtain ⟨q, hcells, hq⟩ := h.cells
  have hraised := hcells.raiseText s
  refine ⟨h.row, q, ⟨hraised.sizes, hraised.pos, hraised.texts.congr fun u => ?_,
    hraised.integers⟩, hq⟩
  refine or_iff_left_of_imp ?_
  rintro rfl
  exact ⟨htexts, hs⟩

theorem Indexed.raiseInteger (h : t.Indexed) (hn : toString n ∈ t.values) :
    (t.raiseInteger n).Indexed := by
  obtain ⟨q, hcells, hq, hall⟩ := h.cells
  refine ⟨h.row, _, hcells.raiseInteger n, ?_, fun hno s hs => ?_⟩
  · rintro m (hm | rfl)
    · exact hq m hm
    · exact hn
  · obtain ⟨m, hm, heq⟩ := hall hno s hs
    exact ⟨m, .inl hm, heq⟩

theorem Indexed.mem_of_contains (h : t.Indexed)
    (hn : (cell t.integers (t.integerPlace n)).contains n) : toString n ∈ t.values := by
  obtain ⟨q, hcells, hq, -⟩ := h.cells
  exact hq n ((hcells.integers.mem_iff _ n).mp (List.contains_iff_mem.mp hn)).1

/-- As long as there are no texts, the integers are all keys. -/
theorem Indexed.contains_of_mem (h : t.Indexed) (hno : t.hasTexts = false)
    (hn : toString n ∈ t.values) : (cell t.integers (t.integerPlace n)).contains n := by
  obtain ⟨q, hcells, -, hall⟩ := h.cells
  obtain ⟨m, hm, heq⟩ := hall hno _ hn
  obtain rfl := toString_inj.mp heq
  exact List.contains_iff_mem.mpr ((hcells.integers.mem_iff _ m).mpr ⟨hm, rfl⟩)

theorem mem_make : u ∈ (t.make s).values ↔ u = s ∨ u ∈ t.values := by
  rw [make_values, Std.HashMap.mem_insert, beq_iff_eq, eq_comm]

/-- A key that is made is kept once it is in front of its place as a text. -/
theorem Indexed.makeText (h : t.Indexed) (htexts : t.hasTexts = true) (s : String) :
    ((t.make s).raiseText s).Indexed := by
  obtain ⟨q, hcells, hq, -⟩ := h.cells
  have hraised := (hcells.make s).raiseText s
  refine ⟨(make_row t s).trans h.row, q, ⟨hraised.sizes, hraised.pos, ?_, hraised.integers⟩,
    fun n hn => mem_make.mpr (.inr (hq n hn)), fun hno => ?_⟩
  · refine hraised.texts.congr fun u => ?_
    change _ ↔ (t.make s).hasTexts = true ∧ u ∈ (t.make s).values
    rw [mem_make, make_hasTexts]
    simp only [htexts, true_and]
    exact or_comm
  · have hyes : ((t.make s).raiseText s).hasTexts = true := (make_hasTexts t s).trans htexts
    rw [hyes] at hno
    contradiction

/-- Without texts it is enough that it is there as an integer. -/
theorem Indexed.makeInteger (h : t.Indexed) (hno : t.hasTexts = false) (n : ℤ) :
    ((t.make (toString n)).raiseInteger n).Indexed := by
  obtain ⟨q, hcells, hq, hall⟩ := h.cells
  have hraised := (hcells.make (toString n)).raiseInteger n
  refine ⟨(make_row t _).trans h.row, _, ⟨hraised.sizes, hraised.pos,
    hraised.texts.congr fun u => ?_, hraised.integers⟩, ?_, fun _ u hu => ?_⟩
  · change _ ↔ (t.make (toString n)).hasTexts = true ∧ _
    rw [make_hasTexts, hno]
    simp
  · rintro m (hm | rfl)
    · exact mem_make.mpr (.inr (hq m hm))
    · exact mem_make.mpr (.inl rfl)
  · rcases mem_make.mp hu with rfl | hu
    · exact ⟨n, .inr rfl, rfl⟩
    · obtain ⟨m, hm, heq⟩ := hall hno u hu
      exact ⟨m, .inl hm, heq⟩

/-- What looking for a key comes to. A key that is not there is made where that is asked for, and
nothing else changes. -/
structure Sought (t : Table) (key : TableKey) (create : Bool) (r : Table × Option Value) :
    Prop where
  wellFormed : r.1.WellFormed
  found : r.2 = (t.value? (keyText key)).or (if create then some .unset else none)
  self : r.1.value? (keyText key) = r.2
  other (s : String) : s ≠ keyText key → r.1.value? s = t.value? s
  row : r.1.row.isSome → ∃ n, key = .integer n

theorem Sought.of_found {t' : Table} (ht' : t'.Indexed) (ha : t.value? (keyText key) = some a)
    (hvalue : ∀ s, t'.value? s = t.value? s) : Sought t key create (t', some a) where
  wellFormed := .inr (.inr ht')
  found := by rw [ha, Option.some_or]
  self := (hvalue _).trans ha
  other s _ := hvalue s
  row h := by simp [ht'.row] at h

theorem Sought.of_missing {t' : Table} (ht' : t'.Indexed) (hnone : t.value? (keyText key) = none)
    (hvalue : ∀ s, t'.value? s = t.value? s) : Sought t key false (t', none) where
  wellFormed := .inr (.inr ht')
  found := by rw [hnone]; rfl
  self := (hvalue _).trans hnone
  other s _ := hvalue s
  row h := by simp [ht'.row] at h

theorem Sought.of_made {t' : Table} {values : Std.HashMap String Value} (ht' : t'.Indexed)
    (hnone : t.value? (keyText key) = none) (hvalues : ∀ s, values[s]? = t.value? s)
    (hmade : t'.values = values.insert (keyText key) .unset) :
    Sought t key true (t', some .unset) where
  wellFormed := .inr (.inr ht')
  found := by rw [hnone]; rfl
  self := by rw [ht'.value?_eq, hmade, Std.HashMap.getElem?_insert_self]
  other s hs := by
    rw [ht'.value?_eq, hmade, Std.HashMap.getElem?_insert, if_neg, hvalues]
    exact fun heq => hs (beq_iff_eq.mp heq).symm
  row h := by simp [ht'.row] at h

theorem Sought.of_eq {t' : Table} {r : Table × Option Value} (h : Sought t' key create r)
    (hvalue : ∀ s, t'.value? s = t.value? s) : Sought t key create r where
  wellFormed := h.wellFormed
  found := by rw [h.found, hvalue]
  self := h.self
  other s hs := (h.other s hs).trans (hvalue s)
  row := h.row

/-- A text is found, or made, behind any table. -/
theorem WellFormed.seekText (h : t.WellFormed) (key : TableKey) (create : Bool) :
    Sought t key create (t.seekText (keyText key) create) ∧
      ((t.seekText (keyText key) create).2.isSome →
        (t.seekText (keyText key) create).1.Indexed ∧
          keyText key ∈ (t.seekText (keyText key) create).1.values) := by
  obtain ⟨hindexed, htexts, hvalue⟩ := h.withTexts
  have hget (s : String) : t.withTexts.values[s]? = t.value? s :=
    (hindexed.value?_eq s).symm.trans (hvalue s)
  unfold Table.seekText
  dsimp only
  split
  · next a ha =>
    have hmem : keyText key ∈ t.withTexts.values :=
      Std.HashMap.mem_iff_isSome_getElem?.mpr (by rw [ha]; rfl)
    have hraised := hindexed.raiseText htexts hmem
    exact ⟨.of_found hraised ((hget _).symm.trans ha) hvalue, fun _ => ⟨hraised, hmem⟩⟩
  · next hnone =>
    cases create with
    | true =>
      have hmade := hindexed.makeText htexts (keyText key)
      exact ⟨.of_made hmade ((hget _).symm.trans hnone) hget (make_values _ _),
        fun _ => ⟨hmade, mem_make.mpr (.inl rfl)⟩⟩
    | false => exact ⟨.of_missing hindexed ((hget _).symm.trans hnone) hvalue, nofun⟩

theorem value?_toString {row : Array Value} (hrow : t.row = some row) (n : ℤ) :
    t.value? (toString n) = t.inRow? n := by
  rw [value?, inRow?, hrow]
  exact rowValue?_toString row n

/-- Any key is found, or made. -/
theorem WellFormed.seek (h : t.WellFormed) (key : TableKey) (create : Bool) :
    Sought t key create (t.seek key create) := by
  cases key with
  | text s => exact (h.seekText (.text s) create).1
  | integer n =>
    unfold Table.seek
    dsimp only
    split
    · next a ha =>
      obtain ⟨row, hrow, -⟩ := Option.bind_eq_some_iff.mp ha
      have hvalue : t.value? (toString n) = some a := (value?_toString hrow n).trans ha
      exact ⟨h, by rw [keyText, hvalue, Option.some_or], hvalue, fun _ _ => rfl, fun _ => ⟨n, rfl⟩⟩
    · next hnone =>
      split
      · next hin =>
        obtain ⟨hrow, hcreate⟩ := Bool.and_eq_true_iff.mp hin
        obtain ⟨row, hrow⟩ := Option.isSome_iff_exists.mp hrow
        have hvalue : t.value? (toString n) = none := (value?_toString hrow n).trans hnone
        rw [Bool.not_eq_true'] at hcreate
        subst hcreate
        exact ⟨h, by rw [keyText, hvalue]; rfl, hvalue, fun _ _ => rfl, fun _ => ⟨n, rfl⟩⟩
      · obtain ⟨hindexed, hvalue⟩ := h.spread
        have hget (s : String) : t.spread.values[s]? = t.value? s :=
          (hindexed.value?_eq s).symm.trans (hvalue s)
        split
        · next hthere =>
          have hmem := hindexed.mem_of_contains hthere
          obtain ⟨a, ha⟩ := Option.isSome_iff_exists.mp
            (Std.HashMap.mem_iff_isSome_getElem?.mp hmem)
          rw [ha, Option.getD_some]
          exact .of_found (hindexed.raiseInteger hmem) ((hget _).symm.trans ha) hvalue
        · next hthere =>
          split
          · next htexts =>
            have hwell : t.spread.WellFormed := .inr (.inr hindexed)
            obtain ⟨hsought, hfound⟩ := hwell.seekText (.integer n) create
            refine Sought.of_eq ?_ hvalue
            split
            · next hsome =>
              obtain ⟨hsought', hmem⟩ := hfound hsome
              have hraised := hsought'.raiseInteger hmem
              exact ⟨.inr (.inr hraised), hsought.found, hsought.self, hsought.other, hsought.row⟩
            · exact hsought
          · next htexts =>
            rw [Bool.not_eq_true] at htexts
            have hnone : t.spread.values[toString n]? = none :=
              Std.HashMap.getElem?_eq_none fun hmem =>
                hthere (hindexed.contains_of_mem htexts hmem)
            have hmissing : t.value? (keyText (.integer n)) = none := (hget _).symm.trans hnone
            cases create with
            | true => exact .of_made (hindexed.makeInteger htexts n) hmissing hget (make_values _ _)
            | false => exact .of_missing hindexed hmissing hvalue

/-- A well-formed table that has no row keeps its keys as soon as it has one. -/
theorem WellFormed.indexed (h : t.WellFormed) (hrow : t.row = none) (hs : (t.value? s).isSome) :
    t.Indexed := by
  rcases h with hsome | ⟨-, -, hnone⟩ | hindexed
  · simp [hrow] at hsome
  · rw [value?, hrow] at hs
    exact absurd (Std.HashMap.mem_iff_isSome_getElem?.mpr hs) (hnone s)
  · exact hindexed

theorem Indexed.replace (h : t.Indexed) (hs : s ∈ t.values) (a : Value) :
    ({ t with values := t.values.insert s a } : Table).Indexed := by
  obtain ⟨q, hcells, hq, hall⟩ := h.cells
  have hmem (u : String) : u ∈ t.values.insert s a ↔ u ∈ t.values := by
    rw [Std.HashMap.mem_insert, beq_iff_eq, or_iff_right_of_imp]
    rintro rfl
    exact hs
  refine ⟨h.row, q, ?_, fun n hn => (hmem _).mpr (hq n hn), fun hno u hu => ?_⟩
  · exact hcells.congr rfl rfl (hcells.texts.congr fun u => and_congr_right fun _ => (hmem u).symm)
      hcells.integers
  · exact hall hno u ((hmem u).mp hu)

theorem rowValue?_setIfInBounds {row : Array Value} (hn : 1 ≤ n) (hsize : (n - 1).toNat < row.size)
    (a : Value) (s : String) :
    rowValue? (row.setIfInBounds (n - 1).toNat a) s =
      if s = toString n then some a else rowValue? row s := by
  split
  · next hs =>
    rw [hs, rowValue?_toString, if_pos hn, Array.getElem?_setIfInBounds_self_of_lt hsize]
  · next hs =>
    refine Option.ext fun b => ?_
    rw [rowValue?_eq_some, rowValue?_eq_some]
    refine exists_congr fun i => and_congr_right fun hi => ?_
    rw [Array.getElem?_setIfInBounds_ne]
    rintro rfl
    refine hs (hi.trans (congrArg toString ?_))
    omega

/-- The value of a key that is there may be replaced, in a row too. -/
theorem Sought.replace {r : Table × Option Value} (h : Sought t key true r) {t' : Table}
    (ht' : t'.WellFormed) (hvalue : ∀ s, t'.value? s =
      if s = keyText key then some a else r.1.value? s) :
    t'.WellFormed ∧ ∀ s, t'.value? s = if s = keyText key then some a else t.value? s := by
  refine ⟨ht', fun s => (hvalue s).trans ?_⟩
  split
  · rfl
  · next hs => exact h.other s hs

/-- A value that is set is the one that is found afterwards, and no other changes. -/
theorem WellFormed.set (h : t.WellFormed) (key : TableKey) (a : Value) :
    (t.set key a).WellFormed ∧ ∀ s, (t.set key a).value? s =
      if s = keyText key then some a else t.value? s := by
  have hsought := h.seek key true
  have hsome : ((t.seek key true).1.value? (keyText key)).isSome := by
    rw [hsought.self, hsought.found]
    cases t.value? (keyText key) <;> rfl
  cases hrow : (t.seek key true).1.row with
  | some row =>
    obtain ⟨n, rfl⟩ := hsought.row (by rw [hrow]; rfl)
    simp only [Table.set, hrow]
    refine hsought.replace (.inl rfl) fun s => ?_
    rw [keyText, value?_toString hrow, inRow?, hrow, Option.bind_some] at hsome
    split at hsome
    · next hn =>
      obtain ⟨b, hb⟩ := Option.isSome_iff_exists.mp hsome
      rw [value?, value?, hrow]
      exact rowValue?_setIfInBounds hn (Array.getElem?_eq_some_iff.mp hb).1 a s
    · contradiction
  | none =>
    simp only [Table.set, hrow]
    have hindexed := hsought.wellFormed.indexed hrow hsome
    rw [hindexed.value?_eq, Std.HashMap.isSome_getElem?_iff_mem] at hsome
    have hreplaced := hindexed.replace hsome a
    rw [hrow] at hreplaced
    refine hsought.replace (.inr (.inr hreplaced)) fun s => ?_
    rw [hreplaced.value?_eq, hindexed.value?_eq, Std.HashMap.getElem?_insert]
    refine if_congr ?_ rfl rfl
    rw [beq_iff_eq, eq_comm]

/-- A key that is taken out is in none of the places any more. -/
theorem Indexed.without (h : t.Indexed) (s : String) : (t.without s).Indexed := by
  obtain ⟨q, hcells, hq, hall⟩ := h.cells
  have hmem (u : String) : u ∈ (t.without s).values ↔ u ≠ s ∧ u ∈ t.values := by
    change u ∈ t.values.erase s ↔ _
    rw [Std.HashMap.mem_erase, beq_eq_false_iff_ne, ne_comm]
  have htexts : (t.without s).texts.size = t.texts.size ∧ Kept t.placeOf (t.without s).texts
      fun u => (t.without s).hasTexts = true ∧ u ∈ (t.without s).values := by
    change (if _ then _ else _ : Array (List String)).size = _ ∧
      Kept t.placeOf (if _ then _ else _) fun u => t.hasTexts = true ∧ _
    split
    · refine ⟨Array.size_modify, (hcells.texts.drop (hcells.placeOf_lt s)).congr fun u => ?_⟩
      rw [hmem, and_assoc, and_comm (a := u ∈ t.values)]
    · next hno => exact ⟨rfl, hcells.texts.congr fun u => by simp [hno]⟩
  have hintegers : (t.without s).integers.size = t.integers.size ∧
      Kept t.integerPlace (t.without s).integers fun n => q n ∧ toString n ≠ s := by
    unfold Table.without
    dsimp only
    split
    · next n hn =>
      split
      · next hs =>
        refine ⟨Array.size_modify,
          (hcells.integers.drop (hcells.integerPlace_lt n)).congr fun m => ?_⟩
        rw [← hs, toString_inj.ne]
      · next hs =>
        refine ⟨rfl, hcells.integers.congr fun m => (and_iff_left ?_).symm⟩
        rintro rfl
        rw [integerOf?_toString, Option.some_inj] at hn
        exact hs (hn ▸ rfl)
    · next hn =>
      refine ⟨rfl, hcells.integers.congr fun m => (and_iff_left ?_).symm⟩
      rintro rfl
      rw [integerOf?_toString] at hn
      contradiction
  refine ⟨rfl, _, hcells.congr htexts.1 hintegers.1 htexts.2 hintegers.2, ?_, fun hno u hu => ?_⟩
  · rintro n ⟨hn, hs⟩
    exact (hmem _).mpr ⟨hs, hq n hn⟩
  · obtain ⟨hus, hu⟩ := (hmem u).mp hu
    obtain ⟨n, hn, rfl⟩ := hall hno u hu
    exact ⟨n, ⟨hn, hus⟩, rfl⟩

theorem wellFormed_empty : WellFormed {} :=
  .inr (.inl ⟨rfl, rfl, fun _ => Std.HashMap.not_mem_empty⟩)

theorem value?_empty (s : String) : value? {} s = none := Std.HashMap.getElem?_empty

/-- A key that is taken out is not found afterwards, and nothing else changes. -/
theorem WellFormed.erase (h : t.WellFormed) (key : TableKey) :
    (t.erase key).WellFormed ∧ ∀ s, (t.erase key).value? s =
      if s = keyText key then none else t.value? s := by
  have hsought := h.seek key false
  unfold Table.erase
  dsimp only
  split
  · next hnone =>
    refine ⟨hsought.wellFormed, fun s => ?_⟩
    split
    · next hs => rw [hs, hsought.self, Option.isNone_iff_eq_none.mp hnone]
    · next hs => exact hsought.other s hs
  · obtain ⟨hindexed, hvalue⟩ := hsought.wellFormed.spread
    have hwithout := hindexed.without (keyText key)
    have hleft (s : String) : ((t.seek key false).1.spread.without (keyText key)).value? s =
        if s = keyText key then none else t.value? s := by
      change ((t.seek key false).1.spread.values.erase (keyText key))[s]? = _
      rw [Std.HashMap.getElem?_erase, ← hindexed.value?_eq, hvalue]
      by_cases hs : s = keyText key
      · rw [if_pos hs, if_pos (beq_iff_eq.mpr hs.symm)]
      · rw [if_neg hs, if_neg fun heq => hs (beq_iff_eq.mp heq).symm, hsought.other s hs]
    split
    · next hempty =>
      refine ⟨wellFormed_empty, fun s => ?_⟩
      rw [value?_empty, ← hleft, hwithout.value?_eq]
      exact (Std.HashMap.getElem?_eq_none (Std.HashMap.not_mem_of_isEmpty hempty)).symm
    · exact ⟨.inr (.inr hwithout), hleft⟩

theorem WellFormed.ofRow (row : Array Value) :
    (ofRow row).WellFormed ∧ ∀ s, (ofRow row).value? s = rowValue? row s := by
  unfold Table.ofRow
  split
  · next hempty =>
    refine ⟨wellFormed_empty, fun s => ?_⟩
    rw [value?_empty, Array.isEmpty_iff.mp hempty, rowValue?_empty]
  · exact ⟨.inl rfl, fun s => rfl⟩

theorem value?_of_size_eq_zero (hsize : t.size = 0) (s : String) : t.value? s = none := by
  unfold size at hsize
  unfold value?
  cases hrow : t.row with
  | some row =>
    rw [hrow] at hsize
    rw [Array.size_eq_zero_iff.mp hsize]
    exact rowValue?_empty s
  | none =>
    rw [hrow] at hsize
    refine Std.HashMap.getElem?_eq_none (Std.HashMap.not_mem_of_isEmpty ?_)
    rw [Std.HashMap.isEmpty_eq_size_eq_zero]
    exact decide_eq_true hsize

/-- The keys of a table are those that are found, each of them once, and it makes no difference to
what a table holds that they have been asked for. -/
theorem WellFormed.keys (h : t.WellFormed) :
    t.keys.2.Nodup ∧ (∀ s, s ∈ t.keys.2 ↔ (t.value? s).isSome) ∧
      t.keys.1.WellFormed ∧ ∀ s, t.keys.1.value? s = t.value? s := by
  unfold Table.keys
  split
  · next hsize =>
    exact ⟨List.nodup_nil, fun s => by simp [value?_of_size_eq_zero hsize], h, fun s => rfl⟩
  · obtain ⟨hindexed, htexts, hvalue⟩ := h.withTexts
    obtain ⟨q, hcells, -⟩ := hindexed.cells
    refine ⟨hcells.texts.nodup_flatten, fun s => ?_, .inr (.inr hindexed), hvalue⟩
    rw [← hvalue, hindexed.value?_eq, Std.HashMap.isSome_getElem?_iff_mem]
    exact hcells.texts.mem_flatten.trans (and_iff_right htexts)

end Changes

section Histories

variable {t : Table} {m : String → Option Value}

/-- The maps that go through the same as tables. -/
inductive History : Table → (String → Option Value) → Prop
  | empty : History {} fun _ => none
  | ofRow (row : Array Value) : History (ofRow row) (rowValue? row)
  | sought {t : Table} {m : String → Option Value} (h : History t m) (key : TableKey) :
      History (t.seek key false).1 m
  | made {t : Table} {m : String → Option Value} (h : History t m) (key : TableKey) :
      History (t.seek key true).1
        (Function.update m (keyText key) (some ((m (keyText key)).getD .unset)))
  | set {t : Table} {m : String → Option Value} (h : History t m) (key : TableKey) (a : Value) :
      History (t.set key a) (Function.update m (keyText key) (some a))
  | erased {t : Table} {m : String → Option Value} (h : History t m) (key : TableKey) :
      History (t.erase key) (Function.update m (keyText key) none)
  | listed {t : Table} {m : String → Option Value} (h : History t m) : History t.keys.1 m

/-- Whatever a table has gone through, it holds what a map would. -/
theorem History.holds (h : History t m) : t.WellFormed ∧ ∀ s, t.value? s = m s := by
  induction h with
  | empty => exact ⟨wellFormed_empty, value?_empty⟩
  | ofRow row => exact WellFormed.ofRow row
  | @sought t m _ key ih =>
    have hsought := ih.1.seek key false
    refine ⟨hsought.wellFormed, fun s => ?_⟩
    rw [← ih.2]
    by_cases hs : s = keyText key
    · rw [hs, hsought.self, hsought.found, if_neg Bool.false_ne_true, Option.or_none]
    · exact hsought.other s hs
  | @made t m _ key ih =>
    have hsought := ih.1.seek key true
    refine ⟨hsought.wellFormed, fun s => ?_⟩
    rw [Function.update_apply]
    split
    · next hs =>
      rw [hs, hsought.self, hsought.found, ih.2, if_pos rfl]
      cases m (keyText key) <;> rfl
    · next hs => exact (hsought.other s hs).trans (ih.2 s)
  | @set t m _ key a ih =>
    obtain ⟨hwell, hvalue⟩ := ih.1.set key a
    refine ⟨hwell, fun s => ?_⟩
    rw [hvalue, Function.update_apply, ih.2]
  | @erased t m _ key ih =>
    obtain ⟨hwell, hvalue⟩ := ih.1.erase key
    refine ⟨hwell, fun s => ?_⟩
    rw [hvalue, Function.update_apply, ih.2]
  | listed _ ih =>
    obtain ⟨-, -, hwell, hvalue⟩ := ih.1.keys
    exact ⟨hwell, fun s => (hvalue s).trans (ih.2 s)⟩

/-- What is found, and which keys there are, is told by the map alone. -/
theorem History.found (h : History t m) (key : TableKey) (create : Bool) :
    (t.seek key create).2 = (m (keyText key)).or (if create then some .unset else none) ∧
      t.keys.2.Nodup ∧ ∀ s, s ∈ t.keys.2 ↔ (m s).isSome := by
  obtain ⟨hwell, hvalue⟩ := h.holds
  obtain ⟨hnodup, hmem, -⟩ := hwell.keys
  refine ⟨(hwell.seek key create).found.trans (by rw [hvalue]), hnodup, fun s => ?_⟩
  rw [hmem, hvalue]

end Histories

end ReleasePreview.Awk.Table
