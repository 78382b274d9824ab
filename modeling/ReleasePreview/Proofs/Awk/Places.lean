import Mathlib.Tactic.Ring
import ReleasePreview.Awk.Table
import ReleasePreview.Proofs.Decimal.Natural

/-!
The places of tables. Whatever is done to them, each key that is kept is kept once, at its place.
-/
namespace ReleasePreview.Awk.Table

section Keys

theorem integerOf?_toString (n : ℤ) : integerOf? (toString n) = some n := by
  unfold integerOf?
  cases n with
  | ofNat m =>
    have hlist : (toString (Int.ofNat m)).toList = Nat.toDigits 10 m := Nat.toList_repr
    obtain ⟨c, ds, hds, hc⟩ := Decimal.exists_toDigits_eq_cons m
    have hminus : c ≠ '-' := fun heq => by simp [heq, Decimal.isDigit] at hc
    rw [hlist]
    split
    · next ds' heq =>
      rw [hds] at heq
      exact absurd (List.cons.inj heq).1 hminus
    · rw [Decimal.natural?_toDigits]
      rfl
  | negSucc m =>
    have hlist : (toString (Int.negSucc m)).toList = '-' :: Nat.toDigits 10 (m + 1) := by
      change ("-" ++ (m + 1).repr).toList = _
      rw [String.toList_append, Nat.toList_repr]
      rfl
    rw [hlist]
    simp only [Decimal.natural?_toDigits]
    rfl

theorem toString_inj {m n : ℤ} : toString m = toString n ↔ m = n := by
  refine ⟨fun h => ?_, fun h => h ▸ rfl⟩
  have hm := integerOf?_toString m
  rw [h, integerOf?_toString] at hm
  exact (Option.some.inj hm).symm

end Keys

section Kept

variable {α : Type} {place wide : α → ℕ} {lists : Array (List α)} {p q : α → Prop} {a b : α}

/-- What is kept at a place. -/
def cell (lists : Array (List α)) (i : ℕ) : List α := (lists[i]?).getD []

/-- Each one of some keys is kept once, at its place, and nothing else is. -/
structure Kept (place : α → ℕ) (lists : Array (List α)) (p : α → Prop) : Prop where
  mem_iff (i : ℕ) (a : α) : a ∈ cell lists i ↔ p a ∧ place a = i
  nodup (i : ℕ) : (cell lists i).Nodup

theorem cell_of_size_le {i : ℕ} (h : lists.size ≤ i) : cell lists i = [] := by
  rw [cell, Array.getElem?_eq_none h, Option.getD_none]

theorem Kept.place_lt (h : Kept place lists p) (ha : p a) : place a < lists.size := by
  refine Nat.lt_of_not_le fun hle => ?_
  have hmem := (h.mem_iff (place a) a).mpr ⟨ha, rfl⟩
  rw [cell_of_size_le hle] at hmem
  contradiction

theorem Kept.congr (h : Kept place lists p) (hp : ∀ a, p a ↔ q a) : Kept place lists q where
  mem_iff i a := by rw [h.mem_iff, hp]
  nodup := h.nodup

theorem kept_replicate (place : α → ℕ) (n : ℕ) :
    Kept place (Array.replicate n []) fun _ => False := by
  have hcell (i : ℕ) : cell (Array.replicate n ([] : List α)) i = [] := by
    rw [cell, Array.getElem?_replicate]
    split <;> rfl
  exact ⟨fun i a => by simp [hcell], fun i => by simp [hcell]⟩

theorem cell_modify (f : List α → List α) {i : ℕ} (hi : i < lists.size) (j : ℕ) :
    cell (lists.modify i f) j = if i = j then f (cell lists i) else cell lists j := by
  rw [cell, Array.getElem?_modify]
  split
  · next hij =>
    subst hij
    rw [cell, Array.getElem?_eq_getElem hi]
    rfl
  · rfl

/-- A place may be changed as long as nothing but one key comes or goes. -/
theorem Kept.modify (h : Kept place lists p) (ha : place a < lists.size) {f : List α → List α}
    (hself : a ∈ f (cell lists (place a)) ↔ q a)
    (hother : ∀ b, b ≠ a → (b ∈ f (cell lists (place a)) ↔ b ∈ cell lists (place a)))
    (hnodup : (f (cell lists (place a))).Nodup) (hq : ∀ b, b ≠ a → (q b ↔ p b)) :
    Kept place (lists.modify (place a) f) q where
  mem_iff i b := by
    rw [cell_modify f ha]
    by_cases hb : b = a
    · subst hb
      split
      · next hi => rw [hself, and_iff_left hi]
      · next hi => simp [h.mem_iff, hi]
    · rw [hq b hb, ← h.mem_iff]
      split
      · next hi => rw [hother b hb, hi]
      · rfl
  nodup i := by
    rw [cell_modify f ha]
    split
    · exact hnodup
    · exact h.nodup i

theorem Kept.push (h : Kept place lists p) (ha : place a < lists.size) (hnew : ¬ p a) :
    Kept place (lists.modify (place a) (a :: ·)) fun b => p b ∨ b = a := by
  have hnot : a ∉ cell lists (place a) := fun hmem => hnew ((h.mem_iff _ a).mp hmem).1
  refine h.modify ha (by simp) (fun b hb => by simp [hb]) ?_ fun b hb => by simp [hb]
  exact List.nodup_cons.mpr ⟨hnot, h.nodup _⟩

/-- Twice as many places take all keys if each goes to one of the two that its place has become. -/
theorem Kept.widen (h : Kept place lists p) {m : ℕ} (hm : m = lists.size)
    (hwide : ∀ a, wide a < 2 * m ∧ wide a % m = place a) :
    Kept wide ((lists ++ Array.replicate lists.size []).mapIdx fun i _ =>
      (cell lists (i % m)).filter (wide · = i)) p := by
  subst hm
  have hcell (i : ℕ) : cell ((lists ++ Array.replicate lists.size []).mapIdx fun i _ =>
      (cell lists (i % lists.size)).filter (wide · = i)) i =
        if i < 2 * lists.size then (cell lists (i % lists.size)).filter (wide · = i) else [] := by
    have hsize : (lists ++ Array.replicate lists.size []).size = 2 * lists.size := by
      rw [Array.size_append, Array.size_replicate]
      omega
    rw [cell, Array.getElem?_mapIdx]
    split
    · next hi =>
      rw [Array.getElem?_eq_getElem (hsize ▸ hi)]
      rfl
    · next hi =>
      rw [Array.getElem?_eq_none (by omega)]
      rfl
  refine ⟨fun i a => ?_, fun i => ?_⟩
  · rw [hcell]
    split
    · next hi =>
      rw [List.mem_filter, h.mem_iff, decide_eq_true_eq, and_assoc]
      refine and_congr_right fun _ => and_iff_right_of_imp fun heq => ?_
      rw [← heq, (hwide a).2]
    · next hi =>
      refine iff_of_false List.not_mem_nil fun ⟨_, heq⟩ => hi ?_
      exact heq ▸ (hwide a).1
  · rw [hcell]
    split
    · exact (h.nodup _).filter _
    · exact List.nodup_nil

theorem Kept.mem_flatten (h : Kept place lists p) : a ∈ lists.toList.flatten ↔ p a := by
  rw [List.mem_flatten]
  constructor
  · rintro ⟨l, hl, ha⟩
    obtain ⟨i, hi, rfl⟩ := List.mem_iff_getElem.mp hl
    refine ((h.mem_iff i a).mp ?_).1
    rw [cell, Array.getElem?_eq_getElem (by simpa using hi)]
    simpa using ha
  · intro ha
    have hlt := h.place_lt ha
    refine ⟨lists[place a], by simp, ?_⟩
    have hmem := (h.mem_iff (place a) a).mpr ⟨ha, rfl⟩
    rwa [cell, Array.getElem?_eq_getElem hlt] at hmem

theorem Kept.nodup_flatten (h : Kept place lists p) : lists.toList.flatten.Nodup := by
  have hcell (i : ℕ) (hi : i < lists.toList.length) : lists.toList[i] = cell lists i := by
    rw [cell, Array.getElem?_eq_getElem (by simpa using hi)]
    simp
  rw [List.nodup_flatten]
  refine ⟨fun l hl => ?_, List.pairwise_iff_getElem.mpr fun i j hi hj hlt => ?_⟩
  · obtain ⟨i, hi, rfl⟩ := List.mem_iff_getElem.mp hl
    exact hcell i hi ▸ h.nodup i
  · rw [hcell i hi, hcell j hj]
    intro a ha ha'
    have hi' := ((h.mem_iff i a).mp ha).2
    have hj' := ((h.mem_iff j a).mp ha').2
    omega

/-- Keys that are new and all different can be kept one after the other. -/
theorem Kept.foldl_push {keys : List α} (h : Kept place lists p) (hkeys : keys.Nodup)
    (hnew : ∀ a ∈ keys, ¬ p a) (hlt : ∀ a, place a < lists.size) :
    Kept place (keys.foldl (fun lists a => lists.modify (place a) (a :: ·)) lists)
      fun b => p b ∨ b ∈ keys := by
  induction keys generalizing lists p with
  | nil => simpa using h
  | cons a keys ih =>
    obtain ⟨ha, hkeys⟩ := List.nodup_cons.mp hkeys
    obtain ⟨hpa, hnew⟩ := List.forall_mem_cons.mp hnew
    refine (ih (h.push (hlt a) hpa) hkeys (fun b hb => ?_) fun b => ?_).congr fun b => ?_
    · rintro (hpb | rfl)
      · exact hnew b hb hpb
      · exact ha hb
    · rw [Array.size_modify]
      exact hlt b
    · rw [List.mem_cons, or_assoc]

theorem size_foldl_modify {β : Type} {f : Array (List α) → β → Array (List α)}
    (hf : ∀ lists b, (f lists b).size = lists.size) (bs : List β) (lists : Array (List α)) :
    (bs.foldl f lists).size = lists.size := by
  induction bs generalizing lists with
  | nil => rfl
  | cons b bs ih => rw [List.foldl_cons, ih, hf]

variable [DecidableEq α]

/-- A key may be put in front of its place, new or not. -/
theorem Kept.raise (h : Kept place lists p) (ha : place a < lists.size) :
    Kept place (lists.modify (place a) fun all =>
      if all.head? = some a then all else a :: all.filter (· ≠ a)) fun b => p b ∨ b = a := by
  refine h.modify ha ?_ (fun b hb => ?_) ?_ fun b hb => by simp [hb]
  · split
    · next hhead => simp [List.mem_of_mem_head? hhead]
    · simp
  · split
    · rfl
    · simp [hb]
  · split
    · exact h.nodup _
    · exact List.nodup_cons.mpr ⟨by simp, (h.nodup _).filter _⟩

theorem Kept.drop (h : Kept place lists p) (ha : place a < lists.size) :
    Kept place (lists.modify (place a) (·.filter (· ≠ a))) fun b => p b ∧ b ≠ a :=
  h.modify ha (by simp) (fun b hb => by simp [hb]) ((h.nodup _).filter _) fun b hb => by simp [hb]

end Kept

section Cells

variable {t t' : Table} {p : String → Prop} {q : ℤ → Prop} {s : String} {n : ℤ}

/-- Texts and integers are kept at as many places, and there are some. -/
structure Cells (t : Table) (p : String → Prop) (q : ℤ → Prop) : Prop where
  sizes : t.texts.size = t.integers.size
  pos : 0 < t.integers.size
  texts : Kept t.placeOf t.texts p
  integers : Kept t.integerPlace t.integers q

theorem Cells.places_eq (h : Cells t p q) : t.places = t.integers.size := by
  rw [places, h.sizes, Nat.max_self]

theorem Cells.placeOf_lt (h : Cells t p q) (s : String) : t.placeOf s < t.texts.size := by
  rw [placeOf, h.places_eq, h.sizes]
  exact Nat.mod_lt _ h.pos

theorem Cells.integerPlace_lt (h : Cells t p q) (n : ℤ) :
    t.integerPlace n < t.integers.size := by
  have hpos := h.pos
  rw [integerPlace, h.places_eq]
  change (n % (t.integers.size : ℤ)).toNat < _
  have hlow := Int.emod_nonneg n (b := (t.integers.size : ℤ)) (by omega)
  have hhigh := Int.emod_lt_of_pos n (b := (t.integers.size : ℤ)) (by omega)
  omega

/-- Where keys are placed depends on the number of places alone. -/
theorem cells_of_places (hsizes : t'.texts.size = t'.integers.size) (hpos : 0 < t'.places)
    (hplaces : t'.places = t.places) (hp : Kept t.placeOf t'.texts p)
    (hq : Kept t.integerPlace t'.integers q) : Cells t' p q := by
  have htext : t'.placeOf = t.placeOf := by
    funext s
    rw [placeOf, placeOf, hplaces]
  have hinteger : t'.integerPlace = t.integerPlace := by
    funext n
    rw [integerPlace, integerPlace, hplaces]
  refine ⟨hsizes, ?_, htext ▸ hp, hinteger ▸ hq⟩
  rwa [places, hsizes, Nat.max_self] at hpos

/-- Some places may be changed. -/
theorem Cells.congr {p' : String → Prop} {q' : ℤ → Prop} (h : Cells t p q)
    (htexts : t'.texts.size = t.texts.size) (hintegers : t'.integers.size = t.integers.size)
    (hp : Kept t.placeOf t'.texts p') (hq : Kept t.integerPlace t'.integers q') :
    Cells t' p' q' := by
  have hplaces : t'.places = t.places := by rw [places, places, htexts, hintegers]
  refine cells_of_places (by rw [htexts, hintegers, h.sizes]) ?_ hplaces hp hq
  rw [hplaces, h.places_eq]
  exact h.pos

theorem Cells.raiseText (h : Cells t p q) (s : String) :
    Cells (t.raiseText s) (fun u => p u ∨ u = s) q :=
  h.congr Array.size_modify rfl (h.texts.raise (h.placeOf_lt s)) h.integers

theorem Cells.raiseInteger (h : Cells t p q) (n : ℤ) :
    Cells (t.raiseInteger n) p fun m => q m ∨ m = n :=
  h.congr rfl Array.size_modify h.texts (h.integers.raise (h.integerPlace_lt n))

/-- An integer goes to one of the two places that its place becomes. -/
theorem emod_double (n : ℤ) {m : ℕ} (hm : 0 < m) :
    (Int.emod n (2 * m : ℕ)).toNat < 2 * m ∧
      (Int.emod n (2 * m : ℕ)).toNat % m = (Int.emod n m).toNat := by
  change (n % (2 * m : ℕ)).toNat < 2 * m ∧ (n % (2 * m : ℕ)).toNat % m = (n % m).toNat
  have hlow := Int.emod_nonneg n (b := ((2 * m : ℕ) : ℤ)) (by omega)
  have hhigh := Int.emod_lt_of_pos n (b := ((2 * m : ℕ) : ℤ)) (by omega)
  refine ⟨by omega, ?_⟩
  have hdvd : (m : ℤ) ∣ (2 * m : ℕ) := ⟨2, by push_cast; ring⟩
  rw [← Int.emod_emod_of_dvd n hdvd, Int.toNat_emod hlow (by omega), Int.toNat_natCast]

theorem Cells.grown (h : Cells t p q) : Cells t.grown p q := by
  unfold Table.grown
  split
  · exact h
  · have hintegers := h.places_eq
    have htexts : t.places = t.texts.size := hintegers.trans h.sizes.symm
    have hpos : 0 < t.places := hintegers ▸ h.pos
    let wide : Table := { t with
      texts := t.texts ++ Array.replicate t.texts.size []
      integers := t.integers ++ Array.replicate t.integers.size [] }
    have hwide : wide.places = 2 * t.places := by
      change max (t.texts ++ Array.replicate t.texts.size []).size
        (t.integers ++ Array.replicate t.integers.size []).size = _
      rw [Array.size_append, Array.size_append, Array.size_replicate, Array.size_replicate]
      omega
    have htext (s : String) : wide.placeOf s < 2 * t.places ∧
        wide.placeOf s % t.places = t.placeOf s := by
      rw [placeOf, placeOf, hwide]
      exact ⟨Nat.mod_lt _ (by omega), Nat.mod_mod_of_dvd _ (Nat.dvd_mul_left _ _)⟩
    have hinteger (n : ℤ) : wide.integerPlace n < 2 * t.places ∧
        wide.integerPlace n % t.places = t.integerPlace n := by
      rw [integerPlace, integerPlace, hwide]
      exact emod_double n hpos
    have hsize {α : Type} (f : ℕ → List α → List α) (lists : Array (List α)) :
        ((lists ++ Array.replicate lists.size []).mapIdx f).size = 2 * lists.size := by
      rw [Array.size_mapIdx, Array.size_append, Array.size_replicate]
      omega
    have hmax : max (2 * t.texts.size) (2 * t.integers.size) = 2 * t.places := by omega
    refine cells_of_places ?sizes ?pos ?places (h.texts.widen htexts htext)
      (h.integers.widen hintegers hinteger)
    case sizes =>
      exact (hsize _ t.texts).trans
        ((congrArg (2 * ·) h.sizes).trans (hsize _ t.integers).symm)
    case places =>
      exact (congrArg₂ max (hsize _ t.texts) (hsize _ t.integers)).trans (hmax.trans hwide.symm)
    case pos =>
      refine Nat.lt_of_lt_of_eq ?_
        ((congrArg₂ max (hsize _ t.texts) (hsize _ t.integers)).trans hmax).symm
      omega

theorem cells_empty {places : ℕ} (h : 0 < places) :
    Cells (empty places) (fun _ => False) fun _ => False where
  sizes := by simp [empty]
  pos := by simpa [empty] using h
  texts := kept_replicate _ _
  integers := kept_replicate _ _

end Cells

end ReleasePreview.Awk.Table
