import Mathlib.Data.List.Basic
import Mathlib.Data.List.Nodup
import Mathlib.Data.List.Perm.Subperm
import ReleasePreview.Regex.Expression

/-!
Where matches of regular expressions end. The places behind the matches that begin at some places
are computed for all of these at once, in ascending order. They are those that the meaning of an
expression leads to: the places that it spans the text up to.
-/
namespace ReleasePreview.Regex

/-- So many steps of a relation lead from one thing to another. -/
def Times {α : Type} (r : α → α → Prop) : ℕ → α → α → Prop
  | 0, i, j => i = j
  | n + 1, i, k => ∃ j, r i j ∧ Times r n j k

section Times

variable {α : Type} {r : α → α → Prop} {i j k : α} {m n : ℕ}

theorem times_add : Times r (m + n) i k ↔ ∃ j, Times r m i j ∧ Times r n j k := by
  induction m generalizing i with
  | zero => simp [Times]
  | succ m ih =>
    rw [Nat.succ_add_eq_add_succ, Nat.add_succ]
    simp only [Times, ih]
    constructor
    · rintro ⟨l, hl, j, hm, hn⟩
      exact ⟨j, ⟨l, hl, hm⟩, hn⟩
    · rintro ⟨j, ⟨l, hl, hm⟩, hn⟩
      exact ⟨l, hl, j, hm, hn⟩

/-- What every step keeps, all of them keep. -/
theorem Times.preserves {P : α → Prop} (hr : ∀ i j, r i j → P i → P j) (h : Times r n i j)
    (hi : P i) : P j := by
  induction n generalizing i with
  | zero => exact h ▸ hi
  | succ n ih =>
    obtain ⟨k, hik, hkj⟩ := h
    exact ih hkj (hr i k hik hi)

end Times

/-- Places in ascending order, none of them behind the text. -/
structure Ordered (t : Subject) (s : List ℕ) : Prop where
  ascending : s.Pairwise (· < ·)
  le_size {i : ℕ} (hi : i ∈ s) : i ≤ t.size

/-- What comes of places in order are the places, again in order, that a relation leads to. -/
structure Along (t : Subject) (step : List ℕ → List ℕ) (r : ℕ → ℕ → Prop) : Prop where
  ordered {s : List ℕ} (hs : Ordered t s) : Ordered t (step s)
  mem_iff {s : List ℕ} (hs : Ordered t s) (j : ℕ) : j ∈ step s ↔ ∃ i ∈ s, r i j

variable {t : Subject} {s s' : List ℕ} {i j k n : ℕ} {p : Char → Bool} {step : List ℕ → List ℕ}
  {r r' : ℕ → ℕ → Prop}

theorem ordered_singleton (h : i ≤ t.size) : Ordered t [i] :=
  ⟨List.pairwise_singleton _ _, by simpa using h⟩

theorem Ordered.cons_iff : Ordered t (i :: s) ↔ i ≤ t.size ∧ (∀ j ∈ s, i < j) ∧ Ordered t s := by
  constructor
  · rintro ⟨hs, hle⟩
    obtain ⟨hi, hs⟩ := List.pairwise_cons.mp hs
    exact ⟨hle List.mem_cons_self, hi, hs, fun hj => hle (List.mem_cons_of_mem i hj)⟩
  · rintro ⟨hi, hlt, hs, hle⟩
    exact ⟨List.pairwise_cons.mpr ⟨hlt, hs⟩, by simpa [hi] using fun j => hle⟩

theorem Ordered.filter (hs : Ordered t s) (q : ℕ → Bool) : Ordered t (s.filter q) :=
  ⟨hs.ascending.filter q, fun hi => hs.le_size (List.mem_of_mem_filter hi)⟩

theorem lt_size_of_any (h : (t.text[i]?).any p) : i < t.size := by
  obtain ⟨c, hc, -⟩ := (Option.any_eq_true ..).mp h
  exact (Array.getElem?_eq_some_iff.mp hc).1

theorem Ordered.map_succ (hs : Ordered t s) (h : ∀ i ∈ s, i < t.size) :
    Ordered t (s.map (· + 1)) := by
  refine ⟨?_, ?_⟩
  · exact List.pairwise_map.mpr (hs.ascending.imp fun hlt => Nat.succ_lt_succ hlt)
  · intro j hj
    obtain ⟨i, hi, rfl⟩ := List.mem_map.mp hj
    exact h i hi

section Union

/-- Two lists in order become one. -/
theorem merge_along {fuel : ℕ} (h : s.length + s'.length < fuel) (hs : Ordered t s)
    (hs' : Ordered t s') : Ordered t (Expression.merge fuel s s') ∧
      ∀ j, j ∈ Expression.merge fuel s s' ↔ j ∈ s ∨ j ∈ s' := by
  induction fuel generalizing s s' with
  | zero => omega
  | succ fuel ih =>
    match s, s' with
    | [], s' => simpa [Expression.merge] using hs'
    | i :: s, [] => simpa [Expression.merge] using hs
    | i :: s, k :: s' =>
      obtain ⟨hi, his, htail⟩ := Ordered.cons_iff.mp hs
      obtain ⟨hk, hks', htail'⟩ := Ordered.cons_iff.mp hs'
      simp only [List.length_cons] at h
      rw [Expression.merge]
      split
      · next hlt =>
        have hlength : s.length + (k :: s').length < fuel := by
          rw [List.length_cons]
          omega
        obtain ⟨hordered, hmem⟩ := ih hlength htail hs'
        refine ⟨Ordered.cons_iff.mpr ⟨hi, fun j hj => ?_, hordered⟩, fun j => ?_⟩
        · rcases (hmem j).mp hj with hj | hj
          · exact his j hj
          · rcases List.mem_cons.mp hj with rfl | hj
            · exact hlt
            · exact Nat.lt_trans hlt (hks' j hj)
        · rw [List.mem_cons, hmem, List.mem_cons (l := s), or_assoc]
      · split
        · next hlt =>
          obtain ⟨hordered, hmem⟩ := ih (s := i :: s) (by simp; omega) hs htail'
          refine ⟨Ordered.cons_iff.mpr ⟨hk, fun j hj => ?_, hordered⟩, fun j => ?_⟩
          · rcases (hmem j).mp hj with hj | hj
            · rcases List.mem_cons.mp hj with rfl | hj
              · exact hlt
              · exact Nat.lt_trans hlt (his j hj)
            · exact hks' j hj
          · rw [List.mem_cons, hmem, List.mem_cons (l := s'), or_left_comm]
        · obtain rfl : i = k := by omega
          obtain ⟨hordered, hmem⟩ := ih (by omega) htail htail'
          refine ⟨Ordered.cons_iff.mpr ⟨hi, fun j hj => ?_, hordered⟩, fun j => ?_⟩
          · exact ((hmem j).mp hj).elim (his j) (hks' j)
          · rw [List.mem_cons, hmem, List.mem_cons, List.mem_cons, or_or_distrib_left]

theorem Ordered.union (hs : Ordered t s) (hs' : Ordered t s') :
    Ordered t (Expression.union s s') :=
  (merge_along (Nat.lt_succ_self _) hs hs').1

theorem mem_union (hs : Ordered t s) (hs' : Ordered t s') :
    j ∈ Expression.union s s' ↔ j ∈ s ∨ j ∈ s' :=
  (merge_along (Nat.lt_succ_self _) hs hs').2 j

end Union

namespace Along

theorem id : Along t id Eq :=
  ⟨fun hs => hs, fun _ _ => by simp⟩

theorem congr (h : Along t step r) (hr : ∀ i j, r i j ↔ r' i j) : Along t step r' :=
  ⟨h.ordered, fun hs j => (h.mem_iff hs j).trans
    (exists_congr fun i => and_congr_right fun _ => hr i j)⟩

/-- One step after another. -/
theorem comp {step' : List ℕ → List ℕ} (h : Along t step r) (h' : Along t step' r') :
    Along t (fun s => step' (step s)) fun i k => ∃ j, r i j ∧ r' j k := by
  refine ⟨fun hs => h'.ordered (h.ordered hs), fun hs k => ?_⟩
  rw [h'.mem_iff (h.ordered hs)]
  simp only [h.mem_iff hs]
  constructor
  · rintro ⟨j, ⟨i, hi, hij⟩, hjk⟩
    exact ⟨i, hi, j, hij, hjk⟩
  · rintro ⟨i, hi, j, hij, hjk⟩
    exact ⟨j, ⟨i, hi, hij⟩, hjk⟩

theorem union {step' : List ℕ → List ℕ} (h : Along t step r) (h' : Along t step' r') :
    Along t (fun s => Expression.union (step s) (step' s)) fun i j => r i j ∨ r' i j := by
  refine ⟨fun hs => (h.ordered hs).union (h'.ordered hs), fun hs j => ?_⟩
  rw [mem_union (h.ordered hs) (h'.ordered hs), h.mem_iff hs, h'.mem_iff hs, ← exists_or]
  simp only [and_or_left]

/-- A single character that satisfies a condition. -/
theorem single (p : Char → Bool) :
    Along t (fun s => (s.filter fun i => (t.text[i]?).any p).map (· + 1))
      fun i j => j = i + 1 ∧ (t.text[i]?).any p := by
  refine ⟨fun hs => (hs.filter _).map_succ fun i hi => ?_, fun hs j => ?_⟩
  · exact lt_size_of_any (List.mem_filter.mp hi).2
  · rw [List.mem_map]
    refine exists_congr fun i => ?_
    rw [List.mem_filter, and_assoc, and_comm (b := i + 1 = j), eq_comm (a := j)]

theorem times (h : Along t step r) (n : ℕ) : Along t (Expression.times step n) (Times r n) := by
  induction n with
  | zero => exact .id
  | succ n ih => exact h.comp ih

theorem upTo (h : Along t step r) (n : ℕ) :
    Along t (Expression.upTo step n) fun i j => ∃ m ≤ n, Times r m i j := by
  induction n with
  | zero => exact Along.id.congr fun i j => by simp [Times]
  | succ n ih =>
    refine (Along.id.union (h.comp ih)).congr fun i j => ?_
    constructor
    · rintro (rfl | ⟨k, hik, m, hm, hkj⟩)
      · exact ⟨0, Nat.zero_le _, rfl⟩
      · exact ⟨m + 1, Nat.succ_le_succ hm, k, hik, hkj⟩
    · rintro ⟨m, hm, h⟩
      cases m with
      | zero => exact .inl h
      | succ m =>
        obtain ⟨k, hik, hkj⟩ := h
        exact .inr ⟨k, hik, m, Nat.le_of_succ_le_succ hm, hkj⟩

end Along

section Closure

theorem Ordered.nodup (hs : Ordered t s) : s.Nodup :=
  hs.ascending.imp Nat.ne_of_lt

theorem Ordered.length_le (hs : Ordered t s) : s.length ≤ t.size + 1 := by
  have hsubset : s ⊆ List.range (t.size + 1) := fun i hi =>
    List.mem_range.mpr (Nat.lt_succ_of_le (hs.le_size hi))
  simpa using (hs.nodup.subperm hsubset).length_le

theorem length_union (hs : Ordered t s) (hs' : Ordered t s') (h : ∀ i ∈ s', i ∉ s) :
    (Expression.union s s').length = s.length + s'.length := by
  have hdisjoint : s.Disjoint s' := fun i hi hi' => h i hi' hi
  have hperm : (Expression.union s s').Perm (s ++ s') := by
    refine (List.perm_ext_iff_of_nodup (hs.union hs').nodup
      (hs.nodup.append hs'.nodup hdisjoint)).mpr fun i => ?_
    rw [mem_union hs hs', List.mem_append]
  rw [hperm.length_eq, List.length_append]

/-- New places are looked at until there are none. Nothing is missed, since the steps from the
other places have been taken, and the fuel is enough, since every round finds a place. -/
theorem closure_along (h : Along t step r) {fuel : ℕ} {all new : List ℕ} (hall : Ordered t all)
    (hnew : Ordered t new) (hsubset : new ⊆ all)
    (htaken : ∀ i ∈ all, i ∉ new → ∀ j, r i j → j ∈ all)
    (hfuel : new = [] ∨ t.size + 1 < fuel + all.length) :
    Ordered t (Expression.closure step fuel all new) ∧
      ∀ j, j ∈ Expression.closure step fuel all new ↔ ∃ i ∈ all, ∃ n, Times r n i j := by
  induction fuel generalizing all new with
  | zero =>
    obtain rfl : new = [] := by
      have hlength := hall.length_le
      exact hfuel.resolve_right (by omega)
    refine ⟨hall, fun j => ⟨fun hj => ⟨j, hj, 0, rfl⟩, ?_⟩⟩
    rintro ⟨i, hi, n, hn⟩
    exact hn.preserves (fun i j hij hi => htaken i hi List.not_mem_nil j hij) hi
  | succ fuel ih =>
    cases new with
    | nil =>
      refine ⟨hall, fun j => ⟨fun hj => ⟨j, hj, 0, rfl⟩, ?_⟩⟩
      rintro ⟨i, hi, n, hn⟩
      exact hn.preserves (fun i j hij hi => htaken i hi List.not_mem_nil j hij) hi
    | cons k new =>
      set next := (step (k :: new)).filter fun i => !all.contains i with hnext
      have hmem (i : ℕ) : i ∈ next ↔ (∃ l ∈ k :: new, r l i) ∧ i ∉ all := by
        rw [hnext, List.mem_filter, h.mem_iff hnew]
        simp
      have hordered : Ordered t next := (h.ordered hnew).filter _
      have hunion (i : ℕ) : i ∈ Expression.union all next ↔ i ∈ all ∨ i ∈ next :=
        mem_union hall hordered
      have hrest := ih (hall.union hordered) hordered (fun i hi => (hunion i).mpr (.inr hi))
        (fun i hi hfresh j hij => ?_) ?_
      · refine ⟨hrest.1, fun j => (hrest.2 j).trans ⟨?_, ?_⟩⟩
        · rintro ⟨i, hi, n, hn⟩
          rcases (hunion i).mp hi with hi | hi
          · exact ⟨i, hi, n, hn⟩
          · obtain ⟨⟨l, hl, hli⟩, -⟩ := (hmem i).mp hi
            exact ⟨l, hsubset hl, n + 1, i, hli, hn⟩
        · rintro ⟨i, hi, n, hn⟩
          exact ⟨i, (hunion i).mpr (.inl hi), n, hn⟩
      · rw [hunion]
        have hold : i ∈ all := ((hunion i).mp hi).resolve_right hfresh
        by_cases hj : j ∈ all
        · exact .inl hj
        · by_cases hi : i ∈ k :: new
          · exact .inr ((hmem j).mpr ⟨⟨i, hi, hij⟩, hj⟩)
          · exact .inl (htaken i hold hi j hij)
      · rcases List.eq_nil_or_concat next with hnil | ⟨front, last, hconcat⟩
        · exact .inl hnil
        · right
          have hlength := length_union hall hordered fun i hi => ((hmem i).mp hi).2
          have hlong : 0 < next.length := by simp [hconcat]
          have hfuel := hfuel.resolve_left (List.cons_ne_nil k new)
          omega

theorem Along.closure (h : Along t step r) :
    Along t (fun s => Expression.closure step (t.size + 2) s s) fun i j => ∃ n, Times r n i j := by
  have hspec {s : List ℕ} (hs : Ordered t s) := closure_along h hs hs (List.Subset.refl s)
    (fun i hi hi' => absurd hi hi') (.inr (show t.size + 1 < t.size + 2 + s.length by omega))
  exact ⟨fun hs => (hspec hs).1, fun hs => (hspec hs).2⟩

end Closure

section Runs

/-- All characters between two places satisfy a condition. -/
def Stretches (t : Subject) (p : Char → Bool) (i j : ℕ) : Prop :=
  i ≤ j ∧ ∀ k, i ≤ k → k < j → (t.text[k]?).any p

theorem times_single :
    (∃ n, Times (fun i j => j = i + 1 ∧ (t.text[i]?).any p) n i j) ↔ Stretches t p i j := by
  constructor
  · rintro ⟨n, hn⟩
    induction n generalizing i with
    | zero => exact ⟨Nat.le_of_eq hn, fun k hik hkj => absurd (hn ▸ hkj) (Nat.not_lt.mpr hik)⟩
    | succ n ih =>
      obtain ⟨_, ⟨rfl, hi⟩, hn⟩ := hn
      obtain ⟨hle, hall⟩ := ih hn
      refine ⟨by omega, fun k hik hkj => ?_⟩
      rcases Nat.eq_or_lt_of_le hik with rfl | hlt
      · exact hi
      · exact hall k hlt hkj
  · rintro ⟨hle, hall⟩
    obtain ⟨n, rfl⟩ := Nat.exists_eq_add_of_le hle
    refine ⟨n, ?_⟩
    induction n generalizing i with
    | zero => rfl
    | succ n ih =>
      refine ⟨i + 1, ⟨rfl, hall i (Nat.le_refl i) (by omega)⟩, ?_⟩
      rw [show i + (n + 1) = i + 1 + n by omega]
      exact ih (by omega) fun k hik hkj => hall k (by omega) (by omega)

/-- The places that a run gets to from a place. -/
structure IsRun (t : Subject) (p : Char → Bool) (i : ℕ) (found : List ℕ) (last : ℕ) : Prop where
  getLast? : found.getLast? = some last
  ordered : Ordered t found
  stretches : Stretches t p i last
  stops : ¬ (t.text[last]?).any p
  mem_iff (j : ℕ) : j ∈ found ↔ i ≤ j ∧ j ≤ last

theorem isRun_singleton (hi : i ≤ t.size) (h : ¬ (t.text[i]?).any p) : IsRun t p i [i] i where
  getLast? := rfl
  ordered := ordered_singleton hi
  stretches := ⟨Nat.le_refl i, fun k hik hki => absurd hki (Nat.not_lt.mpr hik)⟩
  stops := h
  mem_iff j := by
    rw [List.mem_singleton]
    omega

theorem exists_isRun {fuel : ℕ} (hi : i ≤ t.size) (hfuel : t.size ≤ i + fuel) :
    ∃ last, IsRun t p i (Expression.run t p fuel i) last := by
  induction fuel generalizing i with
  | zero => exact ⟨i, isRun_singleton hi fun hany => absurd (lt_size_of_any hany) (by omega)⟩
  | succ fuel ih =>
    rw [Expression.run]
    split
    · next hany =>
      obtain ⟨last, h⟩ := ih (i := i + 1) (lt_size_of_any hany) (by omega)
      obtain ⟨hle, hall⟩ := h.stretches
      refine ⟨last, ?_, Ordered.cons_iff.mpr ⟨hi, fun j hj => ((h.mem_iff j).mp hj).1, h.ordered⟩,
        ⟨by omega, fun k hik hk => ?_⟩, h.stops, fun j => ?_⟩
      · rw [List.getLast?_cons, h.getLast?]
        rfl
      · rcases Nat.eq_or_lt_of_le hik with rfl | hik
        · exact hany
        · exact hall k hik hk
      · rw [List.mem_cons, h.mem_iff]
        omega
    · next hany => exact ⟨i, isRun_singleton hi hany⟩

theorem IsRun.mem_iff_stretches {found : List ℕ} {last : ℕ} (h : IsRun t p i found last) :
    j ∈ found ↔ Stretches t p i j := by
  rw [h.mem_iff]
  refine and_congr_right fun _ => ⟨fun hj k hik hkj => ?_, fun hall => ?_⟩
  · exact h.stretches.2 k hik (Nat.lt_of_lt_of_le hkj hj)
  · by_contra hlt
    exact h.stops (hall last h.stretches.1 (Nat.lt_of_not_le hlt))

/-- A run that begins within another one ends with it, so it adds nothing. -/
theorem runs_spec {reached : Option ℕ} (hs : Ordered t s)
    (hreached : ∀ m ∈ reached, ¬ (t.text[m]?).any p) :
    Ordered t (Expression.runs t p reached s) ∧ ∀ j, j ∈ Expression.runs t p reached s ↔
      (∃ i ∈ s, Stretches t p i j) ∧ ∀ m ∈ reached, m < j := by
  induction s generalizing reached with
  | nil => simpa [Expression.runs] using hs
  | cons i s ih =>
    obtain ⟨hi, his, htail⟩ := Ordered.cons_iff.mp hs
    rw [Expression.runs]
    split
    · next hany =>
      obtain ⟨m, hm, hle⟩ := (Option.any_eq_true ..).mp hany
      obtain ⟨hordered, hmem⟩ := ih htail hreached
      refine ⟨hordered, fun j => (hmem j).trans (and_congr_left fun hj => ?_)⟩
      have hstuck : ¬ Stretches t p i j := fun hstretches =>
        hreached m hm (hstretches.2 m (by simpa using hle) (hj m hm))
      simp [hstuck]
    · next hany =>
      have hfresh : ∀ m ∈ reached, m < i := by
        intro m hm
        by_contra hle
        exact hany ((Option.any_eq_true ..).mpr ⟨m, hm, by simpa using hle⟩)
      obtain ⟨last, hrun⟩ := exists_isRun (p := p) hi (show t.size ≤ i + (t.size - i) by omega)
      have hstops : ∀ m ∈ some last, ¬ (t.text[m]?).any p := by simpa using hrun.stops
      obtain ⟨hordered, hmem⟩ := ih htail hstops
      simp only [hrun.getLast?]
      refine ⟨⟨List.pairwise_append.mpr ⟨hrun.ordered.ascending, hordered.ascending, ?_⟩, ?_⟩, ?_⟩
      · intro a ha b hb
        have hlast := ((hmem b).mp hb).2 last rfl
        exact Nat.lt_of_le_of_lt ((hrun.mem_iff a).mp ha).2 hlast
      · intro a ha
        rcases List.mem_append.mp ha with ha | ha
        · exact hrun.ordered.le_size ha
        · exact hordered.le_size ha
      · intro j
        rw [List.mem_append, hmem, hrun.mem_iff_stretches]
        constructor
        · rintro (hj | ⟨⟨k, hk, hj⟩, -⟩)
          · exact ⟨⟨i, List.mem_cons_self, hj⟩, fun m hm => Nat.lt_of_lt_of_le (hfresh m hm) hj.1⟩
          · refine ⟨⟨k, List.mem_cons_of_mem i hk, hj⟩, fun m hm => ?_⟩
            exact Nat.lt_of_lt_of_le (hfresh m hm) (Nat.le_trans (Nat.le_of_lt (his k hk)) hj.1)
        · rintro ⟨⟨k, hk, hj⟩, -⟩
          rcases List.mem_cons.mp hk with rfl | hk
          · exact .inl hj
          · by_cases hle : j ≤ last
            · refine .inl (hrun.mem_iff_stretches.mp ((hrun.mem_iff j).mpr ⟨?_, hle⟩))
              exact Nat.le_trans (Nat.le_of_lt (his k hk)) hj.1
            · exact .inr ⟨⟨k, hk, hj⟩, by simpa using hle⟩

theorem Along.runs : Along t (Expression.runs t p none) (Stretches t p) := by
  have hnone : ∀ m ∈ (none : Option ℕ), ¬ (t.text[m]?).any p := by simp
  have hspec {s : List ℕ} (hs : Ordered t s) := runs_spec hs hnone
  exact ⟨fun hs => (hspec hs).1, fun hs j => ((hspec hs).2 j).trans (by simp)⟩

end Runs

namespace Expression

/-- What an expression means: it matches the text between two places. A reference is taken for any
text. -/
def Spans (t : Subject) : Expression → ℕ → ℕ → Prop
  | empty, i, j => i = j
  | char c, i, j => j = i + 1 ∧ (t.text[i]?).any (t.same c)
  | any, i, j => j = i + 1 ∧ i < t.size
  | set negated items, i, j =>
    j = i + 1 ∧ ∃ p, single? t (set negated items) = some p ∧ (t.text[i]?).any p
  | edge e, i, j => i = j ∧ t.holds i e
  | sequence a b, i, k => ∃ j, Spans t a i j ∧ Spans t b j k
  | choice a b, i, j => Spans t a i j ∨ Spans t b i j
  | group _ a, i, j => Spans t a i j
  | repeated a least most, i, j =>
    ∃ n, least ≤ n ∧ (∀ m ∈ most, n ≤ max least m) ∧ Times (Spans t a) n i j
  | reference _, i, j => i ≤ j ∧ j ≤ t.size

variable {e a b : Expression} {least : ℕ} {most : Option ℕ}

theorem any_true_iff : (t.text[i]?).any (fun _ => true) ↔ i < t.size := by
  rw [Option.any_eq_true]
  constructor
  · rintro ⟨c, hc, -⟩
    exact (Array.getElem?_eq_some_iff.mp hc).1
  · exact fun hi => ⟨t.text[i], Array.getElem?_eq_some_iff.mpr ⟨hi, rfl⟩, rfl⟩

theorem spans_single (h : single? t e = some p) :
    Spans t e i j ↔ j = i + 1 ∧ (t.text[i]?).any p := by
  cases e with
  | char c =>
    obtain rfl := Option.some.inj h
    rfl
  | any =>
    obtain rfl := Option.some.inj h
    rw [Spans, any_true_iff]
  | set negated items => simp [Spans, h]
  | _ => contradiction

theorem spans_repeated_none : Spans t (repeated a least none) i k ↔
    ∃ j, Times (Spans t a) least i j ∧ ∃ n, Times (Spans t a) n j k := by
  rw [Spans]
  constructor
  · rintro ⟨m, hleast, -, hm⟩
    obtain ⟨n, rfl⟩ := Nat.exists_eq_add_of_le hleast
    obtain ⟨j, hij, hjk⟩ := times_add.mp hm
    exact ⟨j, hij, n, hjk⟩
  · rintro ⟨j, hij, n, hjk⟩
    exact ⟨least + n, Nat.le_add_right .., by simp, times_add.mpr ⟨j, hij, hjk⟩⟩

theorem spans_repeated_some {m : ℕ} : Spans t (repeated a least (some m)) i k ↔
    ∃ j, Times (Spans t a) least i j ∧ ∃ n ≤ m - least, Times (Spans t a) n j k := by
  rw [Spans]
  constructor
  · rintro ⟨count, hleast, hmost, hcount⟩
    obtain ⟨n, rfl⟩ := Nat.exists_eq_add_of_le hleast
    obtain ⟨j, hij, hjk⟩ := times_add.mp hcount
    have hle := hmost m rfl
    exact ⟨j, hij, n, by omega, hjk⟩
  · rintro ⟨j, hij, n, hn, hjk⟩
    refine ⟨least + n, Nat.le_add_right .., fun m' hm' => ?_, times_add.mpr ⟨j, hij, hjk⟩⟩
    obtain rfl := Option.some.inj hm'
    omega

theorem along_repeated (h : Along t (ends t a) (Spans t a)) :
    Along t (ends t (repeated a least most)) (Spans t (repeated a least most)) := by
  have hfirst := h.times least
  cases most with
  | some m =>
    have hends : ends t (repeated a least (some m)) =
        fun s => upTo (ends t a) (m - least) (times (ends t a) least s) := by
      funext s
      simp only [ends]
    rw [hends]
    exact (hfirst.comp (h.upTo _)).congr fun i k => spans_repeated_some.symm
  | none =>
    cases hsingle : single? t a with
    | none =>
      have hends : ends t (repeated a least none) =
          fun s => closure (ends t a) (t.size + 2) (times (ends t a) least s)
            (times (ends t a) least s) := by
        funext s
        simp only [ends, hsingle]
      rw [hends]
      exact (hfirst.comp h.closure).congr fun i k => spans_repeated_none.symm
    | some p =>
      have hends : ends t (repeated a least none) =
          fun s => runs t p none (times (ends t a) least s) := by
        funext s
        simp only [ends, hsingle]
      have hspans : Spans t a = fun i j => j = i + 1 ∧ (t.text[i]?).any p :=
        funext₂ fun i j => propext (spans_single hsingle)
      rw [hends]
      refine (hfirst.comp Along.runs).congr fun i k => ?_
      rw [spans_repeated_none]
      simp only [hspans, times_single]

/-- A reference goes from the first place to all that follow, which are those of the others too. -/
theorem along_reference (n : ℕ) : Along t (ends t (reference n)) (Spans t (reference n)) := by
  have hmem (i j : ℕ) : j ∈ (List.range (t.size + 1 - i)).map (i + ·) ↔ i ≤ j ∧ j ≤ t.size := by
    rw [List.mem_map]
    simp only [List.mem_range]
    exact ⟨by rintro ⟨d, hd, rfl⟩; omega, fun ⟨hij, hj⟩ => ⟨j - i, by omega, by omega⟩⟩
  constructor
  · intro s hs
    cases s with
    | nil => simpa [ends] using hs
    | cons i s =>
      rw [ends]
      refine ⟨List.pairwise_map.mpr ?_, fun hj => ((hmem i _).mp hj).2⟩
      exact List.pairwise_lt_range.imp fun hlt => Nat.add_lt_add_left hlt i
  · intro s hs j
    cases s with
    | nil => simp [ends]
    | cons i s =>
      obtain ⟨-, his, -⟩ := Ordered.cons_iff.mp hs
      rw [ends, hmem]
      constructor
      · exact fun h => ⟨i, List.mem_cons_self, h⟩
      · rintro ⟨k, hk, hkj, hj⟩
        rcases List.mem_cons.mp hk with rfl | hk
        · exact ⟨hkj, hj⟩
        · exact ⟨Nat.le_trans (Nat.le_of_lt (his k hk)) hkj, hj⟩

/-- The places that are computed for an expression are those that it spans the text up to. -/
theorem along_ends (t : Subject) (e : Expression) : Along t (ends t e) (Spans t e) := by
  induction e with
  | empty => exact .id
  | char c => exact .single _
  | any =>
    have hends : ends t any =
        fun s => (s.filter fun i => (t.text[i]?).any fun _ => true).map (· + 1) := by
      funext s
      rw [ends]
      congr 2
      funext i
      rw [Bool.eq_iff_iff, decide_eq_true_iff, any_true_iff]
    rw [hends]
    exact (Along.single _).congr fun i j => (spans_single rfl).symm
  | set negated items =>
    obtain ⟨p, hp⟩ : ∃ p, single? t (set negated items) = some p := ⟨_, rfl⟩
    have hends : ends t (set negated items) =
        fun s => (s.filter fun i => (t.text[i]?).any p).map (· + 1) := by
      funext s
      simp only [ends, hp]
    rw [hends]
    exact (Along.single p).congr fun i j => (spans_single hp).symm
  | edge e =>
    refine ⟨fun hs => hs.filter _, fun hs j => ?_⟩
    rw [ends, List.mem_filter]
    simp [Spans]
  | sequence a b iha ihb => exact iha.comp ihb
  | choice a b iha ihb => exact iha.union ihb
  | group _ a iha => exact iha
  | repeated a least most iha => exact along_repeated iha
  | reference n => exact along_reference n

/-- The places where the matches that begin at a place end, in ascending order. -/
theorem mem_ends (e : Expression) (hi : i ≤ t.size) : j ∈ ends t e [i] ↔ Spans t e i j := by
  rw [(along_ends t e).mem_iff (ordered_singleton hi)]
  simp

end Expression

end ReleasePreview.Regex
