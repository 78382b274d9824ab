import ReleasePreview.LineDiff.Frontier
import ReleasePreview.Proofs.LineDiff.Distance

/-! Points of the edit grid: how many edits lead to them, from the start or from the far corner. -/
namespace ReleasePreview.LineDiff
open List

variable {α : Type}

/-- `d` edits lead from the start of the grid to a point. A point may lie beyond the ends of the
lists; every token that is not there counts as an edit. -/
def Reached (old new : List α) (d : Nat) (p : Point) : Prop :=
  ∃ c, c <+ old.take p.x ∧ c <+ new.take p.y ∧ p.x + p.y ≤ d + 2 * c.length

private theorem sublist_concat_cases {c ts : List α} {t : α} (h : c <+ ts ++ [t]) :
    c <+ ts ∨ ∃ c', c = c' ++ [t] ∧ c' <+ ts := by
  have hr : c.reverse <+ t :: ts.reverse := by simpa using h.reverse
  rcases sublist_cons_iff.mp hr with h' | ⟨c', hc, h'⟩
  · exact Or.inl (reverse_sublist.mp h')
  · refine Or.inr ⟨c'.reverse, ?_, by simpa using h'.reverse⟩
    simpa using congrArg List.reverse hc

namespace Reached

variable {d e : Nat} {old new : List α} {p : Point}

theorem start (old new : List α) : Reached old new 0 ⟨0, 0⟩ :=
  ⟨[], nil_sublist _, nil_sublist _, by simp⟩

theorem right (h : Reached old new d p) : Reached old new (d + 1) p.right := by
  obtain ⟨c, ho, hn, hc⟩ := h
  refine ⟨c, ho.trans (take_sublist_take_left (Nat.le_succ _)), hn, ?_⟩
  simp only [Point.right]
  omega

theorem down (h : Reached old new d p) : Reached old new (d + 1) p.down := by
  obtain ⟨c, ho, hn, hc⟩ := h
  refine ⟨c, ho, hn.trans (take_sublist_take_left (Nat.le_succ _)), ?_⟩
  simp only [Point.down]
  omega

theorem keep {x y : Nat} (h : Reached old new d ⟨x, y⟩) (hx : x < old.length)
    (hy : y < new.length) (hk : old[x] = new[y]) : Reached old new d ⟨x + 1, y + 1⟩ := by
  obtain ⟨c, ho, hn, hc⟩ := h
  refine ⟨c ++ [old[x]], ?_, ?_, ?_⟩
  · rw [← take_append_getElem hx]
    exact ho.append (.refl _)
  · rw [hk, ← take_append_getElem hy]
    exact hn.append (.refl _)
  · simp only [length_append, length_singleton]
    dsimp only at hc
    omega

theorem within_take (h : Reached old new d p) : Within d (old.take p.x) (new.take p.y) := by
  obtain ⟨c, ho, hn, hc⟩ := h
  refine ⟨c, ho, hn, ?_⟩
  simp only [length_take]
  omega

/-- The diagonals that `d` edits lead to. -/
theorem diagonal (h : Reached old new d p) : p.x ≤ p.y + d ∧ p.y ≤ p.x + d := by
  obtain ⟨c, ho, hn, hc⟩ := h
  have hol := ho.length_le
  have hnl := hn.length_le
  simp only [length_take] at hol hnl
  omega

/-- The last step to a point inside the grid keeps a token, or it is an edit. -/
theorem last_step {x y : Nat} (h : Reached old new d ⟨x + 1, y + 1⟩) (hx : x < old.length)
    (hy : y < new.length) :
    (old[x] = new[y] ∧ Reached old new d ⟨x, y⟩) ∨
      ∃ e, d = e + 1 ∧ (Reached old new e ⟨x, y + 1⟩ ∨ Reached old new e ⟨x + 1, y⟩) := by
  obtain ⟨c, ho, hn, hc⟩ := h
  dsimp only at ho hn hc
  have hol := ho.length_le
  have hnl := hn.length_le
  rw [length_take] at hol hnl
  rw [← take_append_getElem hx] at ho
  rw [← take_append_getElem hy] at hn
  rcases sublist_concat_cases ho with ho' | ⟨c₁, rfl, ho'⟩
  · have hl := ho'.length_le
    rw [length_take] at hl
    refine Or.inr ⟨d - 1, by omega, Or.inl ⟨c, ho', ?_, by dsimp only; omega⟩⟩
    rwa [take_append_getElem hy] at hn
  · rcases sublist_concat_cases hn with hn' | ⟨c₂, hc₂, hn'⟩
    · have hl := hn'.length_le
      rw [length_take] at hl
      refine Or.inr ⟨d - 1, by omega, Or.inr ⟨_, ?_, hn', by dsimp only; omega⟩⟩
      rwa [take_append_getElem hx] at ho
    · obtain ⟨rfl, hlast⟩ := append_inj' hc₂ rfl
      refine Or.inl ⟨(cons_eq_cons.mp hlast).1, c₁, ho', hn', ?_⟩
      simp only [length_append, length_singleton] at hc
      dsimp only
      omega

end Reached

/-- A script is cut behind its first `d` edits: a part of the common subsequence lies on either
side of the cut. -/
private theorem exists_cut_sublists {c old new : List α} {d e : Nat} (ho : c <+ old)
    (hn : c <+ new) (h : old.length + new.length = d + e + 2 * c.length) :
    ∃ x y c₁ c₂, x ≤ old.length ∧ y ≤ new.length ∧
      c₁ <+ old.take x ∧ c₁ <+ new.take y ∧ x + y = d + 2 * c₁.length ∧
      c₂ <+ old.drop x ∧ c₂ <+ new.drop y ∧
      (old.length - x) + (new.length - y) = e + 2 * c₂.length := by
  induction ho generalizing new d with
  | slnil =>
    refine ⟨0, d, [], [], Nat.le_refl 0, ?_, nil_sublist _, nil_sublist _, ?_, nil_sublist _,
      nil_sublist _, ?_⟩ <;> simp only [length_nil] at h ⊢ <;> omega
  | @cons c old a ho ih =>
    cases d with
    | zero => exact ⟨0, 0, [], c, by omega, by omega, nil_sublist _, nil_sublist _, rfl,
        ho.cons a, hn, by omega⟩
    | succ d =>
      rw [length_cons] at h
      obtain ⟨x, y, c₁, c₂, hx, hy, ho₁, hn₁, h₁, ho₂, hn₂, h₂⟩ := ih (d := d) hn (by omega)
      refine ⟨x + 1, y, c₁, c₂, by simpa using hx, hy, ?_, hn₁, by omega, by simpa using ho₂, hn₂,
        by rw [length_cons]; omega⟩
      rw [take_succ_cons]
      exact ho₁.cons a
  | @cons_cons c old a ho ih =>
    obtain ⟨front, back, rfl, ha, hb⟩ := cons_sublist_iff.mp hn
    obtain ⟨before, between, rfl⟩ := append_of_mem ha
    simp only [length_cons, length_append] at h
    -- Either the cut comes among the additions before `a`, or `a` is kept on its left.
    by_cases hd : d ≤ before.length
    · refine ⟨0, d, [], a :: c, by omega, by simp only [length_append]; omega, nil_sublist _,
        nil_sublist _, by simp, ho.cons_cons a, ?_,
        by simp only [length_cons, length_append]; omega⟩
      rw [append_assoc, drop_append_of_le_length hd, cons_append]
      exact ((hb.trans (sublist_append_right _ _)).cons_cons a).trans (sublist_append_right _ _)
    · have hrest : c <+ between ++ back := hb.trans (sublist_append_right _ _)
      obtain ⟨x, y, c₁, c₂, hx, hy, ho₁, hn₁, h₁, ho₂, hn₂, h₂⟩ :=
        ih (d := d - before.length) hrest (by simp only [length_append]; omega)
      have hnew : (before ++ a :: between) ++ back = (before ++ [a]) ++ (between ++ back) := by
        simp
      have hlen : before.length + (y + 1) = (before ++ [a]).length + y := by
        simp only [length_append, length_singleton]; omega
      refine ⟨x + 1, before.length + (y + 1), a :: c₁, c₂, by simpa using hx, ?_, ?_, ?_, ?_,
        by simpa using ho₂, ?_, ?_⟩
      · simp only [length_append, length_cons] at hy ⊢
        omega
      · rw [take_succ_cons]
        exact ho₁.cons_cons a
      · rw [hnew, hlen, take_length_add_append, append_assoc]
        exact (hn₁.cons_cons a).trans (sublist_append_right _ _)
      · simp only [length_cons]
        omega
      · rw [hnew, hlen, drop_length_add_append]
        exact hn₂
      · simp only [length_append, length_cons] at h₂ ⊢
        omega

/-- Somewhere on a script a point is reached by its first `d` edits, and from the far corner by the
other ones. -/
theorem exists_cut {c old new : List α} {d e : Nat} (ho : c <+ old) (hn : c <+ new)
    (h : old.length + new.length = d + e + 2 * c.length) :
    ∃ x y, x ≤ old.length ∧ y ≤ new.length ∧ (x + y + d) % 2 = 0 ∧ Reached old new d ⟨x, y⟩ ∧
      Reached old.reverse new.reverse e ⟨old.length - x, new.length - y⟩ := by
  obtain ⟨x, y, c₁, c₂, hx, hy, ho₁, hn₁, h₁, ho₂, hn₂, h₂⟩ := exists_cut_sublists ho hn h
  refine ⟨x, y, hx, hy, by omega, ⟨c₁, ho₁, hn₁, Nat.le_of_eq h₁⟩, c₂.reverse, ?_, ?_, ?_⟩
  · rw [take_reverse, Nat.sub_sub_self hx]
    exact ho₂.reverse
  · rw [take_reverse, Nat.sub_sub_self hy]
    exact hn₂.reverse
  · rw [length_reverse]
    exact Nat.le_of_eq h₂

/-- A point that has met or passed one reached from the far corner, on the same diagonal, is no
further from that corner. -/
theorem Reached.within_drop {old new : List α} {e : Nat} {p q : Point}
    (h : Reached old.reverse new.reverse e q) (hpq : old.length ≤ p.x + q.x)
    (hd : p.x + q.x + new.length = p.y + q.y + old.length) :
    Within e (old.drop p.x) (new.drop p.y) := by
  obtain ⟨c, ho, hn, hc⟩ := h
  have hol := ho.length_le
  have hnl := hn.length_le
  rw [length_take] at hol hnl
  rw [take_reverse] at ho hn
  have ho' : c.reverse <+ old.drop (old.length - q.x) := by simpa using ho.reverse
  have hn' : c.reverse <+ new.drop (new.length - q.y) := by simpa using hn.reverse
  -- The overlap of the two points is dropped from what the lists have in common.
  refine ⟨c.reverse.drop (p.x + q.x - old.length), ?_, ?_, ?_⟩
  · refine (ho'.drop _).trans ?_
    rw [drop_drop]
    exact drop_sublist_drop_left _ (by omega)
  · refine (hn'.drop _).trans ?_
    rw [drop_drop]
    exact drop_sublist_drop_left _ (by omega)
  · simp only [length_drop, length_reverse] at hol hnl ⊢
    omega

namespace Point

variable [DecidableEq α] {old new : List α} {p : Point}

theorem slide_spec (old new : List α) (p : Point) :
    p.x ≤ (p.slide old.toArray new.toArray).x ∧
      (p.slide old.toArray new.toArray).x + p.y = (p.slide old.toArray new.toArray).y + p.x := by
  fun_induction slide old.toArray new.toArray p with
  | case1 p h hk ih => dsimp only at ih; omega
  | case2 => omega
  | case3 => omega

/-- A slide ends where the tokens differ or a list does. -/
theorem slide_stuck (old new : List α) (p : Point) {x y : Nat}
    (hs : p.slide old.toArray new.toArray = ⟨x, y⟩) (hx : x < old.length) (hy : y < new.length) :
    old[x] ≠ new[y] := by
  fun_induction slide old.toArray new.toArray p with
  | case1 p h hk ih => exact ih hs
  | case2 p h hk => subst hs; simpa using hk
  | case3 p h =>
    subst hs
    simp only [List.size_toArray] at h
    exact absurd ⟨hx, hy⟩ h

theorem slide_reached {d : Nat} (h : Reached old new d p) :
    Reached old new d (p.slide old.toArray new.toArray) := by
  fun_induction slide old.toArray new.toArray p with
  | case1 p hp hk ih =>
    simp only [List.size_toArray, List.getElem_toArray] at hp hk
    exact ih (h.keep hp.1 hp.2 hk)
  | case2 => exact h
  | case3 => exact h

/-- What is left to do behind a point of a slide is left to do at its beginning. -/
theorem slide_within_drop {e t : Nat} (ht : p.x + t ≤ (p.slide old.toArray new.toArray).x)
    (h : Within e (old.drop (p.x + t)) (new.drop (p.y + t))) :
    Within e (old.drop p.x) (new.drop p.y) := by
  fun_induction slide old.toArray new.toArray p generalizing t with
  | case1 p hp hk ih =>
    simp only [List.size_toArray, List.getElem_toArray] at hp hk
    cases t with
    | zero => exact h
    | succ t =>
      have hrest : Within e (old.drop (p.x + 1)) (new.drop (p.y + 1)) :=
        ih (t := t) (by dsimp only; omega) (by simpa only [Nat.add_assoc, Nat.add_comm 1] using h)
      have hkeep := (Within.refl [new[p.y]]).append hrest
      rw [Nat.zero_add] at hkeep
      rw [drop_eq_getElem_cons hp.1, drop_eq_getElem_cons hp.2, hk]
      exact hkeep
  | case2 p =>
    have h0 : t = 0 := by omega
    subst h0
    exact h
  | case3 p =>
    have h0 : t = 0 := by omega
    subst h0
    exact h

end Point

end ReleasePreview.LineDiff
