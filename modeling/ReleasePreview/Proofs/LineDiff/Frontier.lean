import ReleasePreview.Proofs.LineDiff.Grid

/-!
The two fronts of the search hold the furthest points of their diagonals, so they meet in the first
round in which a script of the lists is short enough, and they meet on a shortest one.
-/
namespace ReleasePreview.LineDiff
open List

variable {α : Type}

/-- The points of a front after some rounds. The diagonals alternate, the highest comes first, and
no point of the grid reached by as many edits lies further along its diagonal. -/
structure IsFront (old new : List α) (rounds : Nat) (front : List Point) : Prop where
  length : front.length = rounds
  diagonal : ∀ i p, front[i]? = some p → p.x + 2 * i + 1 = p.y + rounds
  reached : ∀ p ∈ front, Reached old new (rounds - 1) p
  furthest : ∀ i p, front[i]? = some p → ∀ x y, x ≤ old.length → y ≤ new.length →
    Reached old new (rounds - 1) ⟨x, y⟩ → x + 2 * i + 1 = y + rounds → x ≤ p.x

theorem isFront_nil (old new : List α) : IsFront old new 0 [] where
  length := rfl
  diagonal := by simp
  reached := by simp
  furthest := by simp

private theorem length_inner (p : Point) (ps : List Point) :
    (advance.inner p ps).length = ps.length + 1 := by
  induction ps generalizing p with
  | nil => rfl
  | cons q qs ih => simp only [advance.inner, length_cons, ih]

theorem length_advance (front : List Point) : (advance front).length = front.length + 1 := by
  cases front with
  | nil => rfl
  | cons p ps => simp only [advance, length_cons, length_inner]

/-- On an inner diagonal, or the lowest one, a new point lies below the point of the diagonal above
or right of the one of the diagonal below, and never behind the other of them. -/
private theorem inner_spec {p a : Point} {ps : List Point} {i : Nat}
    (h : (advance.inner p ps)[i]? = some a) :
    (∃ q, (p :: ps)[i]? = some q ∧ q.x ≤ a.x) ∧ (∀ r, ps[i]? = some r → r.x + 1 ≤ a.x) ∧
      ((∃ q, (p :: ps)[i]? = some q ∧ a = q.down) ∨ ∃ r, ps[i]? = some r ∧ a = r.right) := by
  induction ps generalizing p i with
  | nil =>
    rw [advance.inner, getElem?_singleton] at h
    split at h
    · next hi =>
      subst hi
      obtain rfl := Option.some.inj h
      exact ⟨⟨p, rfl, Nat.le_refl _⟩, by simp, Or.inl ⟨p, rfl, rfl⟩⟩
    · contradiction
  | cons q qs ih =>
    rw [advance.inner] at h
    cases i with
    | succ i => exact ih h
    | zero =>
      obtain rfl := Option.some.inj h
      refine ⟨⟨p, rfl, ?_⟩, ?_, ?_⟩
      · split
        · exact Nat.le_refl _
        · simp only [Point.right]; omega
      · intro r hr
        obtain rfl := Option.some.inj hr
        split
        · simp only [Point.down]; omega
        · exact Nat.le_refl _
      · split
        · exact Or.inl ⟨p, rfl, rfl⟩
        · exact Or.inr ⟨q, rfl, rfl⟩

/-- The points a round starts from, one edit behind the front. -/
private theorem advance_spec {front : List Point} {i : Nat} {a : Point}
    (h : (advance front)[i]? = some a) :
    (∀ q, front[i]? = some q → q.x + 1 ≤ a.x) ∧
      (∀ j q, i = j + 1 → front[j]? = some q → q.x ≤ a.x) ∧
      ((front = [] ∧ a = ⟨0, 0⟩) ∨ (∃ j q, i = j + 1 ∧ front[j]? = some q ∧ a = q.down) ∨
        ∃ q, front[i]? = some q ∧ a = q.right) := by
  cases front with
  | nil =>
    rw [advance, getElem?_singleton] at h
    split at h
    · obtain rfl := Option.some.inj h
      exact ⟨by simp, by simp, Or.inl ⟨rfl, rfl⟩⟩
    · contradiction
  | cons p ps =>
    rw [advance] at h
    cases i with
    | zero =>
      obtain rfl := Option.some.inj h
      refine ⟨fun q hq => ?_, fun j q hj => by omega, Or.inr (Or.inr ⟨p, rfl, rfl⟩)⟩
      obtain rfl := Option.some.inj hq
      exact Nat.le_refl _
    | succ i =>
      obtain ⟨⟨q, hq, hle⟩, hright, hcases⟩ := inner_spec (i := i) h
      refine ⟨hright, fun j q' hj hq' => ?_, Or.inr ?_⟩
      · obtain rfl : i = j := by omega
        obtain rfl := Option.some.inj (hq.symm.trans hq')
        exact hle
      · rcases hcases with ⟨q', hq', ha⟩ | ⟨r, hr, ha⟩
        · exact Or.inl ⟨i, q', rfl, hq', ha⟩
        · exact Or.inr ⟨r, hr, ha⟩

namespace IsFront

variable {old new : List α} {rounds : Nat} {front : List Point}

theorem advance_diagonal (h : IsFront old new rounds front) {i : Nat} {a : Point}
    (ha : (advance front)[i]? = some a) : a.x + 2 * i = a.y + rounds := by
  have hi : i < front.length + 1 := by
    rw [← length_advance]
    exact (List.getElem?_eq_some_iff.mp ha).1
  obtain ⟨-, -, ⟨rfl, rfl⟩ | ⟨j, q, rfl, hq, rfl⟩ | ⟨q, hq, rfl⟩⟩ := advance_spec ha
  · have hr := h.length
    simp only [length_nil] at hr hi
    dsimp only
    omega
  · have hd := h.diagonal j q hq
    simp only [Point.down]
    omega
  · have hd := h.diagonal i q hq
    simp only [Point.right]
    omega

theorem advance_reached (h : IsFront old new rounds front) {i : Nat} {a : Point}
    (ha : (advance front)[i]? = some a) : Reached old new rounds a := by
  have hstep : ∀ q ∈ front, rounds = rounds - 1 + 1 := by
    intro q hq
    have hl := length_pos_of_mem hq
    have hr := h.length
    omega
  obtain ⟨-, -, ⟨rfl, rfl⟩ | ⟨j, q, -, hq, rfl⟩ | ⟨q, hq, rfl⟩⟩ := advance_spec ha
  · have hr := h.length
    subst hr
    exact .start old new
  · have hm := mem_of_getElem? hq
    rw [hstep q hm]
    exact (h.reached q hm).down
  · have hm := mem_of_getElem? hq
    rw [hstep q hm]
    exact (h.reached q hm).right

/-- A round comes as far as one removal more than a point that the front before had reached. -/
private theorem slide_of_removal [DecidableEq α] (h : IsFront old new (rounds + 1) front)
    {i : Nat} {a : Point} (ha : (advance front)[i]? = some a) {x y : Nat} (hx : x ≤ old.length)
    (hy : y ≤ new.length) (hr : Reached old new rounds ⟨x, y⟩)
    (hd : x + 1 + 2 * i = y + (rounds + 1)) : x + 1 ≤ (a.slide old.toArray new.toArray).x := by
  have hdiag := hr.diagonal
  dsimp only at hdiag
  have hlen := h.length
  have hq := getElem?_eq_getElem (l := front) (i := i) (by omega)
  have hfar := h.furthest i _ hq x y hx hy hr (by omega)
  have hbound := (advance_spec ha).1 _ hq
  have hslide := (Point.slide_spec old new a).1
  omega

/-- A round comes as far as one addition more than a point that the front before had reached. -/
private theorem slide_of_addition [DecidableEq α] (h : IsFront old new (rounds + 1) front)
    {i : Nat} {a : Point} (ha : (advance front)[i]? = some a) {x y : Nat} (hx : x ≤ old.length)
    (hy : y ≤ new.length) (hr : Reached old new rounds ⟨x, y⟩)
    (hd : x + 2 * i = y + 1 + (rounds + 1)) : x ≤ (a.slide old.toArray new.toArray).x := by
  have hdiag := hr.diagonal
  dsimp only at hdiag
  have hlen := h.length
  obtain ⟨j, rfl⟩ : ∃ j, i = j + 1 := ⟨i - 1, by omega⟩
  have hq := getElem?_eq_getElem (l := front) (i := j) (by omega)
  have hfar := h.furthest j _ hq x y hx hy hr (by omega)
  have hbound := (advance_spec ha).2.1 j _ rfl hq
  have hslide := (Point.slide_spec old new a).1
  omega

/-- No point that one edit more leads to lies further along than where the round ends. The
induction is on the point: its last step keeps a token, and then the point before it was not
further along either, or comes from a point that the front before had reached. -/
theorem slide_furthest [DecidableEq α] (h : IsFront old new rounds front) {i : Nat} {a : Point}
    (ha : (advance front)[i]? = some a) {x y : Nat} (hx : x ≤ old.length) (hy : y ≤ new.length)
    (hr : Reached old new rounds ⟨x, y⟩) (hd : x + 2 * i = y + rounds) :
    x ≤ (a.slide old.toArray new.toArray).x := by
  induction x generalizing y with
  | zero => exact Nat.zero_le _
  | succ x ih =>
    cases y with
    | zero =>
      have hdiag := hr.diagonal
      obtain ⟨c, ho, hn, hc⟩ := hr
      obtain rfl : c = [] := by simpa using hn
      dsimp only [length_nil] at hc hdiag
      obtain ⟨e, rfl⟩ : ∃ e, rounds = e + 1 := ⟨rounds - 1, by omega⟩
      refine h.slide_of_removal ha (y := 0) (by omega) hy ?_ (by omega)
      exact ⟨[], nil_sublist _, nil_sublist _, by dsimp only [length_nil]; omega⟩
    | succ y =>
      rcases hr.last_step hx hy with ⟨hk, hr'⟩ | ⟨e, rfl, hr' | hr'⟩
      · have hle := ih (y := y) (by omega) (by omega) hr' (by omega)
        have hsame := (Point.slide_spec old new a).2
        have hstart := h.advance_diagonal ha
        -- Were the round to end here, it could slide on over the token just kept.
        by_contra hlt
        refine Point.slide_stuck old new a (x := x) (y := y) ?_ hx hy hk
        have hx' : (a.slide old.toArray new.toArray).x = x := by omega
        have hy' : (a.slide old.toArray new.toArray).y = y := by omega
        rw [← hx', ← hy']
      · exact h.slide_of_removal ha (by omega) hy hr' (by omega)
      · exact h.slide_of_addition ha hx (by omega) hr' (by omega)

theorem round [DecidableEq α] (h : IsFront old new rounds front) :
    IsFront old new (rounds + 1)
      ((LineDiff.round old.toArray new.toArray front).map (·.last)) := by
  have hget : ∀ (i : Nat) (p : Point),
      ((LineDiff.round old.toArray new.toArray front).map (·.last))[i]? = some p →
      ∃ a, (advance front)[i]? = some a ∧ p = a.slide old.toArray new.toArray := by
    intro i p hp
    simp only [LineDiff.round, map_map, getElem?_map, Option.map_eq_some_iff] at hp
    obtain ⟨a, ha, rfl⟩ := hp
    exact ⟨a, ha, rfl⟩
  refine ⟨?_, ?_, ?_, ?_⟩
  · simp only [LineDiff.round, length_map, length_advance, h.length]
  · intro i p hp
    obtain ⟨a, ha, rfl⟩ := hget i p hp
    have hd := h.advance_diagonal ha
    have hs := (Point.slide_spec old new a).2
    omega
  · intro p hp
    obtain ⟨i, hi⟩ := mem_iff_getElem?.mp hp
    obtain ⟨a, ha, rfl⟩ := hget i p hi
    exact Point.slide_reached (h.advance_reached ha)
  · intro i p hp x y hx hy hr hd
    obtain ⟨a, ha, rfl⟩ := hget i p hp
    exact h.slide_furthest ha hx hy hr (by omega)

end IsFront

end ReleasePreview.LineDiff
