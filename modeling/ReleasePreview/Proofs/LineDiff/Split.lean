import ReleasePreview.Proofs.LineDiff.Frontier

/-! The search always finds a split, and a shortest script passes through it. -/
namespace ReleasePreview.LineDiff
open List

variable {α : Type} [DecidableEq α] {old new : List α} {rounds otherRounds : Nat}
  {front other : List Point}

/-- A point at which a shortest script falls into two shortest scripts of nearly equal length. -/
structure IsCut (old new : List α) (p : Point) (d e : Nat) : Prop where
  before : Within d (old.take p.x) (new.take p.y)
  behind : Within e (old.drop p.x) (new.drop p.y)
  shortest : ∀ k, Within k old new → d + e ≤ k
  balanced : e ≤ d ∧ d ≤ e + 1

omit [DecidableEq α] in
/-- Neither half of a cut is the whole, if there are two edits or more. -/
theorem IsCut.progress {old new : List α} {p : Point} {d e : Nat} (h : IsCut old new p d e)
    (htwo : ∀ k, Within k old new → 2 ≤ k) :
    (old.take p.x).length + (new.take p.y).length < old.length + new.length ∧
      (old.drop p.x).length + (new.drop p.y).length < old.length + new.length := by
  have hbal := h.balanced
  constructor
  · by_contra hlt
    have ho : old.take p.x = old := take_of_length_le (by simp only [length_take] at hlt; omega)
    have hn : new.take p.y = new := take_of_length_le (by simp only [length_take] at hlt; omega)
    have hd := h.before
    rw [ho, hn] at hd
    have hmin := h.shortest d hd
    have hle := htwo d hd
    omega
  · by_contra hlt
    have ho : old.drop p.x = old :=
      (drop_sublist _ _).eq_of_length (by simp only [length_drop] at hlt ⊢; omega)
    have hn : new.drop p.y = new :=
      (drop_sublist _ _).eq_of_length (by simp only [length_drop] at hlt ⊢; omega)
    have he := h.behind
    rw [ho, hn] at he
    have hmin := h.shortest e he
    have hle := htwo e he
    omega

omit [DecidableEq α] in
/-- What the other front has on the diagonal of a point. The numbers of rounds fit the lists'
lengths, or the fronts would have no diagonal in common. -/
private theorem opposite_eq_some_iff (h : IsFront old.reverse new.reverse otherRounds other)
    {p q : Point} {i : Nat} (hp : p.x + 2 * i = p.y + rounds)
    (hpar : (rounds + 1 + otherRounds + old.length + new.length) % 2 = 0) :
    opposite old.length new.length other.toArray p = some q ↔
      q ∈ other ∧ p.x + q.x + new.length = p.y + q.y + old.length := by
  have hlen := h.length
  unfold opposite
  simp only [size_toArray, getElem?_toArray]
  constructor
  · intro hq
    split at hq
    · have hd := h.diagonal _ q hq
      have hm := mem_of_getElem? hq
      have hpos := length_pos_of_mem hm
      exact ⟨hm, by omega⟩
    · contradiction
  · rintro ⟨hm, hsame⟩
    obtain ⟨j, hj⟩ := mem_iff_getElem?.mp hm
    have hd := h.diagonal j q hj
    have hpos := length_pos_of_mem hm
    rw [if_pos (by omega)]
    have hindex : (other.length - 1 + new.length + p.x - (old.length + p.y)) / 2 = j := by omega
    rw [hindex]
    exact hj

/-- Where a round meets the other front, few edits lead to either end of the slide, and few are
left to do behind it. -/
theorem meeting?_eq_some (hf : IsFront old new rounds front)
    (ho : IsFront old.reverse new.reverse otherRounds other)
    (hpar : (rounds + 1 + otherRounds + old.length + new.length) % 2 = 0) {r : Reach}
    (h : meeting? old.length new.length other.toArray (round old.toArray new.toArray front) =
      some r) :
    0 < otherRounds ∧ ∀ p, p = r.entry ∨ p = r.last →
      Within rounds (old.take p.x) (new.take p.y) ∧
        Within (otherRounds - 1) (old.drop p.x) (new.drop p.y) := by
  obtain ⟨a, ha, rfl⟩ := mem_map.mp (mem_of_find?_eq_some h)
  obtain ⟨i, hi⟩ := mem_iff_getElem?.mp ha
  have hmeet := find?_some h
  have hreached := hf.advance_reached hi
  have hstart := hf.advance_diagonal hi
  obtain ⟨hslide, hsame⟩ := Point.slide_spec old new a
  dsimp only at hmeet ⊢
  split at hmeet
  · next q hq =>
    obtain ⟨hm, hd⟩ := (opposite_eq_some_iff ho (i := i) (by omega) hpar).mp hq
    have hle : old.length ≤ (a.slide old.toArray new.toArray).x + q.x := by simpa using hmeet
    have hback := ho.reached q hm
    have hlast := hback.within_drop hle hd
    refine ⟨?_, ?_⟩
    · rw [← ho.length]
      exact length_pos_of_mem hm
    · rintro p (rfl | rfl)
      · refine ⟨hreached.within_take, ?_⟩
        by_cases hentry : old.length ≤ p.x + q.x
        · exact hback.within_drop hentry (by omega)
        · -- The other front has come to a point of the slide: what is left to do there is left
          -- to do where the slide begins.
          have hu := hback.within_drop (p := ⟨old.length - q.x, p.y + (old.length - q.x - p.x)⟩)
            (by dsimp only; omega) (by dsimp only; omega)
          refine Point.slide_within_drop (t := old.length - q.x - p.x) (by omega) ?_
          have hx : p.x + (old.length - q.x - p.x) = old.length - q.x := by omega
          rw [hx]
          exact hu
      · exact ⟨(Point.slide_reached hreached).within_take, hlast⟩
  · contradiction

/-- Fronts that do not meet leave no script of as many edits as they have made together. -/
theorem meeting?_eq_none (hf : IsFront old new rounds front)
    (ho : IsFront old.reverse new.reverse (otherRounds + 1) other)
    (hpar : (rounds + otherRounds + old.length + new.length) % 2 = 0)
    (h : meeting? old.length new.length other.toArray (round old.toArray new.toArray front) = none)
    {c : List α} (hco : c <+ old) (hcn : c <+ new) :
    old.length + new.length ≠ rounds + otherRounds + 2 * c.length := by
  intro hlen
  obtain ⟨x, y, hx, hy, heven, hpoint, hback⟩ := exists_cut hco hcn hlen
  have hpd := hpoint.diagonal
  have hbd := hback.diagonal
  dsimp only at hpd hbd
  -- The round has a point on the diagonal of the cut, and so has the other front.
  obtain ⟨i, hi⟩ : ∃ i, x + 2 * i = y + rounds := ⟨(y + rounds - x) / 2, by omega⟩
  obtain ⟨j, hj⟩ : ∃ j, old.length - x + 2 * j = new.length - y + otherRounds :=
    ⟨(new.length - y + otherRounds - (old.length - x)) / 2, by omega⟩
  have hlf := hf.length
  have hlo := ho.length
  obtain ⟨a, ha⟩ : ∃ a, (advance front)[i]? = some a :=
    ⟨_, getElem?_eq_getElem (by rw [length_advance]; omega)⟩
  obtain ⟨q, hq⟩ : ∃ q, other[j]? = some q := ⟨_, getElem?_eq_getElem (by omega)⟩
  have hfar := hf.slide_furthest ha hx hy hpoint hi
  have hfar' := ho.furthest j q hq (old.length - x) (new.length - y) (by simp) (by simp) hback
    (by omega)
  have hstart := hf.advance_diagonal ha
  have hqd := ho.diagonal j q hq
  have hsame := (Point.slide_spec old new a).2
  have hdiagonal : (a.slide old.toArray new.toArray).x + 2 * i =
      (a.slide old.toArray new.toArray).y + rounds := by omega
  have hopposite := (opposite_eq_some_iff ho (q := q) hdiagonal (by omega)).mpr
    ⟨mem_of_getElem? hq, by omega⟩
  have hnone := find?_eq_none.mp h ⟨a, a.slide old.toArray new.toArray⟩
    (mem_map.mpr ⟨a, mem_of_getElem? ha, rfl⟩)
  rw [hopposite] at hnone
  simp only [decide_eq_true_eq] at hnone
  omega

omit [DecidableEq α] in
private theorem further_of_no_script
    (hfar : ∀ k, Within k old new → 2 * rounds ≤ k + (old.length + new.length) % 2)
    (hno : ∀ c, c <+ old → c <+ new →
      old.length + new.length + (old.length + new.length) % 2 ≠ 2 * rounds + 2 * c.length) :
    ∀ k, Within k old new → 2 * (rounds + 1) ≤ k + (old.length + new.length) % 2 := by
  rintro k ⟨c, hco, hcn, hc⟩
  have hmin := hfar _ (.of_sublist hco hcn)
  have hne := hno c hco hcn
  have hlo := hco.length_le
  have hln := hcn.length_le
  omega

/-- The invariant of the search: the fronts are fronts, and no script is so short that they should
have met before. As many edits as there are tokens always suffice, so the rounds do not run out. -/
theorem searchSplit_isCut {back : List Point} (hf : IsFront old new rounds front)
    (hb : IsFront old.reverse new.reverse rounds back)
    (hfar : ∀ k, Within k old new → 2 * rounds ≤ k + (old.length + new.length) % 2) (fuel : Nat)
    (hfuel : old.length + new.length + 2 ≤ 2 * (rounds + fuel)) :
    ∃ p d e, searchSplit old.toArray new.toArray old.reverse.toArray new.reverse.toArray fuel
      front back = some p ∧ IsCut old new p d e := by
  induction fuel generalizing rounds front back with
  | zero =>
    have hall := hfar _ (.of_sublist (nil_sublist old) (nil_sublist new))
    simp only [length_nil] at hall
    omega
  | succ fuel ih =>
    have hf' := hf.round
    have hb' := hb.round
    rw [searchSplit]
    simp only [size_toArray]
    by_cases hodd : (old.length + new.length) % 2 = 1
    · have hodd' : ((old.length + new.length) % 2 == 1) = true := by simp [hodd]
      simp only [hodd', if_true]
      split
      · next r hr =>
        obtain ⟨hpos, hboth⟩ := meeting?_eq_some hf hb (by omega) hr
        obtain ⟨hbefore, hbehind⟩ := hboth r.entry (Or.inl rfl)
        refine ⟨_, _, _, rfl, hbefore, hbehind, fun k hk => ?_, by omega⟩
        have hmin := hfar k hk
        omega
      · next hnone =>
        refine ih hf' hb' (further_of_no_script hfar fun c hco hcn hlen => ?_) (by omega)
        have hcl := hco.length_le
        have hcl' := hcn.length_le
        obtain ⟨earlier, rfl⟩ : ∃ earlier, rounds = earlier + 1 := ⟨rounds - 1, by omega⟩
        exact meeting?_eq_none hf hb (by omega) hnone hco hcn (by omega)
    · have hodd' : ((old.length + new.length) % 2 == 1) = false := by simp [hodd]
      simp only [hodd', Bool.false_eq_true, if_false]
      have hff : IsFront old.reverse.reverse new.reverse.reverse (rounds + 1)
          ((round old.toArray new.toArray front).map (·.last)) := by simpa using hf'
      have hlo : old.reverse.length = old.length := length_reverse
      have hln : new.reverse.length = new.length := length_reverse
      split
      · next r hr =>
        rw [← hlo, ← hln] at hr
        obtain ⟨-, hboth⟩ := meeting?_eq_some hb hff (by omega) hr
        obtain ⟨hbehind, hbefore⟩ := hboth r.last (Or.inr rfl)
        rw [take_reverse, take_reverse] at hbehind
        rw [drop_reverse, drop_reverse, Nat.add_sub_cancel] at hbefore
        refine ⟨_, _, _, rfl, hbefore.of_reverse, hbehind.of_reverse, fun k hk => ?_, by omega⟩
        have hmin := hfar k hk
        omega
      · next hnone =>
        rw [← hlo, ← hln] at hnone
        refine ih hf' hb' (further_of_no_script hfar fun c hco hcn hlen => ?_) (by omega)
        refine meeting?_eq_none hb hff (by omega) hnone hco.reverse hcn.reverse ?_
        simp only [length_reverse]
        omega

theorem split?_isCut (old new : List α) :
    ∃ p d e, split? old new = some p ∧ IsCut old new p d e := by
  rw [split?, reverse_toArray, reverse_toArray]
  exact searchSplit_isCut (isFront_nil old new) (isFront_nil _ _) (by omega) _ (by omega)

end ReleasePreview.LineDiff
