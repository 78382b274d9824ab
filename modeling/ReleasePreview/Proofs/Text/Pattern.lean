import Mathlib.Data.List.Basic
import ReleasePreview.Text.Pattern

/-!
What patterns of names match, and what is left of a text when the shortest or longest beginning or
end that matches is taken away.
-/
namespace ReleasePreview.Text

/-- Texts that a pattern stands for: any text for a star, and one character for another item. -/
inductive Matches : List PatternItem → List Char → Prop
  | nil : Matches [] []
  | star {ps : List PatternItem} {s : List Char} (front : List Char) (h : Matches ps s) :
      Matches (.star :: ps) (front ++ s)
  | one {p : PatternItem} {ps : List PatternItem} {c : Char} {s : List Char}
      (hc : p.matchesChar c) (h : Matches ps s) : Matches (p :: ps) (c :: s)

variable {p : PatternItem} {ps : List PatternItem} {s t : List Char} {longest : Bool}

section Matching

theorem matches_nil : Matches [] s ↔ s = [] := by
  constructor
  · intro h
    cases h
    rfl
  · rintro rfl
    exact .nil

theorem matches_star : Matches (.star :: ps) s ↔ ∃ n ≤ s.length, Matches ps (s.drop n) := by
  constructor
  · intro h
    cases h with
    | star front h => exact ⟨front.length, by simp, by simpa using h⟩
    | one hc => simp [PatternItem.matchesChar] at hc
  · rintro ⟨n, -, h⟩
    rw [← List.take_append_drop n s]
    exact .star (s.take n) h

theorem matches_cons (hp : p ≠ .star) :
    Matches (p :: ps) s ↔ ∃ c rest, s = c :: rest ∧ p.matchesChar c ∧ Matches ps rest := by
  constructor
  · intro h
    cases h with
    | star => contradiction
    | one hc h => exact ⟨_, _, rfl, hc, h⟩
  · rintro ⟨c, rest, rfl, hc, h⟩
    exact .one hc h

theorem matchesPattern_iff : matchesPattern ps s ↔ Matches ps s := by
  fun_induction matchesPattern ps s with
  | case1 s => rw [matches_nil, List.isEmpty_iff]
  | case2 s => exact iff_of_true rfl (List.append_nil s ▸ .star s .nil)
  | case3 s ps hps ih =>
    rw [matches_star, List.any_eq_true]
    simp only [List.mem_range, Nat.lt_succ_iff]
    exact exists_congr fun n => and_congr_right fun _ => ih n
  | case4 p ps _ hp =>
    rw [matches_cons hp]
    simp
  | case5 p ps c s _ hp ih =>
    rw [Bool.and_eq_true, matches_cons hp, ih]
    simp

end Matching

section Trimming

/-- Of the texts with a property, one that no other one is longer than, or that none is shorter
than. -/
structure IsBest (longest : Bool) (P : List Char → Prop) (s : List Char) : Prop where
  holds : P s
  best (t : List Char) (ht : P t) : if longest then t.length ≤ s.length else s.length ≤ t.length

/-- The first number of a list that satisfies a condition goes before all others that do. -/
theorem find?_of_pairwise {q : ℕ → Bool} {r : ℕ → ℕ → Prop} {l : List ℕ} {n : ℕ}
    (hl : l.Pairwise r) (h : l.find? q = some n) :
    n ∈ l ∧ q n ∧ ∀ m ∈ l, q m → m = n ∨ r n m := by
  obtain ⟨hn, before, behind, rfl, hbefore⟩ := List.find?_eq_some_iff_append.mp h
  refine ⟨by simp, hn, fun m hm hq => ?_⟩
  rcases List.mem_append.mp hm with hm | hm
  · exact absurd hq (by simpa using hbefore m hm)
  · rcases List.mem_cons.mp hm with rfl | hm
    · exact .inl rfl
    · exact .inr ((List.pairwise_cons.mp (List.pairwise_append.mp hl).2.1).1 m hm)

/-- The largest or smallest number up to some other that satisfies a condition. -/
theorem mem_lengths {size m : ℕ} :
    m ∈ (if longest then (List.range (size + 1)).reverse else List.range (size + 1)) ↔
      m ≤ size := by
  have hrange : m ∈ List.range (size + 1) ↔ m ≤ size := List.mem_range.trans Nat.lt_succ_iff
  cases longest with
  | false => exact hrange
  | true => exact List.mem_reverse.trans hrange

theorem find?_lengths_eq_some {q : ℕ → Bool} {size n : ℕ}
    (h : (if longest then (List.range (size + 1)).reverse else List.range (size + 1)).find? q =
      some n) : n ≤ size ∧ q n ∧ ∀ m ≤ size, q m → if longest then m ≤ n else n ≤ m := by
  have hpairwise : (if longest then (List.range (size + 1)).reverse else
      List.range (size + 1)).Pairwise fun a b => if longest then b < a else a < b := by
    cases longest with
    | false => simpa using List.pairwise_lt_range
    | true => simpa using List.pairwise_reverse.mpr List.pairwise_lt_range
  obtain ⟨hn, hq, hbest⟩ := find?_of_pairwise hpairwise h
  refine ⟨mem_lengths.mp hn, hq, fun m hm hqm => ?_⟩
  rcases hbest m (mem_lengths.mpr hm) hqm with rfl | hlt
  · simp
  · cases longest <;> simp at hlt ⊢ <;> omega

theorem find?_lengths_eq_none {q : ℕ → Bool} {size : ℕ}
    (h : (if longest then (List.range (size + 1)).reverse else List.range (size + 1)).find? q =
      none) {m : ℕ} (hm : m ≤ size) : ¬ q m :=
  List.find?_eq_none.mp h m (mem_lengths.mpr hm)

/-- Either the best beginning that matches is taken away, or none matches. -/
theorem withoutFront_cases (longest : Bool) (ps : List PatternItem) (s : List Char) :
    (∃ front, IsBest longest (fun t => t <+: s ∧ Matches ps t) front ∧
      s = front ++ withoutFront longest ps s) ∨
    (∀ t, t <+: s → ¬ Matches ps t) ∧ withoutFront longest ps s = s := by
  have hmatches {t : List Char} (ht : t <+: s) :
      matchesPattern ps (s.take t.length) ↔ Matches ps t := by
    rw [← List.prefix_iff_eq_take.mp ht, matchesPattern_iff]
  unfold withoutFront
  cases hfind : (if longest then (List.range (s.length + 1)).reverse else
      List.range (s.length + 1)).find? fun n => matchesPattern ps (s.take n) with
  | none =>
    refine .inr ⟨fun t ht h => ?_, by simp [hfind]⟩
    exact find?_lengths_eq_none hfind ht.length_le ((hmatches ht).mpr h)
  | some n =>
    obtain ⟨hn, hq, hbest⟩ := find?_lengths_eq_some hfind
    refine .inl ⟨s.take n, ⟨⟨List.take_prefix n s, matchesPattern_iff.mp hq⟩, ?_⟩,
      by simp [hfind]⟩
    rintro t ⟨ht, h⟩
    rw [List.length_take_of_le hn]
    exact hbest t.length ht.length_le ((hmatches ht).mpr h)

/-- Either the best end that matches is taken away, or none matches. -/
theorem withoutBack_cases (longest : Bool) (ps : List PatternItem) (s : List Char) :
    (∃ back, IsBest longest (fun t => t <:+ s ∧ Matches ps t) back ∧
      s = withoutBack longest ps s ++ back) ∨
    (∀ t, t <:+ s → ¬ Matches ps t) ∧ withoutBack longest ps s = s := by
  have hmatches {t : List Char} (ht : t <:+ s) :
      matchesPattern ps (s.drop (s.length - t.length)) ↔ Matches ps t := by
    rw [← List.suffix_iff_eq_drop.mp ht, matchesPattern_iff]
  -- the longest end begins first, so the lengths in front of it are tried the other way round
  have hlengths : (if longest then List.range (s.length + 1) else
      (List.range (s.length + 1)).reverse) =
      if !longest then (List.range (s.length + 1)).reverse else List.range (s.length + 1) := by
    cases longest <;> rfl
  unfold withoutBack
  simp only [hlengths]
  cases hfind : (if !longest then (List.range (s.length + 1)).reverse else
      List.range (s.length + 1)).find? fun n => matchesPattern ps (s.drop n) with
  | none =>
    refine .inr ⟨fun t ht h => ?_, rfl⟩
    exact find?_lengths_eq_none hfind (Nat.sub_le ..) ((hmatches ht).mpr h)
  | some n =>
    obtain ⟨hn, hq, hbest⟩ := find?_lengths_eq_some hfind
    refine .inl ⟨s.drop n, ⟨⟨List.drop_suffix n s, matchesPattern_iff.mp hq⟩, ?_⟩,
      (List.take_append_drop n s).symm⟩
    rintro t ⟨ht, h⟩
    have hle := hbest _ (Nat.sub_le ..) ((hmatches ht).mpr h)
    have hlength := ht.length_le
    rw [List.length_drop]
    cases longest <;> simp at hle ⊢ <;> omega

end Trimming

section Reading

/-- What follows a set is shorter than the set with what follows it. -/
theorem length_lt_of_setItems {isFirst : Bool} {fuel : ℕ} {s rest : List (Char × Bool)}
    {items : List SetItem} (h : setItems isFirst fuel s = some (items, rest)) :
    rest.length < s.length := by
  induction fuel generalizing isFirst s items rest with
  | zero => simp [setItems] at h
  | succ fuel ih =>
    cases s with
    | nil => simp [setItems] at h
    | cons x s =>
      have hmore {isFirst' : Bool} {s' rest' : List (Char × Bool)} {found : List SetItem}
          (item : SetItem) (hle : s'.length ≤ s.length)
          (h : ((setItems isFirst' fuel s').bind fun r => some (item :: r.1, r.2)) =
            some (found, rest')) : rest'.length < s.length + 1 := by
        obtain ⟨⟨items', rest''⟩, h', heq⟩ := Option.bind_eq_some_iff.mp h
        obtain ⟨-, rfl⟩ : item :: items' = found ∧ rest'' = rest' := by simpa using heq
        exact Nat.lt_succ_of_lt (Nat.lt_of_lt_of_le (ih h') hle)
      unfold setItems at h
      split at h
      · obtain ⟨-, rfl⟩ : [] = items ∧ s = rest := by simpa using h
        exact Nat.lt_succ_self _
      · split at h
        · exact hmore _ (by simp) h
        · split at h
          · split at h
            · exact hmore _ (Nat.le_refl _) h
            · exact hmore _ (by simp; omega) h
          · exact hmore _ (Nat.le_refl _) h

/-- The length of a text is enough to read it as a pattern. -/
theorem patternOf_of_le {fuel fuel' : ℕ} {s : List (Char × Bool)} (h : s.length ≤ fuel)
    (h' : s.length ≤ fuel') : patternOf fuel s = patternOf fuel' s := by
  induction fuel generalizing fuel' s with
  | zero =>
    obtain rfl := List.length_eq_zero_iff.mp (Nat.le_zero.mp h)
    cases fuel' <;> rfl
  | succ fuel ih =>
    cases s with
    | nil => cases fuel' <;> rfl
    | cons x s =>
      cases fuel' with
      | zero => simp at h'
      | succ fuel' =>
        have hle : s.length ≤ fuel := Nat.le_of_succ_le_succ h
        have hle' : s.length ≤ fuel' := Nat.le_of_succ_le_succ h'
        have hrest {inner rest : List (Char × Bool)} {items : List SetItem}
            (hinner : inner.length ≤ s.length)
            (hset : setItems true (inner.length + 1) inner = some (items, rest)) :
            patternOf fuel rest = patternOf fuel' rest := by
          have hlt := length_lt_of_setItems hset
          exact ih (by omega) (by omega)
        unfold patternOf
        rw [ih hle hle']
        dsimp only
        split
        · rfl
        · split
          · rfl
          · split
            · rfl
            · split
              · split
                · next hset => rw [hrest (by split <;> simp) hset]
                · rfl
              · rfl

/-- Characters without a meaning of their own, or in quotes. -/
def IsPlain (s : List (Char × Bool)) : Prop :=
  ∀ x ∈ s, x.2 ∨ x.1 ≠ '*' ∧ x.1 ≠ '?' ∧ x.1 ≠ '['

theorem patternOf_of_isPlain {s : List (Char × Bool)} (h : IsPlain s) {fuel : ℕ}
    (hfuel : s.length ≤ fuel) : patternOf fuel s = s.map fun x => .char x.1 := by
  induction s generalizing fuel with
  | nil => cases fuel <;> rfl
  | cons x s ih =>
    obtain ⟨c, quoted⟩ := x
    obtain ⟨hc, hs⟩ := List.forall_mem_cons.mp h
    cases fuel with
    | zero => simp at hfuel
    | succ fuel =>
      have hrest := ih hs (Nat.le_of_succ_le_succ hfuel)
      unfold patternOf
      cases quoted with
      | true => simp [hrest]
      | false =>
        obtain ⟨hstar, hany, hset⟩ : c ≠ '*' ∧ c ≠ '?' ∧ c ≠ '[' := by simpa using hc
        simp [hstar, hany, hset, hrest]

theorem matches_chars {r : List Char} : Matches (r.map .char) s ↔ s = r := by
  induction r generalizing s with
  | nil => exact matches_nil
  | cons c r ih =>
    rw [List.map_cons, matches_cons (by simp)]
    simp [PatternItem.matchesChar, ih]

/-- A pattern in which no character stands for others matches itself alone. -/
theorem matches_of_isPlain {r : List (Char × Bool)} (h : IsPlain r) :
    Matches (patternOf (r.length + 1) r) s ↔ s = r.map (·.1) := by
  rw [patternOf_of_isPlain h (Nat.le_succ _), ← matches_chars, List.map_map]
  rfl

end Reading

end ReleasePreview.Text
