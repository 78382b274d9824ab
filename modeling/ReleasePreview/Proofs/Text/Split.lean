import Mathlib.Data.List.Induction
import Mathlib.Logic.Function.Basic
import ReleasePreview.Text.Split

/-!
What is put together with separators comes apart again. The words of texts with spaces between them
stay what they are, but which text a word belongs to can be told only where spaces within a text
stand in brackets.
-/
namespace ReleasePreview.Text

variable {separator : Char} {part : List Char}

theorem split_of_not_mem (h : separator ∉ part) : split separator part = [part] := by
  induction part with
  | nil => rfl
  | cons c part ih =>
    rw [List.mem_cons, not_or] at h
    rw [split, if_neg (Ne.symm h.1), ih h.2]

theorem split_ne_nil (separator : Char) (s : List Char) : split separator s ≠ [] := by
  cases s with
  | nil => simp [split]
  | cons c s =>
    rw [split]
    split
    · simp
    · split <;> simp

/-- A separator cuts a text wherever it stands. -/
theorem split_append_cons (separator : Char) (s r : List Char) :
    split separator (s ++ separator :: r) = split separator s ++ split separator r := by
  induction s with
  | nil => exact if_pos rfl
  | cons c s ih =>
    rw [List.cons_append, split, split, ih]
    by_cases hc : c = separator
    · rw [if_pos hc, if_pos hc, List.cons_append]
    · rw [if_neg hc, if_neg hc]
      cases hs : split separator s with
      | nil => exact absurd hs (split_ne_nil separator s)
      | cons part parts => rfl

theorem split_append (h : separator ∉ part) (s : List Char) :
    split separator (part ++ separator :: s) = part :: split separator s := by
  rw [split_append_cons, split_of_not_mem h, List.singleton_append]

/-- What has no separator in it lengthens the last part. -/
theorem exists_split_append (s : List Char) {t : List Char} (h : separator ∉ t) :
    ∃ parts last, split separator s = parts ++ [last] ∧
      split separator (s ++ t) = parts ++ [last ++ t] := by
  induction s with
  | nil => exact ⟨[], [], rfl, split_of_not_mem h⟩
  | cons c s ih =>
    obtain ⟨parts, last, hs, hst⟩ := ih
    by_cases hc : c = separator
    · refine ⟨[] :: parts, last, ?_, ?_⟩
      · rw [split, if_pos hc, hs, List.cons_append]
      · rw [List.cons_append, split, if_pos hc, hst, List.cons_append]
    · cases parts with
      | nil =>
        refine ⟨[], c :: last, ?_, ?_⟩
        · rw [split, if_neg hc, hs]
          rfl
        · rw [List.cons_append, split, if_neg hc, hst]
          rfl
      | cons part parts =>
        refine ⟨(c :: part) :: parts, last, ?_, ?_⟩
        · rw [split, if_neg hc, hs]
          rfl
        · rw [List.cons_append, split, if_neg hc, hst]
          rfl

/-- The parts joined by the separator are the text. -/
theorem intercalate_split (separator : Char) (s : List Char) :
    [separator].intercalate (split separator s) = s := by
  induction s with
  | nil => rfl
  | cons c s ih =>
    rw [split]
    cases hs : split separator s with
    | nil => exact absurd hs (split_ne_nil separator s)
    | cons part parts =>
      rw [hs] at ih
      split
      · next hc => rw [List.intercalate_cons_cons, ih, hc, List.nil_append, List.singleton_append]
      · cases parts with
        | nil =>
          rw [List.intercalate_singleton] at ih ⊢
          rw [ih]
        | cons part' parts =>
          rw [List.intercalate_cons_cons] at ih ⊢
          rw [← ih]
          rfl

/-- No part has the separator in it. -/
theorem not_mem_of_mem_split {s : List Char} (h : part ∈ split separator s) : separator ∉ part := by
  induction s generalizing part with
  | nil => simp [List.mem_singleton.mp h]
  | cons c s ih =>
    rw [split] at h
    split at h
    · rcases List.mem_cons.mp h with rfl | h
      · exact List.not_mem_nil
      · exact ih h
    · next hc =>
      cases hs : split separator s with
      | nil => exact absurd hs (split_ne_nil separator s)
      | cons first parts =>
        rw [hs] at h
        rcases List.mem_cons.mp h with rfl | h
        · rw [List.mem_cons, not_or]
          exact ⟨Ne.symm hc, ih (hs ▸ List.mem_cons_self)⟩
        · exact ih (hs ▸ List.mem_cons_of_mem first h)

/-- Texts, each after a space. -/
def spaced (xs : List (List Char)) : List Char := xs.flatMap (' ' :: ·)

/-- The brackets of a text close, `depth` of them being open before it, and spaces stand only
within brackets. -/
def closes : Nat → List Char → Bool
  | depth, [] => depth = 0
  | depth, c :: s =>
    if c ∈ ['(', '[', '{'] then closes (depth + 1) s
    else if c ∈ [')', ']', '}'] then depth ≠ 0 && closes (depth - 1) s
    else (c ≠ ' ' || depth ≠ 0) && closes depth s

section Spaced

theorem spaced_append (xs ys : List (List Char)) : spaced (xs ++ ys) = spaced xs ++ spaced ys :=
  List.flatMap_append

theorem intercalate_cons (x : List Char) (xs : List (List Char)) :
    [' '].intercalate (x :: xs) = x ++ spaced xs := by
  induction xs generalizing x with
  | nil => rw [List.intercalate_singleton, spaced, List.flatMap_nil, List.append_nil]
  | cons y xs ih =>
    rw [List.intercalate_cons_cons, ih, spaced, spaced, List.flatMap_cons, List.append_assoc]
    rfl

theorem intercalate_append {xs ys : List (List Char)} (hxs : xs ≠ []) (hys : ys ≠ []) :
    [' '].intercalate (xs ++ ys) = [' '].intercalate xs ++ ' ' :: [' '].intercalate ys := by
  obtain ⟨x, xs, rfl⟩ := List.exists_cons_of_ne_nil hxs
  obtain ⟨y, ys, rfl⟩ := List.exists_cons_of_ne_nil hys
  rw [List.cons_append, intercalate_cons, intercalate_cons, intercalate_cons, spaced_append,
    List.append_assoc]
  rfl

/-- The words of texts with spaces between them are the words of the texts. -/
theorem split_append_spaced (x : List Char) (xs : List (List Char)) :
    split ' ' (x ++ spaced xs) = split ' ' x ++ xs.flatMap (split ' ') := by
  induction xs using List.reverseRecOn with
  | nil => simp [spaced]
  | append_singleton xs y ih =>
    have hlast : x ++ spaced (xs ++ [y]) = x ++ spaced xs ++ ' ' :: y := by
      rw [spaced_append, List.append_assoc]
      simp [spaced]
    rw [hlast, split_append_cons, ih, List.flatMap_append, List.flatMap_singleton,
      List.append_assoc]

theorem split_injective (separator : Char) : Function.Injective (split separator) :=
  Function.LeftInverse.injective (intercalate_split separator)

theorem intercalate_eq_iff {xs ys : List (List Char)} (hxs : xs ≠ []) (hys : ys ≠ []) :
    [' '].intercalate xs = [' '].intercalate ys ↔
      xs.flatMap (split ' ') = ys.flatMap (split ' ') := by
  obtain ⟨x, xs, rfl⟩ := List.exists_cons_of_ne_nil hxs
  obtain ⟨y, ys, rfl⟩ := List.exists_cons_of_ne_nil hys
  rw [← (split_injective ' ').eq_iff, intercalate_cons, intercalate_cons, split_append_spaced,
    split_append_spaced, List.flatMap_cons, List.flatMap_cons]

theorem flatMap_split {xs : List (List Char)} (h : ∀ x ∈ xs, ' ' ∉ x) :
    xs.flatMap (split ' ') = xs := by
  induction xs with
  | nil => rfl
  | cons x xs ih =>
    rw [List.forall_mem_cons] at h
    rw [List.flatMap_cons, split_of_not_mem h.1, ih h.2, List.singleton_append]

theorem mem_intercalate {x bar : List Char} {ls : List (List (List Char))}
    (h : x ∈ [bar].intercalate ls) : x = bar ∨ ∃ l ∈ ls, x ∈ l := by
  induction ls with
  | nil => simp at h
  | cons l ls ih =>
    rcases eq_or_ne ls [] with rfl | hls
    · simpa using Or.inr h
    · rw [List.intercalate_cons_of_ne_nil hls, List.mem_append, List.mem_append,
        List.mem_singleton] at h
      rcases h with (hl | hbar) | hrest
      · exact .inr ⟨l, List.mem_cons_self, hl⟩
      · exact .inl hbar
      · exact (ih hrest).imp_right fun ⟨l', hl', hx⟩ => ⟨l', List.mem_cons_of_mem l hl', hx⟩

end Spaced

section Closed

theorem not_closes_space (s : List Char) : ¬ closes 0 (' ' :: s) := by
  simp [closes]

/-- Nothing can follow a closed text but a space, so it does not go on into another closed one. -/
theorem eq_nil_of_closes {x y : List Char} {xs : List (List Char)} (hy : closes 0 y)
    (h : spaced xs = y ++ x) : y = [] := by
  cases xs with
  | nil => exact (List.append_eq_nil_iff.mp h.symm).1
  | cons z xs =>
    cases y with
    | nil => rfl
    | cons c y =>
      obtain ⟨rfl, -⟩ : ' ' = c ∧ _ := List.cons_eq_cons.mp h
      exact absurd hy (not_closes_space y)

theorem depth_eq_zero {depth : ℕ} (h : closes depth []) : depth = 0 := by
  simpa [closes] using h

/-- Where closed texts stand side by side, it can be told where the first one ends. -/
theorem closes_inj {depth : ℕ} {x y : List Char} {xs ys : List (List Char)}
    (hx : closes depth x) (hy : closes depth y) (h : x ++ spaced xs = y ++ spaced ys) : x = y := by
  induction x generalizing depth y with
  | nil =>
    obtain rfl := depth_eq_zero hx
    exact (eq_nil_of_closes hy h).symm
  | cons c x ih =>
    cases y with
    | nil =>
      obtain rfl := depth_eq_zero hy
      exact eq_nil_of_closes hx h.symm
    | cons d y =>
      obtain ⟨rfl, hrest⟩ := List.cons_eq_cons.mp h
      rw [closes] at hx hy
      -- one and the same character opens, shuts or does neither in both texts
      split at hx
      · next hopens =>
        rw [if_pos hopens] at hy
        rw [ih hx hy hrest]
      · next hopens =>
        rw [if_neg hopens] at hy
        split at hx
        · next hshuts =>
          rw [if_pos hshuts, Bool.and_eq_true] at hy
          rw [ih (Bool.and_eq_true _ _ ▸ hx).2 hy.2 hrest]
        · next hshuts =>
          rw [if_neg hshuts, Bool.and_eq_true] at hy
          rw [ih (Bool.and_eq_true _ _ ▸ hx).2 hy.2 hrest]

theorem spaced_inj {xs ys : List (List Char)} (hxs : ∀ x ∈ xs, closes 0 x)
    (hys : ∀ y ∈ ys, closes 0 y) (h : spaced xs = spaced ys) : xs = ys := by
  induction xs generalizing ys with
  | nil =>
    cases ys with
    | nil => rfl
    | cons y ys => exact absurd h (List.cons_ne_nil _ _).symm
  | cons x xs ih =>
    cases ys with
    | nil => exact absurd h (List.cons_ne_nil _ _)
    | cons y ys =>
      rw [List.forall_mem_cons] at hxs hys
      have hsame : x ++ spaced xs = y ++ spaced ys := (List.cons_eq_cons.mp h).2
      obtain rfl := closes_inj hxs.1 hys.1 hsame
      rw [ih hxs.2 hys.2 (List.append_cancel_left hsame)]

/-- Words are only met in one way in closed texts. -/
theorem words_inj {xs ys : List (List Char)} (hxs : ∀ x ∈ xs, closes 0 x)
    (hys : ∀ y ∈ ys, closes 0 y)
    (h : xs.flatMap (split ' ') = ys.flatMap (split ' ')) : xs = ys := by
  refine spaced_inj hxs hys (split_injective ' ' ?_)
  rw [← List.nil_append (spaced xs), ← List.nil_append (spaced ys), split_append_spaced,
    split_append_spaced, h]

end Closed

end ReleasePreview.Text
