import Mathlib.Data.List.TakeWhile
import ReleasePreview.Text.Blank

/-! Trimming takes the blanks at both ends and nothing else. -/
namespace ReleasePreview.Text

/-- What is left of a text between blanks, itself without a blank at either end. -/
structure Trims (s t : List Char) : Prop where
  within : ∃ front back, s = front ++ t ++ back ∧ (∀ c ∈ front, isBlank c) ∧ ∀ c ∈ back, isBlank c
  head : ∀ c, t.head? = some c → ¬ isBlank c
  last : ∀ c, t.getLast? = some c → ¬ isBlank c

theorem trimEnd_append (s : List Char) : ∃ back, s = trimEnd s ++ back ∧ ∀ c ∈ back, isBlank c := by
  fun_induction trimEnd s with
  | case1 => exact ⟨[], rfl, by simp⟩
  | case2 c s hs hc ih =>
    obtain ⟨back, hback, hblank⟩ := ih
    rw [hs, List.nil_append] at hback
    exact ⟨c :: s, rfl, List.forall_mem_cons.mpr ⟨hc, hback ▸ hblank⟩⟩
  | case3 c s hs hc ih =>
    obtain ⟨back, hback, hblank⟩ := ih
    rw [hs, List.nil_append] at hback
    exact ⟨s, rfl, hback ▸ hblank⟩
  | case4 c s _ ih =>
    obtain ⟨back, hback, hblank⟩ := ih
    exact ⟨back, congrArg (c :: ·) hback, hblank⟩

theorem getLast?_trimEnd (s : List Char) : ∀ c, (trimEnd s).getLast? = some c → ¬ isBlank c := by
  fun_induction trimEnd s with
  | case1 => simp
  | case2 => simp
  | case3 c s _ hc _ => simpa using hc
  | case4 c s hs ih =>
    intro d hd
    cases ht : trimEnd s with
    | nil => exact absurd ht hs
    | cons e t =>
      rw [ht] at ih hd
      exact ih d (by rwa [List.getLast?_cons_cons] at hd)

theorem trims_trim (s : List Char) : Trims s (trim s) := by
  obtain ⟨back, hback, hblank⟩ := trimEnd_append (trimStart s)
  refine ⟨⟨s.takeWhile isBlank, back, ?_, fun c hc => List.mem_takeWhile_imp hc, hblank⟩, ?_,
    getLast?_trimEnd _⟩
  · rw [trim, List.append_assoc, ← hback, trimStart, List.takeWhile_append_dropWhile]
  · intro c hc
    have hhead : (s.dropWhile isBlank).head? = some c := by
      rw [← trimStart, hback, List.head?_append, ← trim, hc, Option.some_or]
    have hfirst := List.head?_dropWhile_not isBlank s
    rw [hhead] at hfirst
    simpa using hfirst

theorem Trims.mem {s t : List Char} {c : Char} (h : Trims s t) (hc : c ∈ t) : c ∈ s := by
  obtain ⟨front, back, rfl, -, -⟩ := h.within
  exact List.mem_append_left back (List.mem_append_right front hc)

private theorem trimEnd_of_last {t : List Char} (h : ∀ c, t.getLast? = some c → ¬ isBlank c) :
    trimEnd t = t := by
  induction t with
  | nil => rfl
  | cons c t ih =>
    cases t with
    | nil => simpa [trimEnd] using h c rfl
    | cons d t =>
      have hrest : trimEnd (d :: t) = d :: t := by
        refine ih fun e he => h e ?_
        rwa [List.getLast?_cons_cons]
      rw [trimEnd, hrest]

/-- A trimmed text has nothing more to trim. -/
theorem Trims.trim_eq {s t : List Char} (h : Trims s t) : trim t = t := by
  have hstart : trimStart t = t := by
    cases t with
    | nil => rfl
    | cons c t => exact List.dropWhile_cons_of_neg (h.head c rfl)
  rw [trim, hstart, trimEnd_of_last h.last]

/-- Blanks in front are not seen. -/
theorem trim_blank_append {front : List Char} (h : ∀ c ∈ front, isBlank c) (s : List Char) :
    trim (front ++ s) = trim s := by
  rw [trim, trimStart, List.dropWhile_append_of_pos h, trim, trimStart]

theorem trim_of_head {s : List Char} (h : ∀ c, s.head? = some c → ¬ isBlank c) :
    trim s = trimEnd s := by
  cases s with
  | nil => rfl
  | cons c s => rw [trim, trimStart, List.dropWhile_cons_of_neg (h c rfl)]

theorem trimEnd_blank {s : List Char} (h : ∀ c ∈ s, isBlank c) : trimEnd s = [] := by
  induction s with
  | nil => rfl
  | cons c s ih =>
    obtain ⟨hc, hs⟩ := List.forall_mem_cons.mp h
    rw [trimEnd, ih hs, if_pos hc]

theorem trimEnd_append_blank {back : List Char} (h : ∀ c ∈ back, isBlank c) (s : List Char) :
    trimEnd (s ++ back) = trimEnd s := by
  induction s with
  | nil => exact trimEnd_blank h
  | cons c s ih => rw [List.cons_append, trimEnd, ih, trimEnd]

/-- Nothing up to a character that is no blank is taken from the end. -/
theorem trimEnd_append_cons {c : Char} (hc : ¬ isBlank c) (s t : List Char) :
    trimEnd (s ++ c :: t) = s ++ c :: trimEnd t := by
  induction s with
  | nil =>
    rw [List.nil_append, trimEnd]
    cases trimEnd t with
    | nil => exact if_neg hc
    | cons d u => rfl
  | cons d s ih =>
    rw [List.cons_append, trimEnd, ih]
    cases s <;> rfl

theorem trim_blank {s : List Char} (h : ∀ c ∈ s, isBlank c) : trim s = [] := by
  rw [← List.append_nil s, trim_blank_append h]
  rfl

/-- Blanks at the end are not seen. -/
theorem trim_append_blank {back : List Char} (h : ∀ c ∈ back, isBlank c) (s : List Char) :
    trim (s ++ back) = trim s := by
  induction s with
  | nil => exact trim_blank h
  | cons c s ih =>
    by_cases hc : isBlank c
    · have hfront : ∀ d ∈ [c], isBlank d := by simpa using hc
      calc trim (c :: (s ++ back)) = trim (s ++ back) := trim_blank_append hfront _
        _ = trim s := ih
        _ = trim (c :: s) := (trim_blank_append hfront s).symm
    · have hhead : ∀ (t : List Char) (d : Char), (c :: t).head? = some d → ¬ isBlank d := by
        intro t d hd
        rwa [← Option.some.inj hd]
      rw [List.cons_append, trim_of_head (hhead _), ← List.cons_append, trimEnd_append_blank h,
        trim_of_head (hhead _)]

theorem isBlank_carriageReturn : ∀ c ∈ ['\r'], isBlank c := List.all_eq_true.mp (by decide)

end ReleasePreview.Text
