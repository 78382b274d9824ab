import Mathlib.Data.List.Basic
import ReleasePreview.LineDiff.Script

/-! How many removals and additions lie between two lists, by what the lists have in common. -/
namespace ReleasePreview.LineDiff
open List

variable {α : Type}

/-- At most `d` tokens of the two lists are left over beside a common subsequence. -/
def Within (d : Nat) (old new : List α) : Prop :=
  ∃ c, c <+ old ∧ c <+ new ∧ old.length + new.length ≤ d + 2 * c.length

/-- A common subsequence of two lists that no other one exceeds. -/
structure IsLongestCommon (c old new : List α) : Prop where
  inOld : c <+ old
  inNew : c <+ new
  longest : ∀ c', c' <+ old → c' <+ new → c'.length ≤ c.length

namespace Within

variable {d e : Nat} {old new old' new' : List α}

theorem of_sublist {c : List α} (ho : c <+ old) (hn : c <+ new) :
    Within (old.length + new.length - 2 * c.length) old new :=
  ⟨c, ho, hn, by omega⟩

theorem refl (ts : List α) : Within 0 ts ts := ⟨ts, .refl ts, .refl ts, by omega⟩

theorem length_le (h : Within d old new) :
    old.length ≤ new.length + d ∧ new.length ≤ old.length + d := by
  obtain ⟨c, ho, hn, hc⟩ := h
  have hol := ho.length_le
  have hnl := hn.length_le
  omega

theorem append (h : Within d old new) (h' : Within e old' new') :
    Within (d + e) (old ++ old') (new ++ new') := by
  obtain ⟨c, ho, hn, hc⟩ := h
  obtain ⟨c', ho', hn', hc'⟩ := h'
  refine ⟨c ++ c', ho.append ho', hn.append hn', ?_⟩
  simp only [length_append]
  omega

theorem reverse (h : Within d old new) : Within d old.reverse new.reverse := by
  obtain ⟨c, ho, hn, hc⟩ := h
  exact ⟨c.reverse, ho.reverse, hn.reverse, by simpa using hc⟩

theorem of_reverse (h : Within d old.reverse new.reverse) : Within d old new := by
  simpa using h.reverse

/-- Taking the same number of tokens off both fronts never adds an edit. -/
theorem drop (h : Within d old new) (t : Nat) : Within d (old.drop t) (new.drop t) := by
  obtain ⟨c, ho, hn, hc⟩ := h
  have hol := ho.length_le
  have hnl := hn.length_le
  refine ⟨c.drop t, ho.drop t, hn.drop t, ?_⟩
  simp only [length_drop]
  omega

theorem of_append_left {c : List α} (h : Within d (c ++ old) (c ++ new)) : Within d old new := by
  simpa using h.drop c.length

theorem of_append_right {c : List α} (h : Within d (old ++ c) (new ++ c)) : Within d old new := by
  have hr := h.reverse
  rw [reverse_append, reverse_append] at hr
  exact hr.of_append_left.of_reverse

theorem eq_of_zero (h : Within 0 old new) : old = new := by
  obtain ⟨c, ho, hn, hc⟩ := h
  have hol := ho.length_le
  have hnl := hn.length_le
  have hco : c = old := ho.eq_of_length (by omega)
  have hcn : c = new := hn.eq_of_length (by omega)
  exact hco.symm.trans hcn

/-- A script whose first tokens differ begins with a removal or an addition. -/
theorem cons_cases {a b : α} (h : Within d (a :: old) (b :: new)) (hab : a ≠ b) :
    ∃ e, d = e + 1 ∧ (Within e old (b :: new) ∨ Within e (a :: old) new) := by
  obtain ⟨c, ho, hn, hc⟩ := h
  rcases sublist_cons_iff.mp ho with ho' | ⟨c₁, rfl, -⟩
  · have hl := ho'.length_le
    have hl' := hn.length_le
    simp only [length_cons] at hc hl'
    exact ⟨d - 1, by omega, Or.inl ⟨c, ho', hn, by simp only [length_cons]; omega⟩⟩
  · rcases sublist_cons_iff.mp hn with hn' | ⟨c₂, hc₂, -⟩
    · have hl := ho.length_le
      have hl' := hn'.length_le
      simp only [length_cons] at hc hl hl'
      exact ⟨d - 1, by omega, Or.inr ⟨a :: c₁, ho, hn', by simp only [length_cons]; omega⟩⟩
    · exact absurd (cons_eq_cons.mp hc₂).1 hab

/-- Two lists that differ at both ends are at least two edits apart. -/
theorem two_le {a b : α} (h : Within d (a :: old) (b :: new)) (hab : a ≠ b)
    (hlast : (a :: old).getLast? ≠ (b :: new).getLast?) : 2 ≤ d := by
  obtain ⟨e, rfl, he⟩ := h.cons_cases hab
  by_contra hd
  have h0 : e = 0 := by omega
  subst h0
  rcases he with h1 | h1
  · exact hlast (by rw [h1.eq_of_zero, getLast?_cons_cons])
  · exact hlast (by rw [← h1.eq_of_zero, getLast?_cons_cons])

end Within

end ReleasePreview.LineDiff
