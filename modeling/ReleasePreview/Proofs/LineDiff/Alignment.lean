import ReleasePreview.LineDiff.Alignment
import ReleasePreview.Proofs.LineDiff.Split

/-! An alignment stands for both lists, and no script of them removes or adds fewer tokens. -/
namespace ReleasePreview.LineDiff
open List

variable {α : Type}

section Keep

variable (ts : List α)

@[simp] theorem oldText_keep : (keep ts).oldText = ts := by
  cases ts <;> simp [keep, Run.oldSide]

@[simp] theorem newText_keep : (keep ts).newText = ts := by
  cases ts <;> simp [keep, Run.newSide]

@[simp] theorem cost_keep : (keep ts).cost = 0 := by
  cases ts <;> simp [keep, Run.cost]

end Keep

variable [DecidableEq α]

theorem splitCommon_append (as bs : List α) :
    (splitCommon as bs).1 ++ (splitCommon as bs).2.1 = as ∧
      (splitCommon as bs).1 ++ (splitCommon as bs).2.2 = bs := by
  fun_induction splitCommon as bs with
  | case1 as b bs common as' bs' hsplit ih =>
    rw [hsplit] at ih
    exact ⟨congrArg (b :: ·) ih.1, congrArg (b :: ·) ih.2⟩
  | case2 => exact ⟨rfl, rfl⟩
  | case3 => exact ⟨rfl, rfl⟩

/-- Behind the longest common beginning the lists go on differently. -/
theorem splitCommon_head_ne (as bs : List α) {a b : α}
    (ha : (splitCommon as bs).2.1.head? = some a) (hb : (splitCommon as bs).2.2.head? = some b) :
    a ≠ b := by
  fun_induction splitCommon as bs with
  | case1 as b bs common as' bs' hsplit ih =>
    rw [hsplit] at ih
    exact ih ha hb
  | case2 a' as b' bs hne =>
    obtain rfl := Option.some.inj ha
    obtain rfl := Option.some.inj hb
    exact hne
  | case3 as bs hend =>
    obtain ⟨as', rfl⟩ := head?_eq_some_iff.mp ha
    obtain ⟨bs', rfl⟩ := head?_eq_some_iff.mp hb
    exact (hend a as' b bs' rfl rfl).elim

namespace Ends

variable (old new : List α)

private theorem rest_eq :
    (splitCommon old new).2.1 = (Ends.of old new).oldCore ++ (Ends.of old new).back ∧
      (splitCommon old new).2.2 = (Ends.of old new).newCore ++ (Ends.of old new).back := by
  obtain ⟨ho, hn⟩ :=
    splitCommon_append (splitCommon old new).2.1.reverse (splitCommon old new).2.2.reverse
  have ho' := congrArg List.reverse ho
  have hn' := congrArg List.reverse hn
  rw [reverse_append, reverse_reverse] at ho' hn'
  exact ⟨ho'.symm, hn'.symm⟩

theorem of_append :
    (Ends.of old new).front ++ ((Ends.of old new).oldCore ++ (Ends.of old new).back) = old ∧
      (Ends.of old new).front ++ ((Ends.of old new).newCore ++ (Ends.of old new).back) = new := by
  obtain ⟨ho, hn⟩ := rest_eq old new
  rw [← ho, ← hn]
  exact splitCommon_append old new

/-- What two lists have in common at their ends is not an edit. -/
theorem within_core {k : Nat} (h : Within k old new) :
    Within k (Ends.of old new).oldCore (Ends.of old new).newCore := by
  obtain ⟨ho, hn⟩ := of_append old new
  have h' : Within k
      ((Ends.of old new).front ++ ((Ends.of old new).oldCore ++ (Ends.of old new).back))
      ((Ends.of old new).front ++ ((Ends.of old new).newCore ++ (Ends.of old new).back)) := by
    rw [ho, hn]
    exact h
  exact h'.of_append_left.of_append_right

/-- Cores that are not empty differ at both ends, and need two edits. -/
theorem two_le_of_within_core {a b : α} {as bs : List α} (ha : (Ends.of old new).oldCore = a :: as)
    (hb : (Ends.of old new).newCore = b :: bs) {k : Nat} (h : Within k (a :: as) (b :: bs)) :
    2 ≤ k := by
  obtain ⟨ho, hn⟩ := rest_eq old new
  rw [ha] at ho
  rw [hb] at hn
  have hhead : a ≠ b := splitCommon_head_ne old new (by rw [ho]; rfl) (by rw [hn]; rfl)
  refine h.two_le hhead fun hlast => ?_
  rw [← ha, ← hb] at hlast
  change (List.reverse _).getLast? = (List.reverse _).getLast? at hlast
  rw [getLast?_reverse, getLast?_reverse] at hlast
  have hsome : ∃ c, (Ends.of old new).oldCore.getLast? = some c := by
    rw [ha, getLast?_cons]
    exact ⟨_, rfl⟩
  obtain ⟨c, hc⟩ := hsome
  change (List.reverse _).getLast? = _ at hc
  rw [getLast?_reverse] at hc
  exact splitCommon_head_ne _ _ hc (hlast ▸ hc) rfl

end Ends

theorem alignWithin_text (fuel : Nat) (old new : List α) :
    (alignWithin fuel old new).oldText = old ∧ (alignWithin fuel old new).newText = new := by
  induction fuel generalizing old new with
  | zero => simp [alignWithin, Run.oldSide, Run.newSide]
  | succ fuel ih =>
    have hends : ∀ core : Script α, core.oldText = (Ends.of old new).oldCore →
        core.newText = (Ends.of old new).newCore →
        (keep (Ends.of old new).front ++ core ++ keep (Ends.of old new).back).oldText = old ∧
          (keep (Ends.of old new).front ++ core ++ keep (Ends.of old new).back).newText = new := by
      intro core ho hn
      simp only [Script.oldText_append, Script.newText_append, oldText_keep, newText_keep, ho, hn,
        append_assoc]
      exact Ends.of_append old new
    rw [alignWithin]
    apply hends
    all_goals
      split
      · simp_all
      · simp_all [Run.oldSide, Run.newSide]
      · simp_all [Run.oldSide, Run.newSide]
      · split
        · simp only [Script.oldText_append, Script.newText_append, (ih _ _).1, (ih _ _).2,
            take_append_drop, *]
        · simp_all [Run.oldSide, Run.newSide]

/-- With fuel for every token, an alignment costs no more than any script of the lists. -/
theorem cost_alignWithin_le (fuel : Nat) (old new : List α)
    (hfuel : old.length + new.length < fuel) {k : Nat} (h : Within k old new) :
    (alignWithin fuel old new).cost ≤ k := by
  induction fuel generalizing old new k with
  | zero => omega
  | succ fuel ih =>
    have hcore := Ends.within_core old new h
    have hlen : (Ends.of old new).oldCore.length + (Ends.of old new).newCore.length ≤
        old.length + new.length := by
      have ho := congrArg List.length (Ends.of_append old new).1
      have hn := congrArg List.length (Ends.of_append old new).2
      simp only [length_append] at ho hn
      omega
    rw [alignWithin]
    simp only [Script.cost_append, cost_keep, Nat.zero_add, Nat.add_zero]
    split
    · exact Nat.zero_le k
    · next hn _ =>
      rw [hn] at hcore
      simpa [Run.cost] using hcore.length_le.1
    · next ho _ =>
      rw [ho] at hcore
      simpa [Run.cost] using hcore.length_le.2
    · next hold hnew _ =>
      obtain ⟨a, as, ha⟩ := exists_cons_of_ne_nil hold
      obtain ⟨b, bs, hb⟩ := exists_cons_of_ne_nil hnew
      obtain ⟨p, d, e, hp, hcut⟩ := split?_isCut (Ends.of old new).oldCore (Ends.of old new).newCore
      have htwo : ∀ j, Within j (Ends.of old new).oldCore (Ends.of old new).newCore → 2 ≤ j := by
        rw [ha, hb]
        exact fun j hj => Ends.two_le_of_within_core old new ha hb hj
      obtain ⟨hbefore, hbehind⟩ := hcut.progress htwo
      have hcost := ih _ _ (by omega) hcut.before
      have hcost' := ih _ _ (by omega) hcut.behind
      have hmin := hcut.shortest k hcore
      simp only [hp, Script.cost_append]
      omega

theorem align_text (old new : List α) :
    (align old new).oldText = old ∧ (align old new).newText = new :=
  alignWithin_text _ old new

/-- An alignment is a shortest script. -/
theorem cost_align_le {old new : List α} {k : Nat} (h : Within k old new) :
    (align old new).cost ≤ k :=
  cost_alignWithin_le _ old new (Nat.lt_succ_self _) h

end ReleasePreview.LineDiff
