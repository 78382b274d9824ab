import ReleasePreview.LineDiff.Compaction

/-! Compaction moves edits, but both texts of a script and the number of its edits stay. -/
namespace ReleasePreview.LineDiff

variable {α : Type}

/-- Two scripts stand for the same texts and edit the same number of tokens. -/
structure SameEdits (s t : Script α) : Prop where
  oldText : s.oldText = t.oldText
  newText : s.newText = t.newText
  cost : s.cost = t.cost

namespace SameEdits

variable {s t u : Script α}

theorem refl (s : Script α) : SameEdits s s := ⟨rfl, rfl, rfl⟩

theorem trans (h : SameEdits s t) (h' : SameEdits t u) : SameEdits s u :=
  ⟨h.oldText.trans h'.oldText, h.newText.trans h'.newText, h.cost.trans h'.cost⟩

theorem append_left (u : Script α) (h : SameEdits s t) : SameEdits (u ++ s) (u ++ t) where
  oldText := by simp [h.oldText]
  newText := by simp [h.newText]
  cost := by simp [h.cost]

theorem append_right (u : Script α) (h : SameEdits s t) : SameEdits (s ++ u) (t ++ u) where
  oldText := by simp [h.oldText]
  newText := by simp [h.newText]
  cost := by simp [h.cost]

theorem kept_nil (s : Script α) : SameEdits s (.kept [] :: s) where
  oldText := rfl
  newText := rfl
  cost := by simp [Run.cost]

end SameEdits

theorem keepBefore_sameEdits (ts : List α) (s : Script α) :
    SameEdits (keepBefore ts s) (.kept ts :: s) := by
  unfold keepBefore
  split
  · constructor <;> simp [Run.oldSide, Run.newSide, Run.cost]
  · cases ts <;> constructor <;> simp [Run.oldSide, Run.newSide, Run.cost]

theorem keepAfter_sameEdits (ts : List α) (s : Script α) :
    SameEdits (keepAfter ts s).reverse (s.reverse ++ [.kept ts]) := by
  unfold keepAfter
  split
  · constructor <;> simp [Run.oldSide, Run.newSide, Run.cost]
  · cases ts <;> constructor <;> simp [Run.oldSide, Run.newSide, Run.cost]

/-- Additions put somewhere between two parts of a script. -/
def Cursor.plug (run : List α → Run α) (c : Cursor α) : Script α :=
  c.before.reverse ++ run c.tokens :: c.after

theorem removalsUp_sameEdits (tokens : List α) (after before : Script α) :
    SameEdits ((removalsUp tokens after before).plug .removed)
      (before.reverse ++ .removed tokens :: after) := by
  fun_induction removalsUp tokens after before with
  | case1 tokens after ts before ih =>
    refine ih.trans ?_
    constructor <;> simp [Run.oldSide, Run.newSide, Run.cost, Nat.add_assoc]
  | case2 tokens after ts before ih =>
    refine ih.trans ?_
    constructor <;> simp [Run.oldSide, Run.newSide, Run.cost, Nat.add_left_comm]
  | case3 => exact .refl _

theorem removalsDown_sameEdits (tokens : List α) (before after : Script α) :
    SameEdits ((removalsDown tokens before after).plug .removed)
      (before.reverse ++ .removed tokens :: after) := by
  fun_induction removalsDown tokens before after with
  | case1 tokens before ts after ih =>
    refine ih.trans ?_
    constructor <;> simp [Run.oldSide, Run.newSide, Run.cost, Nat.add_assoc]
  | case2 tokens before ts after ih =>
    refine ih.trans ?_
    constructor <;> simp [Run.oldSide, Run.newSide, Run.cost, Nat.add_left_comm]
  | case3 => exact .refl _

theorem compactRemovals_sameEdits (fuel : Nat) (before after : Script α) :
    SameEdits (compactRemovals fuel before after) (before.reverse ++ after) := by
  fun_induction compactRemovals fuel before after with
  | case1 => exact .refl _
  | case2 => simpa using .refl _
  | case3 fuel before ts after up down ih =>
    have hup := removalsUp_sameEdits ts after before
    have hdown := removalsDown_sameEdits up.tokens up.before up.after
    rw [List.reverse_cons, List.append_assoc] at ih
    exact ih.trans (hdown.trans hup)
  | case4 fuel before r after hr ih => simpa using ih

variable [DecidableEq α]

/-- What is kept stays, with the additions or without them, and so does the number of additions. -/
theorem passUp_spec (ks tokens passed : List α) :
    (passUp ks tokens passed).1.reverse ++ (passUp ks tokens passed).2.2 = ks.reverse ++ passed ∧
      (passUp ks tokens passed).1.reverse ++
          ((passUp ks tokens passed).2.1 ++ (passUp ks tokens passed).2.2) =
        ks.reverse ++ (tokens ++ passed) ∧
      (passUp ks tokens passed).2.1.length = tokens.length := by
  fun_induction passUp ks tokens passed with
  | case1 => simp
  | case2 k ks tokens passed hk ih =>
    obtain ⟨init, rfl⟩ := List.getLast?_eq_some_iff.mp hk
    simpa using ih
  | case3 => simp

theorem passDown_spec (ks tokens passed : List α) :
    (passDown ks tokens passed).2.2.reverse ++ (passDown ks tokens passed).1 =
        passed.reverse ++ ks ∧
      (passDown ks tokens passed).2.2.reverse ++
          ((passDown ks tokens passed).2.1 ++ (passDown ks tokens passed).1) =
        passed.reverse ++ (tokens ++ ks) ∧
      (passDown ks tokens passed).2.1.length = tokens.length := by
  fun_induction passDown ks tokens passed with
  | case1 => simp
  | case2 ks passed t ts ih => simpa using ih
  | case3 => simp
  | case4 => simp

/-- Additions pass up over kept tokens without a change to either text. -/
private theorem passUp_sameEdits (ts tokens : List α) (after : Script α) :
    SameEdits
      (.kept (passUp ts.reverse tokens []).1.reverse ::
        .added (passUp ts.reverse tokens []).2.1 ::
          keepBefore (passUp ts.reverse tokens []).2.2 after)
      (.kept ts :: .added tokens :: after) := by
  obtain ⟨hkept, hall, hlen⟩ := passUp_spec ts.reverse tokens []
  rw [List.reverse_reverse, List.append_nil] at hkept hall
  obtain ⟨ho, hn, hc⟩ := keepBefore_sameEdits (passUp ts.reverse tokens []).2.2 after
  constructor
  · simpa [Run.oldSide, ho] using congrArg (· ++ after.oldText) hkept
  · simpa [Run.newSide, hn] using congrArg (· ++ after.newText) hall
  · simp [Run.cost, hc, hlen]

/-- Additions pass down over kept tokens without a change to either text. -/
private theorem passDown_sameEdits (ts tokens : List α) (before : Script α) :
    SameEdits
      ((keepAfter (passDown ts tokens []).2.2.reverse before).reverse ++
        [.added (passDown ts tokens []).2.1, .kept (passDown ts tokens []).1])
      (before.reverse ++ [.added tokens, .kept ts]) := by
  obtain ⟨hkept, hall, hlen⟩ := passDown_spec ts tokens []
  rw [List.reverse_nil, List.nil_append] at hkept hall
  obtain ⟨ho, hn, hc⟩ := keepAfter_sameEdits (passDown ts tokens []).2.2.reverse before
  constructor
  · simpa [Run.oldSide, ho] using hkept
  · simpa [Run.newSide, hn] using hall
  · simp [Run.cost, hc, hlen]

theorem additionsUp_sameEdits (tokens : List α) (after before : Script α) :
    SameEdits ((additionsUp tokens after before).plug .added)
      (before.reverse ++ .added tokens :: after) := by
  induction before generalizing tokens after with
  | nil => exact .refl _
  | cons r before ih =>
    rw [List.reverse_cons, List.append_assoc, List.singleton_append]
    cases r with
    | removed ts =>
      refine (ih tokens (.removed ts :: after)).trans ?_
      constructor <;> simp [Run.oldSide, Run.newSide, Run.cost, Nat.add_left_comm]
    | added ts =>
      refine (ih (ts ++ tokens) after).trans ?_
      constructor <;> simp [Run.oldSide, Run.newSide, Run.cost, Nat.add_assoc]
    | kept ts =>
      refine SameEdits.trans ?_ ((passUp_sameEdits ts tokens after).append_left before.reverse)
      rw [additionsUp]
      dsimp only
      split
      · next hleft =>
        rw [List.isEmpty_iff.mp hleft]
        exact (ih _ _).trans ((SameEdits.kept_nil _).append_left _)
      · simp only [Cursor.plug, List.reverse_cons, List.append_assoc, List.singleton_append]
        exact .refl _

theorem additionsDown_sameEdits (tokens : List α) (before after : Script α) :
    SameEdits ((additionsDown tokens before after).plug .added)
      (before.reverse ++ .added tokens :: after) := by
  induction after generalizing tokens before with
  | nil => exact .refl _
  | cons r after ih =>
    cases r with
    | removed ts =>
      refine (ih tokens (.removed ts :: before)).trans ?_
      constructor <;> simp [Run.oldSide, Run.newSide, Run.cost, Nat.add_left_comm]
    | added ts =>
      refine (ih (tokens ++ ts) before).trans ?_
      constructor <;> simp [Run.oldSide, Run.newSide, Run.cost, Nat.add_assoc]
    | kept ts =>
      have hpass := (passDown_sameEdits ts tokens before).append_right after
      simp only [List.append_assoc, List.cons_append, List.nil_append] at hpass
      refine SameEdits.trans ?_ hpass
      rw [additionsDown]
      dsimp only
      split
      · next hleft =>
        rw [List.isEmpty_iff.mp hleft]
        refine (ih _ _).trans (SameEdits.append_left _ ?_)
        constructor <;> simp [Run.oldSide, Run.newSide, Run.cost]
      · exact .refl _

theorem compactAdditions_sameEdits (fuel : Nat) (before after : Script α) :
    SameEdits (compactAdditions fuel before after) (before.reverse ++ after) := by
  fun_induction compactAdditions fuel before after with
  | case1 => exact .refl _
  | case2 => simpa using .refl _
  | case3 fuel before ts after up down ih =>
    have hup := additionsUp_sameEdits ts after before
    have hdown := additionsDown_sameEdits up.tokens up.before up.after
    rw [List.reverse_cons, List.append_assoc] at ih
    exact ih.trans (hdown.trans hup)
  | case4 fuel before r after hr ih => simpa using ih

theorem compact_sameEdits (s : Script α) : SameEdits (compact s) s :=
  (compactAdditions_sameEdits _ [] _).trans (compactRemovals_sameEdits _ [] s)

end ReleasePreview.LineDiff
