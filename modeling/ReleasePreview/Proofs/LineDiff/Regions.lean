import Mathlib.Data.List.Chain
import ReleasePreview.Proofs.LineDiff.Classification

/-!
The changed regions of a line diff. Additions wait for the next kept token, so between two stretches
of context all removals stand before all additions, in whatever order a script has them.
-/
namespace ReleasePreview
namespace LineDiff

variable {α : Type}

section Kept

variable {ts : List α} {s : Script α}

/-! No script that is made here has an empty run of kept tokens, which would let additions go
without a line of context behind them. -/

theorem kept_nil_notMem_keep (ts : List α) : .kept [] ∉ keep ts := by
  cases ts <;> simp [keep]

theorem kept_nil_notMem_alignWithin [DecidableEq α] (fuel : Nat) (old new : List α) :
    .kept [] ∉ alignWithin fuel old new := by
  induction fuel generalizing old new with
  | zero => simp [alignWithin]
  | succ fuel ih =>
    rw [alignWithin]
    simp only [List.mem_append, not_or]
    refine ⟨⟨kept_nil_notMem_keep _, ?_⟩, kept_nil_notMem_keep _⟩
    split
    · simp
    · simp
    · simp
    · split
      · simp [ih]
      · simp

theorem kept_nil_notMem_keepBefore (h : .kept [] ∉ s) : .kept [] ∉ keepBefore ts s := by
  unfold keepBefore
  split
  · simp_all
  · split <;> simp_all

theorem kept_nil_notMem_keepAfter (h : .kept [] ∉ s) : .kept [] ∉ keepAfter ts s := by
  unfold keepAfter
  split
  · simp_all
  · split <;> simp_all

/-- Neither part of the script around a cursor has an empty run of kept tokens. -/
structure Cursor.KeepsSome (c : Cursor α) : Prop where
  before : .kept [] ∉ c.before
  after : .kept [] ∉ c.after

theorem removalsUp_keepsSome (tokens : List α) {before after : Script α}
    (hbefore : .kept [] ∉ before) (hafter : .kept [] ∉ after) :
    (removalsUp tokens after before).KeepsSome := by
  fun_induction removalsUp tokens after before with
  | case1 tokens after ts before ih => exact ih (by simp_all) hafter
  | case2 tokens after ts before ih => exact ih (by simp_all) (by simp_all)
  | case3 => exact ⟨hbefore, hafter⟩

theorem removalsDown_keepsSome (tokens : List α) {before after : Script α}
    (hbefore : .kept [] ∉ before) (hafter : .kept [] ∉ after) :
    (removalsDown tokens before after).KeepsSome := by
  fun_induction removalsDown tokens before after with
  | case1 tokens before ts after ih => exact ih hbefore (by simp_all)
  | case2 tokens before ts after ih => exact ih (by simp_all) (by simp_all)
  | case3 => exact ⟨hbefore, hafter⟩

theorem additionsUp_keepsSome [DecidableEq α] (tokens : List α) {before after : Script α}
    (hbefore : .kept [] ∉ before) (hafter : .kept [] ∉ after) :
    (additionsUp tokens after before).KeepsSome := by
  induction before generalizing tokens after with
  | nil => exact ⟨hbefore, hafter⟩
  | cons r before ih =>
    have hrest : .kept [] ∉ before := fun h => hbefore (List.mem_cons_of_mem r h)
    cases r with
    | removed ts => exact ih _ hrest (by simp_all)
    | added ts => exact ih _ hrest hafter
    | kept ts =>
      rw [additionsUp]
      dsimp only
      split
      · exact ih _ hrest (kept_nil_notMem_keepBefore hafter)
      · next hleft =>
        refine ⟨?_, kept_nil_notMem_keepBefore hafter⟩
        rw [List.isEmpty_iff] at hleft
        simp [hrest, hleft]

theorem additionsDown_keepsSome [DecidableEq α] (tokens : List α) {before after : Script α}
    (hbefore : .kept [] ∉ before) (hafter : .kept [] ∉ after) :
    (additionsDown tokens before after).KeepsSome := by
  induction after generalizing tokens before with
  | nil => exact ⟨hbefore, hafter⟩
  | cons r after ih =>
    have hrest : .kept [] ∉ after := fun h => hafter (List.mem_cons_of_mem r h)
    cases r with
    | removed ts => exact ih _ (by simp_all) hrest
    | added ts => exact ih _ hbefore hrest
    | kept ts =>
      rw [additionsDown]
      dsimp only
      split
      · exact ih _ (kept_nil_notMem_keepAfter hbefore) hrest
      · next hleft =>
        refine ⟨kept_nil_notMem_keepAfter hbefore, ?_⟩
        rw [List.isEmpty_iff] at hleft
        simp [hrest, hleft]

theorem kept_nil_notMem_compactRemovals (fuel : Nat) {before after : Script α}
    (hbefore : .kept [] ∉ before) (hafter : .kept [] ∉ after) :
    .kept [] ∉ compactRemovals fuel before after := by
  fun_induction compactRemovals fuel before after with
  | case1 => simp [hbefore, hafter]
  | case2 => simp [hbefore]
  | case3 fuel before ts after up down ih =>
    have hup := removalsUp_keepsSome ts hbefore (show .kept [] ∉ after by simp_all)
    have hdown := removalsDown_keepsSome up.tokens hup.before hup.after
    exact ih (by simpa using hdown.before) hdown.after
  | case4 fuel before r after hr ih => exact ih (by simp_all) (by simp_all)

theorem kept_nil_notMem_compactAdditions [DecidableEq α] (fuel : Nat) {before after : Script α}
    (hbefore : .kept [] ∉ before) (hafter : .kept [] ∉ after) :
    .kept [] ∉ compactAdditions fuel before after := by
  fun_induction compactAdditions fuel before after with
  | case1 => simp [hbefore, hafter]
  | case2 => simp [hbefore]
  | case3 fuel before ts after up down ih =>
    have hup := additionsUp_keepsSome ts hbefore (show .kept [] ∉ after by simp_all)
    have hdown := additionsDown_keepsSome up.tokens hup.before hup.after
    exact ih (by simpa using hdown.before) hdown.after
  | case4 fuel before r after hr ih => exact ih (by simp_all) (by simp_all)

theorem kept_nil_notMem_compact [DecidableEq α] (h : .kept [] ∉ s) : .kept [] ∉ compact s :=
  kept_nil_notMem_compactAdditions _ List.not_mem_nil
    (kept_nil_notMem_compactRemovals _ List.not_mem_nil h)

end Kept

section Order

/-- No removal follows an addition at once. -/
def Ordered (kinds : List LineKind) : Prop :=
  kinds.IsChain fun a b => ¬ (a = .added ∧ b = .removed)

theorem Ordered.replicate_append {kinds : List LineKind} (h : Ordered kinds) (kind : LineKind)
    (n : Nat) (hjoin : kind ≠ .added ∨ kinds.head? ≠ some .removed) :
    Ordered (List.replicate n kind ++ kinds) := by
  refine List.isChain_append.mpr ⟨List.isChain_replicate_of_rel n ?_, h, ?_⟩
  · rintro ⟨rfl, ⟨⟩⟩
  · rintro a hlast b hhead ⟨rfl, rfl⟩
    have hkind : LineKind.added = kind := List.eq_of_mem_replicate (List.mem_of_getLast? hlast)
    exact hjoin.elim (fun hnot => hnot hkind.symm) fun hnot => hnot hhead

/-- Additions wait for the next kept token, which stands between them and any later removal. -/
theorem ordered_classify (waiting : List α) {s : Script α} (h : .kept [] ∉ s) :
    Ordered ((classify waiting s).map (·.1)) := by
  have hkinds : ∀ (kind : LineKind) (ts : List α),
      (ts.map (kind, ·)).map (·.1) = List.replicate ts.length kind := by
    intro kind ts
    rw [List.map_map]
    exact List.map_const'
  fun_induction classify waiting s with
  | case1 waiting =>
    rw [hkinds, ← List.append_nil (List.replicate _ _)]
    exact Ordered.replicate_append .nil .added _ (.inr (by simp))
  | case2 waiting ts s ih =>
    obtain ⟨t, ts, rfl⟩ := List.exists_cons_of_ne_nil (show ts ≠ [] by rintro rfl; simp at h)
    have hrest := ih fun hs => h (List.mem_cons_of_mem _ hs)
    rw [List.map_append, List.map_append, hkinds, hkinds]
    apply Ordered.replicate_append
    · exact hrest.replicate_append .context _ (.inl (by decide))
    · simp [List.replicate_succ]
  | case3 waiting ts s ih =>
    have hrest := ih fun hs => h (List.mem_cons_of_mem _ hs)
    rw [List.map_append, hkinds]
    exact hrest.replicate_append .removed _ (.inl (by decide))
  | case4 waiting ts s ih => exact ih fun hs => h (List.mem_cons_of_mem _ hs)

/-- A run without context falls into removals and the additions behind them. -/
theorem Ordered.eq_replicate {kinds : List LineKind} (h : Ordered kinds)
    (hcontext : .context ∉ kinds) :
    ∃ m n, kinds = List.replicate m .removed ++ List.replicate n .added := by
  induction kinds with
  | nil => exact ⟨0, 0, rfl⟩
  | cons kind kinds ih =>
    obtain ⟨m, n, rfl⟩ := ih h.of_cons fun hmem => hcontext (List.mem_cons_of_mem _ hmem)
    cases kind with
    | context => exact absurd List.mem_cons_self hcontext
    | removed => exact ⟨m + 1, n, rfl⟩
    | added =>
      cases m with
      | zero => exact ⟨0, n + 1, rfl⟩
      | succ m => exact absurd ⟨rfl, rfl⟩ (List.isChain_cons_cons.mp h).1

/-- The kind before a removal is none of an addition, so going back from one there is a context
before any addition. -/
theorem Ordered.separated {kinds : List LineKind} (h : Ordered kinds) {i j : Nat} (hij : i < j)
    (hi : kinds[i]? = some .added) (hj : kinds[j]? = some .removed) :
    ∃ k, i < k ∧ k < j ∧ kinds[k]? = some .context := by
  induction j with
  | zero => omega
  | succ j ih =>
    obtain ⟨hlt, hremoved⟩ := List.getElem?_eq_some_iff.mp hj
    have hbefore : kinds[j]? = some kinds[j] := List.getElem?_eq_getElem (by omega)
    have hne : kinds[j] ≠ .added := fun hadded =>
      List.isChain_iff_getElem.mp h j hlt ⟨hadded, hremoved⟩
    have hij : i < j := by
      by_contra hle
      obtain rfl : i = j := by omega
      exact hne (Option.some.inj (hbefore.symm.trans hi))
    cases hkind : kinds[j] with
    | context => exact ⟨j, hij, Nat.lt_succ_self j, by rw [hbefore, hkind]⟩
    | added => exact absurd hkind hne
    | removed =>
      obtain ⟨k, hik, hkj, hcontext⟩ := ih hij (by rw [hbefore, hkind])
      exact ⟨k, hik, by omega, hcontext⟩

end Order

end LineDiff

open LineDiff

/-- An added line and a removed one behind it have a context line between them, and lines that
follow each other without one are removed lines first, then added ones. -/
structure RemovalsFirst (kinds : List LineKind) : Prop where
  separated : ∀ i j : Nat, i < j → kinds[i]? = some .added → kinds[j]? = some .removed →
    ∃ k : Nat, i < k ∧ k < j ∧ kinds[k]? = some .context
  region : ∀ before region after, kinds = before ++ region ++ after → .context ∉ region →
    ∃ m n, region = List.replicate m .removed ++ List.replicate n .added

/-- This holds along any script, in whatever order its removals and additions follow each other. -/
theorem removalsFirst_classify {α : Type} {s : Script α} (h : .kept [] ∉ s) :
    RemovalsFirst ((classify [] s).map (·.1)) := by
  have hordered := ordered_classify [] h
  refine ⟨fun _ _ hij hi hj => hordered.separated hij hi hj, ?_⟩
  intro before region after hkinds hcontext
  have hregion : Ordered region := hordered.infix ⟨before, after, hkinds.symm⟩
  exact hregion.eq_replicate hcontext

/-- Within every changed region of a line diff, at the ends of the texts as well, the removed lines
come before the added ones. -/
theorem lineDiff_removals_first {old new : String} {lines : List DiffLine}
    (h : lineDiff old new = some lines) : RemovalsFirst (lines.map (·.kind)) := by
  obtain ⟨-, rfl⟩ := lineDiff_eq_some_iff.mp h
  rw [List.map_map]
  apply removalsFirst_classify
  apply kept_nil_notMem_compact
  exact kept_nil_notMem_alignWithin _ _ _

theorem lineDiff_removals_first_both_ends :
    lineDiff "a\nk\nb" "x\nk\ny\nz" =
        some [⟨.removed, "a"⟩, ⟨.added, "x"⟩, ⟨.context, "k"⟩, ⟨.removed, "b"⟩, ⟨.added, "y"⟩,
          ⟨.added, "z"⟩] ∧
      RemovalsFirst [.removed, .added, .context, .removed, .added, .added] := by
  have h : lineDiff "a\nk\nb" "x\nk\ny\nz" = some [⟨.removed, "a"⟩, ⟨.added, "x"⟩, ⟨.context, "k"⟩,
      ⟨.removed, "b"⟩, ⟨.added, "y"⟩, ⟨.added, "z"⟩] := by decide +kernel
  exact ⟨h, lineDiff_removals_first h⟩

end ReleasePreview
