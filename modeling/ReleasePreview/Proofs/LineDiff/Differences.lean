import ReleasePreview.Proofs.LineDiff.Classification

/-!
A line diff is there exactly if the texts differ. It shows where they do, and it keeps as many lines
as any order-preserving alignment of the two texts.
-/
namespace ReleasePreview

open LineDiff

namespace LineDiff

variable {α : Type}

/-- The tokens of one side are its own edits and the kept ones. -/
theorem length_without_eq (kind other : LineKind) (hkind : kind ≠ .context)
    (hother : other ≠ .context) (hne : other ≠ kind) (ts : List (LineKind × α)) :
    (without kind ts).length =
      ts.countP (fun t => t.1 = other) + ts.countP (fun t => t.1 = .context) := by
  have hone : ∀ tag : LineKind, (if tag ≠ kind then 1 else 0) =
      (if tag = other then 1 else 0) + if tag = .context then 1 else 0 := by
    intro tag
    cases tag <;> cases kind <;> cases other <;> simp_all
  rw [without, List.length_map, ← List.countP_eq_length_filter]
  induction ts with
  | nil => rfl
  | cons t ts ih =>
    have ht := hone t.1
    simp only [List.countP_cons, decide_eq_true_eq] at ih ⊢
    omega

theorem length_without (ts : List (LineKind × α)) :
    (without .added ts).length + (without .removed ts).length =
      ts.countP (fun t => t.1 ≠ .context) + 2 * ts.countP (fun t => t.1 = .context) := by
  have hedits : ts.countP (fun t => t.1 ≠ .context) =
      ts.countP (fun t => t.1 = .removed) + ts.countP (fun t => t.1 = .added) := by
    induction ts with
    | nil => rfl
    | cons t ts ih =>
      obtain ⟨kind, a⟩ := t
      simp only [List.countP_cons, ih]
      cases kind <;> simp <;> omega
  rw [length_without_eq .added .removed (by decide) (by decide) (by decide),
    length_without_eq .removed .added (by decide) (by decide) (by decide), hedits]
  omega

/-- Between texts of equally many tokens, one kind of edit does not come without the other. -/
theorem exists_removed_and_added {ts : List (LineKind × α)}
    (hlen : (without .added ts).length = (without .removed ts).length)
    (hedit : ∃ t ∈ ts, t.1 ≠ .context) :
    (∃ t ∈ ts, t.1 = .removed) ∧ ∃ t ∈ ts, t.1 = .added := by
  rw [length_without_eq .added .removed (by decide) (by decide) (by decide),
    length_without_eq .removed .added (by decide) (by decide) (by decide)] at hlen
  have hcount : ts.countP (fun t => t.1 = .removed) = ts.countP (fun t => t.1 = .added) := by omega
  have hiff : (∃ t ∈ ts, t.1 = .removed) ↔ ∃ t ∈ ts, t.1 = .added := by
    simpa only [List.countP_pos_iff, decide_eq_true_eq] using (by rw [hcount] :
      0 < ts.countP (fun t => t.1 = .removed) ↔ 0 < ts.countP (fun t => t.1 = .added))
  obtain ⟨t, ht, hkind⟩ := hedit
  cases hk : t.1 with
  | context => exact absurd hk hkind
  | removed => exact ⟨⟨t, ht, hk⟩, hiff.mp ⟨t, ht, hk⟩⟩
  | added => exact ⟨hiff.mpr ⟨t, ht, hk⟩, ⟨t, ht, hk⟩⟩

/-- The kept tokens are on either side, in order. -/
theorem context_sublist {kind : LineKind} (h : kind ≠ .context) (ts : List (LineKind × α)) :
    ((ts.filter fun t => t.1 = .context).map (·.2)).Sublist (without kind ts) := by
  have hboth : (ts.filter fun t => t.1 = .context) =
      (ts.filter fun t => t.1 ≠ kind).filter fun t => t.1 = .context := by
    rw [List.filter_filter]
    refine List.filter_congr fun t _ => ?_
    by_cases ht : t.1 = .context
    · simp [ht, h.symm]
    · simp [ht]
  rw [hboth]
  exact List.filter_sublist.map _

end LineDiff

/-- There is no line diff exactly if the texts are the same, every terminator included. Otherwise a
line is removed or added, and where the texts show the same lines, some are removed and some added.
-/
theorem lineDiff_tells_apart (old new : String) :
    (lineDiff old new = none ↔ old = new) ∧
    ∀ lines, lineDiff old new = some lines →
      (∃ line ∈ lines, line.kind = .removed ∨ line.kind = .added) ∧
      ((Text.pieces old.toList).map Text.bare = (Text.pieces new.toList).map Text.bare →
        (∃ line ∈ lines, line.kind = .removed) ∧ ∃ line ∈ lines, line.kind = .added) := by
  refine ⟨lineDiff_eq_none_iff, fun lines h => ?_⟩
  obtain ⟨hcost, rfl⟩ := lineDiff_eq_some_iff.mp h
  have hedit : ∃ t ∈ classifiedPieces old.toList new.toList, t.1 ≠ .context := by
    rw [← countP_classifiedPieces, ← Nat.pos_iff_ne_zero, List.countP_pos_iff] at hcost
    simpa only [decide_eq_true_eq] using hcost
  simp only [List.mem_map, exists_exists_and_eq_and]
  constructor
  · obtain ⟨t, ht, hkind⟩ := hedit
    refine ⟨t, ht, ?_⟩
    cases hk : t.1 with
    | context => exact absurd hk hkind
    | removed => exact .inl rfl
    | added => exact .inr rfl
  · intro hshown
    refine exists_removed_and_added ?_ hedit
    have hlen := congrArg List.length hshown
    rwa [List.length_map, List.length_map, ← without_added_classifiedPieces old.toList new.toList,
      ← without_removed_classifiedPieces old.toList new.toList] at hlen

theorem lineDiff_tells_apart_terminators :
    lineDiff "a\nb" "a\r\nb" = some [⟨.removed, "a"⟩, ⟨.added, "a"⟩, ⟨.context, "b"⟩] ∧
      (∃ line ∈ ([⟨.removed, "a"⟩, ⟨.added, "a"⟩, ⟨.context, "b"⟩] : List DiffLine),
        line.kind = .removed) ∧
      ∃ line ∈ ([⟨.removed, "a"⟩, ⟨.added, "a"⟩, ⟨.context, "b"⟩] : List DiffLine),
        line.kind = .added := by
  have h : lineDiff "a\nb" "a\r\nb" =
      some [⟨.removed, "a"⟩, ⟨.added, "a"⟩, ⟨.context, "b"⟩] := by decide +kernel
  exact ⟨h, ((lineDiff_tells_apart _ _).2 _ h).2 (by decide +kernel)⟩

/-- The edited lines are the tokens that a longest common subsequence leaves over, and the context
lines stand for such a subsequence. -/
theorem lineDiff_minimal {old new : String} {lines : List DiffLine}
    (h : lineDiff old new = some lines) :
    ∃ common, IsLongestCommon common (Text.pieces old.toList) (Text.pieces new.toList) ∧
      lines.countP (fun l => l.kind ≠ .context) + 2 * common.length =
        (Text.pieces old.toList).length + (Text.pieces new.toList).length ∧
      lines.countP (fun l => l.kind = .context) = common.length := by
  obtain ⟨-, rfl⟩ := lineDiff_eq_some_iff.mp h
  have hlen := length_without (classifiedPieces old.toList new.toList)
  have hedits := countP_classifiedPieces old.toList new.toList
  rw [without_added_classifiedPieces, without_removed_classifiedPieces] at hlen
  have hcommon : ((((classifiedPieces old.toList new.toList).filter fun t =>
      t.1 = .context).map (·.2)).length) =
      (classifiedPieces old.toList new.toList).countP fun t => t.1 = .context := by
    rw [List.length_map, List.countP_eq_length_filter]
  refine ⟨((classifiedPieces old.toList new.toList).filter fun t => t.1 = .context).map (·.2),
    ⟨?_, ?_, ?_⟩, ?_, ?_⟩
  · rw [← without_added_classifiedPieces old.toList new.toList]
    exact context_sublist (by decide) _
  · rw [← without_removed_classifiedPieces old.toList new.toList]
    exact context_sublist (by decide) _
  · intro c ho hn
    have hcost := cost_align_le (.of_sublist ho hn)
    have hol := ho.length_le
    have hnl := hn.length_le
    omega
  · rw [List.countP_map, hcommon]
    exact hlen.symm
  · rw [List.countP_map, hcommon]
    rfl

theorem lineDiff_minimal_moved_line :
    lineDiff "a\nb\nc\n" "b\nc\na\n" =
        some [⟨.removed, "a"⟩, ⟨.context, "b"⟩, ⟨.context, "c"⟩, ⟨.added, "a"⟩] ∧
      ∃ common, IsLongestCommon common (Text.pieces "a\nb\nc\n".toList)
          (Text.pieces "b\nc\na\n".toList) ∧
        2 + 2 * common.length = 6 ∧ 2 = common.length :=
  ⟨by decide +kernel, lineDiff_minimal (by decide +kernel : lineDiff _ _ =
    some [⟨.removed, "a"⟩, ⟨.context, "b"⟩, ⟨.context, "c"⟩, ⟨.added, "a"⟩])⟩

end ReleasePreview
