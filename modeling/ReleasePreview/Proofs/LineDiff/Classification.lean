import ReleasePreview.LineDiff.Basic
import ReleasePreview.Proofs.LineDiff.Alignment
import ReleasePreview.Proofs.LineDiff.Compaction
import ReleasePreview.Proofs.Text.Lines

/-! Classified tokens hold both texts of a script in order, whatever waits for the next kept one. -/
namespace ReleasePreview
namespace LineDiff

variable {α : Type}

/-- The tokens of all kinds but one. -/
def without (kind : LineKind) (ts : List (LineKind × α)) : List α :=
  (ts.filter fun t => t.1 ≠ kind).map (·.2)

@[simp] theorem without_append (kind : LineKind) (ts us : List (LineKind × α)) :
    without kind (ts ++ us) = without kind ts ++ without kind us := by
  simp [without]

@[simp] theorem without_map_same (kind : LineKind) (ts : List α) :
    without kind (ts.map (kind, ·)) = [] := by
  simp [without, List.filter_eq_nil_iff]

theorem without_map_other {kind other : LineKind} (h : other ≠ kind) (ts : List α) :
    without kind (ts.map (other, ·)) = ts := by
  have hall : (ts.map (other, ·)).filter (fun t => t.1 ≠ kind) = ts.map (other, ·) := by
    simp [List.filter_eq_self, h]
  rw [without, hall, List.map_map]
  exact List.map_id ts

theorem Script.oldText_eq_newText {s : Script α} (h : s.cost = 0) : s.oldText = s.newText := by
  induction s with
  | nil => rfl
  | cons r s ih =>
    rw [Script.cost_cons, Nat.add_eq_zero_iff] at h
    rw [Script.oldText_cons, Script.newText_cons, ih h.2]
    cases r with
    | kept ts => rfl
    | removed ts => rw [Run.oldSide, Run.newSide, List.length_eq_zero_iff.mp h.1]
    | added ts => rw [Run.oldSide, Run.newSide, List.length_eq_zero_iff.mp h.1]

theorem without_added_classify (waiting : List α) (s : Script α) :
    without .added (classify waiting s) = s.oldText := by
  fun_induction classify waiting s with
  | case1 => simp
  | case2 waiting ts s ih => simp [without_map_other, ih, Run.oldSide]
  | case3 waiting ts s ih => simp [without_map_other, ih, Run.oldSide]
  | case4 waiting ts s ih => simp [ih, Run.oldSide]

theorem without_removed_classify (waiting : List α) (s : Script α) :
    without .removed (classify waiting s) = waiting ++ s.newText := by
  fun_induction classify waiting s with
  | case1 => simp [without_map_other]
  | case2 waiting ts s ih => simp [without_map_other, ih, Run.newSide]
  | case3 waiting ts s ih => simp [ih, Run.newSide]
  | case4 waiting ts s ih => simp [ih, Run.newSide]

/-- Every edit of a script is classified as removed or added, and nothing else is. -/
theorem countP_classify (waiting : List α) (s : Script α) :
    (classify waiting s).countP (fun t => t.1 ≠ .context) = waiting.length + s.cost := by
  have hedits : ∀ (kind : LineKind) (ts : List α), kind ≠ .context →
      (ts.map (kind, ·)).countP (fun t => t.1 ≠ .context) = ts.length := by
    intro kind ts hk
    rw [List.countP_eq_length.mpr (by simp [hk]), List.length_map]
  have hkept : ∀ ts : List α,
      (ts.map (LineKind.context, ·)).countP (fun t => t.1 ≠ .context) = 0 := by
    intro ts
    simp [List.countP_eq_zero]
  fun_induction classify waiting s with
  | case1 waiting => simp
  | case2 waiting ts s ih =>
    rw [List.countP_append, List.countP_append, hedits _ _ (by decide), hkept, ih]
    simp [Run.cost]
  | case3 waiting ts s ih =>
    rw [List.countP_append, hedits _ _ (by decide), ih]
    simp only [Script.cost_cons, Run.cost]
    omega
  | case4 waiting ts s ih =>
    rw [ih, List.length_append]
    simp only [Script.cost_cons, Run.cost]
    omega

theorem without_added_classifiedPieces (old new : List Char) :
    without .added (classifiedPieces old new) = Text.pieces old := by
  rw [classifiedPieces, without_added_classify, (compact_sameEdits _).oldText, (align_text _ _).1]

theorem without_removed_classifiedPieces (old new : List Char) :
    without .removed (classifiedPieces old new) = Text.pieces new := by
  rw [classifiedPieces, without_removed_classify, List.nil_append, (compact_sameEdits _).newText,
    (align_text _ _).2]

theorem countP_classifiedPieces (old new : List Char) :
    (classifiedPieces old new).countP (fun t => t.1 ≠ .context) =
      (align (Text.pieces old) (Text.pieces new)).cost := by
  rw [classifiedPieces, countP_classify, List.length_nil, Nat.zero_add, (compact_sameEdits _).cost]

end LineDiff

open LineDiff

theorem lineDiff_eq_some_iff {old new : String} {lines : List DiffLine} :
    lineDiff old new = some lines ↔
      (align (Text.pieces old.toList) (Text.pieces new.toList)).cost ≠ 0 ∧
        (classifiedPieces old.toList new.toList).map
          (fun p => ⟨p.1, String.ofList (Text.bare p.2)⟩) = lines := by
  rw [lineDiff, ← countP_classifiedPieces, ← Nat.pos_iff_ne_zero, List.countP_pos_iff]
  simp only [Option.ite_none_right_eq_some, List.any_eq_true, bne_iff_ne, decide_eq_true_eq,
    Option.some.injEq]

/-- No line is removed or added exactly if the texts are the same, terminators included. -/
theorem lineDiff_eq_none_iff {old new : String} : lineDiff old new = none ↔ old = new := by
  have hcost : lineDiff old new = none ↔
      (align (Text.pieces old.toList) (Text.pieces new.toList)).cost = 0 := by
    rw [Option.eq_none_iff_forall_ne_some]
    simp only [ne_eq, lineDiff_eq_some_iff, not_and]
    exact ⟨fun h => by_contra fun hne => h _ hne rfl, fun h _ hne => absurd h hne⟩
  rw [hcost]
  constructor
  · intro h
    obtain ⟨ho, hn⟩ := align_text (Text.pieces old.toList) (Text.pieces new.toList)
    have hsame := Script.oldText_eq_newText h
    rw [ho, hn] at hsame
    exact String.toList_injective (Text.pieces_injective hsame)
  · rintro rfl
    exact Nat.le_zero.mp (cost_align_le (.refl _))

end ReleasePreview
