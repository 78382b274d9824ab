import Mathlib.Data.List.Forall2
import ReleasePreview.Proofs.LineDiff.Classification

/-! The tokens of both texts can be read off a line diff, each in its place. -/
namespace ReleasePreview

open LineDiff

/-- The tokens that stand beside lines of all kinds but one. -/
def tokensWithout (kind : LineKind) (lines : List DiffLine) (raw : List (List Char)) :
    List (List Char) :=
  ((lines.zip raw).filter fun p => p.1.kind ≠ kind).map (·.2)

/-- Every line stands for a token. The tokens of context and removed lines are those of the old
text, the tokens of context and added lines are those of the new text, and a context line stands
for one of either. -/
structure StandsFor (old new : String) (lines : List DiffLine) (raw : List (List Char)) : Prop where
  texts : List.Forall₂ (fun line token => Text.Strips token line.text.toList) lines raw
  oldTokens : ∀ ts, Text.Tokens old.toList ts ↔ ts = tokensWithout .added lines raw
  oldText : (tokensWithout .added lines raw).flatten = old.toList
  newTokens : ∀ ts, Text.Tokens new.toList ts ↔ ts = tokensWithout .removed lines raw
  newText : (tokensWithout .removed lines raw).flatten = new.toList
  context : ∀ (i : Nat) (line : DiffLine) (token : List Char), lines[i]? = some line →
    raw[i]? = some token → line.kind = .context →
    (tokensWithout .added lines raw)[(lines.take i).countP fun l => l.kind ≠ .added]? =
        some token ∧
      (tokensWithout .removed lines raw)[(lines.take i).countP fun l => l.kind ≠ .removed]? =
        some token

private theorem getElem?_filter_countP {α : Type} {l : List α} {p : α → Bool} {i : Nat} {a : α}
    (h : l[i]? = some a) (ha : p a) : (l.filter p)[(l.take i).countP p]? = some a := by
  induction l generalizing i with
  | nil => simp at h
  | cons b l ih =>
    cases i with
    | zero =>
      obtain rfl := Option.some.inj h
      simp [ha]
    | succ i =>
      have ih' := ih h
      rw [List.filter_cons, List.take_succ_cons, List.countP_cons]
      split
      · simpa using ih'
      · simpa using ih'

section Pieces

variable (ps : List (LineKind × List Char)) (show' : LineKind × List Char → DiffLine)
  (hshow : ∀ p, (show' p).kind = p.1)
include hshow

private theorem tokensWithout_map (kind : LineKind) :
    tokensWithout kind (ps.map show') (ps.map (·.2)) = without kind ps := by
  rw [tokensWithout, without, List.zip_map', List.filter_map, List.map_map]
  simp only [Function.comp_def, hshow]

/-- A token is found behind as many tokens of its side as there are lines of that side before. -/
private theorem getElem?_without {kind : LineKind} {i : Nat} {p : LineKind × List Char}
    (h : ps[i]? = some p) (hp : p.1 ≠ kind) :
    (without kind ps)[((ps.map show').take i).countP fun l => l.kind ≠ kind]? = some p.2 := by
  have hplace := getElem?_filter_countP (p := fun t => t.1 ≠ kind) h (by simpa using hp)
  rw [← List.map_take, List.countP_map, without, List.getElem?_map]
  simp only [Function.comp_def, hshow]
  rw [hplace]
  rfl

end Pieces

/-- The tokens of both texts are in a line diff, each once, in order and on its own side. -/
theorem lineDiff_lossless {old new : String} {lines : List DiffLine}
    (h : lineDiff old new = some lines) : ∃ raw, StandsFor old new lines raw := by
  obtain ⟨-, rfl⟩ := lineDiff_eq_some_iff.mp h
  have hside := tokensWithout_map (classifiedPieces old.toList new.toList)
    (fun p => ⟨p.1, String.ofList (Text.bare p.2)⟩) fun _ => rfl
  refine ⟨(classifiedPieces old.toList new.toList).map (·.2), ?_, ?_, ?_, ?_, ?_, ?_⟩
  · rw [List.forall₂_map_left_iff, List.forall₂_map_right_iff, List.forall₂_same]
    intro p _
    rw [String.toList_ofList]
    exact Text.strips_bare p.2
  · intro ts
    rw [hside, without_added_classifiedPieces, Text.tokens_iff]
  · rw [hside, without_added_classifiedPieces, Text.flatten_pieces]
  · intro ts
    rw [hside, without_removed_classifiedPieces, Text.tokens_iff]
  · rw [hside, without_removed_classifiedPieces, Text.flatten_pieces]
  · intro i line token hline htoken hcontext
    rw [List.getElem?_map, Option.map_eq_some_iff] at hline htoken
    obtain ⟨p, hp, rfl⟩ := hline
    obtain ⟨p', hp', rfl⟩ := htoken
    obtain rfl := Option.some.inj (hp.symm.trans hp')
    have hkind : p.1 = .context := hcontext
    rw [hside, hside]
    exact ⟨getElem?_without _ _ (fun _ => rfl) hp (by rw [hkind]; decide),
      getElem?_without _ _ (fun _ => rfl) hp (by rw [hkind]; decide)⟩

theorem lineDiff_lossless_mixed_terminators :
    lineDiff "a\r\nb" "a\r\nc\r" = some [⟨.context, "a"⟩, ⟨.removed, "b"⟩, ⟨.added, "c\r"⟩] ∧
      ∃ raw, StandsFor "a\r\nb" "a\r\nc\r"
        [⟨.context, "a"⟩, ⟨.removed, "b"⟩, ⟨.added, "c\r"⟩] raw :=
  ⟨by decide +kernel, lineDiff_lossless (by decide +kernel)⟩

end ReleasePreview
