import ReleasePreview.CommandLine.Failure
import ReleasePreview.Proofs.Text.Split

/-!
What is written of an input that cannot be used. The first line names the input, and the cause
stands below it, all of its lines behind a margin.
-/
namespace ReleasePreview.CommandLine

/-- A text with each of its lines behind a margin. -/
def Margined (text said : String) : Prop :=
  ∃ ls : List String, ls ≠ [] ∧ (∀ l ∈ ls, '\n' ∉ l.toList) ∧ text = "\n".intercalate ls ∧
    said = "\n".intercalate (ls.map ("    " ++ ·))

namespace Failure

/-- What is written of an input that cannot be read or decoded. -/
inductive Tells : Failure → String → Prop
  | notRead (path : String) (why : FileError) : Tells (.notRead path why)
      ("Error: failed to read " ++ path ++ "\n\nCaused by:\n    " ++ why.message ++ "\n")
  | notDecoded (path : String) (why : Json.DecodeError) {cause : String}
      (hcause : Margined why.message cause) : Tells (.notDecoded path why)
        ("Error: failed to decode docs from " ++ path ++ "\n\nCaused by:\n" ++ cause ++ "\n")
  | inputNotRead (why : FileError) : Tells (.inputNotRead why)
      ("Error: failed to read diff report from stdin\n\nCaused by:\n    " ++ why.message ++ "\n")

section Margin

/-- A margin between the lines, and in front of the first one, is one in front of each. -/
theorem append_intercalate (separator margin : String) {ls : List String} (h : ls ≠ []) :
    margin ++ (separator ++ margin).intercalate ls =
      separator.intercalate (ls.map (margin ++ ·)) := by
  induction ls with
  | nil => contradiction
  | cons l ls ih =>
    cases ls with
    | nil => simp
    | cons l' ls =>
      rw [String.intercalate_cons_cons, List.map_cons, List.map_cons, String.intercalate_cons_cons,
        ← List.map_cons, ← ih (List.cons_ne_nil l' ls)]
      simp only [String.append_assoc]

theorem margined_indented (text : String) : Margined text (indented "    " "    " text) := by
  refine ⟨(Text.split '\n' text.toList).map String.ofList, ?_, ?_, ?_, ?_⟩
  · simpa using Text.split_ne_nil '\n' text.toList
  · intro l hl
    obtain ⟨part, hpart, rfl⟩ := List.mem_map.mp hl
    rw [String.toList_ofList]
    exact Text.not_mem_of_mem_split hpart
  · refine String.toList_inj.mp ?_
    rw [String.toList_intercalate, List.map_map]
    simpa [Function.comp_def] using (Text.intercalate_split '\n' text.toList).symm
  · exact append_intercalate "\n" "    " (by simpa using Text.split_ne_nil '\n' text.toList)

theorem indented_of_line (first rest : String) {line : String} (h : '\n' ∉ line.toList) :
    indented first rest line = first ++ line := by
  rw [indented, Text.split_of_not_mem h]
  simp

end Margin

theorem newline_notMem_message (why : FileError) : '\n' ∉ why.message.toList := by
  cases why <;> decide +kernel

variable {f : Failure} {cause : String}

theorem text_of_cause (h : f.causes = [cause]) : f.text =
    "Error: " ++ f.message ++ "\n\nCaused by:\n" ++ indented "    " "    " cause ++ "\n" := by
  rw [text, h, causesText]
  simp only [String.append_assoc]

theorem text_of_line (h : f.causes = [cause]) (hcause : '\n' ∉ cause.toList) :
    f.text = "Error: " ++ f.message ++ "\n\nCaused by:\n    " ++ cause ++ "\n" := by
  have hmargin : "\n\nCaused by:\n" ++ "    " = "\n\nCaused by:\n    " := rfl
  rw [text_of_cause h, indented_of_line _ _ hcause, ← hmargin]
  simp only [String.append_assoc]

theorem tells_notRead (path : String) (why : FileError) :
    Tells (.notRead path why) (text (.notRead path why)) := by
  have hfirst : message (.notRead path why) = "failed to read " ++ path := rfl
  have hline : "Error: " ++ "failed to read " = "Error: failed to read " := rfl
  rw [text_of_line (f := .notRead path why) rfl (newline_notMem_message why), hfirst,
    ← String.append_assoc, hline]
  exact .notRead path why

theorem tells_notDecoded (path : String) (why : Json.DecodeError) :
    Tells (.notDecoded path why) (text (.notDecoded path why)) := by
  have hfirst : message (.notDecoded path why) = "failed to decode docs from " ++ path := rfl
  have hline : "Error: " ++ "failed to decode docs from " = "Error: failed to decode docs from " :=
    rfl
  rw [text_of_cause (f := .notDecoded path why) rfl, hfirst, ← String.append_assoc, hline]
  exact .notDecoded path why (margined_indented why.message)

theorem tells_inputNotRead (why : FileError) :
    Tells (.inputNotRead why) (text (.inputNotRead why)) := by
  have hfirst : message (.inputNotRead why) = "failed to read diff report from stdin" := rfl
  have hline : "Error: " ++ "failed to read diff report from stdin" ++ "\n\nCaused by:\n    " =
      "Error: failed to read diff report from stdin\n\nCaused by:\n    " := rfl
  rw [text_of_line (f := .inputNotRead why) rfl (newline_notMem_message why), hfirst, hline]
  exact .inputNotRead why

end Failure

end ReleasePreview.CommandLine
