import Mathlib.Logic.Relation
import ReleasePreview.Proofs.Report.Completeness
import ReleasePreview.Proofs.Text.Split

/-!
Padding in the text of a report: blanks at the ends of lines, blank lines behind the first line, and
carriage returns before line feeds. None of it is seen, whatever the text says.
-/
namespace ReleasePreview.Report

open Text

/-- Blanks that stay on one line. -/
def IsPadding (blanks : String) : Prop := ∀ c ∈ blanks.toList, isBlank c ∧ c ≠ '\n'

instance (blanks : String) : Decidable (IsPadding blanks) :=
  List.decidableBAll (fun c => isBlank c ∧ c ≠ '\n') blanks.toList

/-- What stands behind a line: nothing, or a line feed, with a carriage return before it or without
one. -/
inductive EndsLine : String → Prop
  | text : EndsLine ""
  | lineFeed (after : String) : EndsLine ("\n" ++ after)
  | both (after : String) : EndsLine ("\r\n" ++ after)

/-- The second text has more padding than the first one at one place, or another line ending. -/
inductive Pads : String → String → Prop
  | trailing (before blanks : String) {after : String} (hblanks : IsPadding blanks)
      (hafter : EndsLine after) : Pads (before ++ after) (before ++ blanks ++ after)
  | blankLine (before blanks after : String) (hblanks : IsPadding blanks) :
      Pads (before ++ "\n" ++ after) (before ++ "\n" ++ blanks ++ "\n" ++ after)
  | lastLine (text blanks : String) (hblanks : IsPadding blanks) :
      Pads text (text ++ "\n" ++ blanks)
  | carriageReturn (before after : String) :
      Pads (before ++ "\n" ++ after) (before ++ "\r\n" ++ after)

section Lines

variable {back : List Char}

theorem announcement?_append_blank (h : ∀ c ∈ back, isBlank c) (line : List Char) :
    announcement? (line ++ back) = announcement? line := by
  rw [announcement?, trim_append_blank h, announcement?]

/-- The scan of a report in lines. -/
def scanLines? : List (List Char) → Option Scan
  | [] => none
  | first :: rest => (announcement? first).map fun m => rest.foldl Scan.step (.start m)

variable {before after : List (List Char)} {line line' : List Char}

/-- A line may give way to one that announces the same and does the same to every scan. -/
theorem scanLines?_replace (hfirst : announcement? line' = announcement? line)
    (hstep : ∀ s : Scan, s.step line' = s.step line) :
    scanLines? (before ++ line' :: after) = scanLines? (before ++ line :: after) := by
  cases before with
  | nil => rw [List.nil_append, List.nil_append, scanLines?, scanLines?, hfirst]
  | cons first before =>
    simp only [List.cons_append, scanLines?, List.foldl_append, List.foldl_cons, hstep]

theorem scanLines?_append_blank (h : ∀ c ∈ back, isBlank c) :
    scanLines? (before ++ (line ++ back) :: after) = scanLines? (before ++ line :: after) :=
  scanLines?_replace (announcement?_append_blank h line) fun s => s.step_append_blank h line

/-- A blank line behind the first one is passed over. -/
theorem scanLines?_insert (hbefore : before ≠ []) (hline : ∀ c ∈ line, isBlank c) :
    scanLines? (before ++ line :: after) = scanLines? (before ++ after) := by
  obtain ⟨first, rest, rfl⟩ := List.exists_cons_of_ne_nil hbefore
  simp only [List.cons_append, scanLines?, List.foldl_append, List.foldl_cons,
    Scan.step_of_blank _ hline]

end Lines

/-- An empty line behind the last line feed is not seen, nor are carriage returns that are left at
the ends of lines. -/
theorem Scan.foldl_step_split (s : Scan) (text : List Char) :
    (split '\n' text).foldl step s = (lines text).foldl step s := by
  have hparts : ∀ part ∈ split '\n' text, '\n' ∉ part := fun _ => not_mem_of_mem_split
  rw [← foldl_step_lines hparts, intercalate_split]

/-- So a report may be cut at its line feeds alone. -/
theorem scan?_eq_scanLines? (raw : List Char) : scan? raw = scanLines? (split '\n' raw) := by
  obtain ⟨first, rest, hsplit⟩ := List.exists_cons_of_ne_nil (split_ne_nil '\n' raw)
  have hparts : ∀ part ∈ first :: rest, '\n' ∉ part := hsplit ▸ fun _ => not_mem_of_mem_split
  obtain ⟨hfirst, hrest⟩ := List.forall_mem_cons.mp hparts
  have hraw : raw = ['\n'].intercalate (first :: rest) := by rw [← hsplit, intercalate_split]
  cases rest with
  | nil =>
    rw [hsplit, hraw, List.intercalate_singleton, scan?]
    by_cases hne : first = []
    · rw [hne]
      rfl
    · rw [← broken_iff.mp (.last hne hfirst)]
      rfl
  | cons part rest =>
    rw [List.intercalate_cons_cons, List.append_assoc, List.singleton_append] at hraw
    obtain ⟨line, hlines, hline⟩ := exists_lines_cut hfirst (['\n'].intercalate (part :: rest))
    have hannounced : announcement? first = announcement? line := by
      rcases hline with rfl | rfl
      · rfl
      · exact announcement?_append_blank isBlank_carriageReturn line
    rw [hsplit, hraw, scan?, hlines, scanLines?, hannounced]
    simp only [Scan.foldl_step_lines hrest]

section Texts

variable {blanks : List Char}

/-- Blanks before the end of a line, be it the end of the text too. -/
theorem scan?_append_blank (h : ∀ c ∈ blanks, isBlank c ∧ c ≠ '\n') (before : List Char)
    {after : List Char} (hafter : ∀ c, after.head? = some c → c = '\n') :
    scan? (before ++ (blanks ++ after)) = scan? (before ++ after) := by
  have hblank : ∀ c ∈ blanks, isBlank c := fun c hc => (h c hc).1
  have hline : '\n' ∉ blanks := fun hmem => (h _ hmem).2 rfl
  obtain ⟨parts, last, hbefore, hblanks⟩ := exists_split_append before hline
  rw [scan?_eq_scanLines?, scan?_eq_scanLines?]
  cases after with
  | nil => rw [List.append_nil, List.append_nil, hbefore, hblanks, scanLines?_append_blank hblank]
  | cons c after =>
    obtain rfl := hafter c rfl
    rw [← List.append_assoc, split_append_cons, split_append_cons, hbefore, hblanks,
      List.append_assoc, List.append_assoc, List.singleton_append, List.singleton_append,
      scanLines?_append_blank hblank]

/-- A blank line between two lines. -/
theorem scan?_blankLine (h : ∀ c ∈ blanks, isBlank c ∧ c ≠ '\n') (before after : List Char) :
    scan? (before ++ '\n' :: (blanks ++ '\n' :: after)) = scan? (before ++ '\n' :: after) := by
  have hline : '\n' ∉ blanks := fun hmem => (h _ hmem).2 rfl
  rw [scan?_eq_scanLines?, scan?_eq_scanLines?, split_append_cons, split_append hline,
    split_append_cons, scanLines?_insert (split_ne_nil _ _) fun c hc => (h c hc).1]

/-- A blank line at the end. -/
theorem scan?_lastLine (h : ∀ c ∈ blanks, isBlank c ∧ c ≠ '\n') (text : List Char) :
    scan? (text ++ '\n' :: blanks) = scan? text := by
  have hline : '\n' ∉ blanks := fun hmem => (h _ hmem).2 rfl
  rw [scan?_eq_scanLines?, scan?_eq_scanLines?, split_append_cons, split_of_not_mem hline,
    scanLines?_insert (split_ne_nil _ _) fun c hc => (h c hc).1, List.append_nil]

theorem scan?_carriageReturn (before after : List Char) :
    scan? (before ++ '\r' :: '\n' :: after) = scan? (before ++ '\n' :: after) := by
  have hreturn : ∀ c ∈ ['\r'], isBlank c ∧ c ≠ '\n' :=
    List.forall_mem_singleton.mpr ⟨by decide, by decide⟩
  exact scan?_append_blank hreturn before (by simp)

end Texts

/-- One piece of padding is not seen. -/
theorem parse?_of_pads {raw raw' : String} (h : Pads raw raw') : parse? raw = parse? raw' := by
  suffices hscan : scan? raw'.toList = scan? raw.toList by rw [parse?, parse?, hscan]
  cases h with
  | trailing before blanks hblanks hafter =>
    simp only [String.toList_append, List.append_assoc]
    cases hafter with
    | text => exact scan?_append_blank hblanks _ (by simp)
    | lineFeed after =>
      rw [String.toList_append]
      exact scan?_append_blank hblanks _ (by simp)
    | both after =>
      -- Without the carriage return it is the case before this one.
      rw [String.toList_append, ← List.append_assoc]
      calc scan? (before.toList ++ blanks.toList ++ '\r' :: '\n' :: after.toList)
          = scan? (before.toList ++ blanks.toList ++ '\n' :: after.toList) :=
            scan?_carriageReturn _ _
        _ = scan? (before.toList ++ '\n' :: after.toList) := by
            rw [List.append_assoc, scan?_append_blank hblanks _ (by simp)]
        _ = scan? (before.toList ++ '\r' :: '\n' :: after.toList) :=
            (scan?_carriageReturn _ _).symm
  | blankLine before blanks after hblanks =>
    simp only [String.toList_append, List.append_assoc]
    exact scan?_blankLine hblanks _ _
  | lastLine text blanks hblanks =>
    simp only [String.toList_append, List.append_assoc]
    exact scan?_lastLine hblanks _
  | carriageReturn before after =>
    simp only [String.toList_append, List.append_assoc]
    exact scan?_carriageReturn _ _

/-- Texts that differ in padding and line endings alone, at any number of places, are the same
report, or none of them is a report. -/
theorem parse?_of_padding {raw raw' : String} (h : Relation.EqvGen Pads raw raw') :
    parse? raw = parse? raw' := by
  induction h with
  | rel _ _ hpads => exact parse?_of_pads hpads
  | refl _ => rfl
  | symm _ _ _ ih => exact ih.symm
  | trans _ _ _ _ _ ih ih' => exact ih.trans ih'

/-- A carriage return less, and blanks and a blank line more. -/
theorem parse?_of_padding_mixed_endings :
    let raw := "This is a MAJOR change.\n---- A - MAJOR ----\nAdded:\r\nx : Int"
    let raw' := "This is a MAJOR change.\n \t\n---- A - MAJOR ----\u3000\nAdded:\nx : Int"
    let r : ApiReport := ⟨.major, [], [], [⟨"A", ["x"], [], []⟩]⟩
    Relation.EqvGen Pads raw raw' ∧ parse? raw = some r ∧ parse? raw = parse? raw' := by
  intro raw raw' r
  have hreturn : Pads "This is a MAJOR change.\n---- A - MAJOR ----\nAdded:\nx : Int" raw :=
    .carriageReturn "This is a MAJOR change.\n---- A - MAJOR ----\nAdded:" "x : Int"
  have hblank : Pads "This is a MAJOR change.\n---- A - MAJOR ----\nAdded:\nx : Int"
      "This is a MAJOR change.\n \t\n---- A - MAJOR ----\nAdded:\nx : Int" :=
    .blankLine "This is a MAJOR change." " \t" "---- A - MAJOR ----\nAdded:\nx : Int" (by decide)
  have htrailing : Pads "This is a MAJOR change.\n \t\n---- A - MAJOR ----\nAdded:\nx : Int"
      raw' :=
    .trailing "This is a MAJOR change.\n \t\n---- A - MAJOR ----" "\u3000" (by decide)
      (.lineFeed "Added:\nx : Int")
  have hpadding : Relation.EqvGen Pads raw raw' :=
    .trans _ _ _ (.symm _ _ (.rel _ _ hreturn))
      (.trans _ _ _ (.rel _ _ hblank) (.rel _ _ htrailing))
  exact ⟨hpadding, by decide +kernel, parse?_of_padding hpadding⟩

end ReleasePreview.Report
