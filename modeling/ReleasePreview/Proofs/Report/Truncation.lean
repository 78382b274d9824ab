import ReleasePreview.Proofs.Report.Padding

/-!
A report that was cut off at a line feed. Every line adds at the end of one list at most, so what
was read from the lines before the cut keeps its place when the rest is read too.
-/
namespace ReleasePreview

open Report

/-- The same module with more symbols, each list going on where it ended. -/
structure ModuleReport.Extends (m m' : ModuleReport) : Prop where
  name : m'.name = m.name
  added : m.added <+: m'.added
  changed : m.changed <+: m'.changed
  removed : m.removed <+: m'.removed

/-- The same report with more in it: no entry moves, and no record does. -/
structure ApiReport.Extends (r r' : ApiReport) : Prop where
  magnitude : r'.magnitude = r.magnitude
  addedModules : r.addedModules <+: r'.addedModules
  removedModules : r.removedModules <+: r'.removedModules
  changedModules : ∀ (i : Nat) (m : ModuleReport), r.changedModules[i]? = some m →
    ∃ m', r'.changedModules[i]? = some m' ∧ m.Extends m'

namespace ModuleReport

variable {m m' m'' : ModuleReport}

theorem Extends.refl (m : ModuleReport) : m.Extends m :=
  ⟨rfl, List.prefix_refl _, List.prefix_refl _, List.prefix_refl _⟩

theorem Extends.trans (h : m.Extends m') (h' : m'.Extends m'') : m.Extends m'' where
  name := h'.name.trans h.name
  added := h.added.trans h'.added
  changed := h.changed.trans h'.changed
  removed := h.removed.trans h'.removed

theorem extends_record (m : ModuleReport) (kind : ChangeKind) (symbol : String) :
    m.Extends (m.record kind symbol) := by
  unfold record
  split
  · exact .refl m
  · cases kind with
    | added => exact ⟨rfl, List.prefix_append _ _, List.prefix_refl _, List.prefix_refl _⟩
    | changed => exact ⟨rfl, List.prefix_refl _, List.prefix_append _ _, List.prefix_refl _⟩
    | removed => exact ⟨rfl, List.prefix_refl _, List.prefix_refl _, List.prefix_append _ _⟩

end ModuleReport

namespace ApiReport

variable {r r' r'' : ApiReport}

theorem Extends.refl (r : ApiReport) : r.Extends r :=
  ⟨rfl, List.prefix_refl _, List.prefix_refl _, fun _ m hm => ⟨m, hm, .refl m⟩⟩

theorem Extends.trans (h : r.Extends r') (h' : r'.Extends r'') : r.Extends r'' where
  magnitude := h'.magnitude.trans h.magnitude
  addedModules := h.addedModules.trans h'.addedModules
  removedModules := h.removedModules.trans h'.removedModules
  changedModules i m hm := by
    obtain ⟨m', hm', hext⟩ := h.changedModules i m hm
    obtain ⟨m'', hm'', hext'⟩ := h'.changedModules i m' hm'
    exact ⟨m'', hm'', hext.trans hext'⟩

theorem Extends.length_le (h : r.Extends r') :
    r.changedModules.length ≤ r'.changedModules.length := by
  by_contra hlt
  have hm := List.getElem?_eq_getElem (Nat.lt_of_not_le hlt)
  obtain ⟨m', hm', -⟩ := h.changedModules _ _ hm
  rw [List.getElem?_eq_none (Nat.le_refl _)] at hm'
  contradiction

end ApiReport

namespace Report

theorem prefix_insertNew (names : List String) (name : String) :
    names <+: insertNew names name := by
  unfold insertNew
  split
  · exact List.prefix_refl _
  · exact List.prefix_append _ _

namespace Scan

variable (s : Scan)

/-- A module that is opened again has its record already, and a new one gets the last. -/
theorem openModule_extends (name : String) : s.report.Extends (s.openModule name).report := by
  unfold openModule
  dsimp only
  split
  · exact .refl _
  · refine ⟨rfl, List.prefix_refl _, List.prefix_refl _, fun i m hm => ⟨m, ?_, .refl m⟩⟩
    have hi : i < s.report.changedModules.length := (List.getElem?_eq_some_iff.mp hm).1
    rwa [List.getElem?_append_left hi]

theorem openSection_extends (b : Banner) : s.report.Extends (s.openSection b).report := by
  cases b with
  | addedModules | removedModules | closing => exact .refl _
  | module name => exact openModule_extends s name

theorem recordSymbol_extends (index : Nat) (kind : ChangeKind) (symbol : String) :
    s.report.Extends (s.recordSymbol index kind symbol).report := by
  refine ⟨rfl, List.prefix_refl _, List.prefix_refl _, fun i m hm => ?_⟩
  by_cases hi : index = i
  · refine ⟨m.record kind symbol, ?_, m.extends_record kind symbol⟩
    rw [recordSymbol, hi, List.getElem?_modify_eq, hm]
    rfl
  · refine ⟨m, ?_, .refl m⟩
    rw [recordSymbol, ← hm]
    exact List.getElem?_modify_ne _ _ hi

theorem content_extends (line trimmed : List Char) :
    s.report.Extends (s.content line trimmed).report := by
  unfold content
  split
  · exact .refl _
  · split
    · exact ⟨rfl, prefix_insertNew _ _, List.prefix_refl _, fun _ m hm => ⟨m, hm, .refl m⟩⟩
    · exact .refl _
  · split
    · exact ⟨rfl, List.prefix_refl _, prefix_insertNew _ _, fun _ m hm => ⟨m, hm, .refl m⟩⟩
    · exact .refl _
  · split
    · exact .refl _
    · split
      · exact recordSymbol_extends s _ _ _
      · exact .refl _

/-- Whatever a line says, it only adds to the report. -/
theorem step_extends (line : List Char) : s.report.Extends (s.step line).report := by
  unfold step
  dsimp only
  split
  · exact openSection_extends s _
  · split
    · exact .refl _
    · exact content_extends s line _

theorem foldl_step_extends (lines : List (List Char)) :
    s.report.Extends (lines.foldl step s).report := by
  induction lines generalizing s with
  | nil => exact .refl _
  | cons line lines ih => exact (step_extends s line).trans (ih (s.step line))

end Scan

/-- What stands behind a line feed is read from where the text before it led to. A line feed behind
a text ends its last line, or adds a line with nothing in it, and neither is seen. -/
theorem scan?_cut {a : List Char} {s : Scan} (h : scan? a = some s) (b : List Char) :
    scan? (a ++ '\n' :: b) = some ((Text.lines b).foldl Scan.step s) := by
  rw [scan?_eq_scanLines?] at h ⊢
  obtain ⟨first, rest, hsplit⟩ := List.exists_cons_of_ne_nil (Text.split_ne_nil '\n' a)
  rw [Text.split_append_cons, hsplit]
  rw [hsplit] at h
  obtain ⟨m, hm, rfl⟩ := Option.map_eq_some_iff.mp h
  rw [List.cons_append, scanLines?, hm, Option.map_some, List.foldl_append, Scan.foldl_step_split]

/-- A text that is a report stays one whatever follows it behind a line feed, and everything that
was read from it keeps its place. -/
theorem parse?_cut {a : String} {r : ApiReport} (h : parse? a = some r) (b : String) :
    ∃ r', parse? (a ++ "\n" ++ b) = some r' ∧ r.Extends r' ∧
      r.changedModules.length ≤ r'.changedModules.length := by
  obtain ⟨s, hs, rfl⟩ := Option.map_eq_some_iff.mp h
  have htext : (a ++ "\n" ++ b).toList = a.toList ++ '\n' :: b.toList := by
    rw [String.toList_append, String.toList_append, List.append_assoc]
    rfl
  have hextends := Scan.foldl_step_extends s (Text.lines b.toList)
  refine ⟨_, ?_, hextends, hextends.length_le⟩
  rw [parse?, htext, scan?_cut hs]
  rfl

/-- A cut between a carriage return and its line feed, within a list that goes on behind it and in
a module that is opened again. -/
theorem parse?_cut_reopened :
    let a := "This is a MAJOR change.\r\n---- A - MAJOR ----\r\nAdded:\r\n  x : Int\r"
    let b := "  y : Int\n---- B - MINOR ----\n---- A - MAJOR ----\nRemoved:\n- x : Int\n- z : A"
    let r : ApiReport := ⟨.major, [], [], [⟨"A", ["x"], [], []⟩]⟩
    let r' : ApiReport := ⟨.major, [], [], [⟨"A", ["x", "y"], [], ["z"]⟩, ⟨"B", [], [], []⟩]⟩
    parse? a = some r ∧ parse? (a ++ "\n" ++ b) = some r' ∧ r.Extends r' ∧
      r.changedModules.length ≤ r'.changedModules.length := by
  intro a b r r'
  have h : parse? a = some r := by decide +kernel
  have h' : parse? (a ++ "\n" ++ b) = some r' := by decide +kernel
  obtain ⟨r'', hr'', hextends⟩ := parse?_cut h b
  obtain rfl : r' = r'' := Option.some.inj (h'.symm.trans hr'')
  exact ⟨h, h', hextends⟩

end Report

end ReleasePreview
