import ReleasePreview.Proofs.Report.Truncation

/-!
A report whose body is read twice. A line that has been read once has nothing to add when it is
read again in the same section, and the banner that begins the body brings the scan back to the
section in which the body was read first.
-/
namespace ReleasePreview

open Report

theorem ModuleReport.Extends.contains {m m' : ModuleReport} {symbol : String} (h : m.Extends m')
    (hsymbol : m.contains symbol) : m'.contains symbol := by
  simp only [ModuleReport.contains, symbols, List.contains_iff_mem, List.mem_append] at hsymbol ⊢
  rcases hsymbol with (hmem | hmem) | hmem
  · exact .inl (.inl (h.added.subset hmem))
  · exact .inl (.inr (h.changed.subset hmem))
  · exact .inr (h.removed.subset hmem)

/-- The first record of a name stays where it is. -/
theorem ApiReport.Extends.findIdx? {r r' : ApiReport} (h : r.Extends r') {name : String} {i : Nat}
    (hi : r.changedModules.findIdx? (fun m => m.name = name) = some i) :
    r'.changedModules.findIdx? (fun m => m.name = name) = some i := by
  have hname : ∀ j, (hj : j < r.changedModules.length) →
      ∃ hj' : j < r'.changedModules.length,
        r'.changedModules[j].name = r.changedModules[j].name := by
    intro j hj
    obtain ⟨m', hm', hext⟩ := h.changedModules j _ (List.getElem?_eq_getElem hj)
    obtain ⟨hj', rfl⟩ := List.getElem?_eq_some_iff.mp hm'
    exact ⟨hj', hext.name⟩
  rw [List.findIdx?_eq_some_iff_getElem] at hi ⊢
  obtain ⟨hlt, hfound, hbefore⟩ := hi
  obtain ⟨hlt', heq⟩ := hname i hlt
  refine ⟨hlt', by rwa [heq], fun j hji => ?_⟩
  obtain ⟨_, heq⟩ := hname j (hji.trans hlt)
  rw [heq]
  exact hbefore j hji

namespace Report

theorem insertNew_of_extends {names names' : List String} {name : String}
    (h : insertNew names name <+: names') : insertNew names' name = names' := by
  have hmem : name ∈ names' := h.subset (mem_insertNew.mpr (.inr rfl))
  exact if_pos (List.contains_iff_mem.mpr hmem)

namespace Scan

/-- A scan in the section of a module has a record for it. -/
def Placed (s : Scan) : Prop :=
  ∀ index list, s.place = .module index list → index < s.report.changedModules.length

variable {s : Scan} {r : ApiReport} {line : List Char}

theorem placed_start (m : Magnitude) : (start m).Placed := nofun

/-- The section that is opened is that of the first record of the name. -/
theorem exists_findIdx?_openModule (s : Scan) (name : String) :
    ∃ i, (s.openModule name).place = .module i none ∧
      (s.openModule name).report.changedModules.findIdx? (fun m => m.name = name) = some i := by
  unfold openModule
  dsimp only
  split
  · next i hi => exact ⟨i, rfl, hi⟩
  · next hnew => exact ⟨_, rfl, by simp [List.findIdx?_append, hnew]⟩

theorem openSection_placed (s : Scan) (b : Banner) : (s.openSection b).Placed := by
  cases b with
  | addedModules | removedModules | closing => exact nofun
  | module name =>
    intro index list hplace
    obtain ⟨i, hi, hfound⟩ := exists_findIdx?_openModule s name
    obtain rfl : i = index := by
      rw [openSection, hi] at hplace
      exact (Section.module.inj hplace).1
    exact (List.findIdx?_eq_some_iff_getElem.mp hfound).1

theorem content_placed (h : s.Placed) (line trimmed : List Char) :
    (s.content line trimmed).Placed := by
  unfold content
  split
  · exact h
  · split
    · exact h
    · exact h
  · split
    · exact h
    · exact h
  · next index list hplace =>
    split
    · intro i _ hi
      obtain ⟨rfl, -⟩ := Section.module.inj hi
      exact h _ list hplace
    · split
      · intro i l hi
        rw [recordSymbol, List.length_modify]
        exact h i l hi
      · exact h

theorem step_placed (h : s.Placed) (line : List Char) : (s.step line).Placed := by
  unfold step
  dsimp only
  split
  · exact openSection_placed s _
  · split
    · exact h
    · exact content_placed h line _

/-- A module that has been opened is opened again at its record. -/
theorem openModule_of_extends {name : String} (h : (s.openModule name).report.Extends r)
    (place : Section) : openModule ⟨r, place⟩ name = ⟨r, (s.openModule name).place⟩ := by
  obtain ⟨i, hi, hfound⟩ := exists_findIdx?_openModule s name
  rw [openModule]
  simp only [h.findIdx? hfound, hi]

theorem openSection_of_extends {b : Banner} (h : (s.openSection b).report.Extends r)
    (place : Section) : openSection ⟨r, place⟩ b = ⟨r, (s.openSection b).place⟩ := by
  cases b with
  | addedModules | removedModules | closing => rfl
  | module name => exact openModule_of_extends h place

/-- A symbol that has been recorded is not recorded again. -/
theorem recordSymbol_of_extends {index : Nat} {kind : ChangeKind} {symbol : String}
    (hindex : index < s.report.changedModules.length)
    (h : (s.recordSymbol index kind symbol).report.Extends r) (place : Section) :
    recordSymbol ⟨r, place⟩ index kind symbol = ⟨r, place⟩ := by
  have hrecorded : (s.recordSymbol index kind symbol).report.changedModules[index]? =
      some (s.report.changedModules[index].record kind symbol) := by
    rw [recordSymbol, List.getElem?_modify_eq, List.getElem?_eq_getElem hindex]
    rfl
  obtain ⟨m, hm, hext⟩ := h.changedModules index _ hrecorded
  have hsame : m.record kind symbol = m :=
    ModuleReport.record_of_contains kind
      (hext.contains (ModuleReport.contains_record _ kind symbol))
  have hmodules : r.changedModules.modify index (fun m => m.record kind symbol) =
      r.changedModules := by
    refine List.ext_getElem? fun i => ?_
    by_cases hi : index = i
    · rw [← hi, List.getElem?_modify_eq, hm]
      exact congrArg some hsame
    · exact List.getElem?_modify_ne _ _ hi
  rw [recordSymbol, hmodules]

theorem content_of_extends (hs : s.Placed) {trimmed : List Char}
    (h : (s.content line trimmed).report.Extends r) :
    content ⟨r, s.place⟩ line trimmed = ⟨r, (s.content line trimmed).place⟩ := by
  obtain ⟨report, place⟩ := s
  cases place with
  | outside => rfl
  | addedModules =>
    by_cases hindent : isIndented line
    · simp only [content, if_pos hindent] at h ⊢
      rw [insertNew_of_extends h.addedModules]
    · simp only [content, if_neg hindent]
  | removedModules =>
    by_cases hindent : isIndented line
    · simp only [content, if_pos hindent] at h ⊢
      rw [insertNew_of_extends h.removedModules]
    · simp only [content, if_neg hindent]
  | module index list =>
    cases hheading : heading? trimmed with
    | some kind => simp only [content, hheading]
    | none =>
      cases list with
      | none => simp only [content, hheading]
      | some kind =>
        cases hsymbol : symbol? trimmed with
        | none => simp only [content, hheading, hsymbol]
        | some symbol =>
          simp only [content, hheading, hsymbol] at h ⊢
          exact recordSymbol_of_extends (hs index _ rfl) h _

/-- In a report that holds what a line adds, the line changes the section alone, and as before. -/
theorem step_of_extends (hs : s.Placed) (h : (s.step line).report.Extends r) :
    step ⟨r, s.place⟩ line = ⟨r, (s.step line).place⟩ := by
  by_cases hbanner : isBanner (Text.trim line)
  · rw [step_of_banner _ hbanner] at h ⊢
    rw [step_of_banner _ hbanner]
    exact openSection_of_extends h s.place
  · by_cases hfull : (Text.trim line).isEmpty
    · rw [step, step, if_neg hbanner, if_neg hbanner, if_pos hfull, if_pos hfull]
    · rw [step_of_content _ hbanner hfull] at h ⊢
      rw [step_of_content _ hbanner hfull]
      exact content_of_extends hs h

theorem foldl_step_of_extends (hs : s.Placed) {lines : List (List Char)}
    (h : (lines.foldl step s).report.Extends r) :
    lines.foldl step ⟨r, s.place⟩ = ⟨r, (lines.foldl step s).place⟩ := by
  induction lines generalizing s with
  | nil => rfl
  | cons line lines ih =>
    have hline : (s.step line).report.Extends r := (foldl_step_extends (s.step line) lines).trans h
    rw [List.foldl_cons, step_of_extends hs hline, ih (step_placed hs line) h, List.foldl_cons]

/-- The section before a banner does not matter. -/
theorem step_banner_place (hbanner : isBanner (Text.trim line)) (r : ApiReport)
    (place place' : Section) : step ⟨r, place⟩ line = step ⟨r, place'⟩ line := by
  rw [step_of_banner _ hbanner, step_of_banner _ hbanner]
  cases banner (Text.trim line) <;> rfl

theorem foldl_step_blank {blanks : List (List Char)} (h : ∀ l ∈ blanks, ∀ c ∈ l, Text.isBlank c)
    (s : Scan) : blanks.foldl step s = s := by
  induction blanks with
  | nil => rfl
  | cons l blanks ih =>
    obtain ⟨hl, hblanks⟩ := List.forall_mem_cons.mp h
    rw [List.foldl_cons, s.step_of_blank hl, ih hblanks]

/-- Lines that begin with a banner say nothing new the second time. -/
theorem foldl_step_replay (hs : s.Placed) {blanks : List (List Char)}
    (hblanks : ∀ l ∈ blanks, ∀ c ∈ l, Text.isBlank c) (hbanner : isBanner (Text.trim line))
    (lines : List (List Char)) :
    (blanks ++ line :: lines).foldl step ((blanks ++ line :: lines).foldl step s) =
      (blanks ++ line :: lines).foldl step s := by
  simp only [List.foldl_append, foldl_step_blank hblanks]
  generalize hlast : (line :: lines).foldl step s = last
  have hextends : ((line :: lines).foldl step s).report.Extends last.report := by
    rw [hlast]
    exact .refl _
  calc (line :: lines).foldl step last
      = (line :: lines).foldl step ⟨last.report, s.place⟩ :=
        congrArg (lines.foldl step) (step_banner_place hbanner last.report last.place s.place)
    _ = ⟨last.report, ((line :: lines).foldl step s).place⟩ := foldl_step_of_extends hs hextends
    _ = last := by rw [hlast]

end Scan

/-- A text in which the first line that is not blank is a banner. -/
def BeginsWithBanner (body : String) : Prop :=
  ∃ (blanks : List (List Char)) (line : List Char) (rest : List (List Char)),
    Text.Broken body.toList (blanks ++ line :: rest) ∧ (∀ l ∈ blanks, ∀ c ∈ l, Text.isBlank c) ∧
      "----".toList <+: Text.trim line

/-- A body that begins with a banner may be read again, whatever its banners, entries and symbols:
the report stays the same. -/
theorem parse?_replay {first body : String} (hline : '\n' ∉ first.toList)
    (hfirst : ∃ m, Announces first.toList m) (hbody : BeginsWithBanner body) :
    ∃ r, parse? (first ++ "\n" ++ body) = some r ∧
      parse? (first ++ "\n" ++ body ++ "\n" ++ body) = some r := by
  obtain ⟨m, hm⟩ := hfirst
  obtain ⟨blanks, line, rest, hlines, hblanks, hbanner⟩ := hbody
  have hstart : scan? first.toList = some (.start m) := by
    rw [scan?_eq_scanLines?, Text.split_of_not_mem hline, scanLines?,
      announcement?_eq_some.mpr hm]
    rfl
  have hone := scan?_cut hstart body.toList
  have htwo := scan?_cut hone body.toList
  have hreplay := Scan.foldl_step_replay (Scan.placed_start m) hblanks
    (List.isPrefixOf_iff_prefix.mpr hbanner) rest
  rw [Text.broken_iff.mp hlines] at hreplay
  rw [hreplay] at htwo
  have htext : (first ++ "\n" ++ body).toList = first.toList ++ '\n' :: body.toList := by simp
  have htext' : (first ++ "\n" ++ body ++ "\n" ++ body).toList =
      first.toList ++ '\n' :: body.toList ++ '\n' :: body.toList := by simp
  refine ⟨((Text.lines body.toList).foldl Scan.step (.start m)).report, ?_, ?_⟩
  · rw [parse?, htext, hone]
    rfl
  · rw [parse?, htext', htwo]
    rfl

/-- An unknown banner in front, which closes the section that the body ends in, and a symbol under
two headings. -/
theorem parse?_replay_unknown_banner :
    let first := "This is a MAJOR change."
    let body := "  \n---- ? ----\n  x : Int\n---- ADDED MODULES - MINOR ----\n  B\n" ++
      "---- A - MAJOR ----\nRemoved:\n- y : Int\nAdded:\n  y : Int\n  z : Int"
    let r : ApiReport := ⟨.major, ["B"], [], [⟨"A", ["z"], [], ["y"]⟩]⟩
    '\n' ∉ first.toList ∧ (∃ m, Announces first.toList m) ∧ BeginsWithBanner body ∧
      parse? (first ++ "\n" ++ body) = some r ∧
      parse? (first ++ "\n" ++ body ++ "\n" ++ body) = some r := by
  intro first body r
  have hline : '\n' ∉ first.toList := by decide
  have hfirst : ∃ m, Announces first.toList m := ⟨.major, announcement?_eq_some.mp (by decide)⟩
  have hlines : Text.Broken body.toList
      (["  ".toList] ++ "---- ? ----".toList :: (Text.lines body.toList).drop 2) :=
    Text.broken_iff.mpr (by decide +kernel)
  have hblank : ∀ l ∈ ["  ".toList], ∀ c ∈ l, Text.isBlank c :=
    List.forall_mem_singleton.mpr (List.all_eq_true.mp (by decide))
  have hbody : BeginsWithBanner body := ⟨_, _, _, hlines, hblank, by decide⟩
  have h : parse? (first ++ "\n" ++ body) = some r := by decide +kernel
  obtain ⟨r', hr', htwice⟩ := parse?_replay hline hfirst hbody
  obtain rfl : r = r' := Option.some.inj (h.symm.trans hr')
  exact ⟨hline, hfirst, hbody, h, htwice⟩

end Report

end ReleasePreview
