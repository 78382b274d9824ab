import ReleasePreview.Proofs.Report.Layout

/-!
Reports in the documented layout are read for what they present. The lines of a section take the
scan from what the sections before it presented to that and the section's own part.
-/
namespace ReleasePreview

open Report

/-- In a list without repetitions nothing comes again. -/
theorem not_mem_of_nodup {α : Type} {before after : List α} {a : α}
    (h : (before ++ a :: after).Nodup) : a ∉ before := fun hmem =>
  (List.nodup_cons.mp (List.nodup_middle.mp h)).1 (List.mem_append_left after hmem)

namespace ModuleReport

variable {m : ModuleReport} {symbol : String}

/-- A module with more symbols of one kind. -/
def extend (m : ModuleReport) (symbols : List String) : ChangeKind → ModuleReport
  | .added => { m with added := m.added ++ symbols }
  | .changed => { m with changed := m.changed ++ symbols }
  | .removed => { m with removed := m.removed ++ symbols }

@[simp] theorem extend_nil (m : ModuleReport) (kind : ChangeKind) : m.extend [] kind = m := by
  cases kind <;> simp [extend]

theorem extend_extend (m : ModuleReport) (ss ts : List String) (kind : ChangeKind) :
    (m.extend ss kind).extend ts kind = m.extend (ss ++ ts) kind := by
  cases kind <;> simp [extend]

theorem record_of_new (kind : ChangeKind) (h : ¬ m.contains symbol) :
    m.record kind symbol = m.extend [symbol] kind := by
  unfold record
  rw [if_neg h]
  cases kind <;> rfl

theorem contains_record (m : ModuleReport) (kind : ChangeKind) (symbol : String) :
    (m.record kind symbol).contains symbol := by
  by_cases h : m.contains symbol
  · unfold record
    rwa [if_pos h]
  · rw [contains, List.contains_iff_mem, (symbols_record_perm kind h).mem_iff]
    simp

theorem record_of_contains (kind : ChangeKind) (h : m.contains symbol) :
    m.record kind symbol = m := if_pos h

/-- A symbol that comes twice in a row is recorded once. -/
theorem record_record (m : ModuleReport) (kind : ChangeKind) (symbol : String) :
    (m.record kind symbol).record kind symbol = m.record kind symbol :=
  record_of_contains kind (contains_record m kind symbol)

/-- New symbols are recorded in their order. -/
theorem foldl_record (kind : ChangeKind) {symbols : List String}
    (h : (m.symbols ++ symbols).Nodup) :
    symbols.foldl (fun m symbol => m.record kind symbol) m = m.extend symbols kind := by
  induction symbols generalizing m with
  | nil => exact (m.extend_nil kind).symm
  | cons s symbols ih =>
    have hnew : ¬ m.contains s := by
      rw [contains, List.contains_iff_mem]
      exact not_mem_of_nodup h
    rw [List.append_cons] at h
    have hnext : ((m.record kind s).symbols ++ symbols).Nodup :=
      ((symbols_record_perm kind hnew).append_right symbols).nodup_iff.mpr h
    rw [List.foldl_cons, ih hnext, record_of_new kind hnew, extend_extend, List.singleton_append]

end ModuleReport

namespace Report

open Text

namespace Scan

section Step

variable (s : Scan) {line : List Char}

theorem step_of_blank (h : ∀ c ∈ line, isBlank c) : s.step line = s := by
  rw [step, trim_blank h]
  rfl

theorem step_of_banner (h : isBanner (trim line)) :
    s.step line = s.openSection (banner (trim line)) := if_pos h

theorem step_of_content (hbanner : ¬ isBanner (trim line)) (hfull : ¬ (trim line).isEmpty) :
    s.step line = s.content line (trim line) := by
  rw [step]
  exact (if_neg hbanner).trans (if_neg hfull)

/-- Blanks at the end of a line are not seen. A line that they follow begins as it did before. -/
theorem step_append_blank {back : List Char} (h : ∀ c ∈ back, isBlank c) (line : List Char) :
    s.step (line ++ back) = s.step line := by
  have htrim : trim (line ++ back) = trim line := trim_append_blank h line
  cases line with
  | nil => rw [List.nil_append, s.step_of_blank h, s.step_of_blank (List.forall_mem_nil _)]
  | cons c line =>
    have hindent : isIndented (c :: line ++ back) = isIndented (c :: line) := rfl
    simp only [step, htrim, content, hindent]

end Step

theorem foldl_step_padded {ls ms : List (List Char)} (h : Padded ls ms) (s : Scan) :
    ms.foldl step s = ls.foldl step s := by
  induction h generalizing s with
  | nil => rfl
  | line l _ ih => exact ih (s.step l)
  | blank hb _ ih => rw [List.foldl_cons, s.step_of_blank hb, ih]

/-- What a line feed ends is a line, with a carriage return or without one. -/
theorem foldl_step_lines {ls : List (List Char)} (h : ∀ l ∈ ls, '\n' ∉ l) (s : Scan) :
    (lines (['\n'].intercalate ls)).foldl step s = ls.foldl step s := by
  induction ls generalizing s with
  | nil => rfl
  | cons l ls ih =>
    obtain ⟨hl, hls⟩ := List.forall_mem_cons.mp h
    cases ls with
    | nil =>
      rw [List.intercalate_singleton]
      by_cases hne : l = []
      · rw [hne, List.foldl_cons, s.step_of_blank (by simp)]
        rfl
      · rw [← broken_iff.mp (.last hne hl)]
    | cons k ls =>
      rw [List.intercalate_cons_cons, List.append_assoc, List.singleton_append, List.foldl_cons]
      -- A carriage return before the line feed is cut off with it, which the scan does not notice.
      obtain ⟨l', hlines, rfl | rfl⟩ := exists_lines_cut hl (['\n'].intercalate (k :: ls))
      · rw [hlines, List.foldl_cons, ih hls]
      · rw [hlines, List.foldl_cons, ih hls, s.step_append_blank isBlank_carriageReturn]

theorem step_bannerLine (s : Scan) (title : String) (m : Magnitude) :
    s.step (bannerLine title m) = s.openSection (banner (bannerLine title m)) := by
  have hbanner : isBanner (trim (bannerLine title m)) := by
    rw [trim_bannerLine]
    exact isBanner_bannerLine title m
  rw [s.step_of_banner hbanner, trim_bannerLine]

section ModuleLists

variable {f : List String → Scan} {before names : List String} {lines : List (List Char)}

/-- The entries of a list are taken one by one, whichever list it is. -/
private theorem foldl_entries
    (hcontent : ∀ names line, isIndented line →
      (f names).content line (trim line) = f (insertNew names (String.ofList (trim line))))
    (h : List.Forall₂ Entry names lines) (hentry : ∀ name ∈ names, IsEntry name)
    (hnodup : (before ++ names).Nodup) : lines.foldl step (f before) = f (before ++ names) := by
  induction h generalizing before with
  | nil => rw [List.append_nil, List.foldl_nil]
  | @cons name line names lines hline _ ih =>
    obtain ⟨hname, hnames⟩ := List.forall_mem_cons.mp hentry
    obtain ⟨htrim, hindent, hbanner, hfull⟩ := trim_of_entry hname hline
    have hnew : ¬ before.contains name := by
      rw [List.contains_iff_mem]
      exact not_mem_of_nodup hnodup
    rw [List.append_cons] at hnodup ⊢
    rw [List.foldl_cons, step_of_content _ hbanner hfull, hcontent before line hindent, htrim,
      String.ofList_toList, insertNew, if_neg hnew, ih hnames hnodup]

variable {r : ApiReport}

/-- The section of the added modules adds them, wherever it stands. -/
theorem foldl_addedModules (h : ModuleList "ADDED MODULES" names lines)
    (hentry : ∀ name ∈ names, IsEntry name) (hnodup : (r.addedModules ++ names).Nodup)
    (place : Section) : ∃ place', lines.foldl step ⟨r, place⟩ =
      ⟨{ r with addedModules := r.addedModules ++ names }, place'⟩ := by
  cases h with
  | absent => exact ⟨place, by rw [List.append_nil, List.foldl_nil]⟩
  | listed m hentries =>
    refine ⟨.addedModules, ?_⟩
    rw [List.foldl_cons, step_bannerLine, banner_addedModules]
    exact foldl_entries (f := fun names => ⟨{ r with addedModules := names }, .addedModules⟩)
      (fun _ _ hindent => if_pos hindent) hentries hentry hnodup

/-- The section of the removed modules adds them, wherever it stands. -/
theorem foldl_removedModules (h : ModuleList "REMOVED MODULES" names lines)
    (hentry : ∀ name ∈ names, IsEntry name) (hnodup : (r.removedModules ++ names).Nodup)
    (place : Section) : ∃ place', lines.foldl step ⟨r, place⟩ =
      ⟨{ r with removedModules := r.removedModules ++ names }, place'⟩ := by
  cases h with
  | absent => exact ⟨place, by rw [List.append_nil, List.foldl_nil]⟩
  | listed m hentries =>
    refine ⟨.removedModules, ?_⟩
    rw [List.foldl_cons, step_bannerLine, banner_removedModules]
    exact foldl_entries (f := fun names => ⟨{ r with removedModules := names }, .removedModules⟩)
      (fun _ _ hindent => if_pos hindent) hentries hentry hnodup

end ModuleLists

/-- A scan in the section of the module whose record is the last. -/
def inModule (r : ApiReport) (m : ModuleReport) (heading : Option ChangeKind) : Scan :=
  ⟨{ r with changedModules := r.changedModules ++ [m] }, .module r.changedModules.length heading⟩

section InModule

variable (r : ApiReport) (m : ModuleReport) {kind : ChangeKind} {line : List Char}

theorem step_headingLine (heading : Option ChangeKind) (h : Indents (headingLine kind) line) :
    (inModule r m heading).step line = inModule r m (some kind) := by
  have htrim : trim line = headingLine kind := by rw [trim_of_indents h, trim_headingLine]
  have hbanner : ¬ isBanner (trim line) := by
    rw [htrim]
    cases kind <;> decide
  have hfull : ¬ (trim line).isEmpty := by
    rw [htrim]
    cases kind <;> decide
  rw [step_of_content _ hbanner hfull, inModule, content, htrim]
  simp only [heading?_headingLine]
  rfl

/-- A declaration has its symbol recorded under the heading it stands below. -/
theorem step_declaration {sign type : List Char} {symbol : String} (hsymbol : IsIdentifier symbol)
    (hsign : Sign sign) (h : Indents (sign ++ declaration symbol type) line) :
    (inModule r m (some kind)).step line = inModule r (m.record kind symbol) (some kind) := by
  obtain ⟨hdeclares, hbanner, hfull⟩ := symbol?_declaration hsymbol hsign h
  have hheading : heading? (trim line) = none := by
    cases hkind : heading? (trim line) with
    | none => rfl
    | some kind =>
      rw [symbol?_of_heading? hkind] at hdeclares
      contradiction
  have hmodify : (r.changedModules ++ [m]).modify r.changedModules.length
      (fun m => m.record kind symbol) = r.changedModules ++ [m.record kind symbol] := by
    induction r.changedModules with
    | nil => rfl
    | cons k ks ih => simpa using ih
  rw [step_of_content _ hbanner hfull, inModule, content]
  simp only [hheading, hdeclares, recordSymbol, hmodify]
  rfl

/-- A changed symbol is declared twice and recorded once. -/
theorem foldl_item {symbol : String} {lines : List (List Char)} (hsymbol : IsIdentifier symbol)
    (h : Item symbol kind lines) :
    lines.foldl step (inModule r m (some kind)) =
      inModule r (m.record kind symbol) (some kind) := by
  cases h with
  | added hline | removed hline => exact step_declaration r m hsymbol .none hline
  | changed hold hnew =>
    rw [List.foldl_cons, List.foldl_cons, List.foldl_nil,
      step_declaration r m hsymbol .minus hold, step_declaration r _ hsymbol .plus hnew,
      ModuleReport.record_record]

theorem foldl_items {symbols : List String} {items : List (List (List Char))}
    (h : List.Forall₂ (fun symbol lines => Item symbol kind lines) symbols items)
    (hsymbols : ∀ symbol ∈ symbols, IsIdentifier symbol) :
    items.flatten.foldl step (inModule r m (some kind)) =
      inModule r (symbols.foldl (fun m symbol => m.record kind symbol) m) (some kind) := by
  induction h generalizing m with
  | nil => rfl
  | cons hitem _ ih =>
    obtain ⟨hsymbol, hrest⟩ := List.forall_mem_cons.mp hsymbols
    rw [List.flatten_cons, List.foldl_append, foldl_item r m hsymbol hitem, ih _ hrest,
      List.foldl_cons]

/-- A list of symbols, or none, adds them to those of the lists before it. -/
theorem foldl_listing {symbols : List String} {lines : List (List Char)}
    (h : Listing kind symbols lines) (hsymbols : ∀ symbol ∈ symbols, IsIdentifier symbol)
    (hnodup : (m.symbols ++ symbols).Nodup) (heading : Option ChangeKind) :
    ∃ heading', lines.foldl step (inModule r m heading) =
      inModule r (m.extend symbols kind) heading' := by
  cases h with
  | absent => exact ⟨heading, by rw [ModuleReport.extend_nil, List.foldl_nil]⟩
  | headed hheading hitems =>
    refine ⟨some kind, ?_⟩
    rw [List.foldl_cons, step_headingLine r m heading hheading, foldl_items r m hitems hsymbols,
      ModuleReport.foldl_record kind hnodup]

end InModule

theorem openModule_of_new {r : ApiReport} {name : String}
    (h : name ∉ r.changedModules.map (·.name)) (place : Section) :
    openModule ⟨r, place⟩ name = inModule r { name } none := by
  have hnone : r.changedModules.findIdx? (fun m => m.name = name) = none := by
    rw [List.findIdx?_eq_none_iff]
    intro m hm
    simpa using fun heq => h (List.mem_map.mpr ⟨m, hm, heq⟩)
  rw [openModule]
  simp only [hnone]
  rfl

/-- The section of a module that has none yet presents its record. -/
theorem foldl_moduleSection {r : ApiReport} {m : ModuleReport} {lines : List (List Char)}
    (h : ModuleSection m lines) (hm : m.WellFormed) (hnew : m.name ∉ r.changedModules.map (·.name))
    (place : Section) : ∃ place', lines.foldl step ⟨r, place⟩ =
      ⟨{ r with changedModules := r.changedModules ++ [m] }, place'⟩ := by
  obtain ⟨magnitude, hadded, hchanged, hremoved⟩ := h
  have hsymbols := hm.identifiers
  rw [ModuleReport.symbols, List.forall_mem_append, List.forall_mem_append] at hsymbols
  obtain ⟨⟨haddedId, hchangedId⟩, hremovedId⟩ := hsymbols
  have hnodup : (m.added ++ m.changed ++ m.removed).Nodup := hm.nodup
  have hfirst : (m.added ++ m.changed).Nodup := hnodup.of_append_left
  -- The record starts empty, and each list finds in it what the lists before have added.
  obtain ⟨h₁, hrun₁⟩ := foldl_listing r { name := m.name } hadded haddedId
    (by simpa [ModuleReport.symbols] using hfirst.of_append_left) none
  change _ = inModule r { name := m.name, added := m.added } h₁ at hrun₁
  obtain ⟨h₂, hrun₂⟩ := foldl_listing r { name := m.name, added := m.added } hchanged hchangedId
    (by simpa [ModuleReport.symbols] using hfirst) h₁
  change _ = inModule r { name := m.name, added := m.added, changed := m.changed } h₂ at hrun₂
  obtain ⟨h₃, hrun₃⟩ := foldl_listing r { name := m.name, added := m.added, changed := m.changed }
    hremoved hremovedId (by simpa [ModuleReport.symbols] using hnodup) h₂
  change _ = inModule r m h₃ at hrun₃
  refine ⟨.module r.changedModules.length h₃, ?_⟩
  have hname : ∀ c ∈ m.name.toList, isBlank c = false := fun c hc => by simpa using hm.unblank c hc
  rw [List.foldl_cons, step_bannerLine, banner_bannerLine hm.nonempty hname, List.foldl_append,
    List.foldl_append, openSection, openModule_of_new hnew, hrun₁, hrun₂, hrun₃]
  rfl

/-- The sections of modules with different names present their records. -/
theorem foldl_modules {r : ApiReport} {modules : List ModuleReport}
    {sections : List (List (List Char))} (h : List.Forall₂ ModuleSection modules sections)
    (hmodules : ∀ m ∈ modules, m.WellFormed)
    (hnodup : ((r.changedModules ++ modules).map (·.name)).Nodup) (place : Section) :
    ∃ place', sections.flatten.foldl step ⟨r, place⟩ =
      ⟨{ r with changedModules := r.changedModules ++ modules }, place'⟩ := by
  induction h generalizing r place with
  | nil => exact ⟨place, by rw [List.append_nil, List.flatten_nil, List.foldl_nil]⟩
  | @cons m lines modules sections hsection _ ih =>
    obtain ⟨hm, hrest⟩ := List.forall_mem_cons.mp hmodules
    have hnew : m.name ∉ r.changedModules.map (·.name) := by
      rw [List.map_append, List.map_cons] at hnodup
      exact not_mem_of_nodup hnodup
    rw [List.append_cons] at hnodup
    obtain ⟨place₁, hrun₁⟩ := foldl_moduleSection hsection hm hnew place
    obtain ⟨place₂, hrun₂⟩ := ih
      (r := { r with changedModules := r.changedModules ++ [m] }) hrest hnodup place₁
    refine ⟨place₂, ?_⟩
    rw [List.flatten_cons, List.foldl_append, hrun₁, hrun₂,
      List.append_cons r.changedModules m modules]

end Scan

theorem announcement?_announcementLine (m : Magnitude) :
    announcement? (announcementLine m) = some m := by
  cases m <;> decide

theorem lines_announcementLine (m : Magnitude) (ls : List (List Char)) :
    lines (['\n'].intercalate (announcementLine m :: ls)) =
      announcementLine m :: lines (['\n'].intercalate ls) := by
  have hline : '\n' ∉ announcementLine m := by cases m <;> decide
  cases ls with
  | nil =>
    have hne : announcementLine m ≠ [] := by cases m <;> decide
    rw [List.intercalate_singleton]
    exact (broken_iff.mp (.last hne hline)).symm
  | cons l ls =>
    have hlast : (announcementLine m).getLast? ≠ some '\r' := by cases m <;> decide
    rw [List.intercalate_cons_cons, List.append_assoc, List.singleton_append]
    exact (broken_iff.mp (.lineFeed hline hlast (broken_iff.mpr rfl))).symm

/-- The sections of a report present all of it. -/
theorem Scan.foldl_report {r : ApiReport} (h : r.WellFormed) {added removed : List (List Char)}
    {modules : List (List (List Char))} (hadded : ModuleList "ADDED MODULES" r.addedModules added)
    (hremoved : ModuleList "REMOVED MODULES" r.removedModules removed)
    (hmodules : List.Forall₂ ModuleSection r.changedModules modules) :
    ∃ place, (added ++ (removed ++ modules.flatten)).foldl step (start r.magnitude) =
      ⟨r, place⟩ := by
  obtain ⟨p₁, hrun₁⟩ := foldl_addedModules (r := { magnitude := r.magnitude }) hadded h.added
    h.added_nodup .outside
  change _ = Scan.mk { magnitude := r.magnitude, addedModules := r.addedModules } p₁ at hrun₁
  obtain ⟨p₂, hrun₂⟩ := foldl_removedModules
    (r := { magnitude := r.magnitude, addedModules := r.addedModules }) hremoved h.removed
    h.removed_nodup p₁
  change _ = Scan.mk { r with changedModules := [] } p₂ at hrun₂
  obtain ⟨p₃, hrun₃⟩ := foldl_modules (r := { r with changedModules := [] }) hmodules h.modules
    h.names_nodup p₂
  refine ⟨p₃, ?_⟩
  rw [List.foldl_append, List.foldl_append, start, hrun₁, hrun₂, hrun₃]
  rfl

/-- Whatever the names, the symbols and the types, a report that is written in the documented layout
is read back, and every report whose names have the right form can be written so. -/
theorem parse?_written {r : ApiReport} (h : r.WellFormed) :
    (∃ text, Writes r text) ∧ ∀ text, Writes r text → parse? text = some r := by
  refine ⟨exists_writes h, fun text htext => ?_⟩
  obtain ⟨hadded, hremoved, hmodules, hpadded, honeLine, htext⟩ := htext
  obtain ⟨place, hrun⟩ := Scan.foldl_report h hadded hremoved hmodules
  rw [parse?, scan?, htext, lines_announcementLine]
  dsimp only
  rw [announcement?_announcementLine, Option.map_some, Option.map_some,
    Scan.foldl_step_lines honeLine, Scan.foldl_step_padded hpadded, hrun]

/-- Types that look like a banner, a heading and a symbol, and a blank line between declarations. -/
theorem parse?_written_misleading_types :
    let r : ApiReport := ⟨.major, ["A B"], [], [⟨"DO", ["x"], ["y"], []⟩]⟩
    let text := "\n".intercalate ["This is a MAJOR change.", "", "---- ADDED MODULES - MINOR ----",
      "    A B", "---- DO - PATCH ----", "    Added:", "    x : ---- E - MAJOR ----",
      "    Changed:", "    - y : Removed:", "", "    + y : z : Int", ""]
    r.WellFormed ∧ Writes r text ∧ parse? text = some r := by
  intro r text
  have hletter : IsAsciiLetter 'x' ∧ IsAsciiLetter 'y' := by
    rw [← isLetter_iff, ← isLetter_iff]
    decide
  have hunblank : ∀ c ∈ "DO".toList, !isBlank c := List.all_eq_true.mp (by decide)
  have hentry : IsEntry "A B" := ⟨by decide, by decide, by decide, by decide⟩
  have hmodule : ModuleReport.WellFormed ⟨"DO", ["x"], ["y"], []⟩ := by
    refine ⟨by decide, fun c hc => by simpa using hunblank c hc, by decide, ?_⟩
    simp only [ModuleReport.symbols, List.cons_append, List.nil_append, List.forall_mem_cons]
    exact ⟨⟨'x', [], rfl, hletter.1, by simp⟩, ⟨'y', [], rfl, hletter.2, by simp⟩, by simp⟩
  have hwf : r.WellFormed :=
    ⟨by decide, by decide, by simpa [r] using hentry, by simp [r], by decide,
      by simpa [r] using hmodule⟩
  have hsection : ModuleSection ⟨"DO", ["x"], ["y"], []⟩ _ :=
    .mk .patch (.headed (indents_indent _)
        (.cons (.added (indents_indent (declaration "x" "---- E - MAJOR ----".toList))) .nil))
      (.headed (indents_indent _)
        (.cons (.changed (indents_indent ('-' :: ' ' :: declaration "y" "Removed:".toList))
          (indents_indent ('+' :: ' ' :: declaration "y" "z : Int".toList))) .nil)) .absent
  have hadded : ModuleList "ADDED MODULES" ["A B"] [_, indent ++ "A B".toList] :=
    .listed .minor (.cons (.mk isBlank_indent) .nil)
  have hwrites : Writes r text := by
    refine .mk hadded .absent (.cons hsection .nil)
      (.blank (List.forall_mem_nil _) (.line _ (.line _ (.line _ (.line _ (.line _ (.line _
        (.line _ (.blank (List.forall_mem_nil _) (.line _ (.blank (List.forall_mem_nil _)
          .nil))))))))))) (by decide +kernel) ?_
    rw [String.toList_intercalate]
    decide +kernel
  exact ⟨hwf, hwrites, (parse?_written hwf).2 text hwrites⟩

end Report

end ReleasePreview
