import Mathlib.Data.List.Nodup
import Mathlib.Data.List.Perm.Basic
import ReleasePreview.Proofs.Report.Grammar
import ReleasePreview.Proofs.Text.Blank
import ReleasePreview.Proofs.Text.Lines
import ReleasePreview.Report.Scan

/-!
What holds of every report that is read, however malformed its text: nothing is named twice, and
every name has the form of its kind. Each line keeps this, so all lines together do.
-/
namespace ReleasePreview

open Report

/-- What an entry of a list of whole modules looks like. -/
structure Report.IsEntry (name : String) : Prop where
  nonempty : name ≠ ""
  trimmed : Text.trimmed name = name
  oneLine : '\n' ∉ name.toList
  noBanner : ¬ "----".toList <+: name.toList

def Report.IsAsciiLetter (c : Char) : Prop := 'A' ≤ c ∧ c ≤ 'Z' ∨ 'a' ≤ c ∧ c ≤ 'z'

/-- An ASCII letter, and then ASCII letters, digits and underscores. -/
def Report.IsIdentifier (symbol : String) : Prop :=
  ∃ (first : Char) (more : List Char), symbol.toList = first :: more ∧ IsAsciiLetter first ∧
    ∀ c ∈ more, IsAsciiLetter c ∨ '0' ≤ c ∧ c ≤ '9' ∨ c = '_'

/-- A symbol is under one heading at most, and there once. -/
structure ModuleReport.WellFormed (m : ModuleReport) : Prop where
  nonempty : m.name ≠ ""
  unblank : ∀ c ∈ m.name.toList, ¬ Text.isBlank c
  nodup : m.symbols.Nodup
  identifiers : ∀ symbol ∈ m.symbols, IsIdentifier symbol

structure ApiReport.WellFormed (r : ApiReport) : Prop where
  added_nodup : r.addedModules.Nodup
  removed_nodup : r.removedModules.Nodup
  added : ∀ name ∈ r.addedModules, IsEntry name
  removed : ∀ name ∈ r.removedModules, IsEntry name
  names_nodup : (r.changedModules.map (·.name)).Nodup
  modules : ∀ m ∈ r.changedModules, m.WellFormed

namespace Report

theorem mem_insertNew {names : List String} {name n : String} :
    n ∈ insertNew names name ↔ n ∈ names ∨ n = name := by
  rw [insertNew]
  split
  · next hold =>
    constructor
    · exact .inl
    · rintro (hn | rfl)
      · exact hn
      · exact List.contains_iff_mem.mp hold
  · rw [List.mem_append, List.mem_singleton]

theorem nodup_insertNew {names : List String} (name : String) (h : names.Nodup) :
    (insertNew names name).Nodup := by
  rw [insertNew]
  split
  · exact h
  · next hnew =>
    rw [← List.concat_eq_append]
    exact h.concat (mt List.contains_iff_mem.mpr hnew)

/-- A line of a list of modules is fit to be an entry. -/
theorem isEntry_trim {line : List Char} (hline : '\n' ∉ line)
    (hbanner : ¬ isBanner (Text.trim line)) (hfull : ¬ (Text.trim line).isEmpty) :
    IsEntry (String.ofList (Text.trim line)) where
  nonempty := by
    intro hempty
    rw [String.ofList_eq_empty_iff] at hempty
    exact hfull (List.isEmpty_iff.mpr hempty)
  trimmed := by rw [Text.trimmed, String.toList_ofList, (Text.trims_trim line).trim_eq]
  oneLine := by
    rw [String.toList_ofList]
    exact fun hmem => hline ((Text.trims_trim line).mem hmem)
  noBanner := by
    intro hdashes
    have hprefix : dashes <+: Text.trim line := by simpa [dashes] using hdashes
    exact hbanner (List.isPrefixOf_iff_prefix.mpr hprefix)

theorem isLetter_iff {c : Char} : isLetter c ↔ IsAsciiLetter c := by
  simp only [isLetter, IsAsciiLetter, Bool.or_eq_true, Bool.and_eq_true, decide_eq_true_eq]

theorem isNameChar_iff {c : Char} :
    isNameChar c ↔ IsAsciiLetter c ∨ '0' ≤ c ∧ c ≤ '9' ∨ c = '_' := by
  simp only [isNameChar, isLetter_iff, Bool.or_eq_true, Bool.and_eq_true, decide_eq_true_eq,
    beq_iff_eq, or_assoc]

theorem isIdentifier_of_symbol? {t : List Char} {symbol : String} (h : symbol? t = some symbol) :
    IsIdentifier symbol := by
  obtain ⟨first, more, _, hsymbol, hfirst, hmore, _⟩ := symbol?_eq_some.mp h
  exact ⟨first, more, hsymbol, isLetter_iff.mp hfirst,
    fun c hc => isNameChar_iff.mp (hmore c hc)⟩

end Report

namespace ModuleReport

variable {m : ModuleReport} {symbol : String}

@[simp] theorem name_record (m : ModuleReport) (kind : ChangeKind) (symbol : String) :
    (m.record kind symbol).name = m.name := by
  unfold record
  split
  · rfl
  · cases kind <;> rfl

/-- A new symbol is one more, under whichever heading. -/
theorem symbols_record_perm (kind : ChangeKind) (h : ¬ m.contains symbol) :
    (m.record kind symbol).symbols.Perm (m.symbols ++ [symbol]) := by
  have hmove : ∀ l : List String, ([symbol] ++ l).Perm (l ++ [symbol]) := fun _ =>
    List.perm_append_comm
  unfold record
  rw [if_neg h]
  cases kind with
  | added => simpa only [symbols, List.append_assoc] using
      (hmove (m.changed ++ m.removed)).append_left m.added
  | changed => simpa only [symbols, List.append_assoc] using
      ((hmove m.removed).append_left m.changed).append_left m.added
  | removed => simp only [symbols, List.append_assoc, List.Perm.refl]

theorem WellFormed.record (h : m.WellFormed) (kind : ChangeKind) (hsymbol : IsIdentifier symbol) :
    (m.record kind symbol).WellFormed := by
  by_cases hold : m.contains symbol
  · unfold ModuleReport.record
    rwa [if_pos hold]
  · have hperm := symbols_record_perm kind hold
    refine ⟨by simpa using h.nonempty, by simpa using h.unblank, ?_, ?_⟩
    · rw [hperm.nodup_iff, ← List.concat_eq_append]
      exact h.nodup.concat (mt List.contains_iff_mem.mpr hold)
    · intro s hs
      rcases List.mem_append.mp (hperm.mem_iff.mp hs) with hs | hs
      · exact h.identifiers s hs
      · rwa [List.mem_singleton.mp hs]

/-- A record that has just been made holds no symbol. -/
theorem wellFormed_of_names {t : List Char} {name : String} (h : Names t name) :
    ModuleReport.WellFormed { name } := by
  obtain ⟨_, _, _, _, _, hne, hfull, _⟩ := h
  refine ⟨?_, ?_, List.nodup_nil, by simp [symbols]⟩
  · rintro rfl
    exact hne rfl
  · intro c hc
    simp [hfull c hc]

end ModuleReport

namespace Report

/-- What is done to one element with its name kept leaves the names. -/
private theorem map_name_modify {f : ModuleReport → ModuleReport} (hf : ∀ m, (f m).name = m.name)
    (modules : List ModuleReport) (index : Nat) :
    (modules.modify index f).map (·.name) = modules.map (·.name) := by
  induction modules generalizing index with
  | nil => simp
  | cons m modules ih =>
    cases index with
    | zero => simp [hf]
    | succ index => simp [ih]

private theorem forall_mem_modify {P : ModuleReport → Prop} {f : ModuleReport → ModuleReport}
    (hf : ∀ m, P m → P (f m)) {modules : List ModuleReport} (h : ∀ m ∈ modules, P m)
    (index : Nat) : ∀ m ∈ modules.modify index f, P m := by
  induction modules generalizing index with
  | nil => simp
  | cons m modules ih =>
    obtain ⟨hm, hmodules⟩ := List.forall_mem_cons.mp h
    cases index with
    | zero => simpa using ⟨hf m hm, hmodules⟩
    | succ index => simpa using ⟨hm, ih hmodules index⟩

namespace Scan

variable {s : Scan}

theorem wellFormed_start (m : Magnitude) : (start m).report.WellFormed :=
  ⟨List.nodup_nil, List.nodup_nil, by simp [start], by simp [start], List.nodup_nil,
    by simp [start]⟩

theorem openModule_wellFormed {t : List Char} {name : String} (h : s.report.WellFormed)
    (hname : Names t name) : (s.openModule name).report.WellFormed := by
  rw [openModule]
  split
  · exact h
  · next hnew =>
    have hmem : name ∉ s.report.changedModules.map (·.name) := by
      rw [List.findIdx?_eq_none_iff] at hnew
      intro hmem
      obtain ⟨m, hm, rfl⟩ := List.mem_map.mp hmem
      simpa using hnew m hm
    refine { h with names_nodup := ?_, modules := ?_ }
    · rw [List.map_append, List.map_singleton, ← List.concat_eq_append]
      exact h.names_nodup.concat hmem
    · exact List.forall_mem_append.mpr
        ⟨h.modules, by simpa using ModuleReport.wellFormed_of_names hname⟩

theorem openSection_wellFormed (h : s.report.WellFormed) (t : List Char) :
    (s.openSection (banner t)).report.WellFormed := by
  have hopens : Opens t (banner t) := opens_iff.mpr rfl
  cases hbanner : banner t with
  | addedModules | removedModules | closing => exact h
  | module name =>
    rw [hbanner] at hopens
    cases hopens with
    | module _ _ hname => exact openModule_wellFormed h hname

theorem recordSymbol_wellFormed {symbol : String} (h : s.report.WellFormed) (index : Nat)
    (kind : ChangeKind) (hsymbol : IsIdentifier symbol) :
    (s.recordSymbol index kind symbol).report.WellFormed := by
  refine { h with names_nodup := ?_, modules := ?_ }
  · simp only [recordSymbol]
    rw [map_name_modify fun m => m.name_record kind symbol]
    exact h.names_nodup
  · exact forall_mem_modify (fun m hm => hm.record kind hsymbol) h.modules index

theorem content_wellFormed {line : List Char} (h : s.report.WellFormed)
    (hentry : IsEntry (String.ofList (Text.trim line))) :
    (s.content line (Text.trim line)).report.WellFormed := by
  have hinsert : ∀ {names : List String}, (∀ n ∈ names, IsEntry n) →
      ∀ n ∈ insertNew names (String.ofList (Text.trim line)), IsEntry n := by
    intro names hnames n hn
    rcases mem_insertNew.mp hn with hn | rfl
    · exact hnames n hn
    · exact hentry
  rw [content]
  split
  · exact h
  · split
    · exact { h with added_nodup := nodup_insertNew _ h.added_nodup, added := hinsert h.added }
    · exact h
  · split
    · exact { h with
        removed_nodup := nodup_insertNew _ h.removed_nodup, removed := hinsert h.removed }
    · exact h
  · split
    · exact h
    · split
      · next hsymbol _ => exact recordSymbol_wellFormed h _ _ (isIdentifier_of_symbol? hsymbol)
      · exact h

/-- Every kind of line keeps a report well-formed. -/
theorem step_wellFormed {line : List Char} (h : s.report.WellFormed) (hline : '\n' ∉ line) :
    (s.step line).report.WellFormed := by
  unfold step
  dsimp only
  split
  · exact openSection_wellFormed h _
  · next hbanner =>
    split
    · exact h
    · next hfull => exact content_wellFormed h (isEntry_trim hline hbanner hfull)

theorem foldl_step_wellFormed {lines : List (List Char)} (h : s.report.WellFormed)
    (hlines : ∀ line ∈ lines, '\n' ∉ line) : (lines.foldl step s).report.WellFormed := by
  induction lines generalizing s with
  | nil => exact h
  | cons line lines ih =>
    obtain ⟨hline, hrest⟩ := List.forall_mem_cons.mp hlines
    exact ih (step_wellFormed h hline) hrest

end Scan

theorem scan?_wellFormed {raw : List Char} {s : Scan} (h : scan? raw = some s) :
    s.report.WellFormed := by
  rw [scan?] at h
  split at h
  · contradiction
  · next first rest hlines =>
    obtain ⟨m, -, rfl⟩ := Option.map_eq_some_iff.mp h
    have hbroken : Text.Broken raw (first :: rest) := Text.broken_iff.mpr hlines.symm
    exact Scan.foldl_step_wellFormed (Scan.wellFormed_start m) fun line hline =>
      hbroken.not_mem (List.mem_cons_of_mem first hline)

end Report

/-- Where names are told apart, a name finds the one record it belongs to. -/
theorem ApiReport.WellFormed.module?_eq_some {r : ApiReport} (h : r.WellFormed) {name : String}
    {m : ModuleReport} : r.module? name = some m ↔ m ∈ r.changedModules ∧ m.name = name := by
  rw [ApiReport.module?]
  constructor
  · intro hfind
    exact ⟨List.mem_of_find?_eq_some hfind, by simpa using List.find?_some hfind⟩
  · rintro ⟨hm, rfl⟩
    obtain ⟨m', hfind⟩ : ∃ m', r.changedModules.find? (fun m' => m'.name = m.name) = some m' :=
      Option.isSome_iff_exists.mp (List.find?_isSome.mpr ⟨m, hm, by simp⟩)
    have hname : m'.name = m.name := by simpa using List.find?_some hfind
    rw [hfind, List.inj_on_of_nodup_map h.names_nodup (List.mem_of_find?_eq_some hfind) hm hname]

/-- Whatever a text says behind its announcement, the report read from it names nothing twice, has
names of the right form only, and is found by them. -/
theorem Report.parse?_wellFormed {raw : String} {r : ApiReport} (h : parse? raw = some r) :
    r.WellFormed ∧
      ∀ name m, r.module? name = some m ↔ m ∈ r.changedModules ∧ m.name = name := by
  obtain ⟨s, hs, rfl⟩ := Option.map_eq_some_iff.mp h
  have hwf : s.report.WellFormed := scan?_wellFormed hs
  exact ⟨hwf, fun _ _ => hwf.module?_eq_some⟩

/-- A module opened twice, a symbol under two headings, an entry that comes again, a bad symbol. -/
theorem Report.parse?_wellFormed_reopened :
    let raw := "\n".intercalate ["This is a MAJOR change.", "---- A - MAJOR ----", "Added:",
      "  x : Int", "---- ADDED MODULES - MINOR ----", "  B", "  B", "---- A - MAJOR ----",
      "Removed:", "- x : Int", "- y : Int", "- 2z : Int"]
    let r : ApiReport := ⟨.major, ["B"], [], [⟨"A", ["x"], [], ["y"]⟩]⟩
    parse? raw = some r ∧ r.WellFormed ∧
      ∀ name m, r.module? name = some m ↔ m ∈ r.changedModules ∧ m.name = name := by
  intro raw r
  have h : parse? raw = some r := by decide +kernel
  exact ⟨h, parse?_wellFormed h⟩

end ReleasePreview
