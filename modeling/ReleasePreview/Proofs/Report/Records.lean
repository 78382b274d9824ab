import ReleasePreview.Proofs.Report.Reading
import ReleasePreview.Proofs.Report.Truncation

/-!
Which record a scan writes to. The index that it keeps for the section of a module is always that of
a record, and the record has the name of the last banner, so a symbol never goes to another module,
whatever has been opened in between.
-/
namespace ReleasePreview.Report

variable {lines before : List (List Char)} {line : List Char} {name : String}

/-- What is gathered, with the elements before it. -/
theorem mem_gather {α β : Type} {read : List α → α → Option β} {l : List α} {b : β} :
    b ∈ gather read l ↔ ∃ before a after, l = before ++ a :: after ∧ read before a = some b := by
  simp only [gather, List.mem_filterMap, List.mem_range]
  constructor
  · rintro ⟨i, hi, hread⟩
    rw [List.getElem?_eq_getElem hi] at hread
    refine ⟨l.take i, l[i], l.drop (i + 1), ?_, hread⟩
    rw [← List.drop_eq_getElem_cons hi, List.take_append_drop]
  · rintro ⟨before, a, after, rfl, hread⟩
    exact ⟨before.length, by simp, by simpa using hread⟩

section Places

/-- The module of a section keeps its place among the modules. -/
theorem moduleNames_prefix (before : List (List Char)) (line : List Char) :
    moduleNames before <+: moduleNames (before ++ [line]) := by
  rw [moduleNames_concat]
  cases opened? line with
  | none => exact List.prefix_refl _
  | some name => exact prefix_insertNew _ name

/-- A record behind another line, with the symbol that the line names under its banner. -/
def recordAfter (before : List (List Char)) (line : List Char) (record : ModuleReport) :
    ModuleReport :=
  match symbolOf? record.name before line with
  | some (kind, symbol) => record.record kind symbol
  | none => record

/-- Records keep their places when another line is read. -/
theorem getElem?_reading_concat (m : Magnitude) (before : List (List Char)) (line : List Char)
    {index : Nat} {record : ModuleReport}
    (h : (reading m before).changedModules[index]? = some record) :
    (reading m (before ++ [line])).changedModules[index]? =
      some (recordAfter before line record) := by
  rw [reading, List.getElem?_map] at h
  obtain ⟨name, hname, rfl⟩ := Option.map_eq_some_iff.mp h
  -- A module that is opened goes behind all others, so the index leads to the same name.
  have hkept : (moduleNames (before ++ [line]))[index]? = some name := by
    rw [List.getElem?_eq_some_iff] at hname ⊢
    obtain ⟨hindex, hname⟩ := hname
    have hnames := moduleNames_prefix before line
    exact ⟨hindex.trans_le hnames.length_le, (hnames.getElem hindex).symm.trans hname⟩
  rw [reading, List.getElem?_map, hkept, Option.map_some]
  have hname : (moduleReading before name).name = name := rfl
  cases hsymbol : symbolOf? name before line with
  | none => rw [moduleReading_concat_of_none hsymbol, recordAfter, hname, hsymbol]
  | some item => rw [moduleReading_concat_of_some hsymbol, recordAfter, hname, hsymbol]

/-- The records of a scan behind some lines: no two are of one name, and in the section of a module
the index is that of the record with the name in the last banner. -/
structure Scan.Points (s : Scan) (before : List (List Char)) : Prop where
  nodup : (s.report.changedModules.map (·.name)).Nodup
  index : ∀ index list, s.place = .module index list →
    ∃ hindex : index < s.report.changedModules.length,
      sectionAfter before = .module s.report.changedModules[index].name

theorem scanAfter_points (m : Magnitude) (before : List (List Char)) :
    (scanAfter m before).Points before := by
  have hnames : (reading m before).changedModules.map (·.name) = moduleNames before :=
    (List.map_map ..).trans (List.map_id _)
  refine ⟨?_, fun index list hplace => ?_⟩
  · rw [scanAfter, hnames]
    exact nodup_moduleNames before
  · cases hsection : sectionAfter before with
    | addedModules | removedModules | closing =>
      rw [scanAfter, hsection] at hplace
      contradiction
    | module name =>
      rw [scanAfter, hsection] at hplace
      obtain ⟨rfl, -⟩ := Section.module.inj hplace
      have hmem : name ∈ moduleNames before := mem_moduleNames_of_sectionAfter hsection
      have hindex : (moduleNames before).idxOf name < (moduleNames before).length :=
        List.idxOf_lt_length_iff.mpr hmem
      refine ⟨by simpa [scanAfter, reading] using hindex, ?_⟩
      simp [scanAfter, reading, moduleReading]

end Places

/-- A symbol is in the record of a module if and only if a line names it under a banner of the
module. -/
theorem exists_contains_reading {m : Magnitude} {lines : List (List Char)} {name symbol : String} :
    (∃ record ∈ (reading m lines).changedModules, record.name = name ∧ record.contains symbol) ↔
      ∃ before line after kind, lines = before ++ line :: after ∧
        symbolOf? name before line = some (kind, symbol) := by
  have hgather : (∃ e ∈ gather (symbolOf? name) lines, e.2 = symbol) ↔
      ∃ before line after kind, lines = before ++ line :: after ∧
        symbolOf? name before line = some (kind, symbol) := by
    simp only [mem_gather]
    constructor
    · rintro ⟨⟨kind, _⟩, ⟨before, line, after, hlines, hitem⟩, rfl⟩
      exact ⟨before, line, after, kind, hlines, hitem⟩
    · rintro ⟨before, line, after, kind, hlines, hitem⟩
      exact ⟨(kind, symbol), ⟨before, line, after, hlines, hitem⟩, rfl⟩
  rw [← hgather, ← contains_moduleReading]
  constructor
  · rintro ⟨record, hrecord, rfl, hcontains⟩
    obtain ⟨name, -, rfl⟩ := List.mem_map.mp hrecord
    exact hcontains
  · intro hcontains
    have hopened : name ∈ moduleNames lines := by
      by_contra hnot
      obtain ⟨e, he, -⟩ := contains_moduleReading.mp hcontains
      rw [gather_symbolOf?_of_not_mem hnot] at he
      contradiction
    exact ⟨_, List.mem_map_of_mem hopened, rfl, hcontains⟩

/-- Wherever a scan has come to in a text that it accepts, the index of its section is that of a
record, which has the name in the last banner. The next line leaves every record where it is and
writes to the one alone under whose banner it names a symbol, so in the end a symbol is in the
record of a module just if it is named under a banner of the module. -/
theorem parse?_records {raw : String} {r : ApiReport} (h : parse? raw = some r) :
    ∃ first rest m, Text.Broken raw.toList (first :: rest) ∧ Announces first m ∧
      r = (rest.foldl Scan.step (.start m)).report ∧
      (∀ before, before <+: rest →
        let s := before.foldl Scan.step (.start m)
        s.Points before ∧
        ∀ (line : List Char) (index : Nat) (record : ModuleReport),
          s.report.changedModules[index]? = some record →
          (s.step line).report.changedModules[index]? = some (recordAfter before line record)) ∧
      ∀ name symbol,
        (∃ record ∈ r.changedModules, record.name = name ∧ record.contains symbol) ↔
          ∃ before line after kind, rest = before ++ line :: after ∧
            symbolOf? name before line = some (kind, symbol) := by
  obtain ⟨first, rest, m, hlines, hfirst, rfl⟩ := parse?_eq_some.mp h
  refine ⟨first, rest, m, hlines, hfirst, by rw [foldl_step, scanAfter], fun before _ => ?_,
    fun name symbol => exists_contains_reading⟩
  rw [foldl_step]
  refine ⟨scanAfter_points m before, fun line index record hrecord => ?_⟩
  rw [step_scanAfter]
  exact getElem?_reading_concat m before line hrecord

/-- A module whose banner comes again behind that of another one. -/
theorem parse?_records_reopened :
    let raw := "\n".intercalate ["This is a MAJOR change.", "---- A - MAJOR ----",
      "---- B - MINOR ----", "---- A - MAJOR ----", "Added:", "  x : Int"]
    let r : ApiReport := ⟨.major, [], [], [⟨"A", ["x"], [], []⟩, ⟨"B", [], [], []⟩]⟩
    let before := ((Text.lines raw.toList).drop 1).take 3
    let s := before.foldl Scan.step (.start .major)
    parse? raw = some r ∧ s.place = .module 0 none ∧ s.report.changedModules.length = 2 ∧
      s.Points before := by
  intro raw r before s
  have h : parse? raw = some r := by decide +kernel
  have hannounced : announcement? ((Text.lines raw.toList).headD []) = some .major := by
    decide +kernel
  obtain ⟨first, rest, m, hlines, hfirst, -, hpoints, -⟩ := parse?_records h
  rw [← Text.broken_iff.mp hlines, List.headD_cons, announcement?_eq_some.mpr hfirst] at hannounced
  obtain rfl : m = .major := Option.some.inj hannounced
  have hrest : (Text.lines raw.toList).drop 1 = rest := by
    rw [← Text.broken_iff.mp hlines]
    rfl
  have hbefore : before <+: rest := hrest ▸ List.take_prefix 3 _
  have hs : s.place = .module 0 none ∧ s.report.changedModules.length = 2 := by decide +kernel
  exact ⟨h, hs.1, hs.2, (hpoints before hbefore).1⟩

end ReleasePreview.Report
