import Mathlib.Data.List.Basic
import Mathlib.Data.List.Induction
import Mathlib.Data.List.Nodup
import ReleasePreview.Proofs.Report.Grammar
import ReleasePreview.Proofs.Text.Blank
import ReleasePreview.Proofs.Text.Lines
import ReleasePreview.Report.Scan

/-!
A report read without a state: what a line counts for is found by looking back for the last banner
and the last heading. Each element of a list is read with those before it, and of those with one key
the first is kept.
-/
namespace ReleasePreview.Report

open Text

section Occurrences

variable {α β : Type}

/-- What the elements say, in order. -/
def gather (read : List α → α → Option β) (l : List α) : List β :=
  (List.range l.length).filterMap fun i => l[i]?.bind (read (l.take i))

theorem gather_concat (read : List α → α → Option β) (l : List α) (a : α) :
    gather read (l ++ [a]) = gather read l ++ (read l a).toList := by
  have hbefore : (List.range l.length).filterMap
      (fun i => (l ++ [a])[i]?.bind (read ((l ++ [a]).take i))) = gather read l := by
    refine List.filterMap_congr fun i hi => ?_
    have hlt : i < l.length := List.mem_range.mp hi
    rw [List.getElem?_append_left hlt, List.take_append_of_le_length (Nat.le_of_lt hlt)]
  rw [gather, List.length_append, List.length_singleton, List.range_succ, List.filterMap_append,
    hbefore]
  cases h : read l a <;> simp [h]

variable {κ : Type} [DecidableEq κ] {key : α → κ}

/-- The elements whose key no element before has. -/
def firsts (key : α → κ) (l : List α) : List α :=
  gather (fun before a => if ∃ b ∈ before, key b = key a then none else some a) l

@[simp] theorem firsts_nil (key : α → κ) : firsts key [] = [] := rfl

theorem firsts_concat_of_mem {l : List α} {a : α} (h : ∃ b ∈ l, key b = key a) :
    firsts key (l ++ [a]) = firsts key l := by
  rw [firsts, gather_concat, if_pos h, Option.toList_none, List.append_nil, firsts]

theorem firsts_concat_of_not_mem {l : List α} {a : α} (h : ¬ ∃ b ∈ l, key b = key a) :
    firsts key (l ++ [a]) = firsts key l ++ [a] := by
  rw [firsts, gather_concat, if_neg h, Option.toList_some, firsts]

theorem exists_mem_firsts {l : List α} {x : κ} :
    (∃ a ∈ firsts key l, key a = x) ↔ ∃ a ∈ l, key a = x := by
  induction l using List.reverseRecOn with
  | nil => rfl
  | append_singleton l a ih =>
    by_cases h : ∃ b ∈ l, key b = key a
    · rw [firsts_concat_of_mem h, ih]
      constructor
      · rintro ⟨b, hb, hx⟩
        exact ⟨b, List.mem_append_left _ hb, hx⟩
      · rintro ⟨b, hb, hx⟩
        rcases List.mem_append.mp hb with hb | hb
        · exact ⟨b, hb, hx⟩
        · obtain rfl := List.mem_singleton.mp hb
          obtain ⟨c, hc, hkey⟩ := h
          exact ⟨c, hc, hkey.trans hx⟩
    · rw [firsts_concat_of_not_mem h]
      simp only [List.mem_append, List.mem_singleton, or_and_right, exists_or, ih]

theorem nodup_firsts (l : List α) : ((firsts key l).map key).Nodup := by
  induction l using List.reverseRecOn with
  | nil => exact List.nodup_nil
  | append_singleton l a ih =>
    by_cases h : ∃ b ∈ l, key b = key a
    · rwa [firsts_concat_of_mem h]
    · rw [firsts_concat_of_not_mem h, List.map_append, List.map_singleton, ← List.concat_eq_append]
      refine ih.concat fun hmem => h ?_
      obtain ⟨b, hb, hkey⟩ := List.mem_map.mp hmem
      exact exists_mem_firsts.mp ⟨b, hb, hkey⟩

end Occurrences

/-- A line that is no banner and not blank. -/
def isContent (line : List Char) : Bool := !isBanner (trim line) && !(trim line).isEmpty

/-- What the last banner opened. -/
def sectionAfter (lines : List (List Char)) : Banner :=
  (((lines.map trim).filter isBanner).getLast?.map banner).getD .closing

/-- The last heading since the last banner. -/
def headingAfter (lines : List (List Char)) : Option ChangeKind :=
  ((lines.map trim).reverse.takeWhile fun t => !isBanner t).findSome? heading?

/-- The module that an indented line of a list of modules names. -/
def listed? (list : Banner) (before : List (List Char)) (line : List Char) : Option String :=
  if isContent line ∧ sectionAfter before = list ∧ isIndented line then
    some (String.ofList (trim line))
  else none

/-- The module whose section a line opens. -/
def opened? (line : List Char) : Option String :=
  if isBanner (trim line) then
    match banner (trim line) with
    | .module name => some name
    | _ => none
  else none

/-- The symbol of a module that a line names under a heading. -/
def symbolOf? (name : String) (before : List (List Char)) (line : List Char) :
    Option (ChangeKind × String) :=
  if isContent line ∧ sectionAfter before = .module name then
    (headingAfter before).bind fun kind => (symbol? (trim line)).map (kind, ·)
  else none

/-- The modules with a section of their own. -/
def moduleNames (lines : List (List Char)) : List String := firsts id (lines.filterMap opened?)

/-- The symbols of a module under one heading. A symbol that comes again counts no more, under this
heading or another. -/
def symbolsUnder (lines : List (List Char)) (name : String) (kind : ChangeKind) : List String :=
  ((firsts Prod.snd (gather (symbolOf? name) lines)).filter fun e => e.1 = kind).map Prod.snd

def moduleReading (lines : List (List Char)) (name : String) : ModuleReport where
  name := name
  added := symbolsUnder lines name .added
  changed := symbolsUnder lines name .changed
  removed := symbolsUnder lines name .removed

/-- The report that the lines behind an announcement make. -/
def reading (m : Magnitude) (lines : List (List Char)) : ApiReport where
  magnitude := m
  addedModules := firsts id (gather (listed? .addedModules) lines)
  removedModules := firsts id (gather (listed? .removedModules) lines)
  changedModules := (moduleNames lines).map (moduleReading lines)

/-- The place of a scan in the section that a banner opened. -/
def placeIn (names : List String) (heading : Option ChangeKind) : Banner → Section
  | .addedModules => .addedModules
  | .removedModules => .removedModules
  | .module name => .module (names.idxOf name) heading
  | .closing => .outside

/-- The scan behind some lines. -/
def scanAfter (m : Magnitude) (lines : List (List Char)) : Scan where
  report := reading m lines
  place := placeIn (moduleNames lines) (headingAfter lines) (sectionAfter lines)

theorem sectionAfter_concat (lines : List (List Char)) (line : List Char) :
    sectionAfter (lines ++ [line]) =
      if isBanner (trim line) then banner (trim line) else sectionAfter lines := by
  rw [sectionAfter, List.map_append, List.filter_append]
  cases h : isBanner (trim line) <;> simp [h, sectionAfter]

theorem headingAfter_concat (lines : List (List Char)) (line : List Char) :
    headingAfter (lines ++ [line]) =
      if isBanner (trim line) then none else (heading? (trim line)).or (headingAfter lines) := by
  rw [headingAfter, List.map_append, List.reverse_append, List.map_singleton,
    List.reverse_singleton, List.singleton_append]
  split
  · next hbanner => rw [List.takeWhile_cons_of_neg (by simp [hbanner]), List.findSome?_nil]
  · next hbanner =>
    rw [List.takeWhile_cons_of_pos (by simp [hbanner]), List.findSome?_cons, headingAfter]
    cases heading? (trim line) <;> rfl

theorem mem_moduleNames {lines : List (List Char)} {name : String} :
    name ∈ moduleNames lines ↔ name ∈ lines.filterMap opened? := by
  have hfirsts : (∃ n ∈ moduleNames lines, id n = name) ↔
      ∃ n ∈ lines.filterMap opened?, id n = name := exists_mem_firsts
  simpa only [id_eq, exists_eq_right] using hfirsts

theorem nodup_moduleNames (lines : List (List Char)) : (moduleNames lines).Nodup := by
  have hnodup : ((moduleNames lines).map id).Nodup := nodup_firsts _
  rwa [List.map_id] at hnodup

/-- A section that is open has been opened. -/
theorem mem_moduleNames_of_sectionAfter {lines : List (List Char)} {name : String}
    (h : sectionAfter lines = .module name) : name ∈ moduleNames lines := by
  rw [mem_moduleNames]
  induction lines using List.reverseRecOn with
  | nil => exact absurd h (by simp [sectionAfter])
  | append_singleton lines line ih =>
    rw [sectionAfter_concat] at h
    rw [List.filterMap_append, List.mem_append]
    split at h
    · next hbanner =>
      right
      simp [opened?, hbanner, h]
    · left
      exact ih h

/-- A module without a section has no symbols. -/
theorem gather_symbolOf?_of_not_mem {lines : List (List Char)} {name : String}
    (h : name ∉ moduleNames lines) : gather (symbolOf? name) lines = [] := by
  induction lines using List.reverseRecOn with
  | nil => rfl
  | append_singleton lines line ih =>
    have hbefore : name ∉ moduleNames lines := by
      rw [mem_moduleNames] at h ⊢
      rw [List.filterMap_append, List.mem_append, not_or] at h
      exact h.1
    have hnone : symbolOf? name lines line = none :=
      if_neg fun hline => hbefore (mem_moduleNames_of_sectionAfter hline.2)
    rw [gather_concat, ih hbefore, hnone]
    rfl

theorem mem_symbolsUnder {lines : List (List Char)} {name symbol : String} {kind : ChangeKind} :
    symbol ∈ symbolsUnder lines name kind ↔
      (kind, symbol) ∈ firsts Prod.snd (gather (symbolOf? name) lines) := by
  simp [symbolsUnder]

theorem contains_moduleReading {lines : List (List Char)} {name symbol : String} :
    (moduleReading lines name).contains symbol ↔
      ∃ e ∈ gather (symbolOf? name) lines, e.2 = symbol := by
  rw [← exists_mem_firsts, ModuleReport.contains, ModuleReport.symbols, List.contains_iff_mem]
  simp only [moduleReading, List.mem_append, mem_symbolsUnder]
  constructor
  · rintro ((h | h) | h)
    · exact ⟨_, h, rfl⟩
    · exact ⟨_, h, rfl⟩
    · exact ⟨_, h, rfl⟩
  · rintro ⟨⟨kind, symbol⟩, he, rfl⟩
    cases kind with
    | added => exact .inl (.inl he)
    | changed => exact .inl (.inr he)
    | removed => exact .inr he

/-- A line that names no symbol of a module says nothing about it. -/
theorem moduleReading_concat_of_none {lines : List (List Char)} {line : List Char} {name : String}
    (h : symbolOf? name lines line = none) :
    moduleReading (lines ++ [line]) name = moduleReading lines name := by
  simp only [moduleReading, symbolsUnder, gather_concat, h, Option.toList_none, List.append_nil]

/-- A line that names a symbol of a module has it recorded. -/
theorem moduleReading_concat_of_some {lines : List (List Char)} {line : List Char}
    {name symbol : String} {kind : ChangeKind}
    (h : symbolOf? name lines line = some (kind, symbol)) :
    moduleReading (lines ++ [line]) name = (moduleReading lines name).record kind symbol := by
  unfold ModuleReport.record
  split
  · next hold =>
    have hfirsts : firsts Prod.snd (gather (symbolOf? name) lines ++ [(kind, symbol)]) =
        firsts Prod.snd (gather (symbolOf? name) lines) :=
      firsts_concat_of_mem (contains_moduleReading.mp hold)
    simp only [moduleReading, symbolsUnder, gather_concat, h, Option.toList_some, hfirsts]
  · next hnew =>
    have hfirsts : firsts Prod.snd (gather (symbolOf? name) lines ++ [(kind, symbol)]) =
        firsts Prod.snd (gather (symbolOf? name) lines) ++ [(kind, symbol)] :=
      firsts_concat_of_not_mem (mt contains_moduleReading.mpr hnew)
    simp only [moduleReading, symbolsUnder, gather_concat, h, Option.toList_some, hfirsts]
    cases kind <;> simp

/-- Names are collected one by one. -/
theorem firsts_id_concat (names : List String) (name : String) :
    firsts id (names ++ [name]) = insertNew (firsts id names) name := by
  have hmem : (∃ n ∈ firsts id names, id n = name) ↔ ∃ n ∈ names, id n = name := exists_mem_firsts
  rw [insertNew]
  split
  · next hold =>
    exact firsts_concat_of_mem (hmem.mp ⟨name, List.contains_iff_mem.mp hold, rfl⟩)
  · next hnew =>
    refine firsts_concat_of_not_mem fun h => hnew ?_
    obtain ⟨n, hn, rfl⟩ := hmem.mpr h
    exact List.contains_iff_mem.mpr hn

theorem moduleNames_concat (lines : List (List Char)) (line : List Char) :
    moduleNames (lines ++ [line]) =
      ((opened? line).map (insertNew (moduleNames lines))).getD (moduleNames lines) := by
  rw [moduleNames, List.filterMap_append]
  cases h : opened? line with
  | none => simp [h, moduleNames]
  | some name =>
    rw [List.filterMap_cons, h, List.filterMap_nil, firsts_id_concat]
    rfl

theorem listed?_of_not_isContent {list : Banner} {lines : List (List Char)} {line : List Char}
    (h : ¬ isContent line) : listed? list lines line = none := if_neg fun hline => h hline.1

theorem symbolOf?_of_not_isContent {name : String} {lines : List (List Char)} {line : List Char}
    (h : ¬ isContent line) : symbolOf? name lines line = none := if_neg fun hline => h hline.1

theorem listed?_of_ne {list : Banner} {lines : List (List Char)} {line : List Char}
    (h : sectionAfter lines ≠ list) : listed? list lines line = none :=
  if_neg fun hline => h hline.2.1

theorem symbolOf?_of_ne {name : String} {lines : List (List Char)} {line : List Char}
    (h : sectionAfter lines ≠ .module name) : symbolOf? name lines line = none :=
  if_neg fun hline => h hline.2

theorem listed_concat (list : Banner) (lines : List (List Char)) (line : List Char) :
    firsts id (gather (listed? list) (lines ++ [line])) =
      ((listed? list lines line).map (insertNew (firsts id (gather (listed? list) lines)))).getD
        (firsts id (gather (listed? list) lines)) := by
  rw [gather_concat]
  cases listed? list lines line with
  | none => rw [Option.toList_none, List.append_nil, Option.map_none, Option.getD_none]
  | some name => rw [Option.toList_some, firsts_id_concat, Option.map_some, Option.getD_some]

/-- A line that counts for nothing leaves the report. -/
theorem reading_concat_of_none (m : Magnitude) {lines : List (List Char)} {line : List Char}
    (hadded : listed? .addedModules lines line = none)
    (hremoved : listed? .removedModules lines line = none)
    (hsymbol : ∀ name, symbolOf? name lines line = none) (hopened : opened? line = none) :
    reading m (lines ++ [line]) = reading m lines := by
  have hmodules : moduleReading (lines ++ [line]) = moduleReading lines :=
    funext fun name => moduleReading_concat_of_none (hsymbol name)
  simp only [reading, listed_concat, moduleNames_concat, hadded, hremoved, hopened, hmodules,
    Option.map_none, Option.getD_none]

private theorem findIdx?_map_name {f : String → ModuleReport} (hf : ∀ n, (f n).name = n)
    (names : List String) (name : String) :
    (names.map f).findIdx? (fun r => r.name = name) =
      if name ∈ names then some (names.idxOf name) else none := by
  induction names with
  | nil => rfl
  | cons n names ih =>
    rw [List.map_cons, List.findIdx?_cons, ih]
    by_cases h : n = name
    · simp [hf, h]
    · have hne : ¬ name = n := Ne.symm h
      by_cases hmem : name ∈ names
      · simp [hf, h, hne, hmem]
      · simp [hf, h, hne, hmem]

/-- In a list without repetitions a name is at one place. -/
private theorem modify_idxOf {f : String → ModuleReport} {g : ModuleReport → ModuleReport}
    {names : List String} {name : String} (hnodup : names.Nodup) (hmem : name ∈ names) :
    (names.map f).modify (names.idxOf name) g =
      names.map fun n => if n = name then g (f n) else f n := by
  induction names with
  | nil => exact absurd hmem List.not_mem_nil
  | cons n names ih =>
    obtain ⟨hn, hnodup⟩ := List.nodup_cons.mp hnodup
    by_cases h : n = name
    · subst h
      have hothers : (names.map fun k => if k = n then g (f k) else f k) = names.map f := by
        refine List.map_congr_left fun k hk => if_neg ?_
        rintro rfl
        exact hn hk
      simp [hothers]
    · have hin : name ∈ names := (List.mem_cons.mp hmem).resolve_left (Ne.symm h)
      simp [h, ih hnodup hin]

/-- A heading names no symbol: there is no space before its colon. -/
theorem symbol?_of_heading? {t : List Char} {kind : ChangeKind} (h : heading? t = some kind) :
    symbol? t = none := by
  obtain _ | _ | _ := heading?_eq_some.mp h <;> decide

/-- A banner changes the section, and adds the record of a module that has none. -/
private theorem openSection_scanAfter (m : Magnitude) {lines : List (List Char)} {line : List Char}
    (h : isBanner (trim line)) :
    (scanAfter m lines).openSection (banner (trim line)) = scanAfter m (lines ++ [line]) := by
  have hcontent : ¬ isContent line := by simp [isContent, h]
  have hsection : sectionAfter (lines ++ [line]) = banner (trim line) := by
    rw [sectionAfter_concat, if_pos h]
  have hheading : headingAfter (lines ++ [line]) = none := by rw [headingAfter_concat, if_pos h]
  have hsame (hopened : opened? line = none) : reading m (lines ++ [line]) = reading m lines :=
    reading_concat_of_none m (listed?_of_not_isContent hcontent)
      (listed?_of_not_isContent hcontent) (fun _ => symbolOf?_of_not_isContent hcontent) hopened
  rw [scanAfter, scanAfter, hsection, hheading]
  cases hbanner : banner (trim line) with
  | addedModules | removedModules | closing =>
    rw [hsame (by simp [opened?, hbanner])]
    rfl
  | module name =>
    have hopened : opened? line = some name := by simp [opened?, h, hbanner]
    have hnames : moduleNames (lines ++ [line]) = insertNew (moduleNames lines) name := by
      rw [moduleNames_concat, hopened]
      rfl
    have hmodules : moduleReading (lines ++ [line]) = moduleReading lines :=
      funext fun name => moduleReading_concat_of_none (symbolOf?_of_not_isContent hcontent)
    have hlisted : ∀ list, listed? list lines line = none := fun _ =>
      listed?_of_not_isContent hcontent
    have hfind := findIdx?_map_name (f := moduleReading lines) (fun _ => rfl) (moduleNames lines)
      name
    simp only [Scan.openSection, Scan.openModule, reading, placeIn, listed_concat, hlisted,
      Option.map_none, Option.getD_none, hmodules, hnames]
    rw [hfind]
    by_cases hmem : name ∈ moduleNames lines
    · have hinsert : insertNew (moduleNames lines) name = moduleNames lines :=
        if_pos (List.contains_iff_mem.mpr hmem)
      rw [if_pos hmem, hinsert]
    · have hinsert : insertNew (moduleNames lines) name = moduleNames lines ++ [name] :=
        if_neg (mt List.contains_iff_mem.mp hmem)
      have hempty : moduleReading lines name = { name } := by
        simp [moduleReading, symbolsUnder, gather_symbolOf?_of_not_mem hmem]
      rw [if_neg hmem, hinsert]
      simp [hempty, List.idxOf_append_of_notMem hmem]

/-- A symbol goes into the record of the module whose section is open. -/
private theorem reading_concat_of_symbol (m : Magnitude) {lines : List (List Char)}
    {line : List Char} {name symbol : String} {kind : ChangeKind} (hopened : opened? line = none)
    (hsection : sectionAfter lines = .module name)
    (hsymbol : symbolOf? name lines line = some (kind, symbol)) :
    reading m (lines ++ [line]) =
      { reading m lines with
        changedModules := (reading m lines).changedModules.modify ((moduleNames lines).idxOf name)
          fun r => r.record kind symbol } := by
  have hadded : listed? .addedModules lines line = none := listed?_of_ne (by simp [hsection])
  have hremoved : listed? .removedModules lines line = none := listed?_of_ne (by simp [hsection])
  have hrecord : moduleReading (lines ++ [line]) = fun n =>
      if n = name then (moduleReading lines n).record kind symbol else moduleReading lines n := by
    funext n
    split
    · next hn =>
      rw [hn]
      exact moduleReading_concat_of_some hsymbol
    · next hn =>
      exact moduleReading_concat_of_none (symbolOf?_of_ne (by simp [hsection, Ne.symm hn]))
  have hmodify := modify_idxOf (f := moduleReading lines) (g := (·.record kind symbol))
    (nodup_moduleNames lines) (mem_moduleNames_of_sectionAfter hsection)
  simp only [reading, listed_concat, moduleNames_concat, hopened, hadded, hremoved, hrecord,
    Option.map_none, Option.getD_none]
  rw [← hmodify]

private theorem opened?_of_isContent {line : List Char} (h : isContent line) :
    ¬ isBanner (trim line) ∧ opened? line = none := by
  have hbanner : ¬ isBanner (trim line) := by
    intro hb
    simp [isContent, hb] at h
  exact ⟨hbanner, if_neg hbanner⟩

/-- In the section of a module a line counts if it names a symbol and there is a heading for it. -/
private theorem reading_concat_in_module (m : Magnitude) {lines : List (List Char)}
    {line : List Char} {name : String} (h : isContent line)
    (hsection : sectionAfter lines = .module name) :
    reading m (lines ++ [line]) =
      match headingAfter lines, symbol? (trim line) with
      | some kind, some symbol =>
        ((scanAfter m lines).recordSymbol ((moduleNames lines).idxOf name) kind symbol).report
      | _, _ => reading m lines := by
  have hopened := (opened?_of_isContent h).2
  have hown : symbolOf? name lines line =
      (headingAfter lines).bind fun kind => (symbol? (trim line)).map (kind, ·) :=
    if_pos ⟨h, hsection⟩
  have hsame (hnone : symbolOf? name lines line = none) :
      reading m (lines ++ [line]) = reading m lines := by
    refine reading_concat_of_none m (listed?_of_ne (by simp [hsection]))
      (listed?_of_ne (by simp [hsection])) (fun n => ?_) hopened
    by_cases hn : n = name
    · rwa [hn]
    · exact symbolOf?_of_ne (by simp [hsection, Ne.symm hn])
  cases hlast : headingAfter lines with
  | none => exact hsame (by simp [hown, hlast])
  | some kind =>
    cases hitem : symbol? (trim line) with
    | none => exact hsame (by simp [hown, hitem])
    | some symbol =>
      exact reading_concat_of_symbol m hopened hsection (by rw [hown, hlast, hitem]; rfl)

/-- A line within a section counts for that section only. -/
private theorem content_scanAfter (m : Magnitude) {lines : List (List Char)} {line : List Char}
    (h : isContent line) :
    (scanAfter m lines).content line (trim line) = scanAfter m (lines ++ [line]) := by
  obtain ⟨hbanner, hopened⟩ := opened?_of_isContent h
  have hnames : moduleNames (lines ++ [line]) = moduleNames lines := by
    rw [moduleNames_concat, hopened]
    rfl
  have hsection : sectionAfter (lines ++ [line]) = sectionAfter lines := by
    rw [sectionAfter_concat, if_neg hbanner]
  have hheading : headingAfter (lines ++ [line]) =
      (heading? (trim line)).or (headingAfter lines) := by
    rw [headingAfter_concat, if_neg hbanner]
  rw [scanAfter, scanAfter, hsection, hheading, hnames]
  unfold Scan.content
  cases hs : sectionAfter lines with
  | closing =>
    rw [reading_concat_of_none m (listed?_of_ne (by simp [hs])) (listed?_of_ne (by simp [hs]))
      (fun _ => symbolOf?_of_ne (by simp [hs])) hopened]
    rfl
  | addedModules | removedModules =>
    have hmodules : moduleReading (lines ++ [line]) = moduleReading lines :=
      funext fun _ => moduleReading_concat_of_none (symbolOf?_of_ne (by simp [hs]))
    simp only [reading, listed_concat, hnames, hmodules, listed?, h, hs, placeIn]
    split
    · next hin => simp [hin]
    · next hin => simp [hin]
  | module name =>
    rw [reading_concat_in_module m h hs]
    cases hhead : heading? (trim line) with
    | some kind =>
      rw [symbol?_of_heading? hhead]
      cases headingAfter lines <;> rfl
    | none =>
      rw [Option.none_or]
      cases headingAfter lines <;> cases symbol? (trim line) <;> rfl

/-- Each line brings the scan behind the lines before it to the scan behind them all. -/
theorem step_scanAfter (m : Magnitude) (lines : List (List Char)) (line : List Char) :
    (scanAfter m lines).step line = scanAfter m (lines ++ [line]) := by
  unfold Scan.step
  dsimp only
  split
  · next hbanner => exact openSection_scanAfter m hbanner
  · next hbanner =>
    split
    · next hblank =>
      have hcontent : ¬ isContent line := by simp [isContent, hblank]
      have hopened : opened? line = none := if_neg hbanner
      have hsame : reading m (lines ++ [line]) = reading m lines :=
        reading_concat_of_none m (listed?_of_not_isContent hcontent)
          (listed?_of_not_isContent hcontent) (fun _ => symbolOf?_of_not_isContent hcontent) hopened
      have hheading : heading? (trim line) = none := by
        rw [List.isEmpty_iff.mp hblank]
        decide
      rw [scanAfter, scanAfter, hsame, moduleNames_concat, hopened, headingAfter_concat,
        if_neg hbanner, hheading, Option.none_or, sectionAfter_concat, if_neg hbanner]
      rfl
    · next hfull => exact content_scanAfter m (by simp [isContent, hbanner, hfull])

theorem foldl_step (m : Magnitude) (lines : List (List Char)) :
    lines.foldl Scan.step (.start m) = scanAfter m lines := by
  induction lines using List.reverseRecOn with
  | nil => rfl
  | append_singleton lines line ih =>
    rw [List.foldl_append, List.foldl_cons, List.foldl_nil, ih, step_scanAfter]

theorem parse?_eq_some {raw : String} {r : ApiReport} : parse? raw = some r ↔
    ∃ first rest m, Broken raw.toList (first :: rest) ∧ Announces first m ∧ r = reading m rest := by
  simp only [broken_iff, ← announcement?_eq_some, parse?, scan?]
  cases lines raw.toList with
  | nil => simp
  | cons first rest =>
    simp only [Option.map_map, Option.map_eq_some_iff, Function.comp_apply, foldl_step, scanAfter,
      List.cons.injEq]
    constructor
    · rintro ⟨m, hm, rfl⟩
      exact ⟨first, rest, m, ⟨rfl, rfl⟩, hm, rfl⟩
    · rintro ⟨_, _, m, ⟨rfl, rfl⟩, hm, rfl⟩
      exact ⟨m, hm, rfl⟩

/-- A text is refused unless its first line announces a magnitude, and else the report is what its
lines read as, each in the light of the lines before it alone. What a line is by itself is decided
by its form: a banner begins with four dashes, a heading is one of three words, and a line is
indented if it begins with a blank. -/
theorem parse?_reading (raw : String) :
    (parse? raw = none ↔
      ∀ first rest, Broken raw.toList (first :: rest) → ∀ m, ¬ Announces first m) ∧
    (∀ r, parse? raw = some r ↔ ∃ first rest m,
      Broken raw.toList (first :: rest) ∧ Announces first m ∧ r = reading m rest) ∧
    (∀ line, Trims line (trim line)) ∧
    (∀ t, isBanner t ↔ ['-', '-', '-', '-'] <+: t) ∧
    (∀ t b, banner t = b ↔ Opens t b) ∧
    (∀ t kind, heading? t = some kind ↔ Heads t kind) ∧
    (∀ line, isIndented line ↔ ∃ c rest, line = c :: rest ∧ isBlank c) ∧
    ∀ t symbol, symbol? t = some symbol ↔ Declares t symbol := by
  refine ⟨?_, fun _ => parse?_eq_some, trims_trim, fun _ => isBanner_iff, fun _ _ => opens_iff.symm,
    fun _ _ => heading?_eq_some, fun _ => isIndented_iff, fun _ _ => symbol?_eq_some⟩
  rw [Option.eq_none_iff_forall_ne_some]
  constructor
  · intro hnone first rest hlines m hm
    exact hnone _ (parse?_eq_some.mpr ⟨first, rest, m, hlines, hm, rfl⟩)
  · intro hnone r hr
    obtain ⟨first, rest, m, hlines, hm, -⟩ := parse?_eq_some.mp hr
    exact hnone first rest hlines m hm

end ReleasePreview.Report
