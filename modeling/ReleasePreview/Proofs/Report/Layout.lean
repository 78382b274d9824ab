import Mathlib.Data.List.Forall2
import ReleasePreview.Proofs.Report.Reading
import ReleasePreview.Proofs.Report.WellFormed

/-!
The layout in which reports are written: an announcement, the modules added, the modules removed,
and a section for each module with changes. Blank lines may stand anywhere behind the announcement,
and a list of nothing may be left out with its heading.
-/
namespace ReleasePreview.Report

open Text

def announcementLine (m : Magnitude) : List Char := ("This is a " ++ m.text ++ " change.").toList

/-- The banner of a section. -/
def bannerLine (title : String) (m : Magnitude) : List Char :=
  ("---- " ++ title ++ " - " ++ m.text ++ " ----").toList

def headingLine : ChangeKind → List Char
  | .added => "Added:".toList
  | .changed => "Changed:".toList
  | .removed => "Removed:".toList

/-- A symbol and its type. -/
def declaration (symbol : String) (type : List Char) : List Char :=
  symbol.toList ++ ' ' :: ':' :: ' ' :: type

/-- A text behind blanks. -/
inductive Indents (t : List Char) : List Char → Prop
  | mk {indent : List Char} (h : ∀ c ∈ indent, isBlank c) : Indents t (indent ++ t)

/-- A name behind one blank or more. -/
inductive Entry (name : String) : List Char → Prop
  | mk {c : Char} {indent : List Char} (h : ∀ d ∈ c :: indent, isBlank d) :
      Entry name (c :: indent ++ name.toList)

/-- The lines of a symbol. A changed one is declared as it was and as it is. -/
inductive Item (symbol : String) : ChangeKind → List (List Char) → Prop
  | added {type line : List Char} (h : Indents (declaration symbol type) line) :
      Item symbol .added [line]
  | changed {old new before after : List Char}
      (hold : Indents ('-' :: ' ' :: declaration symbol old) before)
      (hnew : Indents ('+' :: ' ' :: declaration symbol new) after) :
      Item symbol .changed [before, after]
  | removed {type line : List Char} (h : Indents (declaration symbol type) line) :
      Item symbol .removed [line]

/-- The symbols of one kind under their heading. -/
inductive Listing (kind : ChangeKind) : List String → List (List Char) → Prop
  | absent : Listing kind [] []
  | headed {symbols : List String} {heading : List Char} {items : List (List (List Char))}
      (hheading : Indents (headingLine kind) heading)
      (hitems : List.Forall₂ (fun symbol lines => Item symbol kind lines) symbols items) :
      Listing kind symbols (heading :: items.flatten)

/-- The section of a module with changes. The magnitude in its banner is its own. -/
inductive ModuleSection (r : ModuleReport) : List (List Char) → Prop
  | mk {added changed removed : List (List Char)} (m : Magnitude)
      (hadded : Listing .added r.added added) (hchanged : Listing .changed r.changed changed)
      (hremoved : Listing .removed r.removed removed) :
      ModuleSection r (bannerLine r.name m :: (added ++ (changed ++ removed)))

/-- The section of a list of whole modules. -/
inductive ModuleList (title : String) : List String → List (List Char) → Prop
  | absent : ModuleList title [] []
  | listed {names : List String} {entries : List (List Char)} (m : Magnitude)
      (hentries : List.Forall₂ Entry names entries) :
      ModuleList title names (bannerLine title m :: entries)

/-- Lines with blank lines among them. -/
inductive Padded : List (List Char) → List (List Char) → Prop
  | nil : Padded [] []
  | line {ls ms : List (List Char)} (l : List Char) (h : Padded ls ms) : Padded (l :: ls) (l :: ms)
  | blank {b : List Char} {ls ms : List (List Char)} (hb : ∀ c ∈ b, isBlank c)
      (h : Padded ls ms) : Padded ls (b :: ms)

/-- A text that presents a report in the documented layout. -/
inductive Writes (r : ApiReport) : String → Prop
  | mk {added removed lines : List (List Char)} {modules : List (List (List Char))} {text : String}
      (hadded : ModuleList "ADDED MODULES" r.addedModules added)
      (hremoved : ModuleList "REMOVED MODULES" r.removedModules removed)
      (hmodules : List.Forall₂ ModuleSection r.changedModules modules)
      (hlines : Padded (added ++ (removed ++ modules.flatten)) lines)
      (honeLine : ∀ line ∈ lines, '\n' ∉ line)
      (htext : text.toList = ['\n'].intercalate (announcementLine r.magnitude :: lines)) :
      Writes r text

def indent : List Char := [' ', ' ', ' ', ' ']

/-- The lines of a symbol with its types left empty. -/
def itemLines (kind : ChangeKind) (symbol : String) : List (List Char) :=
  match kind with
  | .added | .removed => [indent ++ declaration symbol []]
  | .changed =>
    [indent ++ '-' :: ' ' :: declaration symbol [], indent ++ '+' :: ' ' :: declaration symbol []]

def listingLines (kind : ChangeKind) (symbols : List String) : List (List Char) :=
  (indent ++ headingLine kind) :: (symbols.map (itemLines kind)).flatten

def sectionLines (r : ModuleReport) : List (List Char) :=
  bannerLine r.name .patch ::
    (listingLines .added r.added ++
      (listingLines .changed r.changed ++ listingLines .removed r.removed))

def moduleListLines (title : String) (names : List String) : List (List Char) :=
  bannerLine title .patch :: names.map fun name => indent ++ name.toList

/-- The lines that present a report behind its announcement, no heading left out. -/
def reportLines (r : ApiReport) : List (List Char) :=
  moduleListLines "ADDED MODULES" r.addedModules ++
    (moduleListLines "REMOVED MODULES" r.removedModules ++
      (r.changedModules.map sectionLines).flatten)

theorem isBlank_of_isLetter {c : Char} (h : isLetter c) : ¬ isBlank c := by
  rw [isLetter_iff, IsAsciiLetter, Char.le_def, Char.le_def, Char.le_def, Char.le_def,
    UInt32.le_iff_toNat_le, UInt32.le_iff_toNat_le, UInt32.le_iff_toNat_le,
    UInt32.le_iff_toNat_le] at h
  have hrange : 65 ≤ c.toNat ∧ c.toNat ≤ 90 ∨ 97 ≤ c.toNat ∧ c.toNat ≤ 122 := h
  simp only [isBlank, inRanges, blankRanges, List.any_cons, List.any_nil, Bool.or_false,
    Bool.or_eq_true, Bool.and_eq_true, decide_eq_true_eq]
  omega

theorem heading?_headingLine (kind : ChangeKind) : heading? (headingLine kind) = some kind := by
  cases kind <;> decide

section Titles

variable (title : String) (m : Magnitude)

theorem bannerLine_eq :
    bannerLine title m =
      dashes ++ ' ' :: (title.toList ++ ' ' :: '-' :: ' ' :: (m.text.toList ++ ' ' :: dashes)) := by
  simp [bannerLine, dashes]

theorem trim_bannerLine : trim (bannerLine title m) = bannerLine title m := by
  have hlast : bannerLine title m =
      ("---- " ++ title ++ " - " ++ m.text ++ " ---").toList ++ '-' :: [] := by
    simp [bannerLine]
  rw [trim_of_head, hlast, trimEnd_append_cons (by decide)]
  · rfl
  · rw [bannerLine_eq]
    intro c hc
    rw [← Option.some.inj hc]
    decide

theorem isBanner_bannerLine : isBanner (bannerLine title m) := by
  rw [isBanner, bannerLine_eq]
  exact List.isPrefixOf_iff_prefix.mpr (List.prefix_append _ _)

end Titles

/-- Two words of capitals with a space between them are no part of a name without blanks, and the
banner that it stands in has no room for them beside it. -/
theorem not_infix_bannerLine {name : String} (hname : ∀ c ∈ name.toList, isBlank c = false)
    (m : Magnitude) : ¬ ['D', ' ', 'M'] <:+: bannerLine name m := by
  have hpart : ∀ part : List Char, (∀ c ∈ part, isBlank c = false) → ∀ s : List Char,
      ¬ ['D', ' ', 'M'] <:+: ' ' :: s → ¬ [' ', 'M'] <+: ' ' :: s →
      ¬ ['D', ' ', 'M'] <:+: part ++ ' ' :: s := by
    intro part hpart s hs hfront
    induction part with
    | nil => exact hs
    | cons c part ih =>
      obtain ⟨-, hrest⟩ := List.forall_mem_cons.mp hpart
      rw [List.cons_append, List.infix_cons_iff, not_or]
      refine ⟨?_, ih hrest⟩
      rw [List.cons_prefix_cons]
      rintro ⟨-, hnext⟩
      cases part with
      | nil => exact hfront hnext
      | cons d part =>
        rw [List.cons_append, List.cons_prefix_cons] at hnext
        obtain ⟨rfl, -⟩ := hnext
        exact absurd (hrest ' ' List.mem_cons_self) (by decide)
  have hdashes : ∀ s : List Char, ['D', ' ', 'M'] <:+: dashes ++ ' ' :: s →
      ['D', ' ', 'M'] <:+: s := by
    intro s h
    simpa [dashes, List.infix_cons_iff] using h
  rw [bannerLine_eq]
  refine fun h => hpart _ hname _ ?_ (by simp) (hdashes _ h)
  cases m <;> decide

/-- The banner of a module opens its section, whatever the module is called. -/
theorem banner_bannerLine {name : String} (hne : name ≠ "")
    (hname : ∀ c ∈ name.toList, isBlank c = false) (m : Magnitude) :
    banner (bannerLine name m) = .module name := by
  have hwords : ∀ before after : List Char,
      ¬ before ++ ['D', ' ', 'M'] ++ after <:+: bannerLine name m :=
    fun before after h => not_infix_bannerLine hname m ((List.infix_append before _ after).trans h)
  refine opens_iff.mp (.module (hwords "ADDE".toList "ODULES".toList)
    (hwords "REMOVE".toList "ODULES".toList) ?_)
  refine ⟨dashes, dashes, m, ⟨[], by simp, by simp⟩, ⟨[], by simp, by simp⟩, ?_, hname,
    bannerLine_eq name m⟩
  simpa using hne

theorem banner_addedModules (m : Magnitude) :
    banner (bannerLine "ADDED MODULES" m) = .addedModules := by
  cases m <;> decide

theorem banner_removedModules (m : Magnitude) :
    banner (bannerLine "REMOVED MODULES" m) = .removedModules := by
  cases m <;> decide

theorem trim_of_indents {t line : List Char} (h : Indents t line) : trim line = trim t := by
  obtain ⟨hindent⟩ := h
  exact trim_blank_append hindent t

theorem trim_headingLine (kind : ChangeKind) : trim (headingLine kind) = headingLine kind := by
  cases kind <;> decide

/-- An entry of a list of modules is its name, and is taken for nothing else. -/
theorem trim_of_entry {name : String} {line : List Char} (hname : IsEntry name)
    (h : Entry name line) : trim line = name.toList ∧ isIndented line ∧
      ¬ isBanner (trim line) ∧ ¬ (trim line).isEmpty := by
  obtain ⟨hindent⟩ := h
  have htrim : trim name.toList = name.toList := by
    rw [← String.toList_ofList (l := trim name.toList), ← trimmed, hname.trimmed]
  rw [trim_blank_append hindent, htrim]
  refine ⟨rfl, (List.forall_mem_cons.mp hindent).1, fun hbanner => hname.noBanner ?_, ?_⟩
  · exact List.isPrefixOf_iff_prefix.mp hbanner
  · simpa using hname.nonempty

/-- What a symbol may have in front of it. -/
inductive Sign : List Char → Prop
  | none : Sign []
  | minus : Sign ['-', ' ']
  | plus : Sign ['+', ' ']

/-- A declaration names its symbol whatever type follows, and is taken for nothing else. -/
theorem symbol?_declaration {sign type line : List Char} {symbol : String}
    (hsymbol : IsIdentifier symbol) (hsign : Sign sign)
    (h : Indents (sign ++ declaration symbol type) line) :
    symbol? (trim line) = some symbol ∧ ¬ isBanner (trim line) ∧ ¬ (trim line).isEmpty := by
  obtain ⟨first, more, hname, hfirst, hmore⟩ := hsymbol
  rw [← isLetter_iff] at hfirst
  have hblank : ¬ isBlank first := isBlank_of_isLetter hfirst
  have hletter : ∀ c, isLetter c = false → first ≠ c := by
    rintro c hc rfl
    rw [hc] at hfirst
    contradiction
  have htrim : trim line = sign ++ (symbol.toList ++ ' ' :: ':' :: trimEnd (' ' :: type)) := by
    have hcolon : sign ++ declaration symbol type =
        (sign ++ (symbol.toList ++ [' '])) ++ ':' :: ' ' :: type := by simp [declaration]
    rw [trim_of_indents h, trim_of_head, hcolon, trimEnd_append_cons (by decide)]
    · simp
    · rw [declaration, hname]
      intro c hc
      cases hsign with
      | none => rwa [← Option.some.inj hc]
      | minus | plus =>
        rw [← Option.some.inj hc]
        decide
  have hspace : ∀ s, trimStart (' ' :: (symbol.toList ++ s)) = symbol.toList ++ s := by
    intro s
    rw [trimStart, List.dropWhile_cons_of_pos (by decide), hname, List.cons_append,
      List.dropWhile_cons_of_neg hblank]
  have hdeclares : Declares (trim line) symbol := by
    refine ⟨first, more, trimEnd (' ' :: type), hname, hfirst,
      fun c hc => isNameChar_iff.mpr (hmore c hc), ?_⟩
    rw [htrim]
    cases hsign with
    | none =>
      refine .bare ?_ ?_
      · simpa [hname] using hletter '+' (by decide)
      · simpa [hname] using hletter '-' (by decide)
    | minus =>
      have hminus := Unmarked.minus (' ' :: (symbol.toList ++ ' ' :: ':' :: trimEnd (' ' :: type)))
      rwa [hspace] at hminus
    | plus =>
      have hplus := Unmarked.plus (' ' :: (symbol.toList ++ ' ' :: ':' :: trimEnd (' ' :: type)))
      rwa [hspace] at hplus
  refine ⟨symbol?_eq_some.mpr hdeclares, ?_, ?_⟩
  · rw [htrim, hname, isBanner, dashes]
    cases hsign with
    | none => simpa using fun h => absurd h.symm (hletter '-' (by decide))
    | minus | plus => simp
  · rw [htrim, hname]
    simp

theorem IsIdentifier.oneLine {symbol : String} (h : IsIdentifier symbol) :
    '\n' ∉ symbol.toList := by
  obtain ⟨first, more, hname, hfirst, hmore⟩ := h
  have hchars : ∀ c ∈ symbol.toList, IsAsciiLetter c ∨ '0' ≤ c ∧ c ≤ '9' ∨ c = '_' := by
    rw [hname]
    exact List.forall_mem_cons.mpr ⟨.inl hfirst, hmore⟩
  intro hmem
  rcases hchars '\n' hmem with (h | h) | h | h <;> exact absurd h (by decide)

theorem padded_refl (ls : List (List Char)) : Padded ls ls := by
  induction ls with
  | nil => exact .nil
  | cons l ls ih => exact .line l ih

theorem isBlank_indent : ∀ c ∈ indent, isBlank c := List.all_eq_true.mp (by decide)

theorem indents_indent (t : List Char) : Indents t (indent ++ t) := .mk isBlank_indent

theorem item_itemLines (kind : ChangeKind) (symbol : String) :
    Item symbol kind (itemLines kind symbol) := by
  cases kind with
  | added => exact .added (indents_indent _)
  | changed => exact .changed (indents_indent _) (indents_indent _)
  | removed => exact .removed (indents_indent _)

theorem listing_listingLines (kind : ChangeKind) (symbols : List String) :
    Listing kind symbols (listingLines kind symbols) :=
  .headed (indents_indent _)
    (List.forall₂_map_right_iff.mpr (List.forall₂_same.mpr fun s _ => item_itemLines kind s))

theorem moduleSection_sectionLines (r : ModuleReport) : ModuleSection r (sectionLines r) :=
  .mk .patch (listing_listingLines _ _) (listing_listingLines _ _) (listing_listingLines _ _)

theorem moduleList_moduleListLines (title : String) (names : List String) :
    ModuleList title names (moduleListLines title names) :=
  .listed .patch
    (List.forall₂_map_right_iff.mpr (List.forall₂_same.mpr fun _ _ => .mk isBlank_indent))

theorem not_mem_bannerLine {title : String} (h : '\n' ∉ title.toList) (m : Magnitude) :
    '\n' ∉ bannerLine title m := by
  rw [bannerLine_eq]
  cases m <;> simp [dashes, Magnitude.text, h]

theorem not_mem_itemLines {kind : ChangeKind} {symbol : String} (h : IsIdentifier symbol) :
    ∀ line ∈ itemLines kind symbol, '\n' ∉ line := by
  have hsymbol := h.oneLine
  cases kind <;> simp [itemLines, declaration, indent, hsymbol]

theorem not_mem_listingLines {kind : ChangeKind} {symbols : List String}
    (h : ∀ symbol ∈ symbols, IsIdentifier symbol) :
    ∀ line ∈ listingLines kind symbols, '\n' ∉ line := by
  rw [listingLines, List.forall_mem_cons]
  refine ⟨by cases kind <;> decide, fun line hline => ?_⟩
  obtain ⟨lines, hlines, hline⟩ := List.mem_flatten.mp hline
  obtain ⟨symbol, hsymbol, rfl⟩ := List.mem_map.mp hlines
  exact not_mem_itemLines (h symbol hsymbol) line hline

theorem not_mem_sectionLines {m : ModuleReport} (h : m.WellFormed) :
    ∀ line ∈ sectionLines m, '\n' ∉ line := by
  have hname : '\n' ∉ m.name.toList := fun hmem => h.unblank '\n' hmem (by decide)
  have hsymbols := h.identifiers
  rw [ModuleReport.symbols, List.forall_mem_append, List.forall_mem_append] at hsymbols
  rw [sectionLines, List.forall_mem_cons, List.forall_mem_append, List.forall_mem_append]
  exact ⟨not_mem_bannerLine hname _, not_mem_listingLines hsymbols.1.1,
    not_mem_listingLines hsymbols.1.2, not_mem_listingLines hsymbols.2⟩

theorem not_mem_moduleListLines {title : String} {names : List String}
    (htitle : '\n' ∉ title.toList)
    (h : ∀ name ∈ names, IsEntry name) : ∀ line ∈ moduleListLines title names, '\n' ∉ line := by
  rw [moduleListLines, List.forall_mem_cons]
  refine ⟨not_mem_bannerLine htitle _, fun line hline => ?_⟩
  obtain ⟨name, hname, rfl⟩ := List.mem_map.mp hline
  simpa [indent] using (h name hname).oneLine

/-- Every report can be written. -/
theorem exists_writes {r : ApiReport} (h : r.WellFormed) : ∃ text, Writes r text := by
  refine ⟨String.ofList (['\n'].intercalate (announcementLine r.magnitude :: reportLines r)), ?_⟩
  refine .mk (moduleList_moduleListLines _ _) (moduleList_moduleListLines _ _)
    (List.forall₂_map_right_iff.mpr
      (List.forall₂_same.mpr fun m _ => moduleSection_sectionLines m))
    (padded_refl _) ?_ String.toList_ofList
  rw [List.forall_mem_append, List.forall_mem_append]
  refine ⟨not_mem_moduleListLines (by decide) h.added,
    not_mem_moduleListLines (by decide) h.removed, fun line hline => ?_⟩
  obtain ⟨lines, hlines, hline⟩ := List.mem_flatten.mp hline
  obtain ⟨m, hm, rfl⟩ := List.mem_map.mp hlines
  exact not_mem_sectionLines (h.modules m hm) line hline

end ReleasePreview.Report
