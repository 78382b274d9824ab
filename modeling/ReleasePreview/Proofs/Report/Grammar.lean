import Mathlib.Data.List.TakeWhile
import Mathlib.Data.Option.Basic
import ReleasePreview.Report.Line

/-! The forms that the lines of a report can have, and the readers of a line that decide them. -/
namespace ReleasePreview.Report

open Text

def Announces (line : List Char) (m : Magnitude) : Prop :=
  ("This is a " ++ m.text ++ " change").toList <+: trim line

/-- Four dashes or more. -/
def Dashes (s : List Char) : Prop := ∃ more, (∀ c ∈ more, c = '-') ∧ s = dashes ++ more

/-- The banner of a module: dashes, its name, a magnitude, dashes. -/
def Names (t : List Char) (name : String) : Prop :=
  ∃ (left right : List Char) (m : Magnitude), Dashes left ∧ Dashes right ∧
    name.toList ≠ [] ∧ (∀ c ∈ name.toList, isBlank c = false) ∧
    t = left ++ ' ' :: (name.toList ++ ' ' :: '-' :: ' ' :: (m.text.toList ++ ' ' :: right))

/-- What a banner opens. The words for whole modules count before a name does. -/
inductive Opens (t : List Char) : Banner → Prop
  | addedModules (ha : "ADDED MODULES".toList <:+: t) : Opens t .addedModules
  | removedModules (ha : ¬ "ADDED MODULES".toList <:+: t) (hr : "REMOVED MODULES".toList <:+: t) :
      Opens t .removedModules
  | module {name : String} (ha : ¬ "ADDED MODULES".toList <:+: t)
      (hr : ¬ "REMOVED MODULES".toList <:+: t) (hname : Names t name) : Opens t (.module name)
  | closing (ha : ¬ "ADDED MODULES".toList <:+: t) (hr : ¬ "REMOVED MODULES".toList <:+: t)
      (hname : ∀ name, ¬ Names t name) : Opens t .closing

/-- The headings of the lists of symbols. -/
inductive Heads : List Char → ChangeKind → Prop
  | added : Heads "Added:".toList .added
  | changed : Heads "Changed:".toList .changed
  | removed : Heads "Removed:".toList .removed

/-- An item without its sign, if it has one, and the blanks behind it. -/
inductive Unmarked : List Char → List Char → Prop
  | plus (s : List Char) : Unmarked ('+' :: s) (trimStart s)
  | minus (s : List Char) : Unmarked ('-' :: s) (trimStart s)
  | bare {t : List Char} (hplus : t.head? ≠ some '+') (hminus : t.head? ≠ some '-') : Unmarked t t

/-- An item of a list of symbols: an identifier, a space and a colon. -/
def Declares (t : List Char) (symbol : String) : Prop :=
  ∃ (first : Char) (more rest : List Char), symbol.toList = first :: more ∧ isLetter first ∧
    (∀ c ∈ more, isNameChar c) ∧ Unmarked t (symbol.toList ++ ' ' :: ':' :: rest)

theorem occursIn_iff {needle s : List Char} : occursIn needle s ↔ needle <:+: s := by
  induction s with
  | nil => rw [occursIn, List.isEmpty_iff, List.infix_nil]
  | cons c s ih =>
    rw [occursIn, Bool.or_eq_true, ih, List.isPrefixOf_iff_prefix, List.infix_cons_iff]

theorem stripPrefix?_eq_some {start s rest : List Char} :
    stripPrefix? start s = some rest ↔ s = start ++ rest := by
  rw [stripPrefix?]
  split
  · next h =>
    obtain ⟨u, rfl⟩ := List.isPrefixOf_iff_prefix.mp h
    rw [List.drop_left, Option.some_inj, List.append_cancel_left_eq]
  · next h =>
    simp only [reduceCtorEq, false_iff]
    rintro rfl
    exact h (List.isPrefixOf_iff_prefix.mpr (List.prefix_append start rest))

/-- Characters of one kind end at the first character of another. -/
theorem span_iff {p : Char → Bool} {s front rest : List Char} {c : Char} (hc : p c = false) :
    s.takeWhile p = front ∧ s.dropWhile p = c :: rest ↔
      (∀ d ∈ front, p d) ∧ s = front ++ c :: rest := by
  constructor
  · rintro ⟨rfl, hdrop⟩
    exact ⟨fun d hd => List.mem_takeWhile_imp hd, by rw [← hdrop, List.takeWhile_append_dropWhile]⟩
  · rintro ⟨hfront, rfl⟩
    rw [List.takeWhile_append_of_pos hfront, List.dropWhile_append_of_pos hfront,
      List.takeWhile_cons_of_neg (by simp [hc]), List.dropWhile_cons_of_neg (by simp [hc])]
    exact ⟨List.append_nil front, rfl⟩

private theorem findSome?_magnitude {t rest : List Char} :
    Magnitude.all.findSome? (fun m => stripPrefix? m.text.toList t) = some rest ↔
      ∃ m : Magnitude, t = m.text.toList ++ rest := by
  constructor
  · intro h
    obtain ⟨m, -, hm⟩ := List.exists_of_findSome?_eq_some h
    exact ⟨m, stripPrefix?_eq_some.mp hm⟩
  · rintro ⟨m, rfl⟩
    cases m <;> simp [Magnitude.all, Magnitude.text, stripPrefix?]

theorem bannerName?_eq_some {t : List Char} {name : String} :
    bannerName? t = some name ↔ Names t name := by
  have hdashes : ∀ s : List Char, s.all (· == '-') ↔ ∀ c ∈ s, c = '-' := by simp
  simp only [bannerName?, Option.bind_eq_bind, Option.bind_eq_some_iff, stripPrefix?_eq_some,
    findSome?_magnitude, Option.guard_eq_some', hdashes, Bool.not_eq_true',
    List.isEmpty_eq_false_iff, List.cons_append, List.nil_append, Option.pure_def, Option.some_inj]
  constructor
  · rintro ⟨t₁, rfl, t₂, ht₁, -, hne, t₃, ht₂, t₄, ⟨m, rfl⟩, t₅, rfl, after, rfl, -, hafter, rfl⟩
    obtain ⟨hleft, ht₁⟩ := (span_iff (by decide)).mp ⟨rfl, ht₁⟩
    obtain ⟨hfull, ht₂⟩ := (span_iff (by decide)).mp ⟨rfl, ht₂⟩
    refine ⟨dashes ++ t₁.takeWhile (· == '-'), dashes ++ after, m, ⟨_, ?_, rfl⟩,
      ⟨after, hafter, rfl⟩, ?_, ?_, ?_⟩
    · simpa using hleft
    · rwa [String.toList_ofList]
    · rw [String.toList_ofList]
      simpa using hfull
    · rw [String.toList_ofList, ← ht₂, List.append_assoc, ← ht₁]
  · rintro ⟨left, right, m, ⟨before, hbefore, rfl⟩, ⟨after, hafter, rfl⟩, hne, hfull, rfl⟩
    have hleft : ∀ s, (before ++ ' ' :: s).dropWhile (· == '-') = ' ' :: s :=
      fun s => ((span_iff (by decide)).mpr ⟨by simpa using hbefore, rfl⟩).2
    have hname : ∀ s, (name.toList ++ ' ' :: s).takeWhile (!isBlank ·) = name.toList ∧
        (name.toList ++ ' ' :: s).dropWhile (!isBlank ·) = ' ' :: s :=
      fun s => (span_iff (by decide)).mpr ⟨by simpa using hfull, rfl⟩
    refine ⟨_, List.append_assoc _ _ _, _, hleft _, (), ?_, _, (hname _).2, _, ⟨m, rfl⟩, _, rfl,
      after, rfl, (), hafter, ?_⟩
    · rwa [(hname _).1]
    · rw [(hname _).1, String.ofList_toList]

theorem announcement?_eq_some {line : List Char} {m : Magnitude} :
    announcement? line = some m ↔ Announces line m := by
  rw [announcement?, Announces, ← List.isPrefixOf_iff_prefix]
  constructor
  · intro h
    exact List.find?_some (p := fun m : Magnitude =>
      ("This is a " ++ m.text ++ " change").toList.isPrefixOf (trim line)) h
  · intro h
    obtain ⟨rest, hrest⟩ := List.isPrefixOf_iff_prefix.mp h
    rw [← hrest]
    cases m <;> rfl

theorem isBanner_iff {t : List Char} : isBanner t ↔ ['-', '-', '-', '-'] <+: t :=
  List.isPrefixOf_iff_prefix

theorem heading?_eq_some {t : List Char} {kind : ChangeKind} :
    heading? t = some kind ↔ Heads t kind := by
  constructor
  · intro h
    unfold heading? at h
    split_ifs at h with hadded hchanged hremoved
    · obtain rfl := Option.some.inj h
      exact hadded ▸ .added
    · obtain rfl := Option.some.inj h
      exact hchanged ▸ .changed
    · obtain rfl := Option.some.inj h
      exact hremoved ▸ .removed
  · rintro (_ | _ | _) <;> rfl

theorem isIndented_iff {line : List Char} :
    isIndented line ↔ ∃ c rest, line = c :: rest ∧ isBlank c := by
  cases line with
  | nil => simp [isIndented]
  | cons c rest => simp [isIndented]

theorem opens_iff {t : List Char} {b : Banner} : Opens t b ↔ banner t = b := by
  constructor
  · intro h
    cases h with
    | addedModules ha => rw [banner, if_pos (occursIn_iff.mpr ha)]
    | removedModules ha hr =>
      rw [banner, if_neg (mt occursIn_iff.mp ha), if_pos (occursIn_iff.mpr hr)]
    | module ha hr hname =>
      rw [banner, if_neg (mt occursIn_iff.mp ha), if_neg (mt occursIn_iff.mp hr),
        bannerName?_eq_some.mpr hname]
    | closing ha hr hname =>
      have hnone : bannerName? t = none :=
        Option.eq_none_iff_forall_ne_some.mpr fun name h => hname name (bannerName?_eq_some.mp h)
      rw [banner, if_neg (mt occursIn_iff.mp ha), if_neg (mt occursIn_iff.mp hr), hnone]
  · rintro rfl
    rw [banner]
    split
    · next ha => exact .addedModules (occursIn_iff.mp ha)
    · next ha =>
      rw [occursIn_iff] at ha
      split
      · next hr => exact .removedModules ha (occursIn_iff.mp hr)
      · next hr =>
        rw [occursIn_iff] at hr
        split
        · next name hname => exact .module ha hr (bannerName?_eq_some.mp hname)
        · next hnone =>
          refine .closing ha hr fun name hname => ?_
          rw [bannerName?_eq_some.mpr hname] at hnone
          contradiction

private theorem exists_unmarked (t : List Char) : ∃ u, Unmarked t u := by
  by_cases hplus : t.head? = some '+'
  · obtain ⟨s, rfl⟩ := List.head?_eq_some_iff.mp hplus
    exact ⟨_, .plus s⟩
  · by_cases hminus : t.head? = some '-'
    · obtain ⟨s, rfl⟩ := List.head?_eq_some_iff.mp hminus
      exact ⟨_, .minus s⟩
    · exact ⟨t, .bare hplus hminus⟩

private theorem symbol?_of_unmarked {t u : List Char} {symbol : String} (h : Unmarked t u) :
    symbol? t = some symbol ↔ u.head?.any isLetter ∧
      [' ', ':'] <+: u.dropWhile isNameChar ∧ String.ofList (u.takeWhile isNameChar) = symbol := by
  have hread : symbol? t = (do
      guard (u.head?.any isLetter)
      guard ([' ', ':'].isPrefixOf (u.dropWhile isNameChar))
      return String.ofList (u.takeWhile isNameChar)) := by
    cases h with
    | plus s => rfl
    | minus s => rfl
    | bare hplus hminus =>
      rw [symbol?]
      · rintro rest rfl
        exact hplus rfl
      · rintro rest rfl
        exact hminus rfl
  simp only [hread, Option.bind_eq_bind, Option.bind_eq_some_iff, Option.guard_eq_some',
    Option.pure_def, Option.some_inj, List.isPrefixOf_iff_prefix]
  exact ⟨fun ⟨_, hfirst, _, hrest, hname⟩ => ⟨hfirst, hrest, hname⟩,
    fun ⟨hfirst, hrest, hname⟩ => ⟨(), hfirst, (), hrest, hname⟩⟩

theorem symbol?_eq_some {t : List Char} {symbol : String} :
    symbol? t = some symbol ↔ Declares t symbol := by
  have hletter : ∀ c, isLetter c → isNameChar c := by
    intro c hc
    simp [isNameChar, hc]
  constructor
  · intro h
    obtain ⟨u, hu⟩ := exists_unmarked t
    obtain ⟨hfirst, ⟨rest, hrest⟩, rfl⟩ := (symbol?_of_unmarked hu).mp h
    obtain ⟨hname, hsplit⟩ := (span_iff (by decide)).mp ⟨rfl, hrest.symm⟩
    cases u with
    | nil => simp at hfirst
    | cons c u =>
      have hc : isLetter c := by simpa using hfirst
      rw [List.takeWhile_cons_of_pos (hletter c hc)] at hname hsplit
      refine ⟨c, u.takeWhile isNameChar, rest, ?_, hc, ?_, ?_⟩
      · rw [String.toList_ofList, List.takeWhile_cons_of_pos (hletter c hc)]
      · exact fun d hd => hname d (List.mem_cons_of_mem c hd)
      · rw [String.toList_ofList, List.takeWhile_cons_of_pos (hletter c hc)]
        rw [hsplit] at hu
        exact hu
  · rintro ⟨first, more, rest, hsymbol, hfirst, hmore, hu⟩
    have hname : ∀ c ∈ symbol.toList, isNameChar c := by
      rw [hsymbol]
      exact List.forall_mem_cons.mpr ⟨hletter first hfirst, hmore⟩
    obtain ⟨htake, hdrop⟩ := (span_iff (p := isNameChar) (c := ' ') (by decide)).mpr
      ⟨hname, rfl⟩
    refine (symbol?_of_unmarked hu).mpr ⟨?_, ?_, ?_⟩
    · rw [hsymbol]
      simpa using hfirst
    · rw [hdrop]
      exact ⟨rest, rfl⟩
    · rw [htake, String.ofList_toList]

end ReleasePreview.Report
