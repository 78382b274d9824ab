import Mathlib.Data.List.Basic
import ReleasePreview.Text.Split

/-!
The pieces of a text are its lines with their terminators, and a bare piece is a line without one.
Bare lines end at line feeds only.
-/
namespace ReleasePreview.Text

/-- The body of a line: no character of it ends a line. -/
def Unbroken (body : List Char) : Prop := ∀ c ∈ body, c ≠ '\r' ∧ c ≠ '\n'

/-- A text cut behind each terminator: a line feed, a carriage return and line feed together, or a
carriage return with no line feed behind it. The last token may lack one. -/
inductive Tokens : List Char → List (List Char) → Prop
  | nil : Tokens [] []
  | last {b : List Char} (hne : b ≠ []) (hb : Unbroken b) : Tokens b [b]
  | lineFeed {b s : List Char} {ts : List (List Char)} (hb : Unbroken b) (h : Tokens s ts) :
      Tokens (b ++ '\n' :: s) ((b ++ ['\n']) :: ts)
  | both {b s : List Char} {ts : List (List Char)} (hb : Unbroken b) (h : Tokens s ts) :
      Tokens (b ++ '\r' :: '\n' :: s) ((b ++ ['\r', '\n']) :: ts)
  | carriageReturn {b s : List Char} {ts : List (List Char)} (hb : Unbroken b)
      (hs : s.head? ≠ some '\n') (h : Tokens s ts) :
      Tokens (b ++ '\r' :: s) ((b ++ ['\r']) :: ts)

/-- A token without a final line feed, and without a carriage return before that line feed. -/
inductive Strips : List Char → List Char → Prop
  | both (t : List Char) : Strips (t ++ ['\r', '\n']) t
  | lineFeed {t : List Char} (h : t.getLast? ≠ some '\r') : Strips (t ++ ['\n']) t
  | whole {t : List Char} (h : t.getLast? ≠ some '\n') : Strips t t

/-- A text cut at each line feed, which is dropped together with a carriage return before it. The
last line may lack one. -/
inductive Broken : List Char → List (List Char) → Prop
  | nil : Broken [] []
  | last {l : List Char} (hne : l ≠ []) (hl : '\n' ∉ l) : Broken l [l]
  | lineFeed {l s : List Char} {ls : List (List Char)} (hl : '\n' ∉ l)
      (hr : l.getLast? ≠ some '\r') (h : Broken s ls) : Broken (l ++ '\n' :: s) (l :: ls)
  | both {l s : List Char} {ls : List (List Char)} (hl : '\n' ∉ l) (h : Broken s ls) :
      Broken (l ++ '\r' :: '\n' :: s) (l :: ls)

theorem unbroken_nil : Unbroken [] := by simp [Unbroken]

theorem unbroken_cons {c : Char} {body : List Char} :
    Unbroken (c :: body) ↔ (c ≠ '\r' ∧ c ≠ '\n') ∧ Unbroken body := List.forall_mem_cons

theorem pieces_cons {c : Char} (hc : c ≠ '\r' ∧ c ≠ '\n') (s : List Char) :
    pieces (c :: s) = match pieces s with
      | [] => [[c]]
      | p :: ps => (c :: p) :: ps := by
  conv_lhs => unfold pieces
  split
  · contradiction
  · next hcons => exact absurd (List.cons.inj hcons).1 hc.1
  · next hcons => exact absurd (List.cons.inj hcons).1 hc.1
  · next hcons => exact absurd (List.cons.inj hcons).1 hc.2
  · next hcons =>
    obtain ⟨rfl, rfl⟩ := List.cons.inj hcons
    rfl

theorem flatten_pieces (s : List Char) : (pieces s).flatten = s := by
  fun_induction pieces s with
  | case1 => rfl
  | case2 s ih => simp [ih]
  | case3 s _ ih => simp [ih]
  | case4 s ih => simp [ih]
  | case5 c s _ _ _ hp ih =>
    rw [hp] at ih
    simp [← ih]
  | case6 c s _ _ _ p ps hp ih =>
    rw [hp] at ih
    simp [← ih]

theorem pieces_injective : Function.Injective pieces := by
  intro s t h
  rw [← flatten_pieces s, ← flatten_pieces t, h]

namespace Tokens

theorem cons_body {c : Char} {s : List Char} {t : List Char} {ts : List (List Char)}
    (hc : c ≠ '\r' ∧ c ≠ '\n') (h : Tokens s (t :: ts)) : Tokens (c :: s) ((c :: t) :: ts) := by
  cases h with
  | last hne hb => exact .last (List.cons_ne_nil _ _) (unbroken_cons.mpr ⟨hc, hb⟩)
  | lineFeed hb h => exact .lineFeed (b := c :: _) (unbroken_cons.mpr ⟨hc, hb⟩) h
  | both hb h => exact .both (b := c :: _) (unbroken_cons.mpr ⟨hc, hb⟩) h
  | carriageReturn hb hs h =>
    exact .carriageReturn (b := c :: _) (unbroken_cons.mpr ⟨hc, hb⟩) hs h

end Tokens

theorem tokens_pieces (s : List Char) : Tokens s (pieces s) := by
  fun_induction pieces s with
  | case1 => exact .nil
  | case2 s ih => exact .both unbroken_nil ih
  | case3 s hs ih =>
    refine .carriageReturn unbroken_nil (fun h => ?_) ih
    obtain ⟨s', rfl⟩ := List.head?_eq_some_iff.mp h
    exact hs s' rfl
  | case4 s ih => exact .lineFeed unbroken_nil ih
  | case5 c s _ hr hn hp ih =>
    rw [hp] at ih
    cases ih
    exact .last (List.cons_ne_nil _ _) (unbroken_cons.mpr ⟨⟨hr, hn⟩, unbroken_nil⟩)
  | case6 c s _ hr hn p ps hp ih =>
    rw [hp] at ih
    exact ih.cons_body ⟨hr, hn⟩

/-- What stands before the first terminator belongs to the first piece. -/
theorem pieces_append {body s p : List Char} {ps : List (List Char)} (hb : Unbroken body)
    (h : pieces s = p :: ps) : pieces (body ++ s) = (body ++ p) :: ps := by
  induction body with
  | nil => exact h
  | cons c body ih =>
    obtain ⟨hc, hb'⟩ := unbroken_cons.mp hb
    rw [List.cons_append, pieces_cons hc, ih hb']
    rfl

theorem pieces_unbroken {body : List Char} (hne : body ≠ []) (hb : Unbroken body) :
    pieces body = [body] := by
  induction body with
  | nil => exact absurd rfl hne
  | cons c body ih =>
    obtain ⟨hc, hb'⟩ := unbroken_cons.mp hb
    rw [pieces_cons hc]
    cases body with
    | nil => rfl
    | cons d body => rw [ih (List.cons_ne_nil _ _) hb']

/-- There is one way to cut a text into tokens. -/
theorem Tokens.eq_pieces {s : List Char} {ts : List (List Char)} (h : Tokens s ts) :
    ts = pieces s := by
  induction h with
  | nil => rfl
  | last hne hb => exact (pieces_unbroken hne hb).symm
  | lineFeed hb _ ih =>
    subst ih
    exact (pieces_append hb (by rw [pieces])).symm
  | both hb _ ih =>
    subst ih
    exact (pieces_append hb (by rw [pieces])).symm
  | carriageReturn hb hs _ ih =>
    subst ih
    refine (pieces_append hb ?_).symm
    rw [pieces]
    rintro s' rfl
    exact hs rfl

theorem tokens_iff {s : List Char} {ts : List (List Char)} : Tokens s ts ↔ ts = pieces s := by
  constructor
  · exact Tokens.eq_pieces
  · rintro rfl
    exact tokens_pieces s

theorem strips_bare (t : List Char) : Strips t (bare t) := by
  fun_induction bare t with
  | case1 => exact .whole (by simp)
  | case2 => exact .both []
  | case3 => exact .lineFeed (t := []) (by simp)
  | case4 c s hboth hfeed ih =>
    generalize bare s = text at ih
    cases ih with
    | both => exact .both (c :: text)
    | lineFeed h =>
      refine .lineFeed (t := c :: text) fun hlast => ?_
      cases text with
      | nil => exact hboth (Option.some.inj hlast) rfl
      | cons d text => exact h (by rwa [List.getLast?_cons_cons] at hlast)
    | whole h =>
      refine .whole (t := c :: _) fun hlast => ?_
      cases s with
      | nil => exact hfeed (Option.some.inj hlast) rfl
      | cons d s => exact h (by rwa [List.getLast?_cons_cons] at hlast)

theorem lines_cons {c : Char} {s : List Char} (hn : c ≠ '\n')
    (hr : c = '\r' → s.head? ≠ some '\n') : lines (c :: s) = match lines s with
      | [] => [[c]]
      | l :: ls => (c :: l) :: ls := by
  conv_lhs => unfold lines
  split
  · contradiction
  · next hcons =>
    obtain ⟨rfl, rfl⟩ := List.cons.inj hcons
    exact absurd rfl (hr rfl)
  · next hcons => exact absurd (List.cons.inj hcons).1 hn
  · next hcons =>
    obtain ⟨rfl, rfl⟩ := List.cons.inj hcons
    rfl

private theorem lines_last {l : List Char} (hne : l ≠ []) (hl : '\n' ∉ l) : lines l = [l] := by
  induction l with
  | nil => exact absurd rfl hne
  | cons c l ih =>
    rw [List.mem_cons, not_or] at hl
    cases l with
    | nil => rw [lines_cons (Ne.symm hl.1) (by simp)]; rfl
    | cons d l =>
      have hd : d ≠ '\n' := by
        rintro rfl
        exact hl.2 List.mem_cons_self
      rw [lines_cons (Ne.symm hl.1) (by simpa using fun _ => hd), ih (List.cons_ne_nil _ _) hl.2]

private theorem lines_lineFeed {l : List Char} (s : List Char) (hl : '\n' ∉ l)
    (hr : l.getLast? ≠ some '\r') : lines (l ++ '\n' :: s) = l :: lines s := by
  induction l with
  | nil => rw [List.nil_append, lines]
  | cons c l ih =>
    rw [List.mem_cons, not_or] at hl
    cases l with
    | nil =>
      have hc : c ≠ '\r' := by simpa using hr
      rw [List.cons_append, lines_cons (Ne.symm hl.1) fun h => absurd h hc, ih hl.2 (by simp)]
    | cons d l =>
      have hd : d ≠ '\n' := by
        rintro rfl
        exact hl.2 List.mem_cons_self
      rw [List.getLast?_cons_cons] at hr
      rw [List.cons_append, lines_cons (Ne.symm hl.1) (by simpa using fun _ => hd), ih hl.2 hr]

private theorem lines_both {l : List Char} (s : List Char) (hl : '\n' ∉ l) :
    lines (l ++ '\r' :: '\n' :: s) = l :: lines s := by
  induction l with
  | nil => rw [List.nil_append, lines]
  | cons c l ih =>
    rw [List.mem_cons, not_or] at hl
    have hhead : (l ++ '\r' :: '\n' :: s).head? ≠ some '\n' := by
      cases l with
      | nil => simp
      | cons d l =>
        have hd : d ≠ '\n' := by
          rintro rfl
          exact hl.2 List.mem_cons_self
        simpa using hd
    rw [List.cons_append, lines_cons (Ne.symm hl.1) fun _ => hhead, ih hl.2]

theorem Broken.cons {c : Char} {s l : List Char} {ls : List (List Char)} (hn : c ≠ '\n')
    (hr : c = '\r' → s.head? ≠ some '\n') (h : Broken s (l :: ls)) :
    Broken (c :: s) ((c :: l) :: ls) := by
  have hnot : ∀ {l : List Char}, '\n' ∉ l → '\n' ∉ c :: l := fun hl =>
    List.not_mem_cons_of_ne_of_not_mem (Ne.symm hn) hl
  cases h with
  | last hne hl => exact .last (List.cons_ne_nil _ _) (hnot hl)
  | both hl h => exact .both (l := c :: _) (hnot hl) h
  | lineFeed hl hlast h =>
    refine .lineFeed (l := c :: _) (hnot hl) (fun hcr => ?_) h
    cases l with
    | nil => exact hr (Option.some.inj hcr) rfl
    | cons d l => exact hlast (by rwa [List.getLast?_cons_cons] at hcr)

/-- There is one way to break a text into lines. -/
theorem broken_iff {s : List Char} {ls : List (List Char)} : Broken s ls ↔ ls = lines s := by
  constructor
  · intro h
    induction h with
    | nil => rfl
    | last hne hl => exact (lines_last hne hl).symm
    | lineFeed hl hr _ ih => rw [ih, lines_lineFeed _ hl hr]
    | both hl _ ih => rw [ih, lines_both _ hl]
  · rintro rfl
    fun_induction lines s with
    | case1 => exact .nil
    | case2 s ih => exact .both (l := []) List.not_mem_nil ih
    | case3 s ih => exact .lineFeed (l := []) List.not_mem_nil (by simp) ih
    | case4 c s hr hn hp ih =>
      rw [hp] at ih
      cases ih
      exact .last (List.cons_ne_nil _ _) (by simpa using Ne.symm hn)
    | case5 c s hr hn l ls hp ih =>
      rw [hp] at ih
      refine ih.cons hn fun hc hs => ?_
      obtain ⟨s', rfl⟩ := List.head?_eq_some_iff.mp hs
      exact hr s' hc rfl

/-- No line has a line feed in it. -/
theorem Broken.not_mem {s l : List Char} {ls : List (List Char)} (h : Broken s ls) (hl : l ∈ ls) :
    '\n' ∉ l := by
  induction h with
  | nil => exact absurd hl List.not_mem_nil
  | last _ hbody => rwa [List.mem_singleton.mp hl]
  | lineFeed hbody _ _ ih =>
    rcases List.mem_cons.mp hl with rfl | hl
    · exact hbody
    · exact ih hl
  | both hbody _ ih =>
    rcases List.mem_cons.mp hl with rfl | hl
    · exact hbody
    · exact ih hl

/-- A line feed ends a line, and takes a carriage return at its end along. -/
theorem exists_lines_cut {l : List Char} (hl : '\n' ∉ l) (b : List Char) :
    ∃ l', lines (l ++ '\n' :: b) = l' :: lines b ∧ (l = l' ∨ l = l' ++ ['\r']) := by
  by_cases hlast : l.getLast? = some '\r'
  · obtain ⟨body, rfl⟩ := List.getLast?_eq_some_iff.mp hlast
    have hbody : '\n' ∉ body := fun hmem => hl (List.mem_append_left _ hmem)
    have hbroken : Broken (body ++ '\r' :: '\n' :: b) (body :: lines b) :=
      .both hbody (broken_iff.mpr rfl)
    refine ⟨body, ?_, .inr rfl⟩
    rw [List.append_assoc, List.singleton_append, ← broken_iff.mp hbroken]
  · have hbroken : Broken (l ++ '\n' :: b) (l :: lines b) :=
      .lineFeed hl hlast (broken_iff.mpr rfl)
    exact ⟨l, (broken_iff.mp hbroken).symm, .inl rfl⟩

end ReleasePreview.Text
