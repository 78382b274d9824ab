import Mathlib.Data.List.Basic
import ReleasePreview.Json.Render
import ReleasePreview.Json.Token
import ReleasePreview.Proofs.Decimal.Natural

/-!
The tokens of a written value. Blanks between tokens do not count, so every layout of a value has
the same ones.
-/
namespace ReleasePreview.Json

/-- How a text falls into tokens. -/
inductive Lexes : List Char → List Token → Prop
  | nil : Lexes [] []
  | space {c : Char} {s : List Char} {ts : List Token} (hc : isSpace c = true) (h : Lexes s ts) :
      Lexes (c :: s) ts
  | token {c : Char} {s rest : List Char} {t : Token} {ts : List Token} (hc : isSpace c = false)
      (hscan : scanToken c (s ++ rest) = .ok (t, rest)) (h : Lexes rest ts) :
      Lexes (c :: (s ++ rest)) (t :: ts)

theorem Lexes.tokensWithin {s : List Char} {ts : List Token} (h : Lexes s ts) :
    ∀ {fuel : Nat}, s.length ≤ fuel → tokensWithin fuel s = ts := by
  induction h with
  | nil =>
    intro fuel _
    cases fuel <;> rfl
  | space hc _ ih =>
    intro fuel hfuel
    obtain ⟨fuel, rfl⟩ := Nat.exists_eq_add_of_le' (Nat.one_le_of_lt hfuel)
    rw [List.length_cons] at hfuel
    rw [← ih (show _ ≤ fuel + 1 by omega), Json.tokensWithin, Json.tokensWithin,
      List.dropWhile_cons_of_pos hc]
  | token hc hscan _ ih =>
    intro fuel hfuel
    obtain ⟨fuel, rfl⟩ := Nat.exists_eq_add_of_le' (Nat.one_le_of_lt hfuel)
    rw [List.length_cons, List.length_append] at hfuel
    rw [Json.tokensWithin, List.dropWhile_cons_of_neg (by rw [hc]; exact Bool.false_ne_true)]
    dsimp only
    rw [hscan]
    dsimp only
    rw [ih (by omega)]

theorem Lexes.tokens {s : List Char} {ts : List Token} (h : Lexes s ts) : tokens s = ts :=
  h.tokensWithin le_rfl

theorem Lexes.spaces {s rest : List Char} {ts : List Token} (hs : ∀ c ∈ s, isSpace c = true)
    (h : Lexes rest ts) : Lexes (s ++ rest) ts := by
  induction s with
  | nil => exact h
  | cons c s ih =>
    rw [List.forall_mem_cons] at hs
    exact .space hs.1 (ih hs.2)

section Strings

variable (cs rest : List Char)

theorem scanString_control {c : Char} (hc : c.toNat < 0x20) :
    scanString ⟨cs, none, none⟩ ('\\' :: 'u' :: '0' :: '0' :: Nat.digitChar (c.toNat / 16) ::
      Nat.digitChar (c.toNat % 16) :: rest) = scanString ⟨c :: cs, none, none⟩ rest := by
  have hhigh : isHighSurrogate c.toNat = false := by simp [isHighSurrogate]; omega
  have hlow : isLowSurrogate c.toNat = false := by simp [isLowSurrogate]; omega
  rw [scanString, Decimal.positional?_control hc]
  simp only [Pending.pushUnit, hhigh, hlow, Bool.false_eq_true, if_false, Char.ofNat_toNat]

theorem scanString_plain {c : Char} (hquote : c ≠ '"') (hslash : c ≠ '\\')
    (hc : ¬ c.toNat < 0x20) :
    scanString ⟨cs, none, none⟩ (c :: rest) = scanString ⟨c :: cs, none, none⟩ rest := by
  rw [scanString, if_neg hc]
  · rfl
  all_goals simp [hquote, hslash]

/-- Every character of a string is read back, escaped or not. -/
theorem scanString_escape (c : Char) :
    scanString ⟨cs, none, none⟩ ((stringEscape? c).getD [c] ++ rest) =
      scanString ⟨c :: cs, none, none⟩ rest := by
  unfold stringEscape?
  split
  case h_8 hquote hslash _ _ _ _ _ =>
    split
    next hc => exact scanString_control cs rest hc
    next hc => exact scanString_plain cs rest hquote hslash hc
  all_goals rfl

theorem scanString_stringText (s : List Char) :
    scanString ⟨cs, none, none⟩
      (s.flatMap (fun c => (stringEscape? c).getD [c]) ++ '"' :: rest) =
      .ok (.ok (String.ofList (cs.reverse ++ s)), rest) := by
  induction s generalizing cs with
  | nil =>
    rw [List.flatMap_nil, List.nil_append, List.append_nil]
    rfl
  | cons c s ih =>
    rw [List.flatMap_cons, List.append_assoc, scanString_escape, ih, List.reverse_cons,
      List.append_assoc, List.singleton_append]

theorem Lexes.string (s : String) {rest : List Char} {ts : List Token} (h : Lexes rest ts) :
    Lexes (stringText s.toList ++ rest) (.string (.ok s) :: ts) := by
  have hscan : scanToken '"' ((s.toList.flatMap (fun c => (stringEscape? c).getD [c]) ++ ['"']) ++
      rest) = .ok (.string (.ok s), rest) := by
    rw [List.append_assoc, List.singleton_append, scanToken, Pending.start, scanString_stringText]
    simp
  exact .token rfl hscan h

end Strings
section Numbers

open Decimal

/-- Integers of 64 bits are read as they are written. -/
def Number.Exact : Number → Prop
  | natural n => n ≤ maxNatural
  | negative n => 0 < n ∧ n ≤ maxNegative
  | float _ => False

instance : DecidablePred Number.Exact
  | .natural n => inferInstanceAs (Decidable (n ≤ _))
  | .negative n => inferInstanceAs (Decidable (0 < n ∧ n ≤ _))
  | .float _ => inferInstanceAs (Decidable False)

/-- A number ends where one of these characters follows, or nothing. -/
def Delimits (s : List Char) : Prop := ∀ c ∈ s.head?, c ∈ [',', ']', '}', '\n']

theorem delimiter_notNumeric : ∀ c ∈ [',', ']', '}', '\n'],
    isDigit c = false ∧ c ≠ '.' ∧ c ≠ 'e' ∧ c ≠ 'E' := by
  intro c hc
  simp only [List.mem_cons, List.not_mem_nil, or_false] at hc
  rcases hc with rfl | rfl | rfl | rfl <;> decide

variable {rest : List Char}

theorem someDigits_append {ds : List Char} (hne : ds ≠ []) (hds : ∀ c ∈ ds, isDigit c = true)
    (hrest : Delimits rest) : someDigits (ds ++ rest) = .ok (ds, rest) := by
  have hend : rest.takeWhile isDigit = [] ∧ rest.dropWhile isDigit = rest := by
    cases rest with
    | nil => exact ⟨rfl, rfl⟩
    | cons c s =>
      have hc : isDigit c = false := (delimiter_notNumeric c (hrest c rfl)).1
      simp [hc]
  obtain ⟨c, cs, rfl⟩ := List.exists_cons_of_ne_nil hne
  have hc : isDigit c = true := hds c List.mem_cons_self
  rw [List.cons_append, someDigits, if_pos hc, ← List.cons_append,
    List.takeWhile_append_of_pos hds, List.dropWhile_append_of_pos hds, hend.1, hend.2,
    List.append_nil]

theorem wholeDigits_toDigits (n : Nat) (hrest : Delimits rest) :
    wholeDigits (Nat.toDigits 10 n ++ rest) = .ok (Nat.toDigits 10 n, rest) := by
  have hdigits : someDigits (Nat.toDigits 10 n ++ rest) = .ok (Nat.toDigits 10 n, rest) :=
    someDigits_append Nat.toDigits_ne_nil (fun c hc => isDigit_of_mem_toDigits n hc) hrest
  unfold wholeDigits
  split
  next c s heq =>
    -- A zero in front is all there is of the number, so a delimiter stands behind it.
    obtain ⟨d, ds, hds, -⟩ := exists_toDigits_eq_cons n
    rw [hds, List.cons_append] at heq
    obtain ⟨rfl, hrest'⟩ := List.cons.inj heq
    obtain rfl := toDigits_head n hds
    obtain rfl : ds = [] := (List.cons.inj hds).2.symm
    rw [List.nil_append] at hrest'
    subst hrest'
    rw [if_neg (by rw [(delimiter_notNumeric c (hrest c rfl)).1]; exact Bool.false_ne_true), hds]
  next => exact hdigits

theorem fractionDigits_of_delimits (hrest : Delimits rest) :
    fractionDigits rest = .ok (none, rest) := by
  unfold fractionDigits
  split
  next s => exact absurd rfl (delimiter_notNumeric _ (hrest _ rfl)).2.1
  next => rfl

theorem exponentDigits_of_delimits (hrest : Delimits rest) :
    exponentDigits rest = .ok (none, rest) := by
  cases rest with
  | nil => rfl
  | cons c s =>
    obtain ⟨-, -, he, hE⟩ := delimiter_notNumeric c (hrest c rfl)
    simp [exponentDigits, he, hE]

/-- Digits alone are the literal of a natural number. -/
theorem scanLiteral_natural (n : Nat) (hrest : Delimits rest) :
    scanLiteral (Nat.toDigits 10 n ++ rest) =
      .ok (⟨false, Nat.toDigits 10 n, none, none⟩, rest) := by
  obtain ⟨c, cs, hcs, hdigit⟩ := exists_toDigits_eq_cons n
  have hc : c ≠ '-' := by
    rintro rfl
    exact absurd hdigit (by decide)
  have hwhole := wholeDigits_toDigits n hrest
  rw [hcs, List.cons_append] at hwhole ⊢
  simp [scanLiteral, hc, hwhole, fractionDigits_of_delimits hrest,
    exponentDigits_of_delimits hrest, bind, Except.bind]
  rfl

theorem scanLiteral_negative (n : Nat) (hrest : Delimits rest) :
    scanLiteral ('-' :: (Nat.toDigits 10 n ++ rest)) =
      .ok (⟨true, Nat.toDigits 10 n, none, none⟩, rest) := by
  simp only [scanLiteral, wholeDigits_toDigits n hrest, bind, Except.bind,
    fractionDigits_of_delimits hrest, exponentDigits_of_delimits hrest]
  rfl

theorem value_natural {n : Nat} (hn : n ≤ Number.maxNatural) :
    (Literal.mk false (Nat.toDigits 10 n) none none).value = .ok (.natural n) := by
  simp [Literal.value, naturalValue_toDigits, hn]
  rfl

theorem value_negative {n : Nat} (hpos : 0 < n) (hn : n ≤ Number.maxNegative) :
    (Literal.mk true (Nat.toDigits 10 n) none none).value = .ok (.negative n) := by
  simp [Literal.value, naturalValue_toDigits, hpos, hn]
  rfl

theorem scanToken_literal {c : Char} {s : List Char} {l : Literal}
    (hc : c = '-' ∨ isDigit c = true) (h : scanLiteral (c :: s) = .ok (l, rest)) :
    scanToken c s = .ok (.number l.value, rest) := by
  unfold scanToken
  split
  case h_11 => rw [if_pos (by simpa using hc), h]
  all_goals exact absurd hc (by decide)

theorem isSpace_of_isDigit {c : Char} (hc : isDigit c = true) : isSpace c = false := by
  by_contra h
  simp only [isSpace, Bool.or_eq_true, beq_iff_eq, Bool.not_eq_false, or_assoc] at h
  rcases h with rfl | rfl | rfl | rfl <;> exact absurd hc (by decide)

theorem Lexes.number {n : Number} (hn : n.Exact) {ts : List Token} (hrest : Delimits rest)
    (h : Lexes rest ts) : Lexes (n.render ++ rest) (.number (.ok n) :: ts) := by
  cases n with
  | natural n =>
    obtain ⟨c, cs, hcs, hc⟩ := exists_toDigits_eq_cons n
    have hscan := scanLiteral_natural n hrest
    rw [hcs, List.cons_append] at hscan
    rw [Number.render, hcs, List.cons_append, ← value_natural hn, hcs]
    exact .token (isSpace_of_isDigit hc) (scanToken_literal (.inr hc) hscan) h
  | negative n =>
    rw [Number.render, List.cons_append, ← value_negative hn.1 hn.2]
    exact .token rfl (scanToken_literal (.inl rfl) (scanLiteral_negative n hrest)) h
  | float bits => exact hn.elim

end Numbers

/-- Every number in a value is read as it is written. -/
inductive Exact : Json → Prop
  | null : Exact .null
  | bool (b : Bool) : Exact (.bool b)
  | number {n : Number} (h : n.Exact) : Exact (.number n)
  | string (s : String) : Exact (.string s)
  | array {items : List Json} (h : ∀ j ∈ items, Exact j) : Exact (.array items)
  | object {members : List (String × Json)} (h : ∀ m ∈ members, Exact m.2) :
      Exact (.object members)

mutual

/-- The tokens of a value. -/
def toTokens : Json → List Token
  | .null => [.null]
  | .bool b => [.bool b]
  | .number n => [.number (.ok n)]
  | .string s => [.string (.ok s)]
  | .array [] => [.openList, .closeList]
  | .array (j :: js) => .openList :: (j.toTokens ++ (itemTokens js ++ [.closeList]))
  | .object [] => [.openObject, .closeObject]
  | .object ((name, j) :: members) => .openObject :: .string (.ok name) :: .colon ::
      (j.toTokens ++ (memberTokens members ++ [.closeObject]))

def itemTokens : List Json → List Token
  | [] => []
  | j :: js => .comma :: (j.toTokens ++ itemTokens js)

def memberTokens : List (String × Json) → List Token
  | [] => []
  | (name, j) :: members =>
    .comma :: .string (.ok name) :: .colon :: (j.toTokens ++ memberTokens members)

end

/-- A layout puts blanks alone between the tokens, and lines begin only where a number may end. -/
structure Layout.IsBlank (l : Layout) : Prop where
  gap : ∀ level, ∀ c ∈ l.gap level, isSpace c = true
  afterColon : ∀ c ∈ l.afterColon, isSpace c = true
  delimits : ∀ level s, Delimits s → Delimits (l.gap level ++ s)

theorem Layout.compact_isBlank : compact.IsBlank where
  gap _ _ hc := absurd hc List.not_mem_nil
  afterColon _ hc := absurd hc List.not_mem_nil
  delimits _ _ h := h

theorem Layout.pretty_isBlank : pretty.IsBlank where
  gap level c hc := by
    rcases List.mem_cons.mp hc with rfl | hc
    · rfl
    · rw [List.eq_of_mem_replicate hc]
      rfl
  afterColon c hc := by
    rw [List.mem_singleton.mp hc]
    rfl
  delimits _ _ _ := by simp [Delimits, pretty]

theorem Lexes.symbol {c : Char} {t : Token} {rest : List Char} {ts : List Token}
    (hc : isSpace c = false) (hscan : ∀ s, scanToken c s = .ok (t, s)) (h : Lexes rest ts) :
    Lexes (c :: rest) (t :: ts) :=
  .token (s := []) hc (hscan rest) h

section Writing

variable {l : Layout} {level : Nat} {rest : List Char} {ts : List Token}

theorem delimits_writeItems (js : List Json) (hrest : Delimits rest) :
    Delimits (writeItems l level js ++ rest) := by
  cases js with
  | nil => exact hrest
  | cons j js => simp [Delimits, writeItems]

theorem delimits_writeMembers (members : List (String × Json)) (hrest : Delimits rest) :
    Delimits (writeMembers l level members ++ rest) := by
  cases members with
  | nil => exact hrest
  | cons m members => simp [Delimits, writeMembers]

/-- A closing bracket in its place ends a number. -/
theorem delimits_close (hl : l.IsBlank) {c : Char} (hc : c = ']' ∨ c = '}') :
    Delimits (l.gap level ++ c :: rest) := by
  refine hl.delimits _ _ fun d hd => ?_
  obtain rfl : c = d := Option.some.inj hd
  rcases hc with rfl | rfl <;> decide

mutual

/-- A value falls into its tokens, whatever the layout and whatever follows. -/
theorem lexes_write (hl : l.IsBlank) (level : Nat) (j : Json) (hj : j.Exact) {rest : List Char}
    {ts : List Token} (hrest : Delimits rest) (h : Lexes rest ts) :
    Lexes (j.write l level ++ rest) (j.toTokens ++ ts) := by
  match j, hj with
  | .null, _ => exact .token (s := ['u', 'l', 'l']) rfl rfl h
  | .bool true, _ => exact .token (s := ['r', 'u', 'e']) rfl rfl h
  | .bool false, _ => exact .token (s := ['a', 'l', 's', 'e']) rfl rfl h
  | .number n, .number hn => exact .number hn hrest h
  | .string s, _ => exact .string s h
  | .array [], _ => exact .symbol rfl (fun _ => rfl) (.symbol rfl (fun _ => rfl) h)
  | .array (j :: js), .array hjs =>
    rw [List.forall_mem_cons] at hjs
    simp only [write, toTokens, List.cons_append, List.append_assoc, List.nil_append]
    -- From the end to the front, for what stands behind a number decides where it ends.
    have hclose : Lexes (l.gap level ++ ']' :: rest) (.closeList :: ts) :=
      .spaces (hl.gap _) (.symbol rfl (fun _ => rfl) h)
    have hdelimits : Delimits (l.gap level ++ ']' :: rest) := delimits_close hl (.inl rfl)
    have hitems := lexes_writeItems hl (level + 1) js hjs.2 hdelimits hclose
    have hitem := lexes_write hl (level + 1) j hjs.1 (delimits_writeItems js hdelimits) hitems
    exact .symbol rfl (fun _ => rfl) (.spaces (hl.gap _) hitem)
  | .object [], _ => exact .symbol rfl (fun _ => rfl) (.symbol rfl (fun _ => rfl) h)
  | .object ((name, j) :: members), .object hmembers =>
    rw [List.forall_mem_cons] at hmembers
    simp only [write, toTokens, List.cons_append, List.append_assoc, List.nil_append]
    have hclose : Lexes (l.gap level ++ '}' :: rest) (.closeObject :: ts) :=
      .spaces (hl.gap _) (.symbol rfl (fun _ => rfl) h)
    have hdelimits : Delimits (l.gap level ++ '}' :: rest) := delimits_close hl (.inr rfl)
    have hrest := lexes_writeMembers hl (level + 1) members hmembers.2 hdelimits hclose
    have hvalue := lexes_write hl (level + 1) j hmembers.1
      (delimits_writeMembers members hdelimits) hrest
    exact .symbol rfl (fun _ => rfl) (.spaces (hl.gap _) (.string name
      (.symbol rfl (fun _ => rfl) (.spaces hl.afterColon hvalue))))

theorem lexes_writeItems (hl : l.IsBlank) (level : Nat) (js : List Json)
    (hjs : ∀ j ∈ js, j.Exact) {rest : List Char} {ts : List Token} (hrest : Delimits rest)
    (h : Lexes rest ts) : Lexes (writeItems l level js ++ rest) (itemTokens js ++ ts) := by
  match js with
  | [] => exact h
  | j :: js =>
    rw [List.forall_mem_cons] at hjs
    simp only [writeItems, itemTokens, List.cons_append, List.append_assoc]
    have hitems := lexes_writeItems hl level js hjs.2 hrest h
    have hitem := lexes_write hl level j hjs.1 (delimits_writeItems js hrest) hitems
    exact .symbol rfl (fun _ => rfl) (.spaces (hl.gap _) hitem)

theorem lexes_writeMembers (hl : l.IsBlank) (level : Nat) (members : List (String × Json))
    (hmembers : ∀ m ∈ members, m.2.Exact) {rest : List Char} {ts : List Token}
    (hrest : Delimits rest) (h : Lexes rest ts) :
    Lexes (writeMembers l level members ++ rest) (memberTokens members ++ ts) := by
  match members with
  | [] => exact h
  | (name, j) :: members =>
    rw [List.forall_mem_cons] at hmembers
    simp only [writeMembers, memberTokens, List.cons_append, List.append_assoc]
    have hrest' := lexes_writeMembers hl level members hmembers.2 hrest h
    have hvalue := lexes_write hl level j hmembers.1 (delimits_writeMembers members hrest) hrest'
    exact .symbol rfl (fun _ => rfl) (.spaces (hl.gap _) (.string name
      (.symbol rfl (fun _ => rfl) (.spaces hl.afterColon hvalue))))

end

/-- The tokens of a whole text, which may have line breaks behind the value. -/
theorem tokens_write (hl : l.IsBlank) {j : Json} (hj : j.Exact) {s : List Char}
    (hs : ∀ c ∈ s, c = '\n') : tokens (j.write l 0 ++ s) = j.toTokens := by
  have hdelimits : Delimits s := fun c hc => by rw [hs c (List.mem_of_mem_head? hc)]; decide
  have hblank : Lexes (s ++ []) [] := .spaces (fun c hc => by rw [hs c hc]; rfl) .nil
  rw [List.append_nil] at hblank
  have h := lexes_write hl 0 j hj hdelimits hblank
  rw [List.append_nil] at h
  exact h.tokens

end Writing

end ReleasePreview.Json
