import Mathlib.Data.List.Basic
import ReleasePreview.Text.Utf8

/-!
What is read strictly as UTF-8. A character is read from its own bytes and from no others, so bytes
are the text of which they are the encoding, or no text at all.
-/
namespace ReleasePreview.Text.Utf8

/-- A number without its last bits, six for each byte that is left out. -/
def above : Nat → Nat → Nat
  | 0, n => n
  | k + 1, n => above k n / 64

/-- The bytes behind the first one of a character's encoding, six bits in each. -/
def tail : Nat → Nat → List UInt8
  | 0, _ => []
  | k + 1, n => UInt8.ofNat (above k n % 64 + 0x80) :: tail k n

/-- Bytes that end a character that may have begun, with its number. -/
inductive Completes : Option Lead → List UInt8 → Nat → Prop
  | plain {b : UInt8} (hb : b.toNat < 0x80) : Completes none [b] b.toNat
  | lead {b : UInt8} {l : Lead} {bs : List UInt8} {n : Nat} (hl : lead? b.toNat = some l)
      (h : Completes (some l) bs n) : Completes none (b :: bs) n
  | last {l : Lead} {b : UInt8} (hl : l.owed ≤ 1) (hb : l.low ≤ b.toNat ∧ b.toNat ≤ l.high) :
      Completes (some l) [b] (l.bits * 64 + (b.toNat - 0x80))
  | next {l : Lead} {owed : Nat} {b : UInt8} {bs : List UInt8} {n : Nat} (hl : l.owed = owed + 2)
      (hb : l.low ≤ b.toNat ∧ b.toNat ≤ l.high)
      (h : Completes (some ⟨l.bits * 64 + (b.toNat - 0x80), owed + 1, 0x80, 0xBF⟩) bs n) :
      Completes (some l) (b :: bs) n

section Reading

variable {lead : Option Lead} {bs rest : List UInt8} {more : List Chunk} {n : Nat} {c : Char}

theorem lead?_of_lt {b : Nat} (h : b < 0x80) : lead? b = none := by
  unfold lead?
  split_ifs <;> first | rfl | omega

/-- What completes a character is read as it, whatever follows. -/
theorem Completes.chunks (h : Completes lead bs n) (rest : List UInt8) :
    chunks lead (bs ++ rest) = .char (Char.ofNat n) :: chunks none rest := by
  induction h with
  | plain hb => simp [Utf8.chunks, step, first, hb]
  | @lead b l bs n hl h ih =>
    have hb : ¬ b.toNat < 0x80 := fun hb => by simp [lead?_of_lt hb] at hl
    simpa [Utf8.chunks, step, first, hb, hl] using ih
  | @last l b hl hb =>
    obtain ⟨bits, owed, low, high⟩ := l
    obtain rfl | rfl : owed = 0 ∨ owed = 1 := by simp at hl; omega
    all_goals simp_all [Utf8.chunks, step]
  | @next l owed b bs n hl hb h ih =>
    obtain ⟨bits, _, low, high⟩ := l
    obtain rfl := hl
    simpa [Utf8.chunks, step, hb] using ih

/-- A byte ends a character, leaves it open, or breaks it off. -/
theorem step_cases (lead : Option Lead) (b : UInt8) :
    (∃ n, step lead b.toNat = ([.char (Char.ofNat n)], none) ∧ Completes lead [b] n) ∨
    (∃ l, step lead b.toNat = ([], some l) ∧
      ∀ bs n, Completes (some l) bs n → Completes lead (b :: bs) n) ∨
    ∃ found after, step lead b.toNat = (.broken :: found, after) := by
  cases lead with
  | none =>
    by_cases hb : b.toNat < 0x80
    · exact .inl ⟨b.toNat, by simp [step, first, hb], .plain hb⟩
    · cases hl : lead? b.toNat with
      | none => exact .inr (.inr ⟨[], none, by simp [step, first, hb, hl]⟩)
      | some l => exact .inr (.inl ⟨l, by simp [step, first, hb, hl], fun bs n => .lead hl⟩)
  | some l =>
    by_cases hb : l.low ≤ b.toNat ∧ b.toNat ≤ l.high
    · obtain ⟨bits, owed, low, high⟩ := l
      match owed with
      | 0 => exact .inl ⟨_, by simp [step, hb], .last (Nat.zero_le 1) hb⟩
      | 1 => exact .inl ⟨_, by simp [step, hb], .last (Nat.le_refl 1) hb⟩
      | owed + 2 => exact .inr (.inl ⟨_, by simp [step, hb], fun bs n => .next rfl hb⟩)
    · exact .inr (.inr ⟨_, _, by simp [step, hb]; exact ⟨rfl, rfl⟩⟩)

/-- A character that has begun is seen, be it complete or not. -/
theorem chunks_some_ne_nil (l : Lead) (bs : List UInt8) : chunks (some l) bs ≠ [] := by
  induction bs generalizing l with
  | nil => exact nofun
  | cons b bs ih =>
    rw [Utf8.chunks]
    obtain ⟨n, hstep, -⟩ | ⟨l', hstep, -⟩ | ⟨found, after, hstep⟩ := step_cases (some l) b
    · simp [hstep]
    · simpa [hstep] using ih l'
    · simp [hstep]

theorem chunks_cons_ne_nil (lead : Option Lead) (b : UInt8) (bs : List UInt8) :
    chunks lead (b :: bs) ≠ [] := by
  rw [Utf8.chunks]
  obtain ⟨n, hstep, -⟩ | ⟨l, hstep, -⟩ | ⟨found, after, hstep⟩ := step_cases lead b
  · simp [hstep]
  · simpa [hstep] using chunks_some_ne_nil l bs
  · simp [hstep]

/-- Where a character is read, its bytes are in front. -/
theorem exists_completes (h : chunks lead bs = .char c :: more) :
    ∃ front rest n, bs = front ++ rest ∧ Completes lead front n ∧ c = Char.ofNat n ∧
      more = chunks none rest := by
  induction bs generalizing lead with
  | nil => cases lead <;> simp [Utf8.chunks] at h
  | cons b bs ih =>
    rw [Utf8.chunks] at h
    obtain ⟨n, hstep, hcomplete⟩ | ⟨l, hstep, hcomplete⟩ | ⟨found, after, hstep⟩ :=
      step_cases lead b
    · simp only [hstep, List.cons_append, List.nil_append, List.cons.injEq, Chunk.char.injEq] at h
      exact ⟨[b], bs, n, rfl, hcomplete, h.1.symm, h.2.symm⟩
    · simp only [hstep, List.nil_append] at h
      obtain ⟨front, rest, n, rfl, hfront, hc, hmore⟩ := ih h
      exact ⟨b :: front, rest, n, rfl, hcomplete _ _ hfront, hc, hmore⟩
    · simp [hstep] at h

end Reading

section Numbers

theorem toNat_continuation (q : Nat) : (UInt8.ofNat (q % 64 + 0x80)).toNat = q % 64 + 0x80 :=
  UInt8.toNat_ofNat_of_lt' (by rw [UInt8.size]; omega)

theorem eq_continuation {b : UInt8} {q : Nat} (h : b.toNat = q % 64 + 0x80) :
    b = UInt8.ofNat (q % 64 + 0x80) := by
  rw [← UInt8.toNat_inj, toNat_continuation, h]

/-- A character that has begun is completed by the rest of its number. -/
theorem completes_some_iff {l : Lead} {k : Nat} (howed : l.owed = k + 1) (hlow : 0x80 ≤ l.low)
    (hhigh : l.high ≤ 0xBF) {bs : List UInt8} {n : Nat} :
    Completes (some l) bs n ↔ bs = tail (k + 1) n ∧ above (k + 1) n = l.bits ∧
      l.low ≤ above k n % 64 + 0x80 ∧ above k n % 64 + 0x80 ≤ l.high := by
  -- By the bytes that are still owed. What has been read of the number goes into the lead, so the
  -- rest is compared with a lead of six more bits.
  induction k generalizing l bs with
  | zero =>
    simp only [tail, above]
    constructor
    · rintro (_ | _ | ⟨hl, hb⟩ | ⟨hl, hb, h⟩)
      · exact ⟨congrArg (· :: []) (eq_continuation (by omega)), by omega⟩
      · omega
    · rintro ⟨rfl, hbits, hrange⟩
      have hb := toNat_continuation n
      have hlast : Completes (some l) [UInt8.ofNat (n % 64 + 0x80)] _ :=
        .last (Nat.le_of_eq howed) (by rwa [hb])
      have hn : l.bits * 64 + ((UInt8.ofNat (n % 64 + 0x80)).toNat - 0x80) = n := by omega
      rwa [hn] at hlast
  | succ k ih =>
    have habove : above (k + 2) n = above (k + 1) n / 64 := rfl
    rw [tail, habove]
    constructor
    · rintro (_ | _ | ⟨hl, hb⟩ | @⟨_, owed, b, bs, _, hl, hb, h⟩)
      · omega
      · obtain rfl : owed = k := by omega
        obtain ⟨rfl, hbits, -⟩ := (ih rfl (by simp) (by simp)).mp h
        simp only at hbits
        exact ⟨congrArg (· :: _) (eq_continuation (by omega)), by omega⟩
    · rintro ⟨rfl, hbits, hrange⟩
      have hb := toNat_continuation (above (k + 1) n)
      refine .next howed (by rwa [hb]) ((ih rfl (by simp) (by simp)).mpr ⟨rfl, ?_, ?_⟩)
      · simp only
        omega
      · simp only
        omega

/-- A first byte completes a character with what its lead asks for. -/
theorem completes_lead_iff {b : UInt8} {l : Lead} (hl : lead? b.toNat = some l) {bs : List UInt8}
    {n : Nat} : Completes none (b :: bs) n ↔ Completes (some l) bs n := by
  refine ⟨?_, .lead hl⟩
  rintro (hb | ⟨hl', h⟩)
  · rw [lead?_of_lt hb] at hl
    contradiction
  · rw [hl] at hl'
    rwa [Option.some.inj hl']

theorem lead?_cases {b : Nat} {l : Lead} (h : lead? b = some l) :
    (0xC2 ≤ b ∧ b ≤ 0xDF) ∨ (0xE0 ≤ b ∧ b ≤ 0xEF) ∨ (0xF0 ≤ b ∧ b ≤ 0xF4) := by
  by_contra hnot
  unfold lead? at h
  split_ifs at h <;> omega

variable {b : UInt8} {bs : List UInt8} {n : Nat}

theorem completes_two_iff (hb : 0xC2 ≤ b.toNat ∧ b.toNat ≤ 0xDF) :
    Completes none (b :: bs) n ↔ bs = tail 1 n ∧ b.toNat = n / 64 + 0xC0 := by
  have hl : lead? b.toNat = some ⟨b.toNat - 0xC0, 1, 0x80, 0xBF⟩ := by simp [lead?, hb]
  rw [completes_lead_iff hl, completes_some_iff rfl (by simp) (by simp)]
  simp only [above]
  refine and_congr_right fun _ => ?_
  omega

theorem completes_three_iff (hb : 0xE0 ≤ b.toNat ∧ b.toNat ≤ 0xEF) :
    Completes none (b :: bs) n ↔ bs = tail 2 n ∧ b.toNat = n / 4096 + 0xE0 ∧ 0x7FF < n ∧
      (n < 0xD800 ∨ 0xDFFF < n) := by
  have hl : lead? b.toNat = some ⟨b.toNat - 0xE0, 2, if b.toNat = 0xE0 then 0xA0 else 0x80,
      if b.toNat = 0xED then 0x9F else 0xBF⟩ := by
    unfold lead?
    split_ifs <;> first | omega | simp_all
  rw [completes_lead_iff hl, completes_some_iff rfl (by dsimp; split_ifs <;> omega)
    (by dsimp; split_ifs <;> omega)]
  refine and_congr_right fun _ => ?_
  simp only [above]
  split_ifs <;> omega

theorem completes_four_iff (hb : 0xF0 ≤ b.toNat ∧ b.toNat ≤ 0xF4) :
    Completes none (b :: bs) n ↔ bs = tail 3 n ∧ b.toNat = n / 262144 + 0xF0 ∧ 0xFFFF < n ∧
      n < 0x110000 := by
  have hl : lead? b.toNat = some ⟨b.toNat - 0xF0, 3, if b.toNat = 0xF0 then 0x90 else 0x80,
      if b.toNat = 0xF4 then 0x8F else 0xBF⟩ := by
    unfold lead?
    split_ifs <;> first | omega | simp_all
  rw [completes_lead_iff hl, completes_some_iff rfl (by dsimp; split_ifs <;> omega)
    (by dsimp; split_ifs <;> omega)]
  refine and_congr_right fun _ => ?_
  simp only [above]
  split_ifs <;> omega

/-- The encoding of a character by its number. -/
theorem utf8EncodeChar_eq (c : Char) : String.utf8EncodeChar c =
    if c.toNat ≤ 0x7F then [UInt8.ofNat c.toNat]
    else if c.toNat ≤ 0x7FF then UInt8.ofNat (c.toNat / 64 % 32 + 0xC0) :: tail 1 c.toNat
    else if c.toNat ≤ 0xFFFF then UInt8.ofNat (c.toNat / 4096 % 16 + 0xE0) :: tail 2 c.toNat
    else UInt8.ofNat (c.toNat / 262144 % 8 + 0xF0) :: tail 3 c.toNat := by
  simp only [tail, above, Nat.div_div_eq_div_mul]
  rfl

theorem completes_utf8EncodeChar (c : Char) :
    Completes none (String.utf8EncodeChar c) c.toNat := by
  have hvalid : c.toNat < 0xD800 ∨ 0xDFFF < c.toNat ∧ c.toNat < 0x110000 := c.valid
  have hbyte : ∀ {m : Nat}, m < 256 → (UInt8.ofNat m).toNat = m := UInt8.toNat_ofNat_of_lt'
  rw [utf8EncodeChar_eq]
  split_ifs with h₁ h₂ h₃
  · have hb := hbyte (show c.toNat < 256 by omega)
    have hplain := Completes.plain (b := UInt8.ofNat c.toNat) (by omega)
    rwa [hb] at hplain
  · have hb := hbyte (show c.toNat / 64 % 32 + 0xC0 < 256 by omega)
    exact (completes_two_iff (by omega)).mpr ⟨rfl, by omega⟩
  · have hb := hbyte (show c.toNat / 4096 % 16 + 0xE0 < 256 by omega)
    exact (completes_three_iff (by omega)).mpr ⟨rfl, by omega⟩
  · have hb := hbyte (show c.toNat / 262144 % 8 + 0xF0 < 256 by omega)
    exact (completes_four_iff (by omega)).mpr ⟨rfl, by omega⟩

/-- No other bytes complete a character than those of its encoding. -/
theorem Completes.eq_utf8EncodeChar (h : Completes none bs n) :
    bs = String.utf8EncodeChar (Char.ofNat n) := by
  have hnumber : ∀ {n : Nat}, n.isValidChar → (Char.ofNat n).toNat = n := fun hvalid => by
    rw [Char.ofNat, dif_pos hvalid]
    rfl
  have hbyte : ∀ {b : UInt8} {m : Nat}, b.toNat = m → b = UInt8.ofNat m := fun hb => by
    rw [← hb, UInt8.ofNat_toNat]
  rw [utf8EncodeChar_eq]
  cases h with
  | @plain b hb =>
    rw [hnumber (.inl (by omega)), if_pos (by omega), UInt8.ofNat_toNat]
  | @lead b l bs _ hl h =>
    have h := Completes.lead hl h
    rcases lead?_cases hl with hb | hb | hb
    · obtain ⟨rfl, hfirst⟩ := (completes_two_iff hb).mp h
      rw [hnumber (.inl (by omega)), if_neg (by omega), if_pos (by omega)]
      exact congrArg (· :: _) (hbyte (by omega))
    · obtain ⟨rfl, hfirst, hlow, hvalid⟩ := (completes_three_iff hb).mp h
      rw [hnumber (by unfold Nat.isValidChar; omega), if_neg (by omega), if_neg (by omega),
        if_pos (by omega)]
      exact congrArg (· :: _) (hbyte (by omega))
    · obtain ⟨rfl, hfirst, hlow, hvalid⟩ := (completes_four_iff hb).mp h
      rw [hnumber (.inr (by omega)), if_neg (by omega), if_neg (by omega), if_neg (by omega)]
      exact congrArg (· :: _) (hbyte (by omega))

end Numbers

section Texts

/-- A text is read from the bytes of its characters. -/
theorem chunks_flatMap (cs : List Char) :
    chunks none (cs.flatMap String.utf8EncodeChar) = cs.map .char := by
  induction cs with
  | nil => rfl
  | cons c cs ih =>
    rw [List.flatMap_cons, (completes_utf8EncodeChar c).chunks, Char.ofNat_toNat, ih, List.map_cons]

theorem eq_flatMap_of_chunks {bs : List UInt8} {cs : List Char}
    (h : chunks none bs = cs.map .char) : bs = cs.flatMap String.utf8EncodeChar := by
  induction cs generalizing bs with
  | nil =>
    cases bs with
    | nil => rfl
    | cons b bs => exact absurd h (chunks_cons_ne_nil none b bs)
  | cons c cs ih =>
    obtain ⟨front, rest, n, rfl, hfront, rfl, hrest⟩ := exists_completes h
    rw [List.flatMap_cons, hfront.eq_utf8EncodeChar, ih hrest.symm]

theorem mapM_char?_eq_some {found : List Chunk} {cs : List Char} :
    found.mapM Chunk.char? = some cs ↔ found = cs.map .char := by
  have hchar : ∀ {k : Chunk} {c : Char}, k.char? = some c ↔ k = .char c := by
    intro k c
    cases k <;> simp [Chunk.char?]
  induction found generalizing cs with
  | nil => cases cs <;> simp
  | cons k found ih => cases cs <;> simp [Option.bind_eq_some_iff, hchar, ih]

/-- Bytes are read as a text if and only if they are its encoding. -/
theorem decode?_eq_some {bs : List UInt8} {s : String} : decode? bs = some s ↔ bs = encode s := by
  simp only [decode?, Option.map_eq_some_iff, mapM_char?_eq_some]
  constructor
  · rintro ⟨cs, hcs, rfl⟩
    rw [eq_flatMap_of_chunks hcs, encode, String.toList_ofList]
  · rintro rfl
    exact ⟨s.toList, chunks_flatMap s.toList, String.ofList_toList⟩

end Texts

theorem decode?_eq_none {bs : List UInt8} : decode? bs = none ↔ ∀ s, bs ≠ encode s := by
  simp only [Option.eq_none_iff_forall_ne_some, ne_eq, decode?_eq_some]

end ReleasePreview.Text.Utf8
