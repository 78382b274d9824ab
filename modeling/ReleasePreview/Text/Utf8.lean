/-!
UTF-8. Bytes are read into characters and broken parts, a broken part being as many bytes as begin
some character; a strict reading has no broken parts, and a lenient one shows them as U+FFFD.
-/
namespace ReleasePreview.Text.Utf8

def encode (s : String) : List UInt8 := s.toList.flatMap String.utf8EncodeChar

/-- A character that has begun: its bits so far, how many bytes it still needs, and the range of
the next one. -/
structure Lead where
  bits : Nat
  owed : Nat
  low : Nat := 0x80
  high : Nat := 0xBF
deriving Repr, DecidableEq

inductive Chunk where
  | char (c : Char)
  | broken
deriving Repr, DecidableEq

/-- What a first byte of several announces. -/
def lead? (b : Nat) : Option Lead :=
  if 0xC2 ≤ b ∧ b ≤ 0xDF then some { bits := b - 0xC0, owed := 1 }
  else if b = 0xE0 then some { bits := 0, owed := 2, low := 0xA0 }
  else if b = 0xED then some { bits := 0x0D, owed := 2, high := 0x9F }
  else if 0xE1 ≤ b ∧ b ≤ 0xEF then some { bits := b - 0xE0, owed := 2 }
  else if b = 0xF0 then some { bits := 0, owed := 3, low := 0x90 }
  else if 0xF1 ≤ b ∧ b ≤ 0xF3 then some { bits := b - 0xF0, owed := 3 }
  else if b = 0xF4 then some { bits := 4, owed := 3, high := 0x8F }
  else none

/-- Reads a byte between characters. -/
def first (b : Nat) : List Chunk × Option Lead :=
  if b < 0x80 then ([.char (Char.ofNat b)], none)
  else
    match lead? b with
    | some lead => ([], some lead)
    | none => ([.broken], none)

/-- Reads a byte. One that does not continue the character begun ends it and counts as a first
byte. -/
def step : Option Lead → Nat → List Chunk × Option Lead
  | none, b => first b
  | some lead, b =>
    if lead.low ≤ b ∧ b ≤ lead.high then
      let bits := lead.bits * 64 + (b - 0x80)
      match lead.owed with
      | 0 | 1 => ([.char (Char.ofNat bits)], none)
      | owed + 1 => ([], some { bits, owed })
    else
      let (chunks, lead) := first b
      (.broken :: chunks, lead)

def chunks : Option Lead → List UInt8 → List Chunk
  | none, [] => []
  | some _, [] => [.broken]
  | lead, b :: bs =>
    let (found, lead) := step lead b.toNat
    found ++ chunks lead bs

def Chunk.char? : Chunk → Option Char
  | char c => some c
  | broken => none

/-- The text of well-formed bytes. -/
def decode? (bs : List UInt8) : Option String :=
  ((chunks none bs).mapM Chunk.char?).map String.ofList

/-- The text of any bytes. -/
def decodeLenient (bs : List UInt8) : String :=
  String.ofList ((chunks none bs).map fun c => c.char?.getD '\uFFFD')

end ReleasePreview.Text.Utf8

/-!
Texts as programs see them: bytes. Each byte is kept as the character of its number, so that all
texts of a running program are strings of characters below U+0100.
-/
namespace ReleasePreview.Text.Octets

def ofBytes (bytes : List UInt8) : String := String.ofList (bytes.map fun b => Char.ofNat b.toNat)

def toBytes (s : String) : List UInt8 := s.toList.map fun c => UInt8.ofNat c.toNat

/-- The bytes of a text. -/
def ofText (s : String) : String := ofBytes (Utf8.encode s)

/-- The text of some bytes. What is not UTF-8 is replaced. -/
def readable (s : String) : String := Utf8.decodeLenient (toBytes s)

end ReleasePreview.Text.Octets
