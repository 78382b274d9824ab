import ReleasePreview.Decimal.Natural
import ReleasePreview.Json.Numeral

/-!
The tokens of a JSON text. A flaw that matters only when a value is used (a number out of range, an
unpaired surrogate) stays inside its token; a text that breaks the grammar of tokens ends there.
-/
namespace ReleasePreview.Json

/-- What stops the reading of a text, as it is reported where the value is used, where it is
skipped, and where it should name an alternative. -/
structure Fault where
  used : SyntaxError
  skipped : SyntaxError
  naming : SyntaxError
deriving Repr, DecidableEq

/-- A fault that is reported alike wherever it stands. -/
def Fault.plain (e : SyntaxError) : Fault := ⟨e, e, e⟩

inductive Token where
  | openList
  | closeList
  | openObject
  | closeObject
  | comma
  | colon
  | null
  | bool (b : Bool)
  | number (value : Except SyntaxError Number)
  | string (value : Except SyntaxError String)
  /-- A word or number that breaks the grammar, or a character that begins no token. -/
  | brokenScalar (fault : Fault)
  | brokenString (fault : Fault)

/-- Blanks between tokens. -/
def isSpace (c : Char) : Bool := c == ' ' || c == '\n' || c == '\t' || c == '\r'

/-- The character behind a one-letter escape. -/
def unescape? : Char → Option Char
  | '"' => some '"'
  | '\\' => some '\\'
  | '/' => some '/'
  | 'b' => some '\x08'
  | 'f' => some '\x0c'
  | 'n' => some '\n'
  | 'r' => some '\r'
  | 't' => some '\t'
  | _ => none

def isHighSurrogate (n : Nat) : Bool := 0xD800 ≤ n && n ≤ 0xDBFF

def isLowSurrogate (n : Nat) : Bool := 0xDC00 ≤ n && n ≤ 0xDFFF

/-- The character of a surrogate pair. -/
def joinSurrogates (high low : Nat) : Char :=
  Char.ofNat (0x10000 + (high - 0xD800) * 0x400 + (low - 0xDC00))

/-- A string that has been read so far: its characters backwards, its first flaw, and a high
surrogate that waits for its partner. -/
structure Pending where
  chars : List Char
  flaw : Option SyntaxError
  high : Option Nat

namespace Pending

def start : Pending := ⟨[], none, none⟩

def blame (p : Pending) (e : SyntaxError) : Pending := { p with flaw := p.flaw <|> some e }

/-- Anything but an escaped code unit leaves a waiting surrogate alone. -/
def settle (p : Pending) : Pending :=
  if p.high.isSome then { p.blame .endOfEscape with high := none } else p

def push (p : Pending) (c : Char) : Pending :=
  let p := p.settle
  { p with chars := c :: p.chars }

/-- Takes an escaped 16-bit code unit. -/
def pushUnit (p : Pending) (n : Nat) : Pending :=
  match p.high with
  | some high =>
    if isLowSurrogate n then ⟨joinSurrogates high n :: p.chars, p.flaw, none⟩
    else { p.blame .loneSurrogate with high := none }
  | none =>
    if isHighSurrogate n then { p with high := some n }
    else if isLowSurrogate n then p.blame .loneSurrogate
    else { p with chars := Char.ofNat n :: p.chars }

def close (p : Pending) : Except SyntaxError String :=
  let p := p.settle
  match p.flaw with
  | some e => .error e
  | none => .ok (String.ofList p.chars.reverse)

/-- An earlier flaw is reported instead where the string is used. -/
def fault (p : Pending) (e : SyntaxError) : Fault := ⟨p.flaw.getD e, e, p.flaw.getD e⟩

end Pending

/-- The bytes of a text in UTF-8, counted up to four. -/
def reachesFour (s : List Char) : Bool := 4 ≤ (s.take 4).foldl (fun n c => n + c.utf8Size) 0

/-- Reads a string behind its opening quote. An escaped code unit takes the four bytes that follow
it. -/
def scanString (p : Pending) : List Char → Except Fault (Except SyntaxError String × List Char)
  | [] => .error (p.fault .endOfString)
  | '"' :: rest => .ok (p.close, rest)
  | ['\\'] => .error (p.fault .endOfString)
  | '\\' :: 'u' :: a :: b :: c :: d :: rest =>
    match Decimal.positional? 16 [a, b, c, d] with
    | some n => scanString (p.pushUnit n) rest
    | none => .error (p.fault .invalidEscape)
  | '\\' :: 'u' :: rest =>
    .error (p.fault (if reachesFour rest then .invalidEscape else .endOfString))
  | '\\' :: e :: rest =>
    match unescape? e with
    | some c => scanString (p.push c) rest
    | none => .error (p.settle.fault .invalidEscape)
  | c :: rest =>
    if c.toNat < 0x20 then .error (p.settle.fault .controlCharacter)
    else scanString (p.push c) rest

/-- Reads the rest of a word whose first letter has been read. -/
def scanWord (value : Token) : List Char → List Char → Except Fault (Token × List Char)
  | [], s => .ok (value, s)
  | _ :: _, [] => .error ⟨.endOfValue, .endOfValue, .expectedValue⟩
  | e :: es, c :: s =>
    if e = c then scanWord value es s else .error ⟨.expectedWord, .expectedWord, .expectedValue⟩

/-- A literal that breaks off is reported as the end of the text only where it is used. -/
def LiteralFault.fault : LiteralFault → Fault
  | cut => ⟨.endOfValue, .invalidNumber, .expectedValue⟩
  | misshapen => ⟨.invalidNumber, .invalidNumber, .expectedValue⟩

/-- Reads the token that begins with `c`. -/
def scanToken (c : Char) (rest : List Char) : Except Token (Token × List Char) :=
  match c with
  | '[' => .ok (.openList, rest)
  | ']' => .ok (.closeList, rest)
  | '{' => .ok (.openObject, rest)
  | '}' => .ok (.closeObject, rest)
  | ',' => .ok (.comma, rest)
  | ':' => .ok (.colon, rest)
  | 'n' => (scanWord .null ['u', 'l', 'l'] rest).mapError .brokenScalar
  | 't' => (scanWord (.bool true) ['r', 'u', 'e'] rest).mapError .brokenScalar
  | 'f' => (scanWord (.bool false) ['a', 'l', 's', 'e'] rest).mapError .brokenScalar
  | '"' =>
    match scanString .start rest with
    | .ok (value, rest) => .ok (.string value, rest)
    | .error fault => .error (.brokenString fault)
  | c =>
    if c == '-' || Decimal.isDigit c then
      match scanLiteral (c :: rest) with
      | .ok (l, rest) => .ok (.number l.value, rest)
      | .error fault => .error (.brokenScalar fault.fault)
    else .error (.brokenScalar (.plain .expectedValue))

/-- The tokens of a text. Every token takes a character at least, so the length is fuel enough. -/
def tokensWithin : Nat → List Char → List Token
  | 0, _ => []
  | fuel + 1, s =>
    match s.dropWhile isSpace with
    | [] => []
    | c :: rest =>
      match scanToken c rest with
      | .ok (t, rest) => t :: tokensWithin fuel rest
      | .error t => [t]

def tokens (s : List Char) : List Token := tokensWithin s.length s

end ReleasePreview.Json
