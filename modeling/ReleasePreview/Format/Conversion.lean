import ReleasePreview.Format.Floating

/-! Escapes behind backslashes in texts of bytes. -/
namespace ReleasePreview.Format

def isOctal (c : Char) : Bool := '0' ≤ c && c ≤ '7'

/-- The character behind a backslash, if it is one of those with a name. -/
def named? : Char → Option Char
  | 'a' => some '\x07'
  | 'b' => some '\x08'
  | 'e' => some '\x1b'
  | 'f' => some '\x0c'
  | 'n' => some '\n'
  | 'r' => some '\r'
  | 't' => some '\t'
  | 'v' => some '\x0b'
  | '\\' => some '\\'
  | _ => none

/-- The byte of up to three octal digits. -/
def octalChar (ds : List Char) : Char :=
  Char.ofNat (ds.foldl (fun n c => n * 8 + (c.toNat - 48)) 0 % 256)

/-- What stands for a backslash and the text behind it, and what follows. A backslash before
something else stands for itself. -/
def escape (s : List Char) : Char × List Char :=
  match s with
  | [] => ('\\', [])
  | c :: rest =>
    match named? c with
    | some d => (d, rest)
    | none =>
      let ds := (s.take 3).takeWhile isOctal
      if ds.isEmpty then ('\\', s) else (octalChar ds, s.drop ds.length)

/-- A text with escapes up to an end mark, and whether there was none. A zero may stand before octal
digits. The fuel is the length of the text. -/
def unescape : (fuel : Nat) → List Char → List Char × Bool
  | 0, _ => ([], true)
  | _, [] => ([], true)
  | _, '\\' :: 'c' :: _ => ([], false)
  | fuel + 1, '\\' :: s =>
    let s :=
      match s with
      | '0' :: d :: _ => if isOctal d then s.drop 1 else s
      | s => s
    let (c, rest) := escape s
    let (more, goesOn) := unescape fuel rest
    (c :: more, goesOn)
  | fuel + 1, c :: s =>
    let (more, goesOn) := unescape fuel s
    (c :: more, goesOn)

/-- A text with escapes, and whether it goes on behind them. -/
def unescaped (s : String) : List Char × Bool := unescape (s.length + 1) s.toList

end ReleasePreview.Format

/-! Conversions: how a number or a text is put into columns. Texts are texts of bytes. -/
namespace ReleasePreview.Format

/-- What stands between a percent sign and the letter behind it. -/
structure Conversion where
  flags : List Char := []
  width : Nat := 0
  precision : Option Nat := none
  letter : Char
deriving Repr, DecidableEq

namespace Conversion

def has (c : Conversion) (flag : Char) : Bool := c.flags.contains flag

/-- A sign or prefix and digits, in the columns there are. -/
def inColumns (c : Conversion) (zeros : Bool) (front body : List Char) : List Char :=
  let fill := c.width - (front.length + body.length)
  if c.has '-' then front ++ body ++ List.replicate fill ' '
  else if zeros && c.has '0' then front ++ List.replicate fill '0' ++ body
  else List.replicate fill ' ' ++ front ++ body

def ofText (c : Conversion) (s : List Char) : List Char :=
  c.inColumns false [] (match c.precision with
    | some n => s.take n
    | none => s)

def signOf (c : Conversion) (negative : Bool) : List Char :=
  if negative then ['-'] else if c.has '+' then ['+'] else if c.has ' ' then [' '] else []

/-- Digits, as many as the precision asks for. -/
def padded (c : Conversion) (ds : List Char) : List Char :=
  match c.precision with
  | some 0 => if ds = ['0'] then [] else ds
  | some n => List.replicate (n - ds.length) '0' ++ ds
  | none => ds

def ofInteger (c : Conversion) (n : Int) : List Char :=
  c.inColumns c.precision.isNone (c.signOf (n < 0)) (c.padded (Nat.toDigits 10 n.natAbs))

/-- A natural number in the base of the letter. -/
def ofNatural (c : Conversion) (n : Nat) : List Char :=
  let zeros := c.precision.isNone
  match c.letter with
  | 'o' =>
    let ds := c.padded (Nat.toDigits 8 n)
    let ds := if c.has '#' && ds.head? ≠ some '0' then '0' :: ds else ds
    c.inColumns zeros [] ds
  | 'x' =>
    c.inColumns zeros (if c.has '#' && n ≠ 0 then ['0', 'x'] else []) (c.padded (Nat.toDigits 16 n))
  | 'X' =>
    c.inColumns zeros (if c.has '#' && n ≠ 0 then ['0', 'X'] else [])
      (c.padded ((Nat.toDigits 16 n).map Char.toUpper))
  | _ => c.inColumns zeros [] (c.padded (Nat.toDigits 10 n))

def ofFloat (c : Conversion) (x : Float) : List Char :=
  let letter := c.letter.toLower
  let upper (s : List Char) : List Char := if c.letter.isUpper then s.map Char.toUpper else s
  let places := c.precision.getD 6
  match Stored.of x with
  | .notANumber =>
    let sign := c.signOf (x.toBits.toNat / Nat.pow 2 63 = 1)
    c.inColumns false sign (upper "nan".toList)
  | .infinite negative => c.inColumns false (c.signOf negative) (upper "inf".toList)
  | .finite negative m e =>
    let body :=
      if letter = 'f' then fixed m e places (c.has '#')
      else if letter = 'e' then scientific m e places (c.has '#') 'e'
      else general m e places (c.has '#') 'e'
    c.inColumns true (c.signOf negative) (upper body)

end Conversion

end ReleasePreview.Format
