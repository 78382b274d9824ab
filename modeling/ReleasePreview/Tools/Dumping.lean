import ReleasePreview.Decimal.Natural
import ReleasePreview.Tools.Basic

/-! Files written as numbers or characters, and as the letters of a code for bytes. -/
namespace ReleasePreview.Tools.Dumping

/-- What the values of a file are written as. -/
inductive Shape where
  | names
  | characters
  | signed
  | natural (base : Nat)
deriving Repr, DecidableEq

/-- How a file is written: the shape and size of its values, and whether text stands at the end. -/
structure Column where
  shape : Shape
  size : Nat := 1
  hasText : Bool := false

/-- The places that the greatest value takes. -/
def Column.width (c : Column) : Nat :=
  match c.shape with
  | .names | .characters => 3
  | .signed => (Nat.toDigits 10 (Nat.pow 2 (8 * c.size - 1))).length + 1
  | .natural base => (Nat.toDigits base (Nat.pow 2 (8 * c.size) - 1)).length

def controlNames : List String :=
  ["nul", "soh", "stx", "etx", "eot", "enq", "ack", "bel", "bs", "ht", "nl", "vt", "ff", "cr", "so",
    "si", "dle", "dc1", "dc2", "dc3", "dc4", "nak", "syn", "etb", "can", "em", "sub", "esc", "fs",
    "gs", "rs", "us", "sp"]

def isPrintable (b : UInt8) : Bool := 32 ≤ b && b ≤ 126

def nameText (b : UInt8) : String :=
  let n := b.toNat % 128
  if n = 127 then "del" else (controlNames[n]?).getD (String.singleton (Char.ofNat n))

def characterText (b : UInt8) : String :=
  match b.toNat with
  | 0 => "\\0"
  | 7 => "\\a"
  | 8 => "\\b"
  | 9 => "\\t"
  | 10 => "\\n"
  | 11 => "\\v"
  | 12 => "\\f"
  | 13 => "\\r"
  | n =>
    let digits := Nat.toDigits 8 n
    if isPrintable b then String.singleton (Char.ofNat n)
    else String.ofList (List.replicate (3 - digits.length) '0' ++ digits)

/-- A value, whose lowest byte is the first one. -/
def Column.text (c : Column) (bytes : List UInt8) : String :=
  let n := bytes.foldr (fun b n => n * 256 + b.toNat) 0
  match c.shape with
  | .names => nameText (bytes.headD 0)
  | .characters => characterText (bytes.headD 0)
  | .signed =>
    let span := Nat.pow 2 (8 * c.size)
    toString (if 2 * n < span then (n : Int) else (n : Int) - span)
  | .natural 10 => toString n
  | .natural base =>
    let digits := Nat.toDigits base n
    String.ofList (List.replicate (c.width - digits.length) '0' ++ digits)

def sizeLetters : List (Char × Nat) := [('C', 1), ('S', 2), ('I', 4), ('L', 8)]

/-- The columns that a text asks for. -/
def columns (whole : String) : (fuel : Nat) → List Char → Except String (List Column)
  | 0, _ => .ok []
  | _, [] => .ok []
  | fuel + 1, letter :: s => do
    let digits := s.takeWhile Decimal.isDigit
    let (size, rest) ← match s with
      | c :: s' =>
        match sizeLetters.lookup c, Decimal.natural? digits with
        | some n, _ => pure (n, s')
        | none, some n =>
          if [1, 2, 4, 8].contains n then pure (n, s.drop digits.length)
          else throw (s!"invalid type string '{whole}';\n" ++
            s!"this system doesn't provide a {n}-byte integral type")
        | none, none => pure (4, s)
      | [] => pure (4, s)
    let (column, rest) ← match letter with
      | 'a' => pure ({ shape := .names }, s)
      | 'c' => pure ({ shape := .characters }, s)
      | 'd' => pure ({ shape := .signed, size }, rest)
      | 'u' => pure ({ shape := .natural 10, size }, rest)
      | 'o' => pure ({ shape := .natural 8, size }, rest)
      | 'x' => pure ({ shape := .natural 16, size }, rest)
      | c => throw s!"invalid character '{c}' in type string '{whole}'"
    let (column, rest) : Column × List Char := match rest with
      | 'z' :: rest => ({ column with hasText := true }, rest)
      | rest => (column, rest)
    return column :: (← columns whole fuel rest)

/-- The columns of letters that stand for a shape and a size. -/
def shortColumn? (letter : Char) : Option Column :=
  match letter with
  | 'a' => some { shape := .names }
  | 'b' => some { shape := .natural 8 }
  | 'c' => some { shape := .characters }
  | 'd' => some { shape := .natural 10, size := 2 }
  | 'i' => some { shape := .signed, size := 4 }
  | 'l' => some { shape := .signed, size := 8 }
  | 'o' => some { shape := .natural 8, size := 2 }
  | 's' => some { shape := .signed, size := 2 }
  | 'x' => some { shape := .natural 16, size := 2 }
  | _ => none

/-- The values of a line, with places in front of each so that all columns are as wide. -/
def lineOf (c : Column) (widest length : Nat) (line : List UInt8) : String :=
  let fields := length / c.size
  let pad := widest - c.width * fields
  let values := inPieces c.size line.length line
  let shown := values.zipIdx.map fun (bytes, i) =>
    let before := pad * (fields - i) / fields - pad * (fields - i - 1) / fields
    let text := c.text bytes
    String.ofList (List.replicate (before + c.width - text.length) ' ') ++ text
  let missing := fields - values.length
  let ending := if !c.hasText then "" else
    let gap := missing * c.width + pad * missing / fields
    let chars := line.map fun b => if isPrintable b then Char.ofNat b.toNat else '.'
    String.ofList (List.replicate gap ' ' ++ "  >".toList ++ chars ++ ['<'])
  String.join shown ++ ending

/-- The place of a line as a number to a base; none is for no places. -/
def addressText (base : Option Nat) (n : Nat) : String :=
  match base with
  | none => ""
  | some base =>
    let digits := Nat.toDigits base n
    let width := if base = 16 then 6 else 7
    String.ofList (List.replicate (width - digits.length) '0' ++ digits)

/-- The lines of a file. Those like the one before are left out, unless all are wanted. -/
def dumped (cs : List Column) (base : Option Nat) (length : Nat) (all : Bool) (start : Nat)
    (bytes : List UInt8) : List String :=
  let widest := (cs.map fun c => (c.width + 1) * (length / c.size)).foldl max 0
  let lines := inPieces length bytes.length bytes
  let blank := String.ofList (List.replicate (addressText base 0).length ' ')
  let entry (i : Nat) (line : List UInt8) : List String :=
    cs.zipIdx.map fun (c, k) =>
      (if k = 0 then addressText base (start + i * length) else blank) ++
        lineOf c widest length line ++ "\n"
  let rec go (i : Nat) (before : Option (List UInt8)) (stars : Bool) :
      List (List UInt8) → List String
    | [] => []
    | line :: rest =>
      if !all && before = some line && line.length = length then
        (if stars then [] else ["*\n"]) ++ go (i + 1) before true rest
      else entry i line ++ go (i + 1) (some line) false rest
  go 0 none false lines ++
    (if base.isNone then [] else [addressText base (start + bytes.length) ++ "\n"])

/-- A number of bytes, to a base that its first digits say, with a letter for its unit. -/
def byteCount? (s : String) : Option Nat :=
  match Decimal.basedNatural? s.toList with
  | none => none
  | some (n, []) => some n
  | some (n, ['b']) => some (n * 512)
  | some (n, ['k']) | some (n, ['K']) => some (n * 1024)
  | some (n, ['m']) | some (n, ['M']) => some (n * 1048576)
  | _ => none

def alphabet : List Char :=
  "ABCDEFGHIJKLMNOPQRSTUVWXYZabcdefghijklmnopqrstuvwxyz0123456789+/".toList

/-- Three bytes in four letters, and signs for those that are missing. -/
def encoded : List UInt8 → List Char
  | [] => []
  | [a] => group 2 a.toNat 0 0 ++ ['=', '=']
  | [a, b] => group 3 a.toNat b.toNat 0 ++ ['=']
  | a :: b :: c :: s => group 4 a.toNat b.toNat c.toNat ++ encoded s
where
  group (count a b c : Nat) : List Char :=
    let n := a * 65536 + b * 256 + c
    ([n / 262144, n / 4096 % 64, n / 64 % 64, n % 64].take count).map fun i =>
      alphabet[i]?.getD 'A'

/-- The bytes of groups of four letters, and whether all is right. -/
def decoded : List (List Char) → List UInt8 × Bool
  | [] => ([], true)
  | letters :: groups =>
    let known := letters.takeWhile alphabet.contains
    let values := known.filterMap fun c => alphabet.idxOf? c
    let n := (values ++ List.replicate (4 - values.length) 0).foldl (fun n v => n * 64 + v) 0
    let front := ([n / 65536, n / 256 % 256, n % 256].take (known.length - 1)).map UInt8.ofNat
    let signs := letters.drop known.length
    if letters.length = 4 && signs.length ≤ 2 && signs.all (· = '=') then
      let (rest, good) := decoded groups
      (front ++ rest, good)
    else (front, false)

end Dumping

open Dumping in
/-- Writes a file as numbers or characters. -/
def od : Tool := fun _ => withOptions
  { letters := "A:abcdij:lN:ost:vw:x", optional := "w",
    names := [("address-radix", 'A'), ("skip-bytes", 'j'), ("read-bytes", 'N'), ("format", 't'),
      ("output-duplicates", 'v'), ("width", 'w')] } 1 fun c o => do
  let complained (message : String) : Program Nat := do
    complain c message
    return 1
  let shapes := o.found.filterMap fun (letter, value) =>
    if letter = 't' then some (columns value (value.length + 1) value.toList)
    else (shortColumn? letter).map fun column => .ok [column]
  let base : Except String (Option Nat) := match (o.value? 'A').map (·.toList) with
    | none | some ('o' :: _) => .ok (some 8)
    | some ('d' :: _) => .ok (some 10)
    | some ('x' :: _) => .ok (some 16)
    | some ('n' :: _) => .ok none
    | some s => .error (s!"invalid output address radix '{String.ofList (s.take 1)}'; " ++
        "it must be one character from [doxn]")
  let number (letter : Char) : Except String (Option Nat) :=
    match o.value? letter with
    | none => .ok none
    | some value =>
      match byteCount? value with
      | some n => .ok (some n)
      | none => .error s!"invalid -{letter} argument '{value}'"
  let plan : Except String (List (List Column) × Option Nat × Option Nat × Option Nat) := do
    return (← shapes.mapM id, ← base, ← number 'j', ← number 'N')
  match plan with
  | .error message => complained message
  | .ok (all, base, skip, limit) =>
    let cs := if all.isEmpty then [{ shape := .natural 8, size := 2 }] else all.flatten
    let (text, status) ← textOf c 1 o.args
    let bytes := Text.Octets.toBytes (String.ofList text)
    let skip := skip.getD 0
    if bytes.length < skip then complained "cannot skip past end of combined input"
    else
      let rest := bytes.drop skip
      let rest := limit.elim rest fun n => rest.take n
      let least := (cs.map (·.size)).foldl max 1
      let length := match o.value? 'w' with
        | none => 16
        | some "" => 32
        | some value => max least ((value.toNat?).getD 16 / least * least)
      if status = 1 && bytes.isEmpty then return 1
      writeAll ((dumped cs base length (o.has 'v') skip rest).map (·.toList))
      return status

open Dumping in
/-- Writes bytes in letters, or reads them from letters. -/
def base64 : Tool := fun _ => withOptions
  { letters := "dDiw:", names := [("decode", 'd'), ("ignore-garbage", 'i'), ("wrap", 'w')] } 1
  fun c o => do
  match o.args with
  | _ :: extra :: _ => misuse c s!"extra operand '{extra}'" 1
  | paths =>
    match Decimal.natural? ((o.value? 'w').getD "76").toList with
    | none =>
      complain c ("invalid wrap size: " ++ quotedName ((o.value? 'w').getD ""))
      return 1
    | some width =>
      let (text, status) ← textOf c 1 paths
      if status ≠ 0 then return status
      if o.has 'd' || o.has 'D' then
        let letters := text.filter fun ch =>
          if o.has 'i' then ch = '=' || alphabet.contains ch else ch ≠ '\n'
        let (bytes, good) := decoded (inPieces 4 letters.length letters)
        Program.out (Text.Octets.ofBytes bytes)
        if good then return 0
        complain c "invalid input"
        return 1
      else
        let letters := encoded (Text.Octets.toBytes (String.ofList text))
        if width = 0 then writeAll [letters]
        else writeAll ((inPieces width letters.length letters).map (· ++ ['\n']))
        return 0

end ReleasePreview.Tools
