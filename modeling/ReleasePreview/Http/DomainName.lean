import ReleasePreview.Decimal.Natural
import ReleasePreview.Http.Address
import ReleasePreview.Http.NameMapping
import ReleasePreview.Http.NameRanges
import ReleasePreview.Text.Composition
import ReleasePreview.Text.Unprintable

/-!
What characters are in a host name, the characters that they stand for, and the code that puts them
into ASCII: the ASCII characters, a hyphen, and numbers that say where the other characters go, in
ascending order of the characters.
-/
namespace ReleasePreview.Http

namespace Punycode

/-- The digits of the code: letters, then decimal digits. -/
def digit? (c : Char) : Option Nat :=
  if 'a' ≤ c ∧ c ≤ 'z' then some (c.toNat - 'a'.toNat)
  else if 'A' ≤ c ∧ c ≤ 'Z' then some (c.toNat - 'A'.toNat)
  else if Decimal.isDigit c then some (Decimal.digitValue c + 26)
  else none

/-- No number of the code is greater. -/
def maxNumber : Nat := 4294967295

/-- A digit below its threshold is the last one of its number. -/
def threshold (position bias : Nat) : Nat :=
  if position ≤ bias then 1 else if bias + 26 ≤ position then 26 else position - bias

/-- Reads a number and adds it. Gives the text behind it as well. -/
def addNumber (bias position weight value : Nat) : List Char → Option (Nat × List Char)
  | [] => none
  | c :: s => do
    let digit ← digit? c
    let value := value + digit * weight
    let t := threshold position bias
    if maxNumber < value then none
    else if digit < t then return (value, s)
    else if maxNumber < weight * (36 - t) then none
    else addNumber bias (position + 36) (weight * (36 - t)) value s

/-- Scales a number down until it is small, and counts the positions it takes. -/
def scale (number position : Nat) : Nat :=
  if 455 < number then scale (number / 35) (position + 36)
  else position + 36 * number / (number + 38)
termination_by number
decreasing_by exact Nat.div_lt_self (by omega) (by omega)

/-- The bias that suits numbers like the last one, in a text of some length. -/
def adapt (number length : Nat) (isFirst : Bool) : Nat :=
  let number := if isFirst then number / 700 else number / 2
  scale (number + number / length) 0

/-- A text that is being put together: the character to be put in next, and where. -/
structure Draft where
  text : List Char
  character : Nat
  place : Nat
  bias : Nat

/-- Reads the number of one character and puts it in. -/
def Draft.insert (d : Draft) (code : List Char) : Option (Draft × List Char) := do
  let (number, rest) ← addNumber d.bias 36 1 d.place code
  let length := d.text.length + 1
  let character := d.character + number / length
  let place := number % length
  guard (character.isValidChar)
  return (⟨d.text.insertIdx place (Char.ofNat character), character, place + 1,
    adapt (number - d.place) length (d.place = 0)⟩, rest)

/-- Reads the rest of a code. Every number takes a character of it at least. -/
def decodeFrom (fuel : Nat) (d : Draft) (code : List Char) : Option (List Char) :=
  match fuel, code with
  | _, [] => some d.text
  | 0, _ => none
  | fuel + 1, code => do
    let (d, rest) ← d.insert code
    decodeFrom fuel d rest

/-- The text of a code. A text of ASCII characters alone has no code. -/
def decode? (code : List Char) : Option (List Char) := do
  guard (code.all (·.toNat < 0x80))
  let numbers := (code.reverse.takeWhile (· ≠ '-')).reverse
  let plain := (code.take (code.length - numbers.length)).dropLast
  let numbers := if plain.isEmpty then code else numbers
  guard (!numbers.isEmpty)
  decodeFrom numbers.length ⟨plain, 0x80, 0, 72⟩ numbers

end Punycode

inductive NameKind where
  /-- A letter that is written from left to right. -/
  | left
  /-- A letter that is written from right to left. -/
  | right
  | number
  | arabicNumber
  | neutral
  /-- A mark without width of its own. -/
  | mark
deriving Repr, DecidableEq

/-- The joiner keeps letters together, the non-joiner apart. -/
def isJoiner (c : Char) : Bool := c = '\u200C' || c = '\u200D'

def isMark (c : Char) : Bool := !isJoiner c && Text.inRanges markRanges c.toNat

/-- The first table that has a character decides. Everything else is a letter. -/
def nameKind (c : Char) : NameKind :=
  let isIn (ranges : List (Nat × Nat)) := Text.inRanges ranges c.toNat
  if isJoiner c then .neutral
  else if isMark c && Text.isUnprintable c && !isIn spacingMarkRanges then .mark
  else if isIn numberRanges then .number
  else if isIn arabicNumberRanges then .arabicNumber
  else if isIn neutralRanges then .neutral
  else if isIn rightRanges then .right
  else .left

/-- What stands between letters that join each other. -/
def isTransparent (c : Char) : Bool :=
  nameKind c = .mark || Text.inRanges transparentRanges c.toNat

/-- Characters that no name has, in no form. -/
def isRefused (c : Char) : Bool :=
  let isIn (ranges : List (Nat × Nat)) := Text.inRanges ranges c.toNat
  if c.toNat < 0x80 || isJoiner c || isIn ignoredRanges then false
  else isIn refusedRanges || (Text.isUnprintable c && !isMark c && !isIn laterRanges)

/-- Plain characters that a name cannot have: they delimit parts of a URL, or do not show. -/
def isDelimiter (c : Char) : Bool :=
  c.toNat ≤ 0x20 || c.toNat = 0x7F || "\"#%/:<>?@[\\]^`\x7b|\x7d".contains c

/-- The characters that a character stands for. -/
def mapped (c : Char) : List Char :=
  if c.toNat < 0x80 then [c.toLower]
  else if !isJoiner c && Text.inRanges ignoredRanges c.toNat then []
  else
    match mapping[c.toNat]? with
    | some codes => codes.map Char.ofNat
    | none => [c]

end ReleasePreview.Http

/-!
Host names: labels between dots, in characters of any script. A name stands for the same host as its
plain form, and every label has to be one that can be read in one way only.
-/
namespace ReleasePreview.Http.DomainName

/-- The plain form of a name, if it may have all its characters. -/
def plain? (name : List Char) : Option (List Char) := do
  guard (name.all (!isRefused ·))
  let plain := Text.composed (name.flatMap mapped)
  guard (plain.all (!isDelimiter ·))
  return plain

/-- A label that is not in ASCII has this many characters at most. -/
def maxLength : Nat := 1000

/-- A code has this many characters at most. -/
def maxCodeLength : Nat := 2000

/-- The characters of a label. Behind `xn--` they are in a code, in their plain form. -/
def labelText? (label : List Char) : Option (List Char) :=
  match label with
  | 'x' :: 'n' :: '-' :: '-' :: code => do
    guard (code.length ≤ maxCodeLength)
    let text ← Punycode.decode? code
    guard (plain? text = some text)
    return text
  | label => some label

def hasFittingLength (label : List Char) : Bool :=
  label.length ≤ maxLength || label.all (·.toNat < 0x80)

/-- A label does not begin with a mark. -/
def beginsWell (label : List Char) : Bool := !label.head?.any isMark

/-- Marks do not keep letters from joining. -/
def meets (ranges : List (Nat × Nat)) (s : List Char) : Bool :=
  ((s.dropWhile isTransparent).head?).any fun c => Text.inRanges ranges c.toNat

/-- Joiners and non-joiners stand behind a virama, and non-joiners between letters that would join
as well. The characters before a place are given from the last one. -/
def joinersFit (before : List Char) : List Char → Bool
  | [] => true
  | c :: s =>
    let fits := before.head?.any Text.isVirama
      || (c = '\u200C' && meets joiningNextRanges before && meets joiningPreviousRanges s)
    (!isJoiner c || fits) && joinersFit (c :: before) s

/-- All of a label runs in the direction of its first letter, and the end shows it as well. -/
def runsOneWay (label : List Char) : Bool :=
  let kinds := label.map nameKind
  match kinds, (kinds.reverse.dropWhile (· = .mark)).head? with
  | .left :: _, some last =>
    !kinds.contains .right && !kinds.contains .arabicNumber && (last = .left || last = .number)
  | .right :: _, some last =>
    !kinds.contains .left && !(kinds.contains .number && kinds.contains .arabicNumber)
      && (last = .right || last = .number || last = .arabicNumber)
  | [], _ => true
  | _, _ => false

/-- Names with anything that is written from right to left. -/
def runsBothWays (name : List Char) : Bool :=
  name.any fun c => nameKind c = .right || nameKind c = .arabicNumber

def isName (name : List Char) : Bool :=
  match plain? name with
  | none => false
  | some name =>
    match (Text.split '.' name).mapM labelText? with
    | none => false
    | some labels =>
      let parts := Address.parts name
      !name.isEmpty && labels.all hasFittingLength && labels.all beginsWell
        && labels.all (joinersFit []) && (!labels.any runsBothWays || labels.all runsOneWay)
        && (!Address.endsInNumber parts || Address.isBytes parts)

end ReleasePreview.Http.DomainName
