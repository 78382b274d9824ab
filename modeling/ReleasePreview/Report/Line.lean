import ReleasePreview.Text.Blank
import ReleasePreview.Report.Basic

/-! What a single line of a report says, whatever stands around it. -/
namespace ReleasePreview.Report

open Text

/-- A banner of dashes opens a section, or closes one without opening another. -/
inductive Banner where
  | addedModules
  | removedModules
  | module (name : String)
  | closing
deriving Repr, DecidableEq

/-- The text behind a beginning. -/
def stripPrefix? (start : List Char) (s : List Char) : Option (List Char) :=
  if start.isPrefixOf s then some (s.drop start.length) else none

/-- One text stands somewhere in another. -/
def occursIn (needle : List Char) : List Char → Bool
  | [] => needle.isEmpty
  | c :: s => needle.isPrefixOf (c :: s) || occursIn needle s

/-- The magnitude that the first line of a report announces, blanks at its ends aside. -/
def announcement? (line : List Char) : Option Magnitude :=
  Magnitude.all.find? fun m =>
    ("This is a " ++ m.text ++ " change").toList.isPrefixOf (trim line)

def dashes : List Char := ['-', '-', '-', '-']

/-- Four dashes at the front make a banner of a trimmed line. -/
def isBanner (t : List Char) : Bool := dashes.isPrefixOf t

/-- The name in a banner of the form `---- NAME - MAGNITUDE ----`, the dashes at either end four or
more and the name without blanks. -/
def bannerName? (t : List Char) : Option String := do
  let t ← stripPrefix? dashes t
  let t ← stripPrefix? [' '] (t.dropWhile (· == '-'))
  let name := t.takeWhile fun c => !isBlank c
  guard !name.isEmpty
  let t ← stripPrefix? [' ', '-', ' '] (t.dropWhile fun c => !isBlank c)
  let t ← Magnitude.all.findSome? fun m => stripPrefix? m.text.toList t
  let t ← stripPrefix? [' '] t
  let t ← stripPrefix? dashes t
  guard (t.all (· == '-'))
  return String.ofList name

/-- What a trimmed banner opens. -/
def banner (t : List Char) : Banner :=
  if occursIn "ADDED MODULES".toList t then .addedModules
  else if occursIn "REMOVED MODULES".toList t then .removedModules
  else
    match bannerName? t with
    | some name => .module name
    | none => .closing

/-- The heading of a list of symbols. -/
def heading? (t : List Char) : Option ChangeKind :=
  if t = "Added:".toList then some .added
  else if t = "Changed:".toList then some .changed
  else if t = "Removed:".toList then some .removed
  else none

def isLetter (c : Char) : Bool := ('A' ≤ c && c ≤ 'Z') || ('a' ≤ c && c ≤ 'z')

/-- ASCII letters, ASCII digits and the underscore. -/
def isNameChar (c : Char) : Bool := isLetter c || ('0' ≤ c && c ≤ '9') || c == '_'

/-- The symbol that an item line declares: after one plus or minus sign and the blanks behind it,
an identifier, a space and a colon. -/
def symbol? (t : List Char) : Option String := do
  let t :=
    match t with
    | '+' :: rest => trimStart rest
    | '-' :: rest => trimStart rest
    | t => t
  guard (t.head?.any isLetter)
  guard ([' ', ':'].isPrefixOf (t.dropWhile isNameChar))
  return String.ofList (t.takeWhile isNameChar)

/-- A line that begins with a blank. -/
def isIndented (line : List Char) : Bool :=
  match line with
  | c :: _ => isBlank c
  | [] => false

end ReleasePreview.Report
