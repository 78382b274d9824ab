import ReleasePreview.Json.Value
import ReleasePreview.Decimal.Shortest

/-! The text of a JSON value, compact or indented. -/
namespace ReleasePreview.Json

/-- The escape of a character inside a string, where it has one. -/
def stringEscape? (c : Char) : Option (List Char) :=
  match c with
  | '"' => some ['\\', '"']
  | '\\' => some ['\\', '\\']
  | '\x08' => some ['\\', 'b']
  | '\x0c' => some ['\\', 'f']
  | '\n' => some ['\\', 'n']
  | '\r' => some ['\\', 'r']
  | '\t' => some ['\\', 't']
  | c =>
    if c.toNat < 0x20 then
      some ['\\', 'u', '0', '0', Nat.digitChar (c.toNat / 16), Nat.digitChar (c.toNat % 16)]
    else none

def stringText (s : List Char) : List Char :=
  '"' :: s.flatMap (fun c => (stringEscape? c).getD [c]) ++ ['"']

def Number.render : Number → List Char
  | natural n => Nat.toDigits 10 n
  | negative n => '-' :: Nat.toDigits 10 n
  | float bits => (Decimal.floatText bits).toList

/-- Where blanks stand in the text of a value. -/
structure Layout where
  /-- The blanks before an element or member at a level of nesting, and before a closing bracket. -/
  gap : Nat → List Char
  /-- The blanks behind the colon of a member. -/
  afterColon : List Char

namespace Layout

def compact : Layout := ⟨fun _ => [], []⟩

/-- A line for every element and member, indented by two spaces a level. -/
def pretty : Layout := ⟨fun level => '\n' :: List.replicate (2 * level) ' ', [' ']⟩

end Layout

mutual

/-- The text of a value that stands at a level of nesting. -/
def write (l : Layout) (level : Nat) : Json → List Char
  | .null => ['n', 'u', 'l', 'l']
  | .bool true => ['t', 'r', 'u', 'e']
  | .bool false => ['f', 'a', 'l', 's', 'e']
  | .number n => n.render
  | .string s => stringText s.toList
  | .array [] => ['[', ']']
  | .array (j :: js) =>
    '[' :: (l.gap (level + 1) ++ (j.write l (level + 1) ++ (writeItems l (level + 1) js ++
      (l.gap level ++ [']']))))
  | .object [] => ['{', '}']
  | .object ((name, j) :: members) =>
    '{' :: (l.gap (level + 1) ++ (stringText name.toList ++ ':' :: (l.afterColon ++
      (j.write l (level + 1) ++ (writeMembers l (level + 1) members ++ (l.gap level ++ ['}']))))))

/-- Elements with a comma before each. -/
def writeItems (l : Layout) (level : Nat) : List Json → List Char
  | [] => []
  | j :: js => ',' :: (l.gap level ++ (j.write l level ++ writeItems l level js))

/-- Members with a comma before each. -/
def writeMembers (l : Layout) (level : Nat) : List (String × Json) → List Char
  | [] => []
  | (name, j) :: members =>
    ',' :: (l.gap level ++ (stringText name.toList ++ ':' :: (l.afterColon ++
      (j.write l level ++ writeMembers l level members))))

end

def compactText (j : Json) : String := String.ofList (j.write .compact 0)

def prettyText (j : Json) : String := String.ofList (j.write .pretty 0)

end ReleasePreview.Json
