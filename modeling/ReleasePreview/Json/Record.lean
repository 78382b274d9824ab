import ReleasePreview.Json.Decode

/-!
Records: objects of named fields in any order, or lists of the fields' values in the order of
declaration. Members with other names are skipped.
-/
namespace ReleasePreview.Json

/-- The fields of a record in the order of declaration: the type of what has been read of them, and
the type of all their values. A field without a value for its absence must be there. -/
inductive Fields : Type → Type → Type 1 where
  | nil : Fields Unit Unit
  | cons {τ δ ρ : Type} (name : String) (decode : Decoder τ) (absent : Option τ)
      (rest : Fields δ ρ) : Fields (Option τ × δ) (τ × ρ)

namespace Fields

/-- A field that must be there. -/
def required {τ δ ρ : Type} (name : String) (decode : Decoder τ) (rest : Fields δ ρ) :
    Fields (Option τ × δ) (τ × ρ) :=
  .cons name decode none rest

/-- A field that stands for a value when it is absent. -/
def optional {τ δ ρ : Type} (name : String) (decode : Decoder τ) (absent : τ)
    (rest : Fields δ ρ) : Fields (Option τ × δ) (τ × ρ) :=
  .cons name decode (some absent) rest

def size {δ ρ : Type} : Fields δ ρ → Nat
  | nil => 0
  | cons _ _ _ rest => rest.size + 1

/-- Nothing has been read yet. -/
def unread {δ ρ : Type} : Fields δ ρ → δ
  | nil => ()
  | cons _ _ _ rest => (none, rest.unread)

/-- Takes a member into the field of its name, if there is one. -/
def take {δ ρ : Type} (name : String) (node : Node) :
    Fields δ ρ → δ → Except DecodeError (Option δ)
  | nil, _ => .ok none
  | cons name' decode _ rest, (value, values) =>
    if name = name' then
      if value.isSome then .error (.duplicateField name)
      else (decode node).map fun v => some (some v, values)
    else (rest.take name node values).map (Option.map (value, ·))

/-- Takes the members of an object in their order. -/
def takeAll {δ ρ : Type} (fields : Fields δ ρ) (draft : δ) :
    List (Except SyntaxError String × Node) → Except DecodeError δ
  | [] => .ok draft
  | (name, node) :: members => do
    match ← fields.take (← checked name) node draft with
    | some draft => fields.takeAll draft members
    | none => checked node.skip; fields.takeAll draft members

/-- The values of all fields. -/
def values {δ ρ : Type} : Fields δ ρ → δ → Except DecodeError ρ
  | nil, _ => .ok ()
  | cons name _ absent rest, (value, draft) =>
    match value <|> absent with
    | some v => (rest.values draft).map (v, ·)
    | none => .error (.missingField name)

/-- The values of the fields from a list, and the elements left over. `expected` says what the
list should be, and `index` counts the elements before it. -/
def inOrder {δ ρ : Type} (expected : String) (closing : Closing) (index : Nat)
    (items : List Node) : Fields δ ρ → Except DecodeError (ρ × List Node)
  | nil => .ok ((), items)
  | cons _ decode absent rest => do
    match ← Decoder.next? items closing with
    | some (node, items) =>
      let v ← decode node
      let (vs, items) ← rest.inOrder expected closing (index + 1) items
      return ((v, vs), items)
    | none =>
      match absent with
      | some v =>
        let (vs, items) ← rest.inOrder expected closing (index + 1) []
        return ((v, vs), items)
      | none => throw (.wrongLength index expected)

def countText (size : Nat) : String :=
  toString size ++ (if size == 1 then " element" else " elements")

/-- How a list of the fields' values is described. -/
def lengthText (what : String) (size : Nat) : String := what ++ " with " ++ countText size

/-- Decodes a record that is called `what` in messages. -/
def decode {δ ρ α : Type} (what : String) (fields : Fields δ ρ) (build : ρ → α) : Decoder α
  | .object members closing => do
    let draft ← fields.takeAll fields.unread members
    checked (require closing.objectError?)
    return build (← fields.values draft)
  | .list items closing => do
    let (vs, items) ← fields.inOrder (lengthText what fields.size) closing 0 items
    Decoder.finish items closing
    return build vs
  | node => mismatch what node

end Fields

/-- Decodes a text: a single value, and nothing behind it. -/
def decodeText {α : Type} (d : Decoder α) (s : String) : Except DecodeError α := do
  let doc := document s.toList
  let a ← d doc.root
  if doc.trailing then throw (.malformed .trailingCharacters)
  return a

end ReleasePreview.Json
