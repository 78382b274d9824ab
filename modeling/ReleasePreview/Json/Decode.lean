import ReleasePreview.Decimal.Shortest
import ReleasePreview.Json.Document
import ReleasePreview.Text.Unprintable

/-!
Typed values out of a JSON tree. A decoder goes through the tree in the order of the text and
reports the first problem it meets, be it of the text or of the data.
-/
namespace ReleasePreview.Json

/-- What a value is, without what is inside it. -/
inductive Shape where
  | null
  | bool (b : Bool)
  | number (n : Number)
  | string (s : String)
  | list
  | object
deriving Repr, DecidableEq

inductive DecodeError where
  | malformed (e : SyntaxError)
  | wrongType (found : Shape) (expected : String)
  | wrongInteger (found : Int) (expected : String)
  | wrongLength (found : Nat) (expected : String)
  | unknownVariant (name : String) (choices : List String)
  | missingField (name : String)
  | duplicateField (name : String)
  | noAlternative (expected : String)
  /-- A text that its type refuses, with the refusal's own message. -/
  | refused (message : String)
deriving Repr, DecidableEq

namespace Number

def text : Number → String
  | natural n => "integer `" ++ toString n ++ "`"
  | negative n => "integer `-" ++ toString n ++ "`"
  | float bits => "floating point `" ++ Decimal.floatText bits ++ "`"

end Number

def Shape.text : Shape → String
  | null => "null"
  | bool true => "boolean `true`"
  | bool false => "boolean `false`"
  | number n => n.text
  | string s => "string " ++ Text.quoted s
  | list => "sequence"
  | object => "map"

namespace DecodeError

/-- Two choices are joined by `or`, more are listed. -/
def choicesText (choices : List String) : String :=
  match choices with
  | [a, b] => "`" ++ a ++ "` or `" ++ b ++ "`"
  | choices => "one of " ++ ", ".intercalate (choices.map fun c => "`" ++ c ++ "`")

def message : DecodeError → String
  | malformed e => e.message
  | wrongType found expected => "invalid type: " ++ found.text ++ ", expected " ++ expected
  | wrongInteger found expected =>
    "invalid value: integer `" ++ toString found ++ "`, expected " ++ expected
  | wrongLength found expected =>
    "invalid length " ++ toString found ++ ", expected " ++ expected
  | unknownVariant name choices =>
    "unknown variant `" ++ name ++ "`, expected " ++ choicesText choices
  | missingField name => "missing field `" ++ name ++ "`"
  | duplicateField name => "duplicate field `" ++ name ++ "`"
  | noAlternative expected => "data did not match any variant of " ++ expected
  | refused message => message

end DecodeError

/-- What the end of a list is reported as where its elements are used. -/
def Closing.listError? : Closing → Option SyntaxError
  | closed => none
  | missing => some .endOfList
  | stray => some .expectedListComma
  | trailingComma => some .trailingComma
  | openComma => some .endOfValue
  | badName => some .expectedValue
  | brokenName f => some f.used
  | broken f => some f.used

/-- What the end of an object is reported as where its members are used. -/
def Closing.objectError? : Closing → Option SyntaxError
  | closed => none
  | missing => some .endOfObject
  | stray => some .expectedObjectComma
  | trailingComma => some .trailingComma
  | openComma => some .endOfValue
  | badName => some .keyNotString
  | brokenName f => some f.used
  | broken f => some f.used

/-- What the end of a list is reported as once every element that may be there has been used. -/
def Closing.surplusError? : Closing → Option SyntaxError
  | closed => none
  | missing => some .endOfList
  | trailingComma => some .trailingComma
  | _ => some .trailingCharacters

/-- What the end of a list is reported as where the list is skipped. -/
def Closing.skippedListError? : Closing → Option SyntaxError
  | trailingComma => some .expectedValue
  | broken f => some f.skipped
  | closing => closing.listError?

/-- What the end of an object is reported as where the object is skipped. -/
def Closing.skippedObjectError? : Closing → Option SyntaxError
  | trailingComma => some .keyNotString
  | openComma => some .endOfObject
  | brokenName f => some f.skipped
  | broken f => some f.skipped
  | closing => closing.objectError?

/-- Fails with an error if there is one. -/
def require : Option SyntaxError → Except SyntaxError Unit
  | some e => .error e
  | none => .ok ()

mutual

/-- Goes over a value that is not used. Only its grammar matters. -/
def Node.skip : Node → Except SyntaxError Unit
  | .list items closing => do skipItems items; require closing.skippedListError?
  | .object members closing => do skipMembers members; require closing.skippedObjectError?
  | .fault f => .error f.skipped
  | _ => .ok ()

def skipItems : List Node → Except SyntaxError Unit
  | [] => .ok ()
  | node :: nodes => do node.skip; skipItems nodes

def skipMembers : List (Except SyntaxError String × Node) → Except SyntaxError Unit
  | [] => .ok ()
  | (_, node) :: members => do node.skip; skipMembers members

end

/-- The deepest nesting of values that are read whole. -/
def maxDepth : Nat := 127

mutual

/-- Reads a value whole, within a number of levels of nesting. -/
def Node.read (depth : Nat) : Node → Except SyntaxError Json
  | .null => .ok .null
  | .bool b => .ok (.bool b)
  | .number value => value.map .number
  | .string value => value.map .string
  | .list items closing =>
    match depth with
    | 0 => .error .tooDeep
    | depth + 1 => do
      let items ← readItems depth items
      require closing.listError?
      return .array items
  | .object members closing =>
    match depth with
    | 0 => .error .tooDeep
    | depth + 1 => do
      let members ← readMembers depth members
      require closing.objectError?
      return .object members
  | .fault f => .error f.used

def readItems (depth : Nat) : List Node → Except SyntaxError (List Json)
  | [] => .ok []
  | node :: nodes => do
    let item ← node.read depth
    return item :: (← readItems depth nodes)

def readMembers (depth : Nat) :
    List (Except SyntaxError String × Node) → Except SyntaxError (List (String × Json))
  | [] => .ok []
  | (name, node) :: members => do
    let name ← name
    let value ← node.read depth
    return (name, value) :: (← readMembers depth members)

end

mutual

/-- The tree of a value's text. -/
def Node.ofJson : Json → Node
  | .null => .null
  | .bool b => .bool b
  | .number n => .number (.ok n)
  | .string s => .string (.ok s)
  | .array items => .list (ofItems items) .closed
  | .object members => .object (ofMembers members) .closed

def ofItems : List Json → List Node
  | [] => []
  | j :: js => Node.ofJson j :: ofItems js

def ofMembers : List (String × Json) → List (Except SyntaxError String × Node)
  | [] => []
  | (name, j) :: members => (.ok name, Node.ofJson j) :: ofMembers members

end

/-- What stands at the root of a tree. -/
def Node.shape : Node → Except SyntaxError Shape
  | .null => .ok .null
  | .bool b => .ok (.bool b)
  | .number value => value.map .number
  | .string value => value.map .string
  | .list _ _ => .ok .list
  | .object _ _ => .ok .object
  | .fault f => .error f.used

abbrev Decoder (α : Type) := Node → Except DecodeError α

/-- A problem of the text, met while decoding. -/
def checked {α : Type} (r : Except SyntaxError α) : Except DecodeError α :=
  r.mapError .malformed

/-- Refuses a node of another type than is due. -/
def mismatch {α : Type} (expected : String) (node : Node) : Except DecodeError α := do
  throw (.wrongType (← checked node.shape) expected)

namespace Decoder

def string : Decoder String
  | .string value => checked value
  | node => mismatch "a string" node

/-- Strings, as far as a reading of the text accepts them. -/
def parsed {α ε : Type} (parse : String → Except ε α) (message : ε → String) : Decoder α :=
  fun node => do (parse (← string node)).mapError fun e => .refused (message e)

/-- Integers between two bounds. -/
def integer (lo hi : Int) (expected : String) : Decoder Int := fun node => do
  let within (n : Int) :=
    if lo ≤ n ∧ n ≤ hi then .ok n else .error (.wrongInteger n expected)
  match node with
  | .number value =>
    match ← checked value with
    | .natural n => within n
    | .negative n => within (-n)
    | .float bits => throw (.wrongType (.number (.float bits)) expected)
  | node => mismatch expected node

/-- A value or null. -/
def nullable {α : Type} (d : Decoder α) : Decoder (Option α)
  | .null => .ok none
  | node => (d node).map some

def list {α : Type} (d : Decoder α) : Decoder (List α)
  | .list items closing => do
    let values ← items.mapM d
    checked (require closing.listError?)
    return values
  | node => mismatch "a sequence" node

/-- The first element of a list that is not over, or what its end is reported as. -/
def next? (items : List Node) (closing : Closing) :
    Except DecodeError (Option (Node × List Node)) :=
  match items with
  | node :: nodes => .ok (some (node, nodes))
  | [] => do checked (require closing.listError?); return none

/-- No more elements may follow. -/
def finish (items : List Node) (closing : Closing) : Except DecodeError Unit :=
  if items.isEmpty then checked (require closing.surplusError?)
  else .error (.malformed .trailingCharacters)

def pair {α β : Type} (first : Decoder α) (second : Decoder β) : Decoder (α × β)
  | .list items closing => do
    let expected := "a tuple of size 2"
    let some (node, items) ← next? items closing | throw (.wrongLength 0 expected)
    let a ← first node
    let some (node, items) ← next? items closing | throw (.wrongLength 1 expected)
    let b ← second node
    finish items closing
    return (a, b)
  | node => mismatch "a tuple of size 2" node

/-- The members of an object, in order. -/
def members {α : Type} (d : Decoder α) : Decoder (List (String × α))
  | .object members closing => do
    let pairs ← members.mapM fun (name, node) => do return (← checked name, ← d node)
    checked (require closing.objectError?)
    return pairs
  | node => mismatch "a map" node

/-- The alternative of a name. -/
def variant {α : Type} (choices : List (String × α)) (name : String) : Except DecodeError α :=
  match choices.lookup name with
  | some a => .ok a
  | none => .error (.unknownVariant name (choices.map (·.1)))

def unit : Decoder Unit
  | .null => .ok ()
  | node => mismatch "unit" node

/-- One of some names, alone or as the only name of an object, with null for its value. -/
def choice {α : Type} (choices : List (String × α)) : Decoder α
  | .string value => do variant choices (← checked value)
  | .object ((name, node) :: members) closing => do
    let a ← variant choices (← checked name)
    unit node
    match members, closing with
    | [], .closed => return a
    | [], .missing => throw (.malformed .endOfObject)
    | _, _ => throw (.malformed .expectedValue)
  | .object [] closing => .error (.malformed (closing.objectError?.getD .expectedValue))
  | .fault f => .error (.malformed f.naming)
  | _ => .error (.malformed .expectedValue)

end Decoder

end ReleasePreview.Json
