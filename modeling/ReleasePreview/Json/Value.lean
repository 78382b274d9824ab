/-! JSON values, and what can be said against the text of one. -/
namespace ReleasePreview

namespace Json

/-- A number as it is read: 64-bit integers are exact, everything else is a binary float. -/
inductive Number where
  | natural (n : Nat)
  /-- The number `-n`. -/
  | negative (n : Nat)
  /-- A float by its bits. -/
  | float (bits : UInt64)
deriving Repr, DecidableEq

/-- The largest integer read exactly. -/
def Number.maxNatural : Nat := 18446744073709551615

/-- The largest integer whose negation is read exactly. -/
def Number.maxNegative : Nat := 9223372036854775808

/-- What is wrong with a text that is no JSON value. -/
inductive SyntaxError where
  | endOfValue
  | endOfList
  | endOfObject
  | endOfString
  | expectedValue
  | expectedWord
  | expectedColon
  | expectedListComma
  | expectedObjectComma
  | keyNotString
  | trailingComma
  | trailingCharacters
  | invalidNumber
  | numberOutOfRange
  | invalidEscape
  | controlCharacter
  | loneSurrogate
  | endOfEscape
  | tooDeep
deriving Repr, DecidableEq

def SyntaxError.message : SyntaxError → String
  | endOfValue => "EOF while parsing a value"
  | endOfList => "EOF while parsing a list"
  | endOfObject => "EOF while parsing an object"
  | endOfString => "EOF while parsing a string"
  | expectedValue => "expected value"
  | expectedWord => "expected ident"
  | expectedColon => "expected `:`"
  | expectedListComma => "expected `,` or `]`"
  | expectedObjectComma => "expected `,` or `\x7d`"
  | keyNotString => "key must be a string"
  | trailingComma => "trailing comma"
  | trailingCharacters => "trailing characters"
  | invalidNumber => "invalid number"
  | numberOutOfRange => "number out of range"
  | invalidEscape => "invalid escape"
  | controlCharacter => "control character (\\u0000-\\u001F) found while parsing a string"
  | loneSurrogate => "lone leading surrogate in hex escape"
  | endOfEscape => "unexpected end of hex escape"
  | tooDeep => "recursion limit exceeded"

end Json

/-- A JSON value. Members stand in the order of the text, repeated names included. -/
inductive Json where
  | null
  | bool (b : Bool)
  | number (n : Json.Number)
  | string (s : String)
  | array (items : List Json)
  | object (members : List (String × Json))
deriving Repr

namespace Json

def strings (texts : List String) : Json := .array (texts.map .string)

/-- The member of an optional value, if it is there. -/
def present (name : String) (value : Option Json) : List (String × Json) :=
  value.toList.map (name, ·)

end Json

end ReleasePreview
