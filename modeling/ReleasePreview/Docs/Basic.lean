/-! The documentation of a package: its modules, and what they expose. -/
namespace ReleasePreview

/-- A constructor of a union type, with the texts of its argument types. -/
structure DocConstructor where
  name : String
  args : List String
deriving Repr, DecidableEq

/-- A union type. -/
structure DocUnion where
  name : String
  comment : String := ""
  args : List String := []
  constructors : List DocConstructor := []
deriving Repr, DecidableEq

/-- A type alias. -/
structure DocAlias where
  name : String
  comment : String := ""
  args : List String := []
  type : String
deriving Repr, DecidableEq

structure DocValue where
  name : String
  comment : String := ""
  type : String
deriving Repr, DecidableEq

inductive Associativity where
  | left
  | non
  | right
deriving Repr, DecidableEq

namespace Associativity

def text : Associativity → String
  | left => "left"
  | non => "non"
  | right => "right"

def all : List Associativity := [left, non, right]

end Associativity

/-- A binary operator. -/
structure DocOperator where
  name : String
  comment : String := ""
  type : String
  associativity : Associativity := .non
  precedence : UInt8 := 0
deriving Repr, DecidableEq

structure DocModule where
  name : String
  comment : String := ""
  unions : List DocUnion := []
  aliases : List DocAlias := []
  values : List DocValue := []
  operators : List DocOperator := []
deriving Repr, DecidableEq

/-- The documentation of one version of a package. -/
abbrev Docs := List DocModule

end ReleasePreview
