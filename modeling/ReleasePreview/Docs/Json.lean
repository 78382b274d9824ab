import ReleasePreview.Json.Record
import ReleasePreview.Docs.Basic

/-! The JSON form of documentation. -/
namespace ReleasePreview

open Json

namespace DocConstructor

def toJson (c : DocConstructor) : Json := .array [.string c.name, .strings c.args]

/-- A pair of the name and the arguments. -/
def decode : Decoder DocConstructor := fun node => do
  let (name, args) ← Decoder.pair .string (.list .string) node
  return { name, args }

end DocConstructor

namespace DocUnion

def toJson (u : DocUnion) : Json :=
  .object [("name", .string u.name), ("comment", .string u.comment), ("args", .strings u.args),
    ("cases", .array (u.constructors.map (·.toJson)))]

def decode : Decoder DocUnion :=
  Fields.decode "struct Union"
    (.required "name" .string <| .optional "comment" .string "" <|
      .optional "args" (.list .string) [] <|
      .optional "cases" (.list DocConstructor.decode) [] .nil)
    fun (name, comment, args, constructors, ()) => { name, comment, args, constructors }

end DocUnion

namespace DocAlias

def toJson (a : DocAlias) : Json :=
  .object [("name", .string a.name), ("comment", .string a.comment), ("args", .strings a.args),
    ("type", .string a.type)]

def decode : Decoder DocAlias :=
  Fields.decode "struct Alias"
    (.required "name" .string <| .optional "comment" .string "" <|
      .optional "args" (.list .string) [] <| .required "type" .string .nil)
    fun (name, comment, args, type, ()) => { name, comment, args, type }

end DocAlias

namespace DocValue

def toJson (v : DocValue) : Json :=
  .object [("name", .string v.name), ("comment", .string v.comment), ("type", .string v.type)]

def decode : Decoder DocValue :=
  Fields.decode "struct Value"
    (.required "name" .string <| .optional "comment" .string "" <| .required "type" .string .nil)
    fun (name, comment, type, ()) => { name, comment, type }

end DocValue

namespace Associativity

def toJson (a : Associativity) : Json := .string a.text

def decode : Decoder Associativity := Decoder.choice (Associativity.all.map fun a => (a.text, a))

end Associativity

namespace DocOperator

def toJson (o : DocOperator) : Json :=
  .object [("name", .string o.name), ("comment", .string o.comment), ("type", .string o.type),
    ("associativity", o.associativity.toJson),
    ("precedence", .number (.natural o.precedence.toNat))]

def decodePrecedence : Decoder UInt8 := fun node => do
  return UInt8.ofNat (← Decoder.integer 0 255 "u8" node).toNat

def decode : Decoder DocOperator :=
  Fields.decode "struct Binop"
    (.required "name" .string <| .optional "comment" .string "" <| .required "type" .string <|
      .optional "associativity" Associativity.decode .non <|
      .optional "precedence" decodePrecedence 0 .nil)
    fun (name, comment, type, associativity, precedence, ()) =>
      { name, comment, type, associativity, precedence }

end DocOperator

namespace DocModule

def toJson (m : DocModule) : Json :=
  .object [("name", .string m.name), ("comment", .string m.comment),
    ("unions", .array (m.unions.map (·.toJson))),
    ("aliases", .array (m.aliases.map (·.toJson))),
    ("values", .array (m.values.map (·.toJson))),
    ("binops", .array (m.operators.map (·.toJson)))]

def decode : Decoder DocModule :=
  Fields.decode "struct DocumentedModule"
    (.required "name" .string <| .optional "comment" .string "" <|
      .optional "unions" (.list DocUnion.decode) [] <|
      .optional "aliases" (.list DocAlias.decode) [] <|
      .optional "values" (.list DocValue.decode) [] <|
      .optional "binops" (.list DocOperator.decode) [] .nil)
    fun (name, comment, unions, aliases, values, operators, ()) =>
      { name, comment, unions, aliases, values, operators }

end DocModule

namespace Docs

def toJson (docs : Docs) : Json := .array (docs.map (·.toJson))

def decode : Decoder Docs := .list DocModule.decode

end Docs

end ReleasePreview
