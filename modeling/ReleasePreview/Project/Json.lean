import ReleasePreview.Json.Record
import ReleasePreview.Package.Json
import ReleasePreview.Project.Manifest

/-!
Reading a manifest. Its kind is checked where it stands, the rest is read whole, and only then are
the fields of that kind decoded.
-/
namespace ReleasePreview

open Json

namespace ExposedModules

/-- The shape of a value decides: a list of names or an object of such lists. Whatever is wrong
with the names, the message is one. -/
def ofJson (j : Json) : Except DecodeError ExposedModules :=
  let node := Node.ofJson j
  match Decoder.list .string node, Decoder.members (.list .string) node with
  | .ok names, _ => .ok (.list names)
  | _, .ok groups => .ok (.grouped (.ofList groups))
  | _, _ => .error (.noAlternative "untagged enum ExposedModules")

def decode : Decoder ExposedModules := fun node => do
  ofJson (← checked (node.read maxDepth))

end ExposedModules

/-- The two kinds of project. -/
inductive ProjectKind where
  | package
  | application
deriving Repr, DecidableEq

namespace ProjectKind

def text : ProjectKind → String
  | package => "package"
  | application => "application"

def all : List ProjectKind := [package, application]

def decode : Decoder ProjectKind
  | .string value => do
    Decoder.variant (all.map fun k => (k.text, k)) (← checked value)
  | node => mismatch "variant identifier" node

end ProjectKind

namespace Manifest

/-- The depth that is left for values inside a manifest. -/
def innerDepth : Nat := maxDepth - 1

/-- The kind of a manifest, if it has been seen, and its other members, read whole. -/
def splitMembers (kind : Option ProjectKind) (read : List (String × Json)) :
    List (Except SyntaxError String × Node) →
    Except DecodeError (Option ProjectKind × List (String × Json))
  | [] => .ok (kind, read)
  | (name, node) :: members => do
    let name ← checked name
    if name = "type" then
      if kind.isSome then throw (.duplicateField name)
      splitMembers (some (← ProjectKind.decode node)) read members
    else
      let value ← checked (node.read innerDepth)
      splitMembers kind (read ++ [(name, value)]) members

/-- Decodes the fields of a kind from what stands beside the kind. Elements left over in a list are
counted with the fields. -/
def decodeFields {δ ρ α : Type} (what : String) (fields : Fields δ ρ) (build : ρ → α) : Decoder α
  | .list items closing => do
    let (vs, surplus) ← fields.inOrder (Fields.lengthText what fields.size) closing 0 items
    if surplus.isEmpty then return build vs
    else throw (.wrongLength items.length (Fields.countText fields.size ++ " in sequence"))
  | node => fields.decode what build node

def packageFields :=
  Fields.required "name" PackageName.decode <| .optional "summary" .string "" <|
    .required "version" Version.decode <|
    .optional "exposed-modules" ExposedModules.decode (.list []) .nil

def applicationFields := Fields.optional "source-directories" (Decoder.list .string) [] .nil

def decodeKind : ProjectKind → Decoder Manifest
  | .package =>
    decodeFields "struct variant Manifest::Package" packageFields
      fun (name, summary, version, exposedModules, ()) =>
        .package { name, summary, version, exposedModules }
  | .application =>
    decodeFields "struct variant Manifest::Application" applicationFields
      fun (sourceDirectories, ()) => .application sourceDirectories

def decode : Decoder Manifest
  | .object members closing => do
    let (kind, rest) ← splitMembers none [] members
    checked (require closing.objectError?)
    let some kind := kind | throw (.missingField "type")
    decodeKind kind (.ofJson (.object rest))
  | .list items closing => do
    let some (node, items) ← Decoder.next? items closing | throw (.missingField "type")
    let kind ← ProjectKind.decode node
    let rest ← checked (readItems innerDepth items)
    checked (require closing.listError?)
    decodeKind kind (.ofJson (.array rest))
  | node => mismatch "internally tagged enum Manifest" node

end Manifest

end ReleasePreview
