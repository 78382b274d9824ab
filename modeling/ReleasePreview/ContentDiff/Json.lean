import ReleasePreview.Json.Record
import ReleasePreview.ContentDiff.Basic

/-! The JSON form of line diffs and of content changes. What is absent is left out. -/
namespace ReleasePreview

open Json

namespace NameMap

/-- Maps are objects with the names in ascending order. -/
def toJson {α : Type} (toJson : α → Json) (m : NameMap α) : Json :=
  .object (m.toList.map fun (name, a) => (name, toJson a))

/-- The last member of a name counts. -/
def decode {α : Type} (d : Decoder α) : Decoder (NameMap α) := fun node => do
  return .ofList (← Decoder.members d node)

end NameMap

namespace LineKind

/-- Removed lines count as -1, context lines as 0, added lines as 1. -/
def status : LineKind → Int
  | .removed => -1
  | .context => 0
  | .added => 1

def ofStatus? (status : Int) : Option LineKind :=
  if status = -1 then some .removed
  else if status = 0 then some .context
  else if status = 1 then some .added
  else none

def toJson : LineKind → Json
  | .removed => .number (.negative 1)
  | .context => .number (.natural 0)
  | .added => .number (.natural 1)

def decode : Decoder LineKind := fun node => do
  let status ← Decoder.integer (-128) 127 "i8" node
  match ofStatus? status with
  | some kind => return kind
  | none => throw (.wrongInteger status "-1, 0 or 1")

end LineKind

namespace DiffLine

def toJson (l : DiffLine) : Json := .array [l.kind.toJson, .string l.text]

def decode : Decoder DiffLine := fun node => do
  let (kind, text) ← Decoder.pair LineKind.decode .string node
  return { kind, text }

def listToJson (ls : List DiffLine) : Json := .array (ls.map (·.toJson))

end DiffLine

namespace ItemDiff

def toJson (d : ItemDiff) : Json :=
  .object (present "commentDiff" (d.comment.map DiffLine.listToJson) ++
    present "oldAnnotation" (d.oldAnnotation.map .string))

def decode : Decoder ItemDiff :=
  Fields.decode "struct ItemContentDiff"
    (.optional "commentDiff" (.nullable (.list DiffLine.decode)) none <|
      .optional "oldAnnotation" (.nullable .string) none .nil)
    fun (comment, oldAnnotation, ()) => { comment, oldAnnotation }

end ItemDiff

namespace ModuleDiff

def toJson (d : ModuleDiff) : Json := .object [("items", d.items.toJson ItemDiff.toJson)]

def decode : Decoder ModuleDiff :=
  Fields.decode "struct ModuleContentDiff"
    (.optional "items" (NameMap.decode ItemDiff.decode) {} .nil)
    fun (items, ()) => { items }

end ModuleDiff

namespace ContentDiff

def toJson (d : ContentDiff) : Json :=
  .object (("modules", d.modules.toJson ModuleDiff.toJson) ::
    present "readmeDiff" (d.readme.map DiffLine.listToJson))

def decode : Decoder ContentDiff :=
  Fields.decode "struct ContentDiff"
    (.optional "modules" (NameMap.decode ModuleDiff.decode) {} <|
      .optional "readmeDiff" (.nullable (.list DiffLine.decode)) none .nil)
    fun (modules, readme, ()) => { modules, readme }

end ContentDiff

end ReleasePreview
