import ReleasePreview.Report.Basic
import ReleasePreview.Json.Record

/-! The JSON form of a report. -/
namespace ReleasePreview

open Json

namespace Magnitude

def toJson (m : Magnitude) : Json := .string m.text

def decode : Decoder Magnitude := Decoder.choice (all.map fun m => (m.text, m))

end Magnitude

namespace ModuleReport

def toJson (m : ModuleReport) : Json :=
  .object [("name", .string m.name), ("added", .strings m.added), ("changed", .strings m.changed),
    ("removed", .strings m.removed)]

def decode : Decoder ModuleReport :=
  Fields.decode "struct ModuleChanges"
    (.required "name" .string <| .optional "added" (.list .string) [] <|
      .optional "changed" (.list .string) [] <| .optional "removed" (.list .string) [] .nil)
    fun (name, added, changed, removed, ()) => { name, added, changed, removed }

end ModuleReport

namespace ApiReport

def toJson (r : ApiReport) : Json :=
  .object [("magnitude", r.magnitude.toJson), ("addedModules", .strings r.addedModules),
    ("removedModules", .strings r.removedModules),
    ("changedModules", .array (r.changedModules.map (·.toJson)))]

def decode : Decoder ApiReport :=
  Fields.decode "struct ApiDiff"
    (.required "magnitude" Magnitude.decode <| .optional "addedModules" (.list .string) [] <|
      .optional "removedModules" (.list .string) [] <|
      .optional "changedModules" (.list ModuleReport.decode) [] .nil)
    fun (magnitude, addedModules, removedModules, changedModules, ()) =>
      { magnitude, addedModules, removedModules, changedModules }

end ApiReport

end ReleasePreview
