import ReleasePreview.NameMap
import ReleasePreview.Package.Json

/-! The listing of a package's releases: an object whose member names are versions. -/
namespace ReleasePreview.Releases

open Json

/-- The versions among the distinct names of an object, whatever the values. Names that are no
versions are passed over. -/
def decode : Decoder (List Version) := fun node => do
  let names ← Decoder.members (fun value => checked (value.read (maxDepth - 1))) node
  return (NameMap.ofList names).keys.filterMap Version.parse?

end ReleasePreview.Releases
