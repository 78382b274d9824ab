import ReleasePreview.Json.Decode
import ReleasePreview.Package.Name
import ReleasePreview.Package.Version

/-! Versions and package names in JSON: their texts. -/
namespace ReleasePreview

open Json

namespace Version

def toJson (v : Version) : Json := .string v.text

def decode : Decoder Version := Decoder.parsed parse refusal

end Version

namespace PackageName

def toJson (p : PackageName) : Json := .string p.text

def decode : Decoder PackageName := Decoder.parsed parse refusal

end PackageName

end ReleasePreview
