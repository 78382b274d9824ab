import ReleasePreview.ContentDiff.Json
import ReleasePreview.Docs.Json
import ReleasePreview.Package.Json
import ReleasePreview.Preview.Update
import ReleasePreview.Report.Json

/-! The JSON form of a preview's outcome. What is absent is null. -/
namespace ReleasePreview.Update

open Json

/-- A value or null. -/
def orNull {α : Type} (toJson : α → Json) (a : Option α) : Json := (a.map toJson).getD .null

def toJson (u : Update) : Json :=
  .object [("name", orNull PackageName.toJson u.name), ("version", orNull Version.toJson u.version),
    ("publishedVersion", orNull Version.toJson u.publishedVersion), ("docs", Docs.toJson u.docs),
    ("readme", orNull .string u.readme), ("diff", orNull ApiReport.toJson u.diff),
    ("contentDiff", orNull ContentDiff.toJson u.contentDiff)]

def decode : Decoder Update :=
  Fields.decode "struct PreviewUpdate"
    (.optional "name" (.nullable PackageName.decode) none <|
      .optional "version" (.nullable Version.decode) none <|
      .optional "publishedVersion" (.nullable Version.decode) none <|
      .required "docs" Docs.decode <|
      .optional "readme" (.nullable .string) none <|
      .optional "diff" (.nullable ApiReport.decode) none <|
      .optional "contentDiff" (.nullable ContentDiff.decode) none .nil)
    fun (name, version, publishedVersion, docs, readme, diff, contentDiff, ()) =>
      { name, version, publishedVersion, docs, readme, diff, contentDiff }

end ReleasePreview.Update
