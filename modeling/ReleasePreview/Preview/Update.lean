import ReleasePreview.Docs.Basic
import ReleasePreview.Report.Basic
import ReleasePreview.ContentDiff.Basic
import ReleasePreview.Package.Name
import ReleasePreview.Package.Version

/-! The outcome of a preview: the current documentation and how it differs from the last release. -/
namespace ReleasePreview

structure Update where
  name : Option PackageName := none
  version : Option Version := none
  publishedVersion : Option Version := none
  docs : Docs
  readme : Option String := none
  diff : Option ApiReport := none
  contentDiff : Option ContentDiff := none
deriving DecidableEq

end ReleasePreview
