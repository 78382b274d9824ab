import ReleasePreview.NameMap
import ReleasePreview.Package.Name
import ReleasePreview.Package.Version

/-! What a project declares about itself. -/
namespace ReleasePreview

/-- The modules that a package exposes, plainly or under headings. -/
inductive ExposedModules where
  | list (names : List String)
  | grouped (groups : NameMap (List String))
deriving Repr, DecidableEq

/-- The names in order, those of groups in the order of the headings. -/
def ExposedModules.names : ExposedModules → List String
  | list names => names
  | grouped groups => groups.toList.flatMap (·.2)

structure PackageManifest where
  name : PackageName
  summary : String := ""
  version : Version
  exposedModules : ExposedModules := .list []
deriving DecidableEq

/-- A package can be published; an application has no documentation to preview. -/
inductive Manifest where
  | package (m : PackageManifest)
  | application (sourceDirectories : List String)
deriving DecidableEq

/-- The manifest of a package, if it is one. -/
def Manifest.package? : Manifest → Option PackageManifest
  | package m => some m
  | application _ => none

end ReleasePreview
