import ReleasePreview.Backend.Error
import ReleasePreview.Docs.Basic
import ReleasePreview.Files.Tree
import ReleasePreview.Http.Reply
import ReleasePreview.Package.Name
import ReleasePreview.Package.Version

/-! Sources of published packages, and the calls that are made on them. -/
namespace ReleasePreview

/-- What sources answer from: files, with the directory that paths are relative to, and a site. -/
structure Surroundings where
  files : FileTree := {}
  directory : Place := []
  site : Http.Site := fun _ => .lost Http.transport

/-- What comes of asking a source. -/
inductive Outcome (α : Type) where
  | answered (a : α)
  | failed (e : BackendError)
  | crashed

def Outcome.ofExcept {α : Type} : Except BackendError α → Outcome α
  | .ok a => .answered a
  | .error e => .failed e

structure Source where
  id : String
  label : String
  /-- All versions of a package, in no particular order. -/
  versions : Surroundings → PackageName → Outcome (List Version)
  docs : Surroundings → PackageName → Version → Outcome (Option Docs)
  readme : Surroundings → PackageName → Version → Outcome (Option String)

/-- What is asked about a package. -/
inductive Query where
  | versions
  | docs (v : Version)
  | readme (v : Version)
deriving Repr, DecidableEq

/-- One question to one source. -/
structure Call where
  source : String
  query : Query
  package : PackageName
deriving DecidableEq

def Query.text : Query → PackageName → String
  | versions, p => "versions " ++ p.text
  | docs v, p => "docs " ++ p.text ++ " " ++ v.text
  | readme v, p => "readme " ++ p.text ++ " " ++ v.text

def Call.text (c : Call) : String := c.source ++ " " ++ c.query.text c.package

end ReleasePreview
