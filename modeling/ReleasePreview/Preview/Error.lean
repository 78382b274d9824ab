import ReleasePreview.Backend.Error

/-! What keeps a project from being previewed. -/
namespace ReleasePreview

inductive PreviewError where
  | noProject (path : String)
  | invalidManifest (path : String) (why : Json.DecodeError)
  /-- The project at a path is an application. -/
  | unsupported (path : String)
  | inaccessible (path : String) (why : FileError)
  | compiler (why : BackendError)
deriving Repr, DecidableEq

namespace PreviewError

def message : PreviewError → String
  | noProject path => "no elm.json found at or above " ++ path
  | invalidManifest path why => "invalid project manifest " ++ path ++ ": " ++ why.message
  | unsupported path =>
    path ++ " is an application; documentation can only be built for packages"
  | inaccessible path why => "failed to access " ++ path ++ ": " ++ why.message
  | compiler why => "documentation build failed: " ++ why.message

/-- The error behind an error, if there is one. -/
def cause? : PreviewError → Option String
  | noProject _ => none
  | invalidManifest _ why => some why.message
  | unsupported _ => none
  | inaccessible _ why => some why.message
  | compiler why => some why.message

end PreviewError

end ReleasePreview
