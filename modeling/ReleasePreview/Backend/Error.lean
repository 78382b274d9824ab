import ReleasePreview.Files.Error
import ReleasePreview.Http.Reply
import ReleasePreview.Json.Decode

/-! What goes wrong in a compiler or in a source of packages. -/
namespace ReleasePreview

inductive BackendError where
  /-- A program ran longer than it may. -/
  | timeout (program : String) (seconds : Nat)
  /-- A program ended badly, with an exit status unless it was killed. -/
  | exitStatus (program : String) (status : Option Nat) (stderr : String)
  | inaccessible (path : String) (why : FileError)
  | malformed (path : String) (why : Json.DecodeError)
  | notRequested (url why : String)
  | unexpectedStatus (url : String) (status : Nat)
  | notReceived (url why : String)
  | malformedListing (why : Json.DecodeError)
  | malformedAnswer (url : String) (why : Json.DecodeError)
  | notCreated (path : String) (why : FileError)
  | notCleared (path : String) (why : FileError)
  | notSpawned (program : String) (why : FileError)
  | notRead (path : String) (why : FileError)
  | malformedOutput (path : String) (why : Json.DecodeError)
  /-- A failure told in words. -/
  | other (message : String)
deriving Repr, DecidableEq

namespace BackendError

/-- The status of a program that has no exit status is told as `terminated`. -/
def exitText (status : Option Nat) : String := (status.map toString).getD "terminated"

def message : BackendError → String
  | timeout program seconds => program ++ " timed out after " ++ toString seconds ++ "s"
  | exitStatus program status stderr =>
    program ++ " failed with status " ++ exitText status ++ ": " ++ stderr
  | inaccessible path why => "failed to access " ++ path ++ ": " ++ why.message
  | malformed path why => "malformed " ++ path ++ ": " ++ why.message
  | notRequested url why => "request to " ++ url ++ " failed: " ++ why
  | unexpectedStatus url status => "request to " ++ url ++ " returned " ++ Http.statusText status
  | notReceived url why => "failed to read " ++ url ++ ": " ++ why
  | malformedListing why => "malformed releases listing: " ++ why.message
  | malformedAnswer url why => "malformed docs from " ++ url ++ ": " ++ why.message
  | notCreated path why => "failed to create " ++ path ++ ": " ++ why.message
  | notCleared path why => "failed to clear stale " ++ path ++ ": " ++ why.message
  | notSpawned program why => "failed to spawn " ++ program ++ ": " ++ why.message
  | notRead path why => "failed to read " ++ path ++ ": " ++ why.message
  | malformedOutput path why => "malformed docs in " ++ path ++ ": " ++ why.message
  | other message => message

end BackendError

end ReleasePreview
