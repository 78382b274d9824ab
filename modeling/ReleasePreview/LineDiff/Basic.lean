import ReleasePreview.Text.Split
import ReleasePreview.LineDiff.Alignment
import ReleasePreview.LineDiff.Compaction

/-! The line diff of two texts: every line as context, removed or added. -/
namespace ReleasePreview

inductive LineKind where
  | removed
  | context
  | added
deriving Repr, DecidableEq

/-- A line without its terminator. -/
structure DiffLine where
  kind : LineKind
  text : String
deriving Repr, DecidableEq

namespace LineDiff

variable {α : Type}

/-- The tokens of a script with their kinds. Additions wait for the next context token, so removals
of a changed region come first. -/
def classify (waiting : List α) : Script α → List (LineKind × α)
  | [] => waiting.map (.added, ·)
  | .kept ts :: s => waiting.map (.added, ·) ++ (ts.map (.context, ·) ++ classify [] s)
  | .removed ts :: s => ts.map (.removed, ·) ++ classify waiting s
  | .added ts :: s => classify (waiting ++ ts) s

/-- The pieces of both texts, classified along a shortest edit script. -/
def classifiedPieces (old new : List Char) : List (LineKind × List Char) :=
  classify [] (compact (align (Text.pieces old) (Text.pieces new)))

end LineDiff

/-- The lines of both texts, or nothing when no line is removed or added. Lines are compared with
their terminators and shown without. -/
def lineDiff (old new : String) : Option (List DiffLine) :=
  let pieces := LineDiff.classifiedPieces old.toList new.toList
  if pieces.any fun p => p.1 != .context then
    some (pieces.map fun p => ⟨p.1, String.ofList (Text.bare p.2)⟩)
  else none

end ReleasePreview
