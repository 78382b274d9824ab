import ReleasePreview.LineDiff.Script
import ReleasePreview.LineDiff.Frontier

/-!
A shortest edit script by divide and conquer: common ends are kept, and what is between them is cut
where a shortest script passes.
-/
namespace ReleasePreview.LineDiff

variable {α : Type} [DecidableEq α]

/-- The longest common beginning of two lists, and what follows it in each. -/
def splitCommon : List α → List α → List α × List α × List α
  | a :: as, b :: bs =>
    if a = b then
      let (common, as', bs') := splitCommon as bs
      (a :: common, as', bs')
    else ([], a :: as, b :: bs)
  | as, bs => ([], as, bs)

/-- What two lists have in common at both ends. -/
structure Ends (α : Type) where
  front : List α
  oldCore : List α
  newCore : List α
  back : List α

/-- Takes the longest common beginning first, and then the longest common end of the rest. -/
def Ends.of (old new : List α) : Ends α :=
  let (front, old', new') := splitCommon old new
  let (back, oldRev, newRev) := splitCommon old'.reverse new'.reverse
  ⟨front, oldRev.reverse, newRev.reverse, back.reverse⟩

/-- The run of kept tokens, if there are any. -/
def keep (ts : List α) : Script α := if ts.isEmpty then [] else [.kept ts]

/-- Aligns two lists. A split at a corner would make no progress, and nothing is kept then; each
level of recursion has fewer tokens than the one above, so their number is fuel enough. -/
def alignWithin : Nat → List α → List α → Script α
  | 0, old, new => [.removed old, .added new]
  | fuel + 1, old, new =>
    let ends := Ends.of old new
    let core : Script α :=
      match ends.oldCore, ends.newCore with
      | [], [] => []
      | old', [] => [.removed old']
      | [], new' => [.added new']
      | old', new' =>
        match split? old' new' with
        | some p =>
          alignWithin fuel (old'.take p.x) (new'.take p.y) ++
            alignWithin fuel (old'.drop p.x) (new'.drop p.y)
        | none => [.removed old', .added new']
    keep ends.front ++ core ++ keep ends.back

def align (old new : List α) : Script α := alignWithin (old.length + new.length + 1) old new

end ReleasePreview.LineDiff
