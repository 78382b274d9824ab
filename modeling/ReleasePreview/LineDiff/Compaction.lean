import ReleasePreview.LineDiff.Script

/-!
Compaction of an edit script: a run of changes is moved up as far as it goes and then down as far
as it goes, joining the runs of its kind that it meets. Additions pass over kept tokens that they
repeat; removals pass only over additions.
-/
namespace ReleasePreview.LineDiff

variable {α : Type} [DecidableEq α]

/-- A run of changes within its script: the runs before it (the nearest first), its tokens, and the
runs after it. -/
structure Cursor (α : Type) where
  before : Script α
  tokens : List α
  after : Script α

/-- Puts kept tokens in front of a script. -/
def keepBefore (ts : List α) : Script α → Script α
  | .kept us :: rest => .kept (ts ++ us) :: rest
  | rest => if ts.isEmpty then rest else .kept ts :: rest

/-- Puts kept tokens behind the nearest run of a reversed script. -/
def keepAfter (ts : List α) : Script α → Script α
  | .kept us :: rest => .kept (us ++ ts) :: rest
  | rest => if ts.isEmpty then rest else .kept ts :: rest

/-- Additions moved up past kept tokens, given backwards: what stays kept before them (backwards),
the additions, and the kept tokens they passed. One token is passed while it equals the last
addition, which then stands first. -/
def passUp : List α → List α → List α → List α × List α × List α
  | [], tokens, passed => ([], tokens, passed)
  | k :: ks, tokens, passed =>
    if tokens.getLast? = some k then passUp ks (k :: tokens.dropLast) (k :: passed)
    else (k :: ks, tokens, passed)

/-- Additions moved down past kept tokens: what stays kept after them, the additions, and the kept
tokens they passed, the last one first. One token is passed while it equals the first addition,
which then stands last. -/
def passDown : List α → List α → List α → List α × List α × List α
  | [], tokens, passed => ([], tokens, passed)
  | k :: ks, tokens, passed =>
    match tokens with
    | t :: ts => if t = k then passDown ks (ts ++ [t]) (k :: passed) else (k :: ks, tokens, passed)
    | [] => (k :: ks, [], passed)

/-- Moves additions up. -/
def additionsUp (tokens : List α) (after : Script α) : Script α → Cursor α
  | [] => ⟨[], tokens, after⟩
  | .removed ts :: before => additionsUp tokens (.removed ts :: after) before
  | .added ts :: before => additionsUp (ts ++ tokens) after before
  | .kept ts :: before =>
    let (left, tokens', passed) := passUp ts.reverse tokens []
    let after' := keepBefore passed after
    if left.isEmpty then additionsUp tokens' after' before
    else ⟨.kept left.reverse :: before, tokens', after'⟩

/-- Moves additions down. -/
def additionsDown (tokens : List α) (before : Script α) : Script α → Cursor α
  | [] => ⟨before, tokens, []⟩
  | .removed ts :: after => additionsDown tokens (.removed ts :: before) after
  | .added ts :: after => additionsDown (tokens ++ ts) before after
  | .kept ts :: after =>
    let (left, tokens', passed) := passDown ts tokens []
    let before' := keepAfter passed.reverse before
    if left.isEmpty then additionsDown tokens' before' after
    else ⟨before', tokens', .kept left :: after⟩

/-- Moves removals up. -/
def removalsUp (tokens : List α) (after : Script α) : Script α → Cursor α
  | .removed ts :: before => removalsUp (ts ++ tokens) after before
  | .added ts :: before => removalsUp tokens (.added ts :: after) before
  | before => ⟨before, tokens, after⟩

/-- Moves removals down. -/
def removalsDown (tokens : List α) (before : Script α) : Script α → Cursor α
  | .removed ts :: after => removalsDown (tokens ++ ts) before after
  | .added ts :: after => removalsDown tokens (.added ts :: before) after
  | after => ⟨before, tokens, after⟩

/-- Compacts the runs of removals from left to right. A run never ends up left of where it stood,
so the number of tokens is fuel enough. -/
def compactRemovals : Nat → Script α → Script α → Script α
  | 0, before, after => before.reverse ++ after
  | _ + 1, before, [] => before.reverse
  | fuel + 1, before, .removed ts :: after =>
    let up := removalsUp ts after before
    let down := removalsDown up.tokens up.before up.after
    compactRemovals fuel (.removed down.tokens :: down.before) down.after
  | fuel + 1, before, r :: after => compactRemovals fuel (r :: before) after

/-- Compacts the runs of additions from left to right, with the same fuel. -/
def compactAdditions : Nat → Script α → Script α → Script α
  | 0, before, after => before.reverse ++ after
  | _ + 1, before, [] => before.reverse
  | fuel + 1, before, .added ts :: after =>
    let up := additionsUp ts after before
    let down := additionsDown up.tokens up.before up.after
    compactAdditions fuel (.added down.tokens :: down.before) down.after
  | fuel + 1, before, r :: after => compactAdditions fuel (r :: before) after

/-- First every run of removals, then every run of additions. -/
def compact (s : Script α) : Script α :=
  let fuel := s.weight + 1
  compactAdditions fuel [] (compactRemovals fuel [] s)

end ReleasePreview.LineDiff
