/-!
The search for a split of two texts that a shortest edit script passes through. Points of the edit
grid are reached from its start and, on the reversed texts, from its end, one edit a round, until
the two fronts meet on a diagonal.
-/
namespace ReleasePreview.LineDiff

/-- A point of the edit grid: `x` tokens of the old text and `y` of the new are behind it. -/
structure Point where
  x : Nat
  y : Nat
deriving Repr, DecidableEq

namespace Point

/-- One more removal. -/
def right (p : Point) : Point := ⟨p.x + 1, p.y⟩

/-- One more addition. -/
def down (p : Point) : Point := ⟨p.x, p.y + 1⟩

/-- Follows equal tokens as far as they go. -/
def slide {α : Type} [DecidableEq α] (a b : Array α) (p : Point) : Point :=
  if h : p.x < a.size ∧ p.y < b.size then
    if a[p.x] = b[p.y] then slide a b ⟨p.x + 1, p.y + 1⟩ else p
  else p
termination_by a.size - p.x

end Point

/-- A point reached in a round, before and after it follows equal tokens. -/
structure Reach where
  entry : Point
  last : Point
deriving Repr, DecidableEq

/-- The furthest points after one edit more, from the highest diagonal down. On an inner diagonal
the point comes by addition when that lies strictly further along the old text. -/
def advance : List Point → List Point
  | [] => [⟨0, 0⟩]
  | p :: ps => p.right :: inner p ps
where
  inner (p : Point) : List Point → List Point
    | [] => [p.down]
    | q :: qs => (if q.x < p.x then p.down else q.right) :: inner q qs

/-- One round: the points reached on each diagonal, the highest diagonal first. -/
def round {α : Type} [DecidableEq α] (a b : Array α) (front : List Point) : List Reach :=
  (advance front).map fun p => ⟨p, p.slide a b⟩

/-- The point of the other front on the diagonal of `p`. The other front has `other.size` diagonals
and counts from the far corner of an `n` by `m` grid. -/
def opposite (n m : Nat) (other : Array Point) (p : Point) : Option Point :=
  let shift := other.size - 1 + m + p.x
  if n + p.y ≤ shift then other[(shift - (n + p.y)) / 2]? else none

/-- The first point of a round that has met or passed the other front on its diagonal. -/
def meeting? (n m : Nat) (other : Array Point) (reaches : List Reach) : Option Reach :=
  reaches.find? fun r =>
    match opposite n m other r.last with
    | some q => n ≤ r.last.x + q.x
    | none => false

/-- Rounds from both corners. With an odd difference of lengths the fronts can meet only while the
forward front moves, and the split is where its last run of equal tokens begins; otherwise only
while the backward front moves, and the split is where that run has come to. -/
def searchSplit {α : Type} [DecidableEq α] (a b ra rb : Array α) :
    Nat → List Point → List Point → Option Point
  | 0, _, _ => none
  | rounds + 1, front, back =>
    let n := a.size
    let m := b.size
    let forward := round a b front
    let odd := (n + m) % 2 == 1
    match if odd then meeting? n m back.toArray forward else none with
    | some r => some r.entry
    | none =>
      let front' := forward.map (·.last)
      let backward := round ra rb back
      match if odd then none else meeting? n m front'.toArray backward with
      | some r => some ⟨n - r.last.x, m - r.last.y⟩
      | none => searchSplit a b ra rb rounds front' (backward.map (·.last))

/-- A point that a shortest edit script of the two texts passes through. -/
def split? {α : Type} [DecidableEq α] (old new : List α) : Option Point :=
  let a := old.toArray
  let b := new.toArray
  searchSplit a b a.reverse b.reverse ((old.length + new.length + 1) / 2 + 1) [] []

end ReleasePreview.LineDiff
