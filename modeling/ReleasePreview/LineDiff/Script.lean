/-! Edit scripts: runs of tokens kept, removed and added, and the two texts a script stands for. -/
namespace ReleasePreview.LineDiff

/-- A stretch of an edit script. -/
inductive Run (α : Type) where
  | kept (tokens : List α)
  | removed (tokens : List α)
  | added (tokens : List α)
deriving Repr, DecidableEq

namespace Run

variable {α : Type}

def tokens : Run α → List α
  | kept ts => ts
  | removed ts => ts
  | added ts => ts

/-- The part of the old text. -/
def oldSide : Run α → List α
  | kept ts => ts
  | removed ts => ts
  | added _ => []

/-- The part of the new text. -/
def newSide : Run α → List α
  | kept ts => ts
  | removed _ => []
  | added ts => ts

/-- The number of tokens removed or added. -/
def cost : Run α → Nat
  | kept _ => 0
  | removed ts => ts.length
  | added ts => ts.length

end Run

abbrev Script (α : Type) := List (Run α)

namespace Script

variable {α : Type}

def oldText (s : Script α) : List α := s.flatMap Run.oldSide

def newText (s : Script α) : List α := s.flatMap Run.newSide

def cost : Script α → Nat
  | [] => 0
  | r :: s => r.cost + cost s

@[simp] theorem oldText_nil : oldText ([] : Script α) = [] := rfl

@[simp] theorem oldText_cons (r : Run α) (s : Script α) :
    oldText (r :: s) = r.oldSide ++ oldText s := rfl

@[simp] theorem oldText_append (s t : Script α) : oldText (s ++ t) = oldText s ++ oldText t :=
  List.flatMap_append

@[simp] theorem newText_nil : newText ([] : Script α) = [] := rfl

@[simp] theorem newText_cons (r : Run α) (s : Script α) :
    newText (r :: s) = r.newSide ++ newText s := rfl

@[simp] theorem newText_append (s t : Script α) : newText (s ++ t) = newText s ++ newText t :=
  List.flatMap_append

@[simp] theorem cost_nil : cost ([] : Script α) = 0 := rfl

@[simp] theorem cost_cons (r : Run α) (s : Script α) : cost (r :: s) = r.cost + cost s := rfl

@[simp] theorem cost_append (s t : Script α) : cost (s ++ t) = cost s + cost t := by
  induction s with
  | nil => simp
  | cons r s ih => simp [ih, Nat.add_assoc]

/-- The number of tokens in the runs. -/
def weight : Script α → Nat
  | [] => 0
  | r :: s => r.tokens.length + weight s

end Script

end ReleasePreview.LineDiff
