import ReleasePreview.Source.Registry

/-!
The published state of a package. The sources are asked in order, and the first answer counts; a
failure counts as no answer.
-/
namespace ReleasePreview

/-- The latest published version of a package, with what is known of it. -/
structure Baseline where
  version : Version
  docs : Option Docs
  readme : Option String
deriving Repr, DecidableEq

/-- Calls in their order, and what came of them. A call that crashes is the last one. -/
structure Inquiry (α : Type) where
  calls : List Call
  result : Except Call α

namespace Inquiry

variable {α β : Type}

instance : Monad Inquiry where
  pure a := ⟨[], .ok a⟩
  bind i f :=
    match i.result with
    | .ok a => ⟨i.calls ++ (f a).calls, (f a).result⟩
    | .error c => ⟨i.calls, .error c⟩

/-- Makes a call. A failure is no answer. -/
def ask (call : Call) : Outcome (Option α) → Inquiry (Option α)
  | .answered a => ⟨[call], .ok a⟩
  | .failed _ => ⟨[call], .ok none⟩
  | .crashed => ⟨[call], .error call⟩

/-- Asks the sources in order, up to the first one with an answer. -/
def first (ask : Source → Inquiry (Option α)) : List Source → Inquiry (Option α)
  | [] => pure none
  | s :: ss => do
    match ← ask s with
    | some a => return some a
    | none => first ask ss

end Inquiry

/-- An answer made from another one. -/
def Outcome.map {α β : Type} (f : α → β) : Outcome α → Outcome β
  | answered a => answered (f a)
  | failed e => failed e
  | crashed => crashed

namespace Registry

/-- The latest version that the first source to know the package knows of. -/
def latestVersion (r : Registry) (w : Surroundings) (p : PackageName) : Inquiry (Option Version) :=
  .first (fun s => .ask ⟨s.id, .versions, p⟩ ((s.versions w p).map Version.latest?)) r.sources

def docs (r : Registry) (w : Surroundings) (p : PackageName) (v : Version) :
    Inquiry (Option Docs) :=
  .first (fun s => .ask ⟨s.id, .docs v, p⟩ (s.docs w p v)) r.sources

def readme (r : Registry) (w : Surroundings) (p : PackageName) (v : Version) :
    Inquiry (Option String) :=
  .first (fun s => .ask ⟨s.id, .readme v, p⟩ (s.readme w p v)) r.sources

/-- The latest version, and its documentation and readme, each from the first source that has it. -/
def baseline (r : Registry) (w : Surroundings) (p : PackageName) : Inquiry (Option Baseline) := do
  match ← r.latestVersion w p with
  | none => return none
  | some version =>
    let docs ← r.docs w p version
    let readme ← r.readme w p version
    return some { version, docs, readme }

/-- The registry in a line of a log, as what baselines are resolved from. -/
def baselineText (r : Registry) : String :=
  "BaselineService \x7b sources: " ++ r.idsText ++ " \x7d"

end Registry

end ReleasePreview
