import ReleasePreview.Source.Basic

/-! Sources whose answers are written down beforehand. -/
namespace ReleasePreview

/-- How a source fails at a question. -/
inductive Fault where
  | failure (e : BackendError)
  | crash

/-- What a source knows of every package, and which questions it fails at. -/
structure ScriptedSource where
  id : String
  label : String
  versions : List Version := []
  docs : List (Version × Docs) := []
  readmes : List (Version × String) := []
  versionsFault : Option Fault := none
  docsFault : Option Fault := none
  readmeFault : Option Fault := none

namespace ScriptedSource

/-- An answer, unless there is a fault. -/
def outcome {α : Type} (fault : Option Fault) (a : α) : Outcome α :=
  match fault with
  | none => .answered a
  | some (.failure e) => .failed e
  | some .crash => .crashed

def source (s : ScriptedSource) : Source where
  id := s.id
  label := s.label
  versions _ _ := outcome s.versionsFault s.versions
  docs _ _ v := outcome s.docsFault (s.docs.lookup v)
  readme _ _ v := outcome s.readmeFault (s.readmes.lookup v)

end ScriptedSource

end ReleasePreview
