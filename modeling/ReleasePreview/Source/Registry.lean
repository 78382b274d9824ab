import ReleasePreview.Source.Basic
import ReleasePreview.Source.Summary
import ReleasePreview.Text.Unprintable

/-! The registry of sources, in the order in which they are asked. -/
namespace ReleasePreview

structure Registry where
  sources : List Source := []

namespace Registry

def empty : Registry := {}

/-- Puts a source in the place of the first one with its id, or at the end. -/
def place (source : Source) : List Source → List Source
  | [] => [source]
  | s :: ss => if s.id = source.id then source :: ss else s :: place source ss

/-- Adds a source. It is asked after all others, unless it replaces one. -/
def register (r : Registry) (source : Source) : Registry := ⟨place source r.sources⟩

def get? (r : Registry) (id : String) : Option Source := r.sources.find? fun s => s.id = id

def ids (r : Registry) : List String := r.sources.map (·.id)

def size (r : Registry) : Nat := r.sources.length

def isEmpty (r : Registry) : Bool := r.sources.isEmpty

def summaries (r : Registry) : List SourceSummary :=
  r.sources.mapIdx fun i s => { id := s.id, label := s.label, priority := .ofNat i }

/-- The ids between brackets, quoted. -/
def idsText (r : Registry) : String := "[" ++ ", ".intercalate (r.ids.map Text.quoted) ++ "]"

/-- The registry in a line of a log. -/
def text (r : Registry) : String := "SourceRegistry \x7b sources: " ++ r.idsText ++ " \x7d"

end Registry

end ReleasePreview
