import ReleasePreview.Json.Record

/-! The summary of a source: what it is and when it is asked. -/
namespace ReleasePreview

/-- The priority counts the sources that are asked before. -/
structure SourceSummary where
  id : String
  label : String
  priority : UInt64
deriving Repr, DecidableEq

namespace SourceSummary

open Json

def toJson (s : SourceSummary) : Json :=
  .object [("id", .string s.id), ("label", .string s.label),
    ("priority", .number (.natural s.priority.toNat))]

def decodePriority : Decoder UInt64 := fun node => do
  return UInt64.ofNat (← Decoder.integer 0 Number.maxNatural "usize" node).toNat

def decode : Decoder SourceSummary :=
  Fields.decode "struct SourceSummary"
    (.required "id" .string <| .required "label" .string <|
      .required "priority" decodePriority .nil)
    fun (id, label, priority, ()) => { id, label, priority }

end SourceSummary

end ReleasePreview
