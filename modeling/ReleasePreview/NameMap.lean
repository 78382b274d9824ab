/-! Finite maps from names, kept in ascending order of the names by code points. -/
namespace ReleasePreview

/-- Entries in strictly ascending order, so a map has one representation. -/
structure NameMap (α : Type) where
  toList : List (String × α) := []
  ascending : toList.Pairwise (fun a b => a.1 < b.1) := by exact List.Pairwise.nil
deriving Repr, DecidableEq

namespace NameMap

variable {α β : Type}

def empty : NameMap α := {}

instance : Inhabited (NameMap α) := ⟨empty⟩

def keys (m : NameMap α) : List String := m.toList.map (·.1)

def get? (m : NameMap α) (name : String) : Option α := m.toList.lookup name

def isEmpty (m : NameMap α) : Bool := m.toList.isEmpty

/-- Puts an entry in its place, over the one of its name if there is one. -/
def insertEntry (name : String) (a : α) : List (String × α) → List (String × α)
  | [] => [(name, a)]
  | e :: es =>
    if name < e.1 then (name, a) :: e :: es
    else if name = e.1 then (name, a) :: es
    else e :: insertEntry name a es

theorem mem_insertEntry {name : String} {a : α} {e : String × α} {es : List (String × α)}
    (h : e ∈ insertEntry name a es) : e = (name, a) ∨ e ∈ es := by
  induction es with
  | nil => simpa [insertEntry] using h
  | cons e' es ih => rw [insertEntry] at h; split at h <;> (try split at h) <;> grind

theorem insertEntry_ascending (name : String) (a : α) {es : List (String × α)}
    (h : es.Pairwise fun a b => a.1 < b.1) :
    (insertEntry name a es).Pairwise fun a b => a.1 < b.1 := by
  induction es with
  | nil => simp [insertEntry]
  | cons e es ih =>
    rw [List.pairwise_cons] at h
    rw [insertEntry]
    split
    · rename_i before
      refine List.pairwise_cons.2 ⟨fun e' he' => ?_, List.pairwise_cons.2 h⟩
      rcases List.mem_cons.1 he' with rfl | he'
      · exact before
      · exact String.lt_trans before (h.1 _ he')
    · rename_i notBefore
      split
      · rename_i same
        exact List.pairwise_cons.2 ⟨fun e' he' => same ▸ h.1 e' he', h.2⟩
      · rename_i other
        refine List.pairwise_cons.2 ⟨fun e' he' => ?_, ih h.2⟩
        rcases mem_insertEntry he' with rfl | he'
        · exact String.not_le.1 fun le => other (String.le_antisymm le (String.not_lt.1 notBefore))
        · exact h.1 _ he'

def insert (m : NameMap α) (name : String) (a : α) : NameMap α :=
  ⟨insertEntry name a m.toList, insertEntry_ascending name a m.ascending⟩

/-- The entries of a list, the last one of each name. -/
def ofList (entries : List (String × α)) : NameMap α :=
  entries.foldl (fun m e => m.insert e.1 e.2) empty

end NameMap

end ReleasePreview
