import ReleasePreview.Awk.Value
import Std.Data.HashMap

/-!
Tables: values by their keys. The order in which keys are gone over is that of the places where they
are kept: by a hash of the text of the key, and in front of each other wherever one has been asked
for last. Keys that are integers are kept by their numbers until keys are needed as texts.
-/
namespace ReleasePreview.Awk

inductive TableKey where
  | integer (n : Int)
  | text (s : String)

structure Table where
  /-- The values one after the other from key one on, as long as there is nothing else. -/
  row : Option (Array Value) := none
  values : Std.HashMap String Value := {}
  integers : Array (List Int) := #[]
  texts : Array (List String) := #[]
  hasTexts : Bool := false
  hasIntegers : Bool := false

instance : Inhabited Table := ⟨{}⟩

namespace Table

/-- The number of places there are at first. -/
def firstSize : Nat := 64

/-- So many keys there may be to a place. -/
def density : Nat := 12

def hash (s : String) : Nat :=
  s.toList.foldl (fun h c => ((h ^^^ c.toNat) * 16777619) % 4294967296) 2166136261

def places (t : Table) : Nat := max t.texts.size t.integers.size

def placeOf (t : Table) (s : String) : Nat := hash s % t.places

def integerPlace (t : Table) (n : Int) : Nat := (Int.emod n t.places).toNat

def size (t : Table) : Nat :=
  match t.row with
  | some row => row.size
  | none => t.values.size

/-- The values of a row. -/
def ofRow (row : Array Value) : Table := if row.isEmpty then {} else { row := some row }

/-- So many places that the keys have room in them. The fuel bounds the doublings. -/
def room (count : Nat) : (fuel places : Nat) → Nat
  | 0, places => places
  | fuel + 1, places => if places * density < count then room count fuel (2 * places) else places

def empty (places : Nat) : Table where
  integers := Array.replicate places []
  texts := Array.replicate places []

/-- The values of a row by their keys. -/
def spread (t : Table) : Table :=
  match t.row with
  | none => if t.places = 0 then empty firstSize else t
  | some row =>
    let fresh := empty (room row.size 40 firstSize)
    (List.range row.size).foldl
      (fun t (i : Nat) =>
        let n : Int := (i : Int) + 1
        { t with
          values := t.values.insert (toString n) ((row[i]?).getD .unset)
          integers := t.integers.modify (t.integerPlace n) (n :: ·) })
      { fresh with hasIntegers := true }

/-- Gives each integer a place as a text. -/
def withTexts (t : Table) : Table :=
  let t := t.spread
  if t.hasTexts then t
  else
    let all := t.integers.toList.flatten
    let texts := all.foldl
      (fun texts n =>
        let s := toString n
        texts.modify (t.placeOf s) (s :: ·))
      t.texts
    { t with texts, hasTexts := true }

/-- Twice the places, if there are too many keys. -/
def grown (t : Table) : Table :=
  if t.values.size ≤ t.places * density then t
  else
    let wide : Table :=
      { t with
        texts := t.texts ++ Array.replicate t.texts.size []
        integers := t.integers ++ Array.replicate t.integers.size [] }
    { wide with
      texts := (wide.texts.mapIdx fun i _ =>
        ((t.texts[i % t.places]?).getD []).filter fun s => wide.placeOf s = i)
      integers := (wide.integers.mapIdx fun i _ =>
        ((t.integers[i % t.places]?).getD []).filter fun n => wide.integerPlace n = i) }

/-- Puts a text in front of its place. -/
def raiseText (t : Table) (s : String) : Table :=
  { t with texts := t.texts.modify (t.placeOf s) fun all =>
      if all.head? = some s then all else s :: all.filter (· ≠ s) }

def raiseInteger (t : Table) (n : Int) : Table :=
  { t with
    hasIntegers := true
    integers := t.integers.modify (t.integerPlace n) fun all =>
      if all.head? = some n then all else n :: all.filter (· ≠ n) }

/-- Makes room for a key that there was not, which has no place yet. -/
def make (t : Table) (s : String) : Table :=
  grown { t with values := t.values.insert s .unset }

/-- Looks for a text, and makes it if it is asked to. -/
def seekText (t : Table) (s : String) (create : Bool) : Table × Option Value :=
  let t := t.withTexts
  match t.values[s]? with
  | some a => (t.raiseText s, some a)
  | none => if create then ((t.make s).raiseText s, some .unset) else (t, none)

/-- The value in a row of a number. -/
def inRow? (t : Table) (n : Int) : Option Value :=
  t.row.bind fun row => if 1 ≤ n then row[(n - 1).toNat]? else none

/-- Looks for a key, and makes it if it is asked to. -/
def seek (t : Table) (key : TableKey) (create : Bool) : Table × Option Value :=
  match key with
  | .text s => t.seekText s create
  | .integer n =>
    match t.inRow? n with
    | some a => (t, some a)
    | none =>
      if t.row.isSome && !create then (t, none)
      else
        let t := t.spread
        let s := toString n
        if ((t.integers[t.integerPlace n]?).getD []).contains n then
          (t.raiseInteger n, some ((t.values[s]?).getD .unset))
        else if t.hasTexts then
          let sought := t.seekText s create
          (if sought.2.isSome then sought.1.raiseInteger n else sought.1, sought.2)
        else if create then ((t.make s).raiseInteger n, some .unset)
        else (t, none)

def keyText : TableKey → String
  | .text s => s
  | .integer n => toString n

def set (t : Table) (key : TableKey) (a : Value) : Table :=
  let t := (t.seek key true).1
  match t.row, key with
  | some row, .integer n => { t with row := some (row.setIfInBounds (n - 1).toNat a) }
  | _, _ => { t with values := t.values.insert (keyText key) a }

/-- The integer that the text of a key is, if it is written as one. -/
def integerOf? (s : String) : Option Int :=
  match s.toList with
  | '-' :: ds => (Decimal.natural? ds).map fun n => -n
  | ds => (Decimal.natural? ds).map Int.ofNat

/-- Takes a key out of all places. -/
def without (t : Table) (s : String) : Table where
  values := t.values.erase s
  texts := if t.hasTexts then t.texts.modify (t.placeOf s) (·.filter (· ≠ s)) else t.texts
  integers := match integerOf? s with
    | some n =>
      if toString n = s then t.integers.modify (t.integerPlace n) (·.filter (· ≠ n))
      else t.integers
    | none => t.integers
  hasTexts := t.hasTexts
  hasIntegers := t.hasIntegers

def erase (t : Table) (key : TableKey) : Table :=
  let sought := t.seek key false
  if sought.2.isNone then sought.1
  else
    let left := sought.1.spread.without (keyText key)
    if left.values.isEmpty then {} else left

/-- The keys in their order, and the table behind that. -/
def keys (t : Table) : Table × List String :=
  if t.size = 0 then (t, [])
  else
    let t := t.withTexts
    (t, t.texts.toList.flatten)

end Table

end ReleasePreview.Awk
