import Mathlib.Order.Nat
import ReleasePreview.Proofs.Files.Path

/-!
Paths by their texts alone, with single and double dots resolved. A name below a path leads one
level down unless it is one of the two with a meaning of their own.
-/
namespace ReleasePreview.Path

/-- Where the text of a path leads: from the root or from some directory, so many levels up, and
then down along names. -/
structure Lexical where
  absolute : Bool
  up : Nat
  down : List String
deriving DecidableEq

namespace Lexical

/-- Two dots lead one level up. Above the root there is nothing. -/
def enter (l : Lexical) (name : String) : Lexical :=
  if name = "." then l
  else if name = ".." then
    if l.down = [] then { l with up := if l.absolute then l.up else l.up + 1 }
    else { l with down := l.down.dropLast }
  else { l with down := l.down ++ [name] }

/-- What lies beneath, along names. -/
def below (l : Lexical) (names : List String) : Lexical := { l with down := l.down ++ names }

end Lexical

/-- A path with its dots resolved. -/
def lexical (path : String) : Lexical := (names path).foldl Lexical.enter ⟨isAbsolute path, 0, []⟩

/-- A name that leads down. -/
def Descends (name : String) : Prop := name ≠ "." ∧ name ≠ ".."

instance (name : String) : Decidable (Descends name) := inferInstanceAs (Decidable (_ ∧ _))

namespace Lexical

variable {l : Lexical} {name : String} {names names' : List String}

theorem below_inj : l.below names = l.below names' ↔ names = names' := by
  simp [below]

theorem below_below (l : Lexical) (names names' : List String) :
    (l.below names).below names' = l.below (names ++ names') := by
  simp [below]

theorem enter_of_descends (h : Descends name) (l : Lexical) : l.enter name = l.below [name] := by
  rw [enter, if_neg h.1, if_neg h.2, below]

theorem length_down_enter_of_not_descends (h : ¬ Descends name) (l : Lexical) :
    (l.enter name).down.length ≤ l.down.length := by
  unfold enter
  by_cases hdot : name = "."
  · rw [if_pos hdot]
  · have hdots : name = ".." := by
      by_contra hdots
      exact h ⟨hdot, hdots⟩
    rw [if_neg hdot, if_pos hdots]
    split
    · exact le_refl _
    · rw [List.length_dropLast]
      omega

theorem length_down_enter_le (l : Lexical) (name : String) :
    (l.enter name).down.length ≤ l.down.length + 1 := by
  by_cases h : Descends name
  · rw [enter_of_descends h, below, List.length_append, List.length_singleton]
  · have hle := length_down_enter_of_not_descends h l
    omega

theorem length_down_foldl_enter_le (l : Lexical) (names : List String) :
    (names.foldl enter l).down.length ≤ l.down.length + names.length := by
  induction names generalizing l with
  | nil => exact le_refl _
  | cons name names ih =>
    have hrest := ih (l.enter name)
    have hfirst := l.length_down_enter_le name
    rw [List.foldl_cons, List.length_cons]
    omega

/-- Names lead to what lies beneath along them just if every one of them leads down: one that does
not makes the way too short. -/
theorem foldl_enter_eq_below :
    names.foldl enter l = l.below names ↔ ∀ name ∈ names, Descends name := by
  induction names generalizing l with
  | nil => simp [below]
  | cons name names ih =>
    rw [List.foldl_cons, List.forall_mem_cons]
    by_cases h : Descends name
    · have hbelow : l.below (name :: names) = (l.below [name]).below names := by
        rw [below_below, List.singleton_append]
      rw [enter_of_descends h, hbelow, ih, and_iff_right h]
    · refine iff_of_false (fun heq => ?_) fun hall => h hall.1
      have hfirst := length_down_enter_of_not_descends h l
      have hrest := length_down_foldl_enter_le (l.enter name) names
      rw [heq, below, List.length_append, List.length_cons] at hrest
      omega

end Lexical

section Join

/-- The dot that a slash at the end asks for makes no difference. -/
theorem lexical_eq (path : String) :
    lexical path = (parts path).foldl Lexical.enter ⟨isAbsolute path, 0, []⟩ := by
  unfold lexical names
  rw [List.foldl_append]
  split
  · rfl
  · rfl

theorem lexical_join {name : String} (base : String) (h : IsPart name) :
    lexical (join base name) = (lexical base).enter name := by
  rw [lexical_eq, lexical_eq, parts_join base h, isAbsolute_join base h, List.foldl_append,
    List.foldl_cons, List.foldl_nil]

end Join

end ReleasePreview.Path
