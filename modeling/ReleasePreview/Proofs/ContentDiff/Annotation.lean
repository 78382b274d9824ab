import ReleasePreview.Proofs.ContentDiff.Reference
import ReleasePreview.Proofs.Text.Split

/-!
How much of a declaration its line shows. The parameters of a type, an aliased type and the type of
a value can be read off the line. The arguments of a constructor are written next to each other as
they are: what the line shows of them is the words between the spaces, and these are the arguments
only where no argument has an unbracketed space.
-/
namespace ReleasePreview

/-- The characters that have a meaning of their own in the line of a declaration. -/
def marks : List Char := [' ', '=', '|', '(', ')', '[', ']', '{', '}']

/-- A text without marks, as identifiers are. -/
def IsPlain (s : String) : Prop := ∀ c ∈ s.toList, c ∉ marks

instance : DecidablePred IsPlain := fun s => List.decidableBAll (· ∉ marks) s.toList

theorem IsPlain.notMem {s : String} (h : IsPlain s) {c : Char} (hc : c ∈ marks) : c ∉ s.toList :=
  fun hmem => h c hmem hc

namespace DocConstructor

/-- The name and the arguments. -/
def parts (c : DocConstructor) : List (List Char) := (c.name :: c.args).map String.toList

end DocConstructor

namespace DocUnion

/-- What stands on the right side with spaces between it: the parts of the constructors, and bars
between those of one and of the next. -/
def parts (u : DocUnion) : List (List Char) :=
  [['|']].intercalate (u.constructors.map DocConstructor.parts)

/-- What the spaces on the right side separate. -/
def words (u : DocUnion) : List (List Char) := u.parts.flatMap (Text.split ' ')

end DocUnion

namespace Entity

def parameters : Entity → List String
  | value _ | operator _ => []
  | typeAlias a => a.args
  | unionType u => u.args

def constructors : Entity → List DocConstructor
  | value _ | operator _ | typeAlias _ => []
  | unionType u => u.constructors

/-- The parameters and the names of the constructors are identifiers. Nothing is said about the
types. -/
structure WellNamed (e : Entity) : Prop where
  parameters : ∀ x ∈ e.parameters, IsPlain x
  constructors : ∀ c ∈ e.constructors, IsPlain c.name

/-- Every argument of a constructor can be told from what stands beside it. -/
def Closed (e : Entity) : Prop :=
  ∀ c ∈ e.constructors, ∀ x ∈ c.args, Text.closes 0 x.toList ∧ x ≠ "|"

/-- The signatures agree as far as spaces between words go. -/
def SameWords : Entity → Entity → Prop
  | value a, value b => a.type = b.type
  | operator a, operator b => a.type = b.type
  | typeAlias a, typeAlias b => a.args = b.args ∧ a.type = b.type
  | unionType a, unionType b => a.args = b.args ∧ a.words = b.words
  | _, _ => False

end Entity

section Parameters

theorem toList_parameters (args : List String) :
    (parameters args).toList = Text.spaced (args.map String.toList) := by
  simp [parameters, Text.spaced, String.toList_join, List.flatMap_map]

theorem equals_notMem_parameters {args : List String} (h : ∀ x ∈ args, IsPlain x) :
    '=' ∉ (parameters args).toList := by
  simp only [toList_parameters, Text.spaced, List.flatMap_map, List.mem_flatMap, List.mem_cons,
    not_exists, not_and, not_or]
  exact fun x hx => ⟨by decide, (h x hx).notMem (by decide)⟩

/-- Parameters can be read off. -/
theorem parameters_inj {xs ys : List String} (hxs : ∀ x ∈ xs, IsPlain x)
    (hys : ∀ y ∈ ys, IsPlain y) : parameters xs = parameters ys ↔ xs = ys := by
  have hwords : ∀ zs : List String, (∀ z ∈ zs, IsPlain z) →
      Text.split ' ' (parameters zs).toList = [] :: zs.map String.toList := by
    intro zs hzs
    have hplain : ∀ z ∈ zs.map String.toList, ' ' ∉ z := by
      intro z hz
      obtain ⟨s, hs, rfl⟩ := List.mem_map.mp hz
      exact (hzs s hs).notMem (by decide)
    rw [toList_parameters, ← List.nil_append (Text.spaced _), Text.split_append_spaced,
      Text.flatMap_split hplain]
    rfl
  refine ⟨fun h => ?_, congrArg parameters⟩
  have hsplit := congrArg (fun s => Text.split ' ' s.toList) h
  simp only [hwords xs hxs, hwords ys hys, List.cons_inj_right] at hsplit
  exact List.map_injective_iff.mpr (fun _ _ => String.toList_inj.mp) hsplit

end Parameters

/-- What stands left and right of an equals sign can be read off where there is none on the left,
but for a beginning that is known. -/
theorem sides_inj (start : String) {l r l' r' : String} (hl : '=' ∉ l.toList)
    (hl' : '=' ∉ l'.toList) :
    start ++ l ++ " = " ++ r = start ++ l' ++ " = " ++ r' ↔ l = l' ∧ r = r' := by
  have hsplit : ∀ s t : String, '=' ∉ s.toList → Text.split '=' (s ++ " = " ++ t).toList =
      (s.toList ++ [' ']) :: Text.split '=' (' ' :: t.toList) := by
    intro s t hs
    have hleft : '=' ∉ s.toList ++ [' '] := by simpa using hs
    rw [← Text.split_append hleft]
    simp
  refine ⟨fun h => ?_, fun ⟨hl, hr⟩ => by rw [hl, hr]⟩
  have hline : l ++ " = " ++ r = l' ++ " = " ++ r' := by
    simpa only [String.append_assoc, String.append_right_inj] using h
  have hparts := congrArg (fun s => Text.split '=' s.toList) hline
  simp only [hsplit l r hl, hsplit l' r' hl', List.cons.injEq, (Text.split_injective '=').eq_iff,
    List.append_cancel_right_eq, true_and, String.toList_inj] at hparts
  exact hparts

namespace DocUnion

variable {u v : DocUnion}

theorem parts_ne_nil (c : DocConstructor) : c.parts ≠ [] := List.cons_ne_nil _ _

theorem toList_text (c : DocConstructor) : c.text.toList = [' '].intercalate c.parts :=
  String.toList_intercalate

theorem intercalate_parts_ne_nil {cs : List DocConstructor} (h : cs ≠ []) :
    [['|']].intercalate (cs.map DocConstructor.parts) ≠ [] := by
  match cs with
  | [] => exact absurd rfl h
  | [c] => simpa using parts_ne_nil c
  | c :: d :: cs => simp [List.intercalate_cons_cons]

theorem parts_eq_nil_iff : u.parts = [] ↔ u.constructors = [] := by
  refine ⟨fun h => ?_, fun h => by simp [parts, h]⟩
  by_contra hne
  exact intercalate_parts_ne_nil hne h

theorem words_eq_nil_iff : u.words = [] ↔ u.constructors = [] := by
  rw [words, List.flatMap_eq_nil_iff, ← parts_eq_nil_iff]
  refine ⟨fun h => List.eq_nil_iff_forall_not_mem.mpr fun x hx => ?_, fun h => by simp [h]⟩
  exact Text.split_ne_nil ' ' x (h x hx)

/-- Bars with spaces around them stand between the constructors as parts of their own. -/
theorem intercalate_bars (cs : List DocConstructor) :
    [' ', '|', ' '].intercalate (cs.map fun c => [' '].intercalate c.parts) =
      [' '].intercalate ([['|']].intercalate (cs.map DocConstructor.parts)) := by
  induction cs with
  | nil => rfl
  | cons c cs ih =>
    rcases eq_or_ne cs [] with rfl | hcs
    · simp
    · have hbar : [['|']] ++ [['|']].intercalate (cs.map DocConstructor.parts) ≠ [] := by simp
      rw [List.map_cons, List.map_cons, List.intercalate_cons_of_ne_nil (by simpa using hcs), ih,
        List.intercalate_cons_of_ne_nil (by simpa using hcs), List.append_assoc c.parts,
        Text.intercalate_append (parts_ne_nil c) hbar,
        Text.intercalate_append (List.cons_ne_nil _ _) (intercalate_parts_ne_nil hcs)]
      simp

/-- The line of a union type with constructors. -/
theorem annotation_eq (h : u.constructors ≠ []) :
    Declaration.annotation u = "type " ++ u.name ++ parameters u.args ++ " = " ++
      String.ofList ([' '].intercalate u.parts) := by
  have hcases : (" | ".intercalate (u.constructors.map DocConstructor.text)).toList =
      [' '].intercalate u.parts := by
    rw [String.toList_intercalate, parts, ← intercalate_bars, List.map_map]
    simp only [Function.comp_def, toList_text]
    rfl
  rw [← hcases, String.ofList_toList]
  simp [Declaration.annotation, h]

/-- The line of a union type without constructors. -/
theorem annotation_eq_head (h : u.constructors = []) :
    Declaration.annotation u = "type " ++ u.name ++ parameters u.args := by
  simp [Declaration.annotation, h]

/-- An equals sign tells constructors from none. -/
theorem annotation_ne (hname : u.name = v.name) (hu : u.constructors = [])
    (hv : v.constructors ≠ []) (hequals : '=' ∉ (parameters u.args).toList) :
    Declaration.annotation u ≠ Declaration.annotation v := by
  rw [annotation_eq_head hu, annotation_eq hv, hname]
  intro h
  simp only [String.append_assoc, String.append_right_inj] at h
  simp [h] at hequals

/-- The line of a union type shows its parameters and the words right of the equals sign. -/
theorem annotation_inj (hname : u.name = v.name)
    (hu : ∀ x ∈ u.args, IsPlain x) (hv : ∀ x ∈ v.args, IsPlain x) :
    Declaration.annotation u = Declaration.annotation v ↔ u.args = v.args ∧ u.words = v.words := by
  have hspaces : parameters u.args = parameters v.args ↔ u.args = v.args := parameters_inj hu hv
  have hu_equals := equals_notMem_parameters hu
  have hv_equals := equals_notMem_parameters hv
  by_cases hu' : u.constructors = [] <;> by_cases hv' : v.constructors = []
  · rw [annotation_eq_head hu', annotation_eq_head hv', hname, words_eq_nil_iff.mpr hu',
      words_eq_nil_iff.mpr hv', String.append_right_inj, hspaces, eq_self, and_true]
  · refine iff_of_false (annotation_ne hname hu' hv' hu_equals) fun ⟨_, hwords⟩ => hv' ?_
    rw [← words_eq_nil_iff, ← hwords, words_eq_nil_iff, hu']
  · refine iff_of_false (annotation_ne hname.symm hv' hu' hv_equals).symm fun ⟨_, hwords⟩ => hu' ?_
    rw [← words_eq_nil_iff, hwords, words_eq_nil_iff, hv']
  · rw [annotation_eq hu', annotation_eq hv', hname, sides_inj _ hu_equals hv_equals, hspaces,
      String.ofList_inj,
      Text.intercalate_eq_iff (mt parts_eq_nil_iff.mp hu') (mt parts_eq_nil_iff.mp hv')]
    rfl

end DocUnion

theorem closes_of_notMem {s : List Char} (h : ∀ c ∈ s, c ∉ marks) : Text.closes 0 s := by
  induction s with
  | nil => rfl
  | cons c s ih =>
    rw [List.forall_mem_cons] at h
    have hc := h.1
    simp only [marks, List.mem_cons, List.not_mem_nil, or_false, not_or] at hc
    simp [Text.closes, hc, ih h.2]

namespace DocUnion

variable {u v : DocUnion}

theorem closes_of_mem_parts (hu : (Entity.unionType u).WellNamed)
    (hclosed : (Entity.unionType u).Closed) {x : List Char} (hx : x ∈ u.parts) :
    Text.closes 0 x := by
  rcases Text.mem_intercalate hx with rfl | ⟨l, hl, hx⟩
  · decide
  · obtain ⟨c, hc, rfl⟩ := List.mem_map.mp hl
    obtain ⟨s, hs, rfl⟩ := List.mem_map.mp hx
    rcases List.mem_cons.mp hs with rfl | hs
    · exact closes_of_notMem (hu.constructors c hc)
    · exact (hclosed c hc s hs).1

theorem bar_notMem_parts (hu : (Entity.unionType u).WellNamed)
    (hclosed : (Entity.unionType u).Closed) {c : DocConstructor} (hc : c ∈ u.constructors) :
    ['|'] ∉ c.parts := by
  intro hbar
  obtain ⟨s, hs, hsbar⟩ := List.mem_map.mp hbar
  rcases List.mem_cons.mp hs with rfl | hs
  · exact (hu.constructors c hc).notMem (by decide) (hsbar ▸ List.mem_singleton_self '|')
  · exact (hclosed c hc s hs).2 (String.toList_inj.mp hsbar)

theorem parts_injective : Function.Injective DocConstructor.parts := by
  rintro ⟨name, args⟩ ⟨name', args'⟩ h
  have hsame : name :: args = name' :: args' :=
    List.map_injective_iff.mpr (fun _ _ => String.toList_inj.mp) h
  obtain ⟨rfl, rfl⟩ := List.cons_eq_cons.mp hsame
  rfl

/-- Where the brackets of all arguments close, the words show which constructors there are. -/
theorem words_eq_iff (hu : (Entity.unionType u).WellNamed) (hv : (Entity.unionType v).WellNamed)
    (hu_closed : (Entity.unionType u).Closed) (hv_closed : (Entity.unionType v).Closed) :
    u.words = v.words ↔ u.constructors = v.constructors := by
  refine ⟨fun hwords => ?_, fun h => by rw [words, words, parts, parts, h]⟩
  have hparts : u.parts = v.parts :=
    Text.words_inj (fun x hx => closes_of_mem_parts hu hu_closed hx)
      (fun x hx => closes_of_mem_parts hv hv_closed hx) hwords
  rcases eq_or_ne u.constructors [] with hnone | hsome
  · rw [hnone, eq_comm, ← parts_eq_nil_iff, ← hparts, parts_eq_nil_iff, hnone]
  · have hsplit : ∀ w : DocUnion, (Entity.unionType w).WellNamed → (Entity.unionType w).Closed →
        w.constructors ≠ [] → w.parts.splitOn ['|'] = w.constructors.map DocConstructor.parts := by
      intro w hw hw_closed hw_some
      refine List.splitOn_intercalate ['|'] (fun l hl => ?_) (by simpa using hw_some)
      obtain ⟨c, hc, rfl⟩ := List.mem_map.mp hl
      exact bar_notMem_parts hw hw_closed hc
    have hsome' : v.constructors ≠ [] := by
      rwa [Ne, ← parts_eq_nil_iff, ← hparts, parts_eq_nil_iff]
    refine List.map_injective_iff.mpr parts_injective ?_
    rw [← hsplit u hu hu_closed hsome, ← hsplit v hv hv_closed hsome', hparts]

end DocUnion

/-- The line of an alias shows its parameters and the type. -/
theorem DocAlias.annotation_inj {a b : DocAlias} (hname : a.name = b.name)
    (ha : ∀ x ∈ a.args, IsPlain x) (hb : ∀ x ∈ b.args, IsPlain x) :
    Declaration.annotation a = Declaration.annotation b ↔ a.args = b.args ∧ a.type = b.type := by
  have hline : ∀ d : DocAlias, Declaration.annotation d =
      "type alias " ++ d.name ++ parameters d.args ++ " = " ++ d.type := fun _ => rfl
  rw [hline, hline, hname, sides_inj _ (equals_notMem_parameters ha) (equals_notMem_parameters hb),
    parameters_inj ha hb]

theorem typing_inj {x y a b : String} (hname : x = y) : typing x a = typing y b ↔ a = b := by
  simp [typing, hname]

namespace Entity

variable {p c : Entity}

theorem annotation_eq_iff (hkind : p.sameKind c) (hname : p.name = c.name) (hp : p.WellNamed)
    (hc : c.WellNamed) : p.annotation = c.annotation ↔ p.SameWords c := by
  cases p <;> cases c <;> try exact absurd hkind Bool.false_ne_true
  case value.value v w => exact typing_inj hname
  case operator.operator v w => exact typing_inj hname
  case typeAlias.typeAlias a b => exact DocAlias.annotation_inj hname hp.parameters hc.parameters
  case unionType.unionType u v => exact DocUnion.annotation_inj hname hp.parameters hc.parameters

theorem sameWords_iff (hp : p.WellNamed) (hc : c.WellNamed) (hp_closed : p.Closed)
    (hc_closed : c.Closed) : p.SameWords c ↔ p.sameSignature c := by
  cases p <;> cases c <;> try exact iff_of_false id Bool.false_ne_true
  case value.value v w => simp [SameWords, sameSignature]
  case operator.operator v w => simp [SameWords, sameSignature]
  case typeAlias.typeAlias a b => simp [SameWords, sameSignature, and_comm]
  case unionType.unionType u v =>
    simp [SameWords, sameSignature, and_comm, DocUnion.words_eq_iff hp hc hp_closed hc_closed]

end Entity

/-- The line of a declaration tells it from another one of its kind and name where the words of the
signatures differ, and nowhere else: a changed declaration whose words stay is recorded with the
current line. Words tell signatures apart if every argument of a constructor has its spaces within
brackets. -/
theorem Entity.annotation_tells_apart {p c : Entity} (hkind : p.sameKind c)
    (hname : p.name = c.name) (hp : p.WellNamed) (hc : c.WellNamed) :
    (p.annotation = c.annotation ↔ p.SameWords c) ∧
      (∀ line, ItemDiff.oldAnnotation (p.change c) = some line →
        (line = c.annotation ↔ p.SameWords c)) ∧
      (p.Closed → c.Closed → (p.SameWords c ↔ p.sameSignature c)) := by
  refine ⟨annotation_eq_iff hkind hname hp hc, fun line hline => ?_, sameWords_iff hp hc⟩
  have hold : p.annotation = line := by
    simp only [change, Option.ite_none_left_eq_some, Option.some_inj] at hline
    exact hline.2
  rw [← hold, annotation_eq_iff hkind hname hp hc]

/-- A union type with one constructor. -/
def Entity.tree (args : List String) : Entity :=
  .unionType { name := "Tree", args := ["a"], constructors := [⟨"Node", args⟩] }

theorem Entity.wellNamed_tree (args : List String) : (tree args).WellNamed := by
  have hparameter : IsPlain "a" := by decide
  have hconstructor : IsPlain "Node" := by decide
  exact ⟨List.forall_mem_singleton.mpr hparameter, List.forall_mem_singleton.mpr hconstructor⟩

/-- Brackets tell an argument of two words from two arguments. -/
theorem Entity.annotation_bracketed_argument :
    Entity.annotation (tree ["(Tree a)"]) ≠ Entity.annotation (tree ["Tree", "a"]) := by
  obtain ⟨hlines, -, hclosed⟩ := annotation_tells_apart (p := tree ["(Tree a)"])
    (c := tree ["Tree", "a"]) rfl rfl (wellNamed_tree _) (wellNamed_tree _)
  have hbracketed : (tree ["(Tree a)"]).Closed := List.forall_mem_singleton.mpr (by decide)
  have hwords : (tree ["Tree", "a"]).Closed := List.forall_mem_singleton.mpr (by decide)
  rw [Ne, hlines, hclosed hbracketed hwords]
  decide

/-- Without brackets the line recorded for a changed declaration is the current one. -/
theorem Entity.annotation_compound_argument :
    (tree ["Tree a"]).sameKind (tree ["Tree", "a"]) ∧
      (tree ["Tree a"]).name = (tree ["Tree", "a"]).name ∧
      (tree ["Tree a"]).WellNamed ∧ (tree ["Tree", "a"]).WellNamed ∧
      ¬ (tree ["Tree a"]).sameSignature (tree ["Tree", "a"]) ∧
      ItemDiff.oldAnnotation ((tree ["Tree a"]).change (tree ["Tree", "a"])) =
        some "type Tree a = Node Tree a" ∧
      Entity.annotation (tree ["Tree", "a"]) = "type Tree a = Node Tree a" :=
  ⟨rfl, rfl, wellNamed_tree _, wellNamed_tree _, by decide, by decide, by decide⟩

end ReleasePreview
