import Mathlib.Data.Option.Basic
import ReleasePreview.ContentDiff.Compare
import ReleasePreview.Proofs.LineDiff.Classification
import ReleasePreview.Proofs.NameMap

/-!
What a comparison of two packages holds under each name, said without the maps it is collected in:
the last change of a name counts, and it is measured against the last published namesake.
-/
namespace ReleasePreview

/-- A documented thing of any kind. -/
inductive Entity where
  | value (v : DocValue)
  | operator (o : DocOperator)
  | typeAlias (a : DocAlias)
  | unionType (u : DocUnion)

namespace Entity

def name : Entity → String
  | value v => v.name
  | operator o => o.name
  | typeAlias a => a.name
  | unionType u => u.name

def comment : Entity → String
  | value v => v.comment
  | operator o => o.comment
  | typeAlias a => a.comment
  | unionType u => u.comment

def sameKind : Entity → Entity → Bool
  | value _, value _ => true
  | operator _, operator _ => true
  | typeAlias _, typeAlias _ => true
  | unionType _, unionType _ => true
  | _, _ => false

/-- Precedence, associativity and comments are no part of a signature. -/
def sameSignature : Entity → Entity → Bool
  | value a, value b => a.type = b.type
  | operator a, operator b => a.type = b.type
  | typeAlias a, typeAlias b => a.type = b.type ∧ a.args = b.args
  | unionType a, unionType b => a.constructors = b.constructors ∧ a.args = b.args
  | _, _ => false

def annotation : Entity → String
  | value v => Declaration.annotation v
  | operator o => Declaration.annotation o
  | typeAlias a => Declaration.annotation a
  | unionType u => Declaration.annotation u

/-- The line that declares an entity. Names, parameters, arguments and types stand as they are, with
single spaces between them. -/
inductive Written : Entity → String → Prop
  | value (v : DocValue) : Written (.value v) (v.name ++ " : " ++ v.type)
  | operator (o : DocOperator) : Written (.operator o) (o.name ++ " : " ++ o.type)
  | typeAlias (a : DocAlias) : Written (.typeAlias a)
      ("type alias " ++ " ".intercalate (a.name :: a.args) ++ " = " ++ a.type)
  | noConstructors (u : DocUnion) (h : u.constructors = []) :
      Written (.unionType u) ("type " ++ " ".intercalate (u.name :: u.args))
  | constructors (u : DocUnion) (h : u.constructors ≠ []) :
      Written (.unionType u) ("type " ++ " ".intercalate (u.name :: u.args) ++ " = " ++
        " | ".intercalate (u.constructors.map fun c => " ".intercalate (c.name :: c.args)))

/-- The change between an entity and its counterpart. -/
def change (published current : Entity) : ItemDiff where
  comment :=
    if published.comment = current.comment then none
    else lineDiff published.comment current.comment
  oldAnnotation :=
    if published.sameSignature current then none else some published.annotation

end Entity

/-- The entities of a module in visiting order. -/
def DocModule.entities (m : DocModule) : List Entity :=
  m.values.map .value ++ m.operators.map .operator ++ m.aliases.map .typeAlias ++
    m.unions.map .unionType

/-- The last published entity of the kind and the name. -/
def DocModule.namesake? (published : DocModule) (e : Entity) : Option Entity :=
  (published.entities.filter fun p => e.sameKind p && p.name = e.name).getLast?

/-- The change of an entity, if it has a counterpart and differs from it. -/
def DocModule.change? (published : DocModule) (e : Entity) : Option ItemDiff := do
  let p ← published.namesake? e
  guard !(p.change e).isEmpty
  return p.change e

/-- What is recorded under a name: the last change of an entity of that name. -/
def DocModule.item? (published current : DocModule) (x : String) : Option ItemDiff :=
  ((current.entities.filter fun e => e.name = x).filterMap published.change?).getLast?

/-- The last published module of a name. -/
def Docs.namesake? (published : Docs) (name : String) : Option DocModule :=
  (published.filter fun m => m.name = name).getLast?

/-- The items recorded for a module name: those of the last current module of that name that has
any. -/
def Docs.items? (published current : Docs) (name : String) : Option (String → Option ItemDiff) := do
  let old ← Docs.namesake? published name
  let changed ← ((current.filter fun m => m.name = name).filter fun m =>
    m.entities.any fun e => (old.change? e).isSome).getLast?
  return old.item? changed

/-- The changes between two readmes. -/
def readmeLines? : Option String → Option String → Option (List DiffLine)
  | some published, some current =>
    if published = current then none else lineDiff published current
  | _, _ => none

/-- Nothing is recorded under any name, and nothing for the readme. -/
def Docs.Unchanged (published current : Docs) (publishedReadme currentReadme : Option String) :
    Prop :=
  (∀ name, Docs.items? published current name = none) ∧
    readmeLines? publishedReadme currentReadme = none

/-- A comparison holds under each name what is recorded there. -/
structure Describes (published current : Docs) (publishedReadme currentReadme : Option String)
    (d : ContentDiff) : Prop where
  modules : ∀ name, (d.modules.get? name).map (fun m => m.items.get?) =
    Docs.items? published current name
  readme : d.readme = readmeLines? publishedReadme currentReadme

/-- Among all entities the last namesake of a kind is the last one in the list of that kind. -/
private theorem namesake?_eq (old : DocModule) :
    (∀ v, old.namesake? (.value v) = (ModuleDiff.counterpart? old.values v.name).map .value) ∧
      (∀ o, old.namesake? (.operator o) =
        (ModuleDiff.counterpart? old.operators o.name).map .operator) ∧
      (∀ a, old.namesake? (.typeAlias a) =
        (ModuleDiff.counterpart? old.aliases a.name).map .typeAlias) ∧
      ∀ u, old.namesake? (.unionType u) =
        (ModuleDiff.counterpart? old.unions u.name).map .unionType := by
  refine ⟨?_, ?_, ?_, ?_⟩ <;> intro e <;>
    simp [DocModule.namesake?, DocModule.entities, ModuleDiff.counterpart?, List.filter_append,
      List.filter_map, Function.comp_def, Entity.sameKind, Entity.name] <;> rfl

/-- The changes of one kind are those of its entities. -/
private theorem changes_eq {α : Type} [Declaration α] (toEntity : α → Entity) (old : DocModule)
    (published current : List α) (hname : ∀ d, (toEntity d).name = Declaration.name d)
    (hchange : ∀ p d, (toEntity p).change (toEntity d) = ItemDiff.between p d)
    (hnamesake : ∀ d, old.namesake? (toEntity d) =
      (ModuleDiff.counterpart? published (Declaration.name d)).map toEntity) :
    ModuleDiff.changes published current =
      (current.map toEntity).filterMap fun e => (old.change? e).map (e.name, ·) := by
  rw [ModuleDiff.changes, List.filterMap_map]
  refine List.filterMap_congr fun d _ => ?_
  simp only [Function.comp_apply, DocModule.change?, hnamesake, hname]
  cases ModuleDiff.counterpart? published (Declaration.name d) with
  | none => rfl
  | some p =>
    simp only [Option.map_some, Option.bind_eq_bind, Option.bind_some, hchange]
    cases (ItemDiff.between p d).isEmpty <;> rfl

theorem items_between (published current : DocModule) :
    (ModuleDiff.between published current).items =
      .ofList (current.entities.filterMap fun e => (published.change? e).map (e.name, ·)) := by
  obtain ⟨hv, ho, ha, hu⟩ := namesake?_eq published
  rw [ModuleDiff.between, DocModule.entities, List.filterMap_append, List.filterMap_append,
    List.filterMap_append,
    changes_eq .value published _ _ (fun _ => rfl) (fun _ _ => rfl) hv,
    changes_eq .operator published _ _ (fun _ => rfl) (fun _ _ => rfl) ho,
    changes_eq .typeAlias published _ _ (fun _ => rfl) (fun _ _ => rfl) ha,
    changes_eq .unionType published _ _ (fun _ => rfl) (fun _ _ => rfl) hu]

/-- The items of a comparison of two modules, name by name. -/
theorem get?_items_between (published current : DocModule) :
    (ModuleDiff.between published current).items.get? = published.item? current := by
  funext x
  rw [items_between, NameMap.get?_ofList_filterMap, DocModule.item?]

theorem isEmpty_between (published current : DocModule) :
    (ModuleDiff.between published current).isEmpty =
      !current.entities.any fun e => (published.change? e).isSome := by
  rw [ModuleDiff.isEmpty, items_between, NameMap.isEmpty_ofList, Bool.eq_iff_iff,
    List.isEmpty_iff, List.filterMap_eq_nil_iff]
  simp

theorem counterpart?_eq (published : Docs) (name : String) :
    ContentDiff.counterpart? published name = Docs.namesake? published name := by
  simp only [ContentDiff.counterpart?, Docs.namesake?, List.getLast?_filter]

/-- Of the changes of modules to one published module those of the changed modules remain. -/
private theorem filterMap_between (old : DocModule) (l : Docs) :
    l.filterMap (fun m => if (ModuleDiff.between old m).isEmpty then none
        else some (ModuleDiff.between old m)) =
      (l.filter fun m => m.entities.any fun e => (old.change? e).isSome).map
        (ModuleDiff.between old) := by
  induction l with
  | nil => rfl
  | cons m l ih =>
    rw [List.filterMap_cons, List.filter_cons, isEmpty_between]
    cases m.entities.any fun e => (old.change? e).isSome with
    | false => exact ih
    | true => simpa using ih

/-- The modules of a comparison, name by name. -/
theorem get?_ofList_changes (published current : Docs) (name : String) :
    ((NameMap.ofList (ContentDiff.changes published current)).get? name).map
        (fun m => m.items.get?) = Docs.items? published current name := by
  have hchanges : ContentDiff.changes published current = current.filterMap fun m =>
      ((ContentDiff.counterpart? published m.name).bind fun old =>
        if (ModuleDiff.between old m).isEmpty then none
        else some (ModuleDiff.between old m)).map (m.name, ·) := by
    refine List.filterMap_congr fun m _ => ?_
    cases ContentDiff.counterpart? published m.name with
    | none => rfl
    | some old => cases h : (ModuleDiff.between old m).isEmpty <;> simp [h]
  have hsame : ((current.filter fun m => m.name = name).filterMap fun m =>
      (ContentDiff.counterpart? published m.name).bind fun old =>
        if (ModuleDiff.between old m).isEmpty then none else some (ModuleDiff.between old m)) =
      (current.filter fun m => m.name = name).filterMap fun m =>
        (Docs.namesake? published name).bind fun old =>
          if (ModuleDiff.between old m).isEmpty then none
          else some (ModuleDiff.between old m) := by
    refine List.filterMap_congr fun m hm => ?_
    have hname : m.name = name := of_decide_eq_true (List.mem_filter.mp hm).2
    rw [counterpart?_eq, hname]
  rw [hchanges, NameMap.get?_ofList_filterMap, Docs.items?, hsame]
  cases Docs.namesake? published name with
  | none => simp
  | some old =>
    simp only [Option.bind_some, Option.bind_eq_bind]
    rw [filterMap_between, List.getLast?_map, Option.map_map]
    have hitems : ((fun m : ModuleDiff => m.items.get?) ∘ ModuleDiff.between old) =
        old.item? := by
      funext m
      exact get?_items_between old m
    rw [hitems, Option.map_eq_bind]
    rfl

private theorem readmeChange_eq (published current : Option String) :
    ContentDiff.readmeChange published current = readmeLines? published current := by
  cases published <;> cases current <;> rfl

/-- What is compared, whether or not there is a change in it. -/
private theorem exists_describes (published current : Docs)
    (publishedReadme currentReadme : Option String) :
    ∃ d, Describes published current publishedReadme currentReadme d ∧
      contentDiff? (some published) (some current) publishedReadme currentReadme =
        if d.isEmpty then none else some d := by
  refine ⟨{ modules := .ofList (ContentDiff.changes published current)
            readme := ContentDiff.readmeChange publishedReadme currentReadme }, ⟨?_, ?_⟩, ?_⟩
  · exact get?_ofList_changes published current
  · exact readmeChange_eq publishedReadme currentReadme
  · rw [contentDiff?]
    split
    · next hempty => simp [hempty]
    · next hchanged => simp [hchanged]

section

variable {published current : Docs} {publishedReadme currentReadme : Option String}
  {d d' : ContentDiff}

theorem Describes.unique (hd : Describes published current publishedReadme currentReadme d)
    (hd' : Describes published current publishedReadme currentReadme d') : d = d' := by
  have hmodules : d.modules = d'.modules := by
    refine NameMap.ext_get? fun name => ?_
    have hname := (hd.modules name).trans (hd'.modules name).symm
    refine Option.map_injective (fun m n hmn => ?_) hname
    obtain ⟨items⟩ := m
    obtain ⟨items'⟩ := n
    have hitems : items = items' := NameMap.ext_get? fun x => congrFun hmn x
    rw [hitems]
  obtain ⟨modules, readme⟩ := d
  obtain ⟨modules', readme'⟩ := d'
  have hreadme : readme = readme' := hd.readme.trans hd'.readme.symm
  rw [hreadme, show modules = modules' from hmodules]

theorem Describes.isEmpty_iff (hd : Describes published current publishedReadme currentReadme d) :
    d.isEmpty ↔ Docs.Unchanged published current publishedReadme currentReadme := by
  have hmodules : d.modules.isEmpty ↔ ∀ name, Docs.items? published current name = none := by
    rw [NameMap.isEmpty_iff]
    refine forall_congr' fun name => ?_
    rw [← hd.modules name, Option.map_eq_none_iff]
  rw [ContentDiff.isEmpty, Bool.and_eq_true, Option.isNone_iff_eq_none, hmodules, hd.readme,
    Docs.Unchanged]

end

theorem Entity.isSome_comment_change (published current : Entity) :
    (published.change current).comment.isSome ↔ published.comment ≠ current.comment := by
  rw [Entity.change]
  split
  · next heq => simp [heq]
  · next hne => simp [Option.isSome_iff_ne_none, lineDiff_eq_none_iff, hne]

section Annotations

/-- Words are joined by spaces alike, whether or not the first of them is one of the list. -/
theorem append_parameters (name : String) (args : List String) :
    name ++ parameters args = " ".intercalate (name :: args) := by
  induction args generalizing name with
  | nil => simp [parameters]
  | cons arg args ih =>
    rw [String.intercalate_cons_cons, ← ih]
    simp only [parameters, List.map_cons, String.join_cons, String.append_assoc]

namespace Entity

theorem annotation_typeAlias (a : DocAlias) : annotation (typeAlias a) =
    "type alias " ++ " ".intercalate (a.name :: a.args) ++ " = " ++ a.type := by
  rw [← append_parameters, ← String.append_assoc]
  rfl

theorem annotation_unionType (u : DocUnion) : annotation (unionType u) =
    if u.constructors = [] then "type " ++ " ".intercalate (u.name :: u.args)
    else "type " ++ " ".intercalate (u.name :: u.args) ++ " = " ++
      " | ".intercalate (u.constructors.map fun c => " ".intercalate (c.name :: c.args)) := by
  rw [← append_parameters, ← String.append_assoc]
  simp only [← List.isEmpty_iff]
  rfl

variable {p e : Entity} {s : String}

theorem written_iff : e.Written s ↔ e.annotation = s := by
  constructor
  · rintro (v | o | a | ⟨u, h⟩ | ⟨u, h⟩)
    · rfl
    · rfl
    · exact annotation_typeAlias a
    · rw [annotation_unionType, if_pos h]
    · rw [annotation_unionType, if_neg h]
  · rintro rfl
    cases e with
    | value v => exact .value v
    | operator o => exact .operator o
    | typeAlias a =>
      rw [annotation_typeAlias]
      exact .typeAlias a
    | unionType u =>
      rw [annotation_unionType]
      split
      · next h => exact .noConstructors u h
      · next h => exact .constructors u h

/-- Where signatures differ, the line of the published entity is kept. -/
theorem oldAnnotation_change :
    ItemDiff.oldAnnotation (p.change e) = some s ↔ ¬ p.sameSignature e ∧ p.Written s := by
  rw [change, written_iff, Option.ite_none_left_eq_some, Option.some_inj]

end Entity

end Annotations

theorem isSome_readmeLines? (published current : String) :
    (readmeLines? (some published) (some current)).isSome ↔ published ≠ current := by
  rw [readmeLines?]
  split
  · next heq => simp [heq]
  · next hne => simp [Option.isSome_iff_ne_none, lineDiff_eq_none_iff, hne]

/-- A comparison is there if both packages are documented and differ, and it is the one that holds
under each name the last change of a current namesake against the last published one. A change has
the published line just where the signatures differ. -/
theorem contentDiff?_reference (published current : Option Docs)
    (publishedReadme currentReadme : Option String) :
    (contentDiff? published current publishedReadme currentReadme = none ↔
      ∀ p c, published = some p → current = some c →
        Docs.Unchanged p c publishedReadme currentReadme) ∧
    (∀ d, contentDiff? published current publishedReadme currentReadme = some d ↔
      ∃ p c, published = some p ∧ current = some c ∧
        ¬ Docs.Unchanged p c publishedReadme currentReadme ∧
        Describes p c publishedReadme currentReadme d) ∧
    (∀ p e : Entity, (p.change e).comment.isSome ↔ p.comment ≠ e.comment) ∧
    (∀ (p e : Entity) (s : String),
      ItemDiff.oldAnnotation (p.change e) = some s ↔ ¬ p.sameSignature e ∧ p.Written s) ∧
    ∀ p c : String, (readmeLines? (some p) (some c)).isSome ↔ p ≠ c := by
  refine ⟨?_, fun d => ?_, Entity.isSome_comment_change, fun _ _ _ => Entity.oldAnnotation_change,
    isSome_readmeLines?⟩
  · cases published with
    | none => simp [contentDiff?]
    | some p =>
      cases current with
      | none => simp [contentDiff?]
      | some c =>
        obtain ⟨d, hd, heq⟩ := exists_describes p c publishedReadme currentReadme
        rw [heq]
        simp [hd.isEmpty_iff]
  · constructor
    · intro hsome
      cases published with
      | none => simp [contentDiff?] at hsome
      | some p =>
        cases current with
        | none => simp [contentDiff?] at hsome
        | some c =>
          obtain ⟨d', hd', heq⟩ := exists_describes p c publishedReadme currentReadme
          rw [heq, Option.ite_none_left_eq_some, hd'.isEmpty_iff, Option.some_inj] at hsome
          obtain ⟨hchanged, rfl⟩ := hsome
          exact ⟨p, c, rfl, rfl, hchanged, hd'⟩
    · rintro ⟨p, c, rfl, rfl, hchanged, hd⟩
      obtain ⟨d', hd', heq⟩ := exists_describes p c publishedReadme currentReadme
      rw [heq, if_neg fun hempty => hchanged (hd'.isEmpty_iff.mp hempty), hd'.unique hd]

end ReleasePreview
