import Mathlib.Data.List.Forall2
import Mathlib.Data.List.Nodup
import ReleasePreview.ContentDiff.Json
import ReleasePreview.Json.Render
import ReleasePreview.Proofs.ContentDiff.Scope

/-!
A comparison of two packages does not depend on the order in which modules and entities are listed,
as long as names are told apart. What is written of it is in ascending order of the names.
-/
namespace ReleasePreview

/-- Elements of distinct names are found under their names in any order. -/
theorem filter_name_of_perm {α : Type} {name : α → String} {l l' : List α} (h : l.Perm l')
    (hnodup : (l.map name).Nodup) (x : String) :
    l.filter (fun a => name a = x) = l'.filter fun a => name a = x := by
  have hperm := h.filter fun a => decide (name a = x)
  have hlength : (l.filter fun a => name a = x).length ≤ 1 := by
    have hcount := List.nodup_iff_count_le_one.mp hnodup x
    rw [List.count, List.countP_map, List.countP_eq_length_filter] at hcount
    exact hcount
  cases hl : l.filter fun a => name a = x with
  | nil =>
    rw [hl] at hperm
    exact hperm.nil_eq
  | cons a as =>
    rw [hl] at hperm hlength
    obtain rfl : as = [] := List.eq_nil_of_length_eq_zero (by simpa using hlength)
    exact List.singleton_perm.mp hperm

theorem NameMap.ofList_of_perm {α : Type} {es fs : List (String × α)} (h : es.Perm fs)
    (hnodup : (es.map (·.1)).Nodup) : ofList es = ofList fs := by
  refine ext_get? fun x => ?_
  rw [get?_ofList, get?_ofList, filter_name_of_perm h hnodup x]

/-- The entities of each kind have distinct names. Entities of two kinds may share one. -/
structure DocModule.DistinctNames (m : DocModule) : Prop where
  values : (m.values.map (·.name)).Nodup
  operators : (m.operators.map (·.name)).Nodup
  aliases : (m.aliases.map (·.name)).Nodup
  unions : (m.unions.map (·.name)).Nodup

instance (m : DocModule) : Decidable m.DistinctNames :=
  decidable_of_iff ((m.values.map (·.name)).Nodup ∧ (m.operators.map (·.name)).Nodup ∧
      (m.aliases.map (·.name)).Nodup ∧ (m.unions.map (·.name)).Nodup)
    ⟨fun ⟨hv, ho, ha, hu⟩ => ⟨hv, ho, ha, hu⟩, fun h => ⟨h.1, h.2, h.3, h.4⟩⟩

structure Docs.DistinctNames (d : Docs) : Prop where
  modules : (d.map (·.name)).Nodup
  entities : ∀ m ∈ d, m.DistinctNames

instance (d : Docs) : Decidable (Docs.DistinctNames d) :=
  decidable_of_iff ((d.map (·.name)).Nodup ∧ ∀ m ∈ d, m.DistinctNames)
    ⟨fun ⟨hm, he⟩ => ⟨hm, he⟩, fun h => ⟨h.1, h.2⟩⟩

/-- The same module with its entities in another order. -/
structure DocModule.Reorders (m m' : DocModule) : Prop where
  name : m'.name = m.name
  comment : m'.comment = m.comment
  values : m.values.Perm m'.values
  operators : m.operators.Perm m'.operators
  aliases : m.aliases.Perm m'.aliases
  unions : m.unions.Perm m'.unions

/-- The same modules in another order, each with its entities in another order. -/
def Docs.Reorders (d d' : Docs) : Prop :=
  ∃ between : Docs, d.Perm between ∧ List.Forall₂ DocModule.Reorders between d'

section Modules

variable {old old' m m' : DocModule}

/-- The entities of a name are the same, and in the same order as to their kinds. -/
theorem DocModule.Reorders.filter_name (h : m.Reorders m') (hm : m.DistinctNames) (x : String) :
    m.entities.filter (fun e => e.name = x) = m'.entities.filter fun e => e.name = x := by
  have hkind : ∀ {α : Type} (toEntity : α → Entity) {l l' : List α}, l.Perm l' →
      (l.map fun a => (toEntity a).name).Nodup →
      (l.map toEntity).filter (fun e => e.name = x) =
        (l'.map toEntity).filter fun e => e.name = x := by
    intro α toEntity l l' hperm hnodup
    rw [List.filter_map, List.filter_map]
    exact congrArg _ (filter_name_of_perm hperm hnodup x)
  simp only [entities, List.filter_append]
  rw [hkind .value h.values hm.values, hkind .operator h.operators hm.operators,
    hkind .typeAlias h.aliases hm.aliases, hkind .unionType h.unions hm.unions]

/-- Two modules are compared name by name. -/
theorem between_of_filter_name
    (hold : ∀ x, old.entities.filter (fun e => e.name = x) =
      old'.entities.filter fun e => e.name = x)
    (h : ∀ x, m.entities.filter (fun e => e.name = x) = m'.entities.filter fun e => e.name = x) :
    ModuleDiff.between old m = ModuleDiff.between old' m' := by
  have hnamesake : ∀ (n : DocModule) (e : Entity), n.namesake? e =
      ((n.entities.filter fun p => p.name = e.name).filter fun p => e.sameKind p).getLast? := by
    intro n e
    rw [DocModule.namesake?, List.filter_filter]
  have hchange : old.change? = old'.change? := by
    funext e
    rw [DocModule.change?, DocModule.change?, hnamesake, hnamesake, hold]
  have hitems : (ModuleDiff.between old m).items = (ModuleDiff.between old' m').items := by
    refine NameMap.ext_get? fun x => ?_
    rw [get?_items_between, get?_items_between, DocModule.item?, DocModule.item?, hchange, h]
  exact congrArg ModuleDiff.mk hitems

end Modules

section Comparison

variable {p p' c c' : Docs}

/-- The namesakes of a module are the same but for the order of their entities. -/
theorem Docs.Reorders.namesake? (h : Docs.Reorders p p') (hp : Docs.DistinctNames p)
    (name : String) :
    Docs.namesake? p name = none ∧ Docs.namesake? p' name = none ∨
      ∃ m m', m.Reorders m' ∧ m.DistinctNames ∧ Docs.namesake? p name = some m ∧
        Docs.namesake? p' name = some m' := by
  obtain ⟨between, hperm, hforall⟩ := h
  have hnamesakes : List.Forall₂ DocModule.Reorders (p.filter fun m => m.name = name).reverse
      (p'.filter fun m => m.name = name).reverse := by
    rw [List.forall₂_reverse_iff, filter_name_of_perm hperm hp.modules]
    refine List.rel_filter (fun m m' hm => ?_) hforall
    dsimp only
    rw [hm.name]
  rw [Docs.namesake?, Docs.namesake?, List.getLast?_eq_head?_reverse,
    List.getLast?_eq_head?_reverse]
  cases hl : (p.filter fun m => m.name = name).reverse with
  | nil =>
    rw [hl] at hnamesakes
    rw [List.forall₂_nil_left_iff.mp hnamesakes]
    exact .inl ⟨rfl, rfl⟩
  | cons m ms =>
    have hmem : m ∈ p := by
      have hreverse : m ∈ (p.filter fun m => m.name = name).reverse := by
        rw [hl]
        exact List.mem_cons_self
      exact (List.mem_filter.mp (List.mem_reverse.mp hreverse)).1
    rw [hl] at hnamesakes
    obtain ⟨m', ms', hm, -, hl'⟩ := List.forall₂_cons_left_iff.mp hnamesakes
    rw [hl']
    exact .inr ⟨m, m', hm, hp.entities m hmem, rfl, rfl⟩

/-- A module is recorded in the same way whatever the order of its entities, and of those that it is
compared with. -/
theorem change?_of_reorders (hpp : Docs.Reorders p p') (hp : Docs.DistinctNames p)
    {m m' : DocModule} (hmm : m.Reorders m') (hm : m.DistinctNames) :
    ContentDiff.change? p m = ContentDiff.change? p' m' := by
  rw [ContentDiff.change?, ContentDiff.change?, counterpart?_eq, counterpart?_eq, hmm.name]
  rcases hpp.namesake? hp m.name with ⟨hold, hnew⟩ | ⟨old, old', holds, hdistinct, hold, hnew⟩
  · rw [hold, hnew]
    rfl
  · have hsame : ModuleDiff.between old m = ModuleDiff.between old' m' :=
      between_of_filter_name (holds.filter_name hdistinct) (hmm.filter_name hm)
    rw [hold, hnew]
    simp only [Option.bind_eq_bind, Option.bind_some, hsame]

/-- The same changes are recorded, in another order. -/
theorem changes_perm (hpp : Docs.Reorders p p') (hcc : Docs.Reorders c c')
    (hp : Docs.DistinctNames p) (hc : Docs.DistinctNames c) :
    (ContentDiff.changes p c).Perm (ContentDiff.changes p' c') := by
  obtain ⟨between, hperm, hforall⟩ := hcc
  have hdistinct : ∀ m ∈ between, m.DistinctNames := fun m hm =>
    hc.entities m (hperm.mem_iff.mpr hm)
  have hsame : between.filterMap (ContentDiff.change? p) =
      c'.filterMap (ContentDiff.change? p') := by
    clear hperm
    induction hforall with
    | nil => rfl
    | cons hmm _ ih =>
      obtain ⟨hm, hrest⟩ := List.forall_mem_cons.mp hdistinct
      rw [List.filterMap_cons, List.filterMap_cons, change?_of_reorders hpp hp hmm hm, ih hrest]
  rw [ContentDiff.changes_eq_filterMap, ContentDiff.changes_eq_filterMap, ← hsame]
  exact hperm.filterMap _

theorem nodup_changes (p : Docs) (hc : Docs.DistinctNames c) :
    ((ContentDiff.changes p c).map (·.1)).Nodup := by
  have hname : ∀ (m : DocModule) e, ContentDiff.change? p m = some e → e.1 = m.name := by
    intro m e h
    simp only [ContentDiff.change?, Option.bind_eq_bind, Option.bind_eq_some_iff, Option.pure_def,
      Option.some_inj] at h
    obtain ⟨_, _, _, _, rfl⟩ := h
    rfl
  rw [List.Nodup, List.pairwise_map, ContentDiff.changes_eq_filterMap]
  refine List.Pairwise.filterMap _ ?_ (List.pairwise_map.mp hc.modules)
  intro m n hne e he f hf
  rwa [hname m e he, hname n f hf]

end Comparison

/-- An object with its members in ascending order of their names, and values of one kind. -/
def Json.IsMap (holds : Json → Prop) (j : Json) : Prop :=
  ∃ members, j = .object members ∧ members.Pairwise (fun a b => a.1 < b.1) ∧
    ∀ a ∈ members, holds a.2

theorem NameMap.toJson_isMap {α : Type} {holds : Json → Prop} {toJson : α → Json}
    (h : ∀ a, holds (toJson a)) (m : NameMap α) : (m.toJson toJson).IsMap holds := by
  refine ⟨_, rfl, List.pairwise_map.mpr m.ascending, fun e he => ?_⟩
  obtain ⟨a, -, rfl⟩ := List.mem_map.mp he
  exact h a.2

/-- The JSON form of a comparison has its modules in ascending order, and the items of each. -/
def ContentDiff.IsSorted (j : Json) : Prop :=
  ∃ modules rest, j = .object (("modules", modules) :: rest) ∧
    modules.IsMap fun m => ∃ items, m = .object [("items", items)] ∧ items.IsMap fun _ => True

theorem ContentDiff.toJson_isSorted (d : ContentDiff) : IsSorted d.toJson :=
  ⟨_, _, rfl, NameMap.toJson_isMap (fun m =>
    ⟨_, rfl, NameMap.toJson_isMap (fun _ => trivial) m.items⟩) d.modules⟩

/-- In whatever order modules and entities are listed, on either side, the comparison and the texts
of it are the same. -/
theorem contentDiff?_of_reorders {p p' c c' : Docs} (hp : Docs.DistinctNames p)
    (hc : Docs.DistinctNames c) (hpp : Docs.Reorders p p') (hcc : Docs.Reorders c c')
    (publishedReadme currentReadme : Option String) :
    contentDiff? (some p) (some c) publishedReadme currentReadme =
        contentDiff? (some p') (some c') publishedReadme currentReadme ∧
      (∀ layout : Json.Layout,
        (contentDiff? (some p) (some c) publishedReadme currentReadme).map
            (fun d => d.toJson.write layout 0) =
          (contentDiff? (some p') (some c') publishedReadme currentReadme).map
            fun d => d.toJson.write layout 0) ∧
      ∀ d, contentDiff? (some p) (some c) publishedReadme currentReadme = some d →
        ContentDiff.IsSorted d.toJson := by
  have hmodules : NameMap.ofList (ContentDiff.changes p c) =
      NameMap.ofList (ContentDiff.changes p' c') :=
    NameMap.ofList_of_perm (changes_perm hpp hcc hp hc) (nodup_changes p hc)
  have hsame : contentDiff? (some p) (some c) publishedReadme currentReadme =
      contentDiff? (some p') (some c') publishedReadme currentReadme := by
    simp only [contentDiff?, Option.bind_eq_bind, Option.bind_some, hmodules]
  exact ⟨hsame, fun layout => by rw [hsame], fun d _ => d.toJson_isSorted⟩

/-- Modules and entities the other way round, with a value and an alias of one name. -/
theorem contentDiff?_of_reorders_reversed :
    let f (comment : String) : DocValue := { name := "f", comment, type := "Int" }
    let t (type : String) : DocValue := { name := "T", type }
    let a (vs : List DocValue) : DocModule :=
      { name := "A", values := vs, aliases := [{ name := "T", type := "Int" }] }
    let b (comment : String) : DocModule := { name := "B", values := [f comment] }
    let p : Docs := [a [f "old", t "Int"], b "old"]
    let c : Docs := [a [f "new", t "Char"], b "new"]
    let p' : Docs := [b "old", a [t "Int", f "old"]]
    let c' : Docs := [b "new", a [t "Char", f "new"]]
    (Docs.DistinctNames p ∧ Docs.DistinctNames c ∧ Docs.Reorders p p' ∧ Docs.Reorders c c') ∧
      contentDiff? (some p) (some c) none none = contentDiff? (some p') (some c') none none ∧
      (∀ layout : Json.Layout,
        (contentDiff? (some p) (some c) none none).map (fun d => d.toJson.write layout 0) =
          (contentDiff? (some p') (some c') none none).map fun d => d.toJson.write layout 0) ∧
      ∀ d, contentDiff? (some p) (some c) none none = some d → ContentDiff.IsSorted d.toJson := by
  intro f t a b p c p' c'
  have hp : Docs.DistinctNames p := by decide
  have hc : Docs.DistinctNames c := by decide
  have hb : ∀ comment, (b comment).Reorders (b comment) := fun _ =>
    ⟨rfl, rfl, .refl _, .refl _, .refl _, .refl _⟩
  have ha : ∀ v w, (a [v, w]).Reorders (a [w, v]) := fun v w =>
    ⟨rfl, rfl, .swap w v [], .refl _, .refl _, .refl _⟩
  have hpp : Docs.Reorders p p' := ⟨p.reverse, .swap _ _ [], .cons (hb _) (.cons (ha _ _) .nil)⟩
  have hcc : Docs.Reorders c c' := ⟨c.reverse, .swap _ _ [], .cons (hb _) (.cons (ha _ _) .nil)⟩
  exact ⟨⟨hp, hc, hpp, hcc⟩, contentDiff?_of_reorders hp hc hpp hcc none none⟩

end ReleasePreview
