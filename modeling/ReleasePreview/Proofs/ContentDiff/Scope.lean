import Mathlib.Logic.Relation
import ReleasePreview.Proofs.ContentDiff.Reference

/-!
What a comparison of two packages takes no notice of: the modules and entities that only one side
has, the comments of modules, and how tightly operators bind.
-/
namespace ReleasePreview

namespace Entity

/-- An entity as far as it is compared. Operators are compared without their fixity. -/
def compared : Entity → Entity
  | operator o => operator { o with associativity := .non, precedence := 0 }
  | e => e

theorem sameKind_comm (d e : Entity) : d.sameKind e = e.sameKind d := by
  cases d <;> cases e <;> rfl

@[simp] theorem name_compared (e : Entity) : e.compared.name = e.name := by cases e <;> rfl

@[simp] theorem sameKind_compared (d e : Entity) :
    d.compared.sameKind e.compared = d.sameKind e := by
  cases d <;> cases e <;> rfl

@[simp] theorem change_compared (p e : Entity) : p.compared.change e.compared = p.change e := by
  cases p <;> cases e <;> rfl

end Entity

namespace DocModule

/-- There is an entity of the kind and the name of another one. -/
def Names (m : DocModule) (e : Entity) : Prop :=
  ∃ d ∈ m.entities, d.sameKind e ∧ d.name = e.name

instance (m : DocModule) (e : Entity) : Decidable (m.Names e) :=
  inferInstanceAs (Decidable (∃ d ∈ m.entities, d.sameKind e ∧ d.name = e.name))

/-- The second module is the first one with one entity more, wherever in the list of its kind. -/
inductive Adds : Entity → DocModule → DocModule → Prop
  | value (m : DocModule) (before after : List DocValue) (v : DocValue) :
      Adds (.value v) { m with values := before ++ after } { m with values := before ++ v :: after }
  | operator (m : DocModule) (before after : List DocOperator) (o : DocOperator) :
      Adds (.operator o) { m with operators := before ++ after }
        { m with operators := before ++ o :: after }
  | typeAlias (m : DocModule) (before after : List DocAlias) (a : DocAlias) :
      Adds (.typeAlias a) { m with aliases := before ++ after }
        { m with aliases := before ++ a :: after }
  | unionType (m : DocModule) (before after : List DocUnion) (u : DocUnion) :
      Adds (.unionType u) { m with unions := before ++ after }
        { m with unions := before ++ u :: after }

/-- The second module has another comment than the first one, or an operator of another fixity. -/
inductive Restyles : DocModule → DocModule → Prop
  | comment (m : DocModule) (text : String) : Restyles m { m with comment := text }
  | fixity (m : DocModule) (before after : List DocOperator) (o : DocOperator) (a : Associativity)
      (n : UInt8) :
      Restyles { m with operators := before ++ o :: after }
        { m with operators := before ++ { o with associativity := a, precedence := n } :: after }

end DocModule

/-- One change to the published or the current documentation, given as a pair, that a comparison
takes no notice of. -/
inductive Docs.Disregards : Docs × Docs → Docs × Docs → Prop
  | publishedModule {before after c : Docs} {m : DocModule} (h : m.name ∉ c.map (·.name)) :
      Disregards (before ++ after, c) (before ++ m :: after, c)
  | currentModule {p before after : Docs} {m : DocModule} (h : m.name ∉ p.map (·.name)) :
      Disregards (p, before ++ after) (p, before ++ m :: after)
  | publishedEntity {before after c : Docs} {m m' : DocModule} {e : Entity}
      (hadds : DocModule.Adds e m m') (h : ∀ n ∈ c, n.name = m.name → ¬ n.Names e) :
      Disregards (before ++ m :: after, c) (before ++ m' :: after, c)
  | currentEntity {p before after : Docs} {m m' : DocModule} {e : Entity}
      (hadds : DocModule.Adds e m m')
      (h : ∀ old, Docs.namesake? p m.name = some old → ¬ old.Names e) :
      Disregards (p, before ++ m :: after) (p, before ++ m' :: after)
  | publishedStyle {before after c : Docs} {m m' : DocModule} (h : DocModule.Restyles m m') :
      Disregards (before ++ m :: after, c) (before ++ m' :: after, c)
  | currentStyle {p before after : Docs} {m m' : DocModule} (h : DocModule.Restyles m m') :
      Disregards (p, before ++ m :: after) (p, before ++ m' :: after)

section Modules

variable {old old' m m' : DocModule} {e : Entity}

theorem DocModule.Adds.name (h : Adds e m m') : m'.name = m.name := by
  cases h <;> rfl

theorem DocModule.Adds.entities (h : Adds e m m') :
    ∃ before after, m.entities = before ++ after ∧ m'.entities = before ++ e :: after := by
  cases h with
  | value m before after v =>
    exact ⟨before.map .value, after.map .value ++ m.operators.map .operator ++
      m.aliases.map .typeAlias ++ m.unions.map .unionType, by simp [DocModule.entities]⟩
  | operator m before after o =>
    exact ⟨m.values.map .value ++ before.map .operator, after.map .operator ++
      m.aliases.map .typeAlias ++ m.unions.map .unionType, by simp [DocModule.entities]⟩
  | typeAlias m before after a =>
    exact ⟨m.values.map .value ++ m.operators.map .operator ++ before.map .typeAlias,
      after.map .typeAlias ++ m.unions.map .unionType, by simp [DocModule.entities]⟩
  | unionType m before after u =>
    exact ⟨m.values.map .value ++ m.operators.map .operator ++ m.aliases.map .typeAlias ++
      before.map .unionType, after.map .unionType, by simp [DocModule.entities]⟩

theorem DocModule.Restyles.name (h : Restyles m m') : m'.name = m.name := by
  cases h <;> rfl

theorem DocModule.Restyles.compared (h : Restyles m m') :
    m'.entities.map Entity.compared = m.entities.map Entity.compared := by
  cases h with
  | comment => rfl
  | fixity m before after o a n => simp [DocModule.entities, Entity.compared]

/-- A change comes of the entities as far as they are compared. -/
theorem DocModule.change?_compared (old : DocModule) (e : Entity) :
    old.change? e = (((old.entities.map Entity.compared).filter fun p =>
      e.compared.sameKind p && p.name = e.compared.name).getLast?).bind fun p =>
        if (p.change e.compared).isEmpty then none else some (p.change e.compared) := by
  rw [DocModule.change?, DocModule.namesake?, List.filter_map, List.getLast?_map, Option.bind_map]
  simp only [Function.comp_def, Entity.sameKind_compared, Entity.name_compared,
    Entity.change_compared]
  refine Option.bind_congr fun p _ => ?_
  cases (p.change e).isEmpty <;> rfl

/-- Two modules are compared by the changes of the entities. -/
theorem between_of_changes
    (h : m.entities.filterMap (fun e => (old.change? e).map (e.name, ·)) =
      m'.entities.filterMap fun e => (old'.change? e).map (e.name, ·)) :
    ModuleDiff.between old m = ModuleDiff.between old' m' := by
  have hitems : (ModuleDiff.between old m).items = (ModuleDiff.between old' m').items := by
    rw [items_between, items_between, h]
  exact congrArg ModuleDiff.mk hitems

theorem between_of_compared
    (hold : old.entities.map Entity.compared = old'.entities.map Entity.compared)
    (h : m.entities.map Entity.compared = m'.entities.map Entity.compared) :
    ModuleDiff.between old m = ModuleDiff.between old' m' := by
  have hmap : ∀ n : DocModule, n.entities.filterMap (fun e => (old'.change? e).map (e.name, ·)) =
      (n.entities.map Entity.compared).filterMap fun e => (old'.change? e).map (e.name, ·) := by
    intro n
    rw [List.filterMap_map]
    refine List.filterMap_congr fun e _ => ?_
    have htwice : e.compared.compared = e.compared := by cases e <;> rfl
    simp only [Function.comp_apply, DocModule.change?_compared, htwice, Entity.name_compared]
  apply between_of_changes
  calc m.entities.filterMap (fun e => (old.change? e).map (e.name, ·))
      = m.entities.filterMap fun e => (old'.change? e).map (e.name, ·) := by
        simp only [DocModule.change?_compared, hold]
    _ = m'.entities.filterMap fun e => (old'.change? e).map (e.name, ·) := by
        rw [hmap m, hmap m', h]

/-- A published entity counts for those of its kind and name only. -/
theorem between_of_adds_published (hadds : DocModule.Adds e old old') (h : ¬ m.Names e) :
    ModuleDiff.between old m = ModuleDiff.between old' m := by
  obtain ⟨before, after, hold, hold'⟩ := hadds.entities
  apply between_of_changes
  refine List.filterMap_congr fun d hd => ?_
  have hother : ¬ (d.sameKind e && e.name = d.name) := by
    rw [Bool.and_eq_true, decide_eq_true_eq]
    exact fun hsame => h ⟨d, hd, hsame.1, hsame.2.symm⟩
  have hdrop : (e :: after).filter (fun p => d.sameKind p && p.name = d.name) =
      after.filter fun p => d.sameKind p && p.name = d.name := List.filter_cons_of_neg hother
  have hnamesake : old.namesake? d = old'.namesake? d := by
    rw [DocModule.namesake?, DocModule.namesake?, hold, hold', List.filter_append,
      List.filter_append, hdrop]
  rw [DocModule.change?, DocModule.change?, hnamesake]

/-- A current entity without a namesake has no change. -/
theorem between_of_adds_current (hadds : DocModule.Adds e m m') (h : ¬ old.Names e) :
    ModuleDiff.between old m = ModuleDiff.between old m' := by
  obtain ⟨before, after, hm, hm'⟩ := hadds.entities
  have hnamesake : old.namesake? e = none := by
    rw [DocModule.namesake?, List.getLast?_eq_none_iff, List.filter_eq_nil_iff]
    intro d hd hsame
    rw [Bool.and_eq_true, decide_eq_true_eq, Entity.sameKind_comm] at hsame
    exact h ⟨d, hd, hsame⟩
  have hchange : old.change? e = none := by
    rw [DocModule.change?, hnamesake]
    rfl
  apply between_of_changes
  rw [hm, hm', List.filterMap_append, List.filterMap_append, List.filterMap_cons_none]
  rw [hchange]
  rfl

end Modules

namespace Docs

variable {p p' c before after : Docs} {m m' : DocModule}

theorem namesake?_insert {name : String} (h : m.name ≠ name) :
    namesake? (before ++ m :: after) name = namesake? (before ++ after) name := by
  rw [namesake?, namesake?, List.filter_append, List.filter_append,
    List.filter_cons_of_neg (by simpa using h)]

theorem namesake?_eq_none {name : String} (h : name ∉ p.map (·.name)) :
    namesake? p name = none := by
  rw [namesake?, List.getLast?_eq_none_iff, List.filter_eq_nil_iff]
  intro m hm hname
  exact h (List.mem_map.mpr ⟨m, hm, of_decide_eq_true hname⟩)

/-- Another module in the place of one of its name is the namesake if the first one was. -/
theorem namesake?_replace (before after : Docs) (hname : m'.name = m.name) (name : String) :
    namesake? (before ++ m :: after) name = namesake? (before ++ m' :: after) name ∨
      m.name = name ∧ namesake? (before ++ m :: after) name = some m ∧
        namesake? (before ++ m' :: after) name = some m' := by
  by_cases hm : m.name = name
  · have hlast : ∀ n : DocModule, n.name = name → namesake? (before ++ n :: after) name =
        (namesake? after name).or (some n) := by
      intro n hn
      rw [namesake?, namesake?, List.filter_append, List.filter_cons_of_pos (by simpa using hn),
        List.getLast?_append, List.getLast?_cons]
      cases (after.filter fun m => m.name = name).getLast? <;> rfl
    rw [hlast m hm, hlast m' (hname.trans hm)]
    cases namesake? after name with
    | none => exact .inr ⟨hm, rfl, rfl⟩
    | some n => exact .inl rfl
  · left
    rw [namesake?_insert hm, namesake?_insert (hname ▸ hm)]

end Docs

namespace ContentDiff

variable {p p' c before after : Docs} {m m' : DocModule}

/-- What is recorded of a current module. -/
def change? (published : Docs) (m : DocModule) : Option (String × ModuleDiff) := do
  let old ← counterpart? published m.name
  let diff := ModuleDiff.between old m
  guard !diff.isEmpty
  return (m.name, diff)

theorem changes_eq_filterMap (published current : Docs) :
    changes published current = current.filterMap (change? published) := rfl

theorem change?_of_namesake_none (h : Docs.namesake? p m.name = none) : change? p m = none := by
  rw [change?, counterpart?_eq, h]
  rfl

/-- One current module is recorded as another one of its name, if it compares in the same way. -/
theorem change?_of_between (hname : m'.name = m.name)
    (h : ∀ old, Docs.namesake? p m.name = some old →
      ModuleDiff.between old m = ModuleDiff.between old m') : change? p m = change? p m' := by
  rw [change?, change?, hname, counterpart?_eq]
  cases hold : Docs.namesake? p m.name with
  | none => rfl
  | some old => simp only [Option.bind_eq_bind, Option.bind_some, h old hold]

theorem changes_replace_current (h : change? p m = change? p m') :
    changes p (before ++ m :: after) = changes p (before ++ m' :: after) := by
  simp only [changes_eq_filterMap, List.filterMap_append, List.filterMap_cons, h]

theorem changes_replace_published (hname : m'.name = m.name)
    (h : ∀ n ∈ c, n.name = m.name → ModuleDiff.between m n = ModuleDiff.between m' n) :
    changes (before ++ m :: after) c = changes (before ++ m' :: after) c := by
  refine List.filterMap_congr fun n hn => ?_
  rw [counterpart?_eq, counterpart?_eq]
  rcases Docs.namesake?_replace before after hname n.name with hsame | ⟨hm, hold, hnew⟩
  · rw [hsame]
  · rw [hold, hnew]
    simp only [h n hn hm.symm, Option.bind_eq_bind, Option.bind_some]

/-- None of these changes leaves a trace in what is recorded. -/
theorem changes_of_disregards {s t : Docs × Docs} (h : Docs.Disregards s t) :
    changes s.1 s.2 = changes t.1 t.2 := by
  cases h with
  | @publishedModule before after c m hm =>
    refine List.filterMap_congr fun n hn => ?_
    have hne : m.name ≠ n.name := fun heq => hm (List.mem_map.mpr ⟨n, hn, heq.symm⟩)
    rw [counterpart?_eq, counterpart?_eq, Docs.namesake?_insert hne]
  | currentModule hm =>
    have hnone := change?_of_namesake_none (Docs.namesake?_eq_none hm)
    simp only [changes_eq_filterMap, List.filterMap_append, List.filterMap_cons_none hnone]
  | publishedEntity hadds hother =>
    exact changes_replace_published hadds.name fun n hn hname =>
      between_of_adds_published hadds (hother n hn hname)
  | currentEntity hadds hother =>
    exact changes_replace_current <| change?_of_between hadds.name fun old hold =>
      between_of_adds_current hadds (hother old hold)
  | publishedStyle hstyle =>
    exact changes_replace_published hstyle.name fun n _ _ =>
      between_of_compared hstyle.compared.symm rfl
  | currentStyle hstyle =>
    exact changes_replace_current <| change?_of_between hstyle.name fun old _ =>
      between_of_compared rfl hstyle.compared.symm

end ContentDiff

/-- However many such changes are made or taken back, on either side, the comparison is the
same. -/
theorem contentDiff?_of_disregards {p c p' c' : Docs}
    (h : Relation.EqvGen Docs.Disregards (p, c) (p', c'))
    (publishedReadme currentReadme : Option String) :
    contentDiff? (some p) (some c) publishedReadme currentReadme =
      contentDiff? (some p') (some c') publishedReadme currentReadme := by
  have hchanges : ∀ s t : Docs × Docs, Relation.EqvGen Docs.Disregards s t →
      ContentDiff.changes s.1 s.2 = ContentDiff.changes t.1 t.2 := by
    intro s t hst
    induction hst with
    | rel s t hst => exact ContentDiff.changes_of_disregards hst
    | refl s => rfl
    | symm s t _ ih => exact ih.symm
    | trans s t u _ _ hs ht => exact hs.trans ht
  have hrecorded : ContentDiff.changes p c = ContentDiff.changes p' c' :=
    hchanges (p, c) (p', c') h
  simp only [contentDiff?, Option.bind_eq_bind, Option.bind_some, hrecorded]

/-- A module and an alias that are gone, a new value, a comment and a fixity, beside a value of
another type. -/
theorem contentDiff?_of_disregards_unshared :
    let gone : DocModule := { name := "Gone", values := [{ name := "x", type := "Int" }] }
    let old : DocAlias := { name := "Old", type := "Int" }
    let f : DocValue := { name := "f", type := "Int" }
    let g : DocValue := { name := "g", type := "Int" }
    let plus : DocOperator := { name := "+", type := "Int -> Int" }
    let a : DocModule := { name := "A", values := [f], operators := [plus] }
    let b : DocModule := { name := "A", values := [{ f with type := "Char" }], operators := [plus] }
    let b' : DocModule :=
      { name := "A"
        comment := "All of it."
        values := [g, { f with type := "Char" }]
        operators := [{ plus with associativity := .left, precedence := 6 }] }
    Relation.EqvGen Docs.Disregards ([a], [b]) ([gone, { a with aliases := [old] }], [b']) ∧
      contentDiff? (some [a]) (some [b]) none none =
        contentDiff? (some [gone, { a with aliases := [old] }]) (some [b']) none none ∧
      (contentDiff? (some [a]) (some [b]) none none).isSome := by
  intro gone old f g plus a b b'
  let a₁ : DocModule := { a with aliases := [old] }
  let b₁ : DocModule := { b with values := [g, { f with type := "Char" }] }
  let b₂ : DocModule :=
    { b₁ with operators := [{ plus with associativity := .left, precedence := 6 }] }
  have halias : Docs.Disregards ([a], [b]) ([a₁], [b]) :=
    @Docs.Disregards.publishedEntity [] [] [b] a a₁ _ (.typeAlias a [] [] old) (by decide)
  have hgone : Docs.Disregards ([a₁], [b]) ([gone, a₁], [b]) :=
    @Docs.Disregards.publishedModule [] [a₁] [b] gone (by decide)
  have hvalue : Docs.Disregards ([gone, a₁], [b]) ([gone, a₁], [b₁]) := by
    refine @Docs.Disregards.currentEntity [gone, a₁] [] [] b b₁ _
      (.value b [] [{ f with type := "Char" }] g) fun m hm => ?_
    obtain rfl : a₁ = m := Option.some.inj hm
    decide
  have hfixity : Docs.Disregards ([gone, a₁], [b₁]) ([gone, a₁], [b₂]) :=
    @Docs.Disregards.currentStyle [gone, a₁] [] [] b₁ b₂ (.fixity b₁ [] [] plus .left 6)
  have hcomment : Docs.Disregards ([gone, a₁], [b₂]) ([gone, a₁], [b']) :=
    @Docs.Disregards.currentStyle [gone, a₁] [] [] b₂ b' (.comment b₂ "All of it.")
  have h : Relation.EqvGen Docs.Disregards ([a], [b]) ([gone, a₁], [b']) :=
    .trans _ _ _ (.rel _ _ halias) <| .trans _ _ _ (.rel _ _ hgone) <|
      .trans _ _ _ (.rel _ _ hvalue) <| .trans _ _ _ (.rel _ _ hfixity) (.rel _ _ hcomment)
  exact ⟨h, contentDiff?_of_disregards h none none, by decide +kernel⟩

end ReleasePreview
