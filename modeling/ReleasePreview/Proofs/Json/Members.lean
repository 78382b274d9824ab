import Mathlib.Data.List.Nodup
import ReleasePreview.Proofs.Json.Acceptance

/-!
What a record is read from: the members of its object, in whatever order they stand. Each field has
the members of its name, and what is read of them does not depend on the others.
-/
namespace ReleasePreview.Json

/-- The values of the members of a name. -/
def named (name : String) (ms : List Member) : List Node :=
  ms.filterMap fun m => if m.1 = .ok name then some m.2 else none

section Members

variable {name : String} {ms : List Member}

theorem named_append (name : String) (ms ms' : List Member) :
    named name (ms ++ ms') = named name ms ++ named name ms' := List.filterMap_append

theorem named_cons_self (name : String) (node : Node) (ms : List Member) :
    named name ((.ok name, node) :: ms) = node :: named name ms := by
  simp [named]

theorem named_cons_of_ne {m : Member} (h : m.1 ≠ .ok name) (ms : List Member) :
    named name (m :: ms) = named name ms := by
  simp [named, h]

theorem named_append_self (name : String) (ms : List Member) (node : Node) :
    named name (ms ++ [(.ok name, node)]) = named name ms ++ [node] := by
  rw [named_append, named_cons_self]
  rfl

theorem named_append_of_ne {name' : String} (h : name' ≠ name) (ms : List Member) (node : Node) :
    named name (ms ++ [(.ok name', node)]) = named name ms := by
  rw [named_append, named_cons_of_ne (by simpa using h)]
  exact List.append_nil _

theorem mem_named {node : Node} : node ∈ named name ms ↔ (.ok name, node) ∈ ms := by
  simp [named]

theorem named_eq_nil : named name ms = [] ↔ ∀ node, (.ok name, node) ∉ ms := by
  rw [List.eq_nil_iff_forall_not_mem]
  simp only [mem_named]

end Members

/-- What is read of a field from the members of its name, of which there is one at most. -/
inductive Taken {τ : Type} (d : Decoder τ) : List Node → Option τ → Prop
  | absent : Taken d [] none
  | given {node : Node} {v : τ} (h : d node = .ok v) : Taken d [node] (some v)

namespace Taken

variable {τ : Type} {d : Decoder τ} {nodes nodes' : List Node} {node : Node} {v v' : Option τ}

theorem unique (h : Taken d nodes v) (h' : Taken d nodes v') : v = v' := by
  cases h with
  | absent => cases h'; rfl
  | given h =>
    cases h' with
    | given h' => rw [Except.ok.inj (h.symm.trans h')]

theorem of_append (h : Taken d (nodes ++ nodes') v) : ∃ v, Taken d nodes v := by
  cases nodes with
  | nil => exact ⟨none, .absent⟩
  | cons node nodes =>
    generalize hall : node :: nodes ++ nodes' = all at h
    cases h with
    | absent => contradiction
    | given h =>
      obtain ⟨rfl, hnodes⟩ := List.cons.inj hall
      obtain ⟨rfl, -⟩ := List.append_eq_nil_iff.mp hnodes
      exact ⟨_, .given h⟩

/-- The second member of a name is one too many. -/
theorem append_singleton (h : Taken d nodes v) :
    Taken d (nodes ++ [node]) v' ↔ v = none ∧ ∃ x, d node = .ok x ∧ v' = some x := by
  cases h with
  | absent =>
    constructor
    · rintro (_ | h)
      exact ⟨rfl, _, h, rfl⟩
    · rintro ⟨-, x, h, rfl⟩
      exact .given h
  | given h => exact ⟨nofun, nofun⟩

end Taken

namespace Fields

def names {δ ρ : Type} : Fields δ ρ → List String
  | nil => []
  | cons name _ _ rest => name :: rest.names

/-- What has been read of the fields after some members. -/
def Drafted {δ ρ : Type} : Fields δ ρ → List Member → δ → Prop
  | nil, _, _ => True
  | cons name d _ rest, ms, (v, draft) => Taken d (named name ms) v ∧ rest.Drafted ms draft

/-- The fields have their values in an object: each from the only member of its name, or from its
absence. -/
def Filled {δ ρ : Type} : Fields δ ρ → List Member → ρ → Prop
  | nil, _, _ => True
  | cons name d absent rest, ms, (v, vs) =>
    (∃ read, Taken d (named name ms) read ∧ (read <|> absent) = some v) ∧ rest.Filled ms vs

/-- A member whose name is a text, and that has a field or can be skipped. -/
def Passes {δ ρ : Type} (fields : Fields δ ρ) (m : Member) : Prop :=
  ∃ name, m.1 = .ok name ∧ (name ∉ fields.names → m.2.skip = .ok ())

variable {δ ρ : Type} {fields : Fields δ ρ} {name : String} {node : Node} {ms ms' : List Member}

theorem drafted_unread (fields : Fields δ ρ) : fields.Drafted [] fields.unread := by
  induction fields with
  | nil => trivial
  | cons name d absent rest ih => exact ⟨.absent, ih⟩

theorem Drafted.unique {draft draft' : δ} (h : fields.Drafted ms draft)
    (h' : fields.Drafted ms draft') : draft = draft' := by
  induction fields with
  | nil => rfl
  | cons name d absent rest ih => exact Prod.ext (h.1.unique h'.1) (ih h.2 h'.2)

theorem Drafted.eq_iff {draft draft' : δ} (h : fields.Drafted ms draft) :
    fields.Drafted ms draft' ↔ draft' = draft :=
  ⟨fun h' => h'.unique h, fun heq => heq ▸ h⟩

theorem Drafted.of_append {draft : δ} (h : fields.Drafted (ms ++ ms') draft) :
    ∃ draft, fields.Drafted ms draft := by
  induction fields with
  | nil => exact ⟨(), trivial⟩
  | cons name d absent rest ih =>
    obtain ⟨htaken, hrest⟩ := h
    rw [named_append] at htaken
    obtain ⟨v, hv⟩ := htaken.of_append
    obtain ⟨draft, hdraft⟩ := ih hrest
    exact ⟨(v, draft), hv, hdraft⟩

theorem take_of_notMem (h : name ∉ fields.names) (draft : δ) :
    fields.take name node draft = .ok none := by
  induction fields with
  | nil => rfl
  | cons name' d absent rest ih =>
    obtain ⟨hname, hrest⟩ := not_or.mp (mt List.mem_cons.mpr h)
    rw [take, if_neg hname, ih hrest]
    rfl

/-- A member that no field is for leaves the draft as it is. -/
theorem drafted_append_of_notMem (h : name ∉ fields.names) {draft : δ} :
    fields.Drafted (ms ++ [(.ok name, node)]) draft ↔ fields.Drafted ms draft := by
  induction fields with
  | nil => exact Iff.rfl
  | cons name' d absent rest ih =>
    obtain ⟨hname, hrest⟩ := not_or.mp (mt List.mem_cons.mpr h)
    rw [Drafted, Drafted, ih hrest, named_append_of_ne hname]

/-- One member more is one value more of its field. -/
theorem take_eq_ok (hnames : fields.names.Nodup) (hname : name ∈ fields.names) {draft : δ}
    (h : fields.Drafted ms draft) {r : Option δ} : fields.take name node draft = .ok r ↔
      ∃ draft', r = some draft' ∧ fields.Drafted (ms ++ [(.ok name, node)]) draft' := by
  induction fields with
  | nil => exact absurd hname List.not_mem_nil
  | cons name' d absent rest ih =>
    obtain ⟨v, draft⟩ := draft
    obtain ⟨hv, hdraft⟩ := h
    obtain ⟨hname', hnames⟩ := List.nodup_cons.mp hnames
    by_cases heq : name = name'
    · subst heq
      simp only [take, if_pos, Drafted, named_append_self, hv.append_singleton, Prod.exists,
        drafted_append_of_notMem hname', hdraft.eq_iff]
      cases v with
      | some v => simp
      | none =>
        simp only [Option.isSome_none, Bool.false_eq_true, if_false, map_eq_ok]
        constructor
        · rintro ⟨x, hx, rfl⟩
          exact ⟨some x, draft, rfl, ⟨trivial, x, hx, rfl⟩, rfl⟩
        · rintro ⟨_, _, rfl, ⟨-, x, hx, rfl⟩, rfl⟩
          exact ⟨x, hx, rfl⟩
    · have hrest : name ∈ rest.names := (List.mem_cons.mp hname).resolve_left heq
      simp only [take, if_neg heq, map_eq_ok, ih hnames hrest hdraft, Drafted,
        named_append_of_ne heq, Prod.exists]
      constructor
      · rintro ⟨_, ⟨draft', rfl, hdraft'⟩, rfl⟩
        exact ⟨v, draft', rfl, hv, hdraft'⟩
      · rintro ⟨v', draft', rfl, hv', hdraft'⟩
        rw [hv'.unique hv]
        exact ⟨_, ⟨draft', rfl, hdraft'⟩, rfl⟩

/-- The members are taken one after the other, and what has been read of those before stays. -/
theorem takeAll_eq_ok (hnames : fields.names.Nodup) {draft draft' : δ}
    (h : fields.Drafted ms draft) : fields.takeAll draft ms' = .ok draft' ↔
      (∀ m ∈ ms', fields.Passes m) ∧ fields.Drafted (ms ++ ms') draft' := by
  induction ms' generalizing ms draft with
  | nil =>
    rw [takeAll, List.append_nil, h.eq_iff, Except.ok.injEq, eq_comm]
    exact (and_iff_right (List.forall_mem_nil _)).symm
  | cons m ms' ih =>
    obtain ⟨name?, node⟩ := m
    rw [List.forall_mem_cons, List.append_cons, takeAll, bind_eq_ok]
    cases name? with
    | error e => simp [checked_eq_ok, Passes]
    | ok name =>
      simp only [checked_eq_ok, Except.ok.injEq, exists_eq_left', bind_eq_ok]
      -- A member of a field goes into the draft, any other one has to be passed over.
      by_cases hname : name ∈ fields.names
      · have hpasses : fields.Passes (.ok name, node) := ⟨name, rfl, fun h => absurd hname h⟩
        simp only [take_eq_ok hnames hname h, hpasses, true_and]
        constructor
        · rintro ⟨_, ⟨next, rfl, hnext⟩, htake⟩
          exact (ih hnext).mp htake
        · rintro ⟨hpasses, hdraft'⟩
          obtain ⟨next, hnext⟩ := hdraft'.of_append
          exact ⟨_, ⟨next, rfl, hnext⟩, (ih hnext).mpr ⟨hpasses, hdraft'⟩⟩
      · have hpasses : fields.Passes (.ok name, node) ↔ node.skip = .ok () := by
          simp [Passes, hname]
        have hdraft : fields.Drafted (ms ++ [(.ok name, node)]) draft :=
          (drafted_append_of_notMem hname).mpr h
        simp only [take_of_notMem hname, hpasses, Except.ok.injEq, exists_eq_left', bind_eq_ok,
          checked_eq_ok, ih hdraft, and_assoc]
        constructor
        · rintro ⟨_, hrest⟩
          exact hrest
        · exact fun hrest => ⟨(), hrest⟩

theorem values_eq_ok {draft : δ} (h : fields.Drafted ms draft) {vs : ρ} :
    fields.values draft = .ok vs ↔ fields.Filled ms vs := by
  induction fields with
  | nil => exact ⟨fun _ => trivial, fun _ => rfl⟩
  | cons name d absent rest ih =>
    obtain ⟨v, draft⟩ := draft
    obtain ⟨hv, hdraft⟩ := h
    obtain ⟨x, vs⟩ := vs
    have hread : (∃ read, Taken d (named name ms) read ∧ (read <|> absent) = some x) ↔
        (v <|> absent) = some x := by
      constructor
      · rintro ⟨read, hread, hx⟩
        rw [hv.unique hread, hx]
      · exact fun hx => ⟨v, hv, hx⟩
    rw [values, Filled, hread, ← ih hdraft]
    cases (v <|> absent) with
    | none => simp
    | some y =>
      simp only [map_eq_ok, Prod.mk.injEq, Option.some_inj]
      constructor
      · rintro ⟨_, hvs, rfl, rfl⟩
        exact ⟨rfl, hvs⟩
      · rintro ⟨rfl, hvs⟩
        exact ⟨vs, hvs, rfl, rfl⟩

theorem Filled.drafted {vs : ρ} (h : fields.Filled ms vs) : ∃ draft, fields.Drafted ms draft := by
  induction fields with
  | nil => exact ⟨(), trivial⟩
  | cons name d absent rest ih =>
    obtain ⟨⟨v, hv, -⟩, hrest⟩ := h
    obtain ⟨draft, hdraft⟩ := ih hrest
    exact ⟨(v, draft), hv, hdraft⟩

theorem decode_object_eq_ok {α : Type} {what : String} {build : ρ → α} {a : α} {closing : Closing}
    (hnames : fields.names.Nodup) : fields.decode what build (.object ms closing) = .ok a ↔
      closing = .closed ∧ (∀ m ∈ ms, fields.Passes m) ∧
        ∃ vs, fields.Filled ms vs ∧ build vs = a := by
  simp only [decode, bind_eq_ok, takeAll_eq_ok hnames fields.drafted_unread, List.nil_append,
    checked_eq_ok, require_eq_ok, objectError?_eq_none, pure_eq_ok]
  constructor
  · rintro ⟨draft, ⟨hpasses, hdraft⟩, -, hclosing, vs, hvs, rfl⟩
    exact ⟨hclosing, hpasses, vs, (values_eq_ok hdraft).mp hvs, rfl⟩
  · rintro ⟨hclosing, hpasses, vs, hvs, rfl⟩
    obtain ⟨draft, hdraft⟩ := hvs.drafted
    exact ⟨draft, ⟨hpasses, hdraft⟩, (), hclosing, vs, (values_eq_ok hdraft).mpr hvs, rfl⟩

/-- The fields find the same in both objects. -/
def Agree {δ ρ : Type} : Fields δ ρ → List Member → List Member → Prop
  | nil, _, _ => True
  | cons name d _ rest, ms, ms' =>
    (∀ v, Taken d (named name ms) v ↔ Taken d (named name ms') v) ∧ rest.Agree ms ms'

theorem Agree.filled (h : fields.Agree ms ms') {vs : ρ} :
    fields.Filled ms vs ↔ fields.Filled ms' vs := by
  induction fields with
  | nil => exact Iff.rfl
  | cons name d absent rest ih =>
    rw [Filled, Filled, ih h.2]
    simp only [h.1]

end Fields

theorem agree_of_notMem {δ ρ : Type} {fields : Fields δ ρ} {name : String}
    (h : name ∉ fields.names) (before after : List Member) (node : Node) :
    fields.Agree (before ++ after) (before ++ (.ok name, node) :: after) := by
  induction fields with
  | nil => trivial
  | cons name' d absent rest ih =>
    obtain ⟨hname, hrest⟩ := not_or.mp (mt List.mem_cons.mpr h)
    refine ⟨fun v => ?_, ih hrest⟩
    rw [named_append, named_append, named_cons_of_ne (by simpa using hname)]

section Distinct

/-- The names of an object's members are texts, and no two of them the same. -/
def Distinct (ms : List Member) : Prop :=
  ∃ names : List String, names.Nodup ∧ ms.map (·.1) = names.map .ok

/-- An object has a member of a name that stands for a value. -/
def Given {α : Type} (stands : Node → α → Prop) (ms : List Member) (name : String) (a : α) : Prop :=
  ∃ node, (.ok name, node) ∈ ms ∧ stands node a

/-- An object has a member of a name that stands for a value, or none of the name, and the value is
the one for its absence. -/
def GivenOr {α : Type} (absent : α) (stands : Node → α → Prop) (ms : List Member) (name : String)
    (a : α) : Prop :=
  Given stands ms name a ∨ (∀ node, (.ok name, node) ∉ ms) ∧ a = absent

variable {α : Type} {d : Decoder α} {stands stands' : Node → α → Prop} {ms : List Member}
  {name : String} {a absent : α}

theorem named_eq_singleton (h : Distinct ms) {node : Node} :
    named name ms = [node] ↔ (.ok name, node) ∈ ms := by
  obtain ⟨names, hnodup, hnames⟩ := h
  have hms : (ms.map (·.1)).Nodup :=
    hnames ▸ List.Nodup.map (fun _ _ heq => Except.ok.inj heq) hnodup
  clear hnames
  induction ms with
  | nil => simp [named]
  | cons m ms ih =>
    obtain ⟨hm, hms⟩ := List.nodup_cons.mp hms
    by_cases heq : m.1 = .ok name
    · obtain ⟨name?, node'⟩ := m
      subst heq
      have habsent : ∀ node, ((.ok name, node) : Member) ∉ ms := fun node hmem =>
        hm (List.mem_map.mpr ⟨_, hmem, rfl⟩)
      rw [named_cons_self, named_eq_nil.mpr habsent, List.mem_cons]
      simp [habsent, eq_comm]
    · rw [named_cons_of_ne heq, List.mem_cons]
      exact (ih hms).trans ⟨.inr, fun h => h.resolve_left fun hm => heq (hm ▸ rfl)⟩

theorem taken_required (h : Distinct ms) :
    (∃ read, Taken d (named name ms) read ∧ (read <|> none) = some a) ↔
      Given (fun node a => d node = .ok a) ms name a := by
  constructor
  · rintro ⟨_, htaken, hread⟩
    generalize hnodes : named name ms = nodes at htaken
    cases htaken with
    | absent => contradiction
    | given hv =>
      obtain rfl := Option.some.inj hread
      exact ⟨_, (named_eq_singleton h).mp hnodes, hv⟩
  · rintro ⟨node, hmem, hv⟩
    exact ⟨some a, (named_eq_singleton h).mpr hmem ▸ .given hv, rfl⟩

theorem taken_optional (h : Distinct ms) :
    (∃ read, Taken d (named name ms) read ∧ (read <|> some absent) = some a) ↔
      GivenOr absent (fun node a => d node = .ok a) ms name a := by
  rw [GivenOr, ← taken_required h, ← named_eq_nil]
  constructor
  · rintro ⟨_, htaken, hread⟩
    generalize hnodes : named name ms = nodes at htaken ⊢
    cases htaken with
    | absent => exact .inr ⟨rfl, (Option.some.inj hread).symm⟩
    | given hv => exact .inl ⟨_, .given hv, hread⟩
  · rintro (⟨_ | v, htaken, hread⟩ | ⟨hnodes, rfl⟩)
    · contradiction
    · exact ⟨some v, htaken, hread⟩
    · exact ⟨none, hnodes ▸ .absent, rfl⟩

theorem given_congr (h : ∀ node, (.ok name, node) ∈ ms → ∀ a, stands node a ↔ stands' node a) :
    Given stands ms name a ↔ Given stands' ms name a :=
  exists_congr fun node => and_congr_right fun hmem => h node hmem a

theorem givenOr_congr (h : ∀ node, (.ok name, node) ∈ ms → ∀ a, stands node a ↔ stands' node a) :
    GivenOr absent stands ms name a ↔ GivenOr absent stands' ms name a :=
  or_congr_left (given_congr h)

/-- A record is its fields, given or absent, whatever else is in the object. -/
theorem Fields.decode_distinct_eq_ok {δ ρ : Type} {fields : Fields δ ρ} {what : String}
    {build : ρ → α} (hnames : fields.names.Nodup) (h : Distinct ms)
    (hcomplete : ∀ m ∈ ms, m.2.Complete) :
    fields.decode what build (.object ms .closed) = .ok a ↔
      ∃ vs, fields.Filled ms vs ∧ build vs = a := by
  obtain ⟨names, -, hms⟩ := h
  have hpasses : ∀ m ∈ ms, fields.Passes m := fun m hm => by
    have hname : m.1 ∈ names.map .ok := hms ▸ List.mem_map_of_mem hm
    obtain ⟨name, -, hname⟩ := List.mem_map.mp hname
    exact ⟨name, hname.symm, fun _ => (hcomplete m hm).skip⟩
  rw [Fields.decode_object_eq_ok hnames, and_iff_right rfl, and_iff_right hpasses]

end Distinct

section Lists

/-- The elements of the list that a member of a name is. -/
def Listed (ms : List Member) (name : String) (node : Node) : Prop :=
  ∃ items, (.ok name, .list items .closed) ∈ ms ∧ node ∈ items

/-- An object without two members of one name. -/
def Node.IsRecord (node : Node) : Prop := ∃ ms, node = .object ms .closed ∧ Distinct ms

variable {α : Type} {d : Decoder α} {stands : List Member → α → Prop} {ms : List Member}

theorem isObject_object {a : α} :
    (Node.object ms .closed).IsObject stands a ↔ stands ms a := by
  constructor
  · rintro ⟨_, ⟨⟩, h⟩
    exact h
  · exact fun h => ⟨ms, rfl, h⟩

/-- A list of records is what its elements are. -/
theorem records_eq_ok {items : List Node} (hitems : ∀ node ∈ items, node.Complete)
    (h : ∀ node ∈ items, ∃ ms, node = .object ms .closed ∧
      ((∀ m ∈ ms, m.2.Complete) → ∀ a, d (.object ms .closed) = .ok a ↔ stands ms a))
    {as : List α} : List.Forall₂ (fun node a => d node = .ok a) items as ↔
      List.Forall₂ (Node.IsObject stands) items as :=
  forall₂_congr fun node hnode a => by
    obtain ⟨ms, rfl, h⟩ := h node hnode
    rw [isObject_object, h (hitems _ hnode).members]

theorem entities_eq_ok {name : String} (hcomplete : ∀ m ∈ ms, m.2.Complete)
    (hrecords : ∀ node, Listed ms name node → node.IsRecord)
    (h : ∀ ms', Listed ms name (.object ms' .closed) → Distinct ms' → (∀ m ∈ ms', m.2.Complete) →
      ∀ a, d (.object ms' .closed) = .ok a ↔ stands ms' a) (as : List α) :
    GivenOr [] (fun node as => Decoder.list d node = .ok as) ms name as ↔
      GivenOr [] (Node.IsList (Node.IsObject stands)) ms name as := by
  refine givenOr_congr fun node hmem as => ?_
  rw [Decoder.list_eq_ok, Node.IsList]
  refine exists_congr fun items => and_congr_right ?_
  rintro rfl
  refine records_eq_ok (hcomplete _ hmem).items fun item hitem => ?_
  have hlisted : Listed ms name item := ⟨items, hmem, hitem⟩
  obtain ⟨ms', rfl, hdistinct⟩ := hrecords item hlisted
  exact ⟨ms', rfl, h ms' hlisted hdistinct⟩

end Lists

end ReleasePreview.Json
