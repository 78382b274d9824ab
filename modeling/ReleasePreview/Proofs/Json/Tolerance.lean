import Mathlib.Data.List.Perm.Basic
import ReleasePreview.Proofs.Json.Members

/-!
What decoders do not look at: the order of members, and the members of a record that no field is
for. A change of these may bring another problem to light first, so what stays is whether there is
one, and the value if there is none.
-/
namespace ReleasePreview.Json

/-- One object somewhere in a value gets its members in another order. -/
inductive Node.Reorders : Node → Node → Prop
  | members {ms ms' : List Member} (closing : Closing) (h : ms.Perm ms') :
      Reorders (.object ms closing) (.object ms' closing)
  | member (before : List Member) (name : Except SyntaxError String) {a b : Node}
      (h : Reorders a b) (after : List Member) (closing : Closing) :
      Reorders (.object (before ++ (name, a) :: after) closing)
        (.object (before ++ (name, b) :: after) closing)
  | item (before : List Node) {a b : Node} (h : Reorders a b) (after : List Node)
      (closing : Closing) :
      Reorders (.list (before ++ a :: after) closing) (.list (before ++ b :: after) closing)

/-- An element of a list changes. -/
inductive Node.InItem (r : Node → Node → Prop) : Node → Node → Prop
  | intro (before : List Node) {a b : Node} (h : r a b) (after : List Node) (closing : Closing) :
      InItem r (.list (before ++ a :: after) closing) (.list (before ++ b :: after) closing)

/-- A member of a name changes in its value. -/
inductive Node.InMember (name : String) (r : Node → Node → Prop) : Node → Node → Prop
  | intro (before : List Member) {a b : Node} (h : r a b) (after : List Member)
      (closing : Closing) :
      InMember name r (.object (before ++ (.ok name, a) :: after) closing)
        (.object (before ++ (.ok name, b) :: after) closing)

/-- An object gets a member more, of a name that is not among the known ones. -/
inductive Node.Gains (known : List String) : Node → Node → Prop
  | intro (before : List Member) (name : String) (hname : name ∉ known) (node : Node)
      (hnode : node.Complete) (after : List Member) (closing : Closing) :
      Gains known (.object (before ++ after) closing)
        (.object (before ++ (.ok name, node) :: after) closing)

theorem skip_of_reorders {a b : Node} (h : a.Reorders b) :
    a.skip = .ok () ↔ b.skip = .ok () := by
  induction h with
  | members closing hperm =>
    rw [skip_object_eq_ok, skip_object_eq_ok]
    simp only [hperm.mem_iff]
  | member before name _ after closing ih =>
    simp only [skip_object_eq_ok, List.forall_mem_append, List.forall_mem_cons, ih]
  | item before _ after closing ih =>
    simp only [skip_list_eq_ok, List.forall_mem_append, List.forall_mem_cons, ih]

/-- Two trees are decoded to the same value, or neither of them to any. -/
def Decoder.Alike {α : Type} (d : Decoder α) (a b : Node) : Prop := ∀ v, d a = .ok v ↔ d b = .ok v

/-- A decoder does not look at some kind of change. -/
def Decoder.Respects {α : Type} (r : Node → Node → Prop) (d : Decoder α) : Prop :=
  ∀ ⦃a b⦄, r a b → d.Alike a b

/-- Something holds of the decoder of each field. -/
def Fields.Each (P : {τ : Type} → String → Decoder τ → Prop) {δ ρ : Type} : Fields δ ρ → Prop
  | nil => True
  | cons name d _ rest => P name d ∧ rest.Each P

section Alike

variable {α β : Type} {d : Decoder α} {e : Decoder β} {a b : Node}

theorem Decoder.Alike.symm (h : d.Alike a b) : d.Alike b a := fun v => (h v).symm

theorem Decoder.Alike.forall₂ (h : d.Alike a b) (before after : List Node) (vs : List α) :
    List.Forall₂ (fun node v => d node = .ok v) (before ++ a :: after) vs ↔
      List.Forall₂ (fun node v => d node = .ok v) (before ++ b :: after) vs := by
  induction before generalizing vs with
  | nil => simp only [List.nil_append, List.forall₂_cons_left_iff, h _]
  | cons node before ih => simp only [List.cons_append, List.forall₂_cons_left_iff, ih]

theorem Decoder.Alike.list (h : d.Alike a b) (before after : List Node) (closing : Closing) :
    (Decoder.list d).Alike (.list (before ++ a :: after) closing)
      (.list (before ++ b :: after) closing) := fun vs => by
  rw [Decoder.list_list_eq_ok, Decoder.list_list_eq_ok, h.forall₂]

theorem pair_replace (hd : d.Alike a b) (he : e.Alike a b) {before after : List Node}
    {closing : Closing} {v : α × β}
    (h : Decoder.pair d e (.list (before ++ a :: after) closing) = .ok v) :
    Decoder.pair d e (.list (before ++ b :: after) closing) = .ok v := by
  obtain ⟨first, second, hnode, hfirst, hsecond⟩ := Decoder.pair_eq_ok.mp h
  obtain ⟨hitems, rfl⟩ := Node.list.inj hnode
  refine Decoder.pair_eq_ok.mpr ?_
  match before with
  | [] =>
    obtain ⟨rfl, rfl⟩ := List.cons.inj hitems
    exact ⟨b, second, rfl, (hd v.1).mp hfirst, hsecond⟩
  | [_] =>
    obtain ⟨rfl, hrest⟩ := List.cons.inj hitems
    obtain ⟨rfl, rfl⟩ := List.cons.inj hrest
    exact ⟨_, b, rfl, hfirst, (he v.2).mp hsecond⟩
  | _ :: _ :: before =>
    have hlength := congrArg List.length hitems
    simp at hlength

theorem Decoder.Alike.pair (hd : d.Alike a b) (he : e.Alike a b) (before after : List Node)
    (closing : Closing) : (Decoder.pair d e).Alike (.list (before ++ a :: after) closing)
      (.list (before ++ b :: after) closing) :=
  fun _ => ⟨pair_replace hd he, pair_replace hd.symm he.symm⟩

theorem Taken.perm {nodes nodes' : List Node} (h : nodes.Perm nodes') {v : Option α} :
    Taken d nodes v ↔ Taken d nodes' v := by
  suffices himp : ∀ {nodes nodes' : List Node}, nodes.Perm nodes' → Taken d nodes v →
      Taken d nodes' v from ⟨himp h, himp h.symm⟩
  rintro nodes nodes' h (_ | hv)
  · rw [List.perm_nil.mp h.symm]
    exact .absent
  · rw [List.perm_singleton.mp h.symm]
    exact .given hv

theorem Decoder.Alike.taken (h : d.Alike a b) (before after : List Node) {v : Option α} :
    Taken d (before ++ a :: after) v ↔ Taken d (before ++ b :: after) v := by
  suffices himp : ∀ {a b : Node}, d.Alike a b → Taken d (before ++ a :: after) v →
      Taken d (before ++ b :: after) v from ⟨himp h, himp h.symm⟩
  intro a b h hv
  generalize hnodes : before ++ a :: after = nodes at hv
  cases hv with
  | absent => exact absurd hnodes (by simp)
  | @given node v hv =>
    obtain ⟨rfl, rfl, rfl⟩ : before = [] ∧ a = node ∧ after = [] := by
      simpa [List.append_eq_singleton_iff] using hnodes
    exact .given ((h v).mp hv)

end Alike

section Records

variable {δ ρ α : Type} {fields : Fields δ ρ} {ms ms' : List Member} {a b : Node}

/-- Objects whose members pass alike, and in which the fields find the same, are the same record. -/
theorem Fields.Agree.alike (hnames : fields.names.Nodup) (h : fields.Agree ms ms')
    (hpasses : (∀ m ∈ ms, fields.Passes m) ↔ ∀ m ∈ ms', fields.Passes m) (what : String)
    (build : ρ → α) (closing : Closing) :
    (fields.decode what build).Alike (.object ms closing) (.object ms' closing) := fun v => by
  simp only [Fields.decode_object_eq_ok hnames, hpasses, h.filled]

theorem agree_of_perm (h : ms.Perm ms') : fields.Agree ms ms' := by
  induction fields with
  | nil => trivial
  | cons name d absent rest ih => exact ⟨fun v => Taken.perm (h.filterMap _), ih⟩

theorem agree_of_alike {name : Except SyntaxError String}
    (h : fields.Each fun name' d => name = .ok name' → d.Alike a b) (before after : List Member) :
    fields.Agree (before ++ (name, a) :: after) (before ++ (name, b) :: after) := by
  induction fields with
  | nil => trivial
  | cons name' d absent rest ih =>
    refine ⟨fun v => ?_, ih h.2⟩
    rw [named_append, named_append]
    by_cases heq : name = .ok name'
    · subst heq
      rw [named_cons_self, named_cons_self]
      exact (h.1 rfl).taken _ _
    · rw [named_cons_of_ne heq, named_cons_of_ne heq]

/-- A member that no field is for is passed over. -/
theorem record_respects_gains (hnames : fields.names.Nodup) (what : String) (build : ρ → α) :
    (fields.decode what build).Respects (Node.Gains fields.names) := by
  rintro _ _ ⟨before, name, hname, node, hnode, after, closing⟩
  refine (agree_of_notMem hname before after node).alike hnames ?_ what build closing
  have hpasses : fields.Passes (.ok name, node) := ⟨name, rfl, fun _ => hnode.skip⟩
  simp only [List.forall_mem_append, List.forall_mem_cons, hpasses, true_and]

/-- A member may change as its field allows, or as it can be passed over still. -/
theorem record_alike_of_member {name : Except SyntaxError String} (hnames : fields.names.Nodup)
    (h : fields.Each fun name' d => name = .ok name' → d.Alike a b)
    (hskip : ∀ name' ∉ fields.names, name = .ok name' → (a.skip = .ok () ↔ b.skip = .ok ()))
    (what : String) (build : ρ → α) (before after : List Member) (closing : Closing) :
    (fields.decode what build).Alike (.object (before ++ (name, a) :: after) closing)
      (.object (before ++ (name, b) :: after) closing) := by
  refine (agree_of_alike h before after).alike hnames ?_ what build closing
  have hpasses : fields.Passes (name, a) ↔ fields.Passes (name, b) :=
    exists_congr fun name' => and_congr_right fun heq => forall_congr' fun hname' =>
      hskip name' hname' heq
  simp only [List.forall_mem_append, List.forall_mem_cons, hpasses]

theorem inOrder_cons_eq_ok {τ : Type} {name expected : String} {d : Decoder τ}
    {absent : Option τ} {closing : Closing} {index : Nat} {node : Node} {items left : List Node}
    {v : τ} {vs : ρ} :
    (Fields.cons name d absent fields).inOrder expected closing index (node :: items) =
        .ok ((v, vs), left) ↔
      d node = .ok v ∧ fields.inOrder expected closing (index + 1) items = .ok (vs, left) := by
  simp only [Fields.inOrder, Decoder.next?, ok_bind, bind_eq_ok, pure_eq_ok, Prod.mk.injEq,
    Prod.exists]
  constructor
  · rintro ⟨v, hv, vs, left, hvs, ⟨rfl, rfl⟩, rfl⟩
    exact ⟨hv, hvs⟩
  · rintro ⟨hv, hvs⟩
    exact ⟨v, hv, vs, left, hvs, ⟨rfl, rfl⟩, rfl⟩

/-- A record that stands as a list finds the values of its fields by their places. -/
theorem inOrder_alike (h : fields.Each fun _ d => d.Alike a b) (expected : String)
    (closing : Closing) (index : Nat) (before after : List Node) (vs : ρ) :
    fields.inOrder expected closing index (before ++ a :: after) = .ok (vs, []) ↔
      fields.inOrder expected closing index (before ++ b :: after) = .ok (vs, []) := by
  induction fields generalizing index before with
  | nil => simp [Fields.inOrder]
  | cons name d absent rest ih =>
    obtain ⟨v, vs⟩ := vs
    cases before with
    | nil =>
      rw [List.nil_append, List.nil_append, inOrder_cons_eq_ok, inOrder_cons_eq_ok, h.1 v]
    | cons node before =>
      rw [List.cons_append, List.cons_append, inOrder_cons_eq_ok, inOrder_cons_eq_ok, ih h.2]

theorem decode_list_eq_ok {what : String} {build : ρ → α} {items : List Node} {closing : Closing}
    {v : α} : fields.decode what build (.list items closing) = .ok v ↔ closing = .closed ∧
      ∃ vs, fields.inOrder (Fields.lengthText what fields.size) closing 0 items = .ok (vs, []) ∧
        build vs = v := by
  simp only [Fields.decode, bind_eq_ok, Decoder.finish_eq_ok, pure_eq_ok, Prod.exists]
  constructor
  · rintro ⟨vs, _, hvs, -, ⟨rfl, hclosing⟩, hbuild⟩
    exact ⟨hclosing, vs, hvs, hbuild⟩
  · rintro ⟨hclosing, vs, hvs, hbuild⟩
    exact ⟨vs, [], hvs, (), ⟨rfl, hclosing⟩, hbuild⟩

theorem record_alike_of_item (h : fields.Each fun _ d => d.Alike a b) (what : String)
    (build : ρ → α) (before after : List Node) (closing : Closing) :
    (fields.decode what build).Alike (.list (before ++ a :: after) closing)
      (.list (before ++ b :: after) closing) := fun v => by
  simp only [decode_list_eq_ok, inOrder_alike h]

theorem Fields.Each.imp {P Q : {τ : Type} → String → Decoder τ → Prop}
    (himp : ∀ {τ : Type} (name : String) (d : Decoder τ), P name d → Q name d)
    (h : fields.Each P) : fields.Each Q := by
  induction fields with
  | nil => trivial
  | cons name d absent rest ih => exact ⟨himp name d h.1, ih h.2⟩

/-- A record is respected where its fields are. -/
theorem record_respects_reorders (hnames : fields.names.Nodup)
    (h : fields.Each fun _ d => d.Respects Node.Reorders) (what : String) (build : ρ → α) :
    (fields.decode what build).Respects Node.Reorders := by
  intro a b hab
  cases hab with
  | members closing hperm =>
    exact (agree_of_perm hperm).alike hnames
      ⟨fun h m hm => h m (hperm.mem_iff.mpr hm), fun h m hm => h m (hperm.mem_iff.mp hm)⟩ what
      build closing
  | member before name hab after closing =>
    exact record_alike_of_member hnames (h.imp fun _ _ hd _ => hd hab)
      (fun _ _ _ => skip_of_reorders hab) what build before after closing
  | item before hab after closing =>
    exact record_alike_of_item (h.imp fun _ _ hd => hd hab) what build before after closing

/-- A field of a name is read by a decoder. -/
inductive Fields.Has {τ : Type} (name : String) (d : Decoder τ) :
    {δ ρ : Type} → Fields δ ρ → Prop
  | here {δ ρ : Type} {absent : Option τ} {rest : Fields δ ρ} : Has name d (cons name d absent rest)
  | there {τ' δ ρ : Type} {name' : String} {d' : Decoder τ'} {absent' : Option τ'}
      {rest : Fields δ ρ} (h : Has name d rest) : Has name d (cons name' d' absent' rest)

theorem Fields.Has.mem_names {τ : Type} {name : String} {d : Decoder τ} (h : fields.Has name d) :
    name ∈ fields.names := by
  induction h with
  | here => exact List.mem_cons_self
  | there _ ih => exact List.mem_cons_of_mem _ ih

theorem Fields.each_of_notMem {P : {τ : Type} → Decoder τ → Prop} {name : String}
    (h : name ∉ fields.names) : fields.Each fun name' d => name = name' → P d := by
  induction fields with
  | nil => trivial
  | cons name' d absent rest ih =>
    obtain ⟨hname, hrest⟩ := not_or.mp (mt List.mem_cons.mpr h)
    exact ⟨fun heq => absurd heq hname, ih hrest⟩

/-- No other field has the name. -/
theorem Fields.Has.each {τ : Type} {name : String} {d : Decoder τ} (h : fields.Has name d)
    (hnames : fields.names.Nodup) {P : {τ : Type} → Decoder τ → Prop} (hd : P d) :
    fields.Each fun name' d => name = name' → P d := by
  induction h with
  | here => exact ⟨fun _ => hd, each_of_notMem (List.nodup_cons.mp hnames).1⟩
  | there h ih =>
    obtain ⟨hname, hnames⟩ := List.nodup_cons.mp hnames
    exact ⟨fun heq => absurd (heq ▸ h.mem_names) hname, ih hnames⟩

/-- A member may change as its field allows. -/
theorem record_respects_inMember {τ : Type} {name : String} {d : Decoder τ}
    {r : Node → Node → Prop} (hnames : fields.names.Nodup) (h : fields.Has name d)
    (hd : d.Respects r) (what : String) (build : ρ → α) :
    (fields.decode what build).Respects (Node.InMember name r) := by
  rintro _ _ ⟨before, hab, after, closing⟩
  have heach : fields.Each fun name' d => name = name' → d.Respects r := h.each hnames hd
  refine record_alike_of_member hnames (heach.imp fun _ _ hd heq => hd (Except.ok.inj heq) hab) ?_
    what build before after closing
  rintro name' hname' ⟨⟩
  exact absurd h.mem_names hname'

end Records

namespace Decoder

variable {α β : Type} {d : Decoder α} {e : Decoder β} {r : Node → Node → Prop}

theorem Respects.inItem (h : d.Respects r) : (Decoder.list d).Respects (Node.InItem r) := by
  rintro _ _ ⟨before, hab, after, closing⟩
  exact (h hab).list before after closing

/-- What takes neither lists nor objects does not look into them. -/
theorem respects_of_leaf (hlist : ∀ items closing v, d (.list items closing) ≠ .ok v)
    (hobject : ∀ ms closing v, d (.object ms closing) ≠ .ok v) : d.Respects Node.Reorders := by
  intro a b hab v
  cases hab with
  | members | member => exact iff_of_false (hobject _ _ v) (hobject _ _ v)
  | item => exact iff_of_false (hlist _ _ v) (hlist _ _ v)

theorem string_respects : string.Respects Node.Reorders :=
  respects_of_leaf (fun _ _ _ => mismatch_ne_ok) fun _ _ _ => mismatch_ne_ok

theorem integer_respects (lo hi : Int) (what : String) :
    (integer lo hi what).Respects Node.Reorders :=
  respects_of_leaf (fun _ _ _ => mismatch_ne_ok) fun _ _ _ => mismatch_ne_ok

theorem Respects.list (h : d.Respects Node.Reorders) :
    (Decoder.list d).Respects Node.Reorders := by
  intro a b hab v
  cases hab with
  | members | member => exact iff_of_false mismatch_ne_ok mismatch_ne_ok
  | item before hab after closing => exact (h hab).list before after closing v

theorem Respects.pair (hd : d.Respects Node.Reorders) (he : e.Respects Node.Reorders) :
    (Decoder.pair d e).Respects Node.Reorders := by
  intro a b hab v
  cases hab with
  | members | member => exact iff_of_false mismatch_ne_ok mismatch_ne_ok
  | item before hab after closing => exact (hd hab).pair (he hab) before after closing v

theorem Respects.bind {f : α → Except DecodeError β} (h : d.Respects r) :
    Respects r fun node => d node >>= f := by
  intro a b hab v
  simp only [bind_eq_ok, h hab _]

theorem choice_respects (choices : List (String × α)) :
    (choice choices).Respects Node.Reorders := by
  intro a b hab v
  cases hab with
  | @members ms ms' closing hperm =>
    have hsingle : ∀ m, ms = [m] ↔ ms' = [m] := fun m =>
      ⟨fun h => List.perm_singleton.mp (h ▸ hperm.symm),
        fun h => List.perm_singleton.mp (h ▸ hperm)⟩
    simp only [choice_object_eq_ok, hsingle]
  | member before name hab after closing =>
    -- Null is the only value that the member may have, and it holds no object.
    have hnull : ∀ node, node ≠ Node.null →
        choice choices (.object (before ++ (name, node) :: after) closing) ≠ .ok v := by
      intro node hnode h
      obtain ⟨-, name', hms, -⟩ := choice_object_eq_ok.mp h
      have hmem : (name, node) ∈ [(.ok name', Node.null)] :=
        hms ▸ List.mem_append_right before List.mem_cons_self
      exact hnode (congrArg Prod.snd (List.mem_singleton.mp hmem))
    have hends : ∀ {a b : Node}, a.Reorders b → a ≠ .null ∧ b ≠ .null := fun hab => by
      cases hab <;> exact ⟨nofun, nofun⟩
    exact iff_of_false (hnull _ (hends hab).1) (hnull _ (hends hab).2)
  | item => exact iff_of_false nofun nofun

end Decoder

end ReleasePreview.Json
