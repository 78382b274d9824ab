import ReleasePreview.Proofs.Json.Decoding

/-!
Values that are read whole before anything is made of them. What has been read is read again from
its own tree, and all that a decoder finds in that tree is the value.
-/
namespace ReleasePreview.Json

/-- A text of a value, nested no deeper than can be read and with no number that cannot be. -/
def Holds (s : String) (j : Json) : Prop :=
  ∃ root, document s.toList = ⟨root, false⟩ ∧ root.read maxDepth = .ok j

section Reading

theorem read_list_eq_ok {depth : Nat} {items : List Node} {closing : Closing} {j : Json} :
    (Node.list items closing).read depth = .ok j ↔ ∃ below js, depth = below + 1 ∧
      readItems below items = .ok js ∧ closing = .closed ∧ j = .array js := by
  cases depth with
  | zero => simp [Node.read]
  | succ below =>
    simp only [Node.read, bind_eq_ok, pure_eq_ok, require_eq_ok, listError?_eq_none]
    constructor
    · rintro ⟨js, hjs, -, hclosing, rfl⟩
      exact ⟨below, js, rfl, hjs, hclosing, rfl⟩
    · rintro ⟨_, js, ⟨⟩, hjs, hclosing, rfl⟩
      exact ⟨js, hjs, (), hclosing, rfl⟩

theorem read_object_eq_ok {depth : Nat} {ms : List Member} {closing : Closing} {j : Json} :
    (Node.object ms closing).read depth = .ok j ↔ ∃ below members, depth = below + 1 ∧
      readMembers below ms = .ok members ∧ closing = .closed ∧ j = .object members := by
  cases depth with
  | zero => simp [Node.read]
  | succ below =>
    simp only [Node.read, bind_eq_ok, pure_eq_ok, require_eq_ok, objectError?_eq_none]
    constructor
    · rintro ⟨members, hmembers, -, hclosing, rfl⟩
      exact ⟨below, members, rfl, hmembers, hclosing, rfl⟩
    · rintro ⟨_, members, ⟨⟩, hmembers, hclosing, rfl⟩
      exact ⟨members, hmembers, (), hclosing, rfl⟩

theorem readItems_cons_eq_ok {depth : Nat} {node : Node} {nodes : List Node} {js : List Json} :
    readItems depth (node :: nodes) = .ok js ↔ ∃ j rest, node.read depth = .ok j ∧
      readItems depth nodes = .ok rest ∧ js = j :: rest := by
  simp only [readItems, bind_eq_ok, pure_eq_ok]
  constructor
  · rintro ⟨j, hj, rest, hrest, rfl⟩
    exact ⟨j, rest, hj, hrest, rfl⟩
  · rintro ⟨j, rest, hj, hrest, rfl⟩
    exact ⟨j, hj, rest, hrest, rfl⟩

theorem readMembers_cons_eq_ok {depth : Nat} {m : Member} {ms : List Member}
    {members : List (String × Json)} :
    readMembers depth (m :: ms) = .ok members ↔ ∃ name j rest, m.1 = .ok name ∧
      m.2.read depth = .ok j ∧ readMembers depth ms = .ok rest ∧ members = (name, j) :: rest := by
  simp only [readMembers, bind_eq_ok, pure_eq_ok]
  constructor
  · rintro ⟨name, hname, j, hj, rest, hrest, rfl⟩
    exact ⟨name, j, rest, hname, hj, hrest, rfl⟩
  · rintro ⟨name, j, rest, hname, hj, hrest, rfl⟩
    exact ⟨name, hname, j, hj, rest, hrest, rfl⟩

theorem readMembers_eq_ok {depth : Nat} {ms : List Member} {members : List (String × Json)} :
    readMembers depth ms = .ok members ↔
      List.Forall₂ (fun m e => m.1 = .ok e.1 ∧ m.2.read depth = .ok e.2) ms members := by
  induction ms generalizing members with
  | nil => simp [readMembers, eq_comm]
  | cons m ms ih =>
    rw [readMembers_cons_eq_ok, List.forall₂_cons_left_iff]
    constructor
    · rintro ⟨name, j, rest, hname, hj, hrest, rfl⟩
      exact ⟨(name, j), rest, ⟨hname, hj⟩, ih.mp hrest, rfl⟩
    · rintro ⟨⟨name, j⟩, rest, ⟨hname, hj⟩, hrest, rfl⟩
      exact ⟨name, j, rest, hname, hj, ih.mpr hrest, rfl⟩

mutual

/-- A value that has been read is read again from its tree, at the same depth or deeper. -/
theorem read_ofJson (node : Node) {depth depth' : Nat} {j : Json} (hle : depth ≤ depth')
    (h : node.read depth = .ok j) : (Node.ofJson j).read depth' = .ok j := by
  match node with
  | .null | .bool _ =>
    obtain rfl := Except.ok.inj h
    rfl
  | .number value | .string value =>
    obtain ⟨x, -, rfl⟩ := map_eq_ok.mp h
    rfl
  | .list items closing =>
    obtain ⟨below, js, rfl, hjs, -, rfl⟩ := read_list_eq_ok.mp h
    obtain ⟨below', rfl⟩ := Nat.exists_eq_add_of_le' (show 1 ≤ depth' by omega)
    exact read_list_eq_ok.mpr
      ⟨below', js, rfl, readItems_ofItems items (by omega) hjs, rfl, rfl⟩
  | .object ms closing =>
    obtain ⟨below, members, rfl, hmembers, -, rfl⟩ := read_object_eq_ok.mp h
    obtain ⟨below', rfl⟩ := Nat.exists_eq_add_of_le' (show 1 ≤ depth' by omega)
    exact read_object_eq_ok.mpr
      ⟨below', members, rfl, readMembers_ofMembers ms (by omega) hmembers, rfl, rfl⟩
  | .fault f => exact nomatch h

theorem readItems_ofItems (nodes : List Node) {depth depth' : Nat} {js : List Json}
    (hle : depth ≤ depth') (h : readItems depth nodes = .ok js) :
    readItems depth' (ofItems js) = .ok js := by
  match nodes with
  | [] =>
    obtain rfl := Except.ok.inj h
    rfl
  | node :: nodes =>
    obtain ⟨j, rest, hj, hrest, rfl⟩ := readItems_cons_eq_ok.mp h
    exact readItems_cons_eq_ok.mpr
      ⟨j, rest, read_ofJson node hle hj, readItems_ofItems nodes hle hrest, rfl⟩

theorem readMembers_ofMembers (ms : List Member) {depth depth' : Nat}
    {members : List (String × Json)} (hle : depth ≤ depth')
    (h : readMembers depth ms = .ok members) :
    readMembers depth' (ofMembers members) = .ok members := by
  match ms with
  | [] =>
    obtain rfl := Except.ok.inj h
    rfl
  | (name?, node) :: ms =>
    obtain ⟨name, j, rest, -, hj, hrest, rfl⟩ := readMembers_cons_eq_ok.mp h
    exact readMembers_cons_eq_ok.mpr
      ⟨name, j, rest, rfl, read_ofJson node hle hj, readMembers_ofMembers ms hle hrest, rfl⟩

end

theorem read_of_mem_members {ms : List Member} {depth depth' : Nat}
    {members : List (String × Json)} (hle : depth ≤ depth')
    (h : readMembers depth ms = .ok members) :
    ∀ m ∈ members, (Node.ofJson m.2).read depth' = .ok m.2 := by
  induction ms generalizing members with
  | nil =>
    obtain rfl := Except.ok.inj h
    exact List.forall_mem_nil _
  | cons m ms ih =>
    obtain ⟨name, j, rest, -, hj, hrest, rfl⟩ := readMembers_cons_eq_ok.mp h
    exact List.forall_mem_cons.mpr ⟨read_ofJson m.2 hle hj, ih hrest⟩

theorem read_eq_object {node : Node} {depth : Nat} {members : List (String × Json)} :
    node.read (depth + 1) = .ok (.object members) ↔
      ∃ ms, node = .object ms .closed ∧ readMembers depth ms = .ok members := by
  cases node with
  | string value => cases value <;> simp [Node.read, Except.map]
  | number value => cases value <;> simp [Node.read, Except.map]
  | list => simp [read_list_eq_ok]
  | object ms closing =>
    simp only [read_object_eq_ok, Nat.add_right_cancel_iff, Json.object.injEq, Node.object.injEq]
    constructor
    · rintro ⟨_, _, rfl, hmembers, rfl, rfl⟩
      exact ⟨ms, ⟨rfl, rfl⟩, hmembers⟩
    · rintro ⟨_, ⟨rfl, rfl⟩, hmembers⟩
      exact ⟨depth, members, rfl, hmembers, rfl, rfl⟩
  | _ => simp [Node.read]

theorem read_eq_string {node : Node} {depth : Nat} {s : String} :
    node.read depth = .ok (.string s) ↔ node = .string (.ok s) := by
  cases node with
  | string value => cases value <;> simp [Node.read, Except.map]
  | number value => cases value <;> simp [Node.read, Except.map]
  | list | object => simp [read_list_eq_ok, read_object_eq_ok]
  | _ => simp [Node.read]

end Reading

mutual

/-- The tree of a value can be passed over. -/
theorem skip_ofJson (j : Json) : (Node.ofJson j).skip = .ok () := by
  match j with
  | .null | .bool _ | .number _ | .string _ => rfl
  | .array items => exact skip_list_eq_ok.mpr ⟨skip_ofItems items, rfl⟩
  | .object members => exact skip_object_eq_ok.mpr ⟨skip_ofMembers members, rfl⟩

theorem skip_ofItems (js : List Json) : ∀ node ∈ ofItems js, node.skip = .ok () := by
  match js with
  | [] => exact List.forall_mem_nil _
  | j :: js => exact List.forall_mem_cons.mpr ⟨skip_ofJson j, skip_ofItems js⟩

theorem skip_ofMembers (members : List (String × Json)) :
    ∀ m ∈ ofMembers members, m.2.skip = .ok () := by
  match members with
  | [] => exact List.forall_mem_nil _
  | (_, j) :: members => exact List.forall_mem_cons.mpr ⟨skip_ofJson j, skip_ofMembers members⟩

end

section Records

variable {α δ ρ : Type} {members : List (String × Json)} {name : String}

/-- A value has a member of a name that stands for something. -/
def Has (stands : Json → α → Prop) (members : List (String × Json)) (name : String) (a : α) :
    Prop :=
  ∃ j, (name, j) ∈ members ∧ stands j a

/-- A value has a member of a name that stands for something, or none of the name, and that is what
its absence stands for. -/
def HasOr (absent : α) (stands : Json → α → Prop) (members : List (String × Json)) (name : String)
    (a : α) : Prop :=
  Has stands members name a ∨ (∀ j, (name, j) ∉ members) ∧ a = absent

theorem has_congr {members' : List (String × Json)} {stands : Json → α → Prop} {a : α}
    (h : ∀ j, (name, j) ∈ members ↔ (name, j) ∈ members') :
    Has stands members name a ↔ Has stands members' name a := by
  simp only [Has, h]

theorem hasOr_congr {members' : List (String × Json)} {stands : Json → α → Prop} {absent a : α}
    (h : ∀ j, (name, j) ∈ members ↔ (name, j) ∈ members') :
    HasOr absent stands members name a ↔ HasOr absent stands members' name a := by
  simp only [HasOr, has_congr h, h]

theorem mem_ofMembers {node : Node} :
    (.ok name, node) ∈ ofMembers members ↔ ∃ j, (name, j) ∈ members ∧ Node.ofJson j = node := by
  simp [ofMembers_eq_map]

theorem distinct_ofMembers (h : (members.map (·.1)).Nodup) : Distinct (ofMembers members) :=
  ⟨members.map (·.1), h, by rw [ofMembers_eq_map, List.map_map, List.map_map]; rfl⟩

variable {d : Decoder α} {stands : Json → α → Prop} {a absent : α}

theorem given_ofMembers
    (hd : ∀ j, (name, j) ∈ members → ∀ a, d (Node.ofJson j) = .ok a ↔ stands j a) :
    Given (fun node a => d node = .ok a) (ofMembers members) name a ↔
      Has stands members name a := by
  simp only [Given, Has, mem_ofMembers]
  constructor
  · rintro ⟨_, ⟨j, hmem, rfl⟩, ha⟩
    exact ⟨j, hmem, (hd j hmem a).mp ha⟩
  · rintro ⟨j, hmem, ha⟩
    exact ⟨_, ⟨j, hmem, rfl⟩, (hd j hmem a).mpr ha⟩

theorem givenOr_ofMembers
    (hd : ∀ j, (name, j) ∈ members → ∀ a, d (Node.ofJson j) = .ok a ↔ stands j a) :
    GivenOr absent (fun node a => d node = .ok a) (ofMembers members) name a ↔
      HasOr absent stands members name a := by
  have hnone : (∀ node, (.ok name, node) ∉ ofMembers members) ↔ ∀ j, (name, j) ∉ members := by
    simp [mem_ofMembers]
  rw [GivenOr, given_ofMembers hd, hnone, HasOr]

theorem required_ofMembers (h : (members.map (·.1)).Nodup)
    (hd : ∀ j, (name, j) ∈ members → ∀ a, d (Node.ofJson j) = .ok a ↔ stands j a) :
    (∃ read, Taken d (named name (ofMembers members)) read ∧ (read <|> none) = some a) ↔
      Has stands members name a :=
  (taken_required (distinct_ofMembers h)).trans (given_ofMembers hd)

theorem optional_ofMembers (h : (members.map (·.1)).Nodup)
    (hd : ∀ j, (name, j) ∈ members → ∀ a, d (Node.ofJson j) = .ok a ↔ stands j a) :
    (∃ read, Taken d (named name (ofMembers members)) read ∧ (read <|> some absent) = some a) ↔
      HasOr absent stands members name a :=
  (taken_optional (distinct_ofMembers h)).trans (givenOr_ofMembers hd)

/-- A record is read of a value from its members. -/
theorem decode_ofMembers_eq_ok {fields : Fields δ ρ} {what : String} {build : ρ → α}
    (hnames : fields.names.Nodup) :
    fields.decode what build (.object (ofMembers members) .closed) = .ok a ↔
      ∃ vs, fields.Filled (ofMembers members) vs ∧ build vs = a := by
  have hpasses : ∀ m ∈ ofMembers members, fields.Passes m := by
    intro m hm
    have hskip := skip_ofMembers members m hm
    rw [ofMembers_eq_map] at hm
    obtain ⟨⟨name, j⟩, -, rfl⟩ := List.mem_map.mp hm
    exact ⟨name, rfl, fun _ => hskip⟩
  rw [Fields.decode_object_eq_ok hnames, and_iff_right rfl, and_iff_right hpasses]

end Records

namespace Decoder

variable {α ε : Type} {j : Json}

theorem string_ofJson {s : String} : string (Node.ofJson j) = .ok s ↔ j = .string s := by
  rw [string_eq_ok]
  cases j <;> simp [Node.ofJson]

theorem parsed_ofJson {parse : String → Except ε α} {message : ε → String} {a : α} :
    Decoder.parsed parse message (Node.ofJson j) = .ok a ↔
      ∃ s, j = .string s ∧ parse s = .ok a := by
  have hrefused : ∀ s, (parse s).mapError (fun e => DecodeError.refused (message e)) = .ok a ↔
      parse s = .ok a := by
    intro s
    cases parse s <;> simp [Except.mapError]
  simp only [Decoder.parsed, bind_eq_ok, string_ofJson, hrefused]

theorem eq_map_of_forall₂ {β γ : Type} {f : γ → β} {bs : List β} {cs : List γ}
    (h : List.Forall₂ (fun b c => b = f c) bs cs) : bs = cs.map f := by
  have heq : List.Forall₂ Eq bs (cs.map f) := List.forall₂_map_right_iff.mpr h
  rwa [List.forall₂_eq_eq_eq] at heq

theorem strings_ofJson {ss : List String} :
    Decoder.list .string (Node.ofJson j) = .ok ss ↔ j = .strings ss := by
  refine ⟨fun h => ?_, fun h => h ▸ (Reads.strings ss).result⟩
  obtain ⟨items, hitems, hstrings⟩ := list_eq_ok.mp h
  cases j with
  | array js =>
    obtain ⟨rfl, -⟩ := Node.list.inj hitems
    simp only [ofItems_eq_map, List.forall₂_map_left_iff, string_ofJson] at hstrings
    rw [Json.strings, eq_map_of_forall₂ hstrings]
  | _ => contradiction

theorem members_ofJson {d : Decoder α} {f : α → Json} {es : List (String × α)}
    (hd : ∀ j a, d (Node.ofJson j) = .ok a ↔ j = f a) :
    Decoder.members d (Node.ofJson j) = .ok es ↔ j = .object (es.map fun e => (e.1, f e.2)) := by
  cases j with
  | object members =>
    simp only [members_eq_ok, Node.ofJson, Node.object.injEq, and_true, exists_eq_left',
      ofMembers_eq_map, List.forall₂_map_left_iff, hd, Except.ok.injEq, object.injEq]
    constructor
    · intro hes
      refine eq_map_of_forall₂ (hes.imp ?_)
      rintro ⟨name, j⟩ e ⟨rfl, rfl⟩
      rfl
    · rintro rfl
      exact List.forall₂_map_left_iff.mpr (List.forall₂_same.mpr fun e _ => ⟨rfl, rfl⟩)
  | _ => simp [members_eq_ok, Node.ofJson]

end Decoder

end ReleasePreview.Json
