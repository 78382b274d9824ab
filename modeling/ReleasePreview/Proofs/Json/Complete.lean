import ReleasePreview.Proofs.Json.Reading

/-!
What is read of a text without a fault is a whole value: every list and every object in it has come
to its end, and every number in it has been written as a literal.
-/
namespace ReleasePreview.Json

/-- A member of an object, with its name as far as that is a text. -/
abbrev Member := Except SyntaxError String × Node

/-- A whole value, as a text has it. Numbers and strings may still be of no use. -/
inductive Node.Complete : Node → Prop
  | null : Complete .null
  | bool (b : Bool) : Complete (.bool b)
  | number (l : Literal) : Complete (.number l.value)
  | string (value : Except SyntaxError String) : Complete (.string value)
  | list {items : List Node} (h : ∀ node ∈ items, Complete node) : Complete (.list items .closed)
  | object {members : List Member} (h : ∀ m ∈ members, Complete m.2) :
      Complete (.object members .closed)

theorem Node.Complete.literal {value : Except SyntaxError Number}
    (h : (Node.number value).Complete) : ∃ l : Literal, value = l.value := by
  cases h with
  | number l => exact ⟨l, rfl⟩

theorem Node.Complete.items {items : List Node} {closing : Closing}
    (h : (Node.list items closing).Complete) : ∀ node ∈ items, node.Complete := by
  cases h with
  | list h => exact h

theorem Node.Complete.members {members : List Member} {closing : Closing}
    (h : (Node.object members closing).Complete) : ∀ m ∈ members, m.2.Complete := by
  cases h with
  | object h => exact h

section Skipping

theorem skipItems_eq_ok {items : List Node} :
    skipItems items = .ok () ↔ ∀ node ∈ items, node.skip = .ok () := by
  induction items with
  | nil => simp [skipItems]
  | cons node nodes ih =>
    rw [skipItems, List.forall_mem_cons, ← ih]
    cases node.skip <;> simp [bind, Except.bind]

theorem skipMembers_eq_ok {members : List Member} :
    skipMembers members = .ok () ↔ ∀ m ∈ members, m.2.skip = .ok () := by
  induction members with
  | nil => simp [skipMembers]
  | cons m members ih =>
    rw [skipMembers, List.forall_mem_cons, ← ih]
    cases m.2.skip <;> simp [bind, Except.bind]

theorem skip_list_eq_ok {items : List Node} {closing : Closing} :
    (Node.list items closing).skip = .ok () ↔
      (∀ node ∈ items, node.skip = .ok ()) ∧ closing.skippedListError? = none := by
  rw [Node.skip, ← skipItems_eq_ok]
  cases skipItems items <;> cases closing.skippedListError? <;> simp [require, bind, Except.bind]

theorem skip_object_eq_ok {members : List Member} {closing : Closing} :
    (Node.object members closing).skip = .ok () ↔
      (∀ m ∈ members, m.2.skip = .ok ()) ∧ closing.skippedObjectError? = none := by
  rw [Node.skip, ← skipMembers_eq_ok]
  cases skipMembers members <;> cases closing.skippedObjectError? <;>
    simp [require, bind, Except.bind]

/-- A whole value can be passed over. -/
theorem Node.Complete.skip {node : Node} (h : node.Complete) : node.skip = .ok () := by
  induction h with
  | null | bool | number | string => rfl
  | list _ ih => exact skip_list_eq_ok.mpr ⟨ih, rfl⟩
  | object _ ih => exact skip_object_eq_ok.mpr ⟨ih, rfl⟩

end Skipping

section Tokens

/-- A number among the tokens is the value of a literal. -/
def Token.IsWritten : Token → Prop
  | .number value => ∃ l : Literal, value = l.value
  | _ => True

theorem scanWord_eq_ok {value t : Token} {word s rest : List Char}
    (h : scanWord value word s = .ok (t, rest)) : t = value := by
  fun_induction scanWord value word s with
  | case1 s => cases h; rfl
  | case2 | case4 => contradiction
  | case3 _ _ _ ih => exact ih h

/-- The token that a scan comes to, be it the last one. -/
def scanned : Except Token (Token × List Char) → Token
  | .ok (t, _) => t
  | .error t => t

theorem scanned_word {value : Token} (hvalue : value.IsWritten) (word s : List Char) :
    (scanned ((scanWord value word s).mapError .brokenScalar)).IsWritten := by
  cases h : scanWord value word s with
  | error f => trivial
  | ok r => rwa [← scanWord_eq_ok h] at hvalue

theorem scanned_scanToken (c : Char) (s : List Char) : (scanned (scanToken c s)).IsWritten := by
  unfold scanToken
  split
  -- The three words, strings and numbers. The other tokens are single characters.
  case h_7 | h_8 | h_9 => exact scanned_word (by exact trivial) _ s
  case h_10 => split <;> trivial
  case h_11 =>
    split
    · split
      · exact ⟨_, rfl⟩
      · trivial
    · trivial
  all_goals trivial

theorem tokens_isWritten (s : List Char) : ∀ t ∈ tokens s, t.IsWritten := by
  suffices h : ∀ fuel, ∀ t ∈ tokensWithin fuel s, t.IsWritten from h _
  intro fuel
  induction fuel generalizing s with
  | zero => exact List.forall_mem_nil _
  | succ fuel ih =>
    rw [tokensWithin]
    cases s.dropWhile isSpace with
    | nil => exact List.forall_mem_nil _
    | cons c rest =>
      have hscan := scanned_scanToken c rest
      dsimp only
      cases h : scanToken c rest with
      | error t =>
        rw [h] at hscan
        exact List.forall_mem_singleton.mpr hscan
      | ok r =>
        rw [h] at hscan
        exact List.forall_mem_cons.mpr ⟨hscan, ih r.2⟩

end Tokens

section Reading

/-- Where the elements of a list, or the values of an object, end as they should, all of them are
whole. What follows them is tokens of the text still. -/
structure ReadsWhole (nodes : List Node) (closing : Closing) (rest : List Token) : Prop where
  complete : closing = .closed → ∀ node ∈ nodes, node.Complete
  rest : ∀ t ∈ rest, t.IsWritten

variable {nodes : List Node} {closing : Closing} {rest : List Token}

theorem ReadsWhole.of_ne (h : closing ≠ .closed) : ReadsWhole nodes closing [] :=
  ⟨fun hclosed => absurd hclosed h, List.forall_mem_nil _⟩

theorem ReadsWhole.cons {node : Node} (hnode : node.Complete)
    (h : ReadsWhole nodes closing rest) : ReadsWhole (node :: nodes) closing rest :=
  ⟨fun hclosed => List.forall_mem_cons.mpr ⟨hnode, h.complete hclosed⟩, h.rest⟩

theorem ReadsWhole.nil (h : ∀ t ∈ rest, t.IsWritten) : ReadsWhole [] closing rest :=
  ⟨fun _ => List.forall_mem_nil _, h⟩

-- By induction on the fuel, for the five functions at once.
mutual

theorem value_readsWhole (fuel : Nat) (ts : List Token) (h : ∀ t ∈ ts, t.IsWritten) :
    ((value fuel ts).1.incomplete = none → (value fuel ts).1.Complete) ∧
      ∀ t ∈ (value fuel ts).2, t.IsWritten := by
  match fuel, ts with
  | 0, _ | _ + 1, [] => exact ⟨nofun, List.forall_mem_nil _⟩
  | fuel + 1, t :: ts =>
    obtain ⟨ht, hts⟩ := List.forall_mem_cons.mp h
    cases t with
    | null => exact ⟨fun _ => .null, hts⟩
    | bool b => exact ⟨fun _ => .bool b, hts⟩
    | string v => exact ⟨fun _ => .string v, hts⟩
    | number v =>
      obtain ⟨l, rfl⟩ := ht
      exact ⟨fun _ => .number l, hts⟩
    | openList =>
      have hitems := firstItem_readsWhole fuel ts hts
      rw [value]
      generalize firstItem fuel ts = r at hitems ⊢
      obtain ⟨items, closing, rest⟩ := r
      refine ⟨fun hnone => ?_, hitems.rest⟩
      cases closing <;> first | contradiction | exact .list (hitems.complete rfl)
    | openObject =>
      have hmembers := firstMember_readsWhole fuel ts hts
      rw [value]
      generalize firstMember fuel ts = r at hmembers ⊢
      obtain ⟨members, closing, rest⟩ := r
      refine ⟨fun hnone => ?_, hmembers.rest⟩
      cases closing <;> first
        | contradiction
        | exact .object (List.forall_mem_map.mp (hmembers.complete rfl))
    | _ => exact ⟨nofun, List.forall_mem_nil _⟩

theorem firstItem_readsWhole (fuel : Nat) (ts : List Token) (h : ∀ t ∈ ts, t.IsWritten) :
    ReadsWhole (firstItem fuel ts).1 (firstItem fuel ts).2.1 (firstItem fuel ts).2.2 := by
  match fuel, ts with
  | 0, _ | _ + 1, [] => exact .of_ne nofun
  | fuel + 1, t :: ts =>
    by_cases ht : t = .closeList
    · subst ht
      exact .nil (List.forall_mem_cons.mp h).2
    · rw [firstItem_of_ne ht]
      exact item_readsWhole fuel (t :: ts) h

theorem item_readsWhole (fuel : Nat) (ts : List Token) (h : ∀ t ∈ ts, t.IsWritten) :
    ReadsWhole (item fuel ts).1 (item fuel ts).2.1 (item fuel ts).2.2 := by
  match fuel with
  | 0 => exact .of_ne nofun
  | fuel + 1 =>
    obtain ⟨hnode, hrest⟩ := value_readsWhole fuel ts h
    rw [item]
    generalize value fuel ts = r at hnode hrest ⊢
    obtain ⟨node, rest⟩ := r
    dsimp only at hnode hrest ⊢
    cases hincomplete : node.incomplete with
    | some f => exact .of_ne nofun
    | none =>
      dsimp only
      split
      · exact .cons (hnode hincomplete) (.nil (List.forall_mem_cons.mp hrest).2)
      · exact .of_ne nofun
      · exact .of_ne nofun
      · exact .cons (hnode hincomplete)
          (item_readsWhole fuel _ (List.forall_mem_cons.mp hrest).2)
      · exact .of_ne nofun
      · exact .of_ne nofun

theorem firstMember_readsWhole (fuel : Nat) (ts : List Token) (h : ∀ t ∈ ts, t.IsWritten) :
    ReadsWhole ((firstMember fuel ts).1.map (·.2)) (firstMember fuel ts).2.1
      (firstMember fuel ts).2.2 := by
  match fuel, ts with
  | 0, _ | _ + 1, [] => exact .of_ne nofun
  | fuel + 1, t :: ts =>
    by_cases ht : t = .closeObject
    · subst ht
      exact .nil (List.forall_mem_cons.mp h).2
    · rw [firstMember]
      · exact member_readsWhole fuel (t :: ts) h
      · exact nofun
      · rintro _ ⟨⟩
        exact ht rfl

theorem member_readsWhole (fuel : Nat) (ts : List Token) (h : ∀ t ∈ ts, t.IsWritten) :
    ReadsWhole ((member fuel ts).1.map (·.2)) (member fuel ts).2.1 (member fuel ts).2.2 := by
  match fuel with
  | 0 => exact .of_ne nofun
  | fuel + 1 =>
    unfold member
    split
    · next name rest =>
      obtain ⟨hnode, hrest⟩ := value_readsWhole fuel rest fun t ht =>
        h t (List.mem_cons_of_mem _ (List.mem_cons_of_mem _ ht))
      dsimp only
      generalize value fuel rest = r at hnode hrest ⊢
      obtain ⟨node, rest⟩ := r
      dsimp only at hnode hrest ⊢
      cases hincomplete : node.incomplete with
      | some f => exact .of_ne nofun
      | none =>
        dsimp only
        split
        · exact .cons (hnode hincomplete) (.nil (List.forall_mem_cons.mp hrest).2)
        · exact .of_ne nofun
        · exact .of_ne nofun
        · exact .cons (hnode hincomplete)
            (member_readsWhole fuel _ (List.forall_mem_cons.mp hrest).2)
        · exact .of_ne nofun
        · exact .of_ne nofun
    all_goals exact .of_ne nofun

end

/-- The value of a text is whole where nothing is wrong with its end. -/
theorem document_complete {s : List Char} {root : Node} {trailing : Bool}
    (h : document s = ⟨root, trailing⟩) (hroot : root.incomplete = none) : root.Complete := by
  have hwhole := value_readsWhole (3 * (tokens s).length + 3) (tokens s) (tokens_isWritten s)
  obtain rfl : (value (3 * (tokens s).length + 3) (tokens s)).1 = root := congrArg Document.root h
  exact hwhole.1 hroot

end Reading

end ReleasePreview.Json
