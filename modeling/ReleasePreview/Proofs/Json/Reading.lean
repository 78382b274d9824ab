import ReleasePreview.Json.Decode
import ReleasePreview.Proofs.Json.Lexing

/-! A written value is read as the tree of the value, complete and with nothing behind it. -/
namespace ReleasePreview.Json

section Steps

variable {fuel : Nat} {ts rest : List Token} {t : Token} {node : Node}

theorem incomplete_ofJson (j : Json) : (Node.ofJson j).incomplete = none := by
  cases j <;> rfl

theorem item_of_close (h : value fuel ts = (node, .closeList :: rest))
    (hnode : node.incomplete = none) : item (fuel + 1) ts = ([node], .closed, rest) := by
  rw [item, h]
  dsimp only
  rw [hnode]

theorem item_of_comma (h : value fuel ts = (node, .comma :: t :: rest))
    (hnode : node.incomplete = none) (ht : t ≠ .closeList) :
    item (fuel + 1) ts = (node :: (item fuel (t :: rest)).1, (item fuel (t :: rest)).2) := by
  rw [item, h]
  dsimp only
  rw [hnode]
  cases t <;> first | rfl | contradiction

variable {name : Except SyntaxError String}

theorem member_of_close (h : value fuel ts = (node, .closeObject :: rest))
    (hnode : node.incomplete = none) :
    member (fuel + 1) (.string name :: .colon :: ts) = ([(name, node)], .closed, rest) := by
  rw [member, h]
  dsimp only
  rw [hnode]

theorem member_of_comma {name' : Except SyntaxError String}
    (h : value fuel ts = (node, .comma :: .string name' :: rest))
    (hnode : node.incomplete = none) :
    member (fuel + 1) (.string name :: .colon :: ts) =
      ((name, node) :: (member fuel (.string name' :: rest)).1,
        (member fuel (.string name' :: rest)).2) := by
  rw [member, h]
  dsimp only
  rw [hnode]

theorem firstItem_of_ne (ht : t ≠ .closeList) :
    firstItem (fuel + 1) (t :: ts) = item fuel (t :: ts) := by
  cases t <;> first | rfl | contradiction

theorem firstMember_string :
    firstMember (fuel + 1) (.string name :: ts) = member fuel (.string name :: ts) := rfl

end Steps

/-- No value begins with a closing bracket. -/
theorem toTokens_eq_cons (j : Json) : ∃ t ts, j.toTokens = t :: ts ∧ t ≠ .closeList := by
  cases j with
  | null => exact ⟨_, _, rfl, nofun⟩
  | bool b => exact ⟨_, _, rfl, nofun⟩
  | number n => exact ⟨_, _, rfl, nofun⟩
  | string s => exact ⟨_, _, rfl, nofun⟩
  | array items => cases items <;> exact ⟨_, _, rfl, nofun⟩
  | object members =>
    cases members with
    | nil => exact ⟨_, _, rfl, nofun⟩
    | cons m members => exact ⟨_, _, rfl, nofun⟩

mutual

/-- Three steps for each of its tokens are enough to read a value. -/
theorem value_toTokens (j : Json) (rest : List Token) {fuel : Nat}
    (hfuel : 3 * j.toTokens.length ≤ fuel) :
    value fuel (j.toTokens ++ rest) = (Node.ofJson j, rest) := by
  match j with
  | .null | .bool _ | .number _ | .string _ =>
    obtain ⟨fuel, rfl⟩ := Nat.exists_eq_add_of_le' (show 3 ≤ fuel from hfuel)
    rfl
  | .array [] | .object [] =>
    obtain ⟨fuel, rfl⟩ := Nat.exists_eq_add_of_le' (show 6 ≤ fuel from hfuel)
    rfl
  | .array (j :: js) =>
    obtain ⟨t, ts, hts, ht⟩ := toTokens_eq_cons j
    simp only [toTokens, List.length_cons, List.length_append, List.length_nil] at hfuel
    -- The bracket, the first element and its value take a step each.
    obtain ⟨fuel, rfl⟩ := Nat.exists_eq_add_of_le' (show 3 ≤ fuel by omega)
    have hfirst := value_toTokens j (itemTokens js ++ .closeList :: rest)
      (show 3 * j.toTokens.length ≤ fuel by omega)
    have hitems := item_toTokens js rest (incomplete_ofJson j) hfirst (by omega)
    simp only [toTokens, List.cons_append, List.append_assoc, List.nil_append]
    rw [hts, List.cons_append] at hitems ⊢
    rw [value, firstItem_of_ne ht, hitems, Node.ofJson, ofItems]
  | .object ((name, j) :: members) =>
    simp only [toTokens, List.length_cons, List.length_append, List.length_nil] at hfuel
    obtain ⟨fuel, rfl⟩ := Nat.exists_eq_add_of_le' (show 3 ≤ fuel by omega)
    have hfirst := value_toTokens j (memberTokens members ++ .closeObject :: rest)
      (show 3 * j.toTokens.length ≤ fuel by omega)
    have hmembers := member_toTokens members rest (.ok name) (incomplete_ofJson j) hfirst (by omega)
    simp only [toTokens, List.cons_append, List.append_assoc, List.nil_append]
    rw [value, firstMember_string, hmembers, Node.ofJson, ofMembers]

/-- What follows an element is read to the end of its list. -/
theorem item_toTokens (js : List Json) (rest : List Token) {fuel : Nat} {ts : List Token}
    {node : Node} (hnode : node.incomplete = none)
    (hvalue : value fuel ts = (node, itemTokens js ++ .closeList :: rest))
    (hfuel : 3 * (itemTokens js).length ≤ fuel) :
    item (fuel + 1) ts = (node :: ofItems js, .closed, rest) := by
  match js with
  | [] => exact item_of_close hvalue hnode
  | j :: js =>
    obtain ⟨t, ts', hts, ht⟩ := toTokens_eq_cons j
    simp only [itemTokens, List.cons_append, List.append_assoc, List.length_cons,
      List.length_append] at hvalue hfuel
    obtain ⟨fuel, rfl⟩ := Nat.exists_eq_add_of_le' (show 1 ≤ fuel by omega)
    have hnext := value_toTokens j (itemTokens js ++ .closeList :: rest)
      (show 3 * j.toTokens.length ≤ fuel by omega)
    have hitems := item_toTokens js rest (incomplete_ofJson j) hnext (by omega)
    rw [hts, List.cons_append] at hvalue hitems
    rw [item_of_comma hvalue hnode ht, hitems, ofItems]

/-- What follows a member is read to the end of its object. -/
theorem member_toTokens (members : List (String × Json)) (rest : List Token) {fuel : Nat}
    {ts : List Token} {node : Node} (name : Except SyntaxError String)
    (hnode : node.incomplete = none)
    (hvalue : value fuel ts = (node, memberTokens members ++ .closeObject :: rest))
    (hfuel : 3 * (memberTokens members).length ≤ fuel) :
    member (fuel + 1) (.string name :: .colon :: ts) =
      ((name, node) :: ofMembers members, .closed, rest) := by
  match members with
  | [] => exact member_of_close hvalue hnode
  | (name', j) :: members =>
    simp only [memberTokens, List.cons_append, List.append_assoc, List.length_cons,
      List.length_append] at hvalue hfuel
    obtain ⟨fuel, rfl⟩ := Nat.exists_eq_add_of_le' (show 1 ≤ fuel by omega)
    have hnext := value_toTokens j (memberTokens members ++ .closeObject :: rest)
      (show 3 * j.toTokens.length ≤ fuel by omega)
    have hmembers := member_toTokens members rest (.ok name') (incomplete_ofJson j) hnext (by omega)
    rw [member_of_comma hvalue hnode, hmembers, ofMembers]

end

/-- A text of a value is read as its tree. -/
theorem document_write {l : Layout} (hl : l.IsBlank) {j : Json} (hj : j.Exact) {s : List Char}
    (hs : ∀ c ∈ s, c = '\n') : document (j.write l 0 ++ s) = ⟨Node.ofJson j, false⟩ := by
  have hfuel : 3 * j.toTokens.length ≤ 3 * j.toTokens.length + 3 := by omega
  have hvalue := value_toTokens j [] hfuel
  rw [List.append_nil] at hvalue
  rw [document, tokens_write hl hj hs]
  dsimp only
  rw [hvalue]
  rfl

end ReleasePreview.Json
