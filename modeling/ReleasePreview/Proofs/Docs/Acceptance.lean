import Mathlib.Logic.Relation
import ReleasePreview.Docs.Json
import ReleasePreview.Proofs.Json.Tolerance

/-!
The texts that are documentation: what each kind of documented thing is read from, and what in an
array of modules has no bearing on it.
-/
namespace ReleasePreview

open Json

/-- A pair of the name and the arguments. -/
def DocConstructor.Stands (node : Node) (c : DocConstructor) : Prop :=
  ∃ name args, node = .list [name, args] .closed ∧ name.IsString c.name ∧
    args.IsList Node.IsString c.args

structure DocUnion.Stands (ms : List Member) (u : DocUnion) : Prop where
  name : Given Node.IsString ms "name" u.name
  comment : GivenOr "" Node.IsString ms "comment" u.comment
  args : GivenOr [] (Node.IsList Node.IsString) ms "args" u.args
  constructors : GivenOr [] (Node.IsList DocConstructor.Stands) ms "cases" u.constructors

structure DocAlias.Stands (ms : List Member) (a : DocAlias) : Prop where
  name : Given Node.IsString ms "name" a.name
  comment : GivenOr "" Node.IsString ms "comment" a.comment
  args : GivenOr [] (Node.IsList Node.IsString) ms "args" a.args
  type : Given Node.IsString ms "type" a.type

structure DocValue.Stands (ms : List Member) (v : DocValue) : Prop where
  name : Given Node.IsString ms "name" v.name
  comment : GivenOr "" Node.IsString ms "comment" v.comment
  type : Given Node.IsString ms "type" v.type

def Associativity.Stands (node : Node) (a : Associativity) : Prop := node.IsString a.text

/-- A literal without a sign, without a fraction and without an exponent. -/
def DocOperator.IsPrecedence (node : Node) (precedence : UInt8) : Prop :=
  ∃ l : Literal, node = .number l.value ∧ l.negative = false ∧ l.fraction = none ∧
    l.exponent = none ∧ Decimal.naturalValue l.whole = precedence.toNat

structure DocOperator.Stands (ms : List Member) (o : DocOperator) : Prop where
  name : Given Node.IsString ms "name" o.name
  comment : GivenOr "" Node.IsString ms "comment" o.comment
  type : Given Node.IsString ms "type" o.type
  associativity : GivenOr .non Associativity.Stands ms "associativity" o.associativity
  precedence : GivenOr 0 DocOperator.IsPrecedence ms "precedence" o.precedence

structure DocModule.Stands (ms : List Member) (m : DocModule) : Prop where
  name : Given Node.IsString ms "name" m.name
  comment : GivenOr "" Node.IsString ms "comment" m.comment
  unions : GivenOr [] (Node.IsList (Node.IsObject DocUnion.Stands)) ms "unions" m.unions
  aliases : GivenOr [] (Node.IsList (Node.IsObject DocAlias.Stands)) ms "aliases" m.aliases
  values : GivenOr [] (Node.IsList (Node.IsObject DocValue.Stands)) ms "values" m.values
  operators : GivenOr [] (Node.IsList (Node.IsObject DocOperator.Stands)) ms "binops" m.operators

/-- The documented things of a module are records. Where an operator has an associativity, it is a
string, be it one that names none. -/
structure DocModule.IsRecord (ms : List Member) : Prop where
  distinct : Distinct ms
  entities : ∀ name ∈ ["unions", "aliases", "values", "binops"], ∀ node, Listed ms name node →
    node.IsRecord
  associativity : ∀ ms', Listed ms "binops" (.object ms' .closed) →
    ∀ node, (.ok "associativity", node) ∈ ms' → ∃ value, node = .string value

section Members

variable {ms : List Member}

theorem DocConstructor.decode_eq_ok {node : Node} {c : DocConstructor} :
    DocConstructor.decode node = .ok c ↔ DocConstructor.Stands node c := by
  simp only [decode, bind_eq_ok, pure_eq_ok, Prod.exists, Decoder.pair_eq_ok, Decoder.string_eq_ok,
    Decoder.strings_eq_ok]
  constructor
  · rintro ⟨name, args, ⟨first, second, hnode, hname, hargs⟩, rfl⟩
    exact ⟨first, second, hnode, hname, hargs⟩
  · rintro ⟨first, second, hnode, hname, hargs⟩
    exact ⟨c.name, c.args, ⟨first, second, hnode, hname, hargs⟩, rfl⟩

theorem DocUnion.decode_eq_ok (h : Distinct ms) (hcomplete : ∀ m ∈ ms, m.2.Complete)
    {u : DocUnion} : DocUnion.decode (.object ms .closed) = .ok u ↔ DocUnion.Stands ms u := by
  have hcases : ∀ {node cs}, Decoder.list DocConstructor.decode node = .ok cs ↔
      node.IsList DocConstructor.Stands cs :=
    Decoder.list_eq_ok_of_stands fun _ _ _ _ _ => DocConstructor.decode_eq_ok
  rw [decode, Fields.decode_distinct_eq_ok (by decide) h hcomplete]
  simp only [Fields.required, Fields.optional, Fields.Filled, taken_required h, taken_optional h,
    Decoder.string_eq_ok, Decoder.strings_eq_ok, hcases, Prod.exists]
  constructor
  · rintro ⟨name, comment, args, cases, -, ⟨hname, hcomment, hargs, hcases, -⟩, rfl⟩
    exact ⟨hname, hcomment, hargs, hcases⟩
  · rintro ⟨hname, hcomment, hargs, hcases⟩
    exact ⟨_, _, _, _, (), ⟨hname, hcomment, hargs, hcases, trivial⟩, rfl⟩

theorem DocAlias.decode_eq_ok (h : Distinct ms) (hcomplete : ∀ m ∈ ms, m.2.Complete)
    {a : DocAlias} : DocAlias.decode (.object ms .closed) = .ok a ↔ DocAlias.Stands ms a := by
  rw [decode, Fields.decode_distinct_eq_ok (by decide) h hcomplete]
  simp only [Fields.required, Fields.optional, Fields.Filled, taken_required h, taken_optional h,
    Decoder.string_eq_ok, Decoder.strings_eq_ok, Prod.exists]
  constructor
  · rintro ⟨name, comment, args, type, -, ⟨hname, hcomment, hargs, htype, -⟩, rfl⟩
    exact ⟨hname, hcomment, hargs, htype⟩
  · rintro ⟨hname, hcomment, hargs, htype⟩
    exact ⟨_, _, _, _, (), ⟨hname, hcomment, hargs, htype, trivial⟩, rfl⟩

theorem DocValue.decode_eq_ok (h : Distinct ms) (hcomplete : ∀ m ∈ ms, m.2.Complete)
    {v : DocValue} : DocValue.decode (.object ms .closed) = .ok v ↔ DocValue.Stands ms v := by
  rw [decode, Fields.decode_distinct_eq_ok (by decide) h hcomplete]
  simp only [Fields.required, Fields.optional, Fields.Filled, taken_required h, taken_optional h,
    Decoder.string_eq_ok, Prod.exists]
  constructor
  · rintro ⟨name, comment, type, -, ⟨hname, hcomment, htype, -⟩, rfl⟩
    exact ⟨hname, hcomment, htype⟩
  · rintro ⟨hname, hcomment, htype⟩
    exact ⟨_, _, _, (), ⟨hname, hcomment, htype, trivial⟩, rfl⟩

theorem Associativity.decode_string {value : Except SyntaxError String} {a : Associativity} :
    Associativity.decode (.string value) = .ok a ↔ Associativity.Stands (.string value) a := by
  have hlookup : ∀ name, (all.map fun a => (a.text, a)).lookup name = some a ↔ name = a.text := by
    intro name
    rcases eq_or_ne name "left" with rfl | hleft
    · cases a <;> decide
    rcases eq_or_ne name "non" with rfl | hnon
    · cases a <;> decide
    rcases eq_or_ne name "right" with rfl | hright
    · cases a <;> decide
    · refine iff_of_false ?_ (by cases a <;> assumption)
      simp [all, text, List.lookup_cons, beq_eq_false_iff_ne.mpr hleft,
        beq_eq_false_iff_ne.mpr hnon, beq_eq_false_iff_ne.mpr hright]
  simp only [decode, Decoder.choice, bind_eq_ok, checked_eq_ok, Decoder.variant_eq_ok, hlookup,
    Stands, Node.IsString, Node.string.injEq, exists_eq_right]

theorem DocOperator.decodePrecedence_eq_ok {node : Node} (h : node.Complete) {p : UInt8} :
    DocOperator.decodePrecedence node = .ok p ↔ DocOperator.IsPrecedence node p := by
  simp only [decodePrecedence, bind_eq_ok, pure_eq_ok, Decoder.integer_eq_ok]
  constructor
  · rintro ⟨i, ⟨hlo, hhi, ⟨n, rfl, rfl⟩ | ⟨n, rfl, rfl⟩⟩, rfl⟩
    · obtain ⟨l, hl⟩ := h.literal
      obtain ⟨hnegative, hfraction, hexponent, hn, -⟩ := value_eq_natural.mp hl.symm
      refine ⟨l, by rw [hl], hnegative, hfraction, hexponent, hn.trans ?_⟩
      rw [Int.toNat_natCast, UInt8.toNat_ofNat_of_lt' (show n < 256 by omega)]
    · -- Minus zero is read as a float, so what has a sign and is an integer is below zero.
      obtain ⟨l, hl⟩ := h.literal
      have hpos : 0 < n := pos_of_value_eq_negative hl.symm
      omega
  · rintro ⟨l, rfl, hnegative, hfraction, hexponent, hp⟩
    have hlt : p.toNat < 256 := p.toNat_lt
    have hvalue : l.value = .ok (.natural p.toNat) :=
      value_eq_natural.mpr ⟨hnegative, hfraction, hexponent, hp, by rw [Number.maxNatural]; omega⟩
    refine ⟨p.toNat, ⟨by omega, by omega, .inl ⟨p.toNat, by rw [hvalue], rfl⟩⟩, ?_⟩
    rw [Int.toNat_natCast, UInt8.ofNat_toNat]

theorem DocOperator.decode_eq_ok (h : Distinct ms) (hcomplete : ∀ m ∈ ms, m.2.Complete)
    (hassociativity : ∀ node, (.ok "associativity", node) ∈ ms → ∃ value, node = .string value)
    {o : DocOperator} :
    DocOperator.decode (.object ms .closed) = .ok o ↔ DocOperator.Stands ms o := by
  have hside : ∀ a, GivenOr .non (fun node a => Associativity.decode node = .ok a) ms
      "associativity" a ↔ GivenOr .non Associativity.Stands ms "associativity" a := fun a =>
    givenOr_congr fun node hmem a => by
      obtain ⟨value, rfl⟩ := hassociativity node hmem
      exact Associativity.decode_string
  have hprecedence : ∀ p, GivenOr 0 (fun node p => decodePrecedence node = .ok p) ms
      "precedence" p ↔ GivenOr 0 IsPrecedence ms "precedence" p := fun p =>
    givenOr_congr fun node hmem p => decodePrecedence_eq_ok (hcomplete _ hmem)
  rw [decode, Fields.decode_distinct_eq_ok (by decide) h hcomplete]
  simp only [Fields.required, Fields.optional, Fields.Filled, taken_required h, taken_optional h,
    Decoder.string_eq_ok, hside, hprecedence, Prod.exists]
  constructor
  · rintro ⟨name, comment, type, side, precedence, -, ⟨hname, hcomment, htype, hside, hp, -⟩, rfl⟩
    exact ⟨hname, hcomment, htype, hside, hp⟩
  · rintro ⟨hname, hcomment, htype, hside, hp⟩
    exact ⟨_, _, _, _, _, (), ⟨hname, hcomment, htype, hside, hp, trivial⟩, rfl⟩

theorem DocModule.decode_eq_ok (h : DocModule.IsRecord ms) (hcomplete : ∀ m ∈ ms, m.2.Complete)
    {m : DocModule} : DocModule.decode (.object ms .closed) = .ok m ↔ DocModule.Stands ms m := by
  have hunions := entities_eq_ok hcomplete (h.entities "unions" (by decide))
    fun ms' _ hdistinct hms' _ => DocUnion.decode_eq_ok hdistinct hms'
  have haliases := entities_eq_ok hcomplete (h.entities "aliases" (by decide))
    fun ms' _ hdistinct hms' _ => DocAlias.decode_eq_ok hdistinct hms'
  have hvalues := entities_eq_ok hcomplete (h.entities "values" (by decide))
    fun ms' _ hdistinct hms' _ => DocValue.decode_eq_ok hdistinct hms'
  have hoperators := entities_eq_ok hcomplete (h.entities "binops" (by decide))
    fun ms' hlisted hdistinct hms' _ =>
      DocOperator.decode_eq_ok hdistinct hms' (h.associativity ms' hlisted)
  rw [decode, Fields.decode_distinct_eq_ok (by decide) h.distinct hcomplete]
  simp only [Fields.required, Fields.optional, Fields.Filled, taken_required h.distinct,
    taken_optional h.distinct, Decoder.string_eq_ok, hunions, haliases, hvalues, hoperators,
    Prod.exists]
  constructor
  · rintro ⟨name, comment, unions, aliases, values, operators, -,
      ⟨hname, hcomment, hunions, haliases, hvalues, hoperators, -⟩, rfl⟩
    exact ⟨hname, hcomment, hunions, haliases, hvalues, hoperators⟩
  · rintro ⟨hname, hcomment, hunions, haliases, hvalues, hoperators⟩
    exact ⟨_, _, _, _, _, _, (),
      ⟨hname, hcomment, hunions, haliases, hvalues, hoperators, trivial⟩, rfl⟩

end Members

section Tolerance

/-- A module or one of its documented things gets a member, of a name that means nothing there. -/
inductive DocModule.Gains : Node → Node → Prop
  | member {a b : Node}
      (h : Node.Gains ["name", "comment", "unions", "aliases", "values", "binops"] a b) : Gains a b
  | union {a b : Node} (h : Node.InMember "unions" (Node.InItem
      (Node.Gains ["name", "comment", "args", "cases"])) a b) : Gains a b
  | typeAlias {a b : Node} (h : Node.InMember "aliases" (Node.InItem
      (Node.Gains ["name", "comment", "args", "type"])) a b) : Gains a b
  | value {a b : Node} (h : Node.InMember "values" (Node.InItem
      (Node.Gains ["name", "comment", "type"])) a b) : Gains a b
  | operator {a b : Node} (h : Node.InMember "binops" (Node.InItem
      (Node.Gains ["name", "comment", "type", "associativity", "precedence"])) a b) : Gains a b

/-- An object somewhere gets its members in another order, or a record gets a member of a name that
means nothing. -/
inductive Docs.Revises : Node → Node → Prop
  | reorder {a b : Node} (h : a.Reorders b) : Revises a b
  | gain {a b : Node} (h : Node.InItem DocModule.Gains a b) : Revises a b

theorem DocConstructor.decode_respects : DocConstructor.decode.Respects Node.Reorders :=
  (Decoder.string_respects.pair Decoder.string_respects.list).bind

theorem DocUnion.decode_respects : DocUnion.decode.Respects Node.Reorders := by
  rw [decode]
  refine record_respects_reorders (by decide) ?_ _ _
  exact ⟨Decoder.string_respects, Decoder.string_respects, Decoder.string_respects.list,
    DocConstructor.decode_respects.list, trivial⟩

theorem DocAlias.decode_respects : DocAlias.decode.Respects Node.Reorders := by
  rw [decode]
  refine record_respects_reorders (by decide) ?_ _ _
  exact ⟨Decoder.string_respects, Decoder.string_respects, Decoder.string_respects.list,
    Decoder.string_respects, trivial⟩

theorem DocValue.decode_respects : DocValue.decode.Respects Node.Reorders := by
  rw [decode]
  refine record_respects_reorders (by decide) ?_ _ _
  exact ⟨Decoder.string_respects, Decoder.string_respects, Decoder.string_respects, trivial⟩

theorem DocOperator.decode_respects : DocOperator.decode.Respects Node.Reorders := by
  rw [decode]
  refine record_respects_reorders (by decide) ?_ _ _
  exact ⟨Decoder.string_respects, Decoder.string_respects, Decoder.string_respects,
    Decoder.choice_respects _, (Decoder.integer_respects _ _ _).bind, trivial⟩

theorem DocModule.decode_respects : DocModule.decode.Respects Node.Reorders := by
  rw [decode]
  refine record_respects_reorders (by decide) ?_ _ _
  exact ⟨Decoder.string_respects, Decoder.string_respects, DocUnion.decode_respects.list,
    DocAlias.decode_respects.list, DocValue.decode_respects.list,
    DocOperator.decode_respects.list, trivial⟩

theorem DocModule.decode_respects_gains : DocModule.decode.Respects DocModule.Gains := by
  intro a b hab
  rw [decode]
  cases hab with
  | member h => exact record_respects_gains (by decide) _ _ h
  | union h =>
    have hunion : DocUnion.decode.Respects (Node.Gains _) := record_respects_gains (by decide) _ _
    exact record_respects_inMember (by decide) (.there (.there .here)) hunion.inItem _ _ h
  | typeAlias h =>
    have halias : DocAlias.decode.Respects (Node.Gains _) := record_respects_gains (by decide) _ _
    exact record_respects_inMember (by decide) (.there (.there (.there .here))) halias.inItem _ _ h
  | value h =>
    have hvalue : DocValue.decode.Respects (Node.Gains _) := record_respects_gains (by decide) _ _
    exact record_respects_inMember (by decide) (.there (.there (.there (.there .here))))
      hvalue.inItem _ _ h
  | operator h =>
    have hoperator : DocOperator.decode.Respects (Node.Gains _) :=
      record_respects_gains (by decide) _ _
    exact record_respects_inMember (by decide) (.there (.there (.there (.there (.there .here)))))
      hoperator.inItem _ _ h

theorem Docs.decode_respects : Docs.decode.Respects Docs.Revises := by
  intro a b hab
  cases hab with
  | reorder h => exact DocModule.decode_respects.list h
  | gain h => exact DocModule.decode_respects_gains.inItem h

end Tolerance

/-- The text of an array whose modules are records. -/
structure Docs.IsArray (s : String) (items : List Node) : Prop where
  document : document s.toList = ⟨.list items .closed, false⟩
  modules : ∀ node ∈ items, ∃ ms, node = .object ms .closed ∧ DocModule.IsRecord ms

/-- An array of modules is documentation if every member that means something is what it should be,
or is left out where it may be, and then it is what the members stand for. The order of members has
no bearing on it, nor have those that mean nothing. -/
theorem Docs.decode_acceptance (s : String) (items : List Node) (h : Docs.IsArray s items) :
    (∀ docs, decodeText Docs.decode s = .ok docs ↔
      List.Forall₂ (Node.IsObject DocModule.Stands) items docs) ∧
    ∀ s' root, document s'.toList = ⟨root, false⟩ →
      Relation.EqvGen Docs.Revises (.list items .closed) root →
      ∀ docs, decodeText Docs.decode s' = .ok docs ↔ decodeText Docs.decode s = .ok docs := by
  rw [decodeText_of_document Docs.decode h.document]
  refine ⟨fun docs => ?_, fun s' root hs' hrevises docs => ?_⟩
  · have hcomplete : ∀ node ∈ items, node.Complete := (document_complete h.document rfl).items
    rw [decode, Decoder.list_list_eq_ok, and_iff_right rfl]
    refine records_eq_ok hcomplete fun node hnode => ?_
    obtain ⟨ms, rfl, hms⟩ := h.modules node hnode
    exact ⟨ms, rfl, fun hcomplete _ => DocModule.decode_eq_ok hms hcomplete⟩
  · rw [decodeText_of_document Docs.decode hs']
    have halike : ∀ a b, Relation.EqvGen Docs.Revises a b → Docs.decode.Alike a b := by
      intro a b hab
      induction hab with
      | rel a b hab => exact Docs.decode_respects hab
      | refl a => exact fun _ => Iff.rfl
      | symm a b _ ih => exact ih.symm
      | trans a b c _ _ hab hbc => exact fun v => (hab v).trans (hbc v)
    exact (halike _ _ hrevises docs).symm

/-- An operator that names no side, in a module with the members in another order and one more. -/
theorem Docs.decode_acceptance_reordered :
    let text := "[\x7b\"x\":null,\"name\":\"A\"," ++
      "\"binops\":[\x7b\"type\":\"a\",\"name\":\"+\",\"precedence\":6\x7d]\x7d]"
    let text' :=
      "[\x7b\"binops\":[\x7b\"type\":\"a\",\"name\":\"+\",\"precedence\":6\x7d],\"name\":\"A\"\x7d]"
    let plus : List Member := [(.ok "type", .string (.ok "a")), (.ok "name", .string (.ok "+")),
      (.ok "precedence", .number (.ok (.natural 6)))]
    let ms : List Member := [(.ok "x", .null), (.ok "name", .string (.ok "A")),
      (.ok "binops", .list [.object plus .closed] .closed)]
    let docs : Docs :=
      [{ name := "A", operators := [{ name := "+", type := "a", precedence := 6 }] }]
    Docs.IsArray text [.object ms .closed] ∧ decodeText Docs.decode text = .ok docs ∧
      decodeText Docs.decode text' = .ok docs := by
  intro text text' plus ms docs
  let operators : Json := .array [.object
    [("type", .string "a"), ("name", .string "+"), ("precedence", .number (.natural 6))]]
  have hoperators : operators.Exact :=
    .array (List.forall_mem_singleton.mpr (.object (by
      simp [Json.Exact.string, Json.Exact.number (show (Number.natural 6).Exact by decide)])))
  have hread : ∀ (text : String) (fields : List (String × Json)), (∀ m ∈ fields, m.2.Exact) →
      text = compactText (.array [.object fields]) →
      document text.toList = ⟨Node.ofJson (.array [.object fields]), false⟩ := by
    rintro _ fields hfields rfl
    rw [compactText, String.toList_ofList, ← List.append_nil (write _ _ _)]
    exact document_write Layout.compact_isBlank
      (.array (List.forall_mem_singleton.mpr (.object hfields))) (List.forall_mem_nil _)
  have harray : Docs.IsArray text [.object ms .closed] := by
    refine ⟨hread text [("x", .null), ("name", .string "A"), ("binops", operators)]
      (by simp [hoperators, Json.Exact.string, Json.Exact.null]) (by decide +kernel),
      List.forall_mem_singleton.mpr ⟨ms, rfl, ?_⟩⟩
    have hlisted : ∀ name node, Listed ms name node → node = .object plus .closed := by
      rintro name node ⟨items, hmem, hnode⟩
      obtain ⟨-, rfl⟩ : name = "binops" ∧ items = [.object plus .closed] := by simpa [ms] using hmem
      exact List.mem_singleton.mp hnode
    refine ⟨⟨["x", "name", "binops"], by decide, rfl⟩, fun name _ node hnode => ?_,
      fun ms' hms' node hmem => ?_⟩
    · exact ⟨plus, hlisted name node hnode, ["type", "name", "precedence"], by decide, rfl⟩
    · obtain ⟨rfl, -⟩ := Node.object.inj (hlisted "binops" _ hms')
      simp [plus] at hmem
  have hdocs : List.Forall₂ (Node.IsObject DocModule.Stands) [.object ms .closed] docs := by
    have hvalue : (Literal.mk false ['6'] none none).value = .ok (.natural 6) :=
      value_eq_natural.mpr ⟨rfl, rfl, rfl, rfl, by decide⟩
    have hsix : DocOperator.IsPrecedence (.number (.ok (.natural 6))) 6 :=
      ⟨⟨false, ['6'], none, none⟩, by rw [hvalue], rfl, rfl, rfl, rfl⟩
    have hplus : DocOperator.Stands plus ⟨"+", "", "a", .non, 6⟩ :=
      ⟨⟨_, by simp [plus], rfl⟩, .inr ⟨by simp [plus], rfl⟩, ⟨_, by simp [plus], rfl⟩,
        .inr ⟨by simp [plus], rfl⟩, .inl ⟨_, by simp [plus], hsix⟩⟩
    exact .cons ⟨ms, rfl, ⟨_, by simp [ms], rfl⟩, .inr ⟨by simp [ms], rfl⟩,
      .inr ⟨by simp [ms], rfl⟩, .inr ⟨by simp [ms], rfl⟩, .inr ⟨by simp [ms], rfl⟩,
      .inl ⟨_, by simp [ms], _, rfl, .cons ⟨plus, rfl, hplus⟩ .nil⟩⟩ .nil
  have hrevises : Relation.EqvGen Docs.Revises (.list [.object ms .closed] .closed)
      (Node.ofJson (.array [.object [("binops", operators), ("name", .string "A")]])) :=
    .trans _ _ _ (.symm _ _ (.rel _ _ (.gain (.intro [] (.member (.intro [] "x" (by decide) .null
      .null _ .closed)) [] .closed)))) (.rel _ _ (.reorder (.item [] (.members .closed
        (.swap _ _ [])) [] .closed)))
  obtain ⟨haccepts, htolerates⟩ := Docs.decode_acceptance text _ harray
  have hdecode := (haccepts docs).mpr hdocs
  exact ⟨harray, hdecode, (htolerates text' _ (hread text' _
    (by simp [hoperators, Json.Exact.string]) (by decide +kernel)) hrevises docs).mpr hdecode⟩

end ReleasePreview
