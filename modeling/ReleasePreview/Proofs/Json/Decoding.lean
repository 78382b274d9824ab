import ReleasePreview.Proofs.Json.Members

/-!
Decoders take a written value for what it stands for. Each way of making a decoder out of others
keeps this, records with fields that may be left out among them.
-/
namespace ReleasePreview.Json

/-- A decoder takes a value for `a`, and the value is read as it is written. -/
structure Decoder.Reads {α : Type} (d : Decoder α) (j : Json) (a : α) : Prop where
  exact : j.Exact
  result : d (Node.ofJson j) = .ok a

/-- The members of a record's object: those of its fields in their order, without some that may be
left out. -/
inductive Fills : {δ ρ : Type} → Fields δ ρ → List (String × Json) → ρ → Prop
  | nil : Fills .nil [] ()
  | given {τ δ ρ : Type} {name : String} {d : Decoder τ} {absent : Option τ} {rest : Fields δ ρ}
      {j : Json} {ms : List (String × Json)} {v : τ} {vs : ρ} (hv : d.Reads j v)
      (hrest : Fills rest ms vs) : Fills (.cons name d absent rest) ((name, j) :: ms) (v, vs)
  | omitted {τ δ ρ : Type} {name : String} {d : Decoder τ} {rest : Fields δ ρ}
      {ms : List (String × Json)} {v : τ} {vs : ρ} (hrest : Fills rest ms vs) :
      Fills (.cons name d (some v) rest) ms (v, vs)

theorem ofItems_eq_map (js : List Json) : ofItems js = js.map Node.ofJson := by
  induction js with
  | nil => rfl
  | cons j js ih => rw [ofItems, ih, List.map_cons]

theorem ofMembers_eq_map (ms : List (String × Json)) :
    ofMembers ms = ms.map fun m => (.ok m.1, Node.ofJson m.2) := by
  induction ms with
  | nil => rfl
  | cons m ms ih => rw [ofMembers, ih, List.map_cons]

namespace Fills

variable {δ ρ : Type} {fields : Fields δ ρ} {ms : List (String × Json)} {vs : ρ}

theorem exact (h : Fills fields ms vs) : ∀ m ∈ ms, m.2.Exact := by
  induction h with
  | nil => exact List.forall_mem_nil _
  | given hv _ ih => exact List.forall_mem_cons.mpr ⟨hv.exact, ih⟩
  | omitted _ ih => exact ih

theorem mem_names (h : Fills fields ms vs) : ∀ m ∈ ms, m.1 ∈ fields.names := by
  induction h with
  | nil => exact List.forall_mem_nil _
  | given _ _ ih =>
    exact List.forall_mem_cons.mpr
      ⟨List.mem_cons_self, fun m hm => List.mem_cons_of_mem _ (ih m hm)⟩
  | omitted _ ih => exact fun m hm => List.mem_cons_of_mem _ (ih m hm)

theorem exists_mem_names (h : Fills fields ms vs) {m : Member} (hm : m ∈ ofMembers ms) :
    ∃ name ∈ fields.names, m.1 = .ok name := by
  rw [ofMembers_eq_map] at hm
  obtain ⟨⟨name, j⟩, hmem, rfl⟩ := List.mem_map.mp hm
  exact ⟨name, h.mem_names _ hmem, rfl⟩

theorem passes (h : Fills fields ms vs) : ∀ m ∈ ofMembers ms, fields.Passes m := by
  intro m hm
  obtain ⟨name, hname, heq⟩ := h.exists_mem_names hm
  exact ⟨name, heq, fun hnot => absurd hname hnot⟩

theorem named_eq_nil (h : Fills fields ms vs) {name : String} (hname : name ∉ fields.names) :
    named name (ofMembers ms) = [] := by
  refine Json.named_eq_nil.mpr fun node hmem => ?_
  obtain ⟨name', hname', heq⟩ := h.exists_mem_names hmem
  exact hname (Except.ok.inj heq ▸ hname')

/-- Every field has its value, the members of other names notwithstanding. -/
theorem filled (h : Fills fields ms vs) (hnames : fields.names.Nodup) :
    fields.Filled (ofMembers ms) vs := by
  induction h with
  | nil => trivial
  | @given _ _ _ name d absent rest j ms v vs hv hrest ih =>
    obtain ⟨hname, hnames⟩ := List.nodup_cons.mp hnames
    have hothers := hrest.named_eq_nil hname
    refine ⟨⟨some v, ?_, rfl⟩, ?_⟩
    · rw [ofMembers, named_cons_self, hothers]
      exact .given hv.result
    · exact (agree_of_notMem hname [] (ofMembers ms) (Node.ofJson j)).filled.mp (ih hnames)
  | @omitted _ _ _ name d rest ms v vs hrest ih =>
    obtain ⟨hname, hnames⟩ := List.nodup_cons.mp hnames
    refine ⟨⟨none, ?_, rfl⟩, ih hnames⟩
    rw [hrest.named_eq_nil hname]
    exact .absent

end Fills

theorem mapM_map_eq_ok {ε α β : Type} {read : β → Except ε α} {write : α → β} {as : List α}
    (h : ∀ a ∈ as, read (write a) = .ok a) : (as.map write).mapM read = .ok as :=
  mapM_eq_ok.mpr (List.forall₂_map_left_iff.mpr (List.forall₂_same.mpr h))

namespace Decoder.Reads

variable {α β : Type} {d : Decoder α} {j : Json} {a : α}

/-- A record is read from its members, in whatever layout. -/
theorem record {δ ρ : Type} {fields : Fields δ ρ} {ms : List (String × Json)} {vs : ρ}
    {what : String} {build : ρ → α} (h : Fills fields ms vs) (hnames : fields.names.Nodup)
    (hbuild : build vs = a) : Reads (fields.decode what build) (.object ms) a where
  exact := .object h.exact
  result := (Fields.decode_object_eq_ok hnames).mpr ⟨rfl, h.passes, vs, h.filled hnames, hbuild⟩

protected theorem string (s : String) : Reads .string (.string s) s := ⟨.string s, rfl⟩

theorem parsed {ε : Type} {parse : String → Except ε α} {message : ε → String} {s : String}
    (h : parse s = .ok a) : Reads (.parsed parse message) (.string s) a where
  exact := .string s
  result := by
    simp only [Decoder.parsed, Node.ofJson, Decoder.string, checked_ok, ok_bind, h]
    rfl

theorem natural {n : Nat} {lo hi : Int} (what : String) (hn : n ≤ Number.maxNatural)
    (hlo : lo ≤ n) (hhi : n ≤ hi) :
    Reads (.integer lo hi what) (.number (.natural n)) (n : Int) where
  exact := .number hn
  result := by
    simp [integer, Node.ofJson, hlo, hhi]

theorem choice {choices : List (String × α)} {name : String} (h : choices.lookup name = some a) :
    Reads (.choice choices) (.string name) a where
  exact := .string name
  result := by
    simp [Decoder.choice, variant, Node.ofJson, h]

/-- A decoder that goes on with what another one reads. -/
theorem bind {f : α → Except DecodeError β} {b : β} (h : Reads d j a) (hf : f a = .ok b) :
    Reads (fun node => d node >>= f) j b where
  exact := h.exact
  result := by rw [h.result, ok_bind, hf]

theorem nullable_none : Reads (.nullable d) .null none := ⟨.null, rfl⟩

theorem nullable_some (h : Reads d j a) (hj : j ≠ .null) : Reads (.nullable d) j (some a) where
  exact := h.exact
  result := by
    have hnode : nullable d (Node.ofJson j) = (d (Node.ofJson j)).map some := by
      cases j <;> first | rfl | contradiction
    rw [hnode, h.result]
    rfl

section Lists

variable {f : α → Json}

theorem list {as : List α} (h : ∀ a ∈ as, Reads d (f a) a) :
    Reads (.list d) (.array (as.map f)) as where
  exact := .array (List.forall_mem_map.mpr fun a ha => (h a ha).exact)
  result := by
    have hitems : (ofItems (as.map f)).mapM d = .ok as := by
      rw [ofItems_eq_map, List.map_map]
      exact mapM_map_eq_ok fun a ha => (h a ha).result
    simp only [Decoder.list, Node.ofJson, hitems, ok_bind]
    rfl

theorem strings (ss : List String) : Reads (.list .string) (Json.strings ss) ss :=
  list fun s _ => .string s

theorem pair {e : Decoder β} {k : Json} {b : β} (ha : Reads d j a) (hb : Reads e k b) :
    Reads (.pair d e) (.array [j, k]) (a, b) where
  exact := .array (by simp [ha.exact, hb.exact])
  result := by
    simp only [Decoder.pair, Node.ofJson, ofItems, next?, ha.result, hb.result, ok_bind]
    rfl

theorem members {es : List (String × α)} (h : ∀ e ∈ es, Reads d (f e.2) e.2) :
    Reads (.members d) (.object (es.map fun e => (e.1, f e.2))) es where
  exact := .object (List.forall_mem_map.mpr fun e he => (h e he).exact)
  result := by
    simp only [Decoder.members, Node.ofJson, ofMembers_eq_map, List.map_map]
    rw [mapM_map_eq_ok fun e he => ?_]
    · rfl
    · simp only [Function.comp_apply, (h e he).result, checked_ok, ok_bind]
      rfl

end Lists

/-- A text of the value decodes, in any layout and with line breaks behind it. -/
theorem decodeText (h : Reads d j a) {l : Layout} (hl : l.IsBlank) {s : List Char}
    (hs : ∀ c ∈ s, c = '\n') : decodeText d (String.ofList (j.write l 0 ++ s)) = .ok a := by
  simp only [Json.decodeText, String.toList_ofList, document_write hl h.exact hs, h.result,
    ok_bind]
  rfl

end Decoder.Reads

/-- A field that is left out where it is absent. -/
theorem Fills.present {τ δ ρ : Type} {name : String} {d : Decoder τ} {f : τ → Json}
    {rest : Fields δ ρ} {ms : List (String × Json)} {vs : ρ} (h : ∀ a, d.Reads (f a) a)
    (hf : ∀ a, f a ≠ .null) (o : Option τ) (hrest : Fills rest ms vs) :
    Fills (.cons name (.nullable d) (some none) rest) (Json.present name (o.map f) ++ ms)
      (o, vs) := by
  cases o with
  | none => exact .omitted hrest
  | some a => exact .given ((h a).nullable_some (hf a)) hrest

/-- Decodes a text and writes what it stands for. -/
def recode {α : Type} (toJson : α → Json) (d : Decoder α) (text : Json → String) (s : String) :
    Except DecodeError String := (decodeText d s).map fun a => text (toJson a)

/-- Every value is read back from its texts, so what has been rewritten once stays as it is. -/
structure RoundTrips {α : Type} (toJson : α → Json) (d : Decoder α) : Prop where
  compact : ∀ a, decodeText d (compactText (toJson a)) = .ok a
  pretty : ∀ a, decodeText d (prettyText (toJson a)) = .ok a
  line : ∀ a, decodeText d (prettyText (toJson a) ++ "\n") = .ok a
  recode_compact : ∀ s t, recode toJson d compactText s = .ok t →
    recode toJson d compactText t = .ok t
  recode_pretty : ∀ s t, recode toJson d prettyText s = .ok t → recode toJson d prettyText t = .ok t

namespace RoundTrips

variable {α : Type} {toJson : α → Json} {d : Decoder α}

theorem recode_of_decodeText {text : Json → String}
    (h : ∀ a, decodeText d (text (toJson a)) = .ok a) {s t : String}
    (ht : recode toJson d text s = .ok t) : recode toJson d text t = .ok t := by
  rw [recode] at ht
  cases ha : decodeText d s with
  | error e =>
    rw [ha] at ht
    contradiction
  | ok a =>
    rw [ha] at ht
    obtain rfl : text (toJson a) = t := Except.ok.inj ht
    rw [recode, h a]
    rfl

theorem of_reads (h : ∀ a, d.Reads (toJson a) a) : RoundTrips toJson d := by
  have hcompact : ∀ a, decodeText d (compactText (toJson a)) = .ok a := fun a => by
    rw [compactText, ← List.append_nil (write _ _ _)]
    exact (h a).decodeText Layout.compact_isBlank (List.forall_mem_nil _)
  have hpretty : ∀ a, decodeText d (prettyText (toJson a)) = .ok a := fun a => by
    rw [prettyText, ← List.append_nil (write _ _ _)]
    exact (h a).decodeText Layout.pretty_isBlank (List.forall_mem_nil _)
  have hline : ∀ a, decodeText d (prettyText (toJson a) ++ "\n") = .ok a := fun a => by
    rw [prettyText, show "\n" = String.ofList ['\n'] from rfl, ← String.ofList_append]
    exact (h a).decodeText Layout.pretty_isBlank (by simp)
  exact ⟨hcompact, hpretty, hline, fun _ _ => recode_of_decodeText hcompact,
    fun _ _ => recode_of_decodeText hpretty⟩

end RoundTrips


end ReleasePreview.Json
