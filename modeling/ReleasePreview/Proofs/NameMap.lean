import Mathlib.Data.List.Nodup
import ReleasePreview.NameMap

/-! A map is what its lookups say, and a map made of a list has the last entry of each name. -/
namespace ReleasePreview.NameMap

variable {α : Type}

@[simp] theorem get?_empty (x : String) : (empty : NameMap α).get? x = none := rfl

private theorem lookup_cons_eq (x : String) (e : String × α) (es : List (String × α)) :
    (e :: es).lookup x = if x = e.1 then some e.2 else es.lookup x := by
  obtain ⟨name, a⟩ := e
  by_cases hx : x = name
  · simp [hx]
  · have hne : (x == name) = false := beq_eq_false_iff_ne.mpr hx
    simp only [List.lookup_cons, hne, hx, if_false]

private theorem lookup_insertEntry (name x : String) (a : α) (es : List (String × α)) :
    (insertEntry name a es).lookup x = if x = name then some a else es.lookup x := by
  induction es with
  | nil => exact lookup_cons_eq x (name, a) []
  | cons e es ih =>
    rw [insertEntry]
    split
    · exact lookup_cons_eq x (name, a) (e :: es)
    · split
      · next hsame =>
        rw [lookup_cons_eq, lookup_cons_eq, hsame]
        split <;> rfl
      · next hother =>
        rw [lookup_cons_eq, lookup_cons_eq, ih]
        by_cases hx : x = e.1
        · rw [if_pos hx, if_pos hx, if_neg (hx ▸ Ne.symm hother)]
        · rw [if_neg hx, if_neg hx]

theorem get?_insert (m : NameMap α) (name x : String) (a : α) :
    (m.insert name a).get? x = if x = name then some a else m.get? x :=
  lookup_insertEntry name x a m.toList

/-- The last entry of a name counts. -/
theorem get?_ofList (entries : List (String × α)) (x : String) :
    (ofList entries).get? x = ((entries.filter fun e => e.1 = x).map (·.2)).getLast? := by
  have hfold : ∀ m : NameMap α, (entries.foldl (fun m e => m.insert e.1 e.2) m).get? x =
      (((entries.filter fun e => e.1 = x).map (·.2)).getLast?).or (m.get? x) := by
    induction entries with
    | nil => simp
    | cons e es ih =>
      intro m
      rw [List.foldl_cons, ih, get?_insert, List.filter_cons]
      by_cases hx : x = e.1
      · subst hx
        simp [List.getLast?_cons]
      · simp [hx, Ne.symm hx]
  rw [ofList, hfold, get?_empty, Option.or_none]

theorem isEmpty_iff (m : NameMap α) : m.isEmpty ↔ ∀ x, m.get? x = none := by
  obtain ⟨es, h⟩ := m
  cases es with
  | nil => simp [isEmpty, get?]
  | cons e es =>
    simp only [isEmpty, List.isEmpty_cons, Bool.false_eq_true, false_iff, not_forall]
    exact ⟨e.1, by simp [get?, lookup_cons_eq]⟩

theorem isEmpty_ofList (entries : List (String × α)) :
    (ofList entries).isEmpty = entries.isEmpty := by
  cases entries with
  | nil => rfl
  | cons e es =>
    rw [List.isEmpty_cons, Bool.eq_false_iff, ne_eq, isEmpty_iff]
    intro h
    have hx := h e.1
    rw [get?_ofList, List.getLast?_eq_none_iff, List.map_eq_nil_iff, List.filter_eq_nil_iff] at hx
    exact hx e List.mem_cons_self (by simp)

/-- Entries computed from the elements of a list are found under the names of the elements. -/
theorem get?_ofList_filterMap {β : Type} (name : β → String) (f : β → Option α) (l : List β)
    (x : String) :
    (ofList (l.filterMap fun b => (f b).map (name b, ·))).get? x =
      ((l.filter fun b => name b = x).filterMap f).getLast? := by
  have hsame : ((l.filterMap fun b => (f b).map (name b, ·)).filter fun e => e.1 = x).map (·.2) =
      (l.filter fun b => name b = x).filterMap f := by
    induction l with
    | nil => rfl
    | cons b l ih =>
      cases hf : f b with
      | none => by_cases hx : name b = x <;> simp [hf, hx, ih]
      | some a => by_cases hx : name b = x <;> simp [hf, hx, ih]
  rw [get?_ofList, hsame]

private theorem lookup_eq_none {es : List (String × α)} {x : String} (h : ∀ e ∈ es, x < e.1) :
    es.lookup x = none := by
  rw [List.lookup_eq_none_iff]
  intro e he
  rw [bne_iff_ne]
  rintro rfl
  exact String.lt_irrefl _ (h e he)

private theorem eq_of_lookup {es fs : List (String × α)} (he : es.Pairwise fun a b => a.1 < b.1)
    (hf : fs.Pairwise fun a b => a.1 < b.1) (h : ∀ x, es.lookup x = fs.lookup x) : es = fs := by
  induction es generalizing fs with
  | nil =>
    cases fs with
    | nil => rfl
    | cons f fs => simpa [lookup_cons_eq] using h f.1
  | cons e es ih =>
    cases fs with
    | nil => simpa [lookup_cons_eq] using h e.1
    | cons f fs =>
      obtain ⟨hes, he'⟩ := List.pairwise_cons.mp he
      obtain ⟨hfs, hf'⟩ := List.pairwise_cons.mp hf
      -- The name that comes first on one side would be missing on the other.
      have hfirst : ∀ a b : String × α, ∀ as bs : List (String × α), (∀ c ∈ bs, b.1 < c.1) →
          (a :: as).lookup a.1 = (b :: bs).lookup a.1 → ¬ a.1 < b.1 := by
        intro a b as bs hbs hlookup hlt
        have hnone : (b :: bs).lookup a.1 = none := lookup_eq_none <|
          List.forall_mem_cons.mpr ⟨hlt, fun c hc => String.lt_trans hlt (hbs c hc)⟩
        rw [hnone] at hlookup
        simp [lookup_cons_eq] at hlookup
      have hname : e.1 = f.1 := String.le_antisymm
        (String.not_lt.mp (hfirst f e fs es hes (h f.1).symm))
        (String.not_lt.mp (hfirst e f es fs hfs (h e.1)))
      have hvalue : e.2 = f.2 := by simpa [lookup_cons_eq, hname] using h e.1
      have hrest : es = fs := by
        refine ih he' hf' fun x => ?_
        have hx := h x
        rw [lookup_cons_eq, lookup_cons_eq, ← hname] at hx
        by_cases hxe : x = e.1
        · rw [lookup_eq_none (hxe ▸ hes), lookup_eq_none (hxe ▸ hname ▸ hfs)]
        · rwa [if_neg hxe, if_neg hxe] at hx
      rw [hrest, Prod.ext hname hvalue]

theorem ext_get? {m n : NameMap α} (h : ∀ x, m.get? x = n.get? x) : m = n := by
  obtain ⟨es, he⟩ := m
  obtain ⟨fs, hf⟩ := n
  obtain rfl := eq_of_lookup he hf h
  rfl

/-- In ascending entries there is at most one of a name. -/
private theorem getLast?_filter {es : List (String × α)} (he : es.Pairwise fun a b => a.1 < b.1)
    (x : String) : ((es.filter fun e => e.1 = x).map (·.2)).getLast? = es.lookup x := by
  induction es with
  | nil => rfl
  | cons e es ih =>
    obtain ⟨hes, he⟩ := List.pairwise_cons.mp he
    rw [lookup_cons_eq, List.filter_cons]
    by_cases hx : x = e.1
    · subst hx
      have hnone : es.filter (fun f => f.1 = e.1) = [] := by
        rw [List.filter_eq_nil_iff]
        intro f hf hfe
        rw [decide_eq_true_eq] at hfe
        exact String.lt_irrefl _ (hfe ▸ hes f hf)
      simp [hnone]
    · rw [if_neg hx, if_neg (by simpa using Ne.symm hx), ih he]

theorem ofList_toList (m : NameMap α) : ofList m.toList = m :=
  ext_get? fun x => by rw [get?_ofList, getLast?_filter m.ascending, get?]

private theorem insertEntry_perm {name : String} {a : α} {es : List (String × α)}
    (h : name ∉ es.map (·.1)) : (insertEntry name a es).Perm ((name, a) :: es) := by
  induction es with
  | nil => exact .refl _
  | cons e es ih =>
    rw [List.map_cons, List.mem_cons, not_or] at h
    rw [insertEntry]
    split
    · exact .refl _
    · rw [if_neg h.1]
      exact ((ih h.2).cons e).trans (.swap _ _ es)

/-- Entries of different names are all kept. -/
theorem perm_ofList {entries : List (String × α)} (h : (entries.map (·.1)).Nodup) :
    (ofList entries).toList.Perm entries := by
  have hfold : ∀ m : NameMap α, (m.toList.map (·.1) ++ entries.map (·.1)).Nodup →
      (entries.foldl (fun m e => m.insert e.1 e.2) m).toList.Perm (m.toList ++ entries) := by
    clear h
    induction entries with
    | nil =>
      intro m _
      rw [List.foldl_nil, List.append_nil]
    | cons e es ih =>
      intro m hm
      rw [List.map_cons] at hm
      have hfresh : e.1 ∉ m.toList.map (·.1) := fun hmem =>
        (List.nodup_middle.mp hm).notMem (List.mem_append_left _ hmem)
      have hinsert : (m.insert e.1 e.2).toList.Perm (e :: m.toList) := insertEntry_perm hfresh
      have hnames : ((m.insert e.1 e.2).toList.map (·.1) ++ es.map (·.1)).Nodup :=
        (((hinsert.map (·.1)).append_right _).nodup_iff).mpr (List.nodup_middle.mp hm)
      rw [List.foldl_cons]
      exact (ih _ hnames).trans ((hinsert.append_right es).trans List.perm_middle.symm)
  exact hfold empty h

theorem nodup_keys (m : NameMap α) : m.keys.Nodup := by
  unfold keys List.Nodup
  rw [List.pairwise_map]
  refine m.ascending.imp fun {a b} hlt heq => ?_
  rw [heq] at hlt
  exact String.lt_irrefl _ hlt

private theorem mem_map_insertEntry {name x : String} {a : α} {es : List (String × α)} :
    x ∈ (insertEntry name a es).map (·.1) ↔ x = name ∨ x ∈ es.map (·.1) := by
  induction es with
  | nil => simp [insertEntry]
  | cons e es ih =>
    rw [insertEntry]
    split
    · simp
    · split
      · next hsame => simp [hsame]
      · rw [List.map_cons, List.mem_cons, ih, List.map_cons, List.mem_cons, or_left_comm]

/-- The keys are the names of the entries, each of them once. -/
theorem mem_keys_ofList {entries : List (String × α)} {x : String} :
    x ∈ (ofList entries).keys ↔ x ∈ entries.map (·.1) := by
  have hfold : ∀ m : NameMap α, x ∈ (entries.foldl (fun m e => m.insert e.1 e.2) m).keys ↔
      x ∈ entries.map (·.1) ∨ x ∈ m.keys := by
    induction entries with
    | nil => simp
    | cons e es ih =>
      intro m
      have hinsert : x ∈ (m.insert e.1 e.2).keys ↔ x = e.1 ∨ x ∈ m.keys := mem_map_insertEntry
      rw [List.foldl_cons, ih, hinsert, List.map_cons, List.mem_cons, or_left_comm, or_assoc]
  rw [ofList, hfold]
  simp [keys, empty]

/-- A map is determined by its entries, in whatever order. -/
theorem eq_of_perm {m n : NameMap α} (h : m.toList.Perm n.toList) : m = n := by
  obtain ⟨es, he⟩ := m
  obtain ⟨fs, hf⟩ := n
  obtain rfl : es = fs := by
    refine h.eq_of_pairwise (fun a b _ _ hab hba => ?_) he hf
    exact absurd (String.lt_trans hab hba) (String.lt_irrefl _)
  rfl

end ReleasePreview.NameMap
