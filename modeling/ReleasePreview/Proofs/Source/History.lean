import Mathlib.Data.Finset.Card
import Mathlib.Data.List.Induction
import Mathlib.Data.List.Nodup
import ReleasePreview.Source.Registry

/-!
A registry after any number of registrations: the ids stand in the order in which they came first,
and every id stands for the source that came last.
-/
namespace ReleasePreview

/-- The source that was registered last under an id. -/
def lastUnder (id : String) (history : List Source) : Option Source :=
  history.reverse.find? fun s => s.id = id

theorem lastUnder_concat (id : String) (history : List Source) (s : Source) :
    lastUnder id (history ++ [s]) = if s.id = id then some s else lastUnder id history := by
  rw [lastUnder, List.reverse_concat, List.find?_cons, lastUnder]
  by_cases h : s.id = id <;> simp [h]

theorem lastUnder_eq_none {id : String} {history : List Source} :
    lastUnder id history = none ↔ ∀ s ∈ history, s.id ≠ id := by
  simp [lastUnder]

namespace Registry

theorem map_id_place (s : Source) (ss : List Source) :
    (place s ss).map (·.id) =
      if s.id ∈ ss.map (·.id) then ss.map (·.id) else ss.map (·.id) ++ [s.id] := by
  induction ss with
  | nil => rfl
  | cons t ss ih =>
    rw [place]
    by_cases h : t.id = s.id
    · simp [h]
    · rw [if_neg h, List.map_cons, ih]
      by_cases hmem : s.id ∈ ss.map (·.id) <;> simp [hmem, Ne.symm h]

/-- An id that is there keeps its place. -/
theorem ids_register (r : Registry) (s : Source) :
    (r.register s).ids = if s.id ∈ r.ids then r.ids else r.ids ++ [s.id] :=
  map_id_place s r.sources

theorem find?_place (s : Source) (ss : List Source) (id : String) :
    (place s ss).find? (fun t => t.id = id) =
      if s.id = id then some s else ss.find? fun t => t.id = id := by
  induction ss with
  | nil => by_cases h : s.id = id <;> simp [place, h]
  | cons t ss ih =>
    rw [place]
    by_cases hplace : t.id = s.id
    · by_cases h : s.id = id <;> simp [hplace, h]
    · rw [if_neg hplace, List.find?_cons, List.find?_cons, ih]
      by_cases h : s.id = id
      · have ht : t.id ≠ id := h ▸ hplace
        simp [h, ht]
      · simp [h]

/-- The source put in stands for its id, and all others stay as they are. -/
theorem get?_register (r : Registry) (s : Source) (id : String) :
    (r.register s).get? id = if s.id = id then some s else r.get? id :=
  find?_place s r.sources id

/-- Where ids are told apart, each source is found by its own. -/
theorem map_get?_ids {r : Registry} (h : r.ids.Nodup) : r.ids.map r.get? = r.sources.map some := by
  rw [ids, List.map_map]
  refine List.map_congr_left fun s hs => ?_
  obtain ⟨t, ht⟩ : ∃ t, r.get? s.id = some t :=
    Option.isSome_iff_exists.mp (List.find?_isSome.mpr ⟨s, hs, by simp⟩)
  have hid : t.id = s.id := by simpa using List.find?_some ht
  rw [Function.comp_apply, ht, List.inj_on_of_nodup_map h (List.mem_of_find?_eq_some ht) hs hid]

/-- The registry that a history of registrations leaves. -/
def ofHistory (history : List Source) : Registry := history.foldl register empty

theorem ofHistory_concat (history : List Source) (s : Source) :
    ofHistory (history ++ [s]) = (ofHistory history).register s := by
  rw [ofHistory, List.foldl_append, List.foldl_cons, List.foldl_nil, ofHistory]

theorem get?_ofHistory (history : List Source) (id : String) :
    (ofHistory history).get? id = lastUnder id history := by
  induction history using List.reverseRecOn with
  | nil => rfl
  | append_singleton history s ih => rw [ofHistory_concat, get?_register, lastUnder_concat, ih]

theorem ids_ofHistory (history : List Source) :
    (ofHistory history).ids = (history.map (·.id)).eraseDups := by
  induction history using List.reverseRecOn with
  | nil => rfl
  | append_singleton history s ih =>
    rw [ofHistory_concat, ids_register, ih, List.map_append, List.eraseDups_append,
      List.map_singleton, List.removeAll]
    by_cases h : s.id ∈ history.map (·.id)
    · rw [if_pos (List.mem_eraseDups.mpr h), List.filter_cons_of_neg (by simpa using h)]
      simp
    · rw [if_neg (mt List.mem_eraseDups.mp h), List.filter_cons_of_pos (by simpa using h),
        List.filter_nil, List.eraseDups_cons]
      rfl

theorem nodup_ids_ofHistory (history : List Source) : (ofHistory history).ids.Nodup := by
  induction history using List.reverseRecOn with
  | nil => exact List.nodup_nil
  | append_singleton history s ih =>
    rw [ofHistory_concat, ids_register]
    split
    · exact ih
    · next h =>
      rw [← List.concat_eq_append]
      exact ih.concat h

theorem size_ofHistory (history : List Source) :
    (ofHistory history).size = (history.map (·.id)).toFinset.card := by
  have hsize : (ofHistory history).size = (ofHistory history).ids.length := by
    rw [size, ids, List.length_map]
  rw [hsize, ← List.toFinset_card_of_nodup (nodup_ids_ofHistory history)]
  congr 1
  ext id
  rw [List.mem_toFinset, List.mem_toFinset, ids_ofHistory, List.mem_eraseDups]

theorem getElem?_summaries {r : Registry} (h : r.ids.Nodup) {i : Nat} {id : String}
    (hi : r.ids[i]? = some id) :
    ∃ s, r.get? id = some s ∧ r.summaries[i]? = some ⟨id, s.label, .ofNat i⟩ := by
  rw [ids, List.getElem?_map, Option.map_eq_some_iff] at hi
  obtain ⟨s, hs, rfl⟩ := hi
  have hget : (r.ids.map r.get?)[i]? = some (some s) := by
    rw [map_get?_ids h, List.getElem?_map, hs, Option.map_some]
  rw [ids, List.map_map, List.getElem?_map, hs, Option.map_some, Option.some_inj] at hget
  refine ⟨s, hget, ?_⟩
  rw [summaries, List.getElem?_mapIdx, hs, Option.map_some]

/-- What a registry says of the registrations that made it. A priority is the number of sources
before, as far as such numbers go. -/
structure Records (r : Registry) (history : List Source) : Prop where
  ids : r.ids = (history.map (·.id)).eraseDups
  get : ∀ id, r.get? id = lastUnder id history
  unknown : ∀ id, r.get? id = none ↔ ∀ s ∈ history, s.id ≠ id
  sources : r.sources.map some = r.ids.map r.get?
  size : r.size = (history.map (·.id)).toFinset.card
  isEmpty : r.isEmpty ↔ history = []
  summaries_length : r.summaries.length = r.size
  summaries : ∀ (i : Nat) (id : String), r.ids[i]? = some id →
    ∃ s, lastUnder id history = some s ∧
      r.summaries[i]? = some { id := id, label := s.label, priority := .ofNat i }
  priority : ∀ (i : Nat) (x : SourceSummary), r.summaries[i]? = some x → i < UInt64.size →
    x.priority.toNat = i

/-- After any history of registrations, ids are told apart and keep the order in which they came
first, and whatever is asked about an id is answered by the source that came last under it. -/
theorem ofHistory_records (history : List Source) : (ofHistory history).Records history where
  ids := ids_ofHistory history
  get := get?_ofHistory history
  unknown id := by rw [get?_ofHistory, lastUnder_eq_none]
  sources := (map_get?_ids (nodup_ids_ofHistory history)).symm
  size := size_ofHistory history
  isEmpty := by
    rw [isEmpty, List.isEmpty_iff_length_eq_zero, ← size, size_ofHistory, Finset.card_eq_zero,
      List.toFinset_eq_empty_iff, List.map_eq_nil_iff]
  summaries_length := List.length_mapIdx
  summaries i id hi := by
    obtain ⟨s, hs, hsummary⟩ := getElem?_summaries (nodup_ids_ofHistory history) hi
    exact ⟨s, by rw [← get?_ofHistory, hs], hsummary⟩
  priority i x hx hi := by
    rw [Registry.summaries, List.getElem?_mapIdx, Option.map_eq_some_iff] at hx
    obtain ⟨s, -, rfl⟩ := hx
    exact UInt64.toNat_ofNat_of_lt hi

end Registry

end ReleasePreview
