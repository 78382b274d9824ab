import Mathlib.Data.Finset.Dedup
import Mathlib.Data.Multiset.Filter
import ReleasePreview.Proofs.Json.Whole
import ReleasePreview.Proofs.NameMap
import ReleasePreview.Proofs.Package.Version
import ReleasePreview.Source.Site

/-!
Which versions a listing of releases has. Of the members of the object only the names count, each of
them once, so nothing depends on the values or on the order of the members.
-/
namespace ReleasePreview.Releases

open Json

variable {members : List (String × Json)} {vs : List Version}

/-- The distinct names of members. -/
def names (members : List (String × Json)) : Finset String := (members.map (·.1)).toFinset

/-- Some member has a version for its name, spelled in whatever way. -/
def Named (members : List (String × Json)) (v : Version) : Prop :=
  ∃ m ∈ members, Version.parse? m.1 = some v

/-- The versions among the names, as often as they are spelled differently. -/
def versions (members : List (String × Json)) : Multiset Version :=
  (names members).val.filterMap Version.parse?

theorem mem_versions {v : Version} : v ∈ versions members ↔ Named members v := by
  simp only [versions, Multiset.mem_filterMap, Finset.mem_val, names, List.mem_toFinset,
    List.mem_map, Named]
  constructor
  · rintro ⟨_, ⟨m, hm, rfl⟩, hv⟩
    exact ⟨m, hm, hv⟩
  · rintro ⟨m, hm, hv⟩
    exact ⟨m.1, ⟨m, hm, rfl⟩, hv⟩

section Decoding

/-- A listing is an object that can be read whole. -/
theorem decode_eq_ok {node : Node} : decode node = .ok vs ↔
    ∃ members, node.read maxDepth = .ok (.object members) ∧
      (NameMap.ofList members).keys.filterMap Version.parse? = vs := by
  have hread : ∀ members, Decoder.members (fun value => checked (value.read (maxDepth - 1))) node =
      .ok members ↔ node.read maxDepth = .ok (.object members) := by
    intro members
    simp only [Decoder.members_eq_ok, checked_eq_ok, ← readMembers_eq_ok]
    exact read_eq_object.symm
  unfold decode
  simp only [bind_eq_ok, pure_eq_ok, hread]

theorem decodeText_eq_ok {raw : String} : decodeText decode raw = .ok vs ↔
    ∃ members, Holds raw (.object members) ∧
      (NameMap.ofList members).keys.filterMap Version.parse? = vs := by
  simp only [Json.decodeText_eq_ok, decode_eq_ok, Holds]
  constructor
  · rintro ⟨root, hroot, members, hread, hvs⟩
    exact ⟨members, ⟨root, hroot, hread⟩, hvs⟩
  · rintro ⟨members, ⟨root, hroot, hread⟩, hvs⟩
    exact ⟨root, hroot, members, hread, hvs⟩

/-- A repeated name counts once. -/
theorem coe_keys_ofList (members : List (String × Json)) :
    ((NameMap.ofList members).keys : Multiset String) = (names members).val := by
  have hnodup : ((NameMap.ofList members).keys : Multiset String).Nodup :=
    Multiset.coe_nodup.mpr (NameMap.nodup_keys _)
  rw [Multiset.Nodup.ext hnodup (names members).nodup]
  intro name
  rw [Multiset.mem_coe, NameMap.mem_keys_ofList, Finset.mem_val, names, List.mem_toFinset]

/-- A package site lists the versions of what it is answered with, or says why there are none. -/
theorem listing_eq_ok {raw : String} :
    PackageSite.listing raw = .ok vs ↔ decodeText decode raw = .ok vs := mapError_eq_ok

theorem listing_eq_error {raw : String} {e : BackendError} : PackageSite.listing raw = .error e ↔
    ∃ why, decodeText decode raw = .error why ∧ .malformedListing why = e := mapError_eq_error

theorem coe_filterMap_keys (members : List (String × Json)) :
    (((NameMap.ofList members).keys.filterMap Version.parse? : List Version) : Multiset Version) =
      versions members := by
  rw [← Multiset.filterMap_coe, coe_keys_ofList, versions]

end Decoding

section Latest

/-- In whatever order the versions of a listing come, the latest of them is the greatest one that a
member names. -/
theorem latest?_eq_some (hvs : (vs : Multiset Version) = versions members) {v : Version} :
    Version.latest? vs = some v ↔
      Named members v ∧ ∀ u, Named members u → u.rank ≤ v.rank := by
  have hmem : ∀ u, u ∈ vs ↔ Named members u := fun u => by
    rw [← mem_versions, ← hvs, Multiset.mem_coe]
  rw [Version.latest?_eq_some, Version.IsLatest, hmem]
  simp only [hmem]

theorem latest?_eq_none (hvs : (vs : Multiset Version) = versions members) :
    Version.latest? vs = none ↔ ∀ v, ¬ Named members v := by
  have hmem : ∀ u, u ∈ vs ↔ Named members u := fun u => by
    rw [← mem_versions, ← hvs, Multiset.mem_coe]
  rw [Version.latest?_eq_none, List.eq_nil_iff_forall_not_mem]
  simp only [hmem]

end Latest

/-- What a package site makes of a text is what the text decodes to, with the error passed on. A
text is a listing if it is an object that can be read. Its versions are those that the distinct
names of its members denote, and the latest of them is the greatest one named, whatever order the
versions come in. An object with the same names, in whatever order and with whatever values, lists
the same. -/
theorem decode_listing (raw : String) :
    ((∀ vs, PackageSite.listing raw = .ok vs ↔ decodeText decode raw = .ok vs) ∧
      ∀ e, PackageSite.listing raw = .error e ↔
        ∃ why, decodeText decode raw = .error why ∧ .malformedListing why = e) ∧
    ((∃ e, decodeText decode raw = .error e) ↔ ∀ members, ¬ Holds raw (.object members)) ∧
    ∀ members, Holds raw (.object members) → ∃ vs, decodeText decode raw = .ok vs ∧
      (vs : Multiset Version) = (names members).val.filterMap Version.parse? ∧
      (∀ listed : List Version, listed.Perm vs →
        (Version.latest? listed = none ↔ ∀ v, ¬ Named members v) ∧
        ∀ v, Version.latest? listed = some v ↔
          Named members v ∧ ∀ u, Named members u → u.rank ≤ v.rank) ∧
      ∀ raw' members', Holds raw' (.object members') → names members' = names members →
        ∃ vs', decodeText decode raw' = .ok vs' ∧ vs'.Perm vs := by
  have hdecoded : ∀ {raw members}, Holds raw (.object members) →
      ∃ vs, decodeText decode raw = .ok vs ∧ (vs : Multiset Version) = versions members :=
    fun h => ⟨_, decodeText_eq_ok.mpr ⟨_, h, rfl⟩, coe_filterMap_keys _⟩
  refine ⟨⟨fun vs => listing_eq_ok, fun e => listing_eq_error⟩, ?_, ?_⟩
  · constructor
    · rintro ⟨e, he⟩ members h
      obtain ⟨vs, hvs, -⟩ := hdecoded h
      rw [he] at hvs
      contradiction
    · intro hnone
      cases hdecode : decodeText decode raw with
      | error e => exact ⟨e, rfl⟩
      | ok vs =>
        obtain ⟨members, h, -⟩ := decodeText_eq_ok.mp hdecode
        exact absurd h (hnone members)
  · intro members h
    obtain ⟨vs, hvs, hversions⟩ := hdecoded h
    refine ⟨vs, hvs, hversions, fun listed hperm => ?_, fun raw' members' h' hnames => ?_⟩
    · have hlisted : (listed : Multiset Version) = versions members :=
        (Multiset.coe_eq_coe.mpr hperm).trans hversions
      exact ⟨latest?_eq_none hlisted, fun v => latest?_eq_some hlisted⟩
    · obtain ⟨vs', hvs', hversions'⟩ := hdecoded h'
      have hsame : versions members' = versions members := by
        unfold versions
        rw [hnames]
      exact ⟨vs', hvs', Multiset.coe_eq_coe.mp (hversions'.trans (hsame.trans hversions.symm))⟩

end ReleasePreview.Releases
