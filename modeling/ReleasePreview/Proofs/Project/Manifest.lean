import Mathlib.Logic.Relation
import ReleasePreview.Project.Json
import ReleasePreview.Proofs.Json.Whole
import ReleasePreview.Proofs.NameMap
import ReleasePreview.Proofs.Package.Name
import ReleasePreview.Proofs.Package.Version

/-!
The values that are manifests: what each kind of project is read from, and that neither the order
of members and headings nor members of other names have a bearing on it.
-/
namespace ReleasePreview

open Json

/-- A string with one slash in it and something on either side. -/
def PackageName.Stands (j : Json) (p : PackageName) : Prop :=
  j = .string (p.author ++ "/" ++ p.project)

/-- A string of three numerals with dots between them. -/
def Version.Stands (j : Json) (v : Version) : Prop :=
  ∃ s a b c, j = .string s ∧ Version.Spells s a b c ∧ Version.Denoted a b c v

/-- A list of names, or such a list under each heading. -/
inductive ExposedModules.Stands : Json → ExposedModules → Prop
  | list (names : List String) : Stands (.strings names) (.list names)
  | grouped {groups : List (String × List String)} {m : NameMap (List String)}
      (h : m.toList.Perm groups) :
      Stands (.object (groups.map fun g => (g.1, .strings g.2))) (.grouped m)

/-- The names in a value of exposed modules: those of a list in order, those of groups by ascending
headings. -/
inductive ExposedModules.Lists : Json → List String → Prop
  | list (names : List String) : Lists (.strings names) names
  | grouped {groups sorted : List (String × List String)} (h : sorted.Perm groups)
      (ascending : sorted.Pairwise fun a b => a.1 < b.1) :
      Lists (.object (groups.map fun g => (g.1, .strings g.2))) (sorted.flatMap (·.2))

structure PackageManifest.Stands (members : List (String × Json)) (m : PackageManifest) : Prop where
  name : Has PackageName.Stands members "name" m.name
  summary : HasOr "" (fun j s => j = .string s) members "summary" m.summary
  version : Has Version.Stands members "version" m.version
  exposedModules :
    HasOr (.list []) ExposedModules.Stands members "exposed-modules" m.exposedModules

inductive Manifest.Stands (members : List (String × Json)) : Manifest → Prop
  | package {m : PackageManifest} (type : ("type", .string "package") ∈ members)
      (h : PackageManifest.Stands members m) : Stands members (.package m)
  | application {directories : List String} (type : ("type", .string "application") ∈ members)
      (h : HasOr [] (fun j ss => j = .strings ss) members "source-directories" directories) :
      Stands members (.application directories)

/-- The members of an object come in another order, or the headings of the exposed modules do. -/
inductive Manifest.Rearranges : List (String × Json) → List (String × Json) → Prop
  | members {members members' : List (String × Json)} (h : members.Perm members') :
      Rearranges members members'
  | headings (before : List (String × Json)) {groups groups' : List (String × Json)}
      (h : groups.Perm groups') (after : List (String × Json)) :
      Rearranges (before ++ ("exposed-modules", .object groups) :: after)
        (before ++ ("exposed-modules", .object groups') :: after)

/-- The text of an object. Neither its members nor the headings of exposed modules repeat a name. -/
structure Manifest.IsObject (s : String) (members : List (String × Json)) : Prop where
  text : Holds s (.object members)
  names : (members.map (·.1)).Nodup
  headings : ∀ groups, ("exposed-modules", .object groups) ∈ members → (groups.map (·.1)).Nodup

/-- A package stands on the members of four names. -/
theorem PackageManifest.stands_congr {members members' : List (String × Json)}
    (h : ∀ name ∈ ["name", "summary", "version"], ∀ j, (name, j) ∈ members ↔ (name, j) ∈ members')
    {p : PackageManifest}
    (hexposed :
      HasOr (.list []) ExposedModules.Stands members "exposed-modules" p.exposedModules ↔
        HasOr (.list []) ExposedModules.Stands members' "exposed-modules" p.exposedModules) :
    PackageManifest.Stands members p ↔ PackageManifest.Stands members' p := by
  have hname : Has PackageName.Stands members "name" p.name ↔
      Has PackageName.Stands members' "name" p.name := has_congr (h "name" (by decide))
  have hsummary : HasOr "" (fun j s => j = .string s) members "summary" p.summary ↔
      HasOr "" (fun j s => j = .string s) members' "summary" p.summary :=
    hasOr_congr (h "summary" (by decide))
  have hversion : Has Version.Stands members "version" p.version ↔
      Has Version.Stands members' "version" p.version := has_congr (h "version" (by decide))
  constructor
  · rintro ⟨hn, hs, hv, he⟩
    exact ⟨hname.mp hn, hsummary.mp hs, hversion.mp hv, hexposed.mp he⟩
  · rintro ⟨hn, hs, hv, he⟩
    exact ⟨hname.mpr hn, hsummary.mpr hs, hversion.mpr hv, hexposed.mpr he⟩

theorem PackageName.decode_ofJson {j : Json} {p : PackageName} :
    PackageName.decode (Node.ofJson j) = .ok p ↔ PackageName.Stands j p := by
  simp only [decode, Decoder.parsed_ofJson, parse_eq_ok, exists_eq_right, Stands]

theorem Version.decode_ofJson {j : Json} {v : Version} :
    Version.decode (Node.ofJson j) = .ok v ↔ Version.Stands j v := by
  simp only [decode, Decoder.parsed_ofJson, parse_eq_ok, parse?_eq_some, Stands, exists_and_left]

namespace ExposedModules

theorem groups_ofJson {j : Json} {groups : List (String × List String)} :
    Decoder.members (.list .string) (Node.ofJson j) = .ok groups ↔
      j = .object (groups.map fun g => (g.1, .strings g.2)) :=
  Decoder.members_ofJson fun _ _ => Decoder.strings_ofJson

theorem ofJson_eq_ok {j : Json} {e : ExposedModules} : ofJson j = .ok e ↔
    (∃ names, j = .strings names ∧ e = .list names) ∨
    ∃ groups, j = .object (groups.map fun g => (g.1, .strings g.2)) ∧
      e = .grouped (.ofList groups) := by
  simp only [← Decoder.strings_ofJson, ← groups_ofJson, ofJson]
  cases hnames : Decoder.list .string (Node.ofJson j) with
  | ok names =>
    -- A list is no object, so there are no groups.
    obtain rfl := Decoder.strings_ofJson.mp hnames
    have hgroups : ∀ groups, Decoder.members (.list .string) (Node.ofJson (.strings names)) ≠
        .ok groups := fun groups h => nomatch groups_ofJson.mp h
    simp [hgroups, eq_comm]
  | error e =>
    cases hgroups : Decoder.members (.list .string) (Node.ofJson j) <;> simp [eq_comm]

theorem decode_ofJson {j : Json} (hread : (Node.ofJson j).read maxDepth = .ok j)
    (hheadings : ∀ groups, j = .object groups → (groups.map (·.1)).Nodup) {e : ExposedModules} :
    ExposedModules.decode (Node.ofJson j) = .ok e ↔ ExposedModules.Stands j e := by
  rw [decode, hread, checked_ok, ok_bind, ofJson_eq_ok]
  constructor
  · rintro (⟨names, rfl, rfl⟩ | ⟨groups, rfl, rfl⟩)
    · exact .list names
    · have hnames := hheadings _ rfl
      rw [List.map_map] at hnames
      exact .grouped (NameMap.perm_ofList hnames)
  · rintro (names | @⟨groups, m, hperm⟩)
    · exact .inl ⟨names, rfl, rfl⟩
    · have hnames := hheadings _ rfl
      rw [List.map_map] at hnames
      have hsame : m = .ofList groups :=
        NameMap.eq_of_perm (hperm.trans (NameMap.perm_ofList hnames).symm)
      exact .inr ⟨groups, rfl, by rw [hsame]⟩

end ExposedModules

theorem ProjectKind.decode_eq_ok {node : Node} {k : ProjectKind} :
    ProjectKind.decode node = .ok k ↔ node = .string (.ok k.text) := by
  have hlookup : ∀ name, (all.map fun k => (k.text, k)).lookup name = some k ↔ name = k.text := by
    intro name
    rcases eq_or_ne name "package" with rfl | hpackage
    · cases k <;> decide
    rcases eq_or_ne name "application" with rfl | happlication
    · cases k <;> decide
    · refine iff_of_false ?_ (by cases k <;> assumption)
      simp [all, text, List.lookup_cons, beq_eq_false_iff_ne.mpr hpackage,
        beq_eq_false_iff_ne.mpr happlication]
  cases node with
  | string value =>
    simp only [decode, bind_eq_ok, checked_eq_ok, Decoder.variant_eq_ok, hlookup,
      Node.string.injEq, exists_eq_right]
  | _ => simp [decode, mismatch_ne_ok]

namespace Manifest

/-- The members beside the kind. -/
def beside (members : List (String × Json)) : List (String × Json) :=
  members.filter fun m => m.1 ≠ "type"

section Splitting

variable {kind : Option ProjectKind} {k : ProjectKind} {read rest members : List (String × Json)}
  {ms : List Member}

theorem splitMembers_of_notMem (h : readMembers innerDepth ms = .ok members)
    (hnot : "type" ∉ members.map (·.1)) :
    splitMembers kind read ms = .ok (kind, read ++ members) := by
  induction ms generalizing read members with
  | nil =>
    obtain rfl := Except.ok.inj h
    rw [splitMembers, List.append_nil]
  | cons m ms ih =>
    obtain ⟨name?, node⟩ := m
    obtain ⟨name, j, rest, rfl, hj, hrest, rfl⟩ := readMembers_cons_eq_ok.mp h
    rw [List.map_cons, List.mem_cons, not_or] at hnot
    rw [splitMembers, checked_ok, ok_bind, if_neg (Ne.symm hnot.1), hj, checked_ok, ok_bind,
      ih hrest hnot.2, List.append_assoc, List.singleton_append]

/-- The kind is taken out of the members, and the others are kept in their order. -/
theorem splitMembers_eq_ok (h : readMembers innerDepth ms = .ok members)
    (hnames : (members.map (·.1)).Nodup) :
    splitMembers none read ms = .ok (some k, rest) ↔
      ("type", .string k.text) ∈ members ∧
        rest = read ++ beside members := by
  induction ms generalizing read members with
  | nil =>
    obtain rfl := Except.ok.inj h
    simp [splitMembers]
  | cons m ms ih =>
    obtain ⟨name?, node⟩ := m
    obtain ⟨name, j, others, rfl, hj, hothers, rfl⟩ := readMembers_cons_eq_ok.mp h
    obtain ⟨hname, hnames⟩ := List.nodup_cons.mp hnames
    by_cases htype : name = "type"
    · subst htype
      have hothers_type : ∀ m ∈ others, m.1 ≠ "type" := fun m hmem heq =>
        hname (List.mem_map.mpr ⟨m, hmem, heq⟩)
      have hothers_kind : ("type", Json.string k.text) ∉ others := fun hmem =>
        hothers_type _ hmem rfl
      have hbeside : beside (("type", j) :: others) = others :=
        (List.filter_cons_of_neg (by simp)).trans
          (List.filter_eq_self.mpr fun m hm => decide_eq_true (hothers_type m hm))
      have hkind : ProjectKind.decode node = .ok k ↔ .string k.text = j := by
        rw [ProjectKind.decode_eq_ok, ← read_eq_string, hj, Except.ok.injEq, eq_comm]
      simp only [splitMembers, checked_ok, ok_bind, if_true, Option.isSome_none,
        Bool.false_eq_true, if_false, bind_eq_ok, splitMembers_of_notMem hothers hname,
        Except.ok.injEq, Prod.mk.injEq, Option.some_inj, hbeside, List.mem_cons, hothers_kind,
        or_false, true_and, ← hkind]
      constructor
      · rintro ⟨k, hk, rfl, rfl⟩
        exact ⟨hk, rfl⟩
      · rintro ⟨hk, rfl⟩
        exact ⟨k, hk, rfl, rfl⟩
    · have hbeside : beside ((name, j) :: others) = (name, j) :: beside others :=
        List.filter_cons_of_pos (by simpa using htype)
      have hkind : ("type", Json.string k.text) ∈ (name, j) :: others ↔
          ("type", Json.string k.text) ∈ others := by
        simp [Ne.symm htype]
      rw [splitMembers, checked_ok, ok_bind, if_neg htype, hj, checked_ok, ok_bind,
        ih hothers hnames, hbeside, hkind, List.append_assoc, List.singleton_append]

end Splitting

section Kinds

variable {members : List (String × Json)} {s : String} {name : String}

theorem mem_beside (hname : name ≠ "type") {j : Json} :
    (name, j) ∈ beside members ↔ (name, j) ∈ members := by
  simp [beside, hname]

theorem nodup_beside (h : (members.map (·.1)).Nodup) : ((beside members).map (·.1)).Nodup :=
  h.sublist (List.filter_sublist.map _)

theorem decodeKind_package {m : Manifest} (hnames : (members.map (·.1)).Nodup)
    (hexposed : ∀ j, ("exposed-modules", j) ∈ members → ∀ e,
      ExposedModules.decode (Node.ofJson j) = .ok e ↔ ExposedModules.Stands j e) :
    decodeKind .package (.ofJson (.object members)) = .ok m ↔
      ∃ p, PackageManifest.Stands members p ∧ m = .package p := by
  have hname := fun j (_ : ("name", j) ∈ members) => @PackageName.decode_ofJson j
  have hsummary := fun j (_ : ("summary", j) ∈ members) => @Decoder.string_ofJson j
  have hversion := fun j (_ : ("version", j) ∈ members) => @Version.decode_ofJson j
  simp only [decodeKind, decodeFields, Node.ofJson]
  rw [decode_ofMembers_eq_ok (by decide)]
  simp only [packageFields, Fields.required, Fields.optional, Fields.Filled,
    required_ofMembers hnames hname, optional_ofMembers hnames hsummary,
    required_ofMembers hnames hversion, optional_ofMembers hnames hexposed, Prod.exists]
  constructor
  · rintro ⟨name, summary, version, exposed, -, ⟨hname, hsummary, hversion, hexposed, -⟩, rfl⟩
    exact ⟨_, ⟨hname, hsummary, hversion, hexposed⟩, rfl⟩
  · rintro ⟨p, ⟨hname, hsummary, hversion, hexposed⟩, rfl⟩
    exact ⟨_, _, _, _, (), ⟨hname, hsummary, hversion, hexposed, trivial⟩, rfl⟩

theorem decodeKind_application {m : Manifest} (hnames : (members.map (·.1)).Nodup) :
    decodeKind .application (.ofJson (.object members)) = .ok m ↔
      ∃ directories,
        HasOr [] (fun j ss => j = .strings ss) members "source-directories" directories ∧
          m = .application directories := by
  have hdirectories := fun j (_ : ("source-directories", j) ∈ members) =>
    @Decoder.strings_ofJson j
  simp only [decodeKind, decodeFields, Node.ofJson]
  rw [decode_ofMembers_eq_ok (by decide)]
  simp only [applicationFields, Fields.optional, Fields.Filled,
    optional_ofMembers hnames hdirectories, Prod.exists]
  constructor
  · rintro ⟨directories, -, ⟨hdirectories, -⟩, rfl⟩
    exact ⟨directories, hdirectories, rfl⟩
  · rintro ⟨directories, hdirectories, rfl⟩
    exact ⟨directories, (), ⟨hdirectories, trivial⟩, rfl⟩

theorem decode_object {ms : List Member} (h : readMembers innerDepth ms = .ok members)
    (hnames : (members.map (·.1)).Nodup) {m : Manifest} :
    Manifest.decode (.object ms .closed) = .ok m ↔ ∃ k : ProjectKind,
      ("type", .string k.text) ∈ members ∧
        decodeKind k (.ofJson (.object (beside members))) = .ok m := by
  simp only [Manifest.decode, bind_eq_ok, checked_eq_ok, require_eq_ok, objectError?_eq_none]
  constructor
  · rintro ⟨⟨kind, rest⟩, hsplit, -, -, hkind⟩
    cases kind with
    | none => contradiction
    | some k =>
      obtain ⟨htype, rfl⟩ := (splitMembers_eq_ok h hnames).mp hsplit
      exact ⟨k, htype, hkind⟩
  · rintro ⟨k, htype, hkind⟩
    exact ⟨_, (splitMembers_eq_ok h hnames).mpr ⟨htype, rfl⟩, (), trivial, hkind⟩

theorem decodeText_eq_ok (h : IsObject s members) {m : Manifest} :
    decodeText Manifest.decode s = .ok m ↔ Stands members m := by
  obtain ⟨root, hdocument, hread⟩ := h.text
  obtain ⟨ms, rfl, hmembers⟩ := read_eq_object.mp (show root.read (innerDepth + 1) = _ from hread)
  have hexposed : ∀ j, ("exposed-modules", j) ∈ beside members → ∀ e,
      ExposedModules.decode (Node.ofJson j) = .ok e ↔ ExposedModules.Stands j e := by
    intro j hmem e
    have hmem' := (mem_beside (by decide)).mp hmem
    refine ExposedModules.decode_ofJson ?_ ?_
    · exact read_of_mem_members (Nat.sub_le _ _) hmembers _ hmem'
    · rintro groups rfl
      exact h.headings groups hmem'
  have hbeside : ∀ {p}, PackageManifest.Stands (beside members) p ↔
      PackageManifest.Stands members p := PackageManifest.stands_congr
    (fun name hname j => mem_beside (by rintro rfl; exact absurd hname (by decide)))
    (hasOr_congr fun j => mem_beside (by decide))
  have hdirectories_beside : ∀ {ss}, HasOr [] (fun j ss => j = .strings ss) (beside members)
      "source-directories" ss ↔ HasOr [] (fun j ss => j = .strings ss) members
        "source-directories" ss := hasOr_congr fun j => mem_beside (by decide)
  rw [decodeText_of_document Manifest.decode hdocument, decode_object hmembers h.names]
  constructor
  · rintro ⟨_ | _, htype, hkind⟩
    · obtain ⟨p, hp, rfl⟩ := (decodeKind_package (nodup_beside h.names) hexposed).mp hkind
      exact .package htype (hbeside.mp hp)
    · obtain ⟨directories, hdirectories, rfl⟩ :=
        (decodeKind_application (nodup_beside h.names)).mp hkind
      exact .application htype (hdirectories_beside.mp hdirectories)
  · rintro (⟨htype, hp⟩ | ⟨htype, hdirectories⟩)
    · exact ⟨.package, htype, (decodeKind_package (nodup_beside h.names) hexposed).mpr
        ⟨_, hbeside.mpr hp, rfl⟩⟩
    · exact ⟨.application, htype, (decodeKind_application (nodup_beside h.names)).mpr
        ⟨_, hdirectories_beside.mpr hdirectories, rfl⟩⟩

end Kinds

section Rearranging

variable {members members' : List (String × Json)} {groups groups' : List (String × Json)}

theorem exposedModules_perm (h : groups.Perm groups') {e : ExposedModules}
    (he : ExposedModules.Stands (.object groups) e) :
    ExposedModules.Stands (.object groups') e := by
  generalize hj : Json.object groups = j at he
  cases he with
  | list => contradiction
  | @grouped lists m hm =>
    obtain rfl := Json.object.inj hj
    have hpaired : List.Forall₂ (fun member g => member = (g.1, Json.strings g.2))
        (lists.map fun g => (g.1, Json.strings g.2)) lists :=
      List.forall₂_map_left_iff.mpr (List.forall₂_same.mpr fun _ _ => rfl)
    obtain ⟨lists', hpaired', hperm⟩ := List.perm_comp_forall₂ h.symm hpaired
    rw [Decoder.eq_map_of_forall₂ hpaired']
    exact .grouped (hm.trans hperm.symm)

theorem exposedModules_headings (h : groups.Perm groups') (before after : List (String × Json))
    {e : ExposedModules}
    (he : HasOr (.list []) ExposedModules.Stands
      (before ++ ("exposed-modules", .object groups) :: after) "exposed-modules" e) :
    HasOr (.list []) ExposedModules.Stands
      (before ++ ("exposed-modules", .object groups') :: after) "exposed-modules" e := by
  obtain ⟨j, hmem, hstands⟩ | ⟨hnone, -⟩ := he
  · rcases List.mem_append.mp hmem with hbefore | hrest
    · exact .inl ⟨j, List.mem_append_left _ hbefore, hstands⟩
    · rcases List.mem_cons.mp hrest with heq | hafter
      · obtain ⟨-, rfl⟩ := Prod.mk.inj heq
        exact .inl ⟨_, List.mem_append_right _ List.mem_cons_self, exposedModules_perm h hstands⟩
      · exact .inl ⟨j, List.mem_append_right _ (List.mem_cons_of_mem _ hafter), hstands⟩
  · exact absurd (List.mem_append_right _ List.mem_cons_self) (hnone _)

theorem stands_congr
    (h : ∀ name ≠ "exposed-modules", ∀ j, (name, j) ∈ members ↔ (name, j) ∈ members')
    (hexposed : ∀ e, HasOr (.list []) ExposedModules.Stands members "exposed-modules" e ↔
      HasOr (.list []) ExposedModules.Stands members' "exposed-modules" e) {m : Manifest} :
    Stands members m ↔ Stands members' m := by
  have hpackage : ∀ p, PackageManifest.Stands members p ↔ PackageManifest.Stands members' p :=
    fun p => PackageManifest.stands_congr
      (fun name hname => h name (by rintro rfl; exact absurd hname (by decide))) (hexposed _)
  have hdirectories : ∀ ss, HasOr [] (fun j ss => j = .strings ss) members
      "source-directories" ss ↔ HasOr [] (fun j ss => j = .strings ss) members'
        "source-directories" ss := fun _ => hasOr_congr (h _ (by decide))
  constructor
  · rintro (⟨htype, hp⟩ | ⟨htype, hss⟩)
    · exact .package ((h _ (by decide) _).mp htype) ((hpackage _).mp hp)
    · exact .application ((h _ (by decide) _).mp htype) ((hdirectories _).mp hss)
  · rintro (⟨htype, hp⟩ | ⟨htype, hss⟩)
    · exact .package ((h _ (by decide) _).mpr htype) ((hpackage _).mpr hp)
    · exact .application ((h _ (by decide) _).mpr htype) ((hdirectories _).mpr hss)

theorem stands_of_rearranges (h : Relation.EqvGen Rearranges members members') (m : Manifest) :
    Stands members m ↔ Stands members' m := by
  induction h with
  | rel _ _ h =>
    cases h with
    | members h =>
      exact stands_congr (fun _ _ _ => h.mem_iff) fun _ => hasOr_congr fun _ => h.mem_iff
    | headings before h after =>
      refine stands_congr (fun name hname j => ?_) fun e =>
        ⟨exposedModules_headings h before after, exposedModules_headings h.symm before after⟩
      simp [hname]
  | refl => exact Iff.rfl
  | symm _ _ _ ih => exact ih.symm
  | trans _ _ _ _ _ ih ih' => exact ih.trans ih'

end Rearranging

/-- An object is a manifest if it has the members of a package or those of an application, and then
it is what these stand for. The names of the modules exposed are in the order of a list or that of
the headings, so rearranging an object makes no other manifest of it. -/
theorem decode_shapes {s : String} {members : List (String × Json)} (h : IsObject s members) :
    (∀ m, decodeText Manifest.decode s = .ok m ↔ Stands members m) ∧
    (∀ p, decodeText Manifest.decode s = .ok (.package p) →
      HasOr [] ExposedModules.Lists members "exposed-modules" p.exposedModules.names) ∧
    ∀ s' members', IsObject s' members' → Relation.EqvGen Rearranges members members' →
      ∀ m, decodeText Manifest.decode s' = .ok m ↔ decodeText Manifest.decode s = .ok m := by
  refine ⟨fun m => decodeText_eq_ok h, fun p hp => ?_, fun s' members' h' hrearranges m => ?_⟩
  · cases (decodeText_eq_ok h).mp hp with
    | package _ hstands =>
      obtain ⟨j, hmem, hexposed⟩ | ⟨hnone, habsent⟩ := hstands.exposedModules
      · refine .inl ⟨j, hmem, ?_⟩
        generalize p.exposedModules = exposed at hexposed
        cases hexposed with
        | list names => exact .list names
        | @grouped groups sorted hperm => exact .grouped hperm sorted.ascending
      · exact .inr ⟨hnone, by rw [habsent, ExposedModules.names]⟩
  · rw [decodeText_eq_ok h', decodeText_eq_ok h, stands_of_rearranges hrearranges]

/-- A package with its members out of order, one of no meaning among them, and headings that are
not in order either. -/
theorem decode_shapes_headings :
    let text := "\x7b\"version\":\"1.0.0\",\"license\":null,\"exposed-modules\":" ++
      "\x7b\"B\":[\"Y\"],\"A\":[\"X\",\"Z\"]\x7d,\"name\":\"a/p\",\"type\":\"package\"\x7d"
    let members : List (String × Json) := [("version", .string "1.0.0"), ("license", .null),
      ("exposed-modules", .object [("B", .strings ["Y"]), ("A", .strings ["X", "Z"])]),
      ("name", .string "a/p"), ("type", .string "package")]
    IsObject text members ∧ ∃ p, decodeText Manifest.decode text = .ok (.package p) ∧
      p.exposedModules.names = ["X", "Z", "Y"] := by
  intro text members
  have hstrings : ∀ ss, (Json.strings ss).Exact := fun ss => (Decoder.Reads.strings ss).exact
  have hgroups : (Json.object [("B", .strings ["Y"]), ("A", .strings ["X", "Z"])]).Exact :=
    .object (by simp [hstrings])
  have hexact : (Json.object members).Exact :=
    .object (by simp [members, hgroups, Json.Exact.string, Json.Exact.null])
  have htext : text = compactText (.object members) := by decide +kernel
  have hobject : IsObject text members := by
    refine ⟨⟨Node.ofJson (.object members), ?_, ?_⟩, by decide, ?_⟩
    · rw [htext, compactText, String.toList_ofList, ← List.append_nil (write _ _ _)]
      exact document_write Layout.compact_isBlank hexact (List.forall_mem_nil _)
    · rfl
    · intro groups hgroups
      obtain rfl : groups = [("B", .strings ["Y"]), ("A", .strings ["X", "Z"])] := by
        simpa [members] using hgroups
      decide
  let p : PackageManifest :=
    { name := ⟨"a", "p", by decide, by decide⟩
      version := ⟨1, 0, 0⟩
      exposedModules := .grouped ⟨[("A", ["X", "Z"]), ("B", ["Y"])], by decide⟩ }
  have hversion : Version.Stands (.string "1.0.0") p.version := by
    obtain ⟨a, b, c, hspells, hdenoted⟩ :=
      Version.parse?_eq_some.mp (Version.parse?_text ⟨1, 0, 0⟩)
    exact ⟨"1.0.0", a, b, c, rfl, hspells, hdenoted⟩
  have hexposed : ExposedModules.Stands
      (.object [("B", .strings ["Y"]), ("A", .strings ["X", "Z"])]) p.exposedModules :=
    @ExposedModules.Stands.grouped [("B", ["Y"]), ("A", ["X", "Z"])] _ (.swap _ _ [])
  have hp : Stands members (.package p) :=
    .package (by simp [members]) ⟨⟨.string "a/p", by simp [members], rfl⟩,
      .inr ⟨by simp [members], rfl⟩, ⟨_, by simp [members], hversion⟩,
      .inl ⟨_, by simp [members], hexposed⟩⟩
  obtain ⟨haccepts, -, -⟩ := decode_shapes hobject
  exact ⟨hobject, p, (haccepts _).mpr hp, rfl⟩

end Manifest

end ReleasePreview
