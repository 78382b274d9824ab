import ReleasePreview.Proofs.Source.CachePaths

/-!
What is listed of a package, and what is found of it. A version is listed for every directory whose
name is read as it, but its files are looked for under the one name that it is written as, links
followed.
-/
namespace ReleasePreview

namespace FileTree

variable {t : FileTree} {d directory : Place} {name path : String}

theorem mem_children {node : FileNode} (h : t.node? (d ++ [name]) = some node) :
    name ∈ t.children d := by
  unfold node? at h
  rw [if_neg (by simp), List.lookup_eq_some_iff] at h
  obtain ⟨before, behind, hnodes, -⟩ := h
  unfold children
  rw [List.mem_filterMap]
  exact ⟨(d ++ [name], node), by simp [hnodes], by simp⟩

theorem list_eq_ok {entries : List (String × FileNode)} : t.list directory path = .ok entries ↔
    ∃ d, t.resolve directory path true = .ok d ∧ t.node? d = some .directory ∧
      (t.children d).filterMap (fun name => (t.node? (d ++ [name])).map (name, ·)) = entries := by
  unfold list
  cases t.resolve directory path true with
  | error e => simp [bind, Except.bind]
  | ok d =>
    cases hd : t.node? d with
    | none => simp [bind, Except.bind, hd]
    | some node => cases node <;> simp [bind, Except.bind, hd, pure, Except.pure]

/-- The way to a name joined to a path, from the directory where the way to the path begins. -/
theorem follow_join (base : String) (h : Path.IsPart name) (followLast : Bool) :
    t.follow directory (Path.join base name) followLast =
      t.walk followLast maxLinks (if Path.isAbsolute base then [] else directory)
        (Path.parts base ++ [name]) := by
  have hfull : ¬ (Path.join base name).isEmpty := by
    intro hempty
    have hparts := Path.parts_join base h
    rw [String.isEmpty_iff.mp hempty] at hparts
    exact absurd hparts.symm (by simp [Path.parts, Text.split])
  unfold follow
  rw [if_neg hfull, Path.names_join base h, Path.isAbsolute_join base h]

/-- A directory whose name is read as a version. -/
structure Spells (t : FileTree) (d : Place) (name : String) (v : Version) : Prop where
  directory : t.node? (d ++ [name]) = some .directory
  version : Version.parse? name = some v

theorem spells_text {v : Version} :
    t.Spells d v.text v ↔ t.node? (d ++ [v.text]) = some .directory :=
  ⟨Spells.directory, fun h => ⟨h, Version.parse?_text v⟩⟩

end FileTree

namespace PackageCache

open FileTree

/-- The directory with the versions of a package. -/
structure Keeps (c : PackageCache) (w : Surroundings) (p : PackageName) (d : Place) : Prop where
  resolves : w.files.resolve w.directory (c.packagePath p) true = .ok d
  directory : w.files.node? d = some .directory

/-- The files of a version are looked for in a directory. A link of the name of a file is not
followed yet. -/
def LooksIn (c : PackageCache) (w : Surroundings) (p : PackageName) (v : Version) (d : Place) :
    Prop :=
  ∀ f, w.files.follow w.directory (c.filePath p v f) false = .ok (d ++ [f.name])

/-- There is something where a file of a version is looked for. -/
def Finds (c : PackageCache) (w : Surroundings) (p : PackageName) (v : Version) : Prop :=
  ∃ f node, w.files.find w.directory (c.filePath p v f) = .ok node

/-- The list of the versions and the files that are found agree on a version: where it is listed,
its files are looked for in the directory that it is listed for, and it is listed where any of them
is found. -/
structure Agrees (c : PackageCache) (w : Surroundings) (p : PackageName) (v : Version) : Prop where
  listed : ∀ vs, c.versions w p = .ok vs → v ∈ vs → ∃ d, c.Keeps w p d ∧
    (∃ name, w.files.Spells d name v) ∧
    ∀ name, w.files.Spells d name v → c.LooksIn w p v (d ++ [name])
  found : c.Finds w p v → ∃ vs, c.versions w p = .ok vs ∧ v ∈ vs

variable {c : PackageCache} {w : Surroundings} {p : PackageName} {v : Version} {d e : Place}

section Listing

theorem Keeps.unique (h : c.Keeps w p d) (h' : c.Keeps w p e) : d = e :=
  Except.ok.inj (h.resolves.symm.trans h'.resolves)

theorem entryVersion?_eq_some {entry : String × FileNode} :
    entryVersion? entry = some v ↔ entry.2 = .directory ∧ Version.parse? entry.1 = some v := by
  obtain ⟨name, node⟩ := entry
  cases node <;> simp [entryVersion?]

/-- A version is listed for every directory that spells it. -/
theorem Keeps.exists_versions (h : c.Keeps w p d) : ∃ vs, c.versions w p = .ok vs ∧
    ∀ v, v ∈ vs ↔ ∃ name, w.files.Spells d name v := by
  refine ⟨_, versions_of_list (list_eq_ok.mpr ⟨d, h.resolves, h.directory, rfl⟩), fun v => ?_⟩
  simp only [List.mem_filterMap, Option.map_eq_some_iff, entryVersion?_eq_some]
  constructor
  · rintro ⟨-, ⟨name, -, node, hnode, rfl⟩, rfl, hversion⟩
    exact ⟨name, hnode, hversion⟩
  · rintro ⟨name, hspells⟩
    exact ⟨_, ⟨name, mem_children hspells.directory, _, hspells.directory, rfl⟩, rfl,
      hspells.version⟩

theorem Keeps.mem_versions (h : c.Keeps w p d) {vs : List Version} (hvs : c.versions w p = .ok vs) :
    v ∈ vs ↔ ∃ name, w.files.Spells d name v := by
  obtain ⟨_, hvs', hmem⟩ := h.exists_versions
  obtain rfl := Except.ok.inj (hvs.symm.trans hvs')
  exact hmem v

/-- Nothing is listed of a package without a directory. -/
theorem versions_eq_nil {vs : List Version} (hnone : ∀ d, ¬ c.Keeps w p d)
    (h : c.versions w p = .ok vs) : vs = [] := by
  unfold versions at h
  dsimp only at h
  split at h
  · next entries hlist =>
    obtain ⟨d, hresolves, hdirectory, -⟩ := list_eq_ok.mp hlist
    exact absurd ⟨hresolves, hdirectory⟩ (hnone d)
  · exact (Except.ok.inj h).symm
  · contradiction

end Listing

section Looking

/-- The way to the directory of a package begins where that to its files does. -/
theorem follow_packagePath (c : PackageCache) (w : Surroundings) (p : PackageName)
    (followLast : Bool) : w.files.follow w.directory (c.packagePath p) followLast =
      w.files.walk followLast maxLinks
        (if Path.isAbsolute (c.packagePath p) then [] else w.directory)
        (Path.parts (c.packagePath p)) := by
  unfold packagePath
  rw [follow_join _ p.project_isPart, Path.isAbsolute_join _ p.project_isPart,
    Path.parts_join _ p.project_isPart]

theorem follow_filePath (c : PackageCache) (w : Surroundings) (p : PackageName) (v : Version)
    (f : CachedFile) (followLast : Bool) :
    w.files.follow w.directory (c.filePath p v f) followLast =
      w.files.walk followLast maxLinks
        (if Path.isAbsolute (c.packagePath p) then [] else w.directory)
        (Path.parts (c.packagePath p) ++ [v.text] ++ [f.name]) := by
  rw [filePath_eq, follow_join _ f.isPart_name, versionPath,
    Path.isAbsolute_join _ v.isName_text.part, Path.parts_join _ v.isName_text.part]

theorem CachedFile.isName_name (f : CachedFile) : FileTree.IsName f.name := by
  refine ⟨f.isPart_name, f.descends_name.1, f.descends_name.2, ?_⟩
  cases f <;> decide

theorem Keeps.walk (h : c.Keeps w p d) : w.files.walk true maxLinks
    (if Path.isAbsolute (c.packagePath p) then [] else w.directory)
    (Path.parts (c.packagePath p)) = .ok d := by
  rw [← follow_packagePath]
  exact (resolve_iff_follow.mp h.resolves).2

/-- The name of a version leads to what has the name, unless that is a link. -/
theorem Keeps.walk_text (h : c.Keeps w p d)
    (hlink : ∀ target, w.files.node? (d ++ [v.text]) ≠ some (.link target)) :
    w.files.walk true maxLinks (if Path.isAbsolute (c.packagePath p) then [] else w.directory)
      (Path.parts (c.packagePath p) ++ [v.text]) = .ok (d ++ [v.text]) := by
  have hway := walk_concat h.directory v.isName_text.short h.walk
  rw [v.isName_text.enter_eq] at hway
  exact walk_follow_of_ok hlink hway

theorem Keeps.looksIn (h : c.Keeps w p d)
    (hd : w.files.node? (d ++ [v.text]) = some .directory) :
    c.LooksIn w p v (d ++ [v.text]) := by
  intro f
  have hway := h.walk_text (v := v) fun target => by simp [hd]
  rw [follow_filePath, walk_concat hd f.isName_name.short hway, f.isName_name.enter_eq]

/-- Without a link, files are looked for under the name of the version only. -/
theorem Keeps.eq_of_looksIn (h : c.Keeps w p d)
    (hlink : ∀ target, w.files.node? (d ++ [v.text]) ≠ some (.link target))
    (he : c.LooksIn w p v e) : e = d ++ [v.text] := by
  have hfile := he .docs
  rw [follow_filePath] at hfile
  obtain ⟨e', he', -, hfile⟩ := exists_walk_of_concat hfile
  obtain rfl := Except.ok.inj (he'.symm.trans (h.walk_text hlink))
  rw [CachedFile.docs.isName_name.enter_eq] at hfile
  exact List.append_cancel_right hfile

theorem checkPath_packagePath {f : CachedFile} (h : checkPath (c.filePath p v f) = .ok ()) :
    checkPath (c.packagePath p) = .ok () := by
  rw [filePath_eq] at h
  obtain ⟨more, hmore⟩ := Path.exists_join_eq_append (c.versionPath p v) f.isPart_name
  obtain ⟨more', hmore'⟩ := Path.exists_join_eq_append (c.packagePath p) v.isName_text.part
  rw [hmore, versionPath, hmore'] at h
  exact checkPath_of_append (checkPath_of_append h)

/-- What is found is in a directory of the name of the version, or behind a link of it. -/
theorem Finds.exists_keeps (h : c.Finds w p v) : ∃ d, c.Keeps w p d ∧
    (w.files.node? (d ++ [v.text]) = some .directory ∨
      ∃ target, w.files.node? (d ++ [v.text]) = some (.link target)) := by
  obtain ⟨f, node, hfind⟩ := h
  obtain ⟨q, hq, -⟩ := find_eq_ok.mp hfind
  obtain ⟨hcheck, hfollow⟩ := resolve_iff_follow.mp hq
  rw [follow_filePath] at hfollow
  obtain ⟨_, hfile⟩ := exists_walk_of_follow hfollow
  obtain ⟨e, he, hedirectory, -⟩ := exists_walk_of_concat hfile
  obtain ⟨_, hversion⟩ := exists_walk_of_follow he
  obtain ⟨d, hd, hdirectory, -⟩ := exists_walk_of_concat hversion
  have hpackage : w.files.follow w.directory (c.packagePath p) true = .ok d := by
    rw [follow_packagePath]
    exact hd
  have hkeeps : c.Keeps w p d :=
    ⟨resolve_iff_follow.mpr ⟨checkPath_packagePath hcheck, hpackage⟩, hdirectory⟩
  refine ⟨d, hkeeps, ?_⟩
  by_cases hlink : ∃ target, w.files.node? (d ++ [v.text]) = some (.link target)
  · exact .inr hlink
  · have hway := hkeeps.walk_text (not_exists.mp hlink)
    obtain rfl := Except.ok.inj (he.symm.trans hway)
    exact .inl hedirectory

theorem find_of_text? {path s : String} (h : text? w path = .ok (some s)) :
    ∃ node, w.files.find w.directory path = .ok node := by
  cases hfind : w.files.find w.directory path with
  | ok node => exact ⟨node, rfl⟩
  | error e =>
    have hread : w.files.readText w.directory path = .error e := by
      unfold readText FileTree.read
      rw [hfind]
      rfl
    unfold text? readText? at h
    rw [hread] at h
    cases e <;> simp [Except.mapError] at h

theorem finds_of_readme {s : String} (h : c.readme w p v = .ok (some s)) : c.Finds w p v := by
  obtain ⟨node, hfind⟩ := find_of_text? h
  exact ⟨.readme, node, hfind⟩

theorem finds_of_docs {docs : Docs} (h : c.docs w p v = .ok (some docs)) : c.Finds w p v := by
  unfold PackageCache.docs at h
  dsimp only at h
  cases htext : text? w (c.docsPath p v) with
  | error e =>
    rw [htext] at h
    cases h
  | ok raw =>
    cases raw with
    | none =>
      rw [htext] at h
      have hnone : (Except.ok none : Except BackendError (Option Docs)) = .ok (some docs) := h
      cases hnone
    | some raw =>
      obtain ⟨node, hfind⟩ := find_of_text? htext
      exact ⟨.docs, node, hfind⟩

end Looking

section Agreement

theorem Keeps.agrees_iff (h : c.Keeps w p d) : c.Agrees w p v ↔
    (∀ name, w.files.Spells d name v → c.LooksIn w p v (d ++ [name])) ∧
      (c.Finds w p v → ∃ name, w.files.Spells d name v) := by
  obtain ⟨vs, hvs, hmem⟩ := h.exists_versions
  constructor
  · intro hagrees
    refine ⟨fun name hspells => ?_, fun hfinds => ?_⟩
    · obtain ⟨d', hd', -, hlooks⟩ := hagrees.listed vs hvs ((hmem v).mpr ⟨name, hspells⟩)
      obtain rfl := h.unique hd'
      exact hlooks name hspells
    · obtain ⟨vs', hvs', hv⟩ := hagrees.found hfinds
      exact (h.mem_versions hvs').mp hv
  · rintro ⟨hlooks, hfound⟩
    refine ⟨fun vs' hvs' hv => ⟨d, h, (h.mem_versions hvs').mp hv, hlooks⟩, fun hfinds => ?_⟩
    exact ⟨vs, hvs, (hmem v).mpr (hfound hfinds)⟩

theorem Keeps.agrees_iff_of_noLink (h : c.Keeps w p d)
    (hlink : ∀ target, w.files.node? (d ++ [v.text]) ≠ some (.link target)) :
    c.Agrees w p v ↔ ∀ name, w.files.Spells d name v → name = v.text := by
  have hfound : c.Finds w p v → ∃ name, w.files.Spells d name v := by
    intro hfinds
    obtain ⟨d', hd', hdirectory | ⟨target, htarget⟩⟩ := hfinds.exists_keeps
    · obtain rfl := h.unique hd'
      exact ⟨v.text, spells_text.mpr hdirectory⟩
    · obtain rfl := h.unique hd'
      exact absurd htarget (hlink target)
  rw [h.agrees_iff, and_iff_left hfound]
  refine forall₂_congr fun name hspells => ⟨fun hlooks => ?_, ?_⟩
  · simpa using h.eq_of_looksIn hlink hlooks
  · rintro rfl
    exact h.looksIn hspells.directory

/-- A link is not listed, so what is behind it has to be listed under another spelling. -/
theorem Keeps.agrees_iff_of_link (h : c.Keeps w p d) {target : String}
    (hlink : w.files.node? (d ++ [v.text]) = some (.link target)) : c.Agrees w p v ↔
      (∀ name, w.files.Spells d name v → c.LooksIn w p v (d ++ [name])) ∧
        (c.Finds w p v → ∃ name, name ≠ v.text ∧ w.files.Spells d name v) := by
  have hother : ∀ {name}, w.files.Spells d name v → name ≠ v.text := by
    rintro _ hspells rfl
    exact absurd (hspells.directory.symm.trans hlink) (by simp)
  rw [h.agrees_iff]
  refine and_congr_right fun _ => imp_congr_right fun _ => exists_congr fun name => ?_
  exact (and_iff_right_of_imp hother).symm

end Agreement

/-- The versions of a package are those that directories of its directory spell. The files of a
version are looked for where its name is written as usual, so the two agree just if no directory
spells the version otherwise. With a link of that name they agree if the files behind it are those
of a directory that is listed. Without a directory of the package nothing is listed or found. -/
theorem versions_agree (c : PackageCache) (w : Surroundings) (p : PackageName) :
    (∀ d, c.Keeps w p d → ∃ vs, c.versions w p = .ok vs ∧
      ∀ v, v ∈ vs ↔ ∃ name, w.files.Spells d name v) ∧
    (∀ d v, c.Keeps w p d → w.files.Spells d v.text v → c.LooksIn w p v (d ++ [v.text])) ∧
    (∀ d v, c.Keeps w p d → (∀ target, w.files.node? (d ++ [v.text]) ≠ some (.link target)) →
      (c.Agrees w p v ↔ ∀ name, w.files.Spells d name v → name = v.text)) ∧
    (∀ d v target, c.Keeps w p d → w.files.node? (d ++ [v.text]) = some (.link target) →
      (c.Agrees w p v ↔ (∀ name, w.files.Spells d name v → c.LooksIn w p v (d ++ [name])) ∧
        (c.Finds w p v → ∃ name, name ≠ v.text ∧ w.files.Spells d name v))) ∧
    ((∀ d, ¬ c.Keeps w p d) →
      (∀ vs, c.versions w p = .ok vs → vs = []) ∧ ∀ v, ¬ c.Finds w p v) ∧
    (∀ vs v, c.versions w p = .ok vs → Version.latest? vs = some v → c.Agrees w p v →
      ∃ d name, c.Keeps w p d ∧ w.files.Spells d name v ∧ c.LooksIn w p v (d ++ [name])) ∧
    ∀ v, (∀ docs, c.docs w p v = .ok (some docs) → c.Finds w p v) ∧
      ∀ s, c.readme w p v = .ok (some s) → c.Finds w p v := by
  refine ⟨fun d h => h.exists_versions, fun d v h hspells => h.looksIn hspells.directory,
    fun d v h => h.agrees_iff_of_noLink, fun d v target h => h.agrees_iff_of_link,
    fun hnone => ⟨fun vs => versions_eq_nil hnone, fun v hfinds => ?_⟩,
    fun vs v hvs hlatest hagrees => ?_, fun v => ⟨fun _ => finds_of_docs, fun _ => finds_of_readme⟩⟩
  · obtain ⟨d, hd, -⟩ := hfinds.exists_keeps
    exact hnone d hd
  · obtain ⟨hmem, -⟩ := Version.latest?_eq_some.mp hlatest
    obtain ⟨d, hd, ⟨name, hspells⟩, hlooks⟩ := hagrees.listed vs hvs hmem
    exact ⟨d, name, hd, hspells, hlooks name hspells⟩

def elmJson : PackageName := ⟨"elm", "json", by decide, by decide⟩

/-- A package with a version in a directory of its name, and one behind a link that leads to a
directory of another spelling. -/
def linked : FileTree :=
  ⟨[(["pk"], .directory), (["pk", "elm"], .directory), (["pk", "elm", "json"], .directory),
    (["pk", "elm", "json", "1.0.0"], .directory), (["pk", "elm", "json", "02.0.0"], .directory),
    (["pk", "elm", "json", "2.0.0"], .link "02.0.0"),
    (["pk", "elm", "json", "02.0.0", "README.md"], .file (Text.Utf8.encode "second") false)]⟩

theorem linked_spells {name : String} {v : Version}
    (h : linked.Spells ["pk", "elm", "json"] name v) :
    name = "1.0.0" ∧ v = ⟨1, 0, 0⟩ ∨ name = "02.0.0" ∧ v = ⟨2, 0, 0⟩ := by
  have hchildren : linked.children ["pk", "elm", "json"] = ["1.0.0", "02.0.0", "2.0.0"] := by rfl
  have hmem := mem_children h.directory
  rw [hchildren] at hmem
  simp only [List.mem_cons, List.not_mem_nil, or_false] at hmem
  rcases hmem with rfl | rfl | rfl
  · have hfirst : Version.parse? "1.0.0" = some ⟨1, 0, 0⟩ := by rfl
    exact .inl ⟨rfl, Option.some.inj (h.version.symm.trans hfirst)⟩
  · have hsecond : Version.parse? "02.0.0" = some ⟨2, 0, 0⟩ := by rfl
    exact .inr ⟨rfl, Option.some.inj (h.version.symm.trans hsecond)⟩
  · have hlink : linked.node? ["pk", "elm", "json", "2.0.0"] = some (.link "02.0.0") := by rfl
    exact absurd (hlink.symm.trans h.directory) (by simp)

/-- Both versions are listed, and looked for where they are listed. -/
theorem versions_agree_linked :
    let c : PackageCache := ⟨"/pk"⟩
    let w : Surroundings := { files := linked }
    (∃ vs, c.versions w elmJson = .ok vs ∧ ⟨1, 0, 0⟩ ∈ vs ∧ ⟨2, 0, 0⟩ ∈ vs) ∧
      c.Agrees w elmJson ⟨1, 0, 0⟩ ∧ c.Agrees w elmJson ⟨2, 0, 0⟩ := by
  have hpackage : packagePath ⟨"/pk"⟩ elmJson = "/pk/elm/json" := by rfl
  have hdocsPath : docsPath ⟨"/pk"⟩ elmJson ⟨2, 0, 0⟩ = "/pk/elm/json/2.0.0/docs.json" := by rfl
  have hreadmePath : readmePath ⟨"/pk"⟩ elmJson ⟨2, 0, 0⟩ = "/pk/elm/json/2.0.0/README.md" := by
    rfl
  have hresolve : linked.resolve [] "/pk/elm/json" true = .ok ["pk", "elm", "json"] := by rfl
  have hdocs : linked.follow [] "/pk/elm/json/2.0.0/docs.json" false =
      .ok ["pk", "elm", "json", "02.0.0", "docs.json"] := by rfl
  have hreadme : linked.follow [] "/pk/elm/json/2.0.0/README.md" false =
      .ok ["pk", "elm", "json", "02.0.0", "README.md"] := by rfl
  have hlink : linked.node? ["pk", "elm", "json", "2.0.0"] = some (.link "02.0.0") := by rfl
  have hfirst : linked.Spells ["pk", "elm", "json"] "1.0.0" ⟨1, 0, 0⟩ := ⟨by rfl, by rfl⟩
  have hsecond : linked.Spells ["pk", "elm", "json"] "02.0.0" ⟨2, 0, 0⟩ := ⟨by rfl, by rfl⟩
  intro c w
  have hkeeps : c.Keeps w elmJson ["pk", "elm", "json"] := ⟨hpackage ▸ hresolve, by rfl⟩
  have hlooks : c.LooksIn w elmJson ⟨2, 0, 0⟩ ["pk", "elm", "json", "02.0.0"] := by
    rintro (_ | _)
    · exact (congrArg (linked.follow [] · false) hdocsPath).trans hdocs
    · exact (congrArg (linked.follow [] · false) hreadmePath).trans hreadme
  obtain ⟨hlisted, -, hplain, hlinked, -⟩ := versions_agree c w elmJson
  obtain ⟨vs, hvs, hmem⟩ := hlisted _ hkeeps
  refine ⟨⟨vs, hvs, (hmem _).mpr ⟨_, hfirst⟩, (hmem _).mpr ⟨_, hsecond⟩⟩, ?_, ?_⟩
  · refine (hplain _ _ hkeeps fun target htarget => ?_).mpr fun name hspells => ?_
    · exact absurd (hfirst.directory.symm.trans htarget) (by simp)
    · rcases linked_spells hspells with ⟨rfl, -⟩ | ⟨-, hv⟩
      · rfl
      · exact absurd hv (by decide)
  · refine (hlinked _ ⟨2, 0, 0⟩ "02.0.0" hkeeps hlink).mpr
      ⟨fun name hspells => ?_, fun _ => ⟨"02.0.0", by decide, hsecond⟩⟩
    rcases linked_spells hspells with ⟨-, hv⟩ | ⟨rfl, -⟩
    · exact absurd hv (by decide)
    · exact hlooks

/-- A package with a version in a directory of an unusual name, and one behind a link. -/
def unusual : FileTree :=
  ⟨[(["pk"], .directory), (["pk", "elm"], .directory), (["pk", "elm", "json"], .directory),
    (["pk", "elm", "json", "01.0.0"], .directory),
    (["pk", "elm", "json", "01.0.0", "README.md"], .file (Text.Utf8.encode "first") false),
    (["pk", "elm", "json", "2.0.0"], .link "/elsewhere"), (["elsewhere"], .directory),
    (["elsewhere", "README.md"], .file (Text.Utf8.encode "second") false)]⟩

/-- The only version that is listed has no files under its name, and one that has is not listed. -/
theorem versions_disagree :
    let c : PackageCache := ⟨"/pk"⟩
    let w : Surroundings := { files := unusual }
    c.versions w elmJson = .ok [⟨1, 0, 0⟩] ∧ c.docs w elmJson ⟨1, 0, 0⟩ = .ok none ∧
      c.readme w elmJson ⟨1, 0, 0⟩ = .ok none ∧
      c.readme w elmJson ⟨2, 0, 0⟩ = .ok (some "second") ∧
      ¬ c.Agrees w elmJson ⟨1, 0, 0⟩ ∧ ¬ c.Agrees w elmJson ⟨2, 0, 0⟩ := by
  have hpackage : packagePath ⟨"/pk"⟩ elmJson = "/pk/elm/json" := by rfl
  have hdocsPath : docsPath ⟨"/pk"⟩ elmJson ⟨1, 0, 0⟩ = "/pk/elm/json/1.0.0/docs.json" := by rfl
  have habsentPath : readmePath ⟨"/pk"⟩ elmJson ⟨1, 0, 0⟩ = "/pk/elm/json/1.0.0/README.md" := by
    rfl
  have hreadmePath : readmePath ⟨"/pk"⟩ elmJson ⟨2, 0, 0⟩ = "/pk/elm/json/2.0.0/README.md" := by
    rfl
  have hlist : unusual.list [] "/pk/elm/json" =
      .ok [("01.0.0", .directory), ("2.0.0", .link "/elsewhere")] := by rfl
  have hresolve : unusual.resolve [] "/pk/elm/json" true = .ok ["pk", "elm", "json"] := by rfl
  have hdocs : unusual.readText [] "/pk/elm/json/1.0.0/docs.json" = .error .notFound := by rfl
  have habsent : unusual.readText [] "/pk/elm/json/1.0.0/README.md" = .error .notFound := by rfl
  have hreadme : unusual.readText [] "/pk/elm/json/2.0.0/README.md" = .ok "second" := by rfl
  have hfirst : Version.parse? "01.0.0" = some ⟨1, 0, 0⟩ := by rfl
  have hmissing : unusual.node? ["pk", "elm", "json", "1.0.0"] = none := by rfl
  have hdirectory : unusual.node? ["pk", "elm", "json", "01.0.0"] = some .directory := by rfl
  rw [← hpackage] at hlist hresolve
  rw [← hdocsPath] at hdocs
  rw [← habsentPath] at habsent
  rw [← hreadmePath] at hreadme
  intro c w
  have hkeeps : c.Keeps w elmJson ["pk", "elm", "json"] := ⟨hresolve, by rfl⟩
  have hversions : c.versions w elmJson = .ok [⟨1, 0, 0⟩] := by
    rw [versions_of_list (w := w) hlist, List.filterMap_cons, entryVersion?, hfirst]
    rfl
  have hsecond : c.readme w elmJson ⟨2, 0, 0⟩ = .ok (some "second") := text?_of_readText hreadme
  refine ⟨hversions, ?_, text?_of_notFound habsent, hsecond, fun hagrees => ?_, fun hagrees => ?_⟩
  · unfold docs
    dsimp only
    rw [text?_of_notFound (w := w) hdocs]
    rfl
  · have hnames := (hkeeps.agrees_iff_of_noLink fun target hlink => by
      cases hmissing.symm.trans hlink).mp hagrees
    exact absurd (hnames "01.0.0" ⟨hdirectory, hfirst⟩) (by decide)
  · obtain ⟨vs, hvs, hmem⟩ := hagrees.found (finds_of_readme hsecond)
    obtain rfl := Except.ok.inj (hversions.symm.trans hvs)
    exact absurd hmem (by decide)

end PackageCache

end ReleasePreview
