import ReleasePreview.Project.Open
import ReleasePreview.Proofs.Files.Canonical

/-!
Which manifest is found from a path. The nearest one decides, whatever is in it, and what is further
up is not looked at.
-/
namespace ReleasePreview.Project

/-- The name of a manifest in a directory leads to a file, links followed, and the path of it is one
that can be named. -/
structure HoldsManifest (t : FileTree) (d : Place) (content : List UInt8) (mode : FileMode) :
    Prop where
  fits : FileTree.checkPath (fileIn d manifestFile) = .ok ()
  leads : ∃ q, t.walk true FileTree.maxLinks d [manifestFile] = .ok q ∧
    t.node? q = some (.file content mode)

/-- The deepest directory with a manifest, at a place or above it. -/
structure IsNearest (t : FileTree) (c r : Place) (content : List UInt8) (mode : FileMode) :
    Prop where
  above : r <+: c
  holds : HoldsManifest t r content mode
  deepest : ∀ d content mode, d <+: c → HoldsManifest t d content mode → d.length ≤ r.length

/-- What comes of opening a path. -/
inductive Opens (t : FileTree) (directory : Place) (path : String) :
    Except PreviewError Project → Prop
  | inaccessible {e : FileError} (h : t.canonical directory path = .error e) :
      Opens t directory path (.error (.inaccessible path e))
  | noProject {c : Place} (h : t.canonical directory path = .ok c)
      (hnone : ∀ d content mode, d <+: c → ¬ HoldsManifest t d content mode) :
      Opens t directory path (.error (.noProject c.path))
  | refused {c r : Place} {content : List UInt8} {mode : FileMode}
      (h : t.canonical directory path = .ok c) (hr : IsNearest t c r content mode)
      (hmode : mode.readable = false) :
      Opens t directory path (.error (.inaccessible (fileIn r manifestFile) .permissionDenied))
  | notText {c r : Place} {content : List UInt8} {mode : FileMode}
      (h : t.canonical directory path = .ok c) (hr : IsNearest t c r content mode)
      (hmode : mode.readable) (htext : Text.Utf8.decode? content = none) :
      Opens t directory path (.error (.inaccessible (fileIn r manifestFile) .notText))
  | invalid {c r : Place} {content : List UInt8} {mode : FileMode} {s : String}
      {e : Json.DecodeError} (h : t.canonical directory path = .ok c)
      (hr : IsNearest t c r content mode) (hmode : mode.readable)
      (htext : Text.Utf8.decode? content = some s)
      (hmanifest : Json.decodeText Manifest.decode s = .error e) :
      Opens t directory path (.error (.invalidManifest (fileIn r manifestFile) e))
  | opened {c r : Place} {content : List UInt8} {mode : FileMode} {s : String} {m : Manifest}
      (h : t.canonical directory path = .ok c) (hr : IsNearest t c r content mode)
      (hmode : mode.readable) (htext : Text.Utf8.decode? content = some s)
      (hmanifest : Json.decodeText Manifest.decode s = .ok m) :
      Opens t directory path (.ok ⟨r, m⟩)

section Ancestors

variable {c d r : Place} {f : Place → Bool}

theorem mem_ancestors : d ∈ ancestors c ↔ d <+: c := by
  simp only [ancestors, List.mem_map, List.mem_range]
  constructor
  · rintro ⟨up, -, rfl⟩
    exact List.take_prefix _ c
  · intro hd
    have hle := hd.length_le
    refine ⟨c.length - d.length, by omega, ?_⟩
    rw [show c.length - (c.length - d.length) = d.length by omega]
    exact (List.prefix_iff_eq_take.mp hd).symm

/-- The deepest place that fits is found first. -/
theorem find?_ancestors_eq_some : (ancestors c).find? f = some r ↔
    r <+: c ∧ f r ∧ ∀ d, d <+: c → f d → d.length ≤ r.length := by
  simp only [ancestors, List.find?_map, Option.map_eq_some_iff, List.find?_range_eq_some,
    Function.comp_apply, List.mem_range]
  constructor
  · rintro ⟨up, ⟨hf, hup, hbefore⟩, rfl⟩
    refine ⟨List.take_prefix _ c, hf, fun d hd hfd => ?_⟩
    by_contra hlonger
    have hle := hd.length_le
    rw [List.length_take] at hlonger
    have hskipped := hbefore (c.length - d.length) (by omega)
    rw [show c.length - (c.length - d.length) = d.length by omega,
      ← List.prefix_iff_eq_take.mp hd, hfd] at hskipped
    contradiction
  · rintro ⟨hr, hf, hdeepest⟩
    have hle := hr.length_le
    have htake : c.take (c.length - (c.length - r.length)) = r := by
      rw [show c.length - (c.length - r.length) = r.length by omega]
      exact (List.prefix_iff_eq_take.mp hr).symm
    refine ⟨c.length - r.length, ⟨htake.symm ▸ hf, by omega, fun up hup => ?_⟩, htake⟩
    rw [Bool.not_eq_true']
    by_contra hfound
    have hshort := hdeepest _ (List.take_prefix _ c) (by simpa using hfound)
    rw [List.length_take] at hshort
    omega

end Ancestors

section Finding

variable {t : FileTree} {c d r : Place} {content : List UInt8} {mode : FileMode}

theorem fileIn_eq (h : ∀ name ∈ d, Path.IsPart name) {name : String} (hname : Path.IsPart name) :
    fileIn d name = Place.path (d ++ [name]) := by
  have habsolute : Path.isAbsolute name = false := Path.isAbsolute_of_isPart hname
  have hempty : d.path.isEmpty = false := by simpa using Place.path_ne_empty d
  rw [fileIn, Path.join, habsolute, hempty]
  rcases List.eq_nil_or_concat' d with rfl | ⟨above, last, rfl⟩
  · simp [Place.path]
  · have hlast := Place.getLast?_path_append (p := above) (h last (by simp))
    rw [if_neg (by decide), if_neg hlast, ← Place.path_append (by simp)]

theorem isPart_manifestFile : Path.IsPart manifestFile := by decide

/-- The path of a manifest is found where there is one, with its content. -/
theorem find_eq_file (h : t.Reached d) :
    t.find [] (fileIn d manifestFile) = .ok (.file content mode) ↔
      HoldsManifest t d content mode := by
  have hpath : fileIn d manifestFile = Place.path (d ++ [manifestFile]) :=
    fileIn_eq (fun name hmem => (h.names name hmem).part) isPart_manifestFile
  constructor
  · intro hfind
    obtain ⟨q, hq, hnode⟩ := FileTree.find_eq_ok.mp hfind
    rw [hpath, h.resolve_append isPart_manifestFile] at hq
    exact ⟨hpath ▸ hq.1, q, hq.2, hnode⟩
  · rintro ⟨hfits, q, hwalk, hnode⟩
    refine FileTree.find_eq_ok.mpr ⟨q, ?_, hnode⟩
    rw [hpath, h.resolve_append isPart_manifestFile]
    exact ⟨hpath ▸ hfits, hwalk⟩

theorem isFile_iff (h : t.Reached d) :
    t.isFile [] (fileIn d manifestFile) ↔ ∃ content mode, HoldsManifest t d content mode := by
  simp only [← find_eq_file h, FileTree.isFile]
  cases t.find [] (fileIn d manifestFile) with
  | error e => simp
  | ok node => cases node <;> simp

/-- There is one manifest at most under the name. -/
theorem HoldsManifest.unique {content' : List UInt8} {mode' : FileMode}
    (h : HoldsManifest t d content mode) (h' : HoldsManifest t d content' mode') :
    content = content' ∧ mode = mode' := by
  obtain ⟨q, hq, hnode⟩ := h.leads
  obtain ⟨q', hq', hnode'⟩ := h'.leads
  obtain rfl := Except.ok.inj (hq.symm.trans hq')
  exact FileNode.file.inj (Option.some.inj (hnode.symm.trans hnode'))

/-- A directory of the name is no manifest. -/
theorem not_holdsManifest (h : t.node? (d ++ [manifestFile]) = some .directory) :
    ¬ HoldsManifest t d content mode := by
  rintro ⟨-, q, hwalk, hnode⟩
  have henter : FileTree.enter d manifestFile = d ++ [manifestFile] := rfl
  obtain ⟨-, -, hgoes⟩ := FileTree.walk_cons_eq_ok.mp hwalk
  cases hgoes with
  | into _ hwalk =>
    rw [FileTree.walk_nil, henter] at hwalk
    rw [← Except.ok.inj hwalk, h] at hnode
    cases hnode
  | last _ _ _ hfollow => contradiction
  | through target _ hlink =>
    rw [henter, h] at hlink
    cases hlink

theorem nearest?_eq_some (hc : t.Reached c) :
    nearest? t c = some r ↔ ∃ content mode, IsNearest t c r content mode := by
  have hheld : ∀ d, d <+: c → (t.isFile [] (fileIn d manifestFile) ↔
      ∃ content mode, HoldsManifest t d content mode) := fun d hd => isFile_iff (hc.above hd)
  rw [nearest?, find?_ancestors_eq_some]
  constructor
  · rintro ⟨hr, hfile, hdeepest⟩
    obtain ⟨content, mode, hholds⟩ := (hheld r hr).mp hfile
    exact ⟨content, mode, hr, hholds, fun d content mode hd h =>
      hdeepest d hd ((hheld d hd).mpr ⟨content, mode, h⟩)⟩
  · rintro ⟨content, mode, hr, hholds, hdeepest⟩
    refine ⟨hr, (hheld r hr).mpr ⟨content, mode, hholds⟩, fun d hd hfile => ?_⟩
    obtain ⟨content, mode, h⟩ := (hheld d hd).mp hfile
    exact hdeepest d content mode hd h

theorem nearest?_eq_none (hc : t.Reached c) :
    nearest? t c = none ↔ ∀ d content mode, d <+: c → ¬ HoldsManifest t d content mode := by
  simp only [nearest?, List.find?_eq_none, mem_ancestors]
  refine forall_congr' fun d => ?_
  constructor
  · exact fun h content mode hd hholds =>
      h hd ((isFile_iff (hc.above hd)).mpr ⟨content, mode, hholds⟩)
  · intro h hd hfile
    obtain ⟨content, mode, hholds⟩ := (isFile_iff (hc.above hd)).mp hfile
    exact h content mode hd hholds

theorem readManifest_of_refused (h : t.Reached r) (hr : HoldsManifest t r content mode)
    (hmode : mode.readable = false) : readManifest t (fileIn r manifestFile) =
      .error (.inaccessible (fileIn r manifestFile) .permissionDenied) := by
  rw [readManifest, FileTree.readText_of_refused ((find_eq_file h).mpr hr) hmode]
  rfl

theorem readManifest_of_notText (h : t.Reached r) (hr : HoldsManifest t r content mode)
    (hmode : mode.readable) (htext : Text.Utf8.decode? content = none) :
    readManifest t (fileIn r manifestFile) =
      .error (.inaccessible (fileIn r manifestFile) .notText) := by
  rw [readManifest, FileTree.readText_of_find ((find_eq_file h).mpr hr) hmode, htext]
  rfl

theorem readManifest_of_text (h : t.Reached r) (hr : HoldsManifest t r content mode)
    (hmode : mode.readable) {s : String} (htext : Text.Utf8.decode? content = some s) :
    readManifest t (fileIn r manifestFile) =
      (Json.decodeText Manifest.decode s).mapError
        (.invalidManifest (fileIn r manifestFile)) := by
  rw [readManifest, FileTree.readText_of_find ((find_eq_file h).mpr hr) hmode, htext]
  rfl

end Finding

section Opening

variable {t : FileTree} {directory c : Place} {path : String}

theorem openAt_of_canonical (h : t.canonical directory path = .ok c) :
    openAt t directory path = (nearest? t c).elim (.error (.noProject c.path))
      fun r => (readManifest t (fileIn r manifestFile)).map (⟨r, ·⟩) := by
  rw [openAt, h]
  simp only [bind, Except.bind, Except.mapError]
  cases nearest? t c with
  | none => rfl
  | some r => cases readManifest t (fileIn r manifestFile) <;> rfl

/-- A path comes to what the nearest manifest makes of it. -/
theorem openAt_of_opens (hdirectory : t.Reached directory)
    {result : Except PreviewError Project} (h : Opens t directory path result) :
    openAt t directory path = result := by
  have hreached : ∀ {c}, t.canonical directory path = .ok c → t.Reached c :=
    FileTree.reached_of_canonical hdirectory
  have hfound : ∀ {c r content mode}, t.canonical directory path = .ok c →
      IsNearest t c r content mode →
      openAt t directory path = (readManifest t (fileIn r manifestFile)).map (⟨r, ·⟩) := by
    intro c r content mode h hr
    rw [openAt_of_canonical h, (nearest?_eq_some (hreached h)).mpr ⟨content, mode, hr⟩]
    rfl
  cases h with
  | inaccessible h =>
    rw [openAt, h]
    rfl
  | noProject h hnone =>
    rw [openAt_of_canonical h, (nearest?_eq_none (hreached h)).mpr hnone]
    rfl
  | refused h hr hmode =>
    rw [hfound h hr, readManifest_of_refused ((hreached h).above hr.above) hr.holds hmode]
    rfl
  | notText h hr hmode htext =>
    rw [hfound h hr, readManifest_of_notText ((hreached h).above hr.above) hr.holds hmode htext]
    rfl
  | invalid h hr hmode htext hmanifest | opened h hr hmode htext hmanifest =>
    rw [hfound h hr, readManifest_of_text ((hreached h).above hr.above) hr.holds hmode htext,
      hmanifest]
    rfl

/-- Every path comes to something. -/
theorem exists_opens (hdirectory : t.Reached directory) :
    ∃ result, Opens t directory path result := by
  cases hcanonical : t.canonical directory path with
  | error e => exact ⟨_, .inaccessible hcanonical⟩
  | ok c =>
    have hc := FileTree.reached_of_canonical hdirectory hcanonical
    cases hnearest : nearest? t c with
    | none => exact ⟨_, .noProject hcanonical ((nearest?_eq_none hc).mp hnearest)⟩
    | some r =>
      obtain ⟨content, mode, hr⟩ := (nearest?_eq_some hc).mp hnearest
      cases hmode : mode.readable with
      | false => exact ⟨_, .refused hcanonical hr hmode⟩
      | true =>
        cases htext : Text.Utf8.decode? content with
        | none => exact ⟨_, .notText hcanonical hr hmode htext⟩
        | some s =>
          cases hmanifest : Json.decodeText Manifest.decode s with
          | error e => exact ⟨_, .invalid hcanonical hr hmode htext hmanifest⟩
          | ok m => exact ⟨_, .opened hcanonical hr hmode htext hmanifest⟩

end Opening

/-- Opening a path comes to what the nearest manifest at or above it makes of it. A directory of the
name of a manifest is passed by, and paths to one and the same place are opened alike. -/
theorem openAt_nearest {t : FileTree} {directory : Place} (hdirectory : t.Reached directory)
    (path : String) :
    (∀ result, openAt t directory path = result ↔ Opens t directory path result) ∧
    (∀ d, t.node? (d ++ [manifestFile]) = some .directory → ∀ content mode,
      ¬ HoldsManifest t d content mode) ∧
    ∀ directory' path' c, t.canonical directory path = .ok c →
      t.canonical directory' path' = .ok c →
      openAt t directory' path' = openAt t directory path := by
  refine ⟨fun result => ⟨?_, openAt_of_opens hdirectory⟩,
    fun d h content mode => not_holdsManifest h, fun directory' path' c h h' => ?_⟩
  · rintro rfl
    obtain ⟨result, h⟩ := exists_opens hdirectory
    exact openAt_of_opens hdirectory h ▸ h
  · rw [openAt_of_canonical h, openAt_of_canonical h']

/-- From a link to a file, past a directory of the name, to a manifest behind a link that is broken
off, with a good one further up. -/
theorem openAt_nearest_invalid :
    let t : FileTree := ⟨[(["here"], .link "home/p/src/A.elm"), (["home"], .directory),
      (["home", "elm.json"], .file (Text.Utf8.encode "\x7b\"type\":\"application\"\x7d") false),
      (["home", "p"], .directory), (["home", "p", "elm.json"], .link "draft"),
      (["home", "p", "draft"], .file (Text.Utf8.encode "\x7b") false),
      (["home", "p", "src"], .directory), (["home", "p", "src", "elm.json"], .directory),
      (["home", "p", "src", "A.elm"], .file [] false)]⟩
    t.Reached [] ∧ t.canonical [] "/here" = .ok ["home", "p", "src", "A.elm"] ∧
      openAt t [] "/here" =
        .error (.invalidManifest "/home/p/elm.json" (.malformed .endOfObject)) := by
  intro t
  have hcanonical : t.canonical [] "/here" = .ok ["home", "p", "src", "A.elm"] := by rfl
  have hroot := FileTree.reached_root t
  have hc := FileTree.reached_of_canonical hroot hcanonical
  have hholds : HoldsManifest t ["home", "p"] (Text.Utf8.encode "\x7b") false :=
    ⟨by rfl, ["home", "p", "draft"], by rfl, by rfl⟩
  have hnearest : IsNearest t ["home", "p", "src", "A.elm"] ["home", "p"]
      (Text.Utf8.encode "\x7b") false := by
    obtain ⟨content, mode, h⟩ := (nearest?_eq_some (r := ["home", "p"]) hc).mp (by rfl)
    obtain ⟨rfl, rfl⟩ := h.holds.unique hholds
    exact h
  obtain ⟨hopens, -, -⟩ := openAt_nearest hroot "/here"
  exact ⟨hroot, hcanonical, (hopens _).mpr
    (.invalid (s := "\x7b") hcanonical hnearest rfl (by rfl) (by rfl))⟩

end ReleasePreview.Project
