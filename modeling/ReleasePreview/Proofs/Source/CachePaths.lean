import ReleasePreview.Proofs.Files.Canonical
import ReleasePreview.Proofs.Files.Lexical
import ReleasePreview.Proofs.Package.Name
import ReleasePreview.Proofs.Package.Version
import ReleasePreview.Source.Cache

/-!
Where the files of a cache are. The path of a file goes down from the root of the cache along the
parts of a package name, a version and the name of the file, unless a part of the package name is
one of the names that do not lead down.
-/
namespace ReleasePreview

namespace Version

variable (v : Version)

theorem length_text_le : v.text.toList.length ≤ 32 := by
  have hdigits : ∀ n : UInt32, (Nat.toDigits 10 n.toNat).length ≤ 10 := by
    intro n
    have hn : n.toNat < 2 ^ 32 := n.toNat_lt
    exact Nat.toDigits_length 10 n.toNat 10 (by decide) (hn.trans (by decide))
  have hmajor := hdigits v.major
  have hminor := hdigits v.minor
  have hpatch := hdigits v.patch
  rw [toList_text]
  simp only [List.length_append, List.length_cons]
  omega

theorem utf8ByteSize_ofList_le (s : List Char) : (String.ofList s).utf8ByteSize ≤ 4 * s.length := by
  induction s with
  | nil => exact le_refl _
  | cons c s ih =>
    have hc : c.utf8Size ≤ 4 := c.utf8Size_le_four
    rw [String.ofList_cons, String.utf8ByteSize_append, String.utf8ByteSize_singleton,
      List.length_cons]
    omega

/-- A version is the name of a directory, and no special one. -/
theorem isName_text : FileTree.IsName v.text := by
  have hne : ∀ s, parse? s = none → v.text ≠ s := by
    rintro s hs rfl
    rw [parse?_text] at hs
    contradiction
  have hslash : '/' ∉ v.text.toList := by
    have hdigits : ∀ n, '/' ∉ Nat.toDigits 10 n := fun n h =>
      absurd (Decimal.isDigit_of_mem_toDigits n h) (by decide)
    rw [toList_text]
    simp [hdigits]
  have hsize : v.text.utf8ByteSize ≤ 4 * v.text.toList.length := by
    simpa using utf8ByteSize_ofList_le v.text.toList
  have hlength := v.length_text_le
  refine ⟨⟨hne _ rfl, hslash⟩, hne _ rfl, hne _ rfl, ?_⟩
  unfold FileTree.maxName
  omega

end Version

namespace PackageName

/-- Both parts of a name lead down in a path. -/
def Descends (p : PackageName) : Prop := Path.Descends p.author ∧ Path.Descends p.project

end PackageName

namespace PackageCache

/-- What is cached of a version. -/
inductive CachedFile where
  | docs
  | readme
deriving DecidableEq

namespace CachedFile

def name : CachedFile → String
  | docs => "docs.json"
  | readme => "README.md"

theorem name_injective : Function.Injective name := by
  intro f g h
  cases f <;> cases g <;> first | rfl | exact absurd h (by decide)

theorem isPart_name (f : CachedFile) : Path.IsPart f.name := by
  cases f <;> decide

theorem descends_name (f : CachedFile) : Path.Descends f.name := by
  cases f <;> decide

end CachedFile

/-- The path that a file is read from. -/
def filePath (c : PackageCache) (p : PackageName) (v : Version) : CachedFile → String
  | .docs => c.docsPath p v
  | .readme => c.readmePath p v

section Paths

variable (c : PackageCache) (p : PackageName) (v : Version) (f : CachedFile)

theorem filePath_eq : c.filePath p v f = Path.join (c.versionPath p v) f.name := by
  cases f <;> rfl

/-- The parts of a name are joined to the root as they are. -/
theorem parts_packagePath :
    Path.parts (c.packagePath p) = Path.parts c.root ++ [p.author, p.project] := by
  rw [packagePath, Path.parts_join _ p.project_isPart, Path.parts_join _ p.author_isPart,
    List.append_assoc]
  rfl

theorem parts_filePath : Path.parts (c.filePath p v f) =
    Path.parts c.root ++ [p.author, p.project, v.text, f.name] := by
  rw [filePath_eq, Path.parts_join _ f.isPart_name, versionPath,
    Path.parts_join _ v.isName_text.part, parts_packagePath, List.append_assoc, List.append_assoc]
  rfl

theorem lexical_packagePath : Path.lexical (c.packagePath p) =
    [p.author, p.project].foldl Path.Lexical.enter (Path.lexical c.root) := by
  rw [packagePath, Path.lexical_join _ p.project_isPart, Path.lexical_join _ p.author_isPart]
  rfl

theorem lexical_filePath : Path.lexical (c.filePath p v f) =
    [p.author, p.project, v.text, f.name].foldl Path.Lexical.enter (Path.lexical c.root) := by
  rw [filePath_eq, Path.lexical_join _ f.isPart_name, versionPath,
    Path.lexical_join _ v.isName_text.part, lexical_packagePath]
  rfl

variable {c p v f} {p' : PackageName} {v' : Version} {f' : CachedFile}

theorem lexical_packagePath_eq_below :
    Path.lexical (c.packagePath p) = (Path.lexical c.root).below [p.author, p.project] ↔
      p.Descends := by
  rw [lexical_packagePath, Path.Lexical.foldl_enter_eq_below, PackageName.Descends]
  simp

theorem lexical_filePath_eq_below : Path.lexical (c.filePath p v f) =
    (Path.lexical c.root).below [p.author, p.project, v.text, f.name] ↔ p.Descends := by
  have hv : Path.Descends v.text := ⟨v.isName_text.notDot, v.isName_text.notDots⟩
  rw [lexical_filePath, Path.Lexical.foldl_enter_eq_below, PackageName.Descends]
  simp [hv, f.descends_name]

theorem eq_of_names
    (h : [p.author, p.project, v.text, f.name] = [p'.author, p'.project, v'.text, f'.name]) :
    p = p' ∧ v = v' ∧ f = f' := by
  obtain ⟨ha, hp, hv, hf⟩ : p.author = p'.author ∧ p.project = p'.project ∧ v.text = v'.text ∧
      f.name = f'.name := by simpa using h
  exact ⟨PackageName.ext_parts ha hp, Version.text_injective hv, CachedFile.name_injective hf⟩

end Paths

section Reading

variable {c : PackageCache} {w : Surroundings} {p : PackageName}

theorem versions_of_list {entries : List (String × FileNode)}
    (h : w.files.list w.directory (c.packagePath p) = .ok entries) :
    c.versions w p = .ok (entries.filterMap entryVersion?) := by
  unfold versions
  dsimp only
  rw [h]

theorem text?_of_readText {path s : String} (h : w.files.readText w.directory path = .ok s) :
    text? w path = .ok (some s) := by
  unfold text? FileTree.readText?
  rw [h]
  rfl

theorem text?_of_notFound {path : String}
    (h : w.files.readText w.directory path = .error .notFound) : text? w path = .ok none := by
  unfold text? FileTree.readText?
  rw [h]
  rfl

end Reading

/-- The files of a package are beneath the root, along the parts of the name, the version and the
name of the file, if and only if both parts lead down, and the directory of its versions is two
levels beneath the root then. Files of two such packages are never in one place, and no two paths
are the same text. -/
theorem filePath_beneath (c : PackageCache) :
    (∀ p v f, Path.lexical (c.filePath p v f) =
      (Path.lexical c.root).below [p.author, p.project, v.text, f.name] ↔ p.Descends) ∧
    (∀ p, Path.lexical (c.packagePath p) = (Path.lexical c.root).below [p.author, p.project] ↔
      p.Descends) ∧
    (∀ p p' v v' f f', p.Descends → p'.Descends →
      Path.lexical (c.filePath p v f) = Path.lexical (c.filePath p' v' f') →
      p = p' ∧ v = v' ∧ f = f') ∧
    ∀ p p' v v' f f', c.filePath p v f = c.filePath p' v' f' → p = p' ∧ v = v' ∧ f = f' := by
  refine ⟨fun p v f => lexical_filePath_eq_below, fun p => lexical_packagePath_eq_below,
    fun p p' v v' f f' hp hp' h => ?_, fun p p' v v' f f' h => ?_⟩
  · rw [lexical_filePath_eq_below.mpr hp, lexical_filePath_eq_below.mpr hp',
      Path.Lexical.below_inj] at h
    exact eq_of_names h
  · have hparts : Path.parts (c.filePath p v f) = Path.parts (c.filePath p' v' f') := by rw [h]
    rw [parts_filePath, parts_filePath, List.append_cancel_left_eq] at hparts
    exact eq_of_names hparts

/-- A readme beside the root of a cache. -/
def besideRoot : FileTree :=
  ⟨[(["packages"], .directory), (["secret"], .directory), (["secret", "1.0.0"], .directory),
    (["secret", "1.0.0", "README.md"], .file (Text.Utf8.encode "outside") false)]⟩

/-- A readme outside the root is read for a package whose author is two dots, and two packages with
a dot for a part have their files in one place. -/
theorem filePath_not_beneath :
    let c : PackageCache := ⟨"/packages"⟩
    let v : Version := ⟨1, 0, 0⟩
    ∃ p q r : PackageName, PackageName.parse "../secret" = .ok p ∧
      PackageName.parse "./tree" = .ok q ∧ PackageName.parse "tree/." = .ok r ∧
      (∀ names, Path.lexical (c.filePath p v .readme) ≠ (Path.lexical c.root).below names) ∧
      c.versions { files := besideRoot } p = .ok [v] ∧
      c.readme { files := besideRoot } p v = .ok (some "outside") ∧
      q ≠ r ∧ Path.lexical (c.filePath q v .docs) = Path.lexical (c.filePath r v .docs) := by
  have hroot : Path.lexical "/packages" = ⟨true, 0, ["packages"]⟩ := by rfl
  have hv : Version.parse? "1.0.0" = some ⟨1, 0, 0⟩ := Version.parse?_text ⟨1, 0, 0⟩
  have hlist : besideRoot.list []
      (packagePath ⟨"/packages"⟩ ⟨"..", "secret", by decide, by decide⟩) =
        .ok [("1.0.0", .directory)] := by rfl
  have hpath : readmePath ⟨"/packages"⟩ ⟨"..", "secret", by decide, by decide⟩ ⟨1, 0, 0⟩ =
      "/packages/../secret/1.0.0/README.md" := by rfl
  have htext : besideRoot.readText [] "/packages/../secret/1.0.0/README.md" = .ok "outside" := by
    rfl
  refine ⟨⟨"..", "secret", by decide, by decide⟩, ⟨".", "tree", by decide, by decide⟩,
    ⟨"tree", ".", by decide, by decide⟩, by rfl, by rfl, by rfl, fun names h => ?_, ?_, ?_,
    by decide, ?_⟩
  · have hfirst := congrArg (fun l => l.down.head?) h
    rw [lexical_filePath, hroot] at hfirst
    change some "secret" = some "packages" at hfirst
    exact absurd (Option.some.inj hfirst) (by decide)
  · rw [versions_of_list (w := { files := besideRoot }) hlist, List.filterMap_cons, entryVersion?,
      hv]
    rfl
  · rw [readme, hpath]
    exact text?_of_readText htext
  · rw [lexical_filePath, lexical_filePath, hroot]
    rfl

end PackageCache

end ReleasePreview
