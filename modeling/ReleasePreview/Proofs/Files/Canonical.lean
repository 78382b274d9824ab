import Mathlib.Data.List.Infix
import ReleasePreview.Proofs.Files.Removal

/-!
The places that paths lead to. All names down to such a place are those of directories, so the path
of the place leads back to it without a link, and so do the paths of the places above it.
-/
namespace ReleasePreview

namespace Place

variable {p : Place} {name : String}

theorem isAbsolute_path (p : Place) : Path.isAbsolute p.path := by
  simp [Path.isAbsolute, path]

theorem path_ne_empty (p : Place) : ¬ p.path.isEmpty := by
  simp [path]

theorem path_append (hp : p ≠ []) (name : String) :
    path (p ++ [name]) = p.path ++ "/" ++ name := by
  rw [path, path, String.intercalate_append_of_ne_nil hp (List.cons_ne_nil _ _)]
  simp [String.append_assoc]

/-- No path of a place ends with a slash but that of the root. -/
theorem getLast?_path_append (hname : Path.IsPart name) :
    (path (p ++ [name])).toList.getLast? ≠ some '/' := by
  have hend : ∃ start, path (p ++ [name]) = start ++ name := by
    rcases eq_or_ne p [] with rfl | hp
    · exact ⟨"/", by simp [path]⟩
    · exact ⟨_, path_append hp name⟩
  obtain ⟨start, hend⟩ := hend
  rw [hend]
  exact Path.getLast?_append_ne_slash start hname

/-- The path of a place is followed along its names. -/
theorem names_path (h : ∀ name ∈ p, Path.IsPart name) : Path.names p.path = p := by
  induction p using List.reverseRecOn with
  | nil => rfl
  | append_singleton p name ih =>
    obtain ⟨hp, hlast⟩ := List.forall_mem_append.mp h
    have hname := List.forall_mem_singleton.mp hlast
    rcases List.eq_nil_or_concat' p with rfl | ⟨above, last, rfl⟩
    · have hempty : Path.names "" = [] := rfl
      have hpath : path ([] ++ [name]) = "" ++ "/" ++ name := by simp [path]
      rw [hpath, Path.names_below (by simp) hname, hempty]
    · rw [path_append (by simp), Path.names_below ?_ hname, ih hp]
      exact getLast?_path_append (hp last (by simp))

end Place

namespace FileTree

/-- A name for a node: not one of the two with a meaning of their own, and not too long. -/
structure IsName (name : String) : Prop where
  part : Path.IsPart name
  notDot : name ≠ "."
  notDots : name ≠ ".."
  short : ¬ maxName < name.utf8ByteSize

theorem IsName.enter_eq {name : String} (h : IsName name) (p : Place) :
    enter p name = p ++ [name] := by
  rw [enter, if_neg h.notDot, if_neg h.notDots]

/-- A place that a way leads to, links followed: what is above it are directories, and it is no
link itself. -/
structure Reached (t : FileTree) (p : Place) : Prop where
  names : ∀ name ∈ p, IsName name
  directories : ∀ d, d <+: p → d ≠ p → t.node? d = some .directory
  noLink : ∀ target, t.node? p ≠ some (.link target)

section Reached

variable {t : FileTree} {p q d : Place} {name : String} {links : Nat} {names rest : List String}

theorem reached_root (t : FileTree) : t.Reached [] where
  names := List.forall_mem_nil _
  directories _ hd hne := absurd (List.prefix_nil.mp hd) hne
  noLink _ := nofun

/-- The places above are reached as well. -/
theorem Reached.above (h : t.Reached p) (hd : d <+: p) : t.Reached d where
  names name hname := h.names name (hd.subset hname)
  directories d' hd' hne := h.directories d' (hd'.trans hd) fun heq =>
    hne (hd'.eq_of_length_le (heq ▸ hd.length_le))
  noLink target := by
    rcases eq_or_ne d p with rfl | hne
    · exact h.noLink target
    · rw [h.directories d hd hne]
      exact nofun

theorem Reached.enter (h : t.Reached p) (hp : t.node? p = some .directory)
    (hname : Path.IsPart name) (hlong : ¬ maxName < name.utf8ByteSize)
    (hnext : ∀ target, t.node? (enter p name) ≠ some (.link target)) :
    t.Reached (enter p name) := by
  by_cases hdot : name = "."
  · rwa [FileTree.enter, if_pos hdot]
  by_cases hdots : name = ".."
  · rw [FileTree.enter, if_neg hdot, if_pos hdots]
    exact h.above (List.dropLast_prefix p)
  rw [FileTree.enter, if_neg hdot, if_neg hdots] at hnext ⊢
  refine ⟨?_, fun d hd hne => ?_, hnext⟩
  · rw [List.forall_mem_append, List.forall_mem_singleton]
    exact ⟨h.names, hname, hdot, hdots, hlong⟩
  · have habove : d <+: p := (List.prefix_concat_iff.mp hd).resolve_left hne
    rcases eq_or_ne d p with rfl | hne
    · exact hp
    · exact h.directories d habove hne

theorem reached_of_walk (h : t.Reached p) (hnames : ∀ name ∈ names, Path.IsPart name)
    (hwalk : t.walk true links p names = .ok q) : t.Reached q := by
  induction links, p, names using walk_induction with
  | nil =>
    rw [walk_nil] at hwalk
    exact Except.ok.inj hwalk ▸ h
  | cons links p name rest ihnext ihlink =>
    obtain ⟨hname, hrest⟩ := List.forall_mem_cons.mp hnames
    obtain ⟨hp, hlong, hgoes⟩ := walk_cons_eq_ok.mp hwalk
    cases hgoes with
    | into hnext hwalk => exact ihnext (h.enter hp hname hlong hnext) hrest hwalk
    | last _ _ _ hfollow => contradiction
    | through target fewer _ _ hlinks hwalk =>
      refine ihlink fewer _ _ hlinks ?_ ?_ hwalk
      · split
        · exact reached_root t
        · exact h
      · exact List.forall_mem_append.mpr ⟨fun _ => Path.isPart_of_mem_names, hrest⟩

/-- The way from the root down to a reached place is gone along without a link. -/
theorem Reached.walk (h : t.Reached p) (follow : Bool) (links : Nat) (rest : List String) :
    t.walk follow links [] (p ++ rest) = t.walk follow links p rest := by
  induction p using List.reverseRecOn generalizing rest with
  | nil => rfl
  | append_singleton p name ih =>
    have hname := h.names name (List.mem_append_right p List.mem_cons_self)
    have hp : t.node? p = some .directory :=
      h.directories p (List.prefix_append _ _) (by simp)
    rw [List.append_assoc, ih (h.above (List.prefix_append _ _)), List.singleton_append, walk_cons,
      hp, hname.enter_eq]
    dsimp only
    rw [if_neg hname.short]
    split
    · next target hlink => exact absurd hlink (h.noLink target)
    · rfl

end Reached

section Canonical

variable {t : FileTree} {directory c d : Place} {path name : String}

theorem follow_eq_ok {followLast : Bool} : t.follow directory path followLast = .ok c ↔
    ¬ path.isEmpty ∧ t.walk followLast maxLinks (if Path.isAbsolute path then [] else directory)
      (Path.names path) = .ok c := by
  unfold follow
  by_cases hempty : path.isEmpty <;> simp [hempty]

theorem resolve_iff_follow {followLast : Bool} : t.resolve directory path followLast = .ok c ↔
    checkPath path = .ok () ∧ t.follow directory path followLast = .ok c := by
  rw [resolve_eq_ok, follow_eq_ok]

/-- Where a path leads to a node, the place of the node is reached. -/
theorem reached_of_canonical (hdirectory : t.Reached directory)
    (h : t.canonical directory path = .ok c) : t.Reached c := by
  unfold canonical at h
  split at h
  · contradiction
  · cases hfollow : t.follow directory path true with
    | error e =>
      rw [hfollow] at h
      contradiction
    | ok p =>
      rw [hfollow] at h
      obtain ⟨-, hwalk⟩ := follow_eq_ok.mp hfollow
      have hp : t.Reached p := by
        refine reached_of_walk ?_ (fun _ => Path.isPart_of_mem_names) hwalk
        split
        · exact reached_root t
        · exact hdirectory
      simp only [bind, Except.bind] at h
      split at h
      · exact Except.ok.inj h ▸ hp
      · contradiction

/-- The path of a name in a reached directory leads to where the name leads there. -/
theorem Reached.resolve_append (h : t.Reached d) (hname : Path.IsPart name) (followLast : Bool) :
    t.resolve directory (Place.path (d ++ [name])) followLast = .ok c ↔
      checkPath (Place.path (d ++ [name])) = .ok () ∧
        t.walk followLast maxLinks d [name] = .ok c := by
  have hparts : ∀ name' ∈ d ++ [name], Path.IsPart name' := by
    rw [List.forall_mem_append, List.forall_mem_singleton]
    exact ⟨fun name' hmem => (h.names name' hmem).part, hname⟩
  rw [resolve_eq_ok, if_pos (Place.isAbsolute_path _), Place.names_path hparts, h.walk,
    and_iff_right (Place.path_ne_empty _)]

theorem find_eq_ok {node : FileNode} : t.find directory path = .ok node ↔
    ∃ p, t.resolve directory path true = .ok p ∧ t.node? p = some node := by
  unfold find
  cases t.resolve directory path true with
  | error e => simp [bind, Except.bind]
  | ok p => cases hp : t.node? p <;> simp [bind, Except.bind, hp, pure, Except.pure]

end Canonical

end FileTree

end ReleasePreview
