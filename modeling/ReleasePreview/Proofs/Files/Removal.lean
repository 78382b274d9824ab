import ReleasePreview.Proofs.Files.Walk

/-!
Clearing the way for a file: a directory that is there is not made again, and what is removed is not
found any more.
-/
namespace ReleasePreview.FileTree

variable {t t' : FileTree} {p directory : Place} {path : String}

section Resolve

theorem checkPath_of_append {more : String} (h : checkPath (path ++ more) = .ok ()) :
    checkPath path = .ok () := by
  unfold checkPath at h ⊢
  split at h
  · contradiction
  · next hnull =>
    split at h
    · contradiction
    · next hlong =>
      rw [String.toList_append, List.contains_append] at hnull
      rw [String.utf8ByteSize_append] at hlong
      rw [if_neg, if_neg]
      · omega
      · intro hmem
        exact hnull (by rw [hmem, Bool.true_or])

/-- A path that leads somewhere is fit to be one, and its names lead there. -/
theorem resolve_eq_ok {followLast : Bool} : t.resolve directory path followLast = .ok p ↔
    checkPath path = .ok () ∧ ¬ path.isEmpty ∧
      t.walk followLast maxLinks (if Path.isAbsolute path then [] else directory)
        (Path.names path) = .ok p := by
  unfold resolve follow
  cases hpath : checkPath path with
  | error e => simp [bind, Except.bind]
  | ok =>
    by_cases hempty : path.isEmpty
    · simp [bind, Except.bind, hempty]
    · simp [bind, Except.bind, hempty]

/-- A path that ends before its last name, or leads to where nothing is, finds nothing. -/
theorem find_of_absent (hpath : checkPath path = .ok ())
    (h : t.follow directory path true = .error .notFound ∨
      ∃ p, t.follow directory path true = .ok p ∧ t.node? p = none) :
    t.find directory path = .error .notFound := by
  unfold find resolve
  rw [hpath]
  rcases h with hfollow | ⟨p, hfollow, hp⟩
  · simp only [bind, Except.bind, hfollow]
  · simp only [bind, Except.bind, hfollow, hp]
    rfl

end Resolve

/-- Where there is a directory, none is made. -/
theorem makeDirectories_of_isDirectoryAt {directory : Place} {path : String}
    (hpath : checkPath path = .ok ())
    (h : t.isDirectoryAt (if Path.isAbsolute path then [] else directory)
      ((Path.names path).filter (· ≠ "."))) :
    t.makeDirectories directory path = (t, .ok ()) := by
  have hensure : ∀ start names, t.isDirectoryAt start names →
      t.ensureDirectoryAt start names = .ok t := by
    intro start names hdirectory
    unfold ensureDirectoryAt
    cases hmade : t.makeDirectoryAt start names with
    | error e => exact if_pos hdirectory
    | ok made =>
      -- Where nothing is, the way with links followed would end at nothing, too.
      exfalso
      unfold makeDirectoryAt at hmade
      cases hwalk : t.walk false maxLinks start names with
      | error e =>
        rw [hwalk] at hmade
        contradiction
      | ok p =>
        rw [hwalk] at hmade
        cases hp : t.node? p with
        | some node =>
          simp only [bind, Except.bind, hp] at hmade
          contradiction
        | none =>
          have hfollowed := walk_follow_of_ok (by simp [hp]) hwalk
          simp [isDirectoryAt, hfollowed, hp] at hdirectory
  unfold makeDirectories
  rw [hpath]
  dsimp only
  rw [← List.reverse_reverse ((Path.names path).filter (· ≠ "."))] at h
  cases hnames : ((Path.names path).filter (· ≠ ".")).reverse with
  | nil => rfl
  | cons name above =>
    rw [hnames] at h
    unfold makeDirectoriesAt
    dsimp only
    rw [hensure _ _ h]

/-- Where a path leads through a directory to a name, none is made for what is above the name. -/
theorem makeDirectories_of_resolve {name : String} (hpath : path ≠ "")
    (hslash : path.toList.getLast? ≠ some '/') (hname : name ≠ "") (hplain : '/' ∉ name.toList)
    (h : t.resolve directory (path ++ "/" ++ name) false = .ok p) :
    t.makeDirectories directory path = (t, .ok ()) := by
  obtain ⟨hcheck, -, hwalk⟩ := resolve_eq_ok.mp h
  rw [Path.names_below hslash ⟨hname, hplain⟩, Path.isAbsolute_below name hpath] at hwalk
  obtain ⟨d, hd, hdirectory, -⟩ := exists_walk_of_concat hwalk
  have hdots : t.walk true maxLinks (if Path.isAbsolute path then [] else directory)
      ((Path.names path).filter (· ≠ ".")) = .ok d := walk_filter_dots [] (Path.names path) hd
  rw [String.append_assoc] at hcheck
  apply makeDirectories_of_isDirectoryAt (checkPath_of_append hcheck)
  simp only [isDirectoryAt, hdots, decide_eq_true hdirectory]

section Removal

/-- A file that may be removed, or nothing. -/
def AtMostRemovable (t : FileTree) (p : Place) : Prop :=
  ∀ node, t.node? p = some node → ∃ content mode, node = .file content mode ∧ mode.removable

theorem AtMostRemovable.atMostFile (h : t.AtMostRemovable p) : t.AtMostFile p := by
  intro node hnode
  obtain ⟨content, mode, hfile, -⟩ := h node hnode
  exact ⟨content, mode, hfile⟩

theorem remove_of_file (h : t.resolve directory path false = .ok p) {content : List UInt8}
    {mode : FileMode} (hp : t.node? p = some (.file content mode)) :
    t.remove directory path =
      if mode.removable then .ok (t.erase p) else .error .permissionDenied := by
  unfold remove
  rw [h]
  simp only [bind, Except.bind, hp]
  rfl

theorem remove_of_absent (h : t.resolve directory path false = .ok p) (hp : t.node? p = none) :
    t.remove directory path = .error .notFound := by
  unfold remove
  rw [h]
  simp only [bind, Except.bind, hp]
  rfl

/-- What is removed is at the place that the path leads to, and nothing else goes with it. -/
theorem exists_of_remove_ok (h : t.remove directory path = .ok t') :
    ∃ p, t.resolve directory path false = .ok p ∧ p ≠ [] ∧ t' = t.erase p := by
  unfold remove at h
  cases hp : t.resolve directory path false with
  | error e =>
    rw [hp] at h
    contradiction
  | ok p =>
    rw [hp] at h
    simp only [bind, Except.bind] at h
    have hroot : p ≠ [] := by
      rintro rfl
      contradiction
    split at h
    · contradiction
    · contradiction
    · split at h
      · exact ⟨p, rfl, hroot, (Except.ok.inj h).symm⟩
      · contradiction

theorem find_of_remove_ok (h : t.remove directory path = .ok t') :
    t'.find directory path = .error .notFound := by
  obtain ⟨p, hp, hne, rfl⟩ := exists_of_remove_ok h
  obtain ⟨hpath, hempty, hwalk⟩ := resolve_eq_ok.mp hp
  have hgap : (t.erase p).node? p = none := node?_erase_self hne
  apply find_of_absent hpath
  unfold follow
  rw [if_neg hempty]
  -- A way that crossed the place of the removed node ends there, any other one leads to the gap.
  rcases walk_erase hne hwalk with hok | herror
  · exact .inr ⟨p, walk_follow_of_ok (by simp [hgap]) hok, hgap⟩
  · exact .inl (walk_follow_of_error herror)

theorem find_of_remove_notFound (h : t.remove directory path = .error .notFound) :
    t.find directory path = .error .notFound := by
  unfold remove resolve at h
  cases hpath : checkPath path with
  | error e =>
    rw [hpath] at h
    obtain rfl : e = .notFound := Except.error.inj h
    unfold checkPath at hpath
    split at hpath
    · contradiction
    · split at hpath <;> contradiction
  | ok =>
    rw [hpath] at h
    simp only [bind, Except.bind] at h
    apply find_of_absent hpath
    unfold follow at h ⊢
    by_cases hempty : path.isEmpty
    · exact .inl (if_pos hempty)
    · rw [if_neg hempty] at h ⊢
      cases hwalk : t.walk false maxLinks (if Path.isAbsolute path then [] else directory)
          (Path.names path) with
      | error e =>
        rw [hwalk] at h
        obtain rfl : e = .notFound := Except.error.inj h
        exact .inl (walk_follow_of_error hwalk)
      | ok p =>
        rw [hwalk] at h
        dsimp only at h
        split at h
        · next hp => exact .inr ⟨p, walk_follow_of_ok (by simp [hp]) hwalk, hp⟩
        · contradiction
        · split at h <;> contradiction

/-- A path to a place leads there with any file, and without one. -/
theorem resolve_of_erase_eq (hsame : t.erase p = t'.erase p) (ht : t.AtMostFile p)
    (ht' : t'.AtMostFile p) {followLast : Bool}
    (h : t.resolve directory path followLast = .ok p) :
    t'.resolve directory path followLast = .ok p := by
  have hagree : ∀ q, q ≠ p → t.node? q = t'.node? q := by
    intro q hq
    rw [← node?_erase_ne hq, hsame, node?_erase_ne hq]
  obtain ⟨hcheck, hempty, hwalk⟩ := resolve_eq_ok.mp h
  exact resolve_eq_ok.mpr ⟨hcheck, hempty, walk_of_agree hagree ht ht' hwalk⟩

end Removal

end ReleasePreview.FileTree
