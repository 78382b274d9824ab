import Mathlib.Data.List.Basic
import ReleasePreview.Files.Path
import ReleasePreview.Proofs.Text.Split

/-! Paths as texts: the names between the slashes, and a name joined to a path. -/
namespace ReleasePreview.Path

/-- A name that may stand between slashes. -/
def IsPart (name : String) : Prop := name ≠ "" ∧ '/' ∉ name.toList

instance (name : String) : Decidable (IsPart name) := inferInstanceAs (Decidable (_ ∧ _))

variable {path base name : String}

section Parts

/-- The names between the slashes of a path. -/
def parts (path : String) : List String :=
  ((Text.split '/' path.toList).filter (!·.isEmpty)).map String.ofList

theorem parts_of_isPart (h : IsPart name) : parts name = [name] := by
  have hfull : name.toList ≠ [] := fun hempty => h.1 (String.toList_eq_nil_iff.mp hempty)
  unfold parts
  rw [Text.split_of_not_mem h.2, List.filter_cons_of_pos (by simpa using hfull)]
  simp

/-- A slash divides the names before it from those behind it. -/
theorem parts_slash (before behind : String) :
    parts (before ++ "/" ++ behind) = parts before ++ parts behind := by
  have hwhole : (before ++ "/" ++ behind).toList = before.toList ++ '/' :: behind.toList := by
    simp
  unfold parts
  rw [hwhole, Text.split_append_cons, List.filter_append, List.map_append]

/-- Only a slash at the end adds to the names between the slashes. -/
theorem names_eq_parts (h : path.toList.getLast? ≠ some '/') : names path = parts path := by
  unfold names parts
  simp only [h, decide_false, Bool.false_and, Bool.false_eq_true, if_false, List.append_nil]

theorem isPart_of_mem_names (h : name ∈ names path) : IsPart name := by
  rcases List.mem_append.mp h with hpart | hdot
  · obtain ⟨part, hmem, rfl⟩ := List.mem_map.mp hpart
    obtain ⟨hsplit, hfull⟩ := List.mem_filter.mp hmem
    refine ⟨?_, ?_⟩
    · rw [Ne, ← String.toList_eq_nil_iff, String.toList_ofList]
      simpa using hfull
    · rw [String.toList_ofList]
      exact Text.not_mem_of_mem_split hsplit
  · split at hdot
    · rw [List.mem_singleton.mp hdot]
      decide
    · contradiction

theorem isAbsolute_of_isPart (h : IsPart name) : isAbsolute name = false := by
  rw [isAbsolute, decide_eq_false_iff_not]
  exact fun hslash => h.2 (List.mem_of_head? hslash)

/-- A path that ends with a name does not end with a slash. -/
theorem getLast?_append_ne_slash (start : String) (h : IsPart name) :
    (start ++ name).toList.getLast? ≠ some '/' := by
  have hfull : name.toList ≠ [] := fun hempty => h.1 (String.toList_eq_nil_iff.mp hempty)
  rw [String.toList_append, List.getLast?_append_of_ne_nil _ hfull]
  exact fun hslash => h.2 (List.mem_of_getLast? hslash)

theorem isAbsolute_append (h : base ≠ "") (more : String) :
    isAbsolute (base ++ more) = isAbsolute base := by
  obtain ⟨c, s, hbase⟩ := List.exists_cons_of_ne_nil (mt String.toList_eq_nil_iff.mp h)
  rw [isAbsolute, isAbsolute, String.toList_append, hbase, List.cons_append, List.head?_cons,
    List.head?_cons]

end Parts

section Below

theorem isAbsolute_below (name : String) (h : path ≠ "") :
    isAbsolute (path ++ "/" ++ name) = isAbsolute path := by
  rw [String.append_assoc, isAbsolute_append h]

/-- A name below a path is the last one to be followed. -/
theorem names_below (hpath : path.toList.getLast? ≠ some '/') (h : IsPart name) :
    names (path ++ "/" ++ name) = names path ++ [name] := by
  rw [names_eq_parts (getLast?_append_ne_slash _ h), names_eq_parts hpath, parts_slash,
    parts_of_isPart h]

end Below

section Join

/-- A slash is put before the name unless the path ends with one or is empty. -/
theorem join_cases (base : String) (h : IsPart name) :
    (base = "" ∧ join base name = name) ∨
    (∃ before, base = before ++ "/" ∧ join base name = before ++ "/" ++ name) ∨
    (base ≠ "" ∧ join base name = base ++ "/" ++ name) := by
  have hrelative : isAbsolute name = false := isAbsolute_of_isPart h
  unfold join
  rw [hrelative, Bool.false_or]
  by_cases hempty : base = ""
  · exact .inl ⟨hempty, if_pos (by simpa using hempty)⟩
  · rw [if_neg (by simpa using hempty)]
    by_cases hslash : base.toList.getLast? = some '/'
    · obtain ⟨before, hbefore⟩ := List.getLast?_eq_some_iff.mp hslash
      have hbase : base = String.ofList before ++ "/" := by
        rw [← String.toList_inj, hbefore]
        simp
      exact .inr (.inl ⟨_, hbase, by rw [if_pos hslash, ← hbase]⟩)
    · exact .inr (.inr ⟨hempty, if_neg hslash⟩)

theorem exists_join_eq_append (base : String) (h : IsPart name) :
    ∃ more, join base name = base ++ more := by
  rcases join_cases base h with ⟨hbase, hjoin⟩ | ⟨before, hbase, hjoin⟩ | ⟨-, hjoin⟩
  · exact ⟨name, by rw [hjoin, hbase, String.empty_append]⟩
  · exact ⟨name, by rw [hjoin, hbase]⟩
  · exact ⟨"/" ++ name, by rw [hjoin, String.append_assoc]⟩

/-- A name joined to a path is the last one of it. -/
theorem parts_join (base : String) (h : IsPart name) :
    parts (join base name) = parts base ++ [name] := by
  have hempty : parts "" = [] := rfl
  rcases join_cases base h with ⟨hbase, hjoin⟩ | ⟨before, hbase, hjoin⟩ | ⟨-, hjoin⟩
  · rw [hjoin, hbase, hempty, parts_of_isPart h, List.nil_append]
  · have hbefore : parts (before ++ "/") = parts before := by
      simpa [hempty] using parts_slash before ""
    rw [hjoin, parts_slash, parts_of_isPart h, hbase, hbefore]
  · rw [hjoin, parts_slash, parts_of_isPart h]

/-- A path that ends with a name asks for no directory. -/
theorem names_join (base : String) (h : IsPart name) :
    names (join base name) = parts base ++ [name] := by
  have hend : ∃ start, join base name = start ++ name := by
    rcases join_cases base h with ⟨-, hjoin⟩ | ⟨before, -, hjoin⟩ | ⟨-, hjoin⟩
    · exact ⟨"", by rw [hjoin, String.empty_append]⟩
    · exact ⟨_, hjoin⟩
    · exact ⟨_, hjoin⟩
  have hlast : (join base name).toList.getLast? ≠ some '/' := by
    obtain ⟨start, hend⟩ := hend
    rw [hend]
    exact getLast?_append_ne_slash start h
  rw [names_eq_parts hlast, parts_join base h]

theorem isAbsolute_join (base : String) (h : IsPart name) :
    isAbsolute (join base name) = isAbsolute base := by
  rcases join_cases base h with ⟨hbase, hjoin⟩ | ⟨before, hbase, hjoin⟩ | ⟨hbase, hjoin⟩
  · rw [hjoin, hbase, isAbsolute_of_isPart h]
    rfl
  · have hne : before ++ "/" ≠ "" := by simp
    rw [hjoin, hbase, isAbsolute_append hne]
  · rw [hjoin, String.append_assoc, isAbsolute_append hbase]

end Join

end ReleasePreview.Path
