import Mathlib.Data.List.TakeWhile
import ReleasePreview.Package.Json
import ReleasePreview.Proofs.Json.Acceptance

/-!
The texts that are package names: two parts with the only slash between them. A name is the same
whether it is made of its parts, read from its text or decoded, and what is refused is the whole
text, whichever of its parts is at fault.
-/
namespace ReleasePreview.PackageName

section Text

theorem ext_parts {p p' : PackageName} (ha : p.author = p'.author) (hp : p.project = p'.project) :
    p = p' := by
  cases p
  cases p'
  simp_all

theorem toList_text (p : PackageName) :
    p.text.toList = p.author.toList ++ '/' :: p.project.toList := by
  simp [text]

theorem ofParts_of_isPart {author project : String} (ha : IsPart author) (hp : IsPart project) :
    ofParts author project = .ok ⟨author, project, ha, hp⟩ := dif_pos ⟨ha, hp⟩

/-- A slash behind a text without one is the first one, so the text is the author. -/
theorem parse_append {author : String} (h : '/' ∉ author.toList) (project : String) :
    parse (author ++ "/" ++ project) = ofParts author project := by
  have hbefore : ∀ c ∈ author.toList, (c != '/') = true := fun c hc =>
    bne_iff_ne.mpr fun hslash => h (hslash ▸ hc)
  have hwhole : (author ++ "/" ++ project).toList = author.toList ++ '/' :: project.toList := by
    simp
  have hrest : (author ++ "/" ++ project).toList.dropWhile (· != '/') = '/' :: project.toList := by
    rw [hwhole, List.dropWhile_append_of_pos hbefore]
    rfl
  have hauthor : (author ++ "/" ++ project).toList.takeWhile (· != '/') = author.toList := by
    rw [hwhole, List.takeWhile_append_of_pos hbefore]
    simp
  rw [parse, hrest, hauthor]
  simp only [String.ofList_toList]

theorem parse_text (p : PackageName) : parse p.text = .ok p := by
  rw [text, parse_append p.author_isPart.2]
  exact ofParts_of_isPart p.author_isPart p.project_isPart

/-- A text is a package name if it is the text of one. -/
theorem parse_eq_ok {s : String} {p : PackageName} :
    parse s = .ok p ↔ s = p.author ++ "/" ++ p.project := by
  refine ⟨fun h => ?_, fun h => h ▸ parse_text p⟩
  have hwhole : s.toList = s.toList.takeWhile (· != '/') ++ s.toList.dropWhile (· != '/') :=
    List.takeWhile_append_dropWhile.symm
  rw [parse] at h
  split at h
  · contradiction
  · next c project hdrop =>
    have hslash : c = '/' := by
      have hne : s.toList.dropWhile (· != '/') ≠ [] := by simp [hdrop]
      simpa [hdrop] using List.head_dropWhile_not (· != '/') hne
    rw [ofParts] at h
    split at h
    · obtain rfl := Except.ok.inj h
      refine String.toList_inj.mp (hwhole.trans ?_)
      simp [hdrop, hslash]
    · contradiction

end Text

/-- A text with one slash, and something on both sides of it. -/
structure Parts (s author project : String) : Prop where
  text : s = author ++ "/" ++ project
  single : s.toList.count '/' = 1
  author : author ≠ ""
  project : project ≠ ""

variable {s author project e : String} {p : PackageName}

section Parts

/-- Where the slash between two parts is the only one, neither of them has one. -/
theorem parts_iff :
    Parts s author project ↔ s = author ++ "/" ++ project ∧ IsPart author ∧ IsPart project := by
  have hcount : (author ++ "/" ++ project).toList.count '/' =
      author.toList.count '/' + 1 + project.toList.count '/' := by
    simp only [String.toList_append, List.count_append]
    rfl
  constructor
  · rintro ⟨rfl, hsingle, hauthor, hproject⟩
    rw [hcount] at hsingle
    have hbefore : author.toList.count '/' = 0 := by omega
    have hbehind : project.toList.count '/' = 0 := by omega
    exact ⟨rfl, ⟨hauthor, List.count_eq_zero.mp hbefore⟩,
      ⟨hproject, List.count_eq_zero.mp hbehind⟩⟩
  · rintro ⟨rfl, ha, hp⟩
    refine ⟨rfl, ?_, ha.1, hp.1⟩
    rw [hcount, List.count_eq_zero.mpr ha.2, List.count_eq_zero.mpr hp.2]

theorem parse_eq_ok_iff_parts : parse s = .ok p ↔ Parts s p.author p.project ∧ p.text = s := by
  rw [parse_eq_ok, parts_iff]
  constructor
  · rintro rfl
    exact ⟨⟨rfl, p.author_isPart, p.project_isPart⟩, rfl⟩
  · exact fun h => h.1.1

/-- Parts are those of a name. -/
theorem Parts.exists_parse (h : Parts s author project) :
    ∃ p, parse s = .ok p ∧ p.author = author ∧ p.project = project := by
  obtain ⟨rfl, ha, hp⟩ := parts_iff.mp h
  exact ⟨⟨author, project, ha, hp⟩, parse_text ⟨author, project, ha, hp⟩, rfl, rfl⟩

end Parts

section Refusal

theorem ofParts_eq_ok :
    ofParts author project = .ok p ↔ p.author = author ∧ p.project = project := by
  constructor
  · intro h
    unfold ofParts at h
    split at h
    · obtain rfl := Except.ok.inj h
      exact ⟨rfl, rfl⟩
    · contradiction
  · rintro ⟨rfl, rfl⟩
    exact ofParts_of_isPart p.author_isPart p.project_isPart

theorem exists_ofParts_iff :
    (∃ p, ofParts author project = .ok p) ↔ IsPart author ∧ IsPart project := by
  constructor
  · rintro ⟨p, hp⟩
    obtain ⟨rfl, rfl⟩ := ofParts_eq_ok.mp hp
    exact ⟨p.author_isPart, p.project_isPart⟩
  · rintro ⟨ha, hp⟩
    exact ⟨_, ofParts_of_isPart ha hp⟩

theorem eq_of_ofParts_error (h : ofParts author project = .error e) :
    e = author ++ "/" ++ project := by
  unfold ofParts at h
  split at h
  · contradiction
  · exact (Except.error.inj h).symm

theorem parse_of_notMem (h : '/' ∉ s.toList) : parse s = .error s := by
  have hrest : s.toList.dropWhile (· != '/') = [] := by
    rw [List.dropWhile_eq_nil_iff]
    exact fun c hc => bne_iff_ne.mpr fun hslash => h (hslash ▸ hc)
  rw [parse, hrest]

/-- A text is refused as a whole, be it for want of a slash or for one of its parts. -/
theorem eq_of_parse_error (h : parse s = .error e) : e = s := by
  by_cases hslash : '/' ∈ s.toList
  · obtain ⟨before, behind, hs, hfirst⟩ := List.eq_append_cons_of_mem hslash
    have hcut : s = String.ofList before ++ "/" ++ String.ofList behind := by
      rw [← String.toList_inj, hs]
      simp
    have hbefore : '/' ∉ (String.ofList before).toList := by rwa [String.toList_ofList]
    rw [hcut, parse_append hbefore] at h
    rw [hcut]
    exact eq_of_ofParts_error h
  · rw [parse_of_notMem hslash] at h
    exact (Except.error.inj h).symm

theorem parse_eq_error : parse s = .error e ↔ e = s ∧ ∀ a b, ¬ Parts s a b := by
  constructor
  · intro h
    refine ⟨eq_of_parse_error h, fun a b hparts => ?_⟩
    obtain ⟨p, hp, -, -⟩ := hparts.exists_parse
    rw [hp] at h
    contradiction
  · rintro ⟨rfl, hnone⟩
    cases hparse : parse e with
    | ok p => exact absurd (parse_eq_ok_iff_parts.mp hparse).1 (hnone _ _)
    | error e' => rw [eq_of_parse_error hparse]

end Refusal

/-- A name is decoded of a text of JSON if a string is, and the name is read from that. -/
theorem decodeText_eq_ok {raw : String} : Json.decodeText decode raw = .ok p ↔
    ∃ s, Json.decodeText Json.Decoder.string raw = .ok s ∧ parse s = .ok p := by
  have hrefused : ∀ s, (parse s).mapError (fun e => Json.DecodeError.refused (refusal e)) = .ok p ↔
      parse s = .ok p := by
    intro s
    cases parse s <;> simp [Except.mapError]
  simp only [Json.decodeText_eq_ok, decode, Json.Decoder.parsed, Json.bind_eq_ok, hrefused]
  constructor
  · rintro ⟨root, hroot, s, hs, hp⟩
    exact ⟨s, ⟨root, hroot, hs⟩, hp⟩
  · rintro ⟨s, ⟨root, hroot, hs⟩, hp⟩
    exact ⟨root, hroot, s, hs, hp⟩

/-- A text is a package name if it has one slash, between parts that are not empty, and else it is
its own error. Parts make the name that the text of them is, or the same error, unless the first
part has a slash of its own. A name is read back from its text. -/
theorem parse_parts (s author project : String) :
    ((∃ p, parse s = .ok p) ↔ ∃ a b, Parts s a b) ∧
    (∀ p, parse s = .ok p ↔ Parts s p.author p.project ∧ p.text = s) ∧
    (∀ e, parse s = .error e ↔ e = s ∧ ∀ a b, ¬ Parts s a b) ∧
    ((∃ p, ofParts author project = .ok p) ↔
      (author ≠ "" ∧ '/' ∉ author.toList) ∧ project ≠ "" ∧ '/' ∉ project.toList) ∧
    (∀ p, ofParts author project = .ok p → p.author = author ∧ p.project = project) ∧
    ('/' ∉ author.toList → ofParts author project = parse (author ++ "/" ++ project)) ∧
    (∀ raw p, Json.decodeText decode raw = .ok p ↔
      ∃ t, Json.decodeText Json.Decoder.string raw = .ok t ∧ parse t = .ok p) ∧
    ∀ p : PackageName, parse p.text = .ok p := by
  have hparsed : (∃ p, parse s = .ok p) ↔ ∃ a b, Parts s a b := by
    constructor
    · rintro ⟨p, hp⟩
      exact ⟨_, _, (parse_eq_ok_iff_parts.mp hp).1⟩
    · rintro ⟨a, b, hparts⟩
      obtain ⟨p, hp, -, -⟩ := hparts.exists_parse
      exact ⟨p, hp⟩
  exact ⟨hparsed, fun p => parse_eq_ok_iff_parts, fun e => parse_eq_error, exists_ofParts_iff,
    fun p => ofParts_eq_ok.mp, fun h => (parse_append h project).symm,
    fun raw p => decodeText_eq_ok, parse_text⟩

example : parse "a/b/c" = .error "a/b/c" ∧ ofParts "a/b" "c" = .error "a/b/c" := by decide

end ReleasePreview.PackageName
