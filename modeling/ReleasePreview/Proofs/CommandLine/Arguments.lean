import Mathlib.Data.List.TakeWhile
import ReleasePreview.CommandLine.Invocation
import ReleasePreview.Proofs.Json.Acceptance

/-!
Which arguments ask for a comparison or for the reading of a report. Options may stand in any order,
each with its value behind it.
-/
namespace ReleasePreview.CommandLine

open Json

variable {form : Form} {g : Given} {o : String × String} {options : List (String × String)}
  {args : List String}

/-- An option with its value, as two arguments. -/
def written (o : String × String) : List String := ["--" ++ o.1, o.2]

/-- An option with its value that is taken at a level. -/
structure Form.Takes (form : Form) (o : String × String) : Prop where
  known : o.1 ∈ form.options
  plain : '=' ∉ o.1.toList
  ordinary : o.1 ∉ ["", "help", "version"]
  undashed : isDashed o.2 = false
  accepted : form.accepts o.1 o.2

theorem divided_of_plain {s : List Char} (h : '=' ∉ s) : divided s = (String.ofList s, none) := by
  have htake : s.takeWhile (· ≠ '=') = s :=
    List.takeWhile_eq_self_iff.mpr fun c hc => by simpa using fun heq : c = '=' => h (heq ▸ hc)
  rw [divided, htake, List.drop_length]

theorem readLevel_written (ho : form.Takes o) (hfresh : g.option? o.1 = none) :
    readLevel form g (written o ++ args) =
      readLevel form { g with options := o :: g.options } args := by
  obtain ⟨name, value⟩ := o
  obtain ⟨hknown, hplain, hordinary, hundashed, haccepted⟩ := ho
  simp only [List.mem_cons, List.not_mem_nil, not_or] at hordinary
  obtain ⟨hempty, hhelp, hversion, -⟩ := hordinary
  have hlong : ("--" ++ name).toList = '-' :: '-' :: name.toList := by simp
  obtain ⟨c, s, hs⟩ := List.exists_cons_of_ne_nil fun h => hempty (String.toList_eq_nil_iff.mp h)
  have hdivided : divided (c :: s) = (name, none) := by
    rw [divided_of_plain (hs ▸ hplain), ← hs, String.ofList_toList]
  have hadd : g.addOption form name value =
      .ok { g with options := (name, value) :: g.options } := by
    rw [Given.addOption, hfresh, haccepted]
    rfl
  rw [written, List.cons_append, List.cons_append, List.nil_append, readLevel, hlong, hs]
  simp only [hdivided]
  simp [hknown, hundashed, hadd, bind, Except.bind]

/-- Options are read one after the other, each under its name. -/
theorem readLevel_flatMap_written (htakes : ∀ o ∈ options, form.Takes o)
    (hnames : (options.map Prod.fst).Nodup) (hfresh : ∀ o ∈ options, g.option? o.1 = none) :
    ∃ g', readLevel form g (options.flatMap written) = .ok (g', []) ∧
      ∀ name, g'.option? name = (g.option? name).or (options.lookup name) := by
  induction options generalizing g with
  | nil => exact ⟨g, rfl, fun name => by simp⟩
  | cons o options ih =>
    obtain ⟨ho, htakes⟩ := List.forall_mem_cons.mp htakes
    obtain ⟨hname, hnames⟩ := List.nodup_cons.mp hnames
    obtain ⟨hfirst, hfresh⟩ := List.forall_mem_cons.mp hfresh
    -- The names differ, so what is still to come is new after this option as it was before.
    have hlater : ∀ o' ∈ options,
        ({ g with options := o :: g.options } : Given).option? o'.1 = none := by
      intro o' ho'
      have hne : (o'.1 == o.1) = false :=
        beq_eq_false_iff_ne.mpr fun heq => hname (heq ▸ List.mem_map_of_mem ho')
      rw [Given.option?, List.lookup_cons, hne]
      exact hfresh o' ho'
    obtain ⟨g', hread, hgiven⟩ := ih htakes hnames hlater
    refine ⟨g', ?_, fun name => ?_⟩
    · rw [List.flatMap_cons, readLevel_written ho hfirst, hread]
    · rw [hgiven, Given.option?, List.lookup_cons, List.lookup_cons]
      cases hname : name == o.1 with
      | true =>
        obtain rfl := eq_of_beq hname
        rw [hfirst]
        rfl
      | false => rfl

/-- A command is read from what is behind its name. -/
theorem request_of_invocation {environment : Environment} {name : String} {inner : Given}
    {i : Invocation} {profile : Logging.Profile} (hname : name ∈ commandNames)
    (hhelp : name ≠ "help") (hinvocation : invocation name args = .ok (inner, i))
    (hprofile : profileOf environment {} inner = .ok profile) :
    request environment (name :: args) = .ok ⟨profile, i⟩ := by
  have hrequest : request environment (name :: args) = (do
      let given ← invocation name args
      return { profile := ← profileOf environment {} given.1, invocation := given.2 }) := by
    simp only [commandNames, List.mem_cons, List.not_mem_nil, or_false] at hname
    rcases hname with rfl | rfl | rfl | rfl | rfl | rfl <;> first | rfl | contradiction
  rw [hrequest, hinvocation]
  simp only [ok_bind, hprofile]
  rfl

def contentDiffOptions : List String :=
  ["published", "current", "published-readme", "current-readme"]

/-- A comparison is asked for by its options in any order. -/
theorem request_contentDiff (environment : Environment) (options : List (String × String))
    {published current : String} (hlog : environment.get? "DOCPREVIEW_LOG_FORMAT" = none)
    (hoptions : ∀ o ∈ options, o.1 ∈ contentDiffOptions ∧ isDashed o.2 = false)
    (hnames : (options.map Prod.fst).Nodup)
    (hpublished : options.lookup "published" = some published)
    (hcurrent : options.lookup "current" = some current) :
    request environment ("content-diff" :: options.flatMap written) =
      .ok ⟨.default, .contentDiff published current (options.lookup "published-readme")
        (options.lookup "current-readme")⟩ := by
  have htakes : ∀ o ∈ options, (formOf contentDiffOptions).Takes o := by
    intro o ho
    obtain ⟨hknown, hundashed⟩ := hoptions o ho
    have hname : ∀ name ∈ contentDiffOptions,
        '=' ∉ name.toList ∧ name ∉ ["", "help", "version"] ∧ name ≠ logFormat := by
      decide
    obtain ⟨hplain, hordinary, hlog⟩ := hname o.1 hknown
    exact ⟨List.mem_cons_of_mem _ hknown, hplain, hordinary, hundashed, by simp [formOf, hlog]⟩
  have hform : options.lookup logFormat = none := by
    refine List.lookup_eq_none_iff.mpr fun o ho => bne_iff_ne.mpr fun heq => ?_
    exact absurd (heq ▸ (hoptions o ho).1) (by decide)
  obtain ⟨g, hread, hgiven⟩ := readLevel_flatMap_written (g := {}) htakes hnames fun _ _ => rfl
  have hgiven : ∀ name, g.option? name = options.lookup name := hgiven
  have hinvocation : invocation "content-diff" (options.flatMap written) =
      .ok (g, .contentDiff published current (options.lookup "published-readme")
        (options.lookup "current-readme")) := by
    rw [contentDiffOptions] at hread
    simp only [invocation, hread, ok_bind, pure_bind, hgiven, hpublished, hcurrent]
    rfl
  have hprofile : profileOf environment {} g = .ok .default := by
    simp only [profileOf, hgiven, hform, hlog]
    rfl
  exact request_of_invocation (by decide) (by decide) hinvocation hprofile

theorem readLevel_word {word : String} (hends : form.endsAtWord = false)
    (hword : isDashed word = false) : readLevel form g [word] =
      (g.addWords form [word] >>= fun g => readLevel form g []) := by
  have hfirst : word.toList.head? ≠ some '-' ∨ word = "-" := by
    refine or_iff_not_imp_left.mpr fun hfirst => ?_
    simpa [isDashed, not_not.mp hfirst] using hword
  rcases hfirst with hfirst | rfl
  · rw [readLevel]
    split <;> simp_all
  · simp [readLevel, hends]

/-- The reading of a report is asked for with or without a file. -/
theorem request_apiDiff (environment : Environment) (file : Option String)
    (hlog : environment.get? "DOCPREVIEW_LOG_FORMAT" = none)
    (hfile : ∀ path ∈ file, isDashed path = false) :
    request environment ("api-diff" :: file.toList) = .ok ⟨.default, .apiDiff file⟩ := by
  have hprofile : ∀ words, profileOf environment {} { words } = .ok .default := by
    intro words
    simp only [profileOf, hlog]
    rfl
  have hinvocation : invocation "api-diff" file.toList =
      .ok ({ words := file.toList }, .apiDiff file) := by
    cases file with
    | none => rfl
    | some path =>
      have hread : readLevel { formOf [] with maxWords := 1 } {} [path] = _ :=
        readLevel_word rfl (hfile path rfl)
      simp only [invocation, Option.toList_some, hread]
      rfl
  exact request_of_invocation (by decide) (by decide) hinvocation (hprofile _)

end ReleasePreview.CommandLine
