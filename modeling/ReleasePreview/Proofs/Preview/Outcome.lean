import ReleasePreview.Preview.Build
import ReleasePreview.Proofs.Source.Fallback

/-!
What a preview comes to, whatever the compiler and the sources do: which steps it takes, which
failure decides, and what each part of an update is made of.
-/
namespace ReleasePreview

namespace Building

variable {α β : Type} {x : Building α} {s t : Progress}

theorem run_bind (x : Building α) (f : α → Building β) (s : Progress) :
    (x >>= f).run.run s = (ExceptT.bindCont f (x.run.run s).1).run (x.run.run s).2 := rfl

/-- A part that went well hands its answer to the next one. -/
theorem run_bind_ok {a : α} (h : x.run.run s = (.ok a, t)) (f : α → Building β) :
    (x >>= f).run.run s = (f a).run.run t := by
  rw [run_bind, h]
  rfl

theorem run_bind_error {e : PreviewError} (h : x.run.run s = (.error e, t)) (f : α → Building β) :
    (x >>= f).run.run s = (.error e, t) := by
  rw [run_bind, h]
  rfl

theorem run_throw (e : PreviewError) : (throw e : Building α).run.run s = (.error e, s) := rfl

theorem run_get : (get : Building Progress).run.run s = (.ok s, s) := rfl

theorem run_modify (f : Progress → Progress) :
    (modify f : Building Unit).run.run s = (.ok (), f s) := rfl

theorem run_ofExcept (r : Except PreviewError α) :
    (MonadExcept.ofExcept r : Building α).run.run s = (r, s) := by
  cases r <;> rfl

theorem run_resolve (registry : Registry) (w : Surroundings) (p : PackageName) :
    (resolve registry w p).run.run s = (.ok (registry.baseline w p).result.toOption.join,
      { s with
        steps := s.steps ++ [.resolve p]
        sourceCalls := s.sourceCalls ++ (registry.baseline w p).calls }) := rfl

theorem run_compile (call : CompilerCall) (command : FileTree → String → FileTree × α)
    (directory : String) : (compile call command directory).run.run s =
      (.ok (command s.files directory).2,
        { s with
          steps := s.steps ++ [.compile call]
          files := (command s.files directory).1 }) := rfl

theorem run_readReadme (p : Project) : (readReadme p).run.run s =
    (p.readme s.files, { s with steps := s.steps ++ [.readReadme] }) := by
  rw [readReadme, run_bind_ok (run_modify _), run_bind_ok run_get, run_ofExcept]

end Building

/-- What an update is made of, with what came of building, reporting and resolving. A baseline that
was not resolved is one that there is not. -/
structure Update.Merges (u : Update) (m : PackageManifest) (docs : Docs) (readme : Option String)
    (report : Except BackendError String) (answer : Except Call (Option Baseline)) : Prop where
  name : u.name = some m.name
  version : u.version = some m.version
  publishedVersion : ∀ v, u.publishedVersion = some v ↔
    ∃ b, answer = .ok (some b) ∧ b.version = v
  contentDiff : ∀ d, u.contentDiff = some d ↔
    ∃ b, answer = .ok (some b) ∧ contentDiff? b.docs (some docs) b.readme readme = some d
  diff : ∀ d, u.diff = some d ↔ ∃ text, report = .ok text ∧ Report.parse? text = some d
  docs : u.docs = docs
  readme : u.readme = readme

/-- An answer that may be missing, from one that may have failed. -/
theorem toOption_join_eq_some {ε α : Type} {answer : Except ε (Option α)} {a : α} :
    answer.toOption.join = some a ↔ answer = .ok (some a) := by
  cases answer <;> simp [Except.toOption]

namespace Project

theorem update_merges (m : PackageManifest) (docs : Docs) (readme : Option String)
    (report : Except BackendError String) (answer : Except Call (Option Baseline)) :
    (update m docs report answer.toOption.join readme).Merges m docs readme report answer where
  name := rfl
  version := rfl
  publishedVersion v := by
    simp only [update, Option.map_eq_some_iff, toOption_join_eq_some]
  contentDiff d := by
    simp only [update, Option.bind_eq_some_iff, toOption_join_eq_some]
  diff d := by
    cases report <;> simp [update, Except.toOption]
  docs := rfl
  readme := rfl

section Endings

variable {p : Project} {compiler : Compiler} {registry : Registry} {w : Surroundings}
  {m : PackageManifest} {built reported : FileTree}

theorem preview_application {dirs : List String} (hp : p.manifest = .application dirs) :
    p.preview compiler registry w =
      ⟨.error (.unsupported p.root.path), [], [], w.files⟩ := by
  have hrun : (p.building compiler registry w).run.run { files := w.files } =
      (.error (.unsupported p.root.path), { files := w.files }) := by
    rw [building, package?, hp]
    rfl
  rw [preview, hrun]

/-- Once the documentation cannot be built, nothing else is done. -/
theorem preview_of_docs_error {e : BackendError} (hp : p.manifest = .package m)
    (hdocs : compiler.buildDocs w.files p.root.path = (built, .error e)) :
    p.preview compiler registry w = ⟨.error (.compiler e),
      [.resolve m.name, .compile .buildDocs], (registry.baseline w m.name).calls, built⟩ := by
  have hrun : (p.building compiler registry w).run.run { files := w.files } =
      (.error (.compiler e), {
        steps := [.resolve m.name, .compile .buildDocs]
        sourceCalls := (registry.baseline w m.name).calls
        files := built }) := by
    rw [building, package?, hp]
    dsimp only [Manifest.package?]
    rw [Building.run_bind_ok (Building.run_resolve ..),
      Building.run_bind_ok (Building.run_compile ..), hdocs]
    exact Building.run_throw _
  rw [preview, hrun]

/-- With the documentation at hand, only the readme can go wrong. It is read in the files that the
report leaves. -/
theorem preview_of_docs_ok {docs : Docs} {report : Except BackendError String}
    (hp : p.manifest = .package m)
    (hdocs : compiler.buildDocs w.files p.root.path = (built, .ok docs))
    (hreport : compiler.diff built p.root.path = (reported, report)) :
    p.preview compiler registry w =
      ⟨(p.readme reported).map
          (update m docs report (registry.baseline w m.name).result.toOption.join),
        [.resolve m.name, .compile .buildDocs, .compile .diff, .readReadme],
        (registry.baseline w m.name).calls, reported⟩ := by
  have hrun : (p.building compiler registry w).run.run { files := w.files } =
      ((p.readme reported).map
          (update m docs report (registry.baseline w m.name).result.toOption.join), {
        steps := [.resolve m.name, .compile .buildDocs, .compile .diff, .readReadme]
        sourceCalls := (registry.baseline w m.name).calls
        files := reported }) := by
    rw [building, package?, hp]
    dsimp only [Manifest.package?]
    rw [Building.run_bind_ok (Building.run_resolve ..),
      Building.run_bind_ok (Building.run_compile ..), hdocs]
    dsimp only
    rw [Building.run_bind_ok (Building.run_compile ..), hreport]
    dsimp only
    cases hreadme : p.readme reported with
    | error e =>
      rw [Building.run_bind_error (by rw [Building.run_readReadme, hreadme])]
      rfl
    | ok readme =>
      rw [Building.run_bind_ok (by rw [Building.run_readReadme, hreadme])]
      rfl
  rw [preview, hrun]

theorem readme_of_text {text : String}
    (h : built.readText [] (fileIn p.root readmeFile) = .ok text) :
    p.readme built = .ok (some text) := by
  simp only [readme, FileTree.readText?, h]
  rfl

/-- A package need not have a readme. -/
theorem readme_of_missing (h : built.readText [] (fileIn p.root readmeFile) = .error .notFound) :
    p.readme built = .ok none := by
  simp only [readme, FileTree.readText?, h]
  rfl

theorem readme_of_unreadable {why : FileError}
    (h : built.readText [] (fileIn p.root readmeFile) = .error why) (hwhy : why ≠ .notFound) :
    p.readme built = .error (.inaccessible (fileIn p.root readmeFile) why) := by
  simp only [readme, FileTree.readText?, h]
  rfl

end Endings

/-- An application is turned down before anything is done. For a package the published state is
resolved once and the documentation is built once, and the changes are reported once if that went
well. A documentation that cannot be built and a readme that cannot be read are errors, in this
order. Whatever else fails costs an update the part that comes of it, and no more. -/
theorem preview_outcome (p : Project) (compiler : Compiler) (registry : Registry)
    (w : Surroundings) :
    (∀ dirs, p.manifest = .application dirs →
      p.preview compiler registry w =
        ⟨.error (.unsupported p.root.path), [], [], w.files⟩) ∧
    ∀ m, p.manifest = .package m →
      (p.preview compiler registry w).resolved = [m.name] ∧
      (p.preview compiler registry w).sourceCalls = (registry.baseline w m.name).calls ∧
      (∀ c, (registry.baseline w m.name).result = .error c →
        ∃ s ∈ registry.sources, s.CrashesAt w m.name c) ∧
      (∀ built e, compiler.buildDocs w.files p.root.path = (built, .error e) →
        (p.preview compiler registry w).compilerCalls = [.buildDocs] ∧
        .readReadme ∉ (p.preview compiler registry w).steps ∧
        (p.preview compiler registry w).result = .error (.compiler e)) ∧
      ∀ built docs reported report,
        compiler.buildDocs w.files p.root.path = (built, .ok docs) →
        compiler.diff built p.root.path = (reported, report) →
        (p.preview compiler registry w).compilerCalls = [.buildDocs, .diff] ∧
        (∀ why, reported.readText [] (fileIn p.root readmeFile) = .error why → why ≠ .notFound →
          (p.preview compiler registry w).result =
            .error (.inaccessible (fileIn p.root readmeFile) why)) ∧
        (reported.readText [] (fileIn p.root readmeFile) = .error .notFound →
          ∃ u, (p.preview compiler registry w).result = .ok u ∧
            u.Merges m docs none report (registry.baseline w m.name).result) ∧
        (∀ text, reported.readText [] (fileIn p.root readmeFile) = .ok text →
          ∃ u, (p.preview compiler registry w).result = .ok u ∧
            u.Merges m docs (some text) report (registry.baseline w m.name).result) := by
  refine ⟨fun dirs hp => preview_application hp, fun m hp => ?_⟩
  have hsteps : (p.preview compiler registry w).resolved = [m.name] ∧
      (p.preview compiler registry w).sourceCalls = (registry.baseline w m.name).calls := by
    rcases hdocs : compiler.buildDocs w.files p.root.path with ⟨built, answer⟩
    cases answer with
    | error e => rw [preview_of_docs_error hp hdocs]; exact ⟨rfl, rfl⟩
    | ok docs => rw [preview_of_docs_ok hp hdocs rfl]; exact ⟨rfl, rfl⟩
  refine ⟨hsteps.1, hsteps.2, fun c hc => (registry.resolves_baseline w m.name).exists_crash hc,
    fun built e hdocs => ?_, fun built docs reported report hdocs hreport => ?_⟩
  · rw [preview_of_docs_error hp hdocs]
    exact ⟨rfl, by simp, rfl⟩
  · rw [preview_of_docs_ok hp hdocs hreport]
    refine ⟨rfl, fun why hread hwhy => ?_, fun hmissing => ?_, fun text htext => ?_⟩
    · rw [readme_of_unreadable hread hwhy]
      rfl
    · rw [readme_of_missing hmissing]
      exact ⟨_, rfl, update_merges ..⟩
    · rw [readme_of_text htext]
      exact ⟨_, rfl, update_merges ..⟩

/-- A package without a readme whose published state has none either; the same one when it cannot be
documented; and an application. -/
theorem preview_outcome_published :
    let m : PackageManifest :=
      { name := ⟨"elm", "json", by decide, by decide⟩, version := ⟨1, 1, 0⟩ }
    let published : Source :=
      { id := "local", label := "Local", versions := fun _ _ => .answered [⟨1, 0, 0⟩]
        docs := fun _ _ _ => .answered (some []), readme := fun _ _ _ => .failed (.other "") }
    let p : Project := ⟨["p"], .package m⟩
    let compiler := Compiler.scripted (.ok [{ name := "A" }]) (.ok "This is a MINOR change.")
    let broken := Compiler.scripted (.error (.timeout "elm" 60)) (.ok "")
    (∃ u, (p.preview compiler ⟨[published]⟩ {}).result = .ok u ∧ u.readme = none ∧
      u.publishedVersion = some ⟨1, 0, 0⟩ ∧ u.diff = some { magnitude := .minor } ∧
      u.contentDiff = none) ∧
    (p.preview compiler ⟨[published]⟩ {}).compilerCalls = [.buildDocs, .diff] ∧
    (p.preview broken ⟨[published]⟩ {}).result = .error (.compiler (.timeout "elm" 60)) ∧
    ((⟨["p"], .application []⟩ : Project).preview compiler ⟨[published]⟩ {}).result =
      .error (.unsupported "/p") := by
  have hpath : fileIn ["p"] readmeFile = "/p/README.md" := by rfl
  have hmissing : ({} : FileTree).readText [] "/p/README.md" = .error .notFound := by rfl
  rw [← hpath] at hmissing
  intro m published p compiler broken
  have hbaseline : ((⟨[published]⟩ : Registry).baseline {} m.name).result =
      .ok (some ⟨⟨1, 0, 0⟩, some [], none⟩) := by rfl
  obtain ⟨-, hpackage⟩ := preview_outcome p compiler ⟨[published]⟩ {}
  obtain ⟨-, -, -, -, hdocumented⟩ := hpackage m rfl
  obtain ⟨hcalls, -, hnoReadme, -⟩ := hdocumented _ _ _ _ rfl rfl
  obtain ⟨u, hresult, hmerges⟩ := hnoReadme hmissing
  refine ⟨⟨u, hresult, hmerges.readme, (hmerges.publishedVersion _).mpr ⟨_, hbaseline, rfl⟩,
    (hmerges.diff _).mpr ⟨_, rfl, by decide +kernel⟩, ?_⟩, hcalls, ?_, ?_⟩
  · rw [Option.eq_none_iff_forall_ne_some]
    intro d hd
    obtain ⟨b, hb, hdiff⟩ := (hmerges.contentDiff d).mp hd
    obtain rfl := Option.some.inj (Except.ok.inj (hbaseline.symm.trans hb))
    have hnone : contentDiff? (some []) (some [{ name := "A" }]) none none = none := by
      decide +kernel
    rw [hnone] at hdiff
    contradiction
  · obtain ⟨-, hpackage⟩ := preview_outcome p broken ⟨[published]⟩ {}
    obtain ⟨-, -, -, hfailed, -⟩ := hpackage m rfl
    exact (hfailed _ _ rfl).2.2
  · obtain ⟨happlication, -⟩ :=
      preview_outcome ⟨["p"], .application []⟩ compiler ⟨[published]⟩ {}
    rw [happlication [] rfl]
    rfl

end Project

end ReleasePreview
