import ReleasePreview.Compiler.Command
import ReleasePreview.Proofs.Files.Removal

/-!
The stages of building a documentation, whatever the program does: which stage decides, and that
what is read was written by the program, not found by it.
-/
namespace ReleasePreview

namespace Documenting

variable {α β : Type} {stage : DocsStage} {act : FileTree → FileTree × Except BackendError α}
  {s : DocsProgress} {left : FileTree}

theorem run_enter (stage : DocsStage) (act : FileTree → FileTree × Except BackendError α)
    (s : DocsProgress) : (enter stage act).run.run s =
      ((act s.files).2, { stages := s.stages ++ [stage], files := (act s.files).1 }) := by
  have hrun : (enter stage act).run.run s =
      (MonadExcept.ofExcept (act s.files).2 : Documenting α).run.run
        { stages := s.stages ++ [stage], files := (act s.files).1 } := rfl
  rw [hrun]
  cases (act s.files).2 <;> rfl

theorem run_bind (x : Documenting α) (f : α → Documenting β) (s : DocsProgress) :
    (x >>= f).run.run s = (ExceptT.bindCont f (x.run.run s).1).run (x.run.run s).2 := rfl

/-- A stage that goes well hands its answer to the next one. -/
theorem run_enter_ok {a : α} (h : act s.files = (left, .ok a)) (f : α → Documenting β) :
    (enter stage act >>= f).run.run s =
      (f a).run.run { stages := s.stages ++ [stage], files := left } := by
  rw [run_bind, run_enter, h]
  rfl

theorem run_enter_error {e : BackendError} (h : act s.files = (left, .error e))
    (f : α → Documenting β) : (enter stage act >>= f).run.run s =
      (.error e, { stages := s.stages ++ [stage], files := left }) := by
  rw [run_bind, run_enter, h]
  rfl

end Documenting

namespace CompilerCommand

variable {c : CompilerCommand} {system : System} {directory : String}
  {files files' made cleared left : FileTree}

section Output

theorem output_eq (directory : String) :
    output directory = outputDirectory directory ++ "/" ++ "docs.json" := by
  have hparts : "elm-stuff/docpreview/docs.json" = "elm-stuff/docpreview" ++ "/" ++ "docs.json" :=
    rfl
  unfold output outputDirectory Path.join
  rw [show Path.isAbsolute "elm-stuff/docpreview/docs.json" = false from rfl,
    show Path.isAbsolute "elm-stuff/docpreview" = false from rfl, hparts]
  by_cases hempty : directory.isEmpty
  · simp only [hempty, Bool.or_true, if_true]
  · by_cases hslash : directory.toList.getLast? = some '/'
    · simp only [hempty, hslash, Bool.or_false, if_true, Bool.false_eq_true, if_false,
        String.append_assoc]
    · simp only [hempty, hslash, Bool.or_false, Bool.false_eq_true, if_false,
        String.append_assoc]

theorem getLast?_outputDirectory (directory : String) :
    (outputDirectory directory).toList.getLast? = some 'w' := by
  have hlast : ∀ base : String, (base ++ "elm-stuff/docpreview").toList.getLast? = some 'w' := by
    intro base
    rw [String.toList_append, List.getLast?_append_of_ne_nil _ (by decide)]
    rfl
  unfold outputDirectory Path.join
  split
  · rfl
  · split
    · exact hlast directory
    · exact hlast (directory ++ "/")

theorem makeOutputDirectory_ok
    (h : files.makeDirectories [] (outputDirectory directory) = (made, .ok ())) :
    makeOutputDirectory directory files = (made, .ok ()) := by
  rw [makeOutputDirectory, h]

/-- Two trees that differ in the output only: either one has a file there that may be removed, or
nothing. -/
def SameBesidesOutput (directory : String) (t t' : FileTree) : Prop :=
  ∃ p, t.resolve [] (output directory) false = .ok p ∧ t.erase p = t'.erase p ∧
    t.AtMostRemovable p ∧ t'.AtMostRemovable p

/-- An output that may be removed is, and no directory has to be made. -/
theorem clear_of_atMostRemovable {p : Place}
    (hp : files.resolve [] (output directory) false = .ok p) (hfile : files.AtMostRemovable p) :
    makeOutputDirectory directory files = (files, .ok ()) ∧
      clearOutput directory files = (files.erase p, .ok ()) := by
  have hlast := getLast?_outputDirectory directory
  have hmade : files.makeDirectories [] (outputDirectory directory) = (files, .ok ()) := by
    refine FileTree.makeDirectories_of_resolve (fun hempty => ?_) (by simp [hlast]) (by decide)
      (by decide) (output_eq directory ▸ hp)
    rw [hempty] at hlast
    contradiction
  refine ⟨makeOutputDirectory_ok hmade, ?_⟩
  unfold clearOutput
  cases hnode : files.node? p with
  | none =>
    rw [FileTree.remove_of_absent hp hnode, FileTree.erase_of_absent hnode]
  | some node =>
    obtain ⟨content, mode, rfl, hmode⟩ := hfile node hnode
    rw [FileTree.remove_of_file hp hnode, if_pos hmode]

end Output

section Outcome

/-- What is left when the way for the output is clear. -/
inductive Clears (directory : String) (files : FileTree) : FileTree → Prop
  | removed {made cleared : FileTree}
      (hmade : files.makeDirectories [] (outputDirectory directory) = (made, .ok ()))
      (h : made.remove [] (output directory) = .ok cleared) : Clears directory files cleared
  | absent {made : FileTree}
      (hmade : files.makeDirectories [] (outputDirectory directory) = (made, .ok ()))
      (h : made.remove [] (output directory) = .error .notFound) : Clears directory files made

/-- How the program is started for the documentation. -/
def docsLaunch (c : CompilerCommand) (directory : String) : Launch :=
  ⟨c.program, ["make", "--docs=" ++ output directory], directory⟩

/-- What a build of the documentation comes to. The first stage that fails decides, and no later
one is entered. -/
inductive Documents (c : CompilerCommand) (system : System) (directory : String)
    (files : FileTree) : DocsBuild → Prop
  | notCreated {made : FileTree} {why : FileError}
      (h : files.makeDirectories [] (outputDirectory directory) = (made, .error why)) :
      Documents c system directory files
        ⟨.error (.notCreated (outputDirectory directory) why), [.directory], made⟩
  | notCleared {made : FileTree} {why : FileError}
      (hmade : files.makeDirectories [] (outputDirectory directory) = (made, .ok ()))
      (h : made.remove [] (output directory) = .error why) (hwhy : why ≠ .notFound) :
      Documents c system directory files
        ⟨.error (.notCleared (output directory) why), [.directory, .clearing], made⟩
  | notSpawned {cleared left : FileTree} {why : FileError} (hclear : Clears directory files cleared)
      (h : system c.milliseconds (c.docsLaunch directory) cleared = (left, .notSpawned why)) :
      Documents c system directory files
        ⟨.error (.notSpawned c.program why), [.directory, .clearing, .running], left⟩
  | timedOut {cleared left : FileTree} (hclear : Clears directory files cleared)
      (h : system c.milliseconds (c.docsLaunch directory) cleared = (left, .timedOut)) :
      Documents c system directory files
        ⟨.error (.timeout c.program (c.milliseconds / 1000)), [.directory, .clearing, .running],
          left⟩
  | failed {cleared left : FileTree} {ending : Ending} {stdout stderr : List UInt8}
      (hclear : Clears directory files cleared)
      (h : system c.milliseconds (c.docsLaunch directory) cleared =
        (left, .finished ending stdout stderr)) (hending : ending ≠ .exited 0) :
      Documents c system directory files
        ⟨.error (.exitStatus c.program ending.status?
            (Text.trimmed (Text.Utf8.decodeLenient stderr))),
          [.directory, .clearing, .running], left⟩
  | notRead {cleared left : FileTree} {stdout stderr : List UInt8} {why : FileError}
      (hclear : Clears directory files cleared)
      (h : system c.milliseconds (c.docsLaunch directory) cleared =
        (left, .finished (.exited 0) stdout stderr))
      (hread : left.readText [] (output directory) = .error why) :
      Documents c system directory files
        ⟨.error (.notRead (output directory) why), [.directory, .clearing, .running, .reading],
          left⟩
  | malformed {cleared left : FileTree} {stdout stderr : List UInt8} {raw : String}
      {why : Json.DecodeError} (hclear : Clears directory files cleared)
      (h : system c.milliseconds (c.docsLaunch directory) cleared =
        (left, .finished (.exited 0) stdout stderr))
      (hread : left.readText [] (output directory) = .ok raw)
      (hdecode : Json.decodeText Docs.decode raw = .error why) :
      Documents c system directory files
        ⟨.error (.malformedOutput (output directory) why),
          [.directory, .clearing, .running, .reading, .decoding], left⟩
  | built {cleared left : FileTree} {stdout stderr : List UInt8} {raw : String} {docs : Docs}
      (hclear : Clears directory files cleared)
      (h : system c.milliseconds (c.docsLaunch directory) cleared =
        (left, .finished (.exited 0) stdout stderr))
      (hread : left.readText [] (output directory) = .ok raw)
      (hdecode : Json.decodeText Docs.decode raw = .ok docs) :
      Documents c system directory files
        ⟨.ok docs, [.directory, .clearing, .running, .reading, .decoding], left⟩

theorem Clears.stages (h : Clears directory files cleared) :
    ∃ made, makeOutputDirectory directory files = (made, .ok ()) ∧
      clearOutput directory made = (cleared, .ok ()) := by
  cases h with
  | removed hmade h => exact ⟨_, makeOutputDirectory_ok hmade, by rw [clearOutput, h]⟩
  | absent hmade h => exact ⟨_, makeOutputDirectory_ok hmade, by rw [clearOutput, h]⟩

/-- Where the way is clear, nothing is found. -/
theorem Clears.find (h : Clears directory files cleared) :
    cleared.find [] (output directory) = .error .notFound := by
  cases h with
  | removed _ h => exact FileTree.find_of_remove_ok h
  | absent _ h => exact FileTree.find_of_remove_notFound h

/-- A run that is reported as an error ends a build. -/
theorem run_producing_of_error {s : DocsProgress} {run : Run} {e : BackendError}
    (h : system c.milliseconds (c.docsLaunch directory) s.files = (left, run))
    (hreport : c.report run = .error e) : (c.producing system directory).run.run s =
      (.error e, { stages := s.stages ++ [.running], files := left }) := by
  have hrun : c.run system ["make", "--docs=" ++ output directory] s.files directory =
      (left, .error e) := by
    rw [CompilerCommand.run, ← docsLaunch, h, ← hreport]
  rw [producing, Documenting.run_enter_error hrun]

/-- After a run that succeeds, the output is read in the files that it left. -/
theorem run_producing_of_exited {s : DocsProgress} {stdout stderr : List UInt8}
    (h : system c.milliseconds (c.docsLaunch directory) s.files =
      (left, .finished (.exited 0) stdout stderr)) : (c.producing system directory).run.run s =
      match readOutput directory left with
      | .error e => (.error e, { stages := s.stages ++ [.running] ++ [.reading], files := left })
      | .ok raw => (decodeOutput directory raw,
          { stages := s.stages ++ [.running] ++ [.reading] ++ [.decoding], files := left }) := by
  have hrun : c.run system ["make", "--docs=" ++ output directory] s.files directory =
      (left, .ok (Text.Utf8.decodeLenient stdout)) := by
    rw [CompilerCommand.run, ← docsLaunch, h]
    rfl
  rw [producing, Documenting.run_enter_ok hrun]
  cases hread : readOutput directory left with
  | error e => rw [Documenting.run_enter_error (by rw [hread])]
  | ok raw => rw [Documenting.run_enter_ok (by rw [hread]), Documenting.run_enter]

theorem report_of_ending {ending : Ending} (h : ending ≠ .exited 0) (stdout stderr : List UInt8) :
    c.report (.finished ending stdout stderr) = .error (.exitStatus c.program ending.status?
      (Text.trimmed (Text.Utf8.decodeLenient stderr))) := by
  unfold report
  split
  · contradiction
  · contradiction
  · next heq => cases heq; contradiction
  · next heq => cases heq; rfl

theorem document_of_run {result : Except BackendError Docs} {stages : List DocsStage}
    (h : (c.documenting system directory).run.run { files } =
      (result, { stages, files := left })) :
    c.document system files directory = ⟨result, stages, left⟩ := by
  rw [document, h]

theorem document_of_clears (hclear : Clears directory files cleared)
    {result : Except BackendError Docs} {stages : List DocsStage}
    (h : (c.producing system directory).run.run
      { stages := [.directory, .clearing], files := cleared } =
        (result, { stages, files := left })) :
    c.document system files directory = ⟨result, stages, left⟩ := by
  obtain ⟨made, hmade, hcleared⟩ := hclear.stages
  apply document_of_run
  rw [documenting, Documenting.run_enter_ok hmade, Documenting.run_enter_ok hcleared]
  exact h

theorem Documents.document_eq {build : DocsBuild}
    (h : Documents c system directory files build) :
    c.document system files directory = build := by
  cases h with
  | @notCreated made why h =>
    have hmade : makeOutputDirectory directory files =
        (made, .error (.notCreated (outputDirectory directory) why)) := by
      rw [makeOutputDirectory, h]
    apply document_of_run
    rw [documenting, Documenting.run_enter_error hmade]
    rfl
  | @notCleared made why hmade h hwhy =>
    have hclear : clearOutput directory made =
        (made, .error (.notCleared (output directory) why)) := by
      unfold clearOutput
      rw [h]
      split
      · contradiction
      · next heq => exact absurd (Except.error.inj heq) hwhy
      · next heq => rw [Except.error.inj heq]
    apply document_of_run
    rw [documenting, Documenting.run_enter_ok (makeOutputDirectory_ok hmade),
      Documenting.run_enter_error hclear]
    rfl
  | notSpawned hclear h => exact document_of_clears hclear (run_producing_of_error h rfl)
  | timedOut hclear h => exact document_of_clears hclear (run_producing_of_error h rfl)
  | failed hclear h hending =>
    exact document_of_clears hclear (run_producing_of_error h (report_of_ending hending _ _))
  | notRead hclear h hread =>
    apply document_of_clears hclear
    rw [run_producing_of_exited h, readOutput, hread]
    rfl
  | malformed hclear h hread hdecode =>
    apply document_of_clears hclear
    rw [run_producing_of_exited h, readOutput, hread]
    simp only [Except.mapError, decodeOutput, hdecode]
    rfl
  | built hclear h hread hdecode =>
    apply document_of_clears hclear
    rw [run_producing_of_exited h, readOutput, hread]
    simp only [Except.mapError, decodeOutput, hdecode]
    rfl

theorem exists_documents (c : CompilerCommand) (system : System) (directory : String)
    (files : FileTree) : ∃ build, Documents c system directory files build := by
  rcases hmade : files.makeDirectories [] (outputDirectory directory) with ⟨made, answer⟩
  cases answer with
  | error why => exact ⟨_, .notCreated hmade⟩
  | ok =>
    have hclear : (∃ cleared, Clears directory files cleared) ∨
        ∃ why, made.remove [] (output directory) = .error why ∧ why ≠ .notFound := by
      cases hremove : made.remove [] (output directory) with
      | ok cleared => exact .inl ⟨cleared, .removed hmade hremove⟩
      | error why =>
        by_cases hwhy : why = .notFound
        · subst hwhy
          exact .inl ⟨made, .absent hmade hremove⟩
        · exact .inr ⟨why, rfl, hwhy⟩
    rcases hclear with ⟨cleared, hclear⟩ | ⟨why, hremove, hwhy⟩
    · rcases hrun : system c.milliseconds (c.docsLaunch directory) cleared with ⟨left, run⟩
      cases run with
      | notSpawned why => exact ⟨_, .notSpawned hclear hrun⟩
      | timedOut => exact ⟨_, .timedOut hclear hrun⟩
      | finished ending stdout stderr =>
        by_cases hending : ending = .exited 0
        · subst hending
          cases hread : left.readText [] (output directory) with
          | error why => exact ⟨_, .notRead hclear hrun hread⟩
          | ok raw =>
            cases hdecode : Json.decodeText Docs.decode raw with
            | error why => exact ⟨_, .malformed hclear hrun hread hdecode⟩
            | ok docs => exact ⟨_, .built hclear hrun hread hdecode⟩
        · exact ⟨_, .failed hclear hrun hending⟩
    · exact ⟨_, .notCleared hmade hremove hwhy⟩

theorem document_eq_iff {build : DocsBuild} : c.document system files directory = build ↔
    Documents c system directory files build := by
  constructor
  · rintro rfl
    obtain ⟨build, h⟩ := exists_documents c system directory files
    rwa [h.document_eq]
  · exact Documents.document_eq

theorem buildDocs_eq_ok_iff {docs : Docs} :
    (c.buildDocs system files directory).2 = .ok docs ↔
      ∃ cleared left stdout stderr raw, Clears directory files cleared ∧
        system c.milliseconds (c.docsLaunch directory) cleared =
          (left, .finished (.exited 0) stdout stderr) ∧
        left.readText [] (output directory) = .ok raw ∧
        Json.decodeText Docs.decode raw = .ok docs := by
  have hresult : (c.buildDocs system files directory).2 =
      (c.document system files directory).result := rfl
  constructor
  · intro h
    obtain ⟨build, hbuild⟩ := exists_documents c system directory files
    rw [hresult, hbuild.document_eq] at h
    cases hbuild with
    | built hclear hrun hread hdecode =>
      obtain rfl := Except.ok.inj h
      exact ⟨_, _, _, _, _, hclear, hrun, hread, hdecode⟩
    | _ => contradiction
  · rintro ⟨cleared, left, stdout, stderr, raw, hclear, hrun, hread, hdecode⟩
    rw [hresult, (Documents.built hclear hrun hread hdecode).document_eq]

/-- The program is not started unless the way for the output is clear, so it makes no difference
then which one it is. -/
theorem documents_of_blocked (h : ∀ cleared, ¬ Clears directory files cleared) (system' : System) :
    Documents c system' directory files (c.document system files directory) := by
  obtain ⟨build, hbuild⟩ := exists_documents c system directory files
  rw [hbuild.document_eq]
  cases hbuild with
  | notCreated hmade => exact .notCreated hmade
  | notCleared hmade hremove hwhy => exact .notCleared hmade hremove hwhy
  | notSpawned hclear => exact absurd hclear (h _)
  | timedOut hclear => exact absurd hclear (h _)
  | failed hclear => exact absurd hclear (h _)
  | notRead hclear => exact absurd hclear (h _)
  | malformed hclear => exact absurd hclear (h _)
  | built hclear => exact absurd hclear (h _)

end Outcome

/-- A file that is already there makes no difference. -/
theorem document_of_sameBesidesOutput (h : SameBesidesOutput directory files files') :
    c.document system files directory = c.document system files' directory := by
  obtain ⟨p, hp, hsame, hfile, hfile'⟩ := h
  have hp' := FileTree.resolve_of_erase_eq hsame hfile.atMostFile hfile'.atMostFile hp
  obtain ⟨hmade, hclear⟩ := clear_of_atMostRemovable hp hfile
  obtain ⟨hmade', hclear'⟩ := clear_of_atMostRemovable hp' hfile'
  have hrun : (c.documenting system directory).run.run { files } =
      (c.documenting system directory).run.run { files := files' } := by
    rw [documenting, Documenting.run_enter_ok hmade, Documenting.run_enter_ok hclear,
      Documenting.run_enter_ok hmade', Documenting.run_enter_ok hclear', hsame]
  rw [document, document, hrun]

/-- Whatever the program does with the files that it finds, a build comes to the same documentation
and the same files with an old output as without one. It comes to a documentation exactly if the
output could be cleared away, the program ended in time and with success, and what it left reads as
that documentation, where it had found nothing. Otherwise, the first stage that fails gives the
error, and no later one is entered: the program does not matter when the way is not clear. -/
theorem buildDocs_afresh (c : CompilerCommand) (system : System) (directory : String) :
    (∀ files files', SameBesidesOutput directory files files' →
      c.document system files directory = c.document system files' directory ∧
      c.buildDocs system files directory = c.buildDocs system files' directory) ∧
    (∀ files build, c.document system files directory = build ↔
      Documents c system directory files build) ∧
    (∀ files docs, (c.buildDocs system files directory).2 = .ok docs ↔
      ∃ cleared left stdout stderr raw, Clears directory files cleared ∧
        cleared.find [] (output directory) = .error .notFound ∧
        system c.milliseconds (c.docsLaunch directory) cleared =
          (left, .finished (.exited 0) stdout stderr) ∧
        left.readText [] (output directory) = .ok raw ∧
        Json.decodeText Docs.decode raw = .ok docs) ∧
    (∀ files, (∀ cleared, ¬ Clears directory files cleared) → ∀ system',
      c.document system' files directory = c.document system files directory) := by
  refine ⟨fun files files' h => ?_, fun files build => document_eq_iff, fun files docs => ?_,
    fun files hblocked system' => (documents_of_blocked hblocked system').document_eq⟩
  · have hdocument : c.document system files directory = c.document system files' directory :=
      document_of_sameBesidesOutput h
    exact ⟨hdocument, by rw [buildDocs, buildDocs, hdocument]⟩
  · rw [buildDocs_eq_ok_iff]
    constructor
    · rintro ⟨cleared, left, stdout, stderr, raw, hclear, h⟩
      exact ⟨cleared, left, stdout, stderr, raw, hclear, hclear.find, h⟩
    · rintro ⟨cleared, left, stdout, stderr, raw, hclear, -, h⟩
      exact ⟨cleared, left, stdout, stderr, raw, hclear, h⟩

/-- A program that succeeds without writing does not pass the documentation of an earlier build. -/
theorem buildDocs_afresh_silent :
    let c : CompilerCommand := ⟨"elm", 60000⟩
    let silent : System := fun _ _ files => (files, .finished (.exited 0) [] [])
    let bare : FileTree := ⟨[(["p"], .directory), (["p", "elm-stuff"], .directory),
      (["p", "elm-stuff", "docpreview"], .directory)]⟩
    let stale : FileTree :=
      ⟨(["p", "elm-stuff", "docpreview", "docs.json"], .file [91, 93] false) :: bare.nodes⟩
    SameBesidesOutput "/p" stale bare ∧
      stale.readText [] (output "/p") = .ok "[]" ∧ Json.decodeText Docs.decode "[]" = .ok [] ∧
      c.buildDocs silent stale "/p" = (bare, .error (.notRead (output "/p") .notFound)) := by
  intro c silent bare stale
  have hsame : SameBesidesOutput "/p" stale bare := by
    refine ⟨["p", "elm-stuff", "docpreview", "docs.json"], by decide +kernel, by decide +kernel,
      fun node hnode => ?_, fun node hnode => ?_⟩
    · exact ⟨[91, 93], false, (Option.some.inj hnode).symm, rfl⟩
    · cases hnode
  refine ⟨hsame, by decide +kernel, by decide +kernel, ?_⟩
  rw [((buildDocs_afresh c silent "/p").1 stale bare hsame).2]
  rfl

end CompilerCommand

end ReleasePreview
