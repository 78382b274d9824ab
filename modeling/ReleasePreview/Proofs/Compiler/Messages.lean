import ReleasePreview.Proofs.Compiler.Stages
import ReleasePreview.Proofs.Text.Split

/-!
The messages of failures. Each names the program, the path or the address that it is about and ends
with the cause. From the first words of a message of a build it can be told which stage has failed.
-/
namespace ReleasePreview

namespace BackendError

/-- The program, the path or the address that a failure is about, and the cause of it. -/
inductive About : BackendError → (subject cause : String) → Prop
  | timeout (program : String) (seconds : Nat) :
      About (.timeout program seconds) program (toString seconds ++ "s")
  | exitStatus (program : String) (status : Option Nat) (stderr : String) :
      About (.exitStatus program status stderr) program stderr
  | inaccessible (path : String) (why : FileError) : About (.inaccessible path why) path why.message
  | malformed (path : String) (why : Json.DecodeError) :
      About (.malformed path why) path why.message
  | notRequested (url why : String) : About (.notRequested url why) url why
  | unexpectedStatus (url : String) (status : Nat) :
      About (.unexpectedStatus url status) url (Http.statusText status)
  | notReceived (url why : String) : About (.notReceived url why) url why
  | malformedAnswer (url : String) (why : Json.DecodeError) :
      About (.malformedAnswer url why) url why.message
  | notCreated (path : String) (why : FileError) : About (.notCreated path why) path why.message
  | notCleared (path : String) (why : FileError) : About (.notCleared path why) path why.message
  | notSpawned (program : String) (why : FileError) :
      About (.notSpawned program why) program why.message
  | notRead (path : String) (why : FileError) : About (.notRead path why) path why.message
  | malformedOutput (path : String) (why : Json.DecodeError) :
      About (.malformedOutput path why) path why.message

variable {e : BackendError} {subject cause : String}

/-- Only the listing of all packages has no address, and what is told in words no cause. -/
theorem exists_about (e : BackendError) : (∃ subject cause, e.About subject cause) ∨
    (∃ why, e = .malformedListing why) ∨ ∃ text, e = .other text := by
  cases e with
  | malformedListing why => exact .inr (.inl ⟨why, rfl⟩)
  | other text => exact .inr (.inr ⟨text, rfl⟩)
  | _ => exact .inl ⟨_, _, by constructor⟩

theorem message_names (h : e.About subject cause) :
    ∃ front middle, e.message = front ++ subject ++ middle ++ cause := by
  cases h with
  | timeout =>
    refine ⟨"", " timed out after ", ?_⟩
    simp only [String.empty_append, ← String.append_assoc]
    rfl
  | exitStatus _ status =>
    refine ⟨"", " failed with status " ++ exitText status ++ ": ", ?_⟩
    simp only [String.empty_append, ← String.append_assoc]
    rfl
  | inaccessible => exact ⟨"failed to access ", ": ", rfl⟩
  | malformed => exact ⟨"malformed ", ": ", rfl⟩
  | notRequested => exact ⟨"request to ", " failed: ", rfl⟩
  | unexpectedStatus => exact ⟨"request to ", " returned ", rfl⟩
  | notReceived => exact ⟨"failed to read ", ": ", rfl⟩
  | malformedAnswer => exact ⟨"malformed docs from ", ": ", rfl⟩
  | notCreated => exact ⟨"failed to create ", ": ", rfl⟩
  | notCleared => exact ⟨"failed to clear stale ", ": ", rfl⟩
  | notSpawned => exact ⟨"failed to spawn ", ": ", rfl⟩
  | notRead => exact ⟨"failed to read ", ": ", rfl⟩
  | malformedOutput => exact ⟨"malformed docs in ", ": ", rfl⟩

end BackendError

/-- The words of a text. -/
def wordsOf (s : String) : List String := (Text.split ' ' s.toList).map String.ofList

section Words

variable {front message rest : String} {words : List String}

theorem wordsOf_append (front rest : String) :
    wordsOf (front ++ " " ++ rest) = wordsOf front ++ wordsOf rest := by
  have hspace : (front ++ " " ++ rest).toList = front.toList ++ ' ' :: rest.toList := by
    simp
  rw [wordsOf, hspace, Text.split_append_cons, List.map_append, wordsOf, wordsOf]

theorem wordsOf_of_notMem {word : String} (h : ' ' ∉ word.toList) : wordsOf word = [word] := by
  rw [wordsOf, Text.split_of_not_mem h, List.map_singleton, String.ofList_toList]

theorem words_of_front (hfront : wordsOf front = words) (rest : String)
    (h : message = front ++ " " ++ rest) : words <+: wordsOf message := by
  rw [h, wordsOf_append, hfront]
  exact List.prefix_append words (wordsOf rest)

theorem words_of_cause {subject cause : String} (hfront : wordsOf front = words)
    (h : message = front ++ " " ++ subject ++ ": " ++ cause) : words <+: wordsOf message :=
  words_of_front hfront (subject ++ ": " ++ cause) (h.trans (by simp only [String.append_assoc]))

/-- The name of a program, if it is one word, and the word behind it. -/
theorem words_of_program {program word gap tail : String} (hprogram : ' ' ∉ program.toList)
    (hword : wordsOf word = [word]) (hgap : gap = " " ++ word ++ " " ++ tail)
    (h : message = program ++ gap ++ rest) : [program, word] <+: wordsOf message := by
  have hfront : wordsOf (program ++ " " ++ word) = [program, word] := by
    rw [wordsOf_append, wordsOf_of_notMem hprogram, hword]
    rfl
  refine words_of_front hfront (tail ++ rest) ?_
  rw [h, hgap]
  simp only [String.append_assoc]

end Words

/-- The stage of a build that a message is about, by its first words. -/
def DocsStage.ofMessage (message : String) : DocsStage :=
  if ["failed", "to", "create"] <+: wordsOf message then .directory
  else if ["failed", "to", "clear"] <+: wordsOf message then .clearing
  else if ["failed", "to", "read"] <+: wordsOf message then .reading
  else if ["malformed", "docs"] <+: wordsOf message then .decoding
  else .running

/-- The words that the message of a failure of a stage begins with. The name of a program counts as
a word, so it has no space in it. -/
inductive BackendError.Opens : BackendError → DocsStage → List String → Prop
  | notCreated (path : String) (why : FileError) :
      Opens (.notCreated path why) .directory ["failed", "to", "create"]
  | notCleared (path : String) (why : FileError) :
      Opens (.notCleared path why) .clearing ["failed", "to", "clear", "stale"]
  | notSpawned (program : String) (why : FileError) :
      Opens (.notSpawned program why) .running ["failed", "to", "spawn"]
  | timeout {program : String} (h : ' ' ∉ program.toList) (seconds : Nat) :
      Opens (.timeout program seconds) .running [program, "timed"]
  | exitStatus {program : String} (h : ' ' ∉ program.toList) (status : Option Nat)
      (stderr : String) : Opens (.exitStatus program status stderr) .running [program, "failed"]
  | notRead (path : String) (why : FileError) :
      Opens (.notRead path why) .reading ["failed", "to", "read"]
  | malformedOutput (path : String) (why : Json.DecodeError) :
      Opens (.malformedOutput path why) .decoding ["malformed", "docs", "in"]

namespace BackendError

variable {e : BackendError} {stage : DocsStage} {words : List String}

theorem Opens.front_words (h : e.Opens stage words) : words <+: wordsOf e.message := by
  cases h with
  | notCreated => exact words_of_cause (show wordsOf "failed to create" = _ by rfl) rfl
  | notCleared => exact words_of_cause (show wordsOf "failed to clear stale" = _ by rfl) rfl
  | notSpawned => exact words_of_cause (show wordsOf "failed to spawn" = _ by rfl) rfl
  | notRead => exact words_of_cause (show wordsOf "failed to read" = _ by rfl) rfl
  | malformedOutput => exact words_of_cause (show wordsOf "malformed docs in" = _ by rfl) rfl
  | timeout hprogram seconds =>
    have hgap : " timed out after " = " " ++ "timed" ++ " " ++ "out after " := rfl
    exact words_of_program hprogram rfl hgap (String.append_assoc ..)
  | @exitStatus program hprogram status stderr =>
    have hgap : " failed with status " = " " ++ "failed" ++ " " ++ "with status " := rfl
    have hrest : (BackendError.exitStatus program status stderr).message =
        program ++ " failed with status " ++ (exitText status ++ ": " ++ stderr) := by
      simp only [← String.append_assoc]
      rfl
    exact words_of_program hprogram rfl hgap hrest

theorem Opens.ofMessage_eq (h : e.Opens stage words) : .ofMessage e.message = stage := by
  obtain ⟨others, hwords⟩ := h.front_words
  cases h <;> simp [DocsStage.ofMessage, ← hwords]

end BackendError

namespace CompilerCommand

variable {c : CompilerCommand} {system : System} {directory : String} {files : FileTree}
  {build : DocsBuild} {e : BackendError}

theorem Documents.exists_opens (h : Documents c system directory files build)
    (hprogram : ' ' ∉ c.program.toList) (he : build.result = .error e) :
    ∃ stage words, e.Opens stage words ∧ build.stages.getLast? = some stage := by
  cases h with
  | built => contradiction
  | timedOut =>
    obtain rfl := Except.error.inj he
    exact ⟨_, _, .timeout hprogram _, rfl⟩
  | failed =>
    obtain rfl := Except.error.inj he
    exact ⟨_, _, .exitStatus hprogram _ _, rfl⟩
  | _ =>
    obtain rfl := Except.error.inj he
    exact ⟨_, _, by constructor, rfl⟩

/-- The stage that a build ended in can be told from its message. A program without a space in its
name is not taken for the beginning of another message. -/
theorem Documents.ofMessage_eq (h : Documents c system directory files build)
    (hprogram : ' ' ∉ c.program.toList) (he : build.result = .error e) :
    build.stages.getLast? = some (.ofMessage e.message) := by
  obtain ⟨stage, words, hopens, hlast⟩ := h.exists_opens hprogram he
  rw [hlast, hopens.ofMessage_eq]

end CompilerCommand

end ReleasePreview
