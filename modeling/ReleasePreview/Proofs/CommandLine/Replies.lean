import Mathlib.Data.Option.Defs
import ReleasePreview.CommandLine.Run
import ReleasePreview.Proofs.CommandLine.Arguments
import ReleasePreview.Proofs.CommandLine.Failure
import ReleasePreview.Proofs.Preview.WireFormat
import ReleasePreview.Proofs.Project.Discovery
import ReleasePreview.Proofs.Text.Utf8

/-!
What is left by a command line that compares documentations or reads a report. The inputs are read
one after the other, and all of them before anything is written: either there is one document, from
which the result is read back, or the output is empty and the first input that fails is named.
-/
namespace ReleasePreview.CommandLine

open Json

/-- An input of a comparison. -/
inductive Input where
  | docs (path : String)
  | readme (path : String)

/-- The inputs of a comparison, in the order in which they are read. -/
def inputs (published current : String) (publishedReadme currentReadme : Option String) :
    List Input :=
  .docs published :: .docs current :: (publishedReadme.toList ++ currentReadme.toList).map .readme

namespace Host

/-- A path leads to a file of a text, and the file may be read. -/
def Holds (h : Host) (path text : String) : Prop :=
  ∃ mode, h.surroundings.files.find h.surroundings.directory path =
    .ok (.file (Text.Utf8.encode text) mode) ∧ mode.readable

def HoldsDocs (h : Host) (path : String) (docs : Docs) : Prop :=
  ∃ text, h.Holds path text ∧ decodeText Docs.decode text = .ok docs

/-- A path leads to no text: nowhere, to what is not a file, to a file that may not be read, or to
bytes that no text has. -/
inductive Unreadable (h : Host) (path : String) : FileError → Prop
  | inaccessible {why : FileError}
      (hfind : h.surroundings.files.find h.surroundings.directory path = .error why) :
      Unreadable h path why
  | notFile {node : FileNode}
      (hfind : h.surroundings.files.find h.surroundings.directory path = .ok node)
      (hnode : ∀ content mode, node ≠ .file content mode) : Unreadable h path .isDirectory
  | refused {content : List UInt8} {mode : FileMode}
      (hfind : h.surroundings.files.find h.surroundings.directory path =
        .ok (.file content mode)) (hmode : mode.readable = false) :
      Unreadable h path .permissionDenied
  | notText {content : List UInt8} {mode : FileMode}
      (hfind : h.surroundings.files.find h.surroundings.directory path =
        .ok (.file content mode)) (hmode : mode.readable)
      (hcontent : ∀ text, content ≠ Text.Utf8.encode text) : Unreadable h path .notText

end Host

namespace Input

/-- An input can be read and, being documentation, decoded. -/
def Sound (h : Host) : Input → Prop
  | docs path => ∃ docs, h.HoldsDocs path docs
  | readme path => ∃ text, h.Holds path text

/-- What is said of an input that is not sound. -/
inductive Fails (h : Host) : Input → Failure → Prop
  | docsNotRead {path : String} {why : FileError} (hfile : h.Unreadable path why) :
      Fails h (.docs path) (.notRead path why)
  | docsNotDecoded {path text : String} {why : DecodeError} (hfile : h.Holds path text)
      (htext : decodeText Docs.decode text = .error why) :
      Fails h (.docs path) (.notDecoded path why)
  | readmeNotRead {path : String} {why : FileError} (hfile : h.Unreadable path why) :
      Fails h (.readme path) (.notRead path why)

/-- What is said of the first input that is not sound. -/
inductive FirstFails (h : Host) : List Input → Failure → Prop
  | here {i : Input} {is : List Input} {e : Failure} (hi : i.Fails h e) : FirstFails h (i :: is) e
  | later {i : Input} {is : List Input} {e : Failure} (hi : i.Sound h) (his : FirstFails h is e) :
      FirstFails h (i :: is) e

variable {h : Host} {i : Input} {is js : List Input} {e : Failure}

theorem Fails.tells (hi : i.Fails h e) : e.Tells e.text := by
  cases hi with
  | docsNotRead | readmeNotRead => exact Failure.tells_notRead _ _
  | docsNotDecoded => exact Failure.tells_notDecoded _ _

theorem FirstFails.tells (his : FirstFails h is e) : e.Tells e.text := by
  induction his with
  | here hi => exact hi.tells
  | later _ _ ih => exact ih

theorem firstFails_nil : ¬ FirstFails h [] e := nofun

theorem firstFails_cons :
    FirstFails h (i :: is) e ↔ i.Fails h e ∨ i.Sound h ∧ FirstFails h is e := by
  constructor
  · rintro (hi | ⟨hi, his⟩)
    · exact .inl hi
    · exact .inr ⟨hi, his⟩
  · rintro (hi | ⟨hi, his⟩)
    · exact .here hi
    · exact .later hi his

theorem firstFails_append : FirstFails h (is ++ js) e ↔
    FirstFails h is e ∨ (∀ i ∈ is, i.Sound h) ∧ FirstFails h js e := by
  induction is with
  | nil => simp [firstFails_nil]
  | cons i is ih =>
    rw [List.cons_append, firstFails_cons, firstFails_cons, ih, List.forall_mem_cons, and_or_left,
      or_assoc, and_assoc]

end Input

namespace Host

/-- What the comparison of the texts that paths lead to is. -/
inductive Compares (h : Host) (published current : String)
    (publishedReadme currentReadme : Option String) : Option ContentDiff → Prop
  | between {old new : Docs} {oldReadme newReadme : Option String}
      (hold : h.HoldsDocs published old) (hnew : h.HoldsDocs current new)
      (holdReadme : Option.Rel h.Holds publishedReadme oldReadme)
      (hnewReadme : Option.Rel h.Holds currentReadme newReadme) :
      Compares h published current publishedReadme currentReadme
        (contentDiff? old new oldReadme newReadme)

/-- A report comes from a file or from the standard input. -/
inductive Supplies (h : Host) : Option String → String → Prop
  | file {path raw : String} (hfile : h.Holds path raw) : Supplies h (some path) raw
  | input {raw : String} (hinput : h.input = Text.Utf8.encode raw) : Supplies h none raw

/-- There is no report. -/
inductive Withholds (h : Host) : Option String → Failure → Prop
  | file {path : String} {why : FileError} (hfile : h.Unreadable path why) :
      Withholds h (some path) (.notRead path why)
  | input (hinput : ∀ raw, h.input ≠ Text.Utf8.encode raw) :
      Withholds h none (.inputNotRead .notText)

/-- What the text of a report stands for. -/
inductive Reports (h : Host) (file : Option String) : Option ApiReport → Prop
  | of {raw : String} (hraw : h.Supplies file raw) : Reports h file (Report.parse? raw)

/-- A run writes one document, from which its result is read back, and nothing else. No result is
written as null. -/
structure Prints {α : Type} (h : Host) (args : List String) (toJson : α → Json) (d : Decoder α)
    (result : Option α) : Prop where
  reply : h.reply args = { code := 0
                           output := (Update.orNull toJson result).prettyText ++ "\n"
                           files := h.surroundings.files }
  decodes : decodeText (.nullable d) (h.reply args).output = .ok result
  null : (h.reply args).output = "null\n" ↔ result = none

/-- A run writes no document, and tells what has failed. -/
structure Refuses (h : Host) (args : List String) (e : Failure) : Prop where
  reply : h.reply args = { code := 1, errors := e.text, files := h.surroundings.files }
  tells : e.Tells (h.reply args).errors

/-- A run ends well if and only if there is a result, which is printed then. Otherwise something has
failed, and nothing but that is said. -/
structure Answers {α : Type} (h : Host) (args : List String) (toJson : α → Json) (d : Decoder α)
    (Comes : Option α → Prop) (Fails : Failure → Prop) : Prop where
  success : (h.reply args).code = 0 ↔ ∃ result, Comes result
  prints : ∀ result, Comes result → h.Prints args toJson d result
  failure : (h.reply args).code ≠ 0 ↔ ∃ e, Fails e
  refuses : ∀ e, Fails e → h.Refuses args e

end Host

namespace Host

variable {h : Host} {path text raw : String} {path? text? file : Option String} {docs : Docs}
  {e : Failure}

section Reading

theorem readText_of_holds (hfile : h.Holds path text) : h.readText path = .ok text := by
  obtain ⟨mode, hfind, hmode⟩ := hfile
  rw [readText, FileTree.readText_of_find hfind hmode, Text.Utf8.decode?_eq_some.mpr rfl]
  rfl

theorem readText_of_unreadable {why : FileError} (hfile : h.Unreadable path why) :
    h.readText path = .error (.notRead path why) := by
  cases hfile with
  | inaccessible hfind =>
    rw [readText, FileTree.readText, FileTree.read, hfind]
    rfl
  | @notFile node hfind hnode =>
    have hread : h.surroundings.files.read h.surroundings.directory path =
        .error .isDirectory := by
      rw [FileTree.read, hfind]
      cases node with
      | file content mode => exact absurd rfl (hnode content mode)
      | directory => rfl
      | link target => rfl
    rw [readText, FileTree.readText, hread]
    rfl
  | refused hfind hmode =>
    rw [readText, FileTree.readText_of_refused hfind hmode]
    rfl
  | notText hfind hmode hcontent =>
    rw [readText, FileTree.readText_of_find hfind hmode, Text.Utf8.decode?_eq_none.mpr hcontent]
    rfl

/-- Every path leads to a text or to none. -/
theorem holds_or_unreadable (h : Host) (path : String) :
    (∃ text, h.Holds path text) ∨ ∃ why, h.Unreadable path why := by
  cases hfind : h.surroundings.files.find h.surroundings.directory path with
  | error why => exact .inr ⟨why, .inaccessible hfind⟩
  | ok node =>
    cases node with
    | directory => exact .inr ⟨_, .notFile hfind nofun⟩
    | link target => exact .inr ⟨_, .notFile hfind nofun⟩
    | file content mode =>
      cases hmode : mode.readable with
      | false => exact .inr ⟨_, .refused hfind hmode⟩
      | true =>
        by_cases htext : ∃ text, content = Text.Utf8.encode text
        · obtain ⟨text, rfl⟩ := htext
          exact .inl ⟨text, mode, hfind, hmode⟩
        · exact .inr ⟨_, .notText hfind hmode (not_exists.mp htext)⟩

theorem readText_eq (h : Host) (path : String) :
    (∀ text, h.readText path = .ok text ↔ h.Holds path text) ∧
    ∀ e, h.readText path = .error e ↔ ∃ why, h.Unreadable path why ∧ .notRead path why = e := by
  refine eq_iff_of_total (fun _ => readText_of_holds) ?_ ?_
  · rintro - ⟨why, hfile, rfl⟩
    exact readText_of_unreadable hfile
  · exact (h.holds_or_unreadable path).imp_right fun ⟨why, hfile⟩ => ⟨_, why, hfile, rfl⟩

theorem readText_eq_ok : h.readText path = .ok text ↔ h.Holds path text :=
  (h.readText_eq path).1 text

theorem readText_eq_error : h.readText path = .error e ↔
    ∃ why, h.Unreadable path why ∧ .notRead path why = e :=
  (h.readText_eq path).2 e

theorem readDocs_eq_ok : h.readDocs path = .ok docs ↔ h.HoldsDocs path docs := by
  simp only [readDocs, HoldsDocs, bind_eq_ok, mapError_eq_ok, readText_eq_ok]

theorem readDocs_eq_error : h.readDocs path = .error e ↔ (Input.docs path).Fails h e := by
  simp only [readDocs, bind_eq_error, mapError_eq_error, readText_eq_error, readText_eq_ok]
  constructor
  · rintro (⟨why, hfile, rfl⟩ | ⟨text, hfile, why, htext, rfl⟩)
    · exact .docsNotRead hfile
    · exact .docsNotDecoded hfile htext
  · rintro (hfile | ⟨hfile, htext⟩)
    · exact .inl ⟨_, hfile, rfl⟩
    · exact .inr ⟨_, hfile, _, htext, rfl⟩

theorem readGiven_eq_ok : path?.mapM h.readText = .ok text? ↔ Option.Rel h.Holds path? text? := by
  cases path? with
  | none =>
    rw [Option.mapM_none, pure_eq_ok]
    constructor
    · rintro rfl
      exact .none
    · rintro ⟨⟩
      rfl
  | some path =>
    rw [Option.mapM_some]
    constructor
    · intro hread
      obtain ⟨text, htext, rfl⟩ := map_eq_ok.mp hread
      exact .some (readText_eq_ok.mp htext)
    · rintro ⟨hfile⟩
      rw [readText_of_holds hfile]
      rfl

theorem forall_sound_given : (∀ i ∈ path?.toList.map Input.readme, i.Sound h) ↔
    ∃ text?, Option.Rel h.Holds path? text? := by
  cases path? with
  | none => exact iff_of_true nofun ⟨none, .none⟩
  | some path =>
    constructor
    · intro hsound
      obtain ⟨text, hfile⟩ := hsound (.readme path) List.mem_cons_self
      exact ⟨some text, .some hfile⟩
    · rintro ⟨-, ⟨hfile⟩⟩
      exact List.forall_mem_singleton.mpr ⟨_, hfile⟩

theorem readGiven_eq_error : path?.mapM h.readText = .error e ↔
    Input.FirstFails h (path?.toList.map .readme) e := by
  cases path? with
  | none => exact iff_of_false nofun Input.firstFails_nil
  | some path =>
    rw [Option.mapM_some]
    constructor
    · intro hread
      obtain ⟨why, hfile, rfl⟩ := readText_eq_error.mp (map_eq_error.mp hread)
      exact .here (.readmeNotRead hfile)
    · rintro (hi | ⟨-, hnone⟩)
      · obtain _ | _ | hfile := hi
        exact map_eq_error.mpr (readText_of_unreadable hfile)
      · contradiction

end Reading

section Comparing

variable {published current : String} {publishedReadme currentReadme : Option String}
  {d : Option ContentDiff}

theorem contentDiff_eq_ok :
    h.contentDiff published current publishedReadme currentReadme = .ok d ↔
      h.Compares published current publishedReadme currentReadme d := by
  simp only [contentDiff, bind_eq_ok, pure_eq_ok, readDocs_eq_ok, readGiven_eq_ok]
  constructor
  · rintro ⟨old, hold, new, hnew, oldReadme, holdReadme, newReadme, hnewReadme, rfl⟩
    exact .between hold hnew holdReadme hnewReadme
  · rintro ⟨hold, hnew, holdReadme, hnewReadme⟩
    exact ⟨_, hold, _, hnew, _, holdReadme, _, hnewReadme, rfl⟩

theorem contentDiff_eq_error :
    h.contentDiff published current publishedReadme currentReadme = .error e ↔
      Input.FirstFails h (inputs published current publishedReadme currentReadme) e := by
  rw [inputs, Input.firstFails_cons, Input.firstFails_cons, List.map_append,
    Input.firstFails_append, forall_sound_given]
  -- On both sides an input is looked at only if those before it are sound; the comparison itself
  -- cannot fail.
  simp only [Input.Sound, ← readDocs_eq_error, ← readDocs_eq_ok, ← readGiven_eq_error,
    ← readGiven_eq_ok, contentDiff, bind_eq_error, pure_ne_error, and_false, exists_false, or_false,
    exists_and_right]

/-- There is a comparison if and only if all inputs are sound. -/
theorem forall_sound_iff :
    (∀ i ∈ inputs published current publishedReadme currentReadme, i.Sound h) ↔
      ∃ d, h.Compares published current publishedReadme currentReadme d := by
  rw [inputs, List.forall_mem_cons, List.forall_mem_cons, List.map_append, List.forall_mem_append,
    forall_sound_given, forall_sound_given]
  constructor
  · rintro ⟨⟨old, hold⟩, ⟨new, hnew⟩, ⟨oldReadme, holdReadme⟩, ⟨newReadme, hnewReadme⟩⟩
    exact ⟨_, .between hold hnew holdReadme hnewReadme⟩
  · rintro ⟨-, hold, hnew, holdReadme, hnewReadme⟩
    exact ⟨⟨_, hold⟩, ⟨_, hnew⟩, ⟨_, holdReadme⟩, ⟨_, hnewReadme⟩⟩

end Comparing

section Reports

theorem Withholds.tells (hfile : h.Withholds file e) : e.Tells e.text := by
  cases hfile with
  | file => exact Failure.tells_notRead _ _
  | input => exact Failure.tells_inputNotRead _

theorem readReport_of_supplies (hraw : h.Supplies file raw) : h.readReport file = .ok raw := by
  cases hraw with
  | file hfile => exact readText_of_holds hfile
  | input hinput => rw [readReport, Text.Utf8.decode?_eq_some.mpr hinput]

theorem readReport_of_withholds (hfile : h.Withholds file e) : h.readReport file = .error e := by
  cases hfile with
  | file hfile => exact readText_of_unreadable hfile
  | input hinput => rw [readReport, Text.Utf8.decode?_eq_none.mpr hinput]

/-- There is a report or none. -/
theorem supplies_or_withholds (h : Host) (file : Option String) :
    (∃ raw, h.Supplies file raw) ∨ ∃ e, h.Withholds file e := by
  cases file with
  | some path =>
    rcases h.holds_or_unreadable path with ⟨raw, hfile⟩ | ⟨why, hfile⟩
    · exact .inl ⟨raw, .file hfile⟩
    · exact .inr ⟨_, .file hfile⟩
  | none =>
    by_cases hinput : ∃ raw, h.input = Text.Utf8.encode raw
    · obtain ⟨raw, hinput⟩ := hinput
      exact .inl ⟨raw, .input hinput⟩
    · exact .inr ⟨_, .input (not_exists.mp hinput)⟩

theorem readReport_eq (h : Host) (file : Option String) :
    (∀ raw, h.readReport file = .ok raw ↔ h.Supplies file raw) ∧
    ∀ e, h.readReport file = .error e ↔ h.Withholds file e :=
  eq_iff_of_total (fun _ => readReport_of_supplies) (fun _ => readReport_of_withholds)
    (h.supplies_or_withholds file)

end Reports

section Replies

variable {α : Type} {args : List String} {r : Request} {profile : Logging.Profile}
  {toJson : α → Json} {d : Decoder α} {result : Option α}

theorem reply_of_ok {json : Json} (hrequest : request h.environment args = .ok r)
    (hrun : h.run r.invocation = (.ok json, h.surroundings.files)) : h.reply args =
      { code := 0, output := json.prettyText ++ "\n", files := h.surroundings.files } := by
  rw [reply, hrequest]
  simp only [hrun]

theorem refuses_of_run (htells : e.Tells e.text) (hrequest : request h.environment args = .ok r)
    (hrun : h.run r.invocation = (.error e, h.surroundings.files)) : h.Refuses args e := by
  have hreply : h.reply args =
      { code := 1, errors := e.text, files := h.surroundings.files } := by
    rw [reply, hrequest]
    simp only [hrun]
  exact ⟨hreply, hreply ▸ htells⟩

theorem prints_of_run (hreads : ∀ a, d.Reads (toJson a) a) (hnull : ∀ a, toJson a ≠ .null)
    (hrequest : request h.environment args = .ok r)
    (hrun : h.run r.invocation = (.ok (Update.orNull toJson result), h.surroundings.files)) :
    h.Prints args toJson d result := by
  have hreply := reply_of_ok hrequest hrun
  have htrips : RoundTrips (Update.orNull toJson) (.nullable d) :=
    .of_reads (Update.orNull_reads hreads hnull)
  have houtput : (h.reply args).output = (Update.orNull toJson result).prettyText ++ "\n" := by
    rw [hreply]
  have hnone : (Update.orNull toJson none).prettyText ++ "\n" = "null\n" := rfl
  refine ⟨hreply, houtput ▸ htrips.line result, ?_⟩
  rw [houtput, ← hnone]
  constructor
  · intro hline
    have hread := htrips.line result
    rw [hline, htrips.line none] at hread
    exact (Except.ok.inj hread).symm
  · rintro rfl
    rfl

theorem Prints.code (hprints : h.Prints args toJson d result) : (h.reply args).code = 0 := by
  rw [hprints.reply]

theorem Refuses.code_ne_zero (hrefuses : h.Refuses args e) : (h.reply args).code ≠ 0 := by
  rw [hrefuses.reply]
  exact Nat.one_ne_zero

/-- A run that does not end well writes nothing. -/
theorem output_of_code_ne_zero (h : Host) (args : List String) (hcode : (h.reply args).code ≠ 0) :
    (h.reply args).output = "" := by
  unfold reply at hcode ⊢
  cases hrequest : request h.environment args with
  | error why =>
    rw [hrequest] at hcode
    cases why with
    | misuse => rfl
    | help => contradiction
    | version => contradiction
  | ok r =>
    simp only [hrequest] at hcode ⊢
    rcases hrun : h.run r.invocation with ⟨_ | json, files⟩
    · rfl
    · rw [hrun] at hcode
      contradiction

/-- What comes of a run is what is printed or said of it. -/
theorem answers_of_run {x : Except Failure (Option α)} {Comes : Option α → Prop}
    {Fails : Failure → Prop} (hreads : ∀ a, d.Reads (toJson a) a) (hnull : ∀ a, toJson a ≠ .null)
    (hrequest : request h.environment args = .ok r)
    (hrun : h.run r.invocation = (x.map (Update.orNull toJson), h.surroundings.files))
    (hok : ∀ result, x = .ok result ↔ Comes result) (herror : ∀ e, x = .error e ↔ Fails e)
    (htells : ∀ e, Fails e → e.Tells e.text) :
    h.Answers args toJson d Comes Fails := by
  obtain rfl : (x = .ok ·) = Comes := funext fun result => propext (hok result)
  obtain rfl : (x = .error ·) = Fails := funext fun e => propext (herror e)
  cases x with
  | ok result =>
    have hprints : h.Prints args toJson d result := prints_of_run hreads hnull hrequest hrun
    exact {
      success := iff_of_true hprints.code ⟨result, rfl⟩
      prints := fun result' hresult => by
        obtain rfl := Except.ok.inj hresult
        exact hprints
      failure := iff_of_false (not_not.mpr hprints.code) (by simp)
      refuses := by simp }
  | error e =>
    have hrefuses : h.Refuses args e := refuses_of_run (htells e rfl) hrequest hrun
    exact {
      success := iff_of_false hrefuses.code_ne_zero (by simp)
      prints := by simp
      failure := iff_of_true hrefuses.code_ne_zero ⟨e, rfl⟩
      refuses := fun e' he => by
        obtain rfl := Except.error.inj he
        exact hrefuses }

theorem answers_contentDiff {published current : String}
    {publishedReadme currentReadme : Option String}
    (hrequest : request h.environment args =
      .ok ⟨profile, .contentDiff published current publishedReadme currentReadme⟩) :
    h.Answers args ContentDiff.toJson ContentDiff.decode
      (h.Compares published current publishedReadme currentReadme)
      (Input.FirstFails h (inputs published current publishedReadme currentReadme)) :=
  answers_of_run ContentDiff.reads nofun hrequest rfl (fun _ => contentDiff_eq_ok)
    (fun _ => contentDiff_eq_error) fun _ => Input.FirstFails.tells

theorem answers_apiDiff (hrequest : request h.environment args = .ok ⟨profile, .apiDiff file⟩) :
    h.Answers args ApiReport.toJson ApiReport.decode (h.Reports file) (h.Withholds file) := by
  obtain ⟨hok, herror⟩ := h.readReport_eq file
  have hrun : h.run (.apiDiff file) = (((h.readReport file).map Report.parse?).map
      (Update.orNull ApiReport.toJson), h.surroundings.files) := by
    rw [run]
    cases h.readReport file <;> rfl
  refine answers_of_run ApiReport.reads nofun hrequest hrun (fun result => ?_)
    (fun e => map_eq_error.trans (herror e)) fun _ => Withholds.tells
  rw [map_eq_ok]
  constructor
  · rintro ⟨raw, hraw, rfl⟩
    exact .of ((hok raw).mp hraw)
  · rintro ⟨hraw⟩
    exact ⟨_, (hok _).mpr hraw, rfl⟩

end Replies

/-- On the command line, comparisons and reports are those of the library: there is a comparison if
all inputs are sound, and the first one that is not is named otherwise; a report is the same from a
file and from the standard input. Nothing is written by a run that fails. -/
theorem reply_agrees :
    (∀ (h : Host) (args : List String) (profile : Logging.Profile) (published current : String)
      (publishedReadme currentReadme : Option String),
      request h.environment args =
        .ok ⟨profile, .contentDiff published current publishedReadme currentReadme⟩ →
      h.Answers args ContentDiff.toJson ContentDiff.decode
        (h.Compares published current publishedReadme currentReadme)
        (Input.FirstFails h (inputs published current publishedReadme currentReadme)) ∧
      ((h.reply args).code = 0 ↔
        ∀ i ∈ inputs published current publishedReadme currentReadme, i.Sound h)) ∧
    (∀ (h : Host) (args : List String) (profile : Logging.Profile) (file : Option String),
      request h.environment args = .ok ⟨profile, .apiDiff file⟩ →
      h.Answers args ApiReport.toJson ApiReport.decode (h.Reports file) (h.Withholds file)) ∧
    (∀ (h h' : Host) (args args' : List String) (profile profile' : Logging.Profile)
      (path raw : String), request h.environment args = .ok ⟨profile, .apiDiff (some path)⟩ →
      request h'.environment args' = .ok ⟨profile', .apiDiff none⟩ → h.Holds path raw →
      h'.input = Text.Utf8.encode raw → (h.reply args).output = (h'.reply args').output) ∧
    ∀ (h : Host) (args : List String), (h.reply args).code ≠ 0 → (h.reply args).output = "" := by
  refine ⟨fun h args profile published current publishedReadme currentReadme hrequest => ?_,
    fun _ _ _ _ hrequest => answers_apiDiff hrequest, ?_, output_of_code_ne_zero⟩
  · have hanswers := answers_contentDiff hrequest
    exact ⟨hanswers, by rw [forall_sound_iff, hanswers.success]⟩
  · intro h h' args args' profile profile' path raw hrequest hrequest' hfile hinput
    have hprints := (answers_apiDiff hrequest).prints _ (.of (.file hfile))
    have hprints' := (answers_apiDiff hrequest').prints _ (.of (.input hinput))
    rw [hprints.reply, hprints'.reply]

/-- A comparison of readmes, asked for with the options in another order; one that ends at the first
of two inputs that are not sound; a report that may not be read; and a text that is read as a file
and as the standard input. -/
theorem reply_agrees_readmes :
    let h : Host :=
      { surroundings := { files := ⟨[(["docs"], .file (Text.Utf8.encode "[]") false),
          (["old"], .file (Text.Utf8.encode "a") false),
          (["new"], .file (Text.Utf8.encode "b") false), (["src"], .directory),
          (["closed"], .file (Text.Utf8.encode "[]") { readable := false })]⟩ }
        input := Text.Utf8.encode "a"
        system := fun _ _ files => (files, .notSpawned .notFound) }
    h.Prints ["content-diff", "--current-readme", "new", "--current", "docs", "--published",
        "/docs", "--published-readme", "old"] ContentDiff.toJson ContentDiff.decode
        (some ⟨.ofList [], some [⟨.removed, "a"⟩, ⟨.added, "b"⟩]⟩) ∧
      h.Refuses ["content-diff", "--published", "docs", "--current", "src", "--published-readme",
        "none"] (.notRead "src" .isDirectory) ∧
      (h.reply ["api-diff", "closed"]).errors =
        "Error: failed to read closed\n\nCaused by:\n    Permission denied (os error 13)\n" ∧
      (h.reply ["api-diff", "old"]).output = (h.reply ["api-diff"]).output := by
  intro h
  obtain ⟨hcontent, hreport, hsame, -⟩ := reply_agrees
  have hdocs : h.HoldsDocs "docs" [] := ⟨"[]", ⟨false, by rfl, rfl⟩, by rfl⟩
  have hrooted : h.HoldsDocs "/docs" [] := ⟨"[]", ⟨false, by rfl, rfl⟩, by rfl⟩
  have hold : h.Holds "old" "a" := ⟨false, by rfl, rfl⟩
  have hnew : h.Holds "new" "b" := ⟨false, by rfl, rfl⟩
  have hdiff : contentDiff? (some []) (some []) (some "a") (some "b") =
      some ⟨.ofList [], some [⟨.removed, "a"⟩, ⟨.added, "b"⟩]⟩ := by decide +kernel
  have hfind : h.surroundings.files.find h.surroundings.directory "src" = .ok .directory := by rfl
  have hdirectory : h.Unreadable "src" .isDirectory := .notFile hfind nofun
  have hlocked : h.surroundings.files.find h.surroundings.directory "closed" =
      .ok (.file (Text.Utf8.encode "[]") { readable := false }) := by rfl
  have hclosed : h.Unreadable "closed" .permissionDenied := .refused hlocked rfl
  refine ⟨?_, ?_, ?_, ?_⟩
  · have hrequest := request_contentDiff h.environment [("current-readme", "new"),
      ("current", "docs"), ("published", "/docs"), ("published-readme", "old")]
      rfl (by decide) (by decide) rfl rfl
    rw [← hdiff]
    exact (hcontent h _ _ _ _ _ _ hrequest).1.prints _
      (.between hrooted hdocs (.some hold) (.some hnew))
  · have hrequest := request_contentDiff h.environment [("published", "docs"),
      ("current", "src"), ("published-readme", "none")] rfl (by decide) (by decide) rfl rfl
    exact (hcontent h _ _ _ _ _ _ hrequest).1.refuses _
      (.later ⟨_, hdocs⟩ (.here (.docsNotRead hdirectory)))
  · have hrequest := request_apiDiff h.environment (some "closed") rfl (by decide)
    have hrefuses := (hreport h _ _ _ hrequest).refuses _ (.file hclosed)
    exact (congrArg Reply.errors hrefuses.reply).trans (by rfl)
  · have hfile := request_apiDiff h.environment (some "old") rfl (by decide)
    have hinput := request_apiDiff h.environment none rfl nofun
    exact hsame h h _ _ _ _ _ _ hfile hinput hold rfl

end Host

end ReleasePreview.CommandLine
