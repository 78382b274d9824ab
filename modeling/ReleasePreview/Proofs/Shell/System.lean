import ReleasePreview.Proofs.Compiler.Stages
import ReleasePreview.Proofs.Json.Acceptance
import ReleasePreview.Proofs.Process.Schedule
import ReleasePreview.Shell.System

/-!
Programs as they are launched: which path of a name is taken, why there is none, and what a launch
leaves of the files. The standard programs stand in no tree but that of the run.
-/
namespace ReleasePreview

namespace Image

variable {before t : FileTree} {p : Place}

/-- What a tree has hides what is standard. -/
theorem node?_equipped (hp : p ≠ []) :
    (equipped t).node? p = (t.node? p).or (standardNodes.lookup p) := by
  have hnode (u : FileTree) : u.node? p = u.nodes.lookup p := by simp [FileTree.node?, hp]
  rw [hnode, equipped, List.lookup_append, ← hnode t]
  cases hnone : t.node? p with
  | some node => rfl
  | none => rw [FileTree.lookup_filter_of_keeps fun node => by simp [hnone]]

/-- What was there before stays as it has become. -/
theorem node?_stripped (h : (before.node? p).isSome) :
    (stripped before t).node? p = t.node? p := by
  unfold FileTree.node? stripped
  rw [FileTree.lookup_filter_of_keeps fun node => by simp only [h, Bool.true_or]]

/-- A tree is as it was if only the standard nodes were added. -/
theorem stripped_equipped (t : FileTree) : stripped t (equipped t) = t := by
  have hown : t.nodes.filter (fun e => (t.node? e.1).isSome || !standardNodes.contains e) =
      t.nodes := by
    refine List.filter_eq_self.mpr fun e he => ?_
    have hsome : (t.node? e.1).isSome := by
      refine Option.isSome_iff_ne_none.mpr fun hnone => ?_
      unfold FileTree.node? at hnone
      split at hnone
      · contradiction
      · exact bne_iff_ne.mp (List.lookup_eq_none_iff.mp hnone e he) rfl
    simp only [hsome, Bool.true_or]
  have hadded : (standardNodes.filter fun e => (t.node? e.1).isNone).filter
      (fun e => (t.node? e.1).isSome || !standardNodes.contains e) = [] := by
    refine List.filter_eq_nil_iff.mpr fun e he => ?_
    obtain ⟨hmem, hnone⟩ := List.mem_filter.mp he
    simp only [Option.isNone_iff_eq_none] at hnone
    simp [hnone, hmem]
  rw [stripped, equipped, List.filter_append]
  exact congrArg FileTree.mk (by rw [hown, hadded, List.append_nil])

end Image

namespace Shell

section Paths

variable {t : FileTree} {directory : Place} {isBare : Bool} {found e : FileError} {path : String}
  {paths : List String}

/-- A path is passed over: it is no program, but another path of the name may be one. -/
def IsPassed (t : FileTree) (directory : Place) (isBare : Bool) (path : String) : Prop :=
  isBare ∧ ∃ e, Image.atPath t directory Image.maxLevels path = .error e ∧ Program.isPassedOver e

/-- What is found at a path is told at once, unless the path is passed over. -/
theorem first_cons_cases (t : FileTree) (directory : Place) (isBare : Bool) (found : FileError)
    (path : String) (paths : List String) :
    (∃ image, Image.atPath t directory Image.maxLevels path = .ok image ∧
      programPath.first t directory isBare found (path :: paths) = .ok path) ∨
    (∃ e, Image.atPath t directory Image.maxLevels path = .error e ∧
      ¬ IsPassed t directory isBare path ∧
      programPath.first t directory isBare found (path :: paths) = .error e) ∨
    ∃ e, Image.atPath t directory Image.maxLevels path = .error e ∧
      IsPassed t directory isBare path ∧
      programPath.first t directory isBare found (path :: paths) =
        programPath.first t directory isBare (if e = .permissionDenied then e else found)
          paths := by
  rw [programPath.first]
  cases hpath : Image.atPath t directory Image.maxLevels path with
  | ok image => exact .inl ⟨image, rfl, rfl⟩
  | error e =>
    have hpassed : IsPassed t directory isBare path ↔ isBare && Program.isPassedOver e := by
      simp [IsPassed, hpath]
    rw [hpassed]
    cases isBare with
    | false => exact .inr (.inl ⟨e, rfl, by simp, rfl⟩)
    | true =>
      cases hover : Program.isPassedOver e with
      | false => exact .inr (.inl ⟨e, rfl, by simp, by simp [hover]⟩)
      | true => exact .inr (.inr ⟨e, rfl, rfl, by simp [hover]⟩)

/-- The first path that is not passed over, with what is found at it. -/
def IsFirst (t : FileTree) (directory : Place) (isBare : Bool) (paths : List String)
    (path : String) (result : Except FileError Image) : Prop :=
  ∃ before after, paths = before ++ path :: after ∧
    (∀ q ∈ before, IsPassed t directory isBare q) ∧ ¬ IsPassed t directory isBare path ∧
    Image.atPath t directory Image.maxLevels path = result

theorem isFirst_cons {q : String} {result : Except FileError Image} :
    IsFirst t directory isBare (q :: paths) path result ↔
      (q = path ∧ ¬ IsPassed t directory isBare q ∧
        Image.atPath t directory Image.maxLevels q = result) ∨
      (IsPassed t directory isBare q ∧ IsFirst t directory isBare paths path result) := by
  constructor
  · rintro ⟨before, after, heq, hbefore, hpath, hresult⟩
    cases before with
    | nil =>
      obtain ⟨rfl, rfl⟩ := List.cons.inj heq
      exact .inl ⟨rfl, hpath, hresult⟩
    | cons q' before =>
      obtain ⟨rfl, rfl⟩ := List.cons.inj heq
      obtain ⟨hq, hbefore⟩ := List.forall_mem_cons.mp hbefore
      exact .inr ⟨hq, before, after, rfl, hbefore, hpath, hresult⟩
  · rintro (⟨rfl, hpath, hresult⟩ | ⟨hq, before, after, rfl, hbefore, hpath, hresult⟩)
    · exact ⟨[], paths, rfl, by simp, hpath, hresult⟩
    · exact ⟨q :: before, after, rfl, List.forall_mem_cons.mpr ⟨hq, hbefore⟩, hpath, hresult⟩

/-- The first path that is not passed over is taken if it is a program. -/
theorem first_eq_ok (found : FileError) :
    programPath.first t directory isBare found paths = .ok path ↔
      ∃ image, IsFirst t directory isBare paths path (.ok image) := by
  induction paths generalizing found with
  | nil => simp [programPath.first, IsFirst]
  | cons q paths ih =>
    simp only [isFirst_cons]
    rcases first_cons_cases t directory isBare found q paths with ⟨image, himage, heq⟩ |
      ⟨e, he, hpassed, heq⟩ | ⟨e, he, hpassed, heq⟩
    · have hpassed : ¬ IsPassed t directory isBare q := by simp [IsPassed, himage]
      simp [heq, himage, hpassed]
    · simp [heq, he, hpassed]
    · rw [heq, ih]
      simp [hpassed]

/-- What is wrong is what is wrong with the first path that is not passed over. If all are, it is
that nothing is there, or that something may not be run. -/
theorem first_eq_error : programPath.first t directory isBare found paths = .error e ↔
    (∃ path, IsFirst t directory isBare paths path (.error e)) ∨
    ((∀ q ∈ paths, IsPassed t directory isBare q) ∧
      ((.permissionDenied = e ∧ ∃ q ∈ paths,
          Image.atPath t directory Image.maxLevels q = .error .permissionDenied) ∨
        (found = e ∧ ∀ q ∈ paths,
          Image.atPath t directory Image.maxLevels q ≠ .error .permissionDenied))) := by
  induction paths generalizing found with
  | nil => simp [programPath.first, IsFirst]
  | cons q paths ih =>
    simp only [isFirst_cons]
    rcases first_cons_cases t directory isBare found q paths with ⟨image, himage, heq⟩ |
      ⟨e', he, hpassed, heq⟩ | ⟨e', he, hpassed, heq⟩
    · have hpassed : ¬ IsPassed t directory isBare q := by simp [IsPassed, himage]
      simp [heq, himage, hpassed]
    · simp [heq, he, hpassed]
    · rw [heq, ih]
      by_cases hdenied : e' = .permissionDenied
      · subst hdenied
        have hsome : (∃ q ∈ paths, Image.atPath t directory Image.maxLevels q =
            .error .permissionDenied) ∨ ∀ q ∈ paths, Image.atPath t directory Image.maxLevels q ≠
              .error .permissionDenied := by
          by_cases h : ∃ q ∈ paths, Image.atPath t directory Image.maxLevels q =
            .error .permissionDenied
          · exact .inl h
          · exact .inr fun q hq heq => h ⟨q, hq, heq⟩
        simp [hpassed, he, ← and_or_left, hsome]
      · simp [hpassed, he, hdenied]

theorem programPath_eq (call : ProgramCall) (t : FileTree) (directory : Place) :
    programPath call t directory =
      if call.name.isEmpty then .error .notFound
      else if !call.name.toList.contains '/' && FileTree.maxName < call.name.length then
        .error .nameTooLong
      else programPath.first t directory (!call.name.toList.contains '/') .notFound
        (ProgramCall.candidates ((call.valueOf? "PATH").getD ProgramCall.usualDirectories)
          call.name) := by
  unfold programPath
  dsimp only
  split
  · rfl
  · split <;> rfl

/-- The path of the program is the first one of its name that is not passed over. -/
theorem programPath_eq_ok {call : ProgramCall} :
    programPath call t directory = .ok path ↔
      call.name ≠ "" ∧ ('/' ∈ call.name.toList ∨ call.name.length ≤ FileTree.maxName) ∧
        ∃ image, IsFirst t directory (!call.name.toList.contains '/')
          (ProgramCall.candidates ((call.valueOf? "PATH").getD ProgramCall.usualDirectories)
            call.name) path (.ok image) := by
  rw [← first_eq_ok .notFound, programPath_eq]
  by_cases hname : call.name = ""
  · simp [hname]
  · have hlong : (!call.name.toList.contains '/' && FileTree.maxName < call.name.length) = true ↔
        ¬ ('/' ∈ call.name.toList ∨ call.name.length ≤ FileTree.maxName) := by
      simp [not_or]
    rw [if_neg (by simpa using hname)]
    by_cases h : '/' ∈ call.name.toList ∨ call.name.length ≤ FileTree.maxName
    · rw [if_neg fun h' => hlong.mp h' h]
      simp only [ne_eq, hname, not_false_eq_true, h, true_and]
    · rw [if_pos (hlong.mpr h)]
      simp only [h, false_and, and_false, reduceCtorEq]

end Paths

section Launches

variable {environment : List (String × String)} {milliseconds : ℕ} {launch : Launch}
  {files : FileTree} {directory : Place} {path : String} {e : FileError}

/-- A launch works in a directory that is there. -/
theorem placeOf_eq_ok : placeOf launch files = .ok directory ↔
    launch.hasNull = false ∧ files.resolve [] launch.directory true = .ok directory ∧
      files.node? directory = some .directory := by
  unfold placeOf
  cases launch.hasNull with
  | true => exact iff_of_false (fun h => by contradiction) fun h => by simp at h
  | false =>
    simp only [Bool.false_eq_true, if_false, true_and, Json.bind_eq_ok]
    constructor
    · rintro ⟨p, hp, h⟩
      split at h
      · contradiction
      · next hnode =>
        obtain rfl := Except.ok.inj h
        exact ⟨hp, hnode⟩
      · contradiction
    · rintro ⟨hp, hnode⟩
      exact ⟨directory, hp, by rw [hnode]; rfl⟩

/-- What the program of a launch is given. -/
def callOf (environment : List (String × String)) (launch : Launch) : ProgramCall where
  name := Text.Octets.ofText launch.program
  args := launch.args.map Text.Octets.ofText
  environment := environment.map fun (name, value) =>
    (Text.Octets.ofText name, Text.Octets.ofText value)

/-- The directory of a launch and the path of its program, or why it leads to none. -/
def start (environment : List (String × String)) (launch : Launch) (files : FileTree) :
    Except FileError (Place × String) := do
  let directory ← placeOf launch (Image.equipped files)
  return (directory,
    ← programPath (callOf environment launch) (Image.equipped files) directory)

/-- The process of a launch before it goes on. -/
def startPool (environment : List (String × String)) (launch : Launch) (files : FileTree)
    (directory : Place) (path : String) : Pool where
  world := startWorld (Image.equipped files) directory
  threads := [⟨starterNumber + 1, 0, Program.process do
    let _ ← Image.launcher maxLaunches path (callOf environment launch)
    return 127⟩]
  first := starterNumber + 1

/-- What was written to a pipe and not read. -/
def written (world : World) (pipe : ℕ) : List UInt8 :=
  ((world.pipes[pipe]?).map (·.content)).getD []

/-- What a run is for those who have launched it. -/
def resultOf (world : World) : Option ProcessEnd → Run
  | none => .timedOut
  | some outcome => .finished (endingOf outcome) (written world 0) (written world 1)

theorem systemWith_of_error (h : start environment launch files = .error e) (milliseconds : ℕ) :
    systemWith environment milliseconds launch files = (files, .notSpawned e) := by
  unfold start callOf at h
  simp only [systemWith, h]

theorem systemWith_of_ok (h : start environment launch files = .ok (directory, path))
    (hmilliseconds : milliseconds ≠ 0) {world : World} {outcome : Option ProcessEnd}
    (hrun : (startPool environment launch files directory path).run (milliseconds * 1000) runFuel =
      (world, outcome)) :
    systemWith environment milliseconds launch files =
      (Image.stripped files world.files, resultOf world outcome) := by
  unfold start callOf at h
  unfold startPool callOf at hrun
  simp only [systemWith, h, hmilliseconds, if_false, hrun]
  cases outcome <;> rfl

theorem systemWith_of_noTime (h : start environment launch files = .ok (directory, path)) :
    systemWith environment 0 launch files = (files, .timedOut) := by
  unfold start callOf at h
  simp only [systemWith, h, if_true]

theorem start_eq_ok : start environment launch files = .ok (directory, path) ↔
    placeOf launch (Image.equipped files) = .ok directory ∧
      programPath (callOf environment launch) (Image.equipped files) directory = .ok path := by
  simp only [start, Json.bind_eq_ok, Json.pure_eq_ok, Prod.mk.injEq]
  constructor
  · rintro ⟨_, hplace, _, hpath, rfl, rfl⟩
    exact ⟨hplace, hpath⟩
  · rintro ⟨hplace, hpath⟩
    exact ⟨directory, hplace, path, hpath, rfl, rfl⟩

/-- What a launch comes to, with the files that it leaves: none is changed unless a program runs. -/
inductive Launches (environment : List (String × String)) (milliseconds : ℕ) (launch : Launch)
    (files : FileTree) : FileTree × Run → Prop
  | notSpawned {e : FileError} (h : start environment launch files = .error e) :
      Launches environment milliseconds launch files (files, .notSpawned e)
  | noTime {directory : Place} {path : String}
      (h : start environment launch files = .ok (directory, path)) (hzero : milliseconds = 0) :
      Launches environment milliseconds launch files (files, .timedOut)
  /-- The first process has not ended: either all wait or have no time left, or there were too many
  steps. -/
  | timedOut {directory : Place} {path : String} {n : ℕ} {p : Pool} {world : World}
      (h : start environment launch files = .ok (directory, path)) (hpos : 0 < milliseconds)
      (hsteps : Pool.Steps (milliseconds * 1000) n
        (startPool environment launch files directory path) p)
      (hends : Pool.Ends (milliseconds * 1000) runFuel n p world)
      (hstuck : n < runFuel → ∀ t ∈ p.settled.threads, Pool.IsStuck p.settled.world t ∨
        Pool.IsLate p.settled.world (some (milliseconds * 1000)) t) :
      Launches environment milliseconds launch files
        (Image.stripped files world.files, .timedOut)
  /-- The first process has ended as it is told. -/
  | finished {directory : Place} {path : String} {n : ℕ} {p : Pool} {world : World}
      {outcome : ProcessEnd} (h : start environment launch files = .ok (directory, path))
      (hpos : 0 < milliseconds)
      (hsteps : Pool.Steps (milliseconds * 1000) n
        (startPool environment launch files directory path) p)
      (hends : Pool.Ends (milliseconds * 1000) runFuel n p world)
      (houtcome : (world.record? (starterNumber + 1)).bind (·.outcome) = some outcome) :
      Launches environment milliseconds launch files
        (Image.stripped files world.files, .finished (endingOf outcome) (written world 0)
          (written world 1))

theorem launches_systemWith (environment : List (String × String)) (milliseconds : ℕ)
    (launch : Launch) (files : FileTree) :
    Launches environment milliseconds launch files
      (systemWith environment milliseconds launch files) := by
  cases hstart : start environment launch files with
  | error e =>
    rw [systemWith_of_error hstart]
    exact .notSpawned hstart
  | ok found =>
    obtain ⟨directory, path⟩ := found
    rcases Nat.eq_zero_or_pos milliseconds with rfl | hpos
    · rw [systemWith_of_noTime hstart]
      exact .noTime hstart rfl
    · obtain ⟨n, p, hsteps, hends, hrecord⟩ := Pool.run_ends (milliseconds * 1000) runFuel
        (startPool environment launch files directory path)
      cases hrun : (startPool environment launch files directory path).run
        (milliseconds * 1000) runFuel with
      | mk world outcome =>
        rw [hrun] at hends hrecord
        rw [systemWith_of_ok hstart (Nat.ne_of_gt hpos) hrun]
        cases outcome with
        | none =>
          refine .timedOut hstart hpos hsteps hends fun hn => ?_
          cases hends with
          | exhausted => exact absurd hn (Nat.lt_irrefl _)
          | final _ hfinal =>
            have hsorted : Pool.Sorted
                (startPool environment launch files directory path).threads :=
              List.pairwise_singleton _ _
            exact Pool.stuck_of_run hsorted hsteps hfinal hrecord.symm
        | some outcome => exact .finished hstart hpos hsteps hends hrecord.symm

end Launches

end Shell

namespace CompilerCommand

/-- If the compiler is not there, nothing but its output directory is. -/
theorem document_of_unstarted {c : CompilerCommand} {directory : String}
    {files cleared : FileTree} {why : FileError} (hclear : Clears directory files cleared)
    (h : Shell.start Shell.usualEnvironment (c.docsLaunch directory) cleared = .error why) :
    c.document Shell.system files directory =
      ⟨.error (.notSpawned c.program why), [.directory, .clearing, .running], cleared⟩ :=
  document_eq_iff.mpr (.notSpawned hclear (Shell.systemWith_of_error h c.milliseconds))

end CompilerCommand

end ReleasePreview
