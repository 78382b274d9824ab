import Mathlib.Logic.Relation
import ReleasePreview.Proofs.Preview.Outcome
import ReleasePreview.Proofs.Preview.Worker
import ReleasePreview.Source.Scripted

/-!
A preview as two threads. While a worker resolves the published state, the main thread runs the
compiler, and then it waits for the worker. Where the sources do not see what the compiler does to
the files, it makes no difference how the steps of the two interleave.
-/
namespace ReleasePreview

/-- The documentation, and with it what came of reporting the changes. -/
abbrev Compilation := Except BackendError (Docs × Except BackendError String)

/-- Where the main thread is. -/
inductive MainThread where
  | entered
  | spawned
  | building
  | built (docs : Except BackendError Docs)
  | reporting (docs : Docs)
  | joining (compilation : Compilation)
  | joined (compilation : Compilation) (baseline : Option Baseline)
  | returned (result : Except PreviewError Update)

inductive CompilerEvent where
  | began (call : CompilerCall)
  | ended (call : CompilerCall) (succeeded : Bool)

/-- What can be seen of a run. -/
inductive Event where
  | compiler (event : CompilerEvent)
  | asked (call : Call)
  /-- The worker has come to an end, be it by a crash. -/
  | workerEnded
  | returned

namespace Event

def compiler? : Event → Option CompilerEvent
  | compiler event => some event
  | _ => none

def call? : Event → Option Call
  | asked call => some call
  | _ => none

/-- Wherever the one event is, the other one comes before it. -/
def Awaits (log : List Event) (e before : Event) : Prop :=
  ∀ front back, log = front ++ e :: back → before ∈ front

theorem awaits_nil (e before : Event) : Awaits [] e before := by
  intro front back h
  simp at h

theorem Awaits.append {log events : List Event} {e before : Event} (h : Awaits log e before)
    (hevents : e ∈ events → before ∈ log) : Awaits (log ++ events) e before := by
  intro front back hsplit
  rcases List.append_eq_append_iff.mp hsplit with ⟨middle, rfl, hrest⟩ | ⟨middle, rfl, hrest⟩
  · exact List.mem_append_left _ (hevents (by simp [hrest]))
  · cases middle with
    | nil =>
      rw [List.append_nil] at hevents
      rw [List.nil_append] at hrest
      exact hevents (hrest ▸ List.mem_cons_self)
    | cons c middle =>
      obtain ⟨rfl, rfl⟩ := List.cons.inj hrest
      exact h front middle rfl

end Event

namespace CompilerEvent

def began? : CompilerEvent → Option CompilerCall
  | began call => some call
  | ended _ _ => none

/-- The calls that have begun and not ended. -/
def inFlight (events : List CompilerEvent) : List CompilerCall :=
  events.foldl (fun calls event =>
    match event with
    | began call => calls ++ [call]
    | ended call _ => calls.erase call) []

end CompilerEvent

/-- The events of a step of the worker. -/
def Worker.events (calls : List Call) : Worker → List Event
  | ended _ => calls.map .asked ++ [.workerEnded]
  | _ => calls.map .asked

/-- Both threads, the files that they share, and what has been seen of them. -/
structure Threads where
  main : MainThread
  worker : Worker
  files : FileTree
  log : List Event

namespace Project

theorem package?_eq_some {p : Project} {m : PackageManifest} :
    p.package? = some m ↔ p.manifest = .package m := by
  rw [package?]
  cases p.manifest <;> simp [Manifest.package?]

theorem package?_eq_none {p : Project} :
    p.package? = none ↔ ∃ dirs, p.manifest = .application dirs := by
  rw [package?]
  cases p.manifest <;> simp [Manifest.package?]

/-- What is made of a compilation and a published state. The readme is read here. -/
def conclude (p : Project) (m : PackageManifest) (files : FileTree) (compilation : Compilation)
    (baseline : Option Baseline) : Except PreviewError Update :=
  match compilation with
  | .error e => .error (.compiler e)
  | .ok (docs, report) => (p.readme files).map (update m docs report baseline)

end Project

namespace Threads

def start (w : Surroundings) : Threads := ⟨.entered, .idle, w.files, []⟩

def compilerEvents (s : Threads) : List CompilerEvent := s.log.filterMap Event.compiler?

def compilerCalls (s : Threads) : List CompilerCall :=
  s.compilerEvents.filterMap CompilerEvent.began?

def sourceCalls (s : Threads) : List Call := s.log.filterMap Event.call?

/-- The main thread goes on to another place. -/
def goes (s : Threads) (main : MainThread) (events : List Event) : Threads :=
  { s with main, log := s.log ++ events }

variable (p : Project) (compiler : Compiler) (registry : Registry) (w : Surroundings)

/-- A step of one of the threads. A call of the compiler begins and ends, and between the two the
worker may do anything. The main thread waits for nothing but the worker's end. -/
inductive Step : Threads → Threads → Prop
  | refuse {s : Threads} (hmain : s.main = .entered) (hp : p.package? = none) :
      Step s (s.goes (.returned (.error (.unsupported p.root.path))) [.returned])
  | spawn {s : Threads} {m : PackageManifest} (hmain : s.main = .entered)
      (hp : p.package? = some m) :
      Step s { s.goes .spawned [] with worker := .versions registry.sources }
  | beginDocs {s : Threads} (hmain : s.main = .spawned) :
      Step s (s.goes .building [.compiler (.began .buildDocs)])
  | endDocs {s : Threads} {files : FileTree} {docs : Except BackendError Docs}
      (hmain : s.main = .building)
      (hdocs : compiler.buildDocs s.files p.root.path = (files, docs)) :
      Step s { s.goes (.built docs) [.compiler (.ended .buildDocs docs.isOk)] with files }
  | skipReport {s : Threads} {e : BackendError} (hmain : s.main = .built (.error e)) :
      Step s (s.goes (.joining (.error e)) [])
  | beginReport {s : Threads} {docs : Docs} (hmain : s.main = .built (.ok docs)) :
      Step s (s.goes (.reporting docs) [.compiler (.began .diff)])
  | endReport {s : Threads} {files : FileTree} {docs : Docs} {report : Except BackendError String}
      (hmain : s.main = .reporting docs)
      (hreport : compiler.diff s.files p.root.path = (files, report)) :
      Step s
        { s.goes (.joining (.ok (docs, report))) [.compiler (.ended .diff report.isOk)] with files }
  | join {s : Threads} {compilation : Compilation} {answer : Except Call (Option Baseline)}
      (hmain : s.main = .joining compilation) (hworker : s.worker = .ended answer) :
      Step s (s.goes (.joined compilation answer.toOption.join) [])
  | finish {s : Threads} {m : PackageManifest} {compilation : Compilation}
      {baseline : Option Baseline} (hmain : s.main = .joined compilation baseline)
      (hp : p.package? = some m) :
      Step s (s.goes (.returned (p.conclude m s.files compilation baseline)) [.returned])
  | work {s : Threads} {m : PackageManifest} {calls : List Call} {next : Worker}
      (hp : p.package? = some m)
      (hmoves : s.worker.Moves registry { w with files := s.files } m.name calls next) :
      Step s { s with worker := next, log := s.log ++ next.events calls }

def Reachable (s : Threads) : Prop :=
  Relation.ReflTransGen (Step p compiler registry w) (start w) s

/-- The trees that the compiler leaves, one call after the other. -/
inductive Leaves : FileTree → Prop
  | start : Leaves w.files
  | docs : Leaves (compiler.buildDocs w.files p.root.path).1
  | report : Leaves (compiler.diff (compiler.buildDocs w.files p.root.path).1 p.root.path).1

/-- What the compiler does to the files is not seen by the sources. -/
def Independent : Prop :=
  ∀ files, Leaves p compiler w files → ∀ m, p.package? = some m →
    ∀ s ∈ registry.sources, s.Agrees { w with files } w m.name

/-- The main thread has waited for the worker. -/
def HasJoined : MainThread → Prop
  | .joined _ _ | .returned _ => True
  | _ => False

variable (m : PackageManifest)

/-- Where the worker is: what it has asked and what it has left to ask make up the three passes. -/
structure Working (s : Threads) : Prop where
  calls : s.sourceCalls ++ (s.worker.remaining registry w m.name).calls =
    (registry.baseline w m.name).calls
  result : (s.worker.remaining registry w m.name).result = (registry.baseline w m.name).result
  asks : s.worker.rest ⊆ registry.sources
  idle : s.worker = .idle ↔ s.main = .entered
  ended : ∀ answer, s.worker = .ended answer → .workerEnded ∈ s.log
  joined : HasJoined s.main → ∃ answer, s.worker = .ended answer

/-- What the compiler has done when the main thread waits for the worker. -/
inductive Compiled (files : FileTree) : Compilation → List CompilerEvent → Prop
  | failed {e : BackendError} (hdocs : compiler.buildDocs w.files p.root.path = (files, .error e)) :
      Compiled files (.error e) [.began .buildDocs, .ended .buildDocs false]
  | reported {built : FileTree} {docs : Docs} {report : Except BackendError String}
      (hdocs : compiler.buildDocs w.files p.root.path = (built, .ok docs))
      (hreport : compiler.diff built p.root.path = (files, report)) :
      Compiled files (.ok (docs, report))
        [.began .buildDocs, .ended .buildDocs true, .began .diff, .ended .diff report.isOk]

/-- Where the main thread is, with the files and what has been seen of the compiler. -/
inductive Stage : MainThread → FileTree → List CompilerEvent → Prop
  | entered : Stage .entered w.files []
  | spawned : Stage .spawned w.files []
  | building : Stage .building w.files [.began .buildDocs]
  | built {files : FileTree} {docs : Except BackendError Docs}
      (hdocs : compiler.buildDocs w.files p.root.path = (files, docs)) :
      Stage (.built docs) files [.began .buildDocs, .ended .buildDocs docs.isOk]
  | reporting {files : FileTree} {docs : Docs}
      (hdocs : compiler.buildDocs w.files p.root.path = (files, .ok docs)) :
      Stage (.reporting docs) files
        [.began .buildDocs, .ended .buildDocs true, .began .diff]
  | joining {files : FileTree} {compilation : Compilation} {events : List CompilerEvent}
      (h : Compiled p compiler w files compilation events) :
      Stage (.joining compilation) files events
  | joined {files : FileTree} {compilation : Compilation} {events : List CompilerEvent}
      (h : Compiled p compiler w files compilation events) :
      Stage (.joined compilation (registry.baseline w m.name).result.toOption.join) files events
  | returned {files : FileTree} {compilation : Compilation} {events : List CompilerEvent}
      (h : Compiled p compiler w files compilation events) :
      Stage (.returned (p.conclude m files compilation
        (registry.baseline w m.name).result.toOption.join)) files events

/-- The order of what has been seen. -/
structure Ordered (s : Threads) : Prop where
  report_awaits_docs :
    Event.Awaits s.log (.compiler (.began .diff)) (.compiler (.ended .buildDocs true))
  return_awaits_worker : Event.Awaits s.log .returned .workerEnded

variable {p compiler registry w m} {s t : Threads}

theorem Leaves.of_docs {files : FileTree} {docs : Except BackendError Docs}
    (h : compiler.buildDocs w.files p.root.path = (files, docs)) : Leaves p compiler w files := by
  have hleaves : Leaves p compiler w (compiler.buildDocs w.files p.root.path).1 := .docs
  rwa [h] at hleaves

section Compiled

variable {files : FileTree} {compilation : Compilation} {events : List CompilerEvent}
  {main : MainThread}

theorem Compiled.leaves (h : Compiled p compiler w files compilation events) :
    Leaves p compiler w files := by
  cases h with
  | failed hdocs => exact .of_docs hdocs
  | reported hdocs hreport =>
    have hleaves : Leaves p compiler w
      (compiler.diff (compiler.buildDocs w.files p.root.path).1 p.root.path).1 := .report
    rwa [hdocs, hreport] at hleaves

theorem Stage.leaves (h : Stage p compiler registry w m main files events) :
    Leaves p compiler w files := by
  cases h with
  | entered | spawned | building => exact .start
  | built hdocs | reporting hdocs => exact .of_docs hdocs
  | joining h | joined h | returned h => exact h.leaves

theorem Compiled.inFlight_length_le (h : Compiled p compiler w files compilation events) :
    (CompilerEvent.inFlight events).length ≤ 1 := by
  cases h with
  | failed | reported => simp [CompilerEvent.inFlight]

theorem Stage.inFlight_length_le (h : Stage p compiler registry w m main files events) :
    (CompilerEvent.inFlight events).length ≤ 1 := by
  cases h with
  | entered | spawned | building | built | reporting => simp [CompilerEvent.inFlight]
  | joining h | joined h | returned h => exact h.inFlight_length_le

/-- A preview in one thread comes to the same as what is concluded behind the compiler's calls. -/
theorem Compiled.preview_eq (registry : Registry)
    (h : Compiled p compiler w files compilation events) (hp : p.package? = some m) :
    (p.preview compiler registry w).result =
        p.conclude m files compilation (registry.baseline w m.name).result.toOption.join ∧
      (p.preview compiler registry w).compilerCalls = events.filterMap CompilerEvent.began? ∧
      (p.preview compiler registry w).sourceCalls = (registry.baseline w m.name).calls ∧
      (p.preview compiler registry w).files = files := by
  have hmanifest : p.manifest = .package m := Project.package?_eq_some.mp hp
  cases h with
  | failed hdocs =>
    rw [Project.preview_of_docs_error hmanifest hdocs]
    exact ⟨rfl, rfl, rfl, rfl⟩
  | reported hdocs hreport =>
    rw [Project.preview_of_docs_ok hmanifest hdocs hreport]
    exact ⟨rfl, rfl, rfl, rfl⟩

end Compiled

/-- What the main thread does leaves the worker where it is. -/
theorem Working.goes (h : Working registry w m s) {main : MainThread} (files : FileTree)
    {events : List Event} (hmain : s.main ≠ .entered)
    (hgone : main ≠ .entered) (hjoined : HasJoined main → ∃ answer, s.worker = .ended answer)
    (hevents : events.filterMap Event.call? = []) :
    Working registry w m { s.goes main events with files } where
  calls := by
    have hcalls := h.calls
    rw [sourceCalls] at hcalls
    rw [sourceCalls, Threads.goes, List.filterMap_append, hevents, List.append_nil, hcalls]
  result := h.result
  asks := h.asks
  idle := iff_of_false (mt h.idle.mp hmain) hgone
  ended answer hworker := List.mem_append_left _ (h.ended answer hworker)
  joined := hjoined

theorem sourceCalls_events (calls : List Call) (next : Worker) :
    (next.events calls).filterMap Event.call? = calls := by
  have hasked : (calls.map Event.asked).filterMap Event.call? = calls := by
    rw [List.filterMap_map]
    exact List.filterMap_some
  cases next <;> simp [Worker.events, hasked, Event.call?]

theorem compilerEvents_events (calls : List Call) (next : Worker) :
    (next.events calls).filterMap Event.compiler? = [] := by
  have hasked : (calls.map Event.asked).filterMap Event.compiler? = [] := by
    simp [Event.compiler?]
  cases next <;> simp [Worker.events, hasked, Event.compiler?]

theorem Working.step (h : Working registry w m s) (hp : p.package? = some m)
    (hleaves : Leaves p compiler w s.files) (hindependent : Independent p compiler registry w)
    (hstep : Step p compiler registry w s t) : Working registry w m t := by
  cases hstep with
  | refuse _ hnone =>
    rw [hp] at hnone
    contradiction
  | spawn hmain hp' =>
    have hstart : s.worker.remaining registry w m.name =
        (Worker.versions registry.sources).remaining registry w m.name := by
      rw [h.idle.mpr hmain, Worker.remaining_start, Worker.remaining]
    refine ⟨?_, hstart ▸ h.result, List.Subset.refl _, iff_of_false nofun nofun, nofun,
      False.elim⟩
    rw [sourceCalls, Threads.goes, List.append_nil, ← hstart]
    exact h.calls
  | beginDocs hmain => exact h.goes s.files (by simp [hmain]) nofun False.elim rfl
  | endDocs hmain hdocs => exact h.goes _ (by simp [hmain]) nofun False.elim rfl
  | skipReport hmain => exact h.goes s.files (by simp [hmain]) nofun False.elim rfl
  | beginReport hmain => exact h.goes s.files (by simp [hmain]) nofun False.elim rfl
  | endReport hmain hreport => exact h.goes _ (by simp [hmain]) nofun False.elim rfl
  | join hmain hworker => exact h.goes s.files (by simp [hmain]) nofun (fun _ => ⟨_, hworker⟩) rfl
  | finish hmain hp' =>
    exact h.goes s.files (by simp [hmain]) nofun (fun _ => h.joined (by rw [hmain]; trivial)) rfl
  | @work _ _ next hp' hmoves =>
    obtain rfl := Option.some.inj (hp.symm.trans hp')
    have hmoves := hmoves.congr fun source hsource =>
      hindependent s.files hleaves _ hp source (h.asks hsource)
    have hrest := hmoves.remaining_eq
    refine ⟨?_, ?_, hmoves.rest_subset h.asks, ?_, fun answer hended => ?_, fun hjoined => ?_⟩
    · rw [sourceCalls, List.filterMap_append, sourceCalls_events, List.append_assoc, ← h.calls,
        hrest]
      rfl
    · rw [← h.result, hrest]
    · refine iff_of_false hmoves.ne_idle fun hmain => ?_
      rw [h.idle.mpr hmain] at hmoves
      cases hmoves
    · have hnext : next = .ended answer := hended
      rw [hnext]
      simp [Worker.events]
    · obtain ⟨answer, hended⟩ := h.joined hjoined
      rw [hended] at hmoves
      cases hmoves

/-- Each step of the main thread leads from one place to another. -/
theorem Stage.step (h : Stage p compiler registry w m s.main s.files s.compilerEvents)
    (hp : p.package? = some m) (hworking : Working registry w m s)
    (hstep : Step p compiler registry w s t) :
    Stage p compiler registry w m t.main t.files t.compilerEvents := by
  -- What has been seen is made a variable: the places determine it, and the cases below give it
  -- back.
  obtain ⟨main, worker, files, log⟩ := s
  have hevents : ∀ events : List Event, (log ++ events).filterMap Event.compiler? =
      log.filterMap Event.compiler? ++ events.filterMap Event.compiler? := fun _ =>
    List.filterMap_append ..
  simp only [compilerEvents] at h
  generalize log.filterMap Event.compiler? = seen at h hevents
  cases hstep with
  | refuse _ hnone =>
    rw [hp] at hnone
    contradiction
  | spawn hmain hp' =>
    obtain rfl : main = _ := hmain
    cases h
    simp only [goes, compilerEvents, hevents]
    exact .spawned
  | beginDocs hmain =>
    obtain rfl : main = _ := hmain
    cases h
    simp only [goes, compilerEvents, hevents]
    exact .building
  | endDocs hmain hdocs =>
    obtain rfl : main = _ := hmain
    cases h
    simp only [goes, compilerEvents, hevents]
    exact .built hdocs
  | skipReport hmain =>
    obtain rfl : main = _ := hmain
    cases h with
    | built hdocs =>
      simp only [goes, compilerEvents, hevents]
      exact .joining (.failed hdocs)
  | beginReport hmain =>
    obtain rfl : main = _ := hmain
    cases h with
    | built hdocs =>
      simp only [goes, compilerEvents, hevents]
      exact .reporting hdocs
  | endReport hmain hreport =>
    obtain rfl : main = _ := hmain
    cases h with
    | reporting hdocs =>
      simp only [goes, compilerEvents, hevents]
      exact .joining (.reported hdocs hreport)
  | @join _ answer hmain hworker =>
    obtain rfl : main = _ := hmain
    have hanswer : answer = (registry.baseline w m.name).result := by
      have hresult := hworking.result
      rwa [hworker] at hresult
    cases h with
    | joining h =>
      simp only [goes, compilerEvents, hevents, hanswer]
      rw [← List.append_nil seen] at h
      exact .joined h
  | finish hmain hp' =>
    obtain rfl : main = _ := hmain
    obtain rfl := Option.some.inj (hp.symm.trans hp')
    cases h with
    | joined h =>
      simp only [goes, compilerEvents, hevents]
      rw [← List.append_nil seen] at h
      exact .returned h
  | work hp' hmoves =>
    simp only [compilerEvents, hevents, compilerEvents_events, List.append_nil]
    exact h

theorem mem_log_of_mem {event : CompilerEvent} (h : event ∈ s.compilerEvents) :
    .compiler event ∈ s.log := by
  obtain ⟨seen, hseen, hevent⟩ := List.mem_filterMap.mp h
  cases seen with
  | compiler e => rwa [← Option.some.inj hevent]
  | asked _ | workerEnded | returned => contradiction

/-- What has to come first has been seen: the place of the main thread tells what the compiler did,
and a thread that has been waited for has ended. -/
theorem Ordered.step (h : Ordered s) (hp : p.package? = some m)
    (hworking : Working registry w m s)
    (hstage : Stage p compiler registry w m s.main s.files s.compilerEvents)
    (hstep : Step p compiler registry w s t) : Ordered t := by
  have hgoes : ∀ {log : List Event} (events : List Event), log = s.log ++ events →
      (.compiler (.began .diff) ∈ events → .compiler (.ended .buildDocs true) ∈ s.log) →
      (.returned ∈ events → .workerEnded ∈ s.log) → ∀ main worker files,
      Ordered ⟨main, worker, files, log⟩ := by
    rintro log events rfl hdiff hreturned main worker files
    exact ⟨h.report_awaits_docs.append hdiff, h.return_awaits_worker.append hreturned⟩
  cases hstep with
  | refuse _ hnone =>
    rw [hp] at hnone
    contradiction
  | beginReport hmain =>
    refine hgoes _ rfl (fun _ => mem_log_of_mem ?_) (by simp) _ _ _
    rw [hmain] at hstage
    generalize s.compilerEvents = seen at hstage ⊢
    cases hstage
    exact List.mem_of_getLast? rfl
  | finish hmain hp' =>
    refine hgoes _ rfl (by simp) (fun _ => ?_) _ _ _
    obtain ⟨answer, hended⟩ := hworking.joined (by rw [hmain]; trivial)
    exact hworking.ended answer hended
  | @work _ calls next =>
    refine hgoes _ rfl ?_ ?_ _ _ _
    · cases next <;> simp [Worker.events]
    · cases next <;> simp [Worker.events]
  | _ => exact hgoes _ rfl (by simp) (by simp) _ _ _

/-- The steps of an interleaving keep all of this. -/
theorem Reachable.invariants (h : Reachable p compiler registry w s) (hp : p.package? = some m)
    (hindependent : Independent p compiler registry w) :
    Working registry w m s ∧ Stage p compiler registry w m s.main s.files s.compilerEvents ∧
      Ordered s := by
  induction h with
  | refl =>
    refine ⟨⟨rfl, rfl, List.nil_subset _, iff_of_true rfl rfl, nofun, False.elim⟩, .entered, ?_⟩
    exact ⟨Event.awaits_nil _ _, Event.awaits_nil _ _⟩
  | tail _ hstep ih =>
    obtain ⟨hworking, hstage, hordered⟩ := ih
    exact ⟨hworking.step hp hstage.leaves hindependent hstep, hstage.step hp hworking hstep,
      hordered.step hp hworking hstage hstep⟩

/-- An application is turned down at once, and nothing else happens. -/
theorem Reachable.eq_of_application (h : Reachable p compiler registry w s)
    (hp : p.package? = none) : s = start w ∨
      s = (start w).goes (.returned (.error (.unsupported p.root.path))) [.returned] := by
  induction h with
  | refl => exact .inl rfl
  | tail _ hstep ih =>
    rcases ih with rfl | rfl
    · cases hstep with
      | refuse => exact .inr rfl
      | spawn _ hsome | work hsome _ =>
        rw [hp] at hsome
        contradiction
      | _ => contradiction
    · cases hstep with
      | work hsome _ =>
        rw [hp] at hsome
        contradiction
      | _ => contradiction

/-- The main thread can always go on, except that it may have to wait for a worker at work. -/
theorem Working.exists_step (h : Working registry w m s) (hp : p.package? = some m)
    (hmain : ∀ result, s.main ≠ .returned result) : ∃ t, Step p compiler registry w s t := by
  cases hplace : s.main with
  | entered => exact ⟨_, .spawn hplace hp⟩
  | spawned => exact ⟨_, .beginDocs hplace⟩
  | building => exact ⟨_, .endDocs hplace rfl⟩
  | built docs =>
    cases docs with
    | error e => exact ⟨_, .skipReport hplace⟩
    | ok docs => exact ⟨_, .beginReport hplace⟩
  | reporting docs => exact ⟨_, .endReport hplace rfl⟩
  | joining compilation =>
    by_cases hended : ∃ answer, s.worker = .ended answer
    · obtain ⟨answer, hended⟩ := hended
      exact ⟨_, .join hplace hended⟩
    · have hidle : s.worker ≠ .idle := by
        rw [Ne, h.idle, hplace]
        nofun
      obtain ⟨calls, next, hmoves⟩ := Worker.exists_moves registry { w with files := s.files }
        m.name hidle (not_exists.mp hended)
      exact ⟨_, .work hp hmoves⟩
  | joined compilation baseline => exact ⟨_, .finish hplace hp⟩
  | returned result => exact absurd hplace (hmain result)

/-- A bound on the steps to come of the main thread, those of a worker to be started included. -/
def rank (n : Nat) : MainThread → Nat
  | .entered => 3 * (n + 1) + 7
  | .spawned => 6
  | .building => 5
  | .built _ => 4
  | .reporting _ => 3
  | .joining _ => 2
  | .joined _ _ => 1
  | .returned _ => 0

def size (registry : Registry) (s : Threads) : Nat :=
  rank registry.sources.length s.main + s.worker.size registry.sources.length

theorem Step.size_lt (h : Step p compiler registry w s t) : size registry t < size registry s := by
  cases h with
  | work _ hmoves => exact Nat.add_lt_add_left hmoves.size_lt _
  | spawn hmain _ =>
    simp only [size, hmain, goes, rank, Worker.size]
    omega
  | refuse hmain _ | beginDocs hmain | endDocs hmain _ | skipReport hmain | beginReport hmain
  | endReport hmain _ | join hmain _ | finish hmain _ =>
    simp only [size, hmain, goes, rank]
    omega

theorem wellFounded_step : WellFounded fun t s => Step p compiler registry w s t :=
  Subrelation.wf (fun h => h.size_lt) (measure (size registry)).wf

/-- A complete interleaving comes to what a preview in one thread does. -/
theorem Reachable.eq_preview (h : Reachable p compiler registry w s)
    (hindependent : Independent p compiler registry w) {result : Except PreviewError Update}
    (hmain : s.main = .returned result) : result = (p.preview compiler registry w).result ∧
      s.compilerCalls = (p.preview compiler registry w).compilerCalls ∧
      s.sourceCalls = (p.preview compiler registry w).sourceCalls ∧
      s.files = (p.preview compiler registry w).files := by
  cases hp : p.package? with
  | none =>
    obtain ⟨dirs, hmanifest⟩ := Project.package?_eq_none.mp hp
    rw [Project.preview_application hmanifest]
    rcases h.eq_of_application hp with rfl | rfl
    · contradiction
    · cases hmain
      exact ⟨rfl, rfl, rfl, rfl⟩
  | some m =>
    obtain ⟨hworking, hstage, -⟩ := h.invariants hp hindependent
    obtain ⟨answer, hended⟩ := hworking.joined (by rw [hmain]; trivial)
    have hcalls := hworking.calls
    rw [hended, Worker.remaining, List.append_nil] at hcalls
    rw [hmain] at hstage
    rw [compilerCalls, hcalls]
    generalize s.compilerEvents = seen at hstage ⊢
    generalize s.files = files at hstage ⊢
    cases hstage with
    | returned hcompiled =>
      obtain ⟨hresult, hcompiler, hsources, hfiles⟩ := hcompiled.preview_eq registry hp
      exact ⟨hresult.symm, hcompiler.symm, hsources.symm, hfiles.symm⟩

section

variable (p compiler registry w)

/-- What holds of a preview however its threads interleave. -/
structure Determined : Prop where
  /-- The calls of the compiler do not overlap. -/
  exclusive : ∀ s, Reachable p compiler registry w s →
    (CompilerEvent.inFlight s.compilerEvents).length ≤ 1
  /-- The changes are reported only once the documentation has been built. -/
  report_awaits_docs : ∀ s, Reachable p compiler registry w s →
    Event.Awaits s.log (.compiler (.began .diff)) (.compiler (.ended .buildDocs true))
  /-- Nothing is returned while there is a worker at work. -/
  return_awaits_worker : ∀ s, Reachable p compiler registry w s → p.package?.isSome →
    Event.Awaits s.log .returned .workerEnded
  /-- Neither thread waits for the other for ever. -/
  progress : ∀ s, Reachable p compiler registry w s → (∀ result, s.main ≠ .returned result) →
    ∃ t, Step p compiler registry w s t
  /-- No interleaving goes on for ever. -/
  finite : WellFounded fun t s => Step p compiler registry w s t
  /-- The order of the steps in one thread is as good as any other. -/
  outcome : ∀ s result, Reachable p compiler registry w s → s.main = .returned result →
    result = (p.preview compiler registry w).result ∧
      s.compilerCalls = (p.preview compiler registry w).compilerCalls ∧
      s.sourceCalls = (p.preview compiler registry w).sourceCalls ∧
      s.files = (p.preview compiler registry w).files
  /-- Any two complete interleavings agree. -/
  agreement : ∀ s t result result', Reachable p compiler registry w s → s.main = .returned result →
    Reachable p compiler registry w t → t.main = .returned result' →
    result = result' ∧ s.compilerCalls = t.compilerCalls ∧ s.sourceCalls = t.sourceCalls

end

/-- A preview does not depend on how its threads interleave, whatever the compiler fails at and
wherever a source fails or crashes. -/
theorem determined (h : Independent p compiler registry w) :
    Determined p compiler registry w where
  exclusive s hs := by
    cases hp : p.package? with
    | none => rcases hs.eq_of_application hp with rfl | rfl <;> exact Nat.zero_le 1
    | some m => exact (hs.invariants hp h).2.1.inFlight_length_le
  report_awaits_docs s hs := by
    cases hp : p.package? with
    | none =>
      rcases hs.eq_of_application hp with rfl | rfl
      · exact Event.awaits_nil _ _
      · exact (Event.awaits_nil _ _).append (by simp)
    | some m => exact (hs.invariants hp h).2.2.report_awaits_docs
  return_awaits_worker s hs hpackage := by
    obtain ⟨m, hp⟩ := Option.isSome_iff_exists.mp hpackage
    exact (hs.invariants hp h).2.2.return_awaits_worker
  progress s hs hmain := by
    cases hp : p.package? with
    | none =>
      rcases hs.eq_of_application hp with rfl | rfl
      · exact ⟨_, .refuse rfl hp⟩
      · exact absurd rfl (hmain _)
    | some m => exact (hs.invariants hp h).1.exists_step hp hmain
  finite := wellFounded_step
  outcome s result hs hmain := hs.eq_preview h hmain
  agreement s t result result' hs hresult ht hresult' := by
    obtain ⟨hr, hc, hq, -⟩ := hs.eq_preview h hresult
    obtain ⟨hr', hc', hq', -⟩ := ht.eq_preview h hresult'
    exact ⟨hr.trans hr'.symm, hc.trans hc'.symm, hq.trans hq'.symm⟩

/-- A source that fails, and one that crashes in its last pass, beside a compiler that has nothing
new to report: the crash costs the baseline, in every interleaving. -/
theorem determined_crashing_source :
    let name : PackageName := ⟨"a", "b", by decide, by decide⟩
    let p : Project := ⟨[], .package { name, version := ⟨1, 1, 0⟩ }⟩
    let compiler := Compiler.scripted (.ok []) (.ok "This is a PATCH change.")
    let registry : Registry := ⟨[
      ScriptedSource.source
        { id := "x", label := "X", versionsFault := some (.failure (.other "no answer")) },
      ScriptedSource.source
        { id := "y", label := "Y", versions := [⟨1, 0, 0⟩], readmeFault := some .crash }]⟩
    Independent p compiler registry {} ∧
      ∀ s result, Reachable p compiler registry {} s → s.main = .returned result →
        result = .ok
            { name, version := some ⟨1, 1, 0⟩, docs := [], diff := some ⟨.patch, [], [], []⟩ } ∧
          s.compilerCalls = [.buildDocs, .diff] ∧
          s.sourceCalls = [⟨"x", .versions, name⟩, ⟨"y", .versions, name⟩,
            ⟨"x", .docs ⟨1, 0, 0⟩, name⟩, ⟨"y", .docs ⟨1, 0, 0⟩, name⟩,
            ⟨"x", .readme ⟨1, 0, 0⟩, name⟩, ⟨"y", .readme ⟨1, 0, 0⟩, name⟩] := by
  intro name p compiler registry
  have h : Independent p compiler registry {} := by
    intro files _ m _ source hsource
    simp only [registry, List.mem_cons, List.not_mem_nil, or_false] at hsource
    rcases hsource with rfl | rfl <;> exact ⟨rfl, fun _ => rfl, fun _ => rfl⟩
  refine ⟨h, fun s result hs hmain => ?_⟩
  obtain ⟨hresult, hcompiler, hsources, -⟩ := (determined h).outcome s result hs hmain
  rw [hresult, hcompiler, hsources]
  exact ⟨by decide +kernel, by decide +kernel, by decide +kernel⟩

end Threads

end ReleasePreview
