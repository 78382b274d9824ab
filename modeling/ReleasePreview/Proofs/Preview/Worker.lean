import ReleasePreview.Proofs.Source.Fallback

/-!
The worker that resolves a published state, a call on a source at a time. From wherever it has come
to it goes on as the rest of the passes would, so its calls together are those of the passes.
-/
namespace ReleasePreview

/-- What a worker has still to do: the pass that it is in, and the sources not yet asked there. -/
inductive Worker where
  | idle
  | versions (rest : List Source)
  | docs (version : Version) (rest : List Source)
  | readme (version : Version) (docs : Option Docs) (rest : List Source)
  /-- The worker has come to an answer, or has crashed at a call. -/
  | ended (answer : Except Call (Option Baseline))

/-- Two surroundings in which a source says the same of a package. -/
structure Source.Agrees (s : Source) (w w' : Surroundings) (p : PackageName) : Prop where
  versions : s.versions w p = s.versions w' p
  docs : ∀ v, s.docs w p v = s.docs w' p v
  readme : ∀ v, s.readme w p v = s.readme w' p v

namespace Worker

/-- What follows a call: an answer ends the pass, without one it goes on. -/
def after {α : Type} (call : Call) (found : α → Worker) (on : Worker) : Outcome (Option α) → Worker
  | .answered (some a) => found a
  | .answered none => on
  | .failed _ => on
  | .crashed => ended (.error call)

section Definitions

variable (r : Registry) (w : Surroundings) (p : PackageName)

/-- A step of a worker: the calls that it makes, one at most, and what is to be done behind it. -/
inductive Moves : Worker → List Call → Worker → Prop
  | askVersions {s : Source} {rest : List Source} :
      Moves (versions (s :: rest)) [⟨s.id, .versions, p⟩]
        (after ⟨s.id, .versions, p⟩ (fun v => docs v r.sources) (versions rest)
          ((s.versions w p).map Version.latest?))
  | noVersion : Moves (versions []) [] (ended (.ok none))
  | askDocs {v : Version} {s : Source} {rest : List Source} :
      Moves (docs v (s :: rest)) [⟨s.id, .docs v, p⟩]
        (after ⟨s.id, .docs v, p⟩ (fun d => readme v (some d) r.sources) (docs v rest)
          (s.docs w p v))
  | noDocs {v : Version} : Moves (docs v []) [] (readme v none r.sources)
  | askReadme {v : Version} {d : Option Docs} {s : Source} {rest : List Source} :
      Moves (readme v d (s :: rest)) [⟨s.id, .readme v, p⟩]
        (after ⟨s.id, .readme v, p⟩ (fun text => ended (.ok (some ⟨v, d, some text⟩)))
          (readme v d rest) (s.readme w p v))
  | noReadme {v : Version} {d : Option Docs} :
      Moves (readme v d []) [] (ended (.ok (some ⟨v, d, none⟩)))

/-- The pass for a readme over the sources that are left. -/
def readmePass (v : Version) (d : Option Docs) (rest : List Source) :
    Inquiry (Option Baseline) := do
  let readme ← Inquiry.first (fun s => .ask ⟨s.id, .readme v, p⟩ (s.readme w p v)) rest
  return some ⟨v, d, readme⟩

/-- The pass for documentation over the sources that are left, and the pass behind it. -/
def docsPass (v : Version) (rest : List Source) : Inquiry (Option Baseline) := do
  let docs ← Inquiry.first (fun s => .ask ⟨s.id, .docs v, p⟩ (s.docs w p v)) rest
  readmePass w p v docs r.sources

/-- The pass for versions over the sources that are left, and the passes behind it. -/
def versionsPass (rest : List Source) : Inquiry (Option Baseline) := do
  match ← Inquiry.first
    (fun s => .ask ⟨s.id, .versions, p⟩ ((s.versions w p).map Version.latest?)) rest with
  | none => return none
  | some v => docsPass r w p v r.sources

/-- What is left of the passes. -/
def remaining : Worker → Inquiry (Option Baseline)
  | idle => r.baseline w p
  | versions rest => versionsPass r w p rest
  | docs v rest => docsPass r w p v rest
  | readme v d rest => readmePass w p v d rest
  | ended answer => ⟨[], answer⟩

end Definitions

/-- The sources that are left in a pass. -/
def rest : Worker → List Source
  | versions rest | docs _ rest | readme _ _ rest => rest
  | idle | ended _ => []

/-- A bound on the steps to come, where `n` sources are asked in a whole pass. -/
def size (n : Nat) : Worker → Nat
  | versions rest => rest.length + 1 + 2 * (n + 1)
  | docs _ rest => rest.length + 1 + (n + 1)
  | readme _ _ rest => rest.length + 1
  | idle | ended _ => 0

variable {r : Registry} {w w' : Surroundings} {p : PackageName} {worker next : Worker}
  {calls : List Call}

theorem remaining_start : (versions r.sources).remaining r w p = r.baseline w p := rfl

theorem after_cases {α : Type} {P : Worker → Prop} {call : Call} {found : α → Worker} {on : Worker}
    (hfound : ∀ a, P (found a)) (hon : P on) (hcrash : P (ended (.error call)))
    (o : Outcome (Option α)) : P (after call found on o) := by
  cases o with
  | answered answer =>
    cases answer with
    | none => exact hon
    | some a => exact hfound a
  | failed e => exact hon
  | crashed => exact hcrash

/-- A call is the first of those that were left. -/
private theorem remaining_after {α : Type} {ask : Source → Inquiry (Option α)}
    {k : Option α → Inquiry (Option Baseline)} {s : Source} {rest : List Source} {call : Call}
    {o : Outcome (Option α)} {found : α → Worker} {on : Worker} (hs : ask s = .ask call o)
    (hfound : ∀ a, (found a).remaining r w p = k (some a))
    (hon : on.remaining r w p = Inquiry.first ask rest >>= k) :
    Inquiry.first ask (s :: rest) >>= k =
      ⟨[call] ++ ((after call found on o).remaining r w p).calls,
        ((after call found on o).remaining r w p).result⟩ := by
  -- No answer and a failure lead to the same place.
  have hsilent : ask s = ⟨[call], .ok none⟩ → Inquiry.first ask (s :: rest) >>= k =
      ⟨[call] ++ (on.remaining r w p).calls, (on.remaining r w p).result⟩ := by
    intro h
    rw [Inquiry.first_cons_of_none h, hon]
    rcases Inquiry.first ask rest with ⟨cs, result⟩
    cases result with
    | error c => simp only [Inquiry.error_bind]
    | ok a => simp only [Inquiry.ok_bind, List.append_assoc]
  cases o with
  | answered answer =>
    cases answer with
    | none => exact hsilent hs
    | some a =>
      rw [Inquiry.first_cons_of_some hs, Inquiry.ok_bind, ← hfound]
      rfl
  | failed e => exact hsilent hs
  | crashed =>
    rw [Inquiry.first_cons_of_error hs, Inquiry.error_bind]
    rfl

/-- What is left before a step is what the step does and what is left behind it. -/
theorem Moves.remaining_eq (h : Moves r w p worker calls next) :
    worker.remaining r w p =
      ⟨calls ++ (next.remaining r w p).calls, (next.remaining r w p).result⟩ := by
  cases h with
  | askVersions | askDocs | askReadme => exact remaining_after rfl (fun _ => rfl) rfl
  | noVersion | noDocs | noReadme => rfl

/-- Only registered sources are asked, now and later. -/
theorem Moves.rest_subset (h : Moves r w p worker calls next)
    (hrest : worker.rest ⊆ r.sources) : next.rest ⊆ r.sources := by
  cases h with
  | askVersions | askDocs =>
    refine after_cases (P := fun next => next.rest ⊆ r.sources) (fun _ => List.Subset.refl _) ?_
      (List.nil_subset _) _
    exact fun _ hs => hrest (List.mem_cons_of_mem _ hs)
  | askReadme =>
    refine after_cases (P := fun next => next.rest ⊆ r.sources) (fun _ => List.nil_subset _) ?_
      (List.nil_subset _) _
    exact fun _ hs => hrest (List.mem_cons_of_mem _ hs)
  | noDocs => exact List.Subset.refl _
  | noVersion | noReadme => exact List.nil_subset _

theorem Moves.ne_idle (h : Moves r w p worker calls next) : next ≠ idle := by
  cases h with
  | askVersions | askDocs | askReadme =>
    refine after_cases (P := (· ≠ idle)) (fun _ => ?_) ?_ ?_ _ <;> nofun
  | noVersion | noDocs | noReadme => nofun

theorem Moves.size_lt (h : Moves r w p worker calls next) :
    next.size r.sources.length < worker.size r.sources.length := by
  cases h with
  | askVersions | askDocs | askReadme =>
    refine after_cases (P := fun next => next.size _ < _) (fun _ => ?_) ?_ ?_ _ <;>
      simp only [size, List.length_cons] <;> omega
  | noVersion | noDocs | noReadme =>
    simp only [size, List.length_nil]
    omega

/-- A worker at work has a next step. -/
theorem exists_moves (r : Registry) (w : Surroundings) (p : PackageName) (hidle : worker ≠ idle)
    (hended : ∀ answer, worker ≠ ended answer) : ∃ calls next, Moves r w p worker calls next := by
  cases worker with
  | idle => exact absurd rfl hidle
  | versions rest =>
    cases rest with
    | nil => exact ⟨_, _, .noVersion⟩
    | cons s rest => exact ⟨_, _, .askVersions⟩
  | docs v rest =>
    cases rest with
    | nil => exact ⟨_, _, .noDocs⟩
    | cons s rest => exact ⟨_, _, .askDocs⟩
  | readme v d rest =>
    cases rest with
    | nil => exact ⟨_, _, .noReadme⟩
    | cons s rest => exact ⟨_, _, .askReadme⟩
  | ended answer => exact absurd rfl (hended answer)

/-- A step depends on what the sources say that are still to be asked, and on nothing else. -/
theorem Moves.congr (h : Moves r w p worker calls next)
    (hagrees : ∀ s ∈ worker.rest, s.Agrees w w' p) : Moves r w' p worker calls next := by
  cases h with
  | askVersions =>
    rw [(hagrees _ List.mem_cons_self).versions]
    exact .askVersions
  | askDocs =>
    rw [(hagrees _ List.mem_cons_self).docs]
    exact .askDocs
  | askReadme =>
    rw [(hagrees _ List.mem_cons_self).readme]
    exact .askReadme
  | noVersion => exact .noVersion
  | noDocs => exact .noDocs
  | noReadme => exact .noReadme

end Worker

end ReleasePreview
