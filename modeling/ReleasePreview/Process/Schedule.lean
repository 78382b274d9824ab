import ReleasePreview.Process.Program

/-!
Running processes beside each other. Each has a time at which it goes on; the earliest one that the
world lets go on is the next. Steps take time, so that a process without end uses up its time.
-/
namespace ReleasePreview

structure Thread where
  number : Nat
  /-- When it goes on. -/
  time : Nat
  process : Process

/-- The threads in the order of their times. The first process is the one that matters. -/
structure Pool where
  world : World
  threads : List Thread
  first : Nat

namespace Pool

/-- What a step takes, and the start of a process for itself and for its parent. -/
def stepTime : Nat := 10

def startTime : Nat := 300

def forkTime : Nat := 60

/-- Puts a thread behind those that go on before it or at the same time. -/
def insert (t : Thread) : List Thread → List Thread
  | [] => [t]
  | u :: ts => if t.time < u.time then t :: u :: ts else u :: insert t ts

/-- What comes of a thread that goes on: the world and the threads in its place; `none` if it
waits. -/
def advance (w : World) (t : Thread) : Option (World × List Thread) :=
  let time := max w.clock t.time
  let w := { w with clock := time }
  match t.process with
  | .ended status => some (w.finish t.number (.exited status), [])
  | .pause duration next => some (w, [⟨t.number, time + duration, next ()⟩])
  | .fork child next =>
    let (w, number) := w.fork t.number
    some (w, [⟨t.number, time + forkTime, next number⟩, ⟨number, time + startTime, child⟩])
  | .step act =>
    (act t.number w).map fun (w, next) => (w, [⟨t.number, time + stepTime, next⟩])

def isLive (w : World) (t : Thread) : Bool :=
  (w.record? t.number).any fun r => r.outcome.isNone

def isStopped (w : World) (t : Thread) : Bool := (w.record? t.number).any (·.isStopped)

/-- Lets the first thread go on that can, if there is one. -/
def next? (w : World) (limit : Option Nat) (waiting : List Thread) :
    List Thread → Option (World × List Thread)
  | [] => none
  | t :: ts =>
    if limit.any (· ≤ max w.clock t.time) then none
    else
      match if isStopped w t then none else advance w t with
      | some (w, new) => some (w, new.foldl (fun ts t => insert t ts) (waiting.reverse ++ ts))
      | none => next? w limit (t :: waiting) ts

def outcome? (p : Pool) : Option ProcessEnd := ((p.world.record? p.first).bind (·.outcome))

/-- Someone may still write to what is collected. -/
def isOpen (p : Pool) : Bool :=
  (List.range p.world.pipes.size).any fun i =>
    ((p.world.pipes[i]?).any (·.isCollected)) && p.world.isHeld (.writing i)

/-- Runs until the first process has ended and nobody writes to what is collected. The limit is for
the first process alone. `none` if it does not end in its time. -/
def run (limit : Nat) : (fuel : Nat) → Pool → World × Option ProcessEnd
  | 0, p => (p.world, p.outcome?)
  | fuel + 1, p =>
    let p := { p with world := p.world.settleAll }
    let p := { p with threads := p.threads.filter (isLive p.world) }
    let outcome := p.outcome?
    if outcome.isSome && !p.isOpen then (p.world, outcome)
    else
      match next? p.world (if outcome.isSome then none else some limit) [] p.threads with
      | some (world, threads) => run limit fuel { p with world, threads }
      | none => (p.world, outcome)

end Pool

end ReleasePreview
