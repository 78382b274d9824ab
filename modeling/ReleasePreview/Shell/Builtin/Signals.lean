import ReleasePreview.Shell.Builtin.Options

/-! Builtins for signals, for jobs, and for leaving loops, functions and the shell. -/
namespace ReleasePreview.Shell.Builtin

/-- Ends the shell with a status, or with the one that there is. -/
def exit : Builtin := fun args => do
  match args with
  | arg :: _ =>
    let n ← Script.number arg
    Script.setStatus n
    modify fun s => { s with saved := s.saved.map fun _ => n }
  | [] => modify fun s => { s with status := s.saved.getD s.status }
  throw .ended

def leaveFunction : Builtin := fun args => do
  let status ← match args with
    | arg :: _ => Script.number arg
    | [] => do pure (← get).status
  modify fun s => { s with skip := .returns }
  return status

/-- Leaves out the rest of some loops. -/
def skipping (skip : Nat → Skip) : Builtin := fun args => do
  let n ← match args with
    | arg :: _ => do
      let n ← Script.number arg
      if n = 0 then Script.fail s!"Illegal number: {arg}"
      pure n
    | [] => pure 1
  let loops := (← get).loops
  if loops ≠ 0 then modify fun s => { s with skip := skip (min n loops) }
  return 0

/-- The number of a signal that is given by its number or name. Zero stands for the end. -/
def signalNumber? (s : String) : Option Nat :=
  match Decimal.natural? s.toList with
  | some n => if n ≤ 64 then some n else none
  | none => if s.toUpper = "EXIT" then some 0 else (Signal.ofName? s).map (·.number)

def signalName (n : Nat) : String :=
  if n = 0 then "EXIT" else ((Signal.ofNumber? n).map (·.name)).getD (toString n)

/-- Tells the world what is looked after. -/
def lookAfter (signal : Nat) (action : Option String) : Script Unit :=
  Script.perform <| Program.tell fun number w => w.change number fun r =>
    let ignored := r.ignored.filter (· ≠ signal)
    let caught := r.caught.filter (· ≠ signal)
    match action with
    | none => { r with ignored, caught }
    | some "" => { r with ignored := signal :: ignored, caught }
    | some _ => { r with ignored, caught := signal :: caught }

/-- Sets a command for signals. Gives whether all of them are signals. -/
def setTraps (action : Option String) : List String → Script Bool
  | [] => return true
  | arg :: args => do
    match signalNumber? arg with
    | none =>
      Script.perform (Program.err s!"trap: {arg}: bad trap")
      return false
    | some n =>
      modify fun s =>
        let others := s.traps.filter (·.1 ≠ n)
        { s with traps := (action.map fun a => (n, a)).toList ++ others }
      if n ≠ 0 then lookAfter n action
      setTraps action args

def trap : Builtin := fun args => do
  let (_, args) ← options "" args
  match args with
  | [] =>
    let s ← get
    (List.range 65).forM fun n => do
      match s.traps.lookup n with
      | some action => Script.emit s!"trap -- {quoted action} {signalName n}\n"
      | none => return
    return 0
  | [signal] => return if ← setTraps none [signal] then 0 else 1
  | action :: signals =>
    let resets := (Decimal.natural? action.toList).isSome
    let all := if resets then args else signals
    let action := if resets || action = "-" then none else some action
    return if ← setTraps action all then 0 else 1

/-- Takes note of what a job has come to. -/
def settleJob (id : Nat) (outcome : ProcessEnd) : Script Unit := modify fun s =>
  { s with jobs := s.jobs.map fun j => if j.id = id then { j with outcome := some outcome } else j }

/-- Waits for a process unless a signal comes that is looked after. Gives its number otherwise. -/
def joinOrSignal (child : Nat) : Program (Except Nat ProcessEnd) := Program.await fun number w =>
  match w.record? child with
  | none => some (w, .ok (.exited 127))
  | some _ =>
    match w.reap? child with
    | some (w, outcome) => some (w, .ok outcome)
    | none => (((w.record? number).bind (·.pending.head?)).map fun signal => (w, .error signal))

/-- Waits for the processes of a job. Gives a signal that comes before. -/
def joinAll (tells : Bool) : List Nat → ProcessEnd → Script (Except Nat ProcessEnd)
  | [], outcome => return .ok outcome
  | child :: rest, _ => do
    match ← Script.perform (joinOrSignal child) with
    | .error signal => return .error signal
    | .ok outcome =>
      if tells then Script.announce outcome
      joinAll tells rest outcome

/-- Waits for a job. Gives its status, or that of a signal. -/
def waitFor (tells : Bool) (j : Job) : Script (Except Nat Nat) := do
  match j.outcome with
  | some outcome => return .ok outcome.status
  | none =>
    match ← joinAll tells j.processes (.exited 0) with
    | .error signal => return .error (128 + signal)
    | .ok outcome =>
      settleJob j.id outcome
      return .ok outcome.status

/-- The job of a text behind a percent sign. -/
def jobOf (arg : String) : Script Job := do
  let jobs := (← get).jobs
  let found := match (arg.drop 1).toString with
    | "" | "%" | "+" => jobs.head?
    | "-" => (jobs.drop 1).head?
    | s => s.toNat?.bind fun id => jobs.find? (·.id = id)
  match found with
  | some j => return j
  | none => Script.fail s!"No such job: {arg}"

def waitEach (status : Nat) : List String → Script Nat
  | [] => return status
  | arg :: args => do
    let job? ← if arg.startsWith "%" then some <$> jobOf arg
      else do
        let number ← Script.number arg
        pure ((← get).jobs.find? fun j => j.processes.getLast? = some number)
    match job? with
    | none => waitEach 127 args
    | some j =>
      match ← waitFor true j with
      | .error status => return status
      | .ok status => waitEach status args

def waitAll : List Job → Script Nat
  | [] => return 0
  | j :: jobs => do
    match ← waitFor false j with
    | .error status => return status
    | .ok _ => waitAll jobs

def wait : Builtin := fun args => do
  let (_, args) ← options "" args
  if args.isEmpty then waitAll (← get).jobs.reverse else waitEach 127 args

/-- Sends a signal to a process. Gives whether there is one. -/
def send (signal target : Nat) : Program Bool := Program.act fun _ w =>
  if (w.record? target).isNone then (w, false)
  else (if signal = 0 then w else w.signal target signal, true)

/-- Sends a signal to all processes there are. -/
def sendAll (signal : Nat) : Program Unit := Program.tell fun _ w =>
  w.records.foldl (fun w (n, _) => w.signal n signal) w

def sendEach (signal : Nat) (status : Nat) : List String → Script Nat
  | [] => return status
  | arg :: args => do
    let sent ←
      if arg.startsWith "%" then do
        discard (jobOf arg)
        pure false
      else if arg.startsWith "-" then do
        discard (Script.number (arg.drop 1).toString)
        pure false
      else do
        let target ← Script.number arg
        if target = 0 then
          Script.perform (sendAll signal)
          pure true
        else Script.perform (send signal target)
    if sent then sendEach signal status args
    else
      Script.report "No such process\n"
      sendEach signal 1 args

def killUsage : String :=
  "Usage: kill [-s sigspec | -signum | -sigspec] [pid | job]... or\nkill -l [exitstatus]"

def listSignals : List String → Script Nat
  | [] => do
    (List.range 65).forM fun n => do
      if n = 0 then Script.emit "0\n"
      else Script.emit (signalName n ++ "\n")
    return 0
  | arg :: _ => do
    let n ← Script.number arg
    let n' := if 128 < n then n - 128 else n
    if n' = 0 || 64 < n' then Script.fail s!"invalid signal number or exit status: {arg}"
    Script.emit (signalName n' ++ "\n")
    return 0

def kill : Builtin := fun args => do
  match args with
  | [] => Script.fail killUsage
  | arg :: targets =>
    let named := if arg.startsWith "-" then signalNumber? (arg.drop 1).toString else none
    let (signal, targets) ← match named with
      | some signal => pure (some signal, targets)
      | none => do
        let (found, targets) ← options "ls:" args
        match found.getLast? with
        | some ('l', _) => pure (none, targets)
        | some (_, name) =>
          match signalNumber? name with
          | some signal => pure (some signal, targets)
          | none => Script.fail s!"invalid signal number or name: {name}"
        | none => pure (some 15, targets)
    match signal with
    | none => listSignals targets
    | some signal =>
      if targets.isEmpty then Script.fail killUsage
      sendEach signal 0 targets

/-- A job on a line of its own. -/
def jobLine (mark : String) (j : Job) (outcome : Option ProcessEnd) : String :=
  let state := match outcome with
    | none => "Running"
    | some (.exited 0) => "Done"
    | some (.exited n) => s!"Done({n})"
    | some (.killed n) => Signal.describe n
  let front := s!"[{j.id}] {mark} {state}"
  front ++ String.ofList (List.replicate (max 1 (33 - front.length)) ' ') ++ "\n"

/-- Shows jobs from the last one on. Those that are done are shown once. -/
def showJobs (numbers : Bool) : (shown : Nat) → List Job → Script Unit
  | _, [] => return
  | shown, j :: jobs => do
    let ended ← Script.perform <| Program.ask fun _ w =>
      j.processes.getLast?.bind fun n => (w.record? n).bind (·.outcome)
    let outcome := j.outcome.or ended
    let mark := if shown = 0 then "+" else if shown = 1 then "-" else " "
    if numbers then Script.emit s!"{j.processes.head?.getD 0}\n"
    else Script.emit (jobLine mark j outcome)
    if outcome.isSome then
      modify fun s => { s with jobs := s.jobs.filter (·.id ≠ j.id) }
      showJobs numbers shown jobs
    else showJobs numbers (shown + 1) jobs

def jobs : Builtin := fun args => do
  let (options, _) ← options "lp" args
  showJobs (options.any (·.1 = 'p')) 0 (← get).jobs
  return 0

def noJobControl : Builtin := fun _ => Script.fail "No current job"

end ReleasePreview.Shell.Builtin
