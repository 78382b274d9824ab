import ReleasePreview.Files.Access
import ReleasePreview.Tools.Names

/-! Programs that start other programs. -/
namespace ReleasePreview.Tools

/-- The status of a program that could not be started. -/
def launchStatus (e : FileError) : Nat := if e = .notFound then 127 else 126

/-- Starts a program in a process of its own and waits for it. Gives what it has come to. A program
that cannot be started is complained of. -/
def runAndWait (launch : Launcher) (c : ProgramCall) (words : List String) (setUp : Program Unit) :
    Program ProcessEnd := do
  let child ← Program.fork do
    setUp
    let e ← Program.become launch { c with name := words.headD "", args := words.drop 1 }
    complain c (words.headD "" ++ ": " ++ e.reason)
    return launchStatus e
  Program.join child

/-- Turns into a program, or complains that it is none. -/
def turnInto (launch : Launcher) (c call : ProgramCall) (shown : String → String) :
    Program Nat := do
  let e ← Program.become launch call
  complain c s!"{shown call.name}: {e.reason}"
  return launchStatus e

/-- The assignments in front of some words. -/
def assignments : List String → List (String × String) × List String
  | word :: words =>
    let name := word.toList.takeWhile (· ≠ '=')
    match word.toList.drop name.length with
    | _ :: value =>
      let (found, rest) := assignments words
      ((String.ofList name, String.ofList value) :: found, rest)
    | [] => ([], word :: words)
  | [] => ([], [])

def withVariable (environment : List (String × String)) (name value : String) :
    List (String × String) :=
  if (environment.lookup name).isNone then environment ++ [(name, value)]
  else environment.map fun v => if v.1 = name then (name, value) else v

/-- Runs a program with other variables, or shows them. -/
def env : Tool := fun launch => withOptions
  { letters := "0iu:C:S:v", names := [("ignore-environment", 'i'), ("unset", 'u'), ("null", '0'),
      ("split-string", 'S'), ("chdir", 'C')], anywhere := false } 125 fun c o => do
  let split := ((o.values 'S').flatMap fun s =>
    (Text.split ' ' s.toList).filter (!·.isEmpty)).map String.ofList
  let words := split ++ o.args
  let (clears, words) := match words with
    | "-" :: words => (true, words)
    | words => (o.has 'i', words)
  let kept := if clears then [] else c.environment.filter fun v => !(o.values 'u').contains v.1
  let (given, words) := assignments words
  let environment := given.foldl (fun e (name, value) => withVariable e name value) kept
  if words.isEmpty then
    Program.out (String.join (environment.map fun (name, value) => s!"{name}={value}\n"))
    return 0
  else
    turnInto launch c { name := words.headD "", args := words.drop 1, environment }
      fun name => s!"'{name}'"

/-- What is read of words: those that are done, and the one that has begun, backwards. -/
structure WordScan where
  words : List (List Char) := []
  begun : Option (List Char) := none

/-- The words of a text, which may have quotes and backslashes; `none` if a quote has no end. -/
def quotedWords (isGap : Char → Bool) : WordScan → List Char → Except String (List (List Char))
  | s, [] => .ok ((s.begun.map (·.reverse)).toList.reverse ++ s.words).reverse
  | s, '\\' :: c :: rest =>
    quotedWords isGap { s with begun := some (c :: s.begun.getD []) } rest
  | s, c :: rest =>
    if c = '\'' || c = '"' then
      let body := rest.takeWhile fun d => d ≠ c && d ≠ '\n'
      match rest.drop body.length with
      | d :: _ =>
        if d = c then
          quotedWords isGap { s with begun := some (body.reverse ++ s.begun.getD []) }
            (rest.drop (body.length + 1))
        else .error (if c = '"' then "double" else "single")
      | [] => .error (if c = '"' then "double" else "single")
    else if isGap c then
      quotedWords isGap { words := (s.begun.map (·.reverse)).toList ++ s.words } rest
    else quotedWords isGap { s with begun := some (c :: s.begun.getD []) } rest
termination_by _ s => s.length
decreasing_by all_goals (simp only [List.length_cons, List.length_drop]; omega)

/-- A text with another one in the place of each mark. -/
def substituted (mark value : List Char) : (fuel : Nat) → List Char → List Char
  | 0, s => s
  | _, [] => []
  | fuel + 1, c :: s =>
    if !mark.isEmpty && mark.isPrefixOf (c :: s) then
      value ++ substituted mark value fuel ((c :: s).drop mark.length)
    else c :: substituted mark value fuel s

/-- Runs a program for each list of words. Gives the status. -/
def runEach (launch : Launcher) (c : ProgramCall) (shows : Bool) (status : Nat) :
    List (List String) → Program Nat
  | [] => return status
  | words :: rest => do
    if shows then Program.err (" ".intercalate words)
    let name := words.headD ""
    match ← runAndWait launch c words (discard (Program.openAt 0 "/dev/null" .reading)) with
    | .exited 0 => runEach launch c shows status rest
    | .exited 126 => return 126
    | .exited 127 => return 127
    | .exited 255 =>
      complain c s!"{name}: exited with status 255; aborting"
      return 124
    | .exited _ => runEach launch c shows 123 rest
    | .killed n =>
      complain c s!"{name}: terminated by signal {n}"
      return 125

/-- Runs a program with words from the input. -/
def xargs : Tool := fun launch => withOptions
  { letters := "0a:d:E:I:L:n:oP:prs:tx", names := [("null", '0'), ("delimiter", 'd'),
      ("max-args", 'n'), ("max-lines", 'L'), ("no-run-if-empty", 'r'), ("verbose", 't'),
      ("replace", 'I'), ("max-procs", 'P')], anywhere := false } 1 fun c o => do
  let text ← match ← Program.readAll 0 with
    | .ok bytes => pure (Text.Octets.ofBytes bytes).toList
    | .error _ => pure []
  let command := if o.args.isEmpty then ["echo"] else o.args
  let delimiter : Option Char := if o.has '0' then some '\x00' else
    (o.value? 'd').map fun s => ((Format.unescaped s).1.headD '\n')
  let pieces (d : Char) : List (List Char) :=
    let parts := Text.split d text
    if parts.getLast? = some [] then parts.dropLast else parts
  let isBlank (ch : Char) : Bool := ch = ' ' || ch = '\t'
  let lines := (pieces '\n').map fun line => line.dropWhile isBlank
  let found : Except String (List (List Char)) :=
    match delimiter with
    | some d => .ok (pieces d)
    | none =>
      if o.has 'I' then .ok (lines.filter (!·.isEmpty))
      else quotedWords (fun ch => isBlank ch || ch = '\n') {} text
  match found with
  | .error kind =>
    let hint := "by default quotes are special to xargs unless you use the -0 option"
    complain c s!"unmatched {kind} quote; {hint}"
    return 1
  | .ok words =>
    let words := words.map String.ofList
    let batches : List (List String) :=
      match o.value? 'I', (o.value? 'n').bind (·.toNat?), (o.value? 'L').bind (·.toNat?) with
      | some mark, _, _ =>
        words.map fun word => command.map fun arg =>
          String.ofList (substituted mark.toList word.toList (arg.length + 1) arg.toList)
      | none, some n, _ => (inPieces (max n 1) (words.length + 1) words).map (command ++ ·)
      | none, none, some n =>
        let full := lines.filter (!·.isEmpty)
        (inPieces (max n 1) (full.length + 1) full).map fun part =>
          command ++ (part.flatMap fun line => (Text.split ' ' line).filter (!·.isEmpty)).map
            String.ofList
      | none, none, none =>
        if words.isEmpty then if o.has 'r' then [] else [command] else [command ++ words]
    runEach launch c (o.has 't') 0 batches

/-- Closes all that a process has open. -/
def closeAll : Program Unit := Program.tell fun number w =>
  w.change number fun r => { r with descriptors := [] }

/-- The processes that some processes have started, and those. The fuel is how many there are. -/
def descendants (records : List (Nat × ProcessRecord)) : (fuel : Nat) → List Nat → List Nat
  | 0, found => found
  | fuel + 1, found =>
    let more := records.filterMap fun (n, r) =>
      if found.contains r.parent && !found.contains n then some n else none
    if more.isEmpty then found else descendants records fuel (found ++ more)

/-- Sends a signal to a process and to those that it has started. -/
def signalAll (signal process : Nat) : Program Unit := Program.tell fun _ w =>
  (descendants w.records w.records.length [process]).foldl (fun w n => w.signal n signal) w

def hasEnded (process : Nat) : Program Bool := Program.ask fun _ w =>
  (w.record? process).all (·.outcome.isSome)

/-- Runs a program for some time at most. -/
def timeout : Tool := fun launch => withOptions
  { letters := "fk:ps:v", names := [("signal", 's'), ("kill-after", 'k'), ("foreground", 'f'),
      ("preserve-status", 'p'), ("verbose", 'v')], anywhere := false } 125 fun c o => do
  let signal := ((o.value? 's').bind fun s =>
    match s.toNat? with
    | some n => some n
    | none =>
      let name := if s.toUpper.startsWith "SIG" then (s.drop 3).toString else s
      (Signal.ofName? name).map (·.number)).getD 15
  match o.args with
  | [] | [_] =>
    Program.err "Try 'timeout --help' for more information."
    return 125
  | duration :: words =>
    match interval? duration, (o.value? 'k').map interval? with
    | none, _ => misuse c s!"invalid time interval '{duration}'" 125
    | _, some none => misuse c ("invalid time interval " ++ quotedName ((o.value? 'k').getD "")) 125
    | some time, kill =>
      let start ← Program.ask fun _ w => w.clock
      let child ← Program.fork do
        let e ← Program.become launch { c with name := words.headD "", args := words.drop 1 }
        complain c ("failed to run command " ++ quotedName (words.headD "") ++ ": " ++ e.reason)
        return launchStatus e
      let timer ← Program.fork do
        closeAll
        if time = 0 then stay
        Program.pause time
        signalAll signal child
        match kill.join with
        | some more =>
          Program.pause more
          if ← hasEnded child then return 0
          else
            signalAll Signal.killNumber child
            return 1
        | none => return 0
      let outcome ← Program.join child
      Program.tell fun _ w => w.finish timer (.killed Signal.killNumber)
      discard (Program.join timer)
      let now ← Program.ask fun _ w => w.clock
      let isLate := time ≠ 0 && start + time ≤ now
      if outcome = .killed Signal.killNumber && isLate then
        Program.tell fun number w => w.signal number Signal.killNumber
        stay
      if isLate && !o.has 'p' then return 124 else return outcome.status
where
  stay : Program Unit := Program.await fun _ _ => none

def nohup : Tool := fun launch c => do
  let words := if c.args.head? = some "--" then c.args.drop 1 else c.args
  if words.isEmpty then misuse c "missing operand" 125
  else
    Program.tell fun number w => w.change number fun r => { r with ignored := 1 :: r.ignored }
    turnInto launch c { c with name := words.headD "", args := words.drop 1 }
      fun name => s!"failed to run command '{name}'"

/-- Runs a program at another pace, which makes no difference. -/
def nice : Tool := fun launch => withOptions
  { letters := "n:", names := [("adjustment", 'n')], anywhere := false } 125 fun c o => do
  if o.args.isEmpty then
    Program.out "0\n"
    return 0
  else
    turnInto launch c { c with name := o.args.headD "", args := o.args.drop 1 }
      fun name => s!"'{name}'"

/-- Shows where programs are. -/
def which : Tool := fun _ c => do
  let names := c.args.filter fun a => !a.startsWith "-"
  let directories := (c.valueOf? "PATH").getD ProgramCall.usualDirectories
  let found ← Program.files fun t directory => names.map fun name =>
    (ProgramCall.candidates directories name).find? fun path =>
      match t.find directory (Text.Octets.readable path) with
      | .ok (.file _ mode) => mode.executable
      | _ => false
  Program.out (String.join (found.filterMap fun path => path.map (· ++ "\n")))
  return if found.all (·.isSome) && !found.isEmpty then 0 else 1

end ReleasePreview.Tools
