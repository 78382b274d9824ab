import ReleasePreview.Shell.Builtin.Lookup
import ReleasePreview.Shell.Parse
import ReleasePreview.Shell.Redirection

/-!
Running the commands of a script. The fuel bounds how many commands are run one after the other or
within each other. `tested` says that a failure is looked at, and `last` that nothing is to be done
behind a command, so that the process may turn into its program.
-/
namespace ReleasePreview.Shell

open Text (matchesPattern)

namespace Script

/-- Does something and then something else, whether the first one stops or not. -/
def afterwards {α : Type} (body : Script α) (finish : Script Unit) : Script α := do
  let a ← tryCatch body fun e => do
    finish
    throw e
  finish
  return a

/-- How a loop goes on behind a command in it. -/
inductive Round where
  | on
  | next
  | out
deriving DecidableEq

/-- Counts a loop that is left. -/
def round : Script Round := do
  match (← get).skip with
  | .nothing => return .on
  | .returns => return .out
  | .breaks n =>
    modify fun s => { s with skip := if n ≤ 1 then .nothing else .breaks (n - 1) }
    return .out
  | .continues n =>
    modify fun s => { s with skip := if n ≤ 1 then .nothing else .continues (n - 1) }
    return if n ≤ 1 then .next else .out

def skips : Script Bool := do return (← get).skip ≠ .nothing

/-- Waits for processes. Gives the status of the last one. -/
def awaitAll : (status : Nat) → List Nat → Script Nat
  | status, [] => return status
  | _, child :: children => do
    let outcome ← perform (Program.join child)
    announce outcome
    awaitAll outcome.status children

/-- Takes note of a command in the background. Its number is the first one of no job that goes
on. -/
def addJob (processes : List Nat) : Script Unit := modify fun s =>
  let ids := (List.range (s.jobs.length + 1)).map (· + 1)
  let goesOn (id : Nat) : Bool := s.jobs.any fun j => j.id = id && j.outcome.isNone
  let id := (ids.find? (!goesOn ·)).getD 1
  { s with
    lastJob := processes.getLast?
    jobs := { id, processes, text := "" } :: s.jobs.filter (·.id ≠ id) }

/-- Shows a command before it runs. -/
def trace (descriptor : Nat) (assignments : List (String × String)) (words : List String) :
    Script Unit := do
  if ← hasOption 'x' then
    let front := ((← get).value? "PS4").getD "+ "
    let all := assignments.map (fun (name, value) => s!"{name}={value}") ++ words
    perform (discard (Program.put descriptor (front ++ " ".intercalate all ++ "\n")))

/-- The words of a command. Behind a name that asks for it, assignments are not split. -/
def expandWords (run : Substitution) (assigning : Option Bool) :
    List Word → Script (List String)
  | [] => return []
  | w :: ws => do
    let fields ←
      if assigning = some true && (assignmentName? w).isSome then
        do pure [← expandText run .assigning w]
      else expandFields run w
    let assigning := match assigning, fields.filter (· ≠ "command") with
      | none, name :: _ => some (Builtin.assigning.contains name)
      | found, _ => found
    return fields ++ (← expandWords run assigning ws)
where
  assignmentName? (w : Word) : Option String :=
    match w with
    | .text s false :: _ =>
      let name := String.ofList (s.takeWhile (· ≠ '='))
      if s.contains '=' && isName name then some name else none
    | _ => none

/-- What `command` asks for: the words behind it, or a description of a name. -/
inductive Request where
  /-- Runs words, with the usual directories to look for programs in if `usual`. -/
  | run (usual : Bool) (words : List String)
  | describe (inWords : Bool) (names : List String)
  | illegal (option : Char)

/-- What words behind `command` ask for. The fuel is their number. -/
def request (usual : Bool) : (fuel : Nat) → List String → Request
  | fuel + 1, "-p" :: words => request true fuel words
  | _, "-v" :: names | _, "-pv" :: names => .describe false names
  | _, "-V" :: names | _, "-pV" :: names => .describe true names
  | _, "--" :: words => .run usual words
  | _, word :: words =>
    match word.toList with
    | '-' :: c :: _ => .illegal c
    | _ => .run usual (word :: words)
  | _, [] => .run usual []

/-- The message of a program that could not be started, and its status. -/
def launchFault (name : String) (e : FileError) : String × Nat :=
  let isLost := e = .notFound || e = .notDirectory
  (name ++ ": " ++ (if isLost then "not found" else e.reason),
    if isLost || e = .tooManyLinks || e = .nameTooLong then 127 else 126)

/-- Turns the process into the first program of some paths. A file that is no program but a text is
a script for a shell. -/
def launchFirst (launch : Launcher) (call : ProgramCall) (found : FileError) :
    List String → Program FileError
  | [] => return found
  | path :: paths => do
    let e ← launch path call
    let e ← if e = .badFormat then launchText path else pure e
    launchFirst launch call (if e = .notFound || e = .notDirectory then found else e) paths
where
  launchText (path : String) : Program FileError := do
    let isText ← Program.files fun t directory =>
      match t.read directory (Text.Octets.readable path) with
      | .ok bytes => (bytes.takeWhile (· ≠ 10)).all fun b => 32 ≤ b || b = 9 || b = 13
      | .error _ => false
    if isText then launch "/bin/sh" { call with name := "/bin/sh", args := path :: call.args }
    else return .badFormat

/-- Turns the process into a program, or says why not. -/
def become (launch : Launcher) (words : List String) : Script Unit := do
  let s ← get
  let name := words.headD ""
  let call : ProgramCall := { name, args := words.drop 1, environment := s.environment }
  let e ← perform (launchFirst launch call .notFound (ProgramCall.candidates s.searchPath name))
  let (message, status) := launchFault name e
  report message
  setStatus status
  throw .ended

/-- The state of a shell beside another one, which has none of its traps and jobs. -/
def aside (s : State) : State :=
  { s with
    traps := s.traps.filter (·.2.isEmpty)
    jobs := []
    output := []
    saved := none
    skip := .nothing }

/-- Runs a shell of its own in another process, which first does something about its
descriptors. -/
def spawn (leave : State → Program Nat) (setUp : Program Unit) (body : Script Unit) :
    Script Nat := do
  let s ← get
  perform <| Program.fork do
    setUp
    let (_, s) ← (body.run).run (aside s)
    leave s

/-- What processes in the background do not listen to. -/
def quietly : Program Unit := Program.tell fun number w => w.change number fun r =>
  { r with ignored := 2 :: 3 :: r.ignored }

/-- Reads nothing. -/
def withoutInput : Program Unit := discard (Program.openAt 0 "/dev/null" .reading)

/-- The parent of a command that is substituted reads what it writes. -/
def collect (leave : State → Program Nat) (body : Script Unit) : Script String := do
  let (output, input) ← perform Program.newPipe
  let child ← spawn leave
    (do
      Program.close output
      Program.move input 1)
    body
  perform (Program.close input)
  let bytes ← perform (Program.readAll output)
  perform (Program.close output)
  let status ← awaitAll 0 [child]
  modify fun s => { s with substituted := some status }
  let text := (bytes.toOption.getD []).filter (· ≠ 0)
  return Text.Octets.ofBytes (text.reverse.dropWhile (· = 10)).reverse

/-- Has a builtin do its work. Its mistakes end the shell if it is a special one. -/
def withBuiltin (name : String) (special : Bool) (body : Script Nat) : Script Unit := do
  let before := (← get).builtin
  modify fun s => { s with builtin := some name }
  let finish : Script Unit := do
    flush
    modify fun s => { s with builtin := before }
  let act : Script Unit := do
    setStatus (← body)
    finish
  tryCatch act fun e => do
    finish
    if special || e = .ended then throw e

mutual

/-- Runs a command. -/
def evaluate (launch : Launcher) : (fuel : Nat) → (tested last : Bool) → Command → Script Unit
  | 0, _, _, _ => throw .ended
  | fuel + 1, tested, last, c => do
    if ← hasOption 'n' then return
    let checked ← match c with
      | .simple line assignments words redirects => do
        simple launch fuel tested last line assignments words redirects
        pure true
      | .pipeline stages inBackground => do
        pipeline launch fuel tested inBackground stages
        pure true
      | .subshell body => do
        subshell launch fuel tested last body
        pure true
      | .background body => do
        let child ← spawn (leave launch fuel)
          (do
            quietly
            withoutInput)
          (evaluate launch fuel false true body)
        addJob [child]
        setStatus 0
        pure true
      | .negation body => do
        evaluate launch fuel true false body
        if !(← skips) then modify fun s => { s with status := if s.status = 0 then 1 else 0 }
        pure false
      | .conjunction a b => do
        evaluate launch fuel true false a
        if (← get).status = 0 && !(← skips) then evaluate launch fuel tested last b
        pure false
      | .disjunction a b => do
        evaluate launch fuel true false a
        if (← get).status ≠ 0 && !(← skips) then evaluate launch fuel tested last b
        pure false
      | .sequence commands => do
        sequence launch fuel tested last commands
        pure false
      | .conditional test yes no => do
        evaluate launch fuel true false test
        if !(← skips) then
          if (← get).status = 0 then evaluate launch fuel tested last yes
          else match no with
            | .sequence [] => setStatus 0
            | no => evaluate launch fuel tested last no
        pure false
      | .loop untilTrue test body => do
        modify fun s => { s with loops := s.loops + 1 }
        loop launch fuel tested untilTrue test body 0
        modify fun s => { s with loops := s.loops - 1 }
        pure false
      | .each line name words body => do
        modify fun s => { s with line }
        let fields ← match words with
          | none => do pure (← get).args
          | some words => expandWords (substitute launch fuel) (some false) words
        if fields.isEmpty then setStatus 0
        modify fun s => { s with loops := s.loops + 1 }
        each launch fuel tested name body fields
        modify fun s => { s with loops := s.loops - 1 }
        pure false
      | .select line subject arms => do
        modify fun s => { s with line }
        let text ← expandText (substitute launch fuel) .start subject
        select launch fuel tested last text.toList arms
        pure false
      | .redirected line body redirects => do
        modify fun s => { s with line }
        let run := substitute launch fuel
        let connections ← redirects.mapM (connection run)
        let (saved, ok) ← connectAll run [] connections
        if ok then
          afterwards (evaluate launch fuel tested false body) (disconnectAll saved)
        else disconnectAll saved
        pure false
      | .define line name body => do
        modify fun s =>
          { s with
            line
            functions := (name, body) :: s.functions.filter (·.1 ≠ name)
            status := 0 }
        pure false
    runTraps launch fuel (← takeSignals)
    if checked && !tested && (← get).status ≠ 0 then
      if ← hasOption 'e' then throw .ended

/-- Runs commands one after the other. -/
def sequence (launch : Launcher) : (fuel : Nat) → (tested last : Bool) → List Command → Script Unit
  | 0, _, _, _ => throw .ended
  | _, _, _, [] => return
  | fuel + 1, tested, last, [c] => evaluate launch fuel tested last c
  | fuel + 1, tested, last, c :: cs => do
    evaluate launch fuel tested false c
    if !(← skips) then sequence launch fuel tested last cs

/-- Runs a loop, whose status so far is given. -/
def loop (launch : Launcher) : (fuel : Nat) → (tested untilTrue : Bool) → (test body : Command) →
    (status : Nat) → Script Unit
  | 0, _, _, _, _, _ => throw .ended
  | fuel + 1, tested, untilTrue, test, body, status => do
    evaluate launch fuel true false test
    let found := (← get).status
    let returns := (← get).skip = .returns
    match ← round with
    | .out => setStatus (if returns then found else status)
    | .next => loop launch fuel tested untilTrue test body status
    | .on =>
      if (found = 0) = untilTrue then setStatus status
      else
        evaluate launch fuel tested false body
        let status := (← get).status
        match ← round with
        | .out => setStatus status
        | _ => loop launch fuel tested untilTrue test body status

/-- Runs a command for each of some fields. -/
def each (launch : Launcher) : (fuel : Nat) → (tested : Bool) → (name : String) → Command →
    List String → Script Unit
  | 0, _, _, _, _ => throw .ended
  | _, _, _, _, [] => return
  | fuel + 1, tested, name, body, field :: fields => do
    assign name field
    evaluate launch fuel tested false body
    match ← round with
    | .out => return
    | _ => each launch fuel tested name body fields

/-- Runs the command of the first arm that a text matches. -/
def select (launch : Launcher) : (fuel : Nat) → (tested last : Bool) → List Char →
    List (List Word × Command) → Script Unit
  | 0, _, _, _, _ => throw .ended
  | _, _, _, _, [] => setStatus 0
  | fuel + 1, tested, last, text, (patterns, body) :: arms => do
    if ← matchesAny (substitute launch fuel) text patterns then
      match body with
      | .sequence [] => setStatus 0
      | body => evaluate launch fuel tested last body
    else select launch fuel tested last text arms
where
  matchesAny (run : Substitution) (text : List Char) : List Word → Script Bool
    | [] => return false
    | w :: ws => do
      let pattern := (← expandMarked run .start w).pattern
      if matchesPattern pattern text then return true else matchesAny run text ws

/-- The text that a command writes. -/
def substitute (launch : Launcher) : (fuel : Nat) → Substitution
  | 0, _ => throw .ended
  | _, .sequence [] => return ""
  | fuel + 1, c => collect (leave launch fuel) (evaluate launch fuel false true c)

def subshell (launch : Launcher) : (fuel : Nat) → (tested last : Bool) → Command → Script Unit
  | 0, _, _, _ => throw .ended
  | fuel + 1, tested, last, body => do
    let traps := (← get).traps
    if last && traps.all (·.2.isEmpty) then
      modify aside
      evaluate launch fuel tested true body
      throw .ended
    else
      let child ← spawn (leave launch fuel) (return) (evaluate launch fuel tested true body)
      setStatus (← awaitAll 0 [child])

/-- Runs commands beside each other, each reading what the one before it writes. -/
def pipeline (launch : Launcher) : (fuel : Nat) → (tested inBackground : Bool) → List Command →
    Script Unit
  | 0, _, _, _ => throw .ended
  | fuel + 1, tested, inBackground, commands => do
    let processes ← stages launch fuel tested inBackground none commands
    if inBackground then
      addJob processes
      setStatus 0
    else setStatus (← awaitAll 0 processes)

/-- Starts the commands of a pipeline. The first one reads from a descriptor if there is one. -/
def stages (launch : Launcher) : (fuel : Nat) → (tested inBackground : Bool) →
    (input : Option Nat) → List Command → Script (List Nat)
  | 0, _, _, _, _ => throw .ended
  | _, _, _, _, [] => return []
  | fuel + 1, tested, inBackground, input, c :: cs => do
    let pipe ← if cs.isEmpty then pure none else some <$> perform Program.newPipe
    let child ← spawn (leave launch fuel)
      (do
        if inBackground then quietly
        match pipe with
        | some (output, _) => Program.close output
        | none => pure ()
        match input with
        | some d => Program.move d 0
        | none => if inBackground then withoutInput
        match pipe with
        | some (_, d) => Program.move d 1
        | none => pure ())
      (evaluate launch fuel tested true c)
    match input with
    | some d => perform (Program.close d)
    | none => pure ()
    match pipe with
    | some (_, d) => perform (Program.close d)
    | none => pure ()
    return child :: (← stages launch fuel tested inBackground (pipe.map (·.1)) cs)

/-- Runs a simple command: its words are expanded, then come redirections and assignments. -/
def simple (launch : Launcher) : (fuel : Nat) → (tested last : Bool) → (line : Nat) →
    List (String × Word) → List Word → List Redirect → Script Unit
  | 0, _, _, _, _, _, _ => throw .ended
  | fuel + 1, tested, last, line, assignments, words, redirects => do
    modify fun s => { s with line, substituted := none }
    let run := substitute launch fuel
    let words ← expandWords run none words
    let (plain, usual, words') :=
      match words with
      | "command" :: rest =>
        match request false (rest.length + 1) rest with
        | .run usual (word :: more) => (false, usual, word :: more)
        | _ => (false, false, words)
      | _ => (true, false, words)
    let target ← match words' with
      | [] => pure none
      | name :: _ =>
        let s ← get
        match (if plain then s.functions.lookup name else none) with
        | some body => pure (some (Target.function body))
        | none =>
          if Builtin.isBuiltin name then pure (some (.builtin name))
          else pure (some (.program name))
    let special := match target with
      | some (.builtin name) => plain && Builtin.special.contains name
      | _ => false
    let keepsAssignments := target.isNone || special
    if !keepsAssignments then enterScope
    let finish : Script Unit := if keepsAssignments then return else leaveScope
    let connections ← redirects.mapM (connection run)
    let (saved, ok) ← connectAll run [] connections
    if !ok then
      disconnectAll saved
      finish
      if special then throw .failed
    else
      let stays := words'.head? = some "exec"
      let given ← assignments.mapM fun (name, w) => do
        let value ← expandText run .assigned w
        if !keepsAssignments then keep name
        assign name value
        if !keepsAssignments || (stays && words'.length > 1) then
          modify (·.change name fun b => { b with isExported := true })
        pure (name, value)
      trace (((saved.find? (·.descriptor = 2)).bind (·.copy)).getD 2) given words
      if usual then modify fun s => { s with directories := some ProgramCall.usualDirectories }
      afterwards
        (match target with
        | none => do setStatus ((← get).substituted.getD 0)
        | some target => invoke launch fuel tested last special words' target)
        (do
          modify fun s => { s with directories := none }
          if stays then forget saved else disconnectAll saved
          finish)

/-- Runs what the first of some words stands for. -/
def invoke (launch : Launcher) : (fuel : Nat) → (tested last special : Bool) →
    List String → Target → Script Unit
  | 0, _, _, _, _, _ => throw .ended
  | fuel + 1, tested, last, special, words, target => do
    match target with
    | .function body => call launch fuel tested body (words.drop 1)
    | .builtin name =>
      let args := words.drop 1
      withBuiltin name special <|
        match name with
        | "eval" => do
          let line := (← get).line
          evaluateText launch fuel tested (" ".intercalate args)
          modify fun s => { s with line }
          return (← get).status
        | "." => source launch fuel args
        | "exec" => do
          if !args.isEmpty then become launch args
          return 0
        | "command" =>
          match request false (args.length + 1) args with
          | .illegal c => fail s!"Illegal option -{c}"
          | .describe inWords (name :: _) => Builtin.describe inWords name
          | _ => return 0
        | "type" => Builtin.describeAll true 0 args
        | "hash" => Builtin.hash args
        | name => ((Builtin.table.lookup name).getD fun _ => return 0) args
    | .missing _ => return
    | .program name =>
      match ← locate false name with
      | .missing e =>
        report (launchFault name e).1
        setStatus 127
      | found =>
        if let .program path := found then
          if path ≠ name then Builtin.remember name path
        if last && (← get).traps.all (·.2.isEmpty) then become launch words
        else
          let child ← spawn (leave launch fuel) (return) (become launch words)
          setStatus (← awaitAll 0 [child])

/-- How deep functions may call functions. -/
def call (launch : Launcher) : (fuel : Nat) → (tested : Bool) → Command → List String → Script Unit
  | 0, _, _, _ => throw .ended
  | fuel + 1, tested, body, args => do
    let s ← get
    if 1000 ≤ s.depth then fail "Maximum function recursion depth (1000) reached"
    modify fun s =>
      { s with
        args
        loops := 0
        depth := s.depth + 1
        optionIndex := 1
        optionOffset := 0 }
    afterwards (evaluate launch fuel tested false body) <| modify fun t =>
      { t with
        args := s.args
        loops := s.loops
        depth := s.depth
        optionIndex := s.optionIndex
        optionOffset := s.optionOffset
        skip := if t.skip = .returns then .nothing else t.skip }

/-- Runs the commands of a file. -/
def source (launch : Launcher) : (fuel : Nat) → List String → Script Nat
  | 0, _ => throw .ended
  | _, [] => return 0
  | fuel + 1, name :: _ => do
    let directories := (← get).searchPath
    let path? ← if name.toList.contains '/' then pure (some name) else
      perform <| Program.files fun t directory =>
        match findProgram directories name t directory with
        | .program path => some path
        | _ => none
    match path? with
    | none => fail s!"{name}: not found"
    | some path =>
      let name := Text.Octets.readable path
      let found ← perform (Program.files fun t directory => t.readScript directory name)
      match found with
      | .error e =>
        let isLost := e = .notFound || e = .notDirectory
        let reason := if isLost then "No such file" else e.reason
        fail s!"cannot open {path}: {reason}"
      | .ok bytes =>
        let before ← get
        modify fun s => { s with builtin := some path }
        evaluateText launch fuel false (Text.Octets.ofBytes (bytes.filter (· ≠ 0)))
        modify fun s =>
          { s with
            line := before.line
            skip := if s.skip = .returns then .nothing else s.skip }
        return (← get).status

/-- Runs the commands of a text. -/
def evaluateText (launch : Launcher) : (fuel : Nat) → (tested : Bool) → String → Script Unit
  | 0, _, _ => throw .ended
  | fuel + 1, tested, text => do
    let s ← get
    let reader : Reader := { rest := text.toList }
    match ({ reader with documents := s.documents, aliases := s.aliases } : Reader).next? with
    | .ok none => setStatus 0
    | _ => readAndRun launch fuel tested false reader

/-- Runs the commands of a text line by line. What stands before a fault runs. -/
def readAndRun (launch : Launcher) : (fuel : Nat) → (tested last : Bool) → Reader → Script Unit
  | 0, _, _, _ => throw .ended
  | fuel + 1, tested, last, reader => do
    let s ← get
    match ({ reader with documents := s.documents, aliases := s.aliases } : Reader).next? with
    | .error fault =>
      modify fun s => { s with line := fault.line }
      fail s!"Syntax error: {fault.message}"
    | .ok none => return
    | .ok (some (c, after)) =>
      if s.options.contains 'v' then
        let taken := reader.rest.take (reader.rest.length - after.rest.length)
        perform (discard (Program.put 2 (String.ofList taken)))
      modify fun s => { s with documents := after.documents }
      evaluate launch fuel tested (last && after.rest.isEmpty) c
      if !(← skips) then readAndRun launch fuel tested last after

/-- Runs the commands for signals that have come. -/
def runTraps (launch : Launcher) : (fuel : Nat) → (signals : List Nat) → Script Unit
  | 0, _ => throw .ended
  | _, [] => return
  | fuel + 1, signal :: signals => do
    let s ← get
    match s.traps.lookup signal with
    | none => runTraps launch fuel signals
    | some text =>
      modify fun t => { t with saved := some (s.saved.getD s.status) }
      evaluateText launch fuel false text
      modify fun t =>
        { t with
          saved := s.saved
          line := s.line
          status := if t.skip = .returns then t.status else s.status }
      runTraps launch fuel signals

/-- Ends a shell: its command for that is run. Gives the status. -/
def leave (launch : Launcher) : (fuel : Nat) → State → Program Nat
  | 0, s => return s.status
  | fuel + 1, s =>
    match s.traps.lookup 0 with
    | none => return s.status % 256
    | some text => do
      let start := { s with
        traps := s.traps.filter (·.1 ≠ 0)
        skip := .nothing
        saved := some s.status
        builtin := none }
      let (r, t) ← ((evaluateText launch fuel false text).run).run start
      match r with
      | .ok () => return s.status % 256
      | .error _ => return t.status % 256

end

end Script

end ReleasePreview.Shell
