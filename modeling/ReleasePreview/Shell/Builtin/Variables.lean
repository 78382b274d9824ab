import ReleasePreview.Shell.Builtin.Options

/-! Builtins for variables, options and arguments. -/
namespace ReleasePreview.Shell.Builtin

/-- Sets variables that are marked, or shows them. -/
def marking (word : String) (mark : Binding → Binding) (isMarked : Binding → Bool) : Builtin :=
  fun args => do
    let (options, args) ← options "p" args
    if !options.isEmpty || args.isEmpty then
      let s ← get
      let names := (s.bindings.filter fun b => isMarked b.2).map (·.1)
      (sortedNames names).forM fun name =>
        let value := (s.value? name).elim "" fun v => "=" ++ quoted v
        Script.emit s!"{word} {name}{value}\n"
    else
      args.forM fun arg => do
        match assignment? arg with
        | some (name, value) =>
          Script.assign name value
          modify (·.change name mark)
        | none =>
          if !isName arg then Script.fail s!"{arg}: bad variable name"
          modify (·.change arg mark)
    return 0

def exportAll : Builtin := marking "export" ({ · with isExported := true }) (·.isExported)

def readonly : Builtin := marking "readonly" ({ · with isReadonly := true }) (·.isReadonly)

def unset : Builtin := fun args => do
  let (options, args) ← options "vf" args
  args.forM fun name => do
    if options.any (·.1 = 'f') then
      modify fun s => { s with functions := s.functions.filter (·.1 ≠ name) }
    else
      if ((← get).bindings.lookup name).any (·.isReadonly) then
        Script.fail s!"{name}: is read only"
      modify fun s => { s with bindings := s.bindings.filter (·.1 ≠ name) }
  return 0

/-- Gives a function variables of its own. -/
def localAll : Builtin := fun args => do
  if (← get).depth = 0 then Script.fail "not in a function"
  args.forM fun arg => do
    match assignment? arg with
    | some (name, value) =>
      Script.keep name
      Script.assign name value
    | none => if arg ≠ "-" then Script.keep arg
  return 0

/-- The options by their letters and names. -/
def optionNames : List (Char × String) :=
  [('e', "errexit"), ('f', "noglob"), ('I', "ignoreeof"), ('i', "interactive"), ('m', "monitor"),
    ('n', "noexec"), ('s', "stdin"), ('x', "xtrace"), ('v', "verbose"), ('V', "vi"),
    ('E', "emacs"), ('C', "noclobber"), ('a', "allexport"), ('b', "notify"), ('u', "nounset"),
    ('p', "privileged")]

/-- Stands before the letter of an option that is set or unset. -/
def sign (on : Bool) : String := if on then "-" else "+"

/-- Sets or unsets an option. -/
def setOption (on : Bool) (letter : Char) : Script Unit := do
  if (optionNames.lookup letter).isNone then
    Script.fail ("Illegal option " ++ sign on ++ String.singleton letter)
  modify fun s =>
    let others := s.options.filter (· ≠ letter)
    let chosen := if on then letter :: others else others
    { s with options := (optionNames.reverse.map (·.1)).filter chosen.contains }

def showOptions (asCommands : Bool) : Script Unit := do
  let s ← get
  if !asCommands then Script.emit "Current option settings\n"
  let all : List (String × Bool) :=
    optionNames.map (fun (c, name) => (name, s.options.contains c)) ++
      [("nolog", false), ("debug", false)]
  all.forM fun (name, on) =>
    let gap := String.ofList (List.replicate (16 - name.length) ' ')
    if asCommands then Script.emit s!"set {sign on}o {name}\n"
    else Script.emit (name ++ gap ++ (if on then "on\n" else "off\n"))

/-- Sets the letters of an argument, which ask for names behind it. -/
def setLetters (on : Bool) : List Char → List String → Script (List String)
  | [], args => return args
  | 'o' :: letters, args => do
    match args with
    | [] =>
      showOptions (!on)
      setLetters on letters []
    | name :: args =>
      match optionNames.find? (·.2 = name) with
      | some (letter, _) => setOption on letter
      | none => Script.fail s!"Illegal option -o {name}"
      setLetters on letters args
  | letter :: letters, args => do
    setOption on letter
    setLetters on letters args

/-- Sets options, then the arguments if there are any. The fuel is the number of arguments. -/
def setAll : (fuel : Nat) → Builtin
  | 0, _ => return 0
  | fuel + 1, args => do
    let setArguments (args : List String) : Script Unit :=
      modify fun s => { s with args, optionIndex := 1, optionOffset := 0 }
    match args with
    | [] => return 0
    | arg :: more =>
      match arg.toList with
      | ['-'] =>
        setOption false 'x'
        setOption false 'v'
        if !more.isEmpty then setArguments more
        return 0
      | ['-', '-'] =>
        setArguments more
        return 0
      | '-' :: letters => setAll fuel (← setLetters true letters more)
      | '+' :: letters => setAll fuel (← setLetters false letters more)
      | _ =>
        setArguments args
        return 0

def set : Builtin := fun args => do
  if args.isEmpty then
    let s ← get
    (sortedNames (s.bindings.map (·.1))).forM fun name => do
      match s.value? name with
      | some value => Script.emit s!"{name}={quoted value}\n"
      | none => return
    return 0
  else setAll (args.length + 1) args

def shift : Builtin := fun args => do
  let n ← match args with
    | [] => pure 1
    | arg :: _ => Script.number arg
  if (← get).args.length < n then Script.fail "can't shift that many"
  modify fun s => { s with args := s.args.drop n, optionIndex := 1, optionOffset := 0 }
  return 0

/-- Goes on to the next option in the arguments. -/
def nextOption : Builtin := fun args => do
  match args with
  | letters :: name :: given =>
    let s ← get
    let args := if given.isEmpty then s.args else given
    let (index, offset) :=
      if args.length + 1 < s.optionIndex then (1, 0) else (s.optionIndex, s.optionOffset)
    let quiet := letters.toList.head? = some ':'
    let finish (index offset : Nat) (value : String) (status : Nat) : Script Nat := do
      Script.assign "OPTIND" (toString index)
      modify fun s => { s with optionIndex := index, optionOffset := offset }
      Script.assign name value
      return status
    let current := if offset = 0 then "" else args[index - 2]?.getD ""
    let begun := current.toList.drop offset
    let (rest, index, isOption) :=
      if !begun.isEmpty then (begun, index, true)
      else
        match (args[index - 1]?.getD "").toList with
        | ['-', '-'] => ([], index + 1, false)
        | '-' :: c :: rest => (c :: rest, index + 1, true)
        | _ => ([], index, false)
    match isOption, rest with
    | true, c :: rest =>
      let whole := (args[index - 2]?.getD "").length
      let behind := if rest.isEmpty then 0 else whole - rest.length
      match letters.toList.dropWhile (· ≠ c) with
      | _ :: ':' :: _ =>
        match rest, args[index - 1]? with
        | [], none =>
          if quiet then Script.assign "OPTARG" (String.ofList [c])
          else
            Script.perform (Program.err s!"No arg for -{c} option")
            modify fun s => { s with bindings := s.bindings.filter (·.1 ≠ "OPTARG") }
          finish index 0 (if quiet then ":" else "?") 0
        | [], some value =>
          Script.assign "OPTARG" value
          finish (index + 1) 0 (String.ofList [c]) 0
        | value, _ =>
          Script.assign "OPTARG" (String.ofList value)
          finish index 0 (String.ofList [c]) 0
      | _ :: _ =>
        Script.assign "OPTARG" ""
        finish index behind (String.ofList [c]) 0
      | [] =>
        if quiet then Script.assign "OPTARG" (String.ofList [c])
        else
          Script.perform (Program.err s!"Illegal option -{c}")
          modify fun s => { s with bindings := s.bindings.filter (·.1 ≠ "OPTARG") }
        finish index behind "?" 0
    | _, _ => finish index 0 "?" 1
  | _ => Script.fail "Usage: getopts optstring var [arg...]"

/-- Reads a line; with `joins` one that a backslash ends goes on in the next one. Gives the line and
whether it has an end. -/
def readLine (joins : Bool) : (fuel : Nat) → (before : List Char) → Program (List Char × Bool)
  | 0, before => return (before, false)
  | fuel + 1, before => do
    match ← Program.readLine 0 65536 with
    | .error _ => return (before, false)
    | .ok [] => return (before, false)
    | .ok bytes =>
      let text := before ++ ((Text.Octets.ofBytes bytes).toList.filter (· ≠ '\x00'))
      if text.getLast? ≠ some '\n' then readLine joins fuel text
      else
        let line := text.dropLast
        if joins && (line.reverse.takeWhile (· = '\\')).length % 2 = 1 then
          readLine joins fuel line.dropLast
        else return (line, true)

/-- Characters with marks for those behind a backslash. -/
def withEscapes : List Char → List (Char × Bool)
  | '\\' :: c :: s => (c, true) :: withEscapes s
  | ['\\'] => []
  | c :: s => (c, false) :: withEscapes s
  | [] => []

def isGapIn (separators : List Char) (c : Char × Bool) : Bool :=
  !c.2 && separators.contains c.1 && " \t\n".toList.contains c.1

/-- The field in front, and what stands behind the separators that follow it. -/
def nextField (separators : List Char) (s : List (Char × Bool)) :
    List (Char × Bool) × List (Char × Bool) :=
  let s := s.dropWhile (isGapIn separators)
  let field := s.takeWhile fun c => c.2 || !separators.contains c.1
  let rest := (s.drop field.length).dropWhile (isGapIn separators)
  match rest with
  | (c, false) :: more =>
    if separators.contains c then (field, more.dropWhile (isGapIn separators)) else (field, rest)
  | rest => (field, rest)

/-- Where the separators at the end of the last field begin. One that is no blank belongs to them
only right behind blanks, as `spaced` says; a character behind a backslash stands for nothing here.
-/
def endGap (separators : List Char) :
    (found : Option Nat) → (spaced : Bool) → (index : Nat) → List (Char × Bool) → Option Nat
  | found, _, _, [] => found
  | found, _, index, (_, true) :: s => endGap separators found false (index + 1) s
  | found, spaced, index, (c, false) :: s =>
    if isGapIn separators (c, false) then
      endGap separators (found <|> some index) spaced (index + 1) s
    else
      let goesOn := separators.contains c && spaced
      endGap separators (if goesOn then found else none) false (index + 1) s

/-- All that is left of a line, without the separators at its end. -/
def lastField (separators : List Char) (s : List (Char × Bool)) : List (Char × Bool) :=
  let first := (s.takeWhile fun c => c.2 || !separators.contains c.1).length
  match s.drop first with
  | [] => s
  | c :: rest =>
    match endGap separators (some first) (isGapIn separators c) (first + 1) rest with
    | none => s
    | some n => s.take n

/-- Puts the fields of a line into variables, and all the rest into the last one. -/
def assignFields (separators : List Char) : List String → List (Char × Bool) → Script Unit
  | [], _ => return
  | [name], s => do
    let s := s.dropWhile (isGapIn separators)
    Script.assign name (String.ofList ((lastField separators s).map (·.1)))
  | name :: names, s => do
    let (field, rest) := nextField separators s
    Script.assign name (String.ofList (field.map (·.1)))
    assignFields separators names rest

def read : Builtin := fun args => do
  let (options, names) ← options "p:r" args
  if names.isEmpty then Script.fail "arg count"
  let raw := options.any (·.1 = 'r')
  let (line, ended) ← Script.perform (readLine (!raw) Program.fuel [])
  let s ← get
  assignFields s.separators names (if raw then line.map (·, false) else withEscapes line)
  return if ended then 0 else 1

def setAliases : Builtin := fun args => do
  let s ← get
  if args.isEmpty then
    (sortedNames (s.aliases.map (·.1))).forM fun name =>
      let text := (s.aliases.lookup name).getD ""
      Script.emit s!"{name}={quoted text}\n"
    return 0
  else
    let missing ← args.filterM fun arg => do
      match assignment? arg, s.aliases.lookup arg with
      | some (name, text), _ =>
        modify fun s => { s with aliases := (name, text) :: s.aliases.filter (·.1 ≠ name) }
        return false
      | none, some text =>
        Script.emit s!"{arg}={quoted text}\n"
        return false
      | none, none =>
        Script.perform (Program.err s!"alias: {arg} not found")
        return true
    return if missing.isEmpty then 0 else 1

def removeAliases : Builtin := fun args => do
  let (options, names) ← options "a" args
  if !options.isEmpty then
    modify fun s => { s with aliases := [] }
    return 0
  else
    let missing ← names.filterM fun name => do
      if ((← get).aliases.lookup name).isSome then
        modify fun s => { s with aliases := s.aliases.filter (·.1 ≠ name) }
        return false
      else
        Script.perform (Program.err s!"unalias: {name} not found")
        return true
    return if missing.isEmpty then 0 else 1

end ReleasePreview.Shell.Builtin
