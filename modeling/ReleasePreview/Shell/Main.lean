import ReleasePreview.Shell.Eval
import ReleasePreview.Tools.Basic

/-! The shell as a program: its options, and where its commands come from. -/
namespace ReleasePreview.Shell

/-- Where the commands of a shell come from. -/
inductive Script.Origin where
  | text (s : String)
  | file (path : String)
  | input

namespace Main

/-- The options in front of the arguments of a shell: letters to be set, and whether the commands
are an argument or come from the input. -/
structure Settings where
  letters : List (Bool × Char) := []
  isText : Bool := false
  isInput : Bool := false

/-- Takes one letter of an option. Its name is the next argument if the letter asks for one. -/
def setting (on : Bool) : Settings × List String → Char → Except String (Settings × List String)
  | (s, args), 'c' => .ok ({ s with isText := true }, args)
  | (s, args), 's' => .ok ({ s with isInput := true }, args)
  | (s, args), 'l' | (s, args), 'i' => .ok (s, args)
  | (s, []), 'o' => .ok (s, [])
  | (s, name :: args), 'o' =>
    match Builtin.optionNames.find? (·.2 = name) with
    | some (letter, _) => .ok ({ s with letters := (on, letter) :: s.letters }, args)
    | none => .error s!"Illegal option -o {name}"
  | (s, args), c =>
    if (Builtin.optionNames.lookup c).isSome then
      .ok ({ s with letters := (on, c) :: s.letters }, args)
    else .error ("Illegal option " ++ (if on then "-" else "+") ++ String.singleton c)

/-- The settings in front of arguments, and the arguments behind them, or what is wrong. -/
def settings : (fuel : Nat) → Settings → List String → Except String (Settings × List String)
  | 0, s, args => .ok (s, args)
  | _, s, [] => .ok (s, [])
  | fuel + 1, s, arg :: args =>
    match arg.toList with
    | ['-'] => .ok (s, args)
    | ['-', '-'] => .ok (s, args)
    | sign :: letters =>
      if sign ≠ '-' && sign ≠ '+' then .ok (s, arg :: args)
      else do
        let (s, args) ← letters.foldlM (setting (sign = '-')) (s, args)
        settings fuel s args
    | [] => .ok (s, arg :: args)

/-- The variables that a shell begins with, the newest first. -/
def bindings (environment : List (String × String)) (parent : Nat) (directory : String) :
    List (String × Binding) :=
  let own := [("IFS", " \t\n"), ("OPTIND", "1"), ("PS1", "# "), ("PS2", "> "), ("PS4", "+ "),
    ("PPID", toString parent)]
  let usual := if (environment.lookup "PATH").isSome then []
    else [("PATH", ProgramCall.usualDirectories)]
  let given := environment.filter fun v =>
    isName v.1 && v.1 ≠ "PWD" && (own.lookup v.1).isNone
  [("PWD", { value := some directory, isExported := true })] ++
    given.reverse.map (fun (name, value) => (name, { value := some value, isExported := true })) ++
    (own ++ usual).map fun (name, value) => (name, { value := some value })

/-- The directory that a shell begins in: as it is called, if that is right. -/
def startDirectory (environment : List (String × String)) (t : FileTree) (p : Place) : String :=
  let physical := Text.Octets.ofText p.path
  match environment.lookup "PWD" with
  | some path =>
    let isRight := Path.isAbsolute path &&
      (t.canonical [] (Text.Octets.readable path)).toOption = some p
    if isRight then path else physical
  | none => physical

/-- Runs the commands of a text, then what is left for the end. -/
def run (launch : Launcher) (s : State) (last : Bool) (text : String) : Program Nat := do
  let reading := Script.readAndRun launch Program.fuel false last { rest := text.toList }
  let (_, s) ← (reading.run).run s
  Script.leave launch Program.fuel s

end Main

/-- A shell with the arguments of a call. -/
def shell : Tools.Tool := fun launch c => do
  match Main.settings (c.args.length + 1) {} c.args with
  | .error message =>
    Program.err s!"{c.name}: 0: {message}"
    return Script.faultStatus
  | .ok (settings, args) =>
    let (number, parent) ← Program.ask fun number w =>
      (number, ((w.record? number).map (·.parent)).getD 1)
    let directory ← Program.files (Main.startDirectory c.environment)
    let on := settings.letters.foldr
      (fun (on, letter) letters =>
        let others := letters.filter (· ≠ letter)
        if on then letter :: others else others)
      (if settings.isInput then ['s'] else [])
    let start : State := {
      script := c.name
      bindings := Main.bindings c.environment parent directory
      number
      directory
      options := (Builtin.optionNames.reverse.map (·.1)).filter on.contains }
    match settings.isText, args with
    | true, [] =>
      Program.err s!"{c.name}: 0: -c requires an argument"
      return Script.faultStatus
    | true, text :: args =>
      Main.run launch { start with script := args.headD c.name, args := args.drop 1 } true text
    | false, args =>
      let origin := match settings.isInput, args with
        | false, path :: _ => some path
        | _, _ => none
      match origin with
      | none =>
        let bytes ← Program.readAll 0
        let text := (bytes.toOption.getD []).filter (· ≠ 0)
        Main.run launch { start with args } false (Text.Octets.ofBytes text)
      | some path =>
        let found ← Program.files fun t directory =>
          t.readScript directory (Text.Octets.readable path)
        match found with
        | .error e =>
          let reason := if e = .notFound || e = .notDirectory then "No such file" else e.reason
          Program.err s!"{c.name}: 0: cannot open {path}: {reason}"
          return Script.faultStatus
        | .ok bytes =>
          Main.run launch { start with script := path, args := args.drop 1 } false
            (Text.Octets.ofBytes (bytes.filter (· ≠ 0)))

end ReleasePreview.Shell
