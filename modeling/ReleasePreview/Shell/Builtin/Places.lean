import ReleasePreview.Decimal.Natural
import ReleasePreview.Shell.Builtin.Options
import ReleasePreview.Text.Split

/-! Builtins for the directory and for what the system lends to a process. -/
namespace ReleasePreview.Shell.Builtin

/-- The path of a directory with dots followed by their text alone. -/
def normalPath (base path : String) : String :=
  let start := if Path.isAbsolute path then [] else Path.names base
  let names := ((Text.split '/' path.toList).map String.ofList).foldl
    (fun (done : List String) name =>
      if name.isEmpty || name = "." then done
      else if name = ".." then done.dropLast
      else done ++ [name])
    start
  let whole := if Path.isAbsolute path then path else base
  let front := if whole.startsWith "//" && !whole.startsWith "///" then "//" else "/"
  front ++ "/".intercalate names

/-- Goes to a directory. Gives whether there is one. -/
def enter (path : String) : Program (Option Place) := Program.act fun number w =>
  match w.files.canonical (w.directory number) (Text.Octets.readable path) with
  | .ok p =>
    if w.files.node? p = some .directory then
      (w.change number fun r => { r with directory := p }, some p)
    else (w, none)
  | .error _ => (w, none)

/-- Goes to a directory and takes note of it. -/
def settleIn (physical : Bool) (path : String) : Script Bool := do
  let s ← get
  let logical := normalPath s.directory path
  match ← Script.perform (enter (if physical then path else logical)) with
  | none => return false
  | some p =>
    let directory := if physical then Text.Octets.ofText p.path else logical
    Script.assign "OLDPWD" s.directory
    Script.assign "PWD" directory
    modify fun s => { s with directory }
    return true

/-- Goes to the first directory of some that is there. -/
def settleFirst (physical : Bool) : List (String × Bool) → Script (Option Bool)
  | [] => return none
  | (path, shows) :: rest => do
    if ← settleIn physical path then return some shows else settleFirst physical rest

def changeDirectory : Builtin := fun args => do
  let (options, args) ← options "LP" args
  let physical := (options.getLast?.map (·.1)) = some 'P'
  let s ← get
  let (target, shows) := match args with
    | [] => ((s.value? "HOME").getD "", false)
    | "-" :: _ => ((s.value? "OLDPWD").getD s.directory, true)
    | arg :: _ => (arg, false)
  let target := if target.isEmpty then s.directory else target
  let isLocal := Path.isAbsolute target || target = "." || target = ".." ||
    target.startsWith "./" || target.startsWith "../"
  let searched := if isLocal then []
    else (Text.split ':' ((s.value? "CDPATH").getD "").toList).filterMap fun d =>
      if d.isEmpty then none else some (Path.join (String.ofList d) target, true)
  match ← settleFirst physical (searched ++ [(target, shows)]) with
  | some shows =>
    if shows then Script.emit ((← get).directory ++ "\n")
    return 0
  | none => Script.fail s!"can't cd to {target}"

def showDirectory : Builtin := fun args => do
  let (options, _) ← options "LP" args
  if (options.getLast?.map (·.1)) = some 'P' then
    let p ← Script.perform (Program.ask fun number w => w.directory number)
    Script.emit (Text.Octets.ofText p.path ++ "\n")
  else Script.emit ((← get).directory ++ "\n")
  return 0

/-- Where the permissions of the owner, the group and others stand in a number. -/
def permissionPlaces : List (Char × Nat) := [('u', 64), ('g', 8), ('o', 1)]

/-- Changes permissions as a letter with others behind a sign says. The fuel is the length of the
text. `none` is for a text without sense. -/
def changedPermissions (who : List Char) : (fuel permissions : Nat) → List Char → Option Nat
  | 0, n, _ => some n
  | _, n, [] => some n
  | fuel + 1, n, sign :: s =>
    if !(['+', '-', '='].contains sign) then none
    else
      let letters := s.takeWhile "rwxXstugo".toList.contains
      let bitsOf (c : Char) : Nat := match c with
        | 'r' => 4
        | 'w' => 2
        | 'x' | 'X' => 1
        | c => (permissionPlaces.lookup c).elim 0 fun place => n / place % 8
      let bits := letters.foldl (fun all c => all ||| bitsOf c) 0
      let n := permissionPlaces.foldl
        (fun n (c, place) =>
          let old := n / place % 8
          let new := match sign with
            | '+' => old ||| bits
            | '-' => old - (old &&& bits)
            | _ => bits
          if who.isEmpty || who.contains c || who.contains 'a' then n - old * place + new * place
          else n)
        n
      changedPermissions who fuel n (s.drop letters.length)

/-- The permissions that clauses make of others. -/
def permissionsOf? (n : Nat) (s : List Char) : Option Nat :=
  (Text.split ',' s).foldlM
    (fun n clause =>
      let who := clause.takeWhile "ugoa".toList.contains
      let rest := clause.drop who.length
      if rest.isEmpty && !who.isEmpty then none
      else changedPermissions who (rest.length + 1) n rest)
    n

/-- Shows or sets the permissions that new files are not given. -/
def mask : Builtin := fun args => do
  let (options, args) ← options "S" args
  let s ← get
  let all := 511
  match args with
  | [] =>
    let digit (place : Nat) : String := toString (s.mask / place % 8)
    let letters (place : Nat) : String :=
      let bits := (all - s.mask) / place % 8
      (if bits / 4 % 2 = 1 then "r" else "") ++ (if bits / 2 % 2 = 1 then "w" else "") ++
        (if bits % 2 = 1 then "x" else "")
    Script.emit (if options.isEmpty then s!"0{digit 64}{digit 8}{digit 1}\n"
      else s!"u={letters 64},g={letters 8},o={letters 1}\n")
    return 0
  | arg :: _ =>
    if arg.toList.head?.any Char.isDigit then
      match Decimal.positional? 8 arg.toList with
      | some n => set { s with mask := n % 512 }
      | none => Script.fail s!"Illegal number: {arg}"
    else match permissionsOf? (all - s.mask) arg.toList with
      | some n => set { s with mask := all - n }
      | none => Script.fail s!"Illegal mode: {arg}"
    return 0

def limits : Builtin := fun args => do
  let (_, args) ← options "HSatfdscmlpnvwr" args
  if args.isEmpty then Script.emit "unlimited\n"
  return 0

def times : Builtin := fun _ => do
  Script.emit "0m0.000000s 0m0.000000s\n0m0.000000s 0m0.000000s\n"
  return 0

end ReleasePreview.Shell.Builtin
