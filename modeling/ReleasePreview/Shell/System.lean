import ReleasePreview.Compiler.Basic
import ReleasePreview.Process.Schedule
import ReleasePreview.Shell.Image

/-! Programs as the shell and the tools run them. -/
namespace ReleasePreview.Shell

/-- How often a process may become another program. -/
def maxLaunches : Nat := 1000000

/-- The rounds of a run. No run of some use takes more. -/
def runFuel : Nat := 1000000000

/-- The variables of programs, if nobody says which ones there are. -/
def usualEnvironment : List (String × String) :=
  [("HOME", "/root"), ("PATH", ProgramCall.usualDirectories)]

/-- The path of the program of a launch, or why it cannot be started. -/
def programPath (call : ProgramCall) (t : FileTree) (directory : Place) :
    Except FileError String := do
  if call.name.isEmpty then throw .notFound
  let isBare := !call.name.toList.contains '/'
  if isBare && FileTree.maxName < call.name.length then throw .nameTooLong
  let directories := (call.valueOf? "PATH").getD ProgramCall.usualDirectories
  let rec first (found : FileError) : List String → Except FileError String
    | [] => .error found
    | path :: paths =>
      match Image.atPath t directory Image.maxLevels path with
      | .ok _ => .ok path
      | .error e =>
        if !isBare || !Program.isPassedOver e then .error e
        else first (if e = .permissionDenied then e else found) paths
  first .notFound (ProgramCall.candidates directories call.name)

/-- The directory of a launch. -/
def placeOf (launch : Launch) (files : FileTree) : Except FileError Place := do
  if launch.hasNull then throw .nullInLaunch
  let directory ← files.resolve [] launch.directory true
  match files.node? directory with
  | none => throw .notFound
  | some .directory => return directory
  | some _ => throw .notDirectory

/-- The number of the process that starts the first one. -/
def starterNumber : Nat := 4241

/-- A world with one process that reads nothing and whose outputs are collected. -/
def startWorld (files : FileTree) (directory : Place) : World :=
  let output (pipe : Nat) : OpenFile := ⟨.writing pipe, 0, false, false, true⟩
  let record : ProcessRecord :=
    { parent := starterNumber
      descriptors := [⟨0, 0, false⟩, ⟨1, 1, false⟩, ⟨2, 2, false⟩]
      directory }
  { files
    openFiles := #[⟨.device .null, 0, false, true, false⟩, output 0, output 1]
    pipes := #[{ isCollected := true }, { isCollected := true }]
    records := [(starterNumber + 1, record)]
    nextNumber := starterNumber + 2 }

def endingOf : ProcessEnd → Ending
  | .exited status => .exited status
  | .killed _ => .killed

/-- Runs programs in a tree of files, with some variables. -/
def systemWith (environment : List (String × String)) : System := fun milliseconds launch files =>
  let octets := Text.Octets.ofText
  let call : ProgramCall :=
    { name := octets launch.program
      args := launch.args.map octets
      environment := environment.map fun (name, value) => (octets name, octets value) }
  let t := Image.equipped files
  let found : Except FileError (Place × String) := do
    let directory ← placeOf launch t
    return (directory, ← programPath call t directory)
  match found with
  | .error e => (files, .notSpawned e)
  | .ok (directory, path) =>
    if milliseconds = 0 then (files, .timedOut)
    else
      let first := starterNumber + 1
      let process := Program.process do
        let _ ← Image.launcher maxLaunches path call
        return 127
      let pool : Pool :=
        { world := startWorld t directory, threads := [⟨first, 0, process⟩], first }
      let (world, outcome) := pool.run (milliseconds * 1000) runFuel
      let after := Image.stripped files world.files
      let written (pipe : Nat) : List UInt8 := ((world.pipes[pipe]?).map (·.content)).getD []
      match outcome with
      | none => (after, .timedOut)
      | some outcome => (after, .finished (endingOf outcome) (written 0) (written 1))

def system : System := systemWith usualEnvironment

end ReleasePreview.Shell
