import ReleasePreview.Process.World

/-!
Processes, as what they do next, and programs, which leave open what comes after them. A process
sees the world at every step and may wait until the world lets it go on.
-/
namespace ReleasePreview

inductive Process where
  | ended (status : Nat)
  /-- Does something under its own number; `none` waits. -/
  | step (act : Nat → World → Option (World × Process))
  /-- Lets time go by, in millionths of a second. -/
  | pause (duration : Nat) (next : Unit → Process)
  /-- Starts another process and is told its number. -/
  | fork (child : Process) (next : Nat → Process)

/-- What a process does for a result, whatever it does afterwards. -/
def Program (α : Type) : Type := (α → Process) → Process

instance : Monad Program where
  pure a := fun next => next a
  bind p f := fun next => p fun a => f a next

namespace Program

/-- What the process of a program does. -/
def process (p : Program Nat) : Process := p .ended

/-- Ends the process. -/
def exit {α : Type} (status : Nat) : Program α := fun _ => .ended status

/-- Waits until there is something to do. -/
def await {α : Type} (act : Nat → World → Option (World × α)) : Program α := fun next =>
  .step fun number w => (act number w).map fun (w, a) => (w, next a)

def act {α : Type} (f : Nat → World → World × α) : Program α :=
  await fun number w => some (f number w)

/-- Looks at the world. -/
def ask {α : Type} (f : Nat → World → α) : Program α := act fun number w => (w, f number w)

/-- Changes the world. -/
def tell (f : Nat → World → World) : Program Unit := act fun number w => (f number w, ())

def pause (duration : Nat) : Program Unit := fun next => .pause duration next

def fork (child : Program Nat) : Program Nat := fun next => .fork child.process next

/-- Waits for the end of a process. -/
def join (child : Nat) : Program ProcessEnd := await fun _ w =>
  match w.record? child with
  | none => some (w, .exited 127)
  | some _ => w.reap? child

/-- Bytes take time to be read. -/
def charged (r : World × Except FileError (List UInt8)) : World × Except FileError (List UInt8) :=
  match r with
  | (w, .ok bytes) => ({ w with clock := w.clock + bytes.length / 8 }, .ok bytes)
  | r => r

/-- Reads up to so many bytes. No bytes are the end. -/
def read (descriptor limit : Nat) : Program (Except FileError (List UInt8)) :=
  await fun number w => (w.read? number descriptor limit false).map charged

/-- Reads up to so many bytes, and none behind a line end. -/
def readLine (descriptor limit : Nat) : Program (Except FileError (List UInt8)) :=
  await fun number w => w.read? number descriptor limit true

/-- Bytes take time to be written. -/
def chargedFor (bytes : List UInt8) (r : World × Except FileError (List UInt8)) :
    World × Except FileError (List UInt8) :=
  match r with
  | (w, .ok rest) =>
    ({ w with clock := w.clock + (bytes.length - rest.length) / 8 }, .ok rest)
  | r => r

/-- Writes bytes in as many pieces as it takes, each of one byte at least. -/
def writeWithin : (pieces : Nat) → (descriptor : Nat) → List UInt8 → Program (Option FileError)
  | 0, _, _ => pure none
  | _, _, [] => pure none
  | pieces + 1, descriptor, bytes => do
    match ← await fun number w => (w.write? number descriptor bytes).map (chargedFor bytes) with
    | .ok rest => writeWithin pieces descriptor rest
    | .error e => pure (some e)

/-- Writes bytes. Gives what has gone wrong. -/
def write (descriptor : Nat) (bytes : List UInt8) : Program (Option FileError) :=
  writeWithin (bytes.length + 1) descriptor bytes

/-- Writes a text of bytes. -/
def put (descriptor : Nat) (s : String) : Program (Option FileError) :=
  write descriptor (Text.Octets.toBytes s)

/-- What was wrong when something could not be written to the standard output. -/
def failure : Program (Option FileError) := ask fun number w =>
  (w.record? number).bind (·.failure)

/-- Writes a text to the standard output. -/
def out (s : String) : Program Unit := discard (put 1 s)

/-- Writes a line to the standard error. -/
def err (s : String) : Program Unit := discard (put 2 (s ++ "\n"))

/-- The steps that a process may take before it counts as one that never ends. -/
def fuel : Nat := 50000000

/-- Reads to the end. -/
def readFrom (descriptor : Nat) : (fuel : Nat) → (pieces : List (List UInt8)) →
    Program (Except FileError (List UInt8))
  | 0, pieces => pure (.ok pieces.reverse.flatten)
  | fuel + 1, pieces => do
    match ← read descriptor 65536 with
    | .error e => pure (.error e)
    | .ok [] => pure (.ok pieces.reverse.flatten)
    | .ok bytes => readFrom descriptor fuel (bytes :: pieces)

def readAll (descriptor : Nat) : Program (Except FileError (List UInt8)) :=
  readFrom descriptor fuel []

/-- Looks at the files from the directory of the process. -/
def files {α : Type} (f : FileTree → Place → α) : Program α :=
  ask fun number w => f w.files (w.directory number)

/-- Changes the files from the directory of the process, unless that fails. -/
def changeFiles (f : FileTree → Place → Except FileError FileTree) :
    Program (Option FileError) :=
  act fun number w =>
    match f w.files (w.directory number) with
    | .ok files => (w.setFiles files none, none)
    | .error e => (w, some e)

/-- Opens a file at a descriptor. -/
def openAt (descriptor : Nat) (path : String) (mode : World.Mode) : Program (Option FileError) :=
  act fun number w =>
    match w.openPath number path mode with
    | .ok (w, file) =>
      let (w, i) := w.newFile file
      (w.connect number ⟨descriptor, i, false⟩, none)
    | .error e => (w, some e)

def close (descriptor : Nat) : Program Unit := tell fun number w => w.close number descriptor

/-- Makes a descriptor stand for what another one stands for. -/
def duplicate (source target : Nat) : Program Bool := act fun number w =>
  match w.fileOf? number source with
  | some i => (w.connect number ⟨target, i, false⟩, true)
  | none => (w, false)

/-- Keeps what a descriptor stands for at another one. -/
def keepCopy (descriptor : Nat) : Program (Option Nat) := act fun number w =>
  w.keepCopy number descriptor

/-- Puts back what was kept, or closes the descriptor if nothing was. -/
def putBack (descriptor : Nat) (copy : Option Nat) : Program Unit := tell fun number w =>
  match copy with
  | none => w.close number descriptor
  | some copy =>
    match w.fileOf? number copy with
    | some i => (w.connect number ⟨descriptor, i, false⟩).close number copy
    | none => w.close number descriptor

/-- Makes a descriptor stand for some bytes to be read. -/
def openText (descriptor : Nat) (bytes : List UInt8) : Program Unit := tell fun number w =>
  let (w, i) := w.newText bytes
  w.connect number ⟨descriptor, i, false⟩

/-- A pipe: the descriptors of its end to read from and of its end to write to. -/
def newPipe : Program (Nat × Nat) := act fun number w =>
  let (w, output, input) := w.newPipe number
  (w, output, input)

/-- Moves a descriptor. -/
def move (source target : Nat) : Program Unit := tell fun number w =>
  match w.fileOf? number source with
  | some i =>
    if source = target then w
    else (w.connect number ⟨target, i, false⟩).close number source
  | none => w

end Program

end ReleasePreview

/-! How a program is started, and how a process becomes another program. -/
namespace ReleasePreview

/-- What a program is given: a name for itself, arguments and variables. -/
structure ProgramCall where
  name : String
  args : List String := []
  environment : List (String × String) := []

/-- Turns a process into the program of a path. It comes back only with the reason why that is not
possible. -/
abbrev Launcher := (path : String) → ProgramCall → Program FileError

namespace ProgramCall

def valueOf? (c : ProgramCall) (name : String) : Option String := c.environment.lookup name

/-- The directories that names are looked for in, if nothing says which ones. -/
def usualDirectories : String := "/usr/local/sbin:/usr/local/bin:/usr/sbin:/usr/bin:/sbin:/bin"

/-- The paths that a name may stand for. -/
def candidates (directories name : String) : List String :=
  if name.toList.contains '/' then [name]
  else
    (Text.split ':' directories.toList).map fun d =>
      if d.isEmpty then name else Path.join (String.ofList d) name

end ProgramCall

namespace Program

/-- The errors behind which the next path is tried. -/
def isPassedOver (e : FileError) : Bool :=
  e = .notFound || e = .notDirectory || e = .permissionDenied || e = .nameTooLong

/-- Turns the process into the program of the first path that is one. -/
def becomeFirst (launch : Launcher) (call : ProgramCall) :
    (found : FileError) → List String → Program FileError
  | found, [] => pure found
  | found, path :: paths => do
    let e ← launch path call
    if !isPassedOver e then return e
    else becomeFirst launch call (if e = .permissionDenied then e else found) paths

/-- Turns the process into the program of a name. -/
def become (launch : Launcher) (call : ProgramCall) : Program FileError :=
  let directories := (call.valueOf? "PATH").getD ProgramCall.usualDirectories
  becomeFirst launch call .notFound (ProgramCall.candidates directories call.name)

end Program

end ReleasePreview
