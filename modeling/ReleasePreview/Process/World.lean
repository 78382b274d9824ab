import ReleasePreview.Files.Access
import ReleasePreview.Text.Utf8

/-! Signals: their numbers and names, and what they do to a process that does not care for them. -/
namespace ReleasePreview

inductive SignalEffect where
  | ends
  | stops
  | nothing
deriving Repr, DecidableEq

structure Signal where
  number : Nat
  name : String
  description : String
  effect : SignalEffect := .ends
deriving Repr, DecidableEq

namespace Signal

/-- The signals by their numbers from one on. -/
def all : List Signal :=
  [⟨1, "HUP", "Hangup", .ends⟩, ⟨2, "INT", "Interrupt", .ends⟩, ⟨3, "QUIT", "Quit", .ends⟩,
    ⟨4, "ILL", "Illegal instruction", .ends⟩, ⟨5, "TRAP", "Trace/breakpoint trap", .ends⟩,
    ⟨6, "ABRT", "Aborted", .ends⟩, ⟨7, "BUS", "Bus error", .ends⟩,
    ⟨8, "FPE", "Floating point exception", .ends⟩, ⟨9, "KILL", "Killed", .ends⟩,
    ⟨10, "USR1", "User defined signal 1", .ends⟩, ⟨11, "SEGV", "Segmentation fault", .ends⟩,
    ⟨12, "USR2", "User defined signal 2", .ends⟩, ⟨13, "PIPE", "Broken pipe", .ends⟩,
    ⟨14, "ALRM", "Alarm clock", .ends⟩, ⟨15, "TERM", "Terminated", .ends⟩,
    ⟨16, "STKFLT", "Stack fault", .ends⟩, ⟨17, "CHLD", "Child exited", .nothing⟩,
    ⟨18, "CONT", "Continued", .nothing⟩, ⟨19, "STOP", "Stopped (signal)", .stops⟩,
    ⟨20, "TSTP", "Stopped", .stops⟩, ⟨21, "TTIN", "Stopped (tty input)", .stops⟩,
    ⟨22, "TTOU", "Stopped (tty output)", .stops⟩, ⟨23, "URG", "Urgent I/O condition", .nothing⟩,
    ⟨24, "XCPU", "CPU time limit exceeded", .ends⟩,
    ⟨25, "XFSZ", "File size limit exceeded", .ends⟩,
    ⟨26, "VTALRM", "Virtual timer expired", .ends⟩,
    ⟨27, "PROF", "Profiling timer expired", .ends⟩, ⟨28, "WINCH", "Window changed", .nothing⟩,
    ⟨29, "IO", "I/O possible", .ends⟩, ⟨30, "PWR", "Power failure", .ends⟩,
    ⟨31, "SYS", "Bad system call", .ends⟩]

def ofNumber? (number : Nat) : Option Signal := all.find? (·.number = number)

/-- A signal by its name, in capitals or not. -/
def ofName? (name : String) : Option Signal := all.find? (·.name = name.toUpper)

/-- What a signal does by its number. Numbers without a signal of their own end a process. -/
def effectOf (number : Nat) : SignalEffect := ((ofNumber? number).map (·.effect)).getD .ends

def describe (number : Nat) : String :=
  ((ofNumber? number).map (·.description)).getD s!"Unknown signal {number}"

def killNumber : Nat := 9

def pipeNumber : Nat := 13

def continueNumber : Nat := 18

def stopNumber : Nat := 19

end Signal

end ReleasePreview

/-!
What running processes share: files, pipes, the clock, and what is known of each process. Paths and
names are texts of bytes here.
-/
namespace ReleasePreview

/-- Files that are no content on a disk: what is read of them is nothing or zeros, and what is
written to them is lost, or does not fit. -/
inductive Device where
  | null
  | zero
  | full
deriving Repr, DecidableEq

def Device.ofPlace? (p : Place) : Option Device :=
  match p with
  | ["dev", "null"] => some .null
  | ["dev", "zero"] => some .zero
  | ["dev", "full"] => some .full
  | _ => none

/-- What a descriptor is open on. -/
inductive Endpoint where
  | device (d : Device)
  | file (place : Place)
  /-- A file that is not in the tree any more. -/
  | removed (content : List UInt8)
  | reading (pipe : Nat)
  | writing (pipe : Nat)
deriving Repr, DecidableEq

/-- What duplicated descriptors share. -/
structure OpenFile where
  source : Endpoint
  position : Nat := 0
  appends : Bool := false
  isRead : Bool := true
  isWritten : Bool := true
deriving Repr, DecidableEq

structure Descriptor where
  number : Nat
  /-- The open file, by its number. -/
  file : Nat
  /-- The descriptor is not for programs that the process turns into. -/
  isPrivate : Bool := false
deriving Repr, DecidableEq

/-- Bytes on their way, in pieces: the first ones in order, the last ones backwards. -/
structure Pipe where
  front : List (List UInt8) := []
  back : List (List UInt8) := []
  size : Nat := 0
  /-- Whoever started the programs reads it to its end. -/
  isCollected : Bool := false

/-- How a process has ended. -/
inductive ProcessEnd where
  | exited (status : Nat)
  | killed (signal : Nat)
deriving Repr, DecidableEq

/-- The status by which a shell knows an outcome. -/
def ProcessEnd.status : ProcessEnd → Nat
  | exited status => status
  | killed signal => 128 + signal

structure ProcessRecord where
  parent : Nat
  descriptors : List Descriptor
  directory : Place
  /-- Signals by their numbers: those without effect, those that the process looks after itself,
  and those that have come. -/
  ignored : List Nat := []
  caught : List Nat := []
  pending : List Nat := []
  isStopped : Bool := false
  /-- What was wrong when something could not be written to the standard output. -/
  failure : Option FileError := none
  outcome : Option ProcessEnd := none

structure World where
  files : FileTree
  /-- The time in millionths of a second. -/
  clock : Nat := 0
  openFiles : Array OpenFile := #[]
  pipes : Array Pipe := #[]
  records : List (Nat × ProcessRecord) := []
  nextNumber : Nat := 4242

namespace Pipe

/-- A pipe holds no more bytes than this, unless it is collected. -/
def capacity : Nat := 65536

/-- Pieces of this size are not divided. -/
def atomicSize : Nat := 4096

def push (p : Pipe) (bytes : List UInt8) : Pipe :=
  { p with back := bytes :: p.back, size := p.size + bytes.length }

def content (p : Pipe) : List UInt8 := (p.front ++ p.back.reverse).flatten

/-- Takes bytes of the first piece: so many of them, and none behind a line end if `lines`. -/
def take (p : Pipe) (limit : Nat) (lines : Bool) : List UInt8 × Pipe :=
  match (if p.front.isEmpty then p.back.reverse else p.front) with
  | [] => ([], p)
  | piece :: front =>
    let back := if p.front.isEmpty then [] else p.back
    let whole := piece.take limit
    let line := if lines then whole.takeWhile (· ≠ 10) else whole
    let count := if line.length < whole.length then line.length + 1 else whole.length
    let rest := piece.drop count
    (piece.take count,
      { p with
        front := if rest.isEmpty then front else rest :: front
        back
        size := p.size - count })

end Pipe

namespace World

def record? (w : World) (number : Nat) : Option ProcessRecord := w.records.lookup number

def change (w : World) (number : Nat) (f : ProcessRecord → ProcessRecord) : World :=
  { w with records := w.records.map fun (n, r) => if n = number then (n, f r) else (n, r) }

def directory (w : World) (number : Nat) : Place := ((w.record? number).map (·.directory)).getD []

def descriptors (w : World) (number : Nat) : List Descriptor :=
  ((w.record? number).map (·.descriptors)).getD []

/-- The number of the file that a descriptor is open on. -/
def fileOf? (w : World) (number descriptor : Nat) : Option Nat :=
  ((w.descriptors number).find? (·.number = descriptor)).map (·.file)

def openFile? (w : World) (number descriptor : Nat) : Option (Nat × OpenFile) := do
  let i ← w.fileOf? number descriptor
  return (i, ← w.openFiles[i]?)

/-- Some process has a descriptor on a source. -/
def isHeld (w : World) (source : Endpoint) : Bool :=
  w.records.any fun (_, r) =>
    r.descriptors.any fun d => ((w.openFiles[d.file]?).map (·.source)) = some source

def hasReader (w : World) (pipe : Nat) : Bool :=
  ((w.pipes[pipe]?).any (·.isCollected)) || w.isHeld (.reading pipe)

def newFile (w : World) (file : OpenFile) : World × Nat :=
  ({ w with openFiles := w.openFiles.push file }, w.openFiles.size)

def connect (w : World) (number : Nat) (d : Descriptor) : World :=
  w.change number fun r =>
    { r with descriptors := d :: r.descriptors.filter (·.number ≠ d.number) }

/-- The first number from some number on that is not a descriptor. -/
def freeDescriptor (w : World) (number first : Nat) : Nat :=
  let taken := (w.descriptors number).map (·.number)
  ((List.range (taken.length + 1)).find? fun i => !taken.contains (first + i)).getD 0 + first

/-- A descriptor of its own for what another one stands for, out of the way of programs. -/
def keepCopy (w : World) (number descriptor : Nat) : World × Option Nat :=
  match w.fileOf? number descriptor with
  | none => (w, none)
  | some i =>
    let copy := w.freeDescriptor number 10
    (w.connect number ⟨copy, i, true⟩, some copy)

def close (w : World) (number descriptor : Nat) : World :=
  w.change number fun r =>
    { r with descriptors := r.descriptors.filter (·.number ≠ descriptor) }

/-- A pipe, with a descriptor for each of its ends that other programs do not get. -/
def newPipe (w : World) (number : Nat) : World × Nat × Nat :=
  let pipe := w.pipes.size
  let (w, i) := { w with pipes := w.pipes.push {} }.newFile ⟨.reading pipe, 0, false, true, false⟩
  let (w, j) := w.newFile ⟨.writing pipe, 0, false, false, true⟩
  let output := w.freeDescriptor number 3
  let w := w.connect number ⟨output, i, true⟩
  let input := w.freeDescriptor number 3
  (w.connect number ⟨input, j, true⟩, output, input)

/-- A source that gives some bytes and then ends. -/
def newText (w : World) (bytes : List UInt8) : World × Nat :=
  let pipe := w.pipes.size
  let filled := { w with pipes := w.pipes.push (Pipe.push {} bytes) }
  filled.newFile ⟨.reading pipe, 0, false, true, false⟩

/-- How a file is to be opened. -/
inductive Mode where
  | reading
  | writing
  /-- As `writing`, even where files should be kept. -/
  | overwriting
  | appending
  | updating
deriving Repr, DecidableEq

/-- The descriptor that a path of a device stands for. -/
def deviceDescriptor? (path : String) : Option Nat :=
  match path with
  | "/dev/stdin" => some 0
  | "/dev/stdout" => some 1
  | "/dev/stderr" => some 2
  | _ => if path.startsWith "/dev/fd/" then (path.drop 8).toNat? else none

/-- Opens the file of a path. -/
def openPath (w : World) (number : Nat) (path : String) (mode : Mode) :
    Except FileError (World × OpenFile) := do
  let isRead := mode = .reading || mode = .updating
  let isWritten := mode ≠ .reading
  if path = "/dev/tty" then throw .noDevice
  match (deviceDescriptor? path).map (w.openFile? number) with
  | some (some (_, file)) => return (w, { file with isRead, isWritten })
  | some none => throw .notFound
  | none =>
    let text := Text.Octets.readable path
    let directory := w.directory number
    let p ← w.files.resolve directory text true
    if let some d := Device.ofPlace? p then return (w, ⟨.device d, 0, false, isRead, isWritten⟩)
    let file : OpenFile := ⟨.file p, 0, mode = .appending, isRead, isWritten⟩
    match w.files.node? p, mode with
    | none, .reading => throw .notFound
    | some (.file _ { readable := false, .. }), .reading
    | some (.file _ { readable := false, .. }), .updating => throw .permissionDenied
    | some .directory, .reading => return (w, file)
    | some .directory, _ => throw .isDirectory
    | some _, .writing | some _, .overwriting =>
      let files ← w.files.write directory text []
      return ({ w with files }, file)
    | some _, _ => return (w, file)
    | none, _ =>
      let files ← w.files.write directory text []
      return ({ w with files }, file)

/-- The bytes of a file from a position on, up to a line end if `lines`. -/
def portion (content : List UInt8) (position limit : Nat) (lines : Bool) : List UInt8 :=
  let rest := (content.drop position).take limit
  let line := if lines then rest.takeWhile (· ≠ 10) else rest
  if line.length < rest.length then rest.take (line.length + 1) else rest

/-- The content of a file with bytes written over it from a position on. -/
def overwritten (content : List UInt8) (position : Nat) (bytes : List UInt8) : List UInt8 :=
  let length := content.length
  if position = length then content ++ bytes
  else
    content.take position ++ List.replicate (position - length) 0 ++ bytes ++
      content.drop (position + bytes.length)

/-- Reads up to so many bytes. No bytes are the end; `none` waits for more. -/
def read? (w : World) (number descriptor limit : Nat) (lines : Bool) :
    Option (World × Except FileError (List UInt8)) :=
  match w.openFile? number descriptor with
  | none => some (w, .error .badDescriptor)
  | some (i, file) =>
    let fromFile (content : List UInt8) :=
      let bytes := portion content file.position limit lines
      let file := { file with position := file.position + bytes.length }
      some ({ w with openFiles := w.openFiles.setIfInBounds i file }, .ok bytes)
    if !file.isRead then some (w, .error .badDescriptor)
    else match file.source with
      | .device .null => some (w, .ok [])
      | .device _ => some (w, .ok (List.replicate (min limit Pipe.capacity) 0))
      | .removed content => fromFile content
      | .file p =>
        match w.files.node? p with
        | some (.file content _) => fromFile content
        | some .directory => some (w, .error .isDirectory)
        | _ => some (w, .ok [])
      | .writing _ => some (w, .error .badDescriptor)
      | .reading pipe =>
        match w.pipes[pipe]? with
        | none => some (w, .ok [])
        | some p =>
          let (bytes, rest) := p.take limit lines
          if !bytes.isEmpty then
            some ({ w with pipes := w.pipes.setIfInBounds pipe rest }, .ok bytes)
          else if w.isHeld (.writing pipe) then none
          else some (w, .ok [])

def signal (w : World) (number signal : Nat) : World :=
  w.change number fun r =>
    if r.outcome.isSome then r else { r with pending := r.pending ++ [signal] }

/-- Writes bytes, or as many as there is room for. Gives the rest; `none` waits for room. -/
def attempt? (w : World) (number descriptor : Nat) (bytes : List UInt8) :
    Option (World × Except FileError (List UInt8)) :=
  match w.openFile? number descriptor with
  | none => some (w, .error .badDescriptor)
  | some (i, file) =>
    let toFile (content : List UInt8) (store : World → List UInt8 → World) :=
      let position := if file.appends then content.length else file.position
      let file := { file with position := position + bytes.length }
      let w := store w (overwritten content position bytes)
      some ({ w with openFiles := w.openFiles.modify i fun f =>
        { f with position := file.position } }, .ok [])
    if !file.isWritten then some (w, .error .badDescriptor)
    else match file.source with
      | .device .full => some (w, .error .noSpace)
      | .device _ => some (w, .ok [])
      | .removed old =>
        toFile old fun w content =>
          let openFiles := w.openFiles.modify i fun f => { f with source := .removed content }
          { w with openFiles }
      | .file p =>
        match w.files.node? p with
        | some (.file content mode) =>
          toFile content fun w content =>
            { w with files := w.files.set p (.file content mode) }
        | _ => some (w, .ok [])
      | .reading _ => some (w, .error .badDescriptor)
      | .writing pipe =>
        match w.pipes[pipe]? with
        | none => some (w, .error .brokenPipe)
        | some p =>
          let room := if p.isCollected then bytes.length else Pipe.capacity - p.size
          if !w.hasReader pipe then some (w.signal number Signal.pipeNumber, .error .brokenPipe)
          else if room = 0 || (room < bytes.length && bytes.length ≤ Pipe.atomicSize) then none
          else
            some ({ w with pipes := w.pipes.setIfInBounds pipe (p.push (bytes.take room)) },
              .ok (bytes.drop room))

/-- Writes bytes as `attempt?` does, and keeps in mind what goes wrong with the standard output. -/
def write? (w : World) (number descriptor : Nat) (bytes : List UInt8) :
    Option (World × Except FileError (List UInt8)) :=
  match w.attempt? number descriptor bytes with
  | some (w, .error e) =>
    some (if descriptor = 1 then w.change number ({ · with failure := some e }) else w, .error e)
  | r => r

/-- Open files keep what is taken out of the tree. Those of a moved file go with it. -/
def setFiles (w : World) (files : FileTree) (moved : Option (Place × Place)) : World :=
  let follow (file : OpenFile) : OpenFile :=
    match file.source with
    | .file p =>
      let isUnder (top : Place) := top.isPrefixOf p
      match moved, w.files.node? p, files.node? p with
      | some (source, target), some (.file content _), _ =>
        if isUnder source then { file with source := .file (target ++ p.drop source.length) }
        else if isUnder target then { file with source := .removed content }
        else file
      | none, some (.file _ _), some (.file _ _) => file
      | none, some (.file content _), _ => { file with source := .removed content }
      | _, _, _ => file
    | _ => file
  { w with files, openFiles := w.openFiles.map follow }

/-- A process that does what another one does, with the same descriptors. -/
def fork (w : World) (number : Nat) : World × Nat :=
  match w.record? number with
  | none => (w, 0)
  | some r =>
    let child := w.nextNumber
    let copy := { r with
      parent := number, caught := [], pending := [], isStopped := false, failure := none }
    ({ w with records := (child, copy) :: w.records, nextNumber := child + 1 }, child)

/-- A process ends: its descriptors are closed. -/
def finish (w : World) (number : Nat) (outcome : ProcessEnd) : World :=
  w.change number fun r =>
    if r.outcome.isSome then r else { r with descriptors := [], outcome := some outcome }

/-- What a child has come to. A child is asked only once. -/
def reap? (w : World) (child : Nat) : Option (World × ProcessEnd) := do
  let r ← w.record? child
  let outcome ← r.outcome
  return ({ w with records := w.records.filter (·.1 ≠ child) }, outcome)

/-- What the signals that have come do to a process. -/
def settle (w : World) (number : Nat) (r : ProcessRecord) : World :=
  let kept := r.pending.filter fun n => r.caught.contains n && n ≠ Signal.killNumber
  let deadly := r.pending.find? fun n =>
    n = Signal.killNumber ||
      (!r.caught.contains n && !r.ignored.contains n && Signal.effectOf n = .ends)
  match deadly with
  | some n => w.finish number (.killed n)
  | none =>
    let stops := r.pending.any fun n =>
      n = Signal.stopNumber ||
        (!r.caught.contains n && !r.ignored.contains n && Signal.effectOf n = .stops)
    let goesOn := r.pending.contains Signal.continueNumber
    w.change number fun r =>
      { r with pending := kept, isStopped := (r.isStopped || stops) && !goesOn }

/-- What the signals that have come do. -/
def settleAll (w : World) : World :=
  w.records.foldl
    (fun w (number, r) =>
      if r.pending.isEmpty || r.outcome.isSome then w else w.settle number r)
    w

end World

end ReleasePreview
