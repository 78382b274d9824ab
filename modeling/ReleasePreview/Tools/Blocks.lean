import ReleasePreview.Format.Conversion
import ReleasePreview.Text.Split
import ReleasePreview.Tools.Basic

/-! The copying of files in blocks. -/
namespace ReleasePreview.Tools.Blocks

/-- How much is copied from where to where, and how. -/
structure Job where
  input : Option String := none
  output : Option String := none
  inputSize : Nat := 512
  outputSize : Nat := 512
  /-- What has been read is written as it comes. -/
  isDirect : Bool := false
  count : Option Nat := none
  skip : Nat := 0
  seek : Nat := 0
  conversions : List String := []
  inputFlags : List String := []
  outputFlags : List String := []
  status : String := ""

/-- What has been copied. -/
structure Tally where
  whole : Nat := 0
  part : Nat := 0
  wholeOut : Nat := 0
  partOut : Nat := 0
  bytes : Nat := 0

/-- A number with a letter for its unit, or a product of them. -/
def number? (s : String) : Option Nat :=
  (Text.split 'x' s.toList).foldlM
    (fun n part =>
      let digits := part.takeWhile Decimal.isDigit
      match Decimal.natural? digits, part.drop digits.length with
      | some m, ['c'] => some (n * m)
      | some m, ['w'] => some (n * m * 2)
      | some _, _ => (count? part).map (n * ·)
      | none, _ => none)
    1

def conversionNames : List String :=
  ["ascii", "ebcdic", "ibm", "block", "unblock", "lcase", "ucase", "sparse", "swab", "sync", "excl",
    "nocreat", "notrunc", "noerror", "fdatasync", "fsync"]

def flagNames : List String :=
  ["append", "direct", "directory", "dsync", "sync", "fullblock", "nonblock", "noatime", "nocache",
    "noctty", "nofollow", "count_bytes", "skip_bytes", "seek_bytes"]

/-- What is wrong with an operand, and whether there is a hint to the help. -/
abbrev Fault := String × Bool

/-- Names with commas between them. -/
def names (known : List String) (what value : String) : Except Fault (List String) :=
  let all := (Text.split ',' value.toList).map String.ofList
  match all.find? (!known.contains ·) with
  | some name => .error (s!"invalid {what}: '{name}'", true)
  | none => .ok all

/-- Takes an operand in. -/
def take (j : Job) (arg : String) : Except Fault Job := do
  let name := String.ofList (arg.toList.takeWhile (· ≠ '='))
  let value := String.ofList (arg.toList.drop (name.length + 1))
  let number (least : Nat) : Except Fault Nat :=
    match number? value with
    | some n => if n < least then .error (s!"invalid number: '{value}'", false) else .ok n
    | none => .error (s!"invalid number: '{value}'", false)
  if !arg.toList.contains '=' then throw (s!"unrecognized operand '{arg}'", true)
  match name with
  | "if" => return { j with input := some value }
  | "of" => return { j with output := some value }
  | "bs" =>
    let n ← number 1
    return { j with inputSize := n, outputSize := n, isDirect := true }
  | "ibs" => return { j with inputSize := ← number 1 }
  | "obs" => return { j with outputSize := ← number 1 }
  | "cbs" =>
    discard (number 1)
    return j
  | "count" => return { j with count := some (← number 0) }
  | "skip" | "iseek" => return { j with skip := ← number 0 }
  | "seek" | "oseek" => return { j with seek := ← number 0 }
  | "conv" =>
    return { j with conversions := j.conversions ++ (← names conversionNames "conversion" value) }
  | "iflag" =>
    return { j with inputFlags := j.inputFlags ++ (← names flagNames "input flag" value) }
  | "oflag" =>
    return { j with outputFlags := j.outputFlags ++ (← names flagNames "output flag" value) }
  | "status" =>
    discard (names ["none", "noxfer", "progress"] "status level" value)
    return { j with status := value }
  | _ => throw (s!"unrecognized operand '{arg}'", true)

def opposites : List (String × String) :=
  [("lcase", "ucase"), ("excl", "nocreat"), ("block", "unblock")]

def job (args : List String) : Except Fault Job := do
  let j ← args.foldlM take {}
  match opposites.find? fun (a, b) => j.conversions.contains a && j.conversions.contains b with
  | some (a, b) => throw (s!"cannot combine {a} and {b}", false)
  | none => return j

namespace Job

/-- The input as it is called in a message. -/
def source (j : Job) : String := quotedName (j.input.getD "standard input")

/-- The output as it is called in a message. -/
def target (j : Job) : String := quotedName (j.output.getD "standard output")

/-- What is said when something could not be written. -/
def unwritten (j : Job) (e : FileError) : String :=
  s!"error writing {j.target}: {e.reason}"

def converts (j : Job) (name : String) : Bool := j.conversions.contains name

def pairsSwapped : List UInt8 → List UInt8
  | a :: b :: s => b :: a :: pairsSwapped s
  | s => s

/-- What a block becomes. -/
def converted (j : Job) (block : List UInt8) : List UInt8 :=
  let isFilled := j.converts "sync" && block.length < j.inputSize
  let block := if isFilled then block ++ List.replicate (j.inputSize - block.length) 0 else block
  let block := if j.converts "swab" then pairsSwapped block else block
  let shift (low : UInt8) (up : Bool) (b : UInt8) : UInt8 :=
    if low ≤ b && b < low + 26 then (if up then b - 32 else b + 32) else b
  if j.converts "ucase" then block.map (shift 97 true)
  else if j.converts "lcase" then block.map (shift 65 false)
  else block

/-- Whether a descriptor gives all that is asked for, if there is so much. -/
def isSteady (d : Nat) : Program Bool := Program.ask fun number w =>
  match w.openFile? number d with
  | some (_, { source := .reading _, .. }) => false
  | _ => true

/-- Reads a block of a length. -/
def readBlock (whole : Bool) (d : Nat) : (fuel length : Nat) → (pieces : List (List UInt8)) →
    Program (Except FileError (List UInt8))
  | 0, _, pieces => return .ok pieces.reverse.flatten
  | _, 0, pieces => return .ok pieces.reverse.flatten
  | fuel + 1, length, pieces => do
    match ← Program.read d length with
    | .error e => return .error e
    | .ok [] => return .ok pieces.reverse.flatten
    | .ok bytes =>
      if whole then readBlock whole d fuel (length - bytes.length) (bytes :: pieces)
      else return .ok bytes

/-- Writes what is there in blocks. Gives what is left, and what has gone wrong. -/
def writeBlocks (size : Nat) : (fuel : Nat) → Tally → List UInt8 →
    Program (Tally × List UInt8 × Option FileError)
  | 0, t, rest => return (t, rest, none)
  | fuel + 1, t, bytes => do
    let block := bytes.take size
    if block.length < size then return (t, bytes, none)
    else match ← Program.write 1 block with
      | some e => return (t, [], some e)
      | none =>
        writeBlocks size fuel { t with wholeOut := t.wholeOut + 1, bytes := t.bytes + size }
          (bytes.drop size)

/-- Writes what is no whole block. -/
def writeRest (t : Tally) (bytes : List UInt8) : Program (Tally × Option FileError) := do
  if bytes.isEmpty then return (t, none)
  match ← Program.write 1 bytes with
  | some e => return (t, some e)
  | none => return ({ t with partOut := t.partOut + 1, bytes := t.bytes + bytes.length }, none)

/-- How the copying has ended. -/
structure Result where
  tally : Tally
  message : Option String := none

/-- Copies up to a number of blocks, or of bytes. -/
def copy (j : Job) (whole : Bool) : (fuel : Nat) → (left : Option Nat) → Tally → List UInt8 →
    Program Result
  | 0, _, t, _ => return { tally := t }
  | fuel + 1, left, t, kept => do
    let inBytes := j.inputFlags.contains "count_bytes"
    let ends : Program Result := do
      let (t, e) ← writeRest t kept
      return { tally := t, message := e.map (j.unwritten ·) }
    if left = some 0 then ends
    else
      let length := if inBytes then min j.inputSize (left.getD j.inputSize) else j.inputSize
      match ← readBlock whole 0 Program.fuel length [] with
      | .error e =>
        return { tally := t, message := some s!"error reading {j.source}: {e.reason}" }
      | .ok [] => ends
      | .ok block =>
        let t := if block.length < j.inputSize then { t with part := t.part + 1 }
          else { t with whole := t.whole + 1 }
        let left := left.map (· - if inBytes then block.length else 1)
        let new := j.converted block
        let (t, kept, e) ← if j.isDirect && new.length < j.outputSize then do
            let (t, e) ← writeRest t new
            pure (t, [], e)
          else writeBlocks j.outputSize (new.length + kept.length + 1) t (kept ++ new)
        match e with
        | some e => return { tally := t, message := some (j.unwritten e) }
        | none => copy j whole fuel left t kept

end Job

/-- A size in thousands, with a letter for their power. -/
def inUnits (base : Nat) (letters : List String) (n : Nat) : String :=
  let power := (List.range letters.length).foldl
    (fun p i => if Nat.pow base (i + 1) ≤ n then i + 1 else p) 0
  let unit := Nat.pow base power
  let tenths := (n * 10 + unit - 1) / unit
  let text := if power = 0 then toString n
    else if tenths < 100 then s!"{tenths / 10}.{tenths % 10}" else toString ((n + unit - 1) / unit)
  text ++ " " ++ (if power = 0 then "" else letters[power - 1]?.getD "") ++ "B"

/-- The report of a copy. -/
def report (j : Job) (t : Tally) (duration : Nat) : Program Unit := do
  if j.status = "none" then return
  Program.err s!"{t.whole}+{t.part} records in\n{t.wholeOut}+{t.partOut} records out"
  if j.status = "noxfer" then return
  let shown := if t.bytes < 1000 then "" else
    let short := inUnits 1000 ["k", "M", "G", "T"] t.bytes
    let long := inUnits 1024 ["Ki", "Mi", "Gi", "Ti"] t.bytes
    if t.bytes < 1024 then s!" ({short})" else s!" ({short}, {long})"
  let elapsed := max duration 100
  let seconds := String.ofList
    (({ letter := 'g' } : Format.Conversion).ofFloat (Float.ofScientific elapsed true 6))
  let rate := t.bytes * 1000000 / elapsed
  let speed := if rate < 1000 then s!"0.{rate / 100} kB" else inUnits 1000 ["k", "M", "G", "T"] rate
  let noun := if t.bytes = 1 then "byte" else "bytes"
  Program.err s!"{t.bytes} {noun}{shown} copied, {seconds} s, {speed}/s"

/-- Opens a file in the place of a descriptor. -/
def openAs (d : Nat) (path : String) (mode : World.Mode) : Program (Option FileError) := do
  match ← openNew path mode with
  | .error e => return some e
  | .ok new =>
    Program.move new d
    return none

/-- Leaves out so much of the input. Gives whether there was so much. -/
def skipInput : (fuel : Nat) → Nat → Program Bool
  | 0, _ => return true
  | _, 0 => return true
  | fuel + 1, n => do
    match ← Program.read 0 n with
    | .ok [] | .error _ => return false
    | .ok bytes => skipInput fuel (n - bytes.length)

/-- Begins to write at some place. What lies behind it is cut off if the file is not kept. -/
def seekOutput (keeps : Bool) (n : Nat) : Program Unit := Program.tell fun number w =>
  match w.openFile? number 1 with
  | some (i, { source := .file p, .. }) =>
    let files := match w.files.node? p with
      | some (.file content mode) =>
        let filled := content ++ List.replicate (n - content.length) 0
        if keeps then w.files else w.files.set p (.file (filled.take n) mode)
      | _ => w.files
    { w with files, openFiles := w.openFiles.modify i fun f => { f with position := n } }
  | _ => w

/-- Does a job. -/
def run (c : ProgramCall) (j : Job) : Program Nat := do
  let complained (message : String) : Program Nat := do
    complain c message
    return 1
  let opened ← match j.input with
    | none => pure none
    | some path => do pure ((← openAs 0 path .reading).map (path, ·))
  match opened with
  | some (path, e) => complained s!"failed to open '{path}': {e.reason}"
  | none =>
    let appends := j.outputFlags.contains "append"
    let keeps := j.converts "notrunc" || appends
    let there ← match j.output with
      | none => pure true
      | some path => do
        let node ← Program.files fun t p => t.find p (Text.Octets.readable path)
        pure node.toOption.isSome
    let seek := if j.outputFlags.contains "seek_bytes" then j.seek else j.seek * j.outputSize
    let mode : World.Mode := if appends then .appending else if keeps || 0 < seek then .updating
      else .writing
    let opened ← match j.output with
      | none => pure none
      | some path =>
        if j.converts "nocreat" && !there then pure (some (path, FileError.notFound))
        else if j.converts "excl" && there then pure (some (path, FileError.alreadyExists))
        else do pure ((← openAs 1 path mode).map (path, ·))
    match opened with
    | some (path, e) => complained s!"failed to open '{path}': {e.reason}"
    | none =>
      if j.output.isSome && !appends && 0 < seek then seekOutput keeps seek
      let start ← Program.ask fun _ w => w.clock
      let skip := if j.inputFlags.contains "skip_bytes" then j.skip else j.skip * j.inputSize
      if !(← skipInput Program.fuel skip) then
        complain c s!"{j.input.getD j.source}: cannot skip to specified offset"
      let whole := (← Job.isSteady 0) || j.inputFlags.contains "fullblock"
      let r ← j.copy whole Program.fuel j.count {} []
      let now ← Program.ask fun _ w => w.clock
      r.message.forM (complain c)
      report j r.tally (now - start)
      return if r.message.isSome then 1 else 0

end Blocks

/-- Copies in blocks. -/
def dd : Tool := fun _ => withOptions { letters := "" } 1 fun c o =>
  match Blocks.job o.args with
  | .error (message, hints) =>
    if hints then misuse c message 1
    else do
      complain c message
      return 1
  | .ok j => Blocks.run c j

end ReleasePreview.Tools
