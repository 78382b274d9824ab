import ReleasePreview.Format.Conversion
import ReleasePreview.Tools.Basic

/-! Programs that write parts of their input, or all of it: its beginning, its end, its lines with
numbers or backwards, and its size. -/
namespace ReleasePreview.Tools

/-- A number in some columns. -/
def column (width n : Nat) : List Char :=
  ({ width, letter := 'd' } : Format.Conversion).ofInteger n

/-- Copies all that can be read. -/
def copyFrom (d : Nat) : (fuel : Nat) → Program (Option FileError)
  | 0 => return none
  | fuel + 1 => do
    match ← Program.read d 65536 with
    | .error e => return some e
    | .ok [] => return none
    | .ok bytes =>
      match ← Program.write 1 bytes with
      | some _ => return none
      | none => copyFrom d fuel

/-- A character as it is shown with marks. -/
def shownChar (tabs : Bool) (c : Char) : List Char :=
  let n := c.toNat
  if c = '\t' then if tabs then ['^', 'I'] else [c]
  else if n < 32 then ['^', Char.ofNat (n + 64)]
  else if n = 127 then ['^', '?']
  else if n < 128 then [c]
  else
    let low := n - 128
    'M' :: '-' ::
      (if low < 32 then ['^', Char.ofNat (low + 64)]
        else if low = 127 then ['^', '?']
        else [Char.ofNat low])

/-- What is shown of a line: the number of the next one, and whether the one before was empty. -/
def shownLine (o : Options) (s : Nat × Bool) (line : List Char) : Step (Nat × Bool) :=
  let (n, wasEmpty) := s
  let text := bare line
  let has (letters : String) : Bool := letters.toList.any o.has
  if o.has 's' && wasEmpty && text.isEmpty then { state := s }
  else
    let numbered := if o.has 'b' then !text.isEmpty else o.has 'n'
    let front := if numbered then column 6 n ++ ['\t'] else []
    let shown :=
      if has "vAet" then text.flatMap (shownChar (has "TAt"))
      else if has "T" then text.flatMap fun c => if c = '\t' then ['^', 'I'] else [c]
      else text
    let ending := if line.length = text.length then []
      else if has "EAe" then ['$', '\n'] else ['\n']
    { state := (if numbered then n + 1 else n, text.isEmpty)
      output := front ++ shown ++ ending }

def cat : Tool := fun _ => withOptions
  { letters := "AbeEnstTuv"
    names := [("show-all", 'A'), ("number-nonblank", 'b'), ("show-ends", 'E'), ("number", 'n'),
      ("squeeze-blank", 's'), ("show-tabs", 'T'), ("show-nonprinting", 'v')] } 1 fun c o => do
  let paths := orInput o.args
  if o.found.all (·.1 = 'u') then eachInput c 1 0 (fun _ d => copyFrom d Program.fuel) paths
  else
    let (_, status) ← eachLineOf c 1 (shownLine o) "" 0 (1, false) paths
    return status

/-- The lines of a text without the last ones. -/
def withoutLast {α : Type} (n : Nat) (l : List α) : List α := l.take (l.length - n)

def lastOf {α : Type} (n : Nat) (l : List α) : List α := l.drop (l.length - n)

/-- Arguments with a number behind a dash written out as an option for lines. -/
def withCount : List String → List String
  | arg :: args =>
    match arg.toList with
    | '-' :: c :: _ => if c.isDigit then "-n" :: (arg.drop 1).toString :: args else arg :: args
    | _ => arg :: args
  | [] => []

/-- Complains of an input that is missing or cannot be read. -/
def unreadable (c : ProgramCall) (path : String) (e : FileError) : Program Unit :=
  if e = .isDirectory then complain c s!"error reading '{path}': {e.reason}"
  else complain c s!"cannot open '{path}' for reading: {e.reason}"

/-- Shows a part of each input, under its name if there are several. -/
def parts (c : ProgramCall) (titles : Bool) (act : Nat → Program (Option FileError)) :
    (isFirst : Bool) → (status : Nat) → List String → Program Nat
  | _, status, [] => return status
  | isFirst, status, path :: paths => do
    let opened ← if path = "-" then pure (.ok 0) else openNew path .reading
    match opened with
    | .error e =>
      unreadable c path e
      parts c titles act isFirst 1 paths
    | .ok d =>
      if titles then
        let name := if path = "-" then "standard input" else path
        unless isFirst do Program.out "\n"
        Program.out s!"==> {name} <==\n"
      let e ← act d
      if d ≠ 0 then Program.close d
      match e with
      | some e =>
        unreadable c path e
        parts c titles act false 1 paths
      | none => parts c titles act false status paths

/-- Copies so many bytes. -/
def copyBytes (d : Nat) : (fuel left : Nat) → Program (Option FileError)
  | 0, _ => return none
  | _, 0 => return none
  | fuel + 1, left => do
    match ← Program.read d (min left 65536) with
    | .error e => return some e
    | .ok [] => return none
    | .ok bytes =>
      discard (Program.write 1 bytes)
      copyBytes d fuel (left - bytes.length)

def writeText (f : List Char → List Char) (d : Nat) : Program (Option FileError) := do
  match ← Program.readAll d with
  | .error e => return some e
  | .ok bytes =>
    writeAll [f (Text.Octets.ofBytes bytes).toList]
    return none

def copyLines (n : Nat) (d : Nat) : Program (Option FileError) := do
  if n = 0 then return none
  let r ← eachLine (fun left line =>
    { state := left - 1, output := line, goesOn := 1 < left }) n d
  return r.error

def head : Tool := fun _ c => withOptions
  { letters := "c:n:qvz", names := [("bytes", 'c'), ("lines", 'n'), ("quiet", 'q'),
      ("silent", 'q'), ("verbose", 'v')] } 1
  (fun c o => do
    let paths := orInput o.args
    let titles := o.has 'v' || (1 < paths.length && !o.has 'q')
    let (letter, value) := (o.found.reverse.find? fun f => f.1 = 'n' || f.1 = 'c').getD ('n', "10")
    let (fromEnd, digits) := match value.toList with
      | '-' :: s => (true, s)
      | s => (false, s)
    match count? digits with
    | none =>
      let unit := if letter = 'n' then "lines" else "bytes"
      complain c s!"invalid number of {unit}: '{value}'"
      return 1
    | some n =>
      let act : Nat → Program (Option FileError) :=
        if fromEnd then
          if letter = 'c' then writeText (withoutLast n)
          else writeText fun s => (withoutLast n (linesOf s)).flatten
        else if letter = 'c' then fun d => copyBytes d Program.fuel n
        else copyLines n
      parts c titles act true 0 paths)
  { c with args := withCount c.args }

/-- Waits for ever. -/
def stay : Program Unit := Program.await fun _ _ => none

/-- A number of lines as an option of its own, which only stands in front of one path. -/
def loneCount? (args : List String) : Option Char :=
  match args with
  | arg :: _ :: _ :: _ =>
    match arg.toList with
    | '-' :: d :: _ => if d.isDigit then some d else none
    | _ => none
  | _ => none

def tail : Tool := fun _ c => withOptions
  { letters := "0123456789c:fFn:qs:vz", names := [("bytes", 'c'), ("lines", 'n'), ("quiet", 'q'),
      ("silent", 'q'), ("verbose", 'v'), ("follow", 'f')] } 1
  (fun c o => do
    if let some d := loneCount? c.args then
      complain c s!"option used in invalid context -- {d}"
      return 1
    let paths := orInput o.args
    let titles := o.has 'v' || (1 < paths.length && !o.has 'q')
    let (letter, value) := (o.found.reverse.find? fun f => f.1 = 'n' || f.1 = 'c').getD ('n', "10")
    let (fromStart, digits) := match value.toList with
      | '-' :: s => (false, s)
      | '+' :: s => (true, s)
      | s => (false, s)
    match count? digits with
    | none =>
      let unit := if letter = 'n' then "lines" else "bytes"
      complain c s!"invalid number of {unit}: '{value}'"
      return 1
    | some n =>
      if n = 0 && !fromStart && !o.has 'f' && !o.has 'F' then return 0
      let part {α : Type} (l : List α) : List α := if fromStart then l.drop (n - 1) else lastOf n l
      let act : Nat → Program (Option FileError) :=
        if letter = 'c' then writeText part
        else if fromStart then fun d => do
          let r ← eachLine (fun left line =>
            { state := left - 1, output := if left ≤ 1 then line else [] }) n d
          return r.error
        else writeText fun s => (part (linesOf s)).flatten
      let status ← parts c titles act true 0 paths
      if o.has 'f' || o.has 'F' then stay
      return status)
  { c with args := if (loneCount? c.args).isSome then c.args else match c.args with
      | arg :: args =>
        match arg.toList with
        | '+' :: d :: _ =>
          if d.isDigit && args.length ≤ 1 then "-n" :: arg :: args else arg :: args
        | _ => withCount c.args
      | [] => [] }

/-- Writes what is made of each input as a whole. -/
def tac : Tool := fun _ => withOptions { letters := "brs:" } 1 fun c o => do
  let rec go (status : Nat) : List String → Program Nat
    | [] => return status
    | path :: paths => do
      let opened ← if path = "-" then pure (.ok 0) else openNew path .reading
      match opened with
      | .error e =>
        complain c s!"failed to open '{path}' for reading: {e.reason}"
        go 1 paths
      | .ok d =>
        let e ← writeText (fun s => (linesOf s).reverse.flatten) d
        if d ≠ 0 then Program.close d
        match e with
        | some e =>
          complain c s!"{path}: read error: {e.reason}"
          go 1 paths
        | none => go status paths
  go 0 (orInput o.args)

def rev : Tool := fun _ => withOptions { letters := "0" } 1 fun c o => do
  let step (_ : Unit) (line : List Char) : Step Unit :=
    let text := bare line
    let whole := (Text.Octets.readable (String.ofList text)).toList.reverse
    { state := ()
      output := (Text.Octets.ofText (String.ofList whole)).toList ++ line.drop text.length }
  let (_, status) ← eachLineOf c 1 step "cannot open " 0 () (orInput o.args)
  return status

def nl : Tool := fun _ => withOptions { letters := "b:d:f:h:i:l:n:ps:v:w:" } 1 fun c o => do
  let style := (o.value? 'b').getD "t"
  let width := ((o.value? 'w').bind (·.toNat?)).getD 6
  let gap := ((o.value? 's').getD "\t").toList
  let start := ((o.value? 'v').bind (·.toNat?)).getD 1
  let increment := ((o.value? 'i').bind (·.toNat?)).getD 1
  let number (n : Nat) : List Char := match (o.value? 'n').getD "rn" with
    | "ln" => ({ flags := ['-'], width, letter := 'd' } : Format.Conversion).ofInteger n
    | "rz" => ({ flags := ['0'], width, letter := 'd' } : Format.Conversion).ofInteger n
    | _ => column width n
  let step (n : Nat) (line : List Char) : Step Nat :=
    let text := bare line
    if style = "a" || (style = "t" && !text.isEmpty) then
      { state := n + increment, output := number n ++ gap ++ text ++ ['\n'] }
    else { state := n, output := List.replicate (width + gap.length) ' ' ++ text ++ ['\n'] }
  let (_, status) ← eachLineOf c 1 step "" 0 start (orInput o.args)
  return status

/-- What is counted of a text. -/
structure Counts where
  lines : Nat := 0
  words : Nat := 0
  chars : Nat := 0
  bytes : Nat := 0
  longest : Nat := 0

def wordCount (s : List Char) : Nat :=
  (s.foldl
    (fun (count, inside) c =>
      if c = ' ' || ('\t' ≤ c && c ≤ '\r') then (count, false)
      else (if inside then count else count + 1, true))
    (0, false)).1

/-- The columns of the widest line. -/
def longestOf (s : List Char) : Nat :=
  (s.foldl
    (fun (widest, column) c =>
      let column := match c with
        | '\n' | '\r' | '\x0c' => 0
        | '\t' => column + 8 - column % 8
        | c => if ' ' ≤ c && c ≤ '~' then column + 1 else column
      (max widest column, column))
    (0, 0)).1

def Counts.of (s : List Char) : Counts where
  lines := s.count '\n'
  words := wordCount s
  chars := s.length
  bytes := s.length
  longest := longestOf s

def Counts.add (a b : Counts) : Counts where
  lines := a.lines + b.lines
  words := a.words + b.words
  chars := a.chars + b.chars
  bytes := a.bytes + b.bytes
  longest := max a.longest b.longest

def wc : Tool := fun _ => withOptions
  { letters := "clLmw", names := [("bytes", 'c'), ("lines", 'l'), ("words", 'w'), ("chars", 'm'),
      ("max-line-length", 'L')] } 1 fun c o => do
  let paths := orInput o.args
  let usual := o.found.isEmpty
  let chosen (n : Counts) : List Nat :=
    (if usual || o.has 'l' then [n.lines] else []) ++
      (if usual || o.has 'w' then [n.words] else []) ++
      (if o.has 'm' then [n.chars] else []) ++
      (if usual || o.has 'c' then [n.bytes] else []) ++
      (if o.has 'L' then [n.longest] else [])
  let sizes ← paths.mapM fun path => Program.ask fun number w =>
    let file : Option Endpoint := if path = "-" then (w.openFile? number 0).map (·.2.source)
      else ((w.openPath number path .reading).toOption).map (·.2.source)
    match file with
    | some (.file p) =>
      match w.files.node? p with
      | some (.file content _) => some (some content.length)
      | _ => some none
    | some _ => some none
    | none => none
  let single := (chosen {}).length = 1 && paths.length = 1
  let regular := (sizes.filterMap (·.join)).foldl (· + ·) 0
  let width := if single then 1
    else if sizes.any (· = some none) then max 7 (toString regular).length
    else (toString regular).length
  let row (n : Counts) (name : String) : String :=
    let fields := " ".intercalate ((chosen n).map fun n => String.ofList (column width n))
    fields ++ (if name.isEmpty then "" else " " ++ name) ++ "\n"
  let rec go (status : Nat) (total : Counts) : List String → Program (Counts × Nat)
    | [] => return (total, status)
    | path :: paths => do
      let opened ← if path = "-" then pure (.ok 0) else openNew path .reading
      match opened with
      | .error e =>
        complain c s!"{path}: {e.reason}"
        go 1 total paths
      | .ok d =>
        let r ← Program.readAll d
        if d ≠ 0 then Program.close d
        let name := if o.args.isEmpty then "" else path
        match r with
        | .error e =>
          complain c s!"{path}: {e.reason}"
          Program.out (row {} name)
          go 1 total paths
        | .ok bytes =>
          let n := Counts.of (Text.Octets.ofBytes bytes).toList
          Program.out (row n name)
          go status (total.add n) paths
  let (total, status) ← go 0 {} paths
  if 1 < paths.length then Program.out (row total "total")
  return status

/-- Copies the input to several outputs. -/
def teeFrom (c : ProgramCall) (outputs : List Nat) : (fuel : Nat) → Program Unit
  | 0 => return
  | fuel + 1 => do
    match ← Program.read 0 65536 with
    | .error e => complain c s!"read error: {e.reason}"
    | .ok [] => return
    | .ok bytes =>
      outputs.forM fun d => discard (Program.write d bytes)
      teeFrom c outputs fuel

def tee : Tool := fun _ => withOptions
  { letters := "aip", names := [("append", 'a'), ("ignore-interrupts", 'i')] } 1 fun c o => do
  let rec openAll (status : Nat) (outputs : List Nat) : List String → Program (List Nat × Nat)
    | [] => return (outputs.reverse, status)
    | path :: paths => do
      match ← openNew path (if o.has 'a' then .appending else .writing) with
      | .error e =>
        complain c s!"{path}: {e.reason}"
        openAll 1 outputs paths
      | .ok d => openAll status (d :: outputs) paths
  let (outputs, status) ← openAll 0 [1] o.args
  teeFrom c outputs Program.fuel
  return status

/-- Writes a text again and again. -/
def writeForever (bytes : List UInt8) : (fuel : Nat) → Program Unit
  | 0 => return
  | fuel + 1 => do
    match ← Program.write 1 bytes with
    | some _ => return
    | none => writeForever bytes fuel

def yes : Tool := fun _ c => do
  let args := if c.args.head? = some "--" then c.args.drop 1 else c.args
  let line := (if args.isEmpty then "y" else " ".intercalate args) ++ "\n"
  let times := max 1 (8192 / line.length)
  let bytes := (List.replicate times (Text.Octets.toBytes line)).flatten
  writeForever bytes Program.fuel
  return 1

end ReleasePreview.Tools
