import ReleasePreview.LineDiff.Basic
import ReleasePreview.Tools.Names
import ReleasePreview.Tools.Nodes

/-! The comparison of two files: byte by byte, and line by line. -/
namespace ReleasePreview.Tools.Comparing

/-- Complains of the way a program is called. -/
def refuse (c : ProgramCall) (message : String) : Program Nat := do
  complain c message
  complain c s!"Try '{c.name} --help' for more information."
  return 2

/-- Does something with the options, or says what is wrong with them. -/
def reading (t : OptionTable) (act : ProgramCall → Options → Program Nat) :
    ProgramCall → Program Nat := fun c =>
  match t.read c.args with
  | .error message => refuse c message
  | .ok o => act c o

/-- The content of an input. -/
def content (path : String) : Program (Except FileError (List UInt8)) := do
  if path = "-" then Program.readAll 0
  else match ← openNew path .reading with
    | .error e => return .error e
    | .ok d =>
      let r ← Program.readAll d
      Program.close d
      return r

/-- Where two texts differ: the bytes before that, and what stands there. -/
def difference : (count : Nat) → List UInt8 → List UInt8 →
    Nat × Option UInt8 × Option UInt8
  | n, a :: s, b :: t => if a = b then difference (n + 1) s t else (n, some a, some b)
  | n, s, t => (n, s.head?, t.head?)

/-- All places where two texts differ, as far as both go. -/
def differences : (count : Nat) → List UInt8 → List UInt8 → List (Nat × UInt8 × UInt8)
  | n, a :: s, b :: t =>
    if a = b then differences (n + 1) s t else (n, a, b) :: differences (n + 1) s t
  | _, _, _ => []

def octalText (b : UInt8) : String :=
  let digits := Nat.toDigits 8 b.toNat
  String.ofList (List.replicate (3 - digits.length) ' ' ++ digits)

/-- A byte as it is shown. -/
def byteText (b : UInt8) : String :=
  let n := b.toNat
  let front := if 128 ≤ n then "M-" else ""
  let n := n % 128
  front ++ (if n < 32 then "^" ++ String.singleton (Char.ofNat (n + 64))
    else if n = 127 then "^?" else String.singleton (Char.ofNat n))

/-- The comparison of two texts that have names. -/
structure Pair where
  first : String
  second : String
  left : List UInt8
  right : List UInt8

/-- Says that a file ends before the other one. -/
def Pair.ending (p : Pair) (withLine : Bool) : Option String :=
  let short := p.left.length < p.right.length
  let (name, text) := if short then (p.first, p.left) else (p.second, p.right)
  if p.left.length = p.right.length then none
  else if text.isEmpty then some s!"EOF on {name} which is empty"
  else
    let whole := text.getLast? = some 10
    let lines := text.count 10
    let line := if !withLine then "" else if whole then s!", line {lines}"
      else s!", in line {lines + 1}"
    some s!"EOF on {name} after byte {text.length}{line}"

def compareBytes (c : ProgramCall) (o : Options) (p : Pair) : Program Nat := do
  if o.has 'l' then
    let width := (toString (max p.left.length p.right.length)).length
    let all := differences 0 p.left p.right
    writeAll (all.map fun (n, a, b) =>
      let place := toString (n + 1)
      let shown (b : UInt8) : String :=
        if o.has 'b' then octalText b ++ " " ++ byteText b else octalText b
      (String.ofList (List.replicate (width - place.length) ' ') ++
        s!"{place} {shown a} {shown b}\n").toList)
    let ending := p.ending false
    ending.forM (complain c)
    return if all.isEmpty && ending.isNone then 0 else 1
  else
    match difference 0 p.left p.right with
    | (_, none, none) => return 0
    | (n, some a, some b) =>
      let line := (p.left.take n).count 10 + 1
      if !o.has 's' then
        Program.out (if o.has 'b' then
            s!"{p.first} {p.second} differ: byte {n + 1}, line {line} " ++
              s!"is {octalText a} {byteText a} {octalText b} {byteText b}\n"
          else s!"{p.first} {p.second} differ: char {n + 1}, line {line}\n")
      return 1
    | _ =>
      if !o.has 's' then (p.ending true).forM (complain c)
      return 1

/-- Lines that take the place of others, both counted from nought. -/
structure Change where
  old : Nat
  removed : Nat
  new : Nat
  added : Nat

/-- The changes in lines that are classified. -/
def changes (old new : Nat) : (now : Option Change) → List LineKind → List Change
  | now, [] => now.toList
  | now, .context :: ks => now.toList ++ changes (old + 1) (new + 1) none ks
  | now, .removed :: ks =>
    let c := now.getD ⟨old, 0, new, 0⟩
    changes (old + 1) new (some { c with removed := c.removed + 1 }) ks
  | now, .added :: ks =>
    let c := now.getD ⟨old, 0, new, 0⟩
    changes old (new + 1) (some { c with added := c.added + 1 }) ks

/-- What lines are compared by. -/
def keyOf (o : Options) (line : List Char) : List Char :=
  let isGap (c : Char) : Bool := " \t\r\x0b\x0c".toList.contains c
  let line := if o.has 'i' then line.map Char.toLower else line
  if o.has 'w' then line.filter fun c => !isGap c && c ≠ '\n'
  else if o.has 'b' then
    let rec squeezed : List Char → List Char
      | a :: b :: s => if isGap a && (isGap b || b = '\n') then squeezed (b :: s)
        else (if isGap a then ' ' else a) :: squeezed (b :: s)
      | [a] => if isGap a then [] else [a]
      | [] => []
    (squeezed line).filter (· ≠ '\n')
  else line

/-- A range of lines, as it stands in front of a change. -/
def rangeText (start count : Nat) : String :=
  if count = 0 then toString start
  else if count = 1 then toString (start + 1)
  else s!"{start + 1},{start + count}"

/-- A line behind a sign. -/
def signed (sign : String) (line : List Char) : String :=
  let text := sign ++ String.ofList line
  if line.getLast? = some '\n' then text else text ++ "\n\\ No newline at end of file\n"

def linesFrom (sign : String) (lines : Array (List Char)) (start count : Nat) : String :=
  String.join ((List.range count).map fun i => signed sign (lines[start + i]?.getD []))

/-- The changes one by one. -/
def plain (a b : Array (List Char)) (cs : List Change) : String :=
  String.join (cs.map fun c =>
    let letter := if c.removed = 0 then "a" else if c.added = 0 then "d" else "c"
    rangeText c.old c.removed ++ letter ++ rangeText c.new c.added ++ "\n" ++
      linesFrom "< " a c.old c.removed ++
      (if c.removed = 0 || c.added = 0 then "" else "---\n") ++ linesFrom "> " b c.new c.added)

/-- Changes that are so near to each other that they are shown together. -/
def together (context : Nat) : List Change → List (List Change)
  | [] => []
  | c :: cs =>
    match together context cs with
    | (d :: ds) :: rest =>
      if d.old - (c.old + c.removed) ≤ 2 * context then (c :: d :: ds) :: rest
      else [c] :: (d :: ds) :: rest
    | rest => [c] :: rest

def spanText (start count : Nat) : String :=
  if count = 0 then s!"{start},0"
  else if count = 1 then toString (start + 1)
  else s!"{start + 1},{count}"

/-- Changes with lines around them. -/
def hunk (context : Nat) (a b : Array (List Char)) (cs : List Change) : String :=
  match cs, cs.getLast? with
  | first :: _, some last =>
    let before := min context first.old
    let start := first.old - before
    let stop := min a.size (last.old + last.removed + context)
    let newStart := first.new - before
    let newStop := last.new + last.added + (stop - (last.old + last.removed))
    let (body, position) := cs.foldl
      (fun ((text : String), (position : Nat)) c =>
        (text ++ linesFrom " " a position (c.old - position) ++ linesFrom "-" a c.old c.removed ++
          linesFrom "+" b c.new c.added, c.old + c.removed))
      ("", start)
    s!"@@ -{spanText start (stop - start)} +{spanText newStart (newStop - newStart)} @@\n" ++
      body ++ linesFrom " " a position (stop - position)
  | _, _ => ""

/-- When a file was written, as it is shown. -/
def stamp : String := "\t2024-01-01 00:00:00.000000000 +0000"

/-- The comparison of two texts line by line: what is written, and whether they are the same. -/
def compared (o : Options) (p : Pair) : String × Bool :=
  let text (bytes : List UInt8) : List Char := (Text.Octets.ofBytes bytes).toList
  if p.left = p.right then
    (if o.has 's' then s!"Files {p.first} and {p.second} are identical\n" else "", true)
  else
    let isBinary := !o.has 'a' && (p.left.contains 0 || p.right.contains 0)
    let a := linesOf (text p.left)
    let b := linesOf (text p.right)
    let script := LineDiff.compact (LineDiff.align (a.map (keyOf o)) (b.map (keyOf o)))
    let all := changes 0 0 none ((LineDiff.classify [] script).map (·.1))
    let (old, new) := (a.toArray, b.toArray)
    let isBlank (c : Change) : Bool :=
      ((List.range c.removed).all fun i => old[c.old + i]? = some ['\n']) &&
        (List.range c.added).all fun i => new[c.new + i]? = some ['\n']
    let cs := if o.has 'B' then all.filter (!isBlank ·) else all
    if isBinary then
      let noun := if o.has 'q' then "Files" else "Binary files"
      (s!"{noun} {p.first} and {p.second} differ\n", false)
    else if cs.isEmpty then
      (if o.has 's' then s!"Files {p.first} and {p.second} are identical\n" else "", true)
    else if o.has 'q' then (s!"Files {p.first} and {p.second} differ\n", false)
    else if o.has 'u' || o.has 'U' then
      let context := ((o.value? 'U').bind (·.toNat?)).getD 3
      let labels := o.values 'L'
      let label (i : Nat) (name : String) : String := (labels[i]?).getD (name ++ stamp)
      (s!"--- {label 0 p.first}\n+++ {label 1 p.second}\n" ++
        String.join ((together context all).map (hunk context old new)), false)
    else (plain old new cs, false)

/-- What a path leads to, for a comparison. -/
inductive Side where
  | missing (e : FileError)
  | directory (names : List String)
  | text

def side (path : String) : Program Side := do
  if path = "-" then return .text
  Program.files fun files directory =>
    match (⟨files, directory⟩ : View).find path true with
    | .error e => .missing e
    | .ok (p, .directory) => .directory ((files.children p).map Text.Octets.ofText)
    | .ok _ => .text

/-- Compares two files. Gives the status. -/
def compareFiles (c : ProgramCall) (o : Options) (header first second : String) :
    Program Nat := do
  let load (path : String) (s : Side) : Program (Except FileError (List UInt8)) :=
    match s with
    | .missing _ => return .ok []
    | _ => content path
  match ← load first (← side first), ← load second (← side second) with
  | .error e, _ =>
    complain c s!"{first}: {e.reason}"
    return 2
  | _, .error e =>
    complain c s!"{second}: {e.reason}"
    return 2
  | .ok left, .ok right =>
    let (text, same) := compared o ⟨first, second, left, right⟩
    let header := if o.has 'q' || text.isEmpty || same then "" else header
    if !text.isEmpty then Program.out (header ++ text)
    return if same then 0 else 1

/-- Compares two files or directories. The fuel is how deep. -/
def comparePaths (c : ProgramCall) (o : Options) (options : String) :
    (fuel : Nat) → (isTop : Bool) → (first second : String) → Program Nat
  | 0, _, _, _ => return 2
  | fuel + 1, isTop, first, second => do
    let header := if isTop then "" else s!"diff {options}{first} {second}\n"
    match ← side first, ← side second with
    | .directory names, .directory others =>
      if !isTop && !o.has 'r' then
        Program.out s!"Common subdirectories: {first} and {second}\n"
        return 0
      let all := (names ++ others.filter (!names.contains ·)).mergeSort fun a b => a ≤ b
      all.foldlM
        (fun status name => do
          let (a, b) := (Path.join first name, Path.join second name)
          let found ← if o.has 'N' then comparePaths c o options fuel false a b
            else if !others.contains name then do
              Program.out s!"Only in {first}: {name}\n"
              pure 1
            else if !names.contains name then do
              Program.out s!"Only in {second}: {name}\n"
              pure 1
            else comparePaths c o options fuel false a b
          return max status found)
        0
    | .directory _, .text =>
      if isTop then comparePaths c o options fuel isTop (Path.join first (lastName second)) second
      else
        Program.out (s!"File {first} is a directory while " ++
          s!"file {second} is a regular file\n")
        return 1
    | .text, .directory _ =>
      if isTop then comparePaths c o options fuel isTop first (Path.join second (lastName first))
      else
        Program.out (s!"File {first} is a regular file while " ++
          s!"file {second} is a directory\n")
        return 1
    | .missing e, other =>
      match other, o.has 'N' with
      | .text, true => compareFiles c o header first second
      | .missing other, _ =>
        complain c s!"{first}: {e.reason}"
        complain c s!"{second}: {other.reason}"
        return 2
      | _, _ =>
        complain c s!"{first}: {e.reason}"
        return 2
    | .text, .missing e =>
      if o.has 'N' then compareFiles c o header first second
      else
        complain c s!"{second}: {e.reason}"
        return 2
    | _, .missing e =>
      complain c s!"{second}: {e.reason}"
      return 2
    | .text, .text => compareFiles c o header first second

end Comparing

open Comparing in
/-- Says where two files differ. -/
def cmp : Tool := fun _ => reading
  { letters := "bi:ln:s", names := [("silent", 's'), ("quiet", 's'), ("verbose", 'l'),
      ("print-bytes", 'b'), ("bytes", 'n'), ("ignore-initial", 'i')] } fun c o => do
  let number (what value : String) : Except String Nat :=
    match count? value.toList with
    | some n => .ok n
    | none => .error s!"invalid {what} value '{value}'"
  let skips : Except String (Nat × Nat) := do
    let given ← match o.value? 'i' with
      | none => pure []
      | some value =>
        (Text.split ':' value.toList).mapM fun n => number "--ignore-initial" (String.ofList n)
    let more ← (o.args.drop 2).mapM (number "--ignore-initial")
    match given ++ more with
    | [] => return (0, 0)
    | [n] => return (n, if more.isEmpty then n else 0)
    | n :: m :: _ => return (n, m)
  match o.args with
  | [] => refuse c s!"missing operand after '{c.name}'"
  | first :: rest =>
    if o.has 'l' && o.has 's' then refuse c "options -l and -s are incompatible"
    else match skips, o.args[4]?, (o.value? 'n').mapM (number "--bytes") with
    | .error message, _, _ | _, _, .error message => refuse c message
    | .ok _, some extra, _ => refuse c s!"extra operand '{extra}'"
    | .ok (skipFirst, skipSecond), none, .ok limit =>
      let second := rest.headD "-"
      let load (path : String) (skip : Nat) : Program (Except FileError (List UInt8)) := do
        match ← content path with
        | .error e =>
          if !o.has 's' then complain c s!"{path}: {e.reason}"
          return .error e
        | .ok bytes =>
          let bytes := bytes.drop skip
          return .ok (limit.elim bytes fun n => bytes.take n)
      match ← load first skipFirst with
      | .error _ => return 2
      | .ok left =>
        match ← load second skipSecond with
        | .error _ => return 2
        | .ok right => compareBytes c o ⟨first, second, left, right⟩

open Comparing in
/-- Says which lines of two files differ. -/
def diff : Tool := fun _ => reading
  { letters := "abBdiL:lNnpqrsTtuU:wx:", names := [("brief", 'q'), ("unified", 'u'),
      ("recursive", 'r'), ("new-file", 'N'), ("text", 'a'), ("ignore-case", 'i'),
      ("ignore-all-space", 'w'), ("ignore-space-change", 'b'), ("ignore-blank-lines", 'B'),
      ("report-identical-files", 's'), ("label", 'L'), ("normal", 'p')] } fun c o => do
  match o.args with
  | [] => refuse c s!"missing operand after '{c.name}'"
  | [path] => refuse c s!"missing operand after '{path}'"
  | [first, second] =>
    let given := c.args.filter fun a => a.startsWith "-" && a ≠ "-"
    comparePaths c o (String.join (given.map (· ++ " "))) maxDepth true first second
  | _ :: _ :: extra :: _ => refuse c s!"extra operand '{extra}'"

end ReleasePreview.Tools
