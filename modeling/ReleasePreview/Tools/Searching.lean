import ReleasePreview.Regex.Parse
import ReleasePreview.Text.Pattern
import ReleasePreview.Tools.Basic
import ReleasePreview.Tools.Nodes

/-! Looking for lines that match patterns. -/
namespace ReleasePreview.Tools.Searching

/-- Which part of a line has to match. -/
inductive Extent where
  | anywhere
  | word
  | line
deriving Repr, DecidableEq

/-- What is looked for. -/
structure Search where
  patterns : List Regex.Expression
  foldsCase : Bool := false
  extent : Extent := .anywhere

namespace Search

/-- The longest match of a pattern at a place. -/
def patternAt? (q : Search) (t : Regex.Subject) (i : Nat) (e : Regex.Expression) :
    Option Regex.Match :=
  let before := 0 < i && (t.text[i - 1]?).any Regex.Subject.isWord
  let isWhole (stop : Nat) : Bool := match q.extent with
    | .anywhere => true
    | .word => !before && !(t.text[stop]?).any Regex.Subject.isWord
    | .line => i = 0 && stop = t.size
  match q.extent with
  | .anywhere => e.matchAt? t false i
  | _ =>
    if before && q.extent = .word then none
    else
      (e.ends t [i]).reverse.findSome? fun stop =>
        if !isWhole stop then none
        else if e.hasReference then
          (e.capture t i [] fun j gs => if j = stop then some gs else none).map (⟨i, stop, ·⟩)
        else some ⟨i, stop, []⟩

/-- The longest match of all patterns at a place. -/
def matchAt? (q : Search) (t : Regex.Subject) (i : Nat) : Option Regex.Match :=
  (q.patterns.filterMap (q.patternAt? t i)).foldl
    (fun best m => match best with
      | none => some m
      | some b => if b.stop < m.stop then some m else best)
    none

/-- The first match from a place on. The fuel is the length of the text. -/
def searchFrom (q : Search) (t : Regex.Subject) : (fuel : Nat) → Nat → Option Regex.Match
  | 0, _ => none
  | fuel + 1, i =>
    match q.matchAt? t i with
    | some m => some m
    | none => if i < t.size && q.extent ≠ .line then searchFrom q t fuel (i + 1) else none

def search? (q : Search) (t : Regex.Subject) (i : Nat) : Option Regex.Match :=
  match q.patterns, q.extent with
  | [e], .anywhere => e.search? t false i
  | _, _ => q.searchFrom t (t.size + 1 - i) i

def subject (q : Search) (line : List Char) : Regex.Subject where
  text := line.toArray
  foldsCase := q.foldsCase

def suits (q : Search) (line : List Char) : Bool := (q.search? (q.subject line) 0).isSome

/-- The matches from a place on that are not empty. The fuel is the length of the text. -/
def matchesFrom (q : Search) (t : Regex.Subject) : (fuel : Nat) → Nat → List Regex.Match
  | 0, _ => []
  | fuel + 1, i =>
    match q.search? t i with
    | none => []
    | some m =>
      if m.start = m.stop then matchesFrom q t fuel (m.stop + 1)
      else m :: matchesFrom q t fuel m.stop

end Search

/-- What is shown of the lines that are found. -/
structure Display where
  query : Search
  inverted : Bool := false
  /-- Only the count of lines is shown, or the name of the file if it has such lines, or if not. -/
  counts : Bool := false
  lists : Option Bool := none
  isQuiet : Bool := false
  onlyMatches : Bool := false
  names : Bool := false
  numbers : Bool := false
  offsets : Bool := false
  /-- A name ends in a null character. -/
  nullNames : Bool := false
  after : Nat := 0
  before : Nat := 0
  /-- There may be lines around a line, which are set apart from others. -/
  hasContext : Bool := false
  most : Option Nat := none
  isText : Bool := false
  mark : Char := '\n'
  colors : Bool := false

/-- Where the reading of a file has got. -/
structure Progress where
  number : Nat := 0
  offset : Nat := 0
  found : Nat := 0
  /-- Lines that are still to be shown behind one that was found. -/
  owed : Nat := 0
  /-- The last lines that have not been shown, backwards, with their numbers and offsets. -/
  kept : List (Nat × Nat × List Char) := []
  /-- The number of the line that was shown last. -/
  shown : Option Nat := none
  /-- Lines have been shown, of whatever file. -/
  hasShown : Bool := false
  isBinary : Bool := false
  isOver : Bool := false

namespace Display

/-- What stands before a line. -/
def front (d : Display) (name : String) (sign : Char) (number offset : Nat) : List Char :=
  (if d.names then name.toList ++ [if d.nullNames then '\x00' else sign] else []) ++
    (if d.numbers then (toString number).toList ++ [sign] else []) ++
    (if d.offsets then (toString offset).toList ++ [sign] else [])

/-- Lines are shown as such. -/
def showsLines (d : Display) : Bool := !d.counts && d.lists.isNone && !d.isQuiet

/-- What is shown of a line that was found. -/
def shownLine (d : Display) (name : String) (number offset : Nat) (line : List Char) :
    List Char :=
  if d.onlyMatches then
    if d.inverted then []
    else
      let t := d.query.subject line
      (d.query.matchesFrom t (t.size + 1) 0).flatMap fun m =>
        d.front name ':' number (offset + m.start) ++ m.group t 0 ++ [d.mark]
  else d.front name ':' number offset ++ line ++ [d.mark]

/-- Goes over a line. Gives what is shown. -/
def step (d : Display) (name : String) (p : Progress) (whole : List Char) :
    Progress × List Char :=
  let line := if whole.getLast? = some d.mark then whole.dropLast else whole
  let number := p.number + 1
  let offset := p.offset
  let p := { p with number, offset := p.offset + whole.length }
  let contextLine (number offset : Nat) (line : List Char) : List Char :=
    if d.onlyMatches then [] else d.front name '-' number offset ++ line ++ [d.mark]
  if d.query.suits line != d.inverted then
    let p := { p with found := p.found + 1 }
    if !d.showsLines then
      let isOver := d.isQuiet || d.lists.isSome || d.most.any (· ≤ p.found)
      ({ p with isOver }, [])
    else if p.isBinary then ({ p with isOver := true }, [])
    else
      let first := (p.kept.getLast?.map (·.1)).getD number
      let apart := d.hasContext && p.hasShown && p.shown.all (· + 1 < first)
      let gap := if apart then ['-', '-', '\n'] else []
      let before := p.kept.reverse.flatMap fun (n, o, l) => contextLine n o l
      let isLast := d.most.any (· ≤ p.found)
      ({ p with
          owed := d.after, kept := [], shown := some number, hasShown := true
          isOver := isLast && d.after = 0 },
        gap ++ before ++ d.shownLine name number offset line)
  else if 0 < p.owed && d.showsLines && !p.isBinary then
    ({ p with
        owed := p.owed - 1, shown := some number
        isOver := p.owed = 1 && d.most.any (· ≤ p.found) },
      contextLine number offset line)
  else if d.most.any (· ≤ p.found) then ({ p with isOver := true }, [])
  else ({ p with kept := ((number, offset, line) :: p.kept).take d.before }, [])

/-- Goes over lines until it is enough. Gives those that are left. -/
def steps (d : Display) (name : String) : Progress → List (List Char) → (shown : List (List Char)) →
    Progress × List (List Char) × List (List Char)
  | p, [], shown => (p, shown, [])
  | p, line :: lines, shown =>
    let (p, text) := d.step name p line
    if p.isOver then (p, text :: shown, lines) else steps d name p lines (text :: shown)

end Display

/-- Reads a file and shows what is found. Gives how far it got, and what is wrong. -/
def searchIn (d : Display) (name : String) : (fuel : Nat) → LineSource → Progress →
    Program (Progress × Option FileError)
  | 0, _, p => return (p, none)
  | fuel + 1, s, p => do
    match ← s.fill with
    | .error e => return (p, some e)
    | .ok s =>
      if s.ready.isEmpty then return (p, none)
      let hasNull (line : List Char) : Bool := line.contains '\x00'
      let isBinary : Bool := p.isBinary ||
        (!d.isText && d.mark ≠ '\x00' && (s.ready.any hasNull || hasNull s.begun))
      let (p, shown, left) := d.steps name { p with isBinary } s.ready []
      writeAll shown.reverse
      if p.isOver then
        if d.most.isSome && !d.isQuiet then discard { s with ready := left }.close
        return (p, none)
      else searchIn d name fuel { s with ready := [] } p

/-- How files are chosen and complained of. -/
structure Manner where
  display : Display
  label : String := "(standard input)"
  complains : Bool := true
  /-- Directories are entered; with `follows` also through links. -/
  enters : Bool := false
  follows : Bool := false
  included : List String := []
  excluded : List String := []
  excludedDirectories : List String := []

/-- What has been found so far. -/
structure Result where
  hasFound : Bool := false
  hasFailed : Bool := false
  hasShown : Bool := false
  isOver : Bool := false

/-- Searches a file. -/
def searchFile (c : ProgramCall) (m : Manner) (r : Result) (path : String) : Program Result := do
  let d := m.display
  let name := if path = "-" then m.label else path
  let refuse (e : FileError) : Program Result := do
    if m.complains then complain c s!"{path}: {e.reason}"
    return { r with hasFailed := true }
  let source : LineSource := { mark := d.mark }
  match ← source.openInput path with
  | .error e => refuse e
  | .ok source =>
    if d.most = some 0 then return r
    let (p, error) ← searchIn d name Program.fuel source { hasShown := r.hasShown }
    if let some descriptor := source.descriptor then
      if descriptor ≠ 0 then Program.close descriptor
    match error with
    | some e => refuse e
    | none =>
      let title := name ++ (if d.nullNames then "\x00" else ":")
      if d.isQuiet then pure ()
      else match d.lists with
        | some wanted =>
          if (0 < p.found) = wanted then
            Program.out (name ++ if d.nullNames then "\x00" else "\n")
        | none =>
          if d.counts then Program.out ((if d.names then title else "") ++ s!"{p.found}\n")
          else if p.isBinary && p.isOver then complain c s!"{name}: binary file matches"
      return { r with
        hasFound := r.hasFound || 0 < p.found
        hasShown := p.hasShown
        isOver := d.isQuiet && 0 < p.found }

/-- The files below a path that are searched. The fuel is how deep they are. -/
def filesBelow (m : Manner) (v : View) : (fuel : Nat) → String → List String
  | 0, _ => []
  | fuel + 1, path =>
    let suits (patterns : List String) : Bool :=
      patterns.any fun p => Text.nameMatches p (lastName path)
    match v.find path m.follows with
    | .ok (p, .directory) =>
      if suits m.excludedDirectories then []
      else
        let names := (v.files.children p).mergeSort fun a b => a ≤ b
        names.flatMap fun name =>
          filesBelow m v fuel (Path.join path (Text.Octets.ofText name))
    | .ok (_, .file ..) =>
      if suits m.excluded || (!m.included.isEmpty && !suits m.included) then [] else [path]
    | _ => []

/-- Searches files one after the other. -/
def searchAll (c : ProgramCall) (m : Manner) : Result → List String → Program Result
  | r, [] => return r
  | r, path :: paths => do
    let r ← searchFile c m r path
    if r.isOver then return r else searchAll c m r paths

/-- Operators of an extended expression that have nothing to repeat. -/
def idleSigns : (fuel : Nat) → (isFirst : Bool) → List Char → List Char
  | 0, _, _ => []
  | _, _, [] => []
  | fuel + 1, _, '\\' :: _ :: s => idleSigns fuel false s
  | fuel + 1, isFirst, c :: s =>
    if c = '[' then
      let s := match s with
        | '^' :: s => s
        | s => s
      let rest := match s with
        | ']' :: s => s.dropWhile (· ≠ ']')
        | s => s.dropWhile (· ≠ ']')
      idleSigns fuel false (rest.drop 1)
    else if c = '(' || c = '|' then idleSigns fuel true s
    else if c = '^' then idleSigns fuel isFirst s
    else if isFirst && (c = '*' || c = '+' || c = '?') then c :: idleSigns fuel isFirst s
    else idleSigns fuel false s

/-- How the patterns are written. -/
inductive Notation where
  | basic
  | extended
  | fixed
  | perl
deriving Repr, DecidableEq

/-- The expression of a pattern. -/
def Notation.read (n : Notation) (s : List Char) : Except String Regex.Expression :=
  match n with
  | .fixed => .ok (s.foldr (fun c e => .sequence (.char c) e) .empty)
  | .basic => (Regex.parse { refusesLoneClasses := true } s).map (·.1)
  | .extended => (Regex.parse { extended := true, refusesLoneClasses := true } s).map (·.1)
  | .perl => (Regex.parse { extended := true, namesControls := true } s).map (·.1)

/-- The text of a file of patterns, without its last line end. -/
def patternFile (c : ProgramCall) (path : String) : Program (List (List Char)) := do
  let opened ← if path = "-" then pure (.ok 0) else openNew path .reading
  match opened with
  | .error e =>
    complain c s!"{path}: {e.reason}"
    Program.exit 2
  | .ok d =>
    let r ← Program.readAll d
    if d ≠ 0 then Program.close d
    return (linesOf (Text.Octets.ofBytes (r.toOption.getD [])).toList).map bare

/-- The patterns of options, in their order. -/
def givenPatterns (c : ProgramCall) : List (Char × String) → Program (List (List Char))
  | [] => return []
  | ('e', text) :: rest => return Text.split '\n' text.toList ++ (← givenPatterns c rest)
  | ('f', path) :: rest => return (← patternFile c path) ++ (← givenPatterns c rest)
  | _ :: rest => givenPatterns c rest

def options : OptionTable where
  letters := "EFGPe:f:ivywxclLnoqshHrRA:B:C:m:bzaTUuZI"
  names := [("extended-regexp", 'E'), ("fixed-strings", 'F'), ("basic-regexp", 'G'),
    ("perl-regexp", 'P'), ("regexp", 'e'), ("file", 'f'), ("ignore-case", 'i'),
    ("no-ignore-case", '\x01'), ("invert-match", 'v'), ("word-regexp", 'w'),
    ("line-regexp", 'x'), ("count", 'c'), ("color", '\x02'), ("colour", '\x02'),
    ("files-without-match", 'L'), ("files-with-matches", 'l'), ("max-count", 'm'),
    ("only-matching", 'o'), ("quiet", 'q'), ("silent", 'q'), ("no-messages", 's'),
    ("byte-offset", 'b'), ("with-filename", 'H'), ("no-filename", 'h'), ("label", '\x03'),
    ("line-number", 'n'), ("null", 'Z'), ("after-context", 'A'), ("before-context", 'B'),
    ("context", 'C'), ("text", 'a'), ("recursive", 'r'), ("dereference-recursive", 'R'),
    ("include", '\x04'), ("exclude", '\x05'), ("exclude-dir", '\x06'), ("null-data", 'z'),
    ("line-buffered", '\x07'), ("binary-files", '\x08'), ("initial-tab", 'T')]
  optional := "\x02\x03\x04\x05\x06\x08"

/-- Arguments with numbers of lines as options for these. -/
def withContext : List String → List String
  | [] => []
  | arg :: args =>
    match arg.toList with
    | ['-', '-'] => arg :: args
    | '-' :: digits =>
      if !digits.isEmpty && digits.all Decimal.isDigit then
        s!"-C{String.ofList digits}" :: withContext args
      else if ["-e", "-f", "-A", "-B", "-C", "-m"].contains arg then
        arg :: args.take 1 ++ withContext (args.drop 1)
      else arg :: withContext args
    | _ => arg :: withContext args
termination_by args => args.length
decreasing_by all_goals (simp only [List.length_cons, List.length_drop]; omega)

/-- What is wrong with the way the program is called. -/
def misused (c : ProgramCall) (message : Option String) : Program Nat := do
  message.forM (complain c)
  Program.err "Usage: grep [OPTION]... PATTERNS [FILE]..."
  Program.err "Try 'grep --help' for more information."
  return 2

end Searching

open Searching in
def grep : Tool := fun _ c => do
  match options.read (withContext c.args) with
  | .error message => misused c (some message)
  | .ok o =>
    let given := o.found.filter fun (letter, _) => letter = 'e' || letter = 'f'
    let (given, paths) := match given, o.args with
      | [], pattern :: paths => ([('e', pattern)], paths)
      | given, paths => (given, paths)
    if given.isEmpty then misused c none
    else
    let kinds := (o.found.map (·.1)).filter "EFGP".toList.contains
    let count? (letter : Char) : Option (Option Nat) := (o.value? letter).map (·.toNat?)
    let contexts := [count? 'A', count? 'B', count? 'C']
    if let some (letter, value) := o.found.find? fun (letter, value) =>
        "ABC".toList.contains letter && value.toNat?.isNone then
      let _ := letter
      complain c s!"{value}: invalid context length argument"
      return 2
    if count? 'm' = some none then
      complain c "invalid max count"
      return 2
    if 1 < kinds.eraseDups.length then
      complain c "conflicting matchers specified"
      return 2
    let way : Notation := match kinds.getLast? with
      | some 'E' => .extended
      | some 'F' => .fixed
      | some 'P' => .perl
      | _ => .basic
    let texts ← givenPatterns c given
    match texts.mapM way.read with
    | .error message =>
      complain c message
      return 2
    | .ok patterns =>
      if way = .extended then
        texts.forM fun s => (idleSigns s.length true s).forM fun sign =>
          complain c s!"warning: {sign} at start of expression"
      let enters := o.has 'r' || o.has 'R'
      let paths := if !paths.isEmpty then paths else if enters then ["."] else ["-"]
      let v : View ← Program.files fun files directory => ⟨files, directory⟩
      let isMany := 1 < paths.length || (enters && paths.any v.isDirectory)
      let number (i : Nat) : Option Nat := ((contexts[i]?).getD none).bind id
      let query : Search :=
        { patterns
          foldsCase := (o.has 'i' || o.has 'y') && !o.has '\x01'
          extent := if o.has 'x' then .line else if o.has 'w' then .word else .anywhere }
      let last (a b : Char) : Option Char :=
        (o.found.reverse.find? fun f => f.1 = a || f.1 = b).map (·.1)
      let display : Display :=
        { query
          inverted := o.has 'v'
          counts := o.has 'c'
          lists := (last 'l' 'L').map (· = 'l')
          isQuiet := o.has 'q'
          onlyMatches := o.has 'o'
          names := match last 'h' 'H' with
            | some letter => letter = 'H'
            | none => isMany
          numbers := o.has 'n'
          offsets := o.has 'b'
          nullNames := o.has 'Z'
          after := (number 0 |>.or (number 2)).getD 0
          before := (number 1 |>.or (number 2)).getD 0
          hasContext := contexts.any fun n => (n.bind id).any (0 < ·)
          most := (count? 'm').bind id
          isText := o.has 'a' || o.value? '\x08' = some "text"
          mark := if o.has 'z' then '\x00' else '\n' }
      let m : Manner :=
        { display
          label := (o.value? '\x03').getD "(standard input)"
          complains := !o.has 's'
          enters
          follows := o.has 'R'
          included := o.values '\x04'
          excluded := o.values '\x05'
          excludedDirectories := o.values '\x06' }
      let expanded := if !enters then paths else paths.flatMap fun path =>
        if path ≠ "-" && v.isDirectory path then
          let found := filesBelow { m with excludedDirectories := [] } v maxDepth path
          let found := if m.excludedDirectories.isEmpty then found
            else filesBelow m v maxDepth path
          if o.args.length ≤ 1 && path = "." then found.map fun p => (p.drop 2).toString
          else found
        else [path]
      let r ← searchAll c m {} expanded
      return if r.isOver then 0 else if r.hasFailed then 2 else if r.hasFound then 0 else 1

/-- Looks for extended expressions. -/
def egrep : Tool := fun launch c => grep launch { c with name := "grep", args := "-E" :: c.args }

/-- Looks for plain texts. -/
def fgrep : Tool := fun launch c => grep launch { c with name := "grep", args := "-F" :: c.args }

end ReleasePreview.Tools
