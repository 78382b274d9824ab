import ReleasePreview.Text.Pattern

/-! Regular expressions, and where they match. Places in a text are counted from zero. -/
namespace ReleasePreview.Regex

/-- What holds at a place without a character. -/
inductive Edge where
  | start
  | stop
  /-- The start of the text, and of each line of it if lines count. -/
  | lineStart
  | lineStop
  | wordStart
  | wordStop
  | word
  | noWord
deriving Repr, DecidableEq

inductive Expression where
  | empty
  | char (c : Char)
  | any
  | set (negated : Bool) (items : List Text.SetItem)
  | edge (e : Edge)
  | sequence (a b : Expression)
  | choice (a b : Expression)
  | group (number : Nat) (a : Expression)
  | repeated (a : Expression) (least : Nat) (most : Option Nat)
  /-- The text of a group again. -/
  | reference (number : Nat)
deriving Repr, DecidableEq

/-- A text in which matches are looked for. -/
structure Subject where
  text : Array Char
  foldsCase : Bool := false
  /-- Lines begin and end within the text. -/
  hasLines : Bool := false

namespace Subject

def size (t : Subject) : Nat := t.text.size

def isWord (c : Char) : Bool := c.isAlphanum || c = '_'

def holds (t : Subject) (i : Nat) : Edge → Bool :=
  let before := 0 < i && (t.text[i - 1]?).any isWord
  let after := (t.text[i]?).any isWord
  fun
    | .start => i = 0
    | .stop => i = t.size
    | .lineStart => i = 0 || (t.hasLines && t.text[i - 1]? = some '\n')
    | .lineStop => i = t.size || (t.hasLines && t.text[i]? = some '\n')
    | .wordStart => !before && after
    | .wordStop => before && !after
    | .word => before != after
    | .noWord => before == after

def same (t : Subject) (c d : Char) : Bool :=
  c = d || (t.foldsCase && c.toLower = d.toLower)

end Subject

namespace Expression

/-- A single character that matches; `none` for what is no single character. -/
def single? (t : Subject) : Expression → Option (Char → Bool)
  | char c => some (t.same c)
  | any => some fun _ => true
  | set negated items =>
    some fun c =>
      let isIn (c : Char) : Bool := items.any fun i => i.contains c
      (if t.foldsCase then isIn c.toLower || isIn c.toUpper else isIn c) != negated
  | _ => none

/-- The places in either of two lists in order. The fuel is the length of both. -/
def merge : (fuel : Nat) → List Nat → List Nat → List Nat
  | 0, _, _ => []
  | _, [], s => s
  | _, s, [] => s
  | fuel + 1, i :: s, j :: r =>
    if i < j then i :: merge fuel s (j :: r)
    else if j < i then j :: merge fuel (i :: s) r
    else i :: merge fuel s r

def union (s r : List Nat) : List Nat := merge (s.length + r.length + 1) s r

/-- The places behind any number of matching characters. -/
def run (t : Subject) (p : Char → Bool) : (fuel : Nat) → Nat → List Nat
  | 0, i => [i]
  | fuel + 1, i => if (t.text[i]?).any p then i :: run t p fuel (i + 1) else [i]

/-- The places behind any number of matching characters from some places on. -/
def runs (t : Subject) (p : Char → Bool) : (reached : Option Nat) → List Nat → List Nat
  | _, [] => []
  | reached, i :: s =>
    if reached.any (i ≤ ·) then runs t p reached s
    else
      let found := run t p (t.size - i) i
      found ++ runs t p found.getLast? s

/-- The places that a step leads to, again and again. -/
def closure (step : List Nat → List Nat) : (fuel : Nat) → (all new : List Nat) → List Nat
  | 0, all, _ => all
  | _, all, [] => all
  | fuel + 1, all, new =>
    let next := (step new).filter fun i => !all.contains i
    closure step fuel (union all next) next

def times (step : List Nat → List Nat) : Nat → List Nat → List Nat
  | 0, s => s
  | n + 1, s => times step n (step s)

/-- The places behind up to so many steps. -/
def upTo (step : List Nat → List Nat) : Nat → List Nat → List Nat
  | 0, s => s
  | n + 1, s => union s (upTo step n (step s))

/-- The places where matches end that begin at some places, both in order. A reference is taken for
any text. -/
def ends (t : Subject) : Expression → List Nat → List Nat
  | empty, s => s
  | char c, s => (s.filter fun i => (t.text[i]?).any (t.same c)).map (· + 1)
  | any, s => (s.filter (· < t.size)).map (· + 1)
  | set negated items, s =>
    match single? t (.set negated items) with
    | some p => (s.filter fun i => (t.text[i]?).any p).map (· + 1)
    | none => []
  | edge e, s => s.filter fun i => t.holds i e
  | sequence a b, s => ends t b (ends t a s)
  | choice a b, s => union (ends t a s) (ends t b s)
  | group _ a, s => ends t a s
  | reference _, s =>
    match s with
    | [] => []
    | i :: _ => (List.range (t.size + 1 - i)).map (i + ·)
  | repeated a least most, s =>
    let s := times (ends t a) least s
    match most, single? t a with
    | none, some p => runs t p none s
    | none, none => closure (ends t a) (t.size + 2) s s
    | some most, _ => upTo (ends t a) (most - least) s

/-- The groups that have matched, by their numbers. -/
abbrev Groups := List (Nat × Nat × Nat)

/-- Goes over matches of a part again and again, the longest way first. The fuel bounds the
rounds. -/
def rounds (part : Nat → Groups → (Nat → Groups → Option Groups) → Option Groups)
    (next : Nat → Groups → Option Groups) : (fuel least : Nat) → (most : Option Nat) →
    Nat → Groups → Option Groups
  | 0, _, _, i, gs => next i gs
  | fuel + 1, least, most, i, gs =>
    let again : Option Groups :=
      if most = some 0 then none
      else part i gs fun j gs =>
        if j = i && least = 0 then none
        else rounds part next fuel (least - 1) (most.map (· - 1)) j gs
    match again with
    | some gs => some gs
    | none => if least = 0 then next i gs else none

/-- The text of a group stands at a place. -/
def follows (t : Subject) (gs : Groups) (number i : Nat) : Option Nat := do
  let (start, stop) ← gs.lookup number
  let same := (List.range (stop - start)).all fun k =>
    match t.text[start + k]?, t.text[i + k]? with
    | some c, some d => t.same c d
    | _, _ => false
  if same then some (i + (stop - start)) else none

/-- The groups of the first match from a place on whose end suits what comes next. -/
def capture (t : Subject) : Expression → Nat → Groups → (Nat → Groups → Option Groups) →
    Option Groups
  | empty, i, gs, next => next i gs
  | char c, i, gs, next => if (t.text[i]?).any (t.same c) then next (i + 1) gs else none
  | any, i, gs, next => if i < t.size then next (i + 1) gs else none
  | set negated items, i, gs, next =>
    match single? t (.set negated items) with
    | some p => if (t.text[i]?).any p then next (i + 1) gs else none
    | none => none
  | edge e, i, gs, next => if t.holds i e then next i gs else none
  | sequence a b, i, gs, next => capture t a i gs fun j gs => capture t b j gs next
  | choice a b, i, gs, next =>
    match capture t a i gs next with
    | some gs => some gs
    | none => capture t b i gs next
  | group n a, i, gs, next =>
    capture t a i gs fun j gs => next j ((n, i, j) :: gs.filter (·.1 ≠ n))
  | reference n, i, gs, next =>
    match follows t gs n i with
    | some j => next j gs
    | none => none
  | repeated a least most, i, gs, next =>
    rounds (capture t a) next (t.size - i + least + 1) least most i gs

def hasReference : Expression → Bool
  | reference _ => true
  | sequence a b => a.hasReference || b.hasReference
  | choice a b => a.hasReference || b.hasReference
  | group _ a => a.hasReference
  | repeated a _ _ => a.hasReference
  | _ => false

/-- The character that every match begins with, if there is one. -/
def first? : Expression → Option Char
  | char c => some c
  | sequence a _ => a.first?
  | group _ a => a.first?
  | _ => none

end Expression

/-- A match: where it begins and ends, and its groups. -/
structure Match where
  start : Nat
  stop : Nat
  groups : Expression.Groups := []

namespace Expression

/-- The longest match that begins at a place. -/
def matchAt? (e : Expression) (t : Subject) (groups : Bool) (i : Nat) : Option Match :=
  match (e.ends t [i]).getLast? with
  | none => none
  | some last =>
    if e.hasReference then
      let stops := (e.ends t [i]).reverse
      stops.findSome? fun stop =>
        (e.capture t i [] fun j gs => if j = stop then some gs else none).map (⟨i, stop, ·⟩)
    else if groups then
      let gs := e.capture t i [] fun j gs => if j = last then some gs else none
      some ⟨i, last, gs.getD []⟩
    else some ⟨i, last, []⟩

/-- The first match from a place on. The fuel is the length of the text. -/
def searchFrom (e : Expression) (t : Subject) (groups : Bool) : (fuel : Nat) → Nat → Option Match
  | 0, _ => none
  | fuel + 1, i =>
    let begins := match e.first? with
      | some c => (t.text[i]?).any (t.same c)
      | none => true
    match if begins then e.matchAt? t groups i else none with
    | some m => some m
    | none => if i < t.size then searchFrom e t groups fuel (i + 1) else none

def search? (e : Expression) (t : Subject) (groups : Bool) (i : Nat) : Option Match :=
  e.searchFrom t groups (t.size + 1 - i) i

end Expression

/-- The text of a group in a match; group zero is all of it. -/
def Match.group (m : Match) (t : Subject) (n : Nat) : List Char :=
  let (start, stop) := if n = 0 then (m.start, m.stop) else (m.groups.lookup n).getD (0, 0)
  (t.text.extract start stop).toList

end ReleasePreview.Regex
