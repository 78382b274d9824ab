/-!
Patterns of names: stars, question marks and sets of characters. Regular expressions have the same
sets.
-/
namespace ReleasePreview.Text

/-- The classes of characters that have a name. -/
def characterClass? (name : String) : Option (Char → Bool) :=
  let isPunctuation (c : Char) := '!' ≤ c && c ≤ '~' && !c.isAlphanum
  match name with
  | "alpha" => some Char.isAlpha
  | "digit" => some Char.isDigit
  | "alnum" => some Char.isAlphanum
  | "upper" => some Char.isUpper
  | "lower" => some Char.isLower
  | "space" => some fun c => " \t\n\x0b\x0c\r".toList.contains c
  | "blank" => some fun c => c = ' ' || c = '\t'
  | "punct" => some isPunctuation
  | "xdigit" => some fun c => "0123456789abcdefABCDEF".toList.contains c
  | "cntrl" => some fun c => c < ' ' || c = '\x7f'
  | "print" => some fun c => ' ' ≤ c && c ≤ '~'
  | "graph" => some fun c => '!' ≤ c && c ≤ '~'
  | _ => none

/-- A member of a set of characters. -/
inductive SetItem where
  | range (low high : Char)
  | named (name : String)
deriving Repr, DecidableEq

def SetItem.contains (c : Char) : SetItem → Bool
  | range low high => low ≤ c && c ≤ high
  | named name => (characterClass? name).any (· c)

/-- The name of a class that stands in front, in brackets with colons, and what follows it. -/
def className? (s : List Char) : Option (String × List Char) :=
  match s with
  | '[' :: ':' :: s =>
    let name := s.takeWhile (· ≠ ':')
    match s.drop name.length with
    | ':' :: ']' :: rest => some (String.ofList name, rest)
    | _ => none
  | _ => none

/-- An element of a pattern. -/
inductive PatternItem where
  | star
  | anyChar
  | char (c : Char)
  | set (negated : Bool) (items : List SetItem)
deriving Repr, DecidableEq

/-- The members of a set up to its bracket, and what follows; `none` if it has no end. A bracket is
a member if it is the first one. Characters are given with a mark that they are quoted. The fuel is
their number. -/
def setItems (isFirst : Bool) : (fuel : Nat) → List (Char × Bool) →
    Option (List SetItem × List (Char × Bool))
  | 0, _ => none
  | _, [] => none
  | fuel + 1, (c, quoted) :: s =>
    if c = ']' && !quoted && !isFirst then some ([], s)
    else
      match (if quoted then none else className? (((c, quoted) :: s).map (·.1))) with
      | some (name, rest) => do
        let (items, s) ← setItems false fuel (s.drop (s.length - rest.length))
        return (.named name :: items, s)
      | none =>
        match s with
        | ('-', false) :: (d, quoted) :: s' =>
          if d = ']' && !quoted then do
            let (items, s) ← setItems false fuel s
            return (.range c c :: items, s)
          else do
            let (items, s) ← setItems false fuel s'
            return (.range c d :: items, s)
        | s => do
          let (items, s) ← setItems false fuel s
          return (.range c c :: items, s)

/-- The pattern of characters, each with a mark that it is quoted. The fuel is their number. -/
def patternOf : (fuel : Nat) → List (Char × Bool) → List PatternItem
  | 0, _ => []
  | _, [] => []
  | fuel + 1, (c, quoted) :: s =>
    if quoted then .char c :: patternOf fuel s
    else if c = '*' then .star :: patternOf fuel s
    else if c = '?' then .anyChar :: patternOf fuel s
    else if c = '[' then
      let (negated, inner) :=
        match s with
        | ('!', false) :: rest => (true, rest)
        | _ => (false, s)
      match setItems true (inner.length + 1) inner with
      | some (items, rest) => .set negated items :: patternOf fuel rest
      | none => .char c :: patternOf fuel s
    else .char c :: patternOf fuel s

def PatternItem.matchesChar (c : Char) : PatternItem → Bool
  | star => false
  | anyChar => true
  | char d => c = d
  | set negated items => (items.any fun item => item.contains c) != negated

/-- The whole of a text matches a pattern. -/
def matchesPattern : List PatternItem → List Char → Bool
  | [], s => s.isEmpty
  | [.star], _ => true
  | .star :: ps, s => (List.range (s.length + 1)).any fun n => matchesPattern ps (s.drop n)
  | _ :: _, [] => false
  | p :: ps, c :: s => p.matchesChar c && matchesPattern ps s

/-- The shortest or longest beginning that matches, taken away. -/
def withoutFront (longest : Bool) (p : List PatternItem) (s : List Char) : List Char :=
  let lengths := List.range (s.length + 1)
  let lengths := if longest then lengths.reverse else lengths
  match lengths.find? fun n => matchesPattern p (s.take n) with
  | some n => s.drop n
  | none => s

/-- The shortest or longest end that matches, taken away. -/
def withoutBack (longest : Bool) (p : List PatternItem) (s : List Char) : List Char :=
  let lengths := List.range (s.length + 1)
  let lengths := if longest then lengths else lengths.reverse
  match lengths.find? fun n => matchesPattern p (s.drop n) with
  | some n => s.take n
  | none => s

/-- The characters of a pattern, each with a mark that it stands behind a backslash. -/
def marked : List Char → List (Char × Bool)
  | '\\' :: c :: s => (c, true) :: marked s
  | c :: s => (c, false) :: marked s
  | [] => []

/-- A text matches a pattern in which backslashes quote. -/
def nameMatches (pattern text : String) : Bool :=
  let p := marked pattern.toList
  matchesPattern (patternOf (p.length + 1) p) text.toList

end ReleasePreview.Text
