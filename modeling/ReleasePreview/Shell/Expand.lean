import ReleasePreview.Shell.Arithmetic
import ReleasePreview.Shell.Field
import ReleasePreview.Shell.State

/-! Expansion of words: parameters, commands in their place, arithmetic, fields and paths. -/
namespace ReleasePreview.Shell

/-- The home of a user by name, or of the user at work. -/
def State.home? (s : State) (name : String) : Option String :=
  if name.isEmpty then s.value? "HOME"
  else if name = "root" then some "/root"
  else none

/-- The characters of a text with homes for tildes: at its start, and behind equal signs and colons
as far as these are asked for. `closed` says that the text is all there is of the word. The fuel
is the length of the text. -/
def tildeParts (s : State) (closed colons equals : Bool) :
    (fuel : Nat) → (atStart : Bool) → List Char → Word
  | 0, _, _ => []
  | _, _, [] => []
  | fuel + 1, atStart, c :: rest =>
    let usual (next equals : Bool) : Word :=
      match tildeParts s closed colons equals fuel next rest with
      | .text more false :: parts => .text (c :: more) false :: parts
      | parts => .text [c] false :: parts
    if atStart && c = '~' then
      let name := rest.takeWhile fun d => d ≠ '/' && !(colons && d = ':')
      let behind := rest.drop name.length
      match (if behind.isEmpty && !closed then none else s.home? (String.ofList name)) with
      | some home =>
        .text home.toList true ::
          tildeParts s closed colons equals (fuel - name.length) false behind
      | none => usual false equals
    else if c = ':' && colons then usual true equals
    else if c = '=' && equals then usual true false
    else usual false equals

/-- Where tildes stand for homes. -/
inductive TildePlaces where
  | start
  /-- At the start and behind colons. -/
  | assigned
  /-- Behind the first equal sign and colons. -/
  | assigning
deriving DecidableEq

mutual

/-- Parts of a word with homes for tildes. -/
def homesInParts (s : State) (colons equals atStart : Bool) : List Part → List Part
  | [] => []
  | .text text false :: parts =>
    if text.contains '~' then
      tildeParts s parts.isEmpty colons equals (text.length + 1) atStart text ++
        homesInParts s colons equals false parts
    else .text text false :: homesInParts s colons equals false parts
  | .parameter name form quoted :: parts =>
    .parameter name (homesInForm s colons form) quoted :: homesInParts s colons equals false parts
  | part :: parts => part :: homesInParts s colons equals false parts

/-- Homes for tildes in the words between braces, each of which has a start of its own. -/
def homesInForm (s : State) (colons : Bool) : Form → Form
  | .default orEmpty word => .default orEmpty (homesInParts s colons false true word)
  | .assign orEmpty word => .assign orEmpty (homesInParts s colons false true word)
  | .alternative orEmpty word => .alternative orEmpty (homesInParts s colons false true word)
  | .required orEmpty word => .required orEmpty (homesInParts s colons false true word)
  | .withoutFront longest pattern =>
    .withoutFront longest (homesInParts s false false true pattern)
  | .withoutBack longest pattern => .withoutBack longest (homesInParts s false false true pattern)
  | form => form

end

/-- A word with homes for tildes. -/
def withHomes (s : State) (places : TildePlaces) (w : Word) : Word :=
  homesInParts s (places ≠ .start) (places = .assigning) (places ≠ .assigning) w

/-- The value of a parameter, in pieces; `none` if it has none. `splits` says that fields are
wanted. -/
def State.pieces? (s : State) (name : String) (splits quoted : Bool) : Option (List Piece) :=
  let usual (value : String) := Piece.ofChars value.toList quoted (splits && !quoted)
  let arguments (hard : Bool) : List Piece :=
    (List.intersperse [Piece.border hard] (s.args.map usual)).flatten
  match name with
  | "@" =>
    if splits && quoted then some (if s.args.isEmpty then [] else .mark :: arguments true)
    else if splits then some (arguments false)
    else some (usual s.joined)
  | "*" => if splits && !quoted then some (arguments false) else some (usual s.joined)
  | "#" => some (usual (toString s.args.length))
  | "?" => some (usual (toString s.status))
  | "$" => some (usual (toString s.number))
  | "!" => s.lastJob.map fun number => usual (toString number)
  | "-" => some (usual (String.ofList s.options))
  | "0" => some (usual s.script)
  | name =>
    match name.toNat? with
    | some i => s.args[i - 1]?.map usual
    | none => (s.value? name).map usual

namespace Piece

/-- The characters that patterns see. -/
def visible (pieces : List Piece) : List Char :=
  pieces.filterMap fun
    | char c _ _ => some c
    | mark => none
    | border _ => some '\x00'

/-- Pieces without a front that matches. Only the first field is looked at. If the longest front is
all of it, no field is left. -/
def withoutFront (longest : Bool) (p : List Text.PatternItem) (pieces : List Piece) : List Piece :=
  let marks := pieces.filter (· = mark)
  let rest := pieces.filter (· ≠ mark)
  let first := (visible rest).takeWhile (· ≠ '\x00')
  if longest && Text.matchesPattern p first then marks
  else marks ++ rest.drop (first.length - (Text.withoutFront longest p first).length)

/-- Pieces without a back that matches. What stands behind its field is taken away with it. The
longest back is looked for in the first field alone. -/
def withoutBack (longest : Bool) (p : List Text.PatternItem) (pieces : List Piece) : List Piece :=
  let marks := pieces.filter (· = mark)
  let rest := pieces.filter (· ≠ mark)
  let shown := visible rest
  let first := shown.takeWhile (· ≠ '\x00')
  let lengths := List.range ((if longest then first else shown).length + 1)
  let fits (n : Nat) : Bool :=
    Text.matchesPattern p ((shown.drop n).takeWhile (· ≠ '\x00'))
  match (if longest then lengths else lengths.reverse).find? fits with
  | some n => marks ++ rest.take n
  | none => pieces

end Piece

namespace Script

/-- How a command in a word is run. It gives what the command writes. -/
abbrev Substitution := Command → Script String

def unsetMessage : String := "parameter not set"

/-- The value of a parameter that should have one. -/
def required (name : String) (value : Option (List Piece)) : Script (List Piece) := do
  match value with
  | some pieces => return pieces
  | none =>
    if ← hasOption 'u' then fail s!"{name}: {unsetMessage}"
    return []

/-- Evaluates an arithmetic expression. -/
def calculate (text : String) : Script Int := do
  match Arithmetic.evaluate (← get).value? text with
  | .error e => fail (e.message text)
  | .ok (n, given) =>
    given.reverse.forM fun (name, n) => assign name (toString n)
    return n

mutual

/-- The pieces of a part of a word. `inForm` says that the part stands between braces. -/
def expandPart (run : Substitution) (splits inForm : Bool) : Part → Script (List Piece)
  | .text s quoted =>
    return if s.isEmpty && quoted then [.mark] else Piece.ofChars s quoted (inForm && !quoted)
  | .parameter name form quoted => expandForm run splits name quoted form
  | .command body quoted => do
    return Piece.ofChars (← run body).toList quoted !quoted
  | .arithmetic body quoted => do
    let text := (Piece.joined (← expandParts run false false body)).plain
    return Piece.ofChars (toString (← calculate text)).toList quoted !quoted

/-- What is made of the value of a parameter. -/
def expandForm (run : Substitution) (splits : Bool) (name : String) (quoted : Bool) :
    Form → Script (List Piece)
  | .plain => do required name ((← get).pieces? name splits quoted)
  | .length => do
    let pieces ← required name ((← get).pieces? name false true)
    return Piece.ofChars (toString pieces.length).toList quoted !quoted
  | .default orEmpty word => do
    let value := (← get).pieces? name splits quoted
    match value.filter fun v => !(orEmpty && (Piece.visible v).isEmpty) with
    | some pieces => return pieces
    | none => expandParts run splits true word
  | .assign orEmpty word => do
    let value := (← get).pieces? name splits quoted
    match value.filter fun v => !(orEmpty && (Piece.visible v).isEmpty) with
    | some pieces => return pieces
    | none =>
      let text := (Piece.joined (← expandParts run false true word)).plain
      assign name text
      return Piece.ofChars text.toList quoted !quoted
  | .alternative orEmpty word => do
    let value := (← get).pieces? name splits quoted
    match value.filter fun v => !(orEmpty && (Piece.visible v).isEmpty) with
    | some _ => expandParts run splits true word
    | none => return []
  | .required orEmpty word => do
    let value := (← get).pieces? name splits quoted
    match value.filter fun v => !(orEmpty && (Piece.visible v).isEmpty) with
    | some pieces => return pieces
    | none =>
      let text := (Piece.joined (← expandParts run false true word)).plain
      let usual := if orEmpty then unsetMessage ++ " or null" else unsetMessage
      fail s!"{name}: {if word.isEmpty then usual else text}"
  | .withoutFront longest pattern => do
    let pieces ← required name ((← get).pieces? name splits quoted)
    let pattern := MarkedText.pattern (Piece.joined (← expandParts run false false pattern))
    return Piece.withoutFront longest pattern pieces
  | .withoutBack longest pattern => do
    let pieces ← required name ((← get).pieces? name splits quoted)
    let pattern := MarkedText.pattern (Piece.joined (← expandParts run false false pattern))
    return Piece.withoutBack longest pattern pieces
  | .malformed => fail "Bad substitution"

def expandParts (run : Substitution) (splits inForm : Bool) : List Part → Script (List Piece)
  | [] => return []
  | part :: parts => do
    let pieces ← expandPart run splits inForm part
    return pieces ++ (← expandParts run splits inForm parts)

end

/-- The text of a word that is not split, with marks for what is quoted. -/
def expandMarked (run : Substitution) (places : TildePlaces) (w : Word) : Script MarkedText := do
  return Piece.joined (← expandParts run false false (withHomes (← get) places w))

def expandText (run : Substitution) (places : TildePlaces) (w : Word) : Script String := do
  return (← expandMarked run places w).plain

/-- The text of lines in a script. -/
def expandDocument (run : Substitution) (w : Word) : Script String := do
  let w := homesInParts (← get) false false false w
  return (Piece.joined (← expandParts run false false w)).plain

/-- The fields of a word, with paths for patterns. -/
def expandFields (run : Substitution) (w : Word) : Script (List String) := do
  let pieces ← expandParts run true false (withHomes (← get) .start w)
  let fields := Piece.split (← get).separators {} false pieces
  if (← hasOption 'f') || !fields.any (·.hasWildcard) then return fields.map (·.plain)
  perform (Program.files fun t directory => fields.flatMap fun f => f.paths t directory)

end Script

end ReleasePreview.Shell
