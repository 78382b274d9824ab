import ReleasePreview.Process.World

/-! Commands of a shell script, and the words in them, cut into parts that are expanded. -/
namespace ReleasePreview.Shell

mutual

/-- What is made of the value of a parameter. With `orEmpty` an empty one counts as unset. -/
inductive Form where
  | plain
  | length
  /-- Another word where the parameter is unset. -/
  | default (orEmpty : Bool) (word : List Part)
  /-- As `default`, and the parameter is set to it. -/
  | assign (orEmpty : Bool) (word : List Part)
  /-- Another word where the parameter is set. -/
  | alternative (orEmpty : Bool) (word : List Part)
  /-- Ends the shell where the parameter is unset; the word says why. -/
  | required (orEmpty : Bool) (word : List Part)
  /-- Without the part in front that a pattern matches. -/
  | withoutFront (longest : Bool) (pattern : List Part)
  /-- Without the part at the end that a pattern matches. -/
  | withoutBack (longest : Bool) (pattern : List Part)
  /-- None of these. -/
  | malformed

/-- A part of a word. Quoted parts are not split into fields. -/
inductive Part where
  | text (s : List Char) (quoted : Bool)
  | parameter (name : String) (form : Form) (quoted : Bool)
  | command (body : Command) (quoted : Bool)
  | arithmetic (body : List Part) (quoted : Bool)

/-- What a descriptor is connected to. -/
inductive Redirect where
  | file (descriptor : Nat) (mode : World.Mode) (path : List Part)
  /-- What another descriptor stands for, or nothing. -/
  | duplicate (descriptor : Nat) (source : List Part)
  /-- Lines of the script, by their number among all such texts. -/
  | document (descriptor : Nat) (index : Nat)

inductive Command where
  /-- Assignments and words, on a line of the script. -/
  | simple (line : Nat) (assignments : List (String × List Part)) (words : List (List Part))
      (redirects : List Redirect)
  | pipeline (stages : List Command) (inBackground : Bool)
  | negation (body : Command)
  /-- The second command runs if the first one succeeds. -/
  | conjunction (a b : Command)
  /-- The second command runs if the first one fails. -/
  | disjunction (a b : Command)
  | sequence (commands : List Command)
  | conditional (test yes no : Command)
  | loop (untilTrue : Bool) (test body : Command)
  /-- Runs a command for every field of some words, or for every argument. -/
  | each (line : Nat) (name : String) (words : Option (List (List Part))) (body : Command)
  /-- Runs the command of the first pattern that matches. -/
  | select (line : Nat) (subject : List Part) (arms : List (List (List Part) × Command))
  | subshell (body : Command)
  /-- Runs beside what follows it. -/
  | background (body : Command)
  | redirected (line : Nat) (body : Command) (redirects : List Redirect)
  | define (line : Nat) (name : String) (body : Command)

end

abbrev Word := List Part

instance : Inhabited Command := ⟨.sequence []⟩

def isNameStart (c : Char) : Bool := c.isAlpha || c = '_'

def isNameChar (c : Char) : Bool := c.isAlphanum || c = '_'

def isName (s : String) : Bool :=
  s.toList.head?.any isNameStart && s.toList.all isNameChar

/-- Parameters named by a single character. -/
def isSpecial (c : Char) : Bool := c.isDigit || "@*#?$!-".toList.contains c

/-- The text of a word that has no quotes and nothing to expand. -/
def plainText? : Word → Option String
  | [.text s false] => some (String.ofList s)
  | _ => none

/-- The text of a word without its quotes. -/
def unquoted (w : Word) : String :=
  String.ofList (w.flatMap fun
    | .text s _ => s
    | _ => [])

end ReleasePreview.Shell
