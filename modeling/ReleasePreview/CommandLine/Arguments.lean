/-!
Arguments of a command line: options with a value, and words. They are read from left to right, and
the first one that ends the reading decides.
-/
namespace ReleasePreview.CommandLine

/-- Why there is nothing to be run. -/
inductive Stop where
  /-- The arguments are not understood. -/
  | misuse
  | help
  | version
deriving Repr, DecidableEq

/-- What a level of a command line takes. -/
structure Form where
  options : List String
  /-- The values that an option takes. -/
  accepts : String → String → Bool := fun _ _ => true
  maxWords : Nat := 0
  acceptsWord : String → Bool := fun _ => true
  hasVersion : Bool := false
  /-- The first word begins another level. -/
  endsAtWord : Bool := false

/-- What has been given at a level. -/
structure Given where
  options : List (String × String) := []
  words : List String := []
deriving Repr, DecidableEq

namespace Given

def option? (g : Given) (name : String) : Option String := g.options.lookup name

/-- Adds an option, which may not be given twice. -/
def addOption (form : Form) (g : Given) (name value : String) : Except Stop Given :=
  if (g.option? name).isSome || !form.accepts name value then .error .misuse
  else .ok { g with options := (name, value) :: g.options }

/-- Adds words, up to the number that is taken. -/
def addWords (form : Form) (g : Given) (words : List String) : Except Stop Given :=
  if g.words.length + words.length ≤ form.maxWords && words.all form.acceptsWord then
    .ok { g with words := g.words ++ words }
  else .error .misuse

end Given

/-- Divides a long option at its equals sign. -/
def divided (s : List Char) : String × Option String :=
  let name := s.takeWhile (· ≠ '=')
  match s.drop name.length with
  | _ :: value => (String.ofList name, some (String.ofList value))
  | [] => (String.ofList name, none)

/-- An argument that begins with a dash is no value and no word, unless it is a dash alone. -/
def isDashed (arg : String) : Bool := arg.toList.head? = some '-' && arg ≠ "-"

/-- Reads the arguments of a level. Behind two dashes there are only words. The rest is what another
level begins with. -/
def readLevel (form : Form) (g : Given) : List String → Except Stop (Given × List String)
  | [] => .ok (g, [])
  | arg :: args =>
    match arg.toList with
    | ['-', '-'] =>
      if form.endsAtWord then .error .misuse
      else do return (← g.addWords form args, [])
    | '-' :: '-' :: long =>
      match divided long, args with
      | ("help", none), _ => .error .help
      | ("version", none), _ => .error (if form.hasVersion then .version else .misuse)
      | (name, some value), args =>
        if !form.options.contains name then .error .misuse
        else do readLevel form (← g.addOption form name value) args
      | (name, none), value :: args =>
        if !form.options.contains name || isDashed value then .error .misuse
        else do readLevel form (← g.addOption form name value) args
      | (_, none), [] => .error .misuse
    | '-' :: 'h' :: _ => .error .help
    | '-' :: 'V' :: _ => .error (if form.hasVersion then .version else .misuse)
    | '-' :: _ :: _ => .error .misuse
    | _ =>
      if form.endsAtWord then .ok (g, arg :: args)
      else do readLevel form (← g.addWords form [arg]) args

end ReleasePreview.CommandLine
