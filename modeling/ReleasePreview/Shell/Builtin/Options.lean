import ReleasePreview.Shell.State

/-! What builtins have in common: their options, and texts in quotes. -/
namespace ReleasePreview.Shell

/-- What a command of the shell itself does with its arguments. It gives its status. -/
abbrev Builtin := List String → Script Nat

namespace Builtin

/-- Divides options from the arguments behind them. A colon follows a letter whose option has a
value. The fuel is the length of the arguments. -/
def optionsFrom (letters : String) : (fuel : Nat) → (rest : List Char) → List String →
    Script (List (Char × String) × List String)
  | 0, _, args => return ([], args)
  | fuel + 1, [], args => do
    match args with
    | [] => return ([], [])
    | arg :: more =>
      match arg.toList with
      | '-' :: '-' :: [] => return ([], more)
      | '-' :: c :: rest => optionsFrom letters fuel (c :: rest) more
      | _ => return ([], args)
  | fuel + 1, c :: rest, args => do
    match letters.toList.dropWhile (· ≠ c) with
    | _ :: ':' :: _ =>
      match rest, args with
      | [], [] => Script.fail s!"No arg for -{c} option"
      | [], value :: args =>
        let (found, args) ← optionsFrom letters fuel [] args
        return ((c, value) :: found, args)
      | value, args =>
        let (found, args) ← optionsFrom letters fuel [] args
        return ((c, String.ofList value) :: found, args)
    | found =>
      if found.isEmpty || c = ':' then Script.fail s!"Illegal option -{c}"
      let (found, args) ← optionsFrom letters fuel rest args
      return ((c, "") :: found, args)

def options (letters : String) (args : List String) :
    Script (List (Char × String) × List String) :=
  optionsFrom letters ((args.map (·.length + 2)).foldl (· + ·) 1) [] args

/-- A text in quotes, as the shell itself could read it. The fuel is its length. -/
def quotedFrom : (fuel : Nat) → List Char → List Char
  | 0, _ => []
  | fuel + 1, s =>
    let plain := s.takeWhile (· ≠ '\'')
    let s := s.drop plain.length
    let quotes := s.takeWhile (· = '\'')
    let behind := if quotes.isEmpty then [] else '"' :: quotes ++ ['"']
    let rest := s.drop quotes.length
    '\'' :: plain ++ '\'' :: behind ++ (if rest.isEmpty then [] else quotedFrom fuel rest)

def quoted (s : String) : String := String.ofList (quotedFrom (s.length + 1) s.toList)

def sortedNames (names : List String) : List String := names.mergeSort fun a b => a ≤ b

/-- The name and the value of an assignment. -/
def assignment? (s : String) : Option (String × String) :=
  let name := s.toList.takeWhile (· ≠ '=')
  match s.toList.drop name.length with
  | _ :: value => some (String.ofList name, String.ofList value)
  | [] => none

end Builtin

end ReleasePreview.Shell
