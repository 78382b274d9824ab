import ReleasePreview.Decimal.Natural
import ReleasePreview.Text.Split
import Std.Data.HashMap

/-!
Tables from characters to lists of code points, written as text: `c0*17=e0+` says that seventeen
(hexadecimal) characters from U+00C0 on have the codes from U+00E0 on, `100*18*2=101+` that every
other character has a code of its own, and `bc=31,2044,34` that U+00BC has three codes.
-/
namespace ReleasePreview.Text

/-- A run of characters. A code with `true` goes up with the character. -/
structure CharacterRun where
  first : Nat
  count : Nat
  step : Nat
  codes : List (Nat × Bool)

def hexadecimal (s : List Char) : Nat := (Decimal.positional? 16 s).getD 0

def CharacterRun.code (s : List Char) : Nat × Bool :=
  (hexadecimal (s.filter (· ≠ '+')), s.contains '+')

def CharacterRun.ofText (s : List Char) : CharacterRun :=
  let head := (split '*' (s.takeWhile (· ≠ '='))).map hexadecimal
  let codes := (split ',' ((s.dropWhile (· ≠ '=')).drop 1)).map code
  ⟨head.headD 0, (head.drop 1).headD 1, (head.drop 2).headD 1, codes⟩

/-- The entries of a run, one for each of its characters. -/
def CharacterRun.entries (r : CharacterRun) : List (Nat × List Nat) :=
  (List.range r.count).map fun i =>
    let up := i * r.step
    (r.first + up, r.codes.map fun (code, rises) => if rises then code + up else code)

abbrev CharacterTable := Std.HashMap Nat (List Nat)

/-- The entries of a table in their order. Blanks and line ends stand between its runs. -/
def tableEntries (text : String) : List (Nat × List Nat) :=
  let runs := split ' ' (text.toList.map fun c => if c = '\n' then ' ' else c)
  (runs.filter (!·.isEmpty)).flatMap fun run => (CharacterRun.ofText run).entries

def CharacterTable.ofText (text : String) : CharacterTable :=
  (tableEntries text).foldl (fun table (c, codes) => table.insert c codes) ∅

end ReleasePreview.Text
