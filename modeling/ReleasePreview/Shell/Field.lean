import ReleasePreview.Files.Access
import ReleasePreview.Text.Pattern
import ReleasePreview.Text.Utf8

/-!
Fields: what an expanded word falls into at separators, and the paths that stand for a field with
stars, question marks or sets in it.
-/
namespace ReleasePreview.Shell

open Text (PatternItem patternOf matchesPattern)

/-- A piece of an expanded word. -/
inductive Piece where
  /-- A character, with marks that it is quoted and that fields may be split at it. -/
  | char (c : Char) (quoted splits : Bool)
  /-- There is a field here even if it is empty. -/
  | mark
  /-- Between arguments. A hard border is one between fields even if they are empty. -/
  | border (hard : Bool)
deriving Repr, DecidableEq

/-- Characters with marks that they are quoted. -/
abbrev MarkedText := List (Char × Bool)

namespace MarkedText

def plain (s : MarkedText) : String := String.ofList (s.map (·.1))

/-- Some character stands for others. -/
def hasWildcard (s : MarkedText) : Bool :=
  s.any fun (c, quoted) => !quoted && "*?[".toList.contains c

def pattern (s : MarkedText) : List PatternItem := patternOf (s.length + 1) s

end MarkedText

namespace Piece

def ofChars (s : List Char) (quoted splits : Bool) : List Piece :=
  s.map fun c => .char c quoted splits

/-- The characters of pieces that are not split. -/
def joined (pieces : List Piece) : MarkedText :=
  pieces.filterMap fun
    | char c quoted _ => some (c, quoted)
    | mark => none
    | border _ => some (' ', true)

def isBlank (c : Char) : Bool := c = ' ' || c = '\t' || c = '\n'

/-- A field on its way, backwards, and whether there is one although it is empty. -/
structure Open where
  text : MarkedText := []
  isThere : Bool := false

/-- The field, if there is one. -/
def Open.close (o : Open) : List MarkedText :=
  if o.isThere || !o.text.isEmpty then [o.text.reverse] else []

/-- The fields of pieces. Blanks count once, other separators each; behind a blank another separator
still belongs to it, as `joins` says. -/
def split (separators : List Char) : Open → (joins : Bool) → List Piece → List MarkedText
  | o, _, [] => o.close
  | o, joins, p :: ps =>
    match p with
    | mark => split separators { o with isThere := true } false ps
    | border true => o.text.reverse :: split separators ⟨[], true⟩ false ps
    | border false => o.close ++ split separators {} false ps
    | char c quoted splits =>
      if !splits || !separators.contains c then
        split separators { o with text := (c, quoted) :: o.text } false ps
      else if isBlank c then
        let found := o.close
        found ++ split separators {} (joins || !found.isEmpty) ps
      else if joins && o.close.isEmpty then split separators {} false ps
      else o.text.reverse :: split separators {} false ps

end Piece

/-- Cuts a pattern for paths at its slashes. -/
def pathParts : MarkedText → List MarkedText
  | [] => [[]]
  | (c, quoted) :: s =>
    match pathParts s with
    | [] => [[]]
    | part :: parts =>
      if c = '/' then [] :: part :: parts else ((c, quoted) :: part) :: parts

/-- The names in a directory that match a part of a pattern. Those with a dot in front do only if
the pattern has it too. -/
def matchingNames (t : FileTree) (directory : Place) (path : String) (part : MarkedText) :
    List String :=
  let path := Text.Octets.readable (if path.isEmpty then "." else path)
  match t.list directory path with
  | .error _ => []
  | .ok entries =>
    let pattern := part.pattern
    let names := (entries.map fun e => Text.Octets.ofText e.1) ++ [".", ".."]
    names.filter fun name =>
      (name.toList.head? ≠ some '.' || (part.head?.map (·.1)) = some '.') &&
        matchesPattern pattern name.toList

/-- The paths that the parts of a pattern stand for behind a path. -/
def matchingPaths (t : FileTree) (directory : Place) (path : String) :
    List MarkedText → List String
  | [] => []
  | [part] =>
    if part.hasWildcard then (matchingNames t directory path part).map (path ++ ·)
    else
      let whole := path ++ part.plain
      let isThere :=
        match t.resolve directory (Text.Octets.readable whole) part.isEmpty with
        | .ok p => (t.node? p).isSome
        | .error _ => false
      if isThere then [whole] else []
  | part :: parts =>
    if part.hasWildcard then
      (matchingNames t directory path part).flatMap fun name =>
        if t.isDirectory directory (Text.Octets.readable (path ++ name)) then
          matchingPaths t directory (path ++ name ++ "/") parts
        else []
    else matchingPaths t directory (path ++ part.plain ++ "/") parts

/-- What a field stands for: the paths that match it, or its text. -/
def MarkedText.paths (t : FileTree) (directory : Place) (field : MarkedText) : List String :=
  if !field.hasWildcard then [field.plain]
  else
    match matchingPaths t directory "" (pathParts field) with
    | [] => [field.plain]
    | found => found.mergeSort fun a b => a ≤ b

end ReleasePreview.Shell
