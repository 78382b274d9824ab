import ReleasePreview.Regex.Parse

/-! What an editor of lines is told: which lines a command is for, and what it does with them. -/
namespace ReleasePreview.StreamEditor

/-- An expression with the number of its groups. -/
structure Pattern where
  expression : Regex.Expression
  groups : Nat
  foldsCase : Bool := false
  hasLines : Bool := false
deriving Repr

/-- Lines that a command is for. A matching line without a pattern is for the one used last. -/
inductive Address where
  | line (number : Nat)
  /-- Every so many lines from a first one on. -/
  | every (first step : Nat)
  | last
  | matching (pattern : Option Pattern)
deriving Repr

/-- Where a range ends. -/
inductive RangeEnd where
  | at (a : Address)
  | after (count : Nat)
  | multiple (of : Nat)
deriving Repr

inductive Selection where
  | all
  | one (a : Address)
  | range (start : Address) (stop : RangeEnd)
deriving Repr

/-- How the letters of a replacement change. -/
inductive CaseChange where
  | upper
  | lower
  | upperNext
  | lowerNext
  | none
deriving Repr, DecidableEq

/-- A part of a replacement. -/
inductive Piece where
  | text (s : List Char)
  | group (number : Nat)
  | change (c : CaseChange)
deriving Repr

structure Substitution where
  pattern : Option Pattern
  replacement : List Piece
  /-- The first match that is replaced, counted from one. -/
  number : Nat := 1
  isGlobal : Bool := false
  prints : Bool := false
  runs : Bool := false
  /-- The file that the result is written to. -/
  target : Option String := none
deriving Repr

/-- What a command does. Places are numbers of instructions. -/
inductive Action where
  /-- Goes on behind a block unless the line is selected. -/
  | block (stop : Nat)
  | nothing
  | append (text : List Char)
  | insert (text : List Char)
  | change (text : List Char)
  | branch (place : Nat)
  /-- Branches if something has been replaced, or if nothing has. -/
  | branchIf (replaced : Bool) (place : Nat)
  | delete
  | deleteFirst
  | get
  | getMore
  | hold
  | holdMore
  | exchange
  | list (width : Option Nat)
  | next
  | nextMore
  | print
  | printFirst
  | quit (status : Nat)
  | quitAtOnce (status : Nat)
  | readFile (path : String)
  | readLine (path : String)
  | writeLine (path : String)
  | writeFirst (path : String)
  | substitute (s : Substitution)
  | transliterate (table : List (Char × Char))
  | showNumber
  | showName
  | clear
  | run (command : Option (List Char))
deriving Repr

structure Instruction where
  selection : Selection := .all
  negated : Bool := false
  action : Action
deriving Repr

end ReleasePreview.StreamEditor
