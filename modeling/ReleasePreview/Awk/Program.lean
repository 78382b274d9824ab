import ReleasePreview.Regex.Parse

/-! Programs that look at records: rules with patterns and actions, and functions. -/
namespace ReleasePreview.Awk

inductive Operation where
  | add
  | subtract
  | multiply
  | divide
  | remainder
  | power
deriving Repr, DecidableEq

inductive Comparison where
  | less
  | lessEqual
  | equal
  | notEqual
  | greater
  | greaterEqual
deriving Repr, DecidableEq

/-- Functions that there are without being defined. -/
inductive Builtin where
  | arctangent
  | close
  | cosine
  | exponential
  | flush
  | format
  | index
  | length
  | logarithm
  | lower
  | match
  | random
  | seed
  | sine
  | squareRoot
  | substring
  | system
  | upper
  | whole
deriving Repr, DecidableEq

/-- A variable of the program, or a parameter of the function that runs, by its number. -/
inductive Variable where
  | global (number : Nat)
  | parameter (number : Nat)
deriving Repr, DecidableEq

mutual

/-- What can be assigned to. -/
inductive Target where
  | named (v : Variable)
  | element (table : Variable) (keys : List Expression)
  | field (number : Expression)

inductive Expression where
  | number (x : Float)
  | text (s : String)
  /-- A regular expression; by itself it stands for whether the record matches. -/
  | pattern (e : Regex.Expression)
  | target (t : Target)
  | group (a : Expression)
  | assign (operation : Option Operation) (t : Target) (a : Expression)
  /-- Adds one or takes it away, before or after the value is taken. -/
  | step (t : Target) (up before : Bool)
  | choice (condition a b : Expression)
  | either (a b : Expression)
  | both (a b : Expression)
  | hasKey (table : Variable) (keys : List Expression)
  | matches (negated : Bool) (a pattern : Expression)
  | compare (c : Comparison) (a b : Expression)
  | join (a b : Expression)
  | calculate (operation : Operation) (a b : Expression)
  | plus (a : Expression)
  | minus (a : Expression)
  | not (a : Expression)
  | call (function : Nat) (args : List Expression)
  | builtin (b : Builtin) (args : List Expression)
  /-- The number of keys of a table, or the length of a text. -/
  | sizeOf (v : Variable)
  | split (a : Expression) (table : Variable) (separator : Option Expression)
  | substitute (all : Bool) (pattern replacement : Expression) (t : Target)
  | getLine (t : Option Target)
  | getLineOf (t : Option Target) (path : Expression)
  | getLineFrom (command : Expression) (t : Option Target)

end

instance : Inhabited Expression := ⟨.number 0⟩

/-- Where something is written to. -/
inductive OutputKind where
  | file
  | appendix
  | command
deriving Repr, DecidableEq

structure Output where
  kind : OutputKind
  name : Expression

inductive Statement where
  | nothing
  | expression (a : Expression)
  | print (args : List Expression) (output : Option Output)
  | printFormat (args : List Expression) (output : Option Output)
  | block (statements : List Statement)
  | choice (condition : Expression) (a b : Statement)
  | repeatWhile (condition : Expression) (body : Statement)
  | repeatUntil (body : Statement) (condition : Expression)
  | loop (start : Statement) (condition : Option Expression) (step body : Statement)
  | eachKey (v table : Variable) (body : Statement)
  | leave
  | again
  | nextRecord
  | nextFile
  | exit (status : Option Expression)
  | return (value : Option Expression)
  | delete (table : Variable) (keys : List Expression)
  | clear (table : Variable)

instance : Inhabited Statement := ⟨.nothing⟩

/-- When a rule is for a record. -/
inductive RulePattern where
  | always
  | before
  | after
  | when (a : Expression)
  | range (start stop : Expression)

structure Rule where
  pattern : RulePattern
  /-- Without an action the record is printed. -/
  action : Option Statement

structure Function where
  name : String
  /-- The number of the parameters. -/
  parameters : Nat := 0
  body : Option Statement := none

structure Program where
  rules : List Rule
  functions : Array Function
  /-- The variables, by their numbers. -/
  names : Array String

/-- Variables that have a meaning of their own. -/
inductive Special where
  | fieldCount
  | recordNumber
  | fileRecordNumber
  | fieldSeparator
  | outputFieldSeparator
  | outputRecordSeparator
  | recordSeparator
  | fileName
  | keySeparator
  | matchStart
  | matchLength
  | conversionFormat
  | outputFormat
  | environment
  | argumentCount
  | arguments
deriving Repr, DecidableEq

namespace Special

def names : List (Special × String) :=
  [(fieldCount, "NF"), (recordNumber, "NR"), (fileRecordNumber, "FNR"), (fieldSeparator, "FS"),
    (outputFieldSeparator, "OFS"), (outputRecordSeparator, "ORS"), (recordSeparator, "RS"),
    (fileName, "FILENAME"), (keySeparator, "SUBSEP"), (matchStart, "RSTART"),
    (matchLength, "RLENGTH"), (conversionFormat, "CONVFMT"), (outputFormat, "OFMT"),
    (environment, "ENVIRON"), (argumentCount, "ARGC"), (arguments, "ARGV")]

/-- The number of the variable. -/
def number (s : Special) : Nat := names.findIdx (·.1 = s)

def isTable (s : Special) : Bool := s = environment || s = arguments

end Special

end ReleasePreview.Awk

/-! Regular expressions as rules and functions of a program have them. -/
namespace ReleasePreview.Awk

/-- How regular expressions are written. -/
def dialect : Regex.Dialect where
  extended := true
  namesControls := true
  namesCodes := true
  hasNames := false
  refusesEmpty := true

/-- What is wrong with a regular expression, in short. -/
def patternFault (message : String) : String :=
  if message.startsWith "Unmatched (" then "missing ')'"
  else if message.startsWith "Unmatched [" || message = "Invalid character class name" then
    "bad class -- [], [^] or ["
  else if message.startsWith "Invalid content" then "bad interval expression"
  else "missing operand"

/-- Without open bounds above one: they stand for just as many. -/
def bounded : Regex.Expression → Regex.Expression
  | .sequence a b => .sequence (bounded a) (bounded b)
  | .choice a b => .choice (bounded a) (bounded b)
  | .group n a => .group n (bounded a)
  | .repeated a least none => .repeated (bounded a) least (if 1 < least then some least else none)
  | .repeated a least most => .repeated (bounded a) least most
  | e => e

/-- The regular expression of a text, or what is wrong with it. -/
def pattern (s : String) : Except String Regex.Expression :=
  match s.toList with
  | '^' :: '*' :: _ | '^' :: '+' :: _ => .error "syntax error ^* or ^+"
  | [] => .ok .empty
  | s =>
    match Regex.parse dialect s with
    | .ok (e, _) => .ok (bounded e)
    | .error message => .error (patternFault message)

/-- What is said of a regular expression that something is wrong with. -/
def patternComplaint (fault s : String) : String :=
  s!"regular expression compile failed ({fault})\n{s}"

end ReleasePreview.Awk
