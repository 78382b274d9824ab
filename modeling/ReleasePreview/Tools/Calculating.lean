import ReleasePreview.Decimal.Natural
import ReleasePreview.Regex.Parse
import ReleasePreview.Tools.Basic

/-! Values of expressions whose parts are arguments, one each. -/
namespace ReleasePreview.Tools.Calculating

/-- What is left of the arguments, and the one before them. -/
structure Scan where
  rest : List String
  before : String := ""

abbrev Reader := StateT Scan (Except String)

/-- The integer of a text, if it is one. -/
def integer? (s : String) : Option Int :=
  match s.toList with
  | '-' :: digits => (Decimal.natural? digits).map fun n => -(n : Int)
  | digits => (Decimal.natural? digits).map fun n => (n : Int)

/-- Empty texts and zeros count as false. -/
def isNull (s : String) : Bool :=
  match s.toList with
  | [] => true
  | '-' :: digits => !digits.isEmpty && digits.all (· = '0')
  | digits => digits.all (· = '0')

def truth (b : Bool) : String := if b then "1" else "0"

/-- Takes an argument if it is this one. -/
def takes (word : String) : Reader Bool := modifyGet fun s =>
  match s.rest with
  | arg :: rest => if arg = word then (true, { rest, before := arg }) else (false, s)
  | [] => (false, s)

/-- Takes one of some arguments, if there is one. -/
def takeOne? (words : List String) : Reader (Option String) := do
  match (← get).rest with
  | arg :: rest =>
    if words.contains arg then
      set { rest, before := arg : Scan }
      return some arg
    else return none
  | [] => return none

def fail {α : Type} (message : String) : Reader α := throw message

/-- The next argument, whatever it is. -/
def next : Reader String := do
  let s ← get
  match s.rest with
  | arg :: rest =>
    set { rest, before := arg : Scan }
    return arg
  | [] => fail s!"syntax error: missing argument after '{s.before}'"

/-- What a basic expression matches at the start of a text: its first group, or else its length. -/
def matched (text pattern : String) : Reader String := do
  match Regex.parse {} pattern.toList with
  | .error message =>
    fail (if message = Regex.Reader.unmatchedSet then "Invalid regular expression" else message)
  | .ok (e, groups) =>
    let subject : Regex.Subject := { text := text.toList.toArray }
    match e.matchAt? subject true 0, groups with
    | none, 0 => return "0"
    | none, _ => return ""
    | some m, 0 => return toString m.stop
    | some m, _ => return String.ofList (m.group subject 1)

def compared (sign a b : String) : Bool :=
  let o : Ordering := match integer? a, integer? b with
    | some m, some n => compare m n
    | _, _ => compare a b
  match sign with
  | "<" => o = .lt
  | "<=" => o ≠ .gt
  | "=" | "==" => o = .eq
  | "!=" => o ≠ .eq
  | ">=" => o ≠ .lt
  | _ => o = .gt

def combined (sign a b : String) : Reader String := do
  match integer? a, integer? b with
  | some m, some n =>
    match sign with
    | "+" => return toString (m + n)
    | "-" => return toString (m - n)
    | "*" => return toString (m * n)
    | sign =>
      if n = 0 then fail "division by zero"
      return toString (if sign = "/" then Int.tdiv m n else Int.tmod m n)
  | _, _ => fail "non-integer argument"

/-- The first place in a text of one of some characters, counted from one. -/
def placeOf (s chars : String) : Nat :=
  match s.toList.findIdx? chars.toList.contains with
  | some i => i + 1
  | none => 0

def part (s start length : String) : String :=
  match integer? start, integer? length with
  | some i, some n =>
    if i ≤ 0 || n ≤ 0 then "" else String.ofList ((s.toList.drop (i.toNat - 1)).take n.toNat)
  | _, _ => ""

/-- The signs of the levels, the loosest ones first. -/
def signs : (level : Nat) → List String
  | 0 => ["|"]
  | 1 => ["&"]
  | 2 => ["<", "<=", "=", "==", "!=", ">=", ">"]
  | 3 => ["+", "-"]
  | 4 => ["*", "/", "%"]
  | _ => [":"]

/-- The level of what has no signs between its parts. -/
def innerLevel : Nat := 6

mutual

/-- An expression of a level. What does not count is read but has no value. The fuel bounds how deep
expressions are and how many signs they have. -/
def expression : (fuel level : Nat) → (counts : Bool) → Reader String
  | 0, _, _ => return ""
  | fuel + 1, level, counts =>
    if level = innerLevel then call fuel counts
    else do
      let a ← expression fuel (level + 1) counts
      continued fuel level counts a

/-- What follows a part of a level. -/
def continued : (fuel level : Nat) → (counts : Bool) → String → Reader String
  | 0, _, _, a => return a
  | fuel + 1, level, counts, a => do
    match ← takeOne? (signs level) with
    | none => return a
    | some sign =>
      let decided := (level = 0 && !isNull a) || (level = 1 && isNull a)
      let b ← expression fuel (level + 1) (counts && !decided)
      let value ←
        if !counts then pure ""
        else match level with
          | 0 => pure (if !isNull a then a else if isNull b then "0" else b)
          | 1 => pure (if isNull a || isNull b then "0" else a)
          | 2 => pure (truth (compared sign a b))
          | 3 | 4 => combined sign a b
          | _ => matched a b
      continued fuel level counts value

/-- A function with its arguments, an expression in parentheses, or a plain argument. -/
def call : (fuel : Nat) → (counts : Bool) → Reader String
  | 0, _ => return ""
  | fuel + 1, counts => do
    match ← takeOne? ["+", "length", "match", "index", "substr", "(", ")"] with
    | some "+" => next
    | some "length" => return toString (← call fuel counts).length
    | some "match" =>
      let text ← call fuel counts
      let pattern ← call fuel counts
      if counts then matched text pattern else return ""
    | some "index" =>
      let text ← call fuel counts
      return toString (placeOf text (← call fuel counts))
    | some "substr" =>
      let text ← call fuel counts
      let start ← call fuel counts
      return part text start (← call fuel counts)
    | some "(" =>
      let value ← expression fuel 0 counts
      if ← takes ")" then return value
      let s ← get
      match s.rest with
      | [] => fail s!"syntax error: expecting ')' after '{s.before}'"
      | arg :: _ => fail s!"syntax error: expecting ')' instead of '{arg}'"
    | some _ => fail "syntax error: unexpected ')'"
    | none => next

end

/-- The value of arguments, or what is wrong with them. -/
def value (args : List String) : Except String String := do
  let (value, s) ← (expression (16 * args.length + 16) 0 true).run { rest := args }
  match s.rest with
  | [] => return value
  | arg :: _ => throw s!"syntax error: unexpected argument '{arg}'"

end Calculating

/-- Writes the value of an expression. -/
def expr : Tool := fun _ c => do
  let args := if c.args.head? = some "--" then c.args.drop 1 else c.args
  if args.isEmpty then misuse c "missing operand" 2
  else
    match Calculating.value args with
    | .error message =>
      complain c message
      return 2
    | .ok value =>
      Program.out (value ++ "\n")
      return if Calculating.isNull value then 1 else 0

end ReleasePreview.Tools
