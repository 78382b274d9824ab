import ReleasePreview.Decimal.Natural
import ReleasePreview.Shell.Command

/-! Arithmetic of a shell, on integers of 64 bits. -/
namespace ReleasePreview.Shell.Arithmetic

inductive Symbol where
  | number (n : Int)
  | variable (name : String)
  | sign (text : String)
deriving Repr, DecidableEq

/-- The signs, a longer one before those it begins with. -/
def signs : List String :=
  ["<<=", ">>=", "==", "!=", "<=", ">=", "<<", ">>", "&&", "||", "+=", "-=", "*=", "/=", "%=",
    "&=", "|=", "^=", "<", ">", "=", "+", "-", "*", "/", "%", "&", "|", "^", "!", "~", "?", ":",
    "(", ")"]

/-- The symbols of a text. One that is none has no text. The fuel is the length of the text. -/
def symbols : (fuel : Nat) → List Char → List Symbol
  | 0, _ => []
  | fuel + 1, s =>
    match s.dropWhile fun c => c = ' ' || c = '\t' || c = '\n' with
    | [] => []
    | c :: s =>
      if c.isDigit then
        match Decimal.basedNatural? (c :: s) with
        | some (n, rest) => .number (Decimal.clamped n) :: symbols fuel rest
        | none => [.sign ""]
      else if isNameStart c then
        .variable (String.ofList ((c :: s).takeWhile isNameChar))
          :: symbols fuel ((c :: s).dropWhile isNameChar)
      else
        match signs.find? fun t => t.toList.isPrefixOf (c :: s) with
        | some t => .sign t :: symbols fuel ((c :: s).drop t.length)
        | none => [.sign ""]

/-- A binary operator's rank; a higher one binds tighter. -/
def rank? (sign : String) : Option Nat :=
  match sign with
  | "|" => some 1
  | "^" => some 2
  | "&" => some 3
  | "==" | "!=" => some 4
  | "<" | ">" | "<=" | ">=" => some 5
  | "<<" | ">>" => some 6
  | "+" | "-" => some 7
  | "*" | "/" | "%" => some 8
  | _ => none

def truth (b : Bool) : Int := if b then 1 else 0

/-- The two numbers as words of 64 bits. -/
def onWords (f : UInt64 → UInt64 → UInt64) (a b : Int) : Int :=
  f (UInt64.ofInt a) (UInt64.ofInt b) |>.toNat

/-- The value of two numbers; `none` divides by zero. -/
def result? (sign : String) (a b : Int) : Option Int :=
  match sign with
  | "|" => some (onWords (· ||| ·) a b)
  | "^" => some (onWords (· ^^^ ·) a b)
  | "&" => some (onWords (· &&& ·) a b)
  | "==" => some (truth (a = b))
  | "!=" => some (truth (a ≠ b))
  | "<" => some (truth (a < b))
  | ">" => some (truth (b < a))
  | "<=" => some (truth (a ≤ b))
  | ">=" => some (truth (b ≤ a))
  | "<<" => some (onWords (· <<< ·) a b)
  | ">>" => some (Int.fdiv a (Nat.pow 2 (Int.emod b 64).toNat))
  | "+" => some (a + b)
  | "-" => some (a - b)
  | "*" => some (a * b)
  | "/" => if b = 0 then none else some (a.tdiv b)
  | "%" => if b = 0 then none else some (a.tmod b)
  | _ => some b

/-- What is wrong with an expression. -/
inductive Fault where
  | malformed (message : String)
  /-- A variable that is no number. -/
  | notNumber (value : String)
deriving Repr, DecidableEq

/-- The symbols that are left, and what variables have been given. -/
structure Scan where
  rest : List Symbol
  given : List (String × Int) := []

abbrev Reading := StateT Scan (Except Fault)

def peek : Reading (Option Symbol) := do return (← get).rest.head?

def skip : Reading Unit := modify fun s => { s with rest := s.rest.drop 1 }

def fail {α : Type} (message : String) : Reading α := throw (.malformed message)

/-- The number that a variable stands for. -/
def numberOf (value : String) : Except Fault Int :=
  match Decimal.integer? Decimal.basedNatural? value.toList with
  | some (n, rest) =>
    if rest.all Decimal.isGap then .ok (Decimal.clamped n) else .error (.notNumber value)
  | none => if value.toList.all Decimal.isGap then .ok 0 else .error (.notNumber value)

def lookUp (values : String → Option String) (name : String) : Reading Int := do
  match (← get).given.lookup name with
  | some n => return n
  | none => numberOf ((values name).getD "")

def combine (sign : String) (a b : Int) : Reading Int :=
  match result? sign a b with
  | some n => return Decimal.wrapped n
  | none => fail "division by zero"

mutual

/-- A number, a variable, or an expression in parentheses, with signs before it. What does not count
is only read. -/
def operand (values : String → Option String) : (fuel : Nat) → (counts : Bool) → Reading Int
  | 0, _ => fail "expecting primary"
  | fuel + 1, counts => do
    let t ← peek
    match t with
    | some (.number n) =>
      skip
      return n
    | some (.variable name) =>
      skip
      if counts then lookUp values name else return 0
    | some (.sign "(") =>
      skip
      let n ← assignment values fuel counts
      if (← peek) ≠ some (.sign ")") then fail "expecting ')'"
      skip
      return n
    | some (.sign "+") =>
      skip
      operand values fuel counts
    | some (.sign "-") =>
      skip
      return Decimal.wrapped (-(← operand values fuel counts))
    | some (.sign "!") =>
      skip
      return truth ((← operand values fuel counts) = 0)
    | some (.sign "~") =>
      skip
      return -(← operand values fuel counts) - 1
    | _ => fail "expecting primary"

/-- Operands with operators of at least some rank behind a first operand. -/
def operation (values : String → Option String) :
    (fuel : Nat) → (counts : Bool) → (rank : Nat) → Int → Reading Int
  | 0, _, _, n => pure n
  | fuel + 1, counts, rank, n => do
    match ← peek with
    | some (.sign sign) =>
      match rank? sign with
      | some r =>
        if r < rank then return n
        else
          skip
          let m ← operand values fuel counts
          let m ← operation values fuel counts (r + 1) m
          operation values fuel counts rank (← if counts then combine sign n m else pure m)
      | none => return n
    | _ => return n

/-- Conjunctions behind a first member. -/
def conjunction (values : String → Option String) :
    (fuel : Nat) → (counts : Bool) → Reading Int
  | 0, _ => fail "expecting primary"
  | fuel + 1, counts => do
    let n ← operation values fuel counts 0 (← operand values fuel counts)
    match ← peek with
    | some (.sign "&&") =>
      skip
      let m ← conjunction values fuel (counts && n ≠ 0)
      return truth (n ≠ 0 && m ≠ 0)
    | _ => return n

def disjunction (values : String → Option String) :
    (fuel : Nat) → (counts : Bool) → Reading Int
  | 0, _ => fail "expecting primary"
  | fuel + 1, counts => do
    let n ← conjunction values fuel counts
    match ← peek with
    | some (.sign "||") =>
      skip
      let m ← disjunction values fuel (counts && n = 0)
      return truth (n ≠ 0 || m ≠ 0)
    | _ => return n

/-- Two expressions of which a condition chooses one. -/
def choice (values : String → Option String) : (fuel : Nat) → (counts : Bool) → Reading Int
  | 0, _ => fail "expecting primary"
  | fuel + 1, counts => do
    let n ← disjunction values fuel counts
    match ← peek with
    | some (.sign "?") =>
      skip
      let yes ← assignment values fuel (counts && n ≠ 0)
      if (← peek) ≠ some (.sign ":") then fail "expecting ':'"
      skip
      let no ← choice values fuel (counts && n = 0)
      return if n ≠ 0 then yes else no
    | _ => return n

def assignment (values : String → Option String) : (fuel : Nat) → (counts : Bool) → Reading Int
  | 0, _ => fail "expecting primary"
  | fuel + 1, counts => do
    match (← get).rest with
    | .variable name :: .sign sign :: _ =>
      let operator := String.ofList (sign.toList.dropLast)
      let isAssignment := sign = "=" || (sign.toList.getLast? = some '=' &&
        !(["==", "!=", "<=", ">="].contains sign))
      if isAssignment then
        skip
        skip
        let n ← assignment values fuel counts
        if !counts then return n
        let n ← if sign = "=" then pure n else combine operator (← lookUp values name) n
        modify fun s => { s with given := (name, n) :: s.given.filter (·.1 ≠ name) }
        return n
      else choice values fuel counts
    | _ => choice values fuel counts

end

/-- The value of an expression, and what variables are given in it. -/
def evaluate (values : String → Option String) (text : String) :
    Except Fault (Int × List (String × Int)) := do
  let all := symbols (text.length + 1) text.toList
  let (n, after) ← (assignment values (8 * all.length + 16) true).run { rest := all }
  if after.rest.isEmpty then return (n, after.given) else throw (.malformed "expecting EOF")

/-- A fault as it is reported. -/
def Fault.message (text : String) : Fault → String
  | malformed message => s!"arithmetic expression: {message}: \"{text}\""
  | notNumber value => s!"Illegal number: {value}"

end ReleasePreview.Shell.Arithmetic
