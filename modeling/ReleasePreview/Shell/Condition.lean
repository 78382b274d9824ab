import ReleasePreview.Decimal.Natural
import ReleasePreview.Process.World
import ReleasePreview.Text.Utf8

/-! Conditions on texts, numbers and files, from the words that `test` is given. -/
namespace ReleasePreview.Shell.Condition

/-- What conditions ask of the world. -/
structure Facts where
  files : FileTree
  directory : Place
  isTerminal : Nat → Bool := fun _ => false
  /-- A file is newer than one that is not there. -/
  ranksMissing : Bool := false

/-- Whether a path stands for one of the first three descriptors. -/
def isStandard (path : String) : Bool := (World.deviceDescriptor? path).any (· ≤ 2)

def Facts.node? (f : Facts) (path : String) : Option FileNode :=
  if isStandard path then some (.file [] false)
  else (f.files.find f.directory (Text.Octets.readable path)).toOption

def Facts.place? (f : Facts) (path : String) : Option Place :=
  (f.files.canonical f.directory (Text.Octets.readable path)).toOption

def Facts.isDevice (f : Facts) (path : String) : Bool :=
  isStandard path || ((f.place? path).bind Device.ofPlace?).isSome

inductive Kind where
  | unary
  | binary
  | negation
  | conjunction
  | disjunction
  | opened
  | closed
deriving DecidableEq

def kind? (word : String) : Option Kind :=
  if ["-r", "-w", "-x", "-e", "-f", "-d", "-c", "-b", "-p", "-u", "-g", "-k", "-s", "-t", "-z",
      "-n", "-h", "-O", "-G", "-L", "-S"].contains word then some .unary
  else if ["=", "!=", "<", ">", "-eq", "-ne", "-ge", "-gt", "-le", "-lt", "-nt", "-ef",
      "-ot"].contains word then some .binary
  else if word = "!" then some .negation
  else if word = "-a" then some .conjunction
  else if word = "-o" then some .disjunction
  else if word = "(" then some .opened
  else if word = ")" then some .closed
  else none

/-- A word as a number. -/
def number (s : String) : Except String Int :=
  match Decimal.decimalInteger? s.toList with
  | some (n, rest) =>
    if rest.all Decimal.isGap && n = Decimal.clamped n then .ok n
    else .error s!"Illegal number: {s}"
  | none => .error s!"Illegal number: {s}"

def unary (f : Facts) (operator arg : String) : Except String Bool := do
  let isExecutable := match f.node? arg with
    | some (.file _ mode) => mode.executable
    | some .directory => true
    | _ => false
  let isReadable := match f.node? arg with
    | some (.file _ mode) => mode.readable
    | node? => node?.isSome
  match operator with
  | "-n" => return !arg.isEmpty
  | "-z" => return arg.isEmpty
  | "-t" => return f.isTerminal (← number arg).toNat
  | "-f" =>
    return match f.node? arg with
      | some (.file _ _) => !f.isDevice arg
      | _ => false
  | "-d" => return f.node? arg = some .directory
  | "-c" => return f.isDevice arg
  | "-x" => return isExecutable
  | "-s" =>
    return match f.node? arg with
      | some (.file content _) => !content.isEmpty
      | some .directory => true
      | _ => false
  | "-h" | "-L" =>
    let p := (f.files.resolve f.directory (Text.Octets.readable arg) false).toOption
    return match p.bind f.files.node? with
      | some (.link _) => true
      | _ => false
  | "-r" => return isReadable
  | "-e" | "-w" | "-O" | "-G" => return (f.node? arg).isSome
  | _ => return false

def binary (f : Facts) (a operator b : String) : Except String Bool := do
  match operator with
  | "=" => return a = b
  | "!=" => return a ≠ b
  | "<" => return a < b
  | ">" => return b < a
  | "-eq" => return (← number a) = (← number b)
  | "-ne" => return (← number a) ≠ (← number b)
  | "-lt" => return (← number a) < (← number b)
  | "-le" => return (← number a) ≤ (← number b)
  | "-gt" => return (← number b) < (← number a)
  | "-ge" => return (← number b) ≤ (← number a)
  | "-ef" => return (f.place? a).isSome && f.place? a = f.place? b
  | "-nt" => return f.ranksMissing && (f.node? a).isSome && (f.node? b).isNone
  | _ => return f.ranksMissing && (f.node? a).isNone && (f.node? b).isSome

/-- The place in the words while a condition is read. -/
abbrev Reading := StateT Nat (Except String)

def wordAt (words : Array String) (i : Nat) : Option String := words[i]?

/-- An operator before a word alone counts as a word. -/
def isOperand (words : Array String) (i : Nat) : Bool :=
  match words[i + 1]? with
  | none => true
  | some next => words[i + 2]?.isSome && (kind? next = some .binary)

/-- What the word at a place is; `none` for an operand. -/
def kindAt (words : Array String) (i : Nat) : Option Kind := do
  let kind ← kind? (← words[i]?)
  if kind = .unary && isOperand words i then none
  else if kind = .opened && words[i + 1]?.isNone then none
  else some kind

mutual

def either (f : Facts) (words : Array String) : (fuel : Nat) → Reading Bool
  | 0 => throw "argument expected"
  | fuel + 1 => do
    let a ← both f words fuel
    if kindAt words ((← get) + 1) = some .disjunction then
      modify (· + 2)
      let b ← either f words fuel
      return a || b
    return a

def both (f : Facts) (words : Array String) : (fuel : Nat) → Reading Bool
  | 0 => throw "argument expected"
  | fuel + 1 => do
    let a ← negated f words fuel
    if kindAt words ((← get) + 1) = some .conjunction then
      modify (· + 2)
      let b ← both f words fuel
      return a && b
    return a

def negated (f : Facts) (words : Array String) : (fuel : Nat) → Reading Bool
  | 0 => throw "argument expected"
  | fuel + 1 => do
    let i ← get
    if kindAt words i ≠ some .negation then primary f words fuel
    else if i + 1 < words.size then
      set (i + 1)
      return !(← negated f words fuel)
    else return true

def primary (f : Facts) (words : Array String) : (fuel : Nat) → Reading Bool
  | 0 => throw "argument expected"
  | fuel + 1 => do
    let i ← get
    match words[i]?, kindAt words i with
    | none, _ => return false
    | some _, some .opened =>
      set (i + 1)
      if kindAt words (i + 1) = some .closed then return false
      let r ← either f words fuel
      modify (· + 1)
      if kindAt words (← get) ≠ some .closed then throw "closing paren expected"
      return r
    | some operator, some .unary =>
      set (i + 1)
      match words[i + 1]? with
      | some arg => unary f operator arg
      | none => throw s!"{operator}: argument expected"
    | some a, _ =>
      if kindAt words (i + 1) = some .binary then
        let operator := words[i + 1]?.getD ""
        set (i + 2)
        match words[i + 2]? with
        | some b => binary f a operator b
        | none => throw s!"{operator}: argument expected"
      else return !a.isEmpty

end

/-- The truth of a whole condition, or what is wrong with it. -/
def whole (f : Facts) (words : Array String) : Except String Bool := do
  let (r, i) ← (either f words (4 * words.size + 8)).run 0
  match words[i]?, words[i + 1]? with
  | some word, some _ => throw s!"{word}: unexpected operator"
  | _, _ => return r

/-- The truth of the words of a condition. Three or four words are looked at as a whole first. -/
def holds (f : Facts) (words : List String) : Except String Bool :=
  match words with
  | [] => .ok false
  | [a, operator, b] =>
    if kind? operator = some .binary then binary f a operator b
    else if a = "(" && b = ")" then whole f #[operator]
    else if a = "!" then (holds f [operator, b]).map (!·)
    else whole f #[a, operator, b]
  | [a, b, c, d] =>
    if a = "(" && d = ")" then whole f #[b, c]
    else if a = "!" then (holds f [b, c, d]).map (!·)
    else whole f #[a, b, c, d]
  | words => whole f words.toArray

end ReleasePreview.Shell.Condition
