import ReleasePreview.Awk.Program
import ReleasePreview.Awk.Token

/-! Reading programs. -/
namespace ReleasePreview.Awk

/-- What a name stands for, as far as that is known. -/
inductive NameKind where
  | unknown
  | single
  | table
deriving Repr, DecidableEq

/-- Something wrong with a program. -/
inductive Fault where
  | at (line : Nat) (message : String)
  /-- A character that stands for nothing. -/
  | stranger (c : Char)
deriving Repr, DecidableEq

/-- Where statements stand. -/
inductive Setting where
  | record
  | edge
  | function (number : Nat)
deriving Repr, DecidableEq

/-- A call that is checked when all functions are known. An argument that is a name alone is that of
a variable. -/
structure CallSite where
  function : Nat
  line : Nat
  args : List (Option Variable)
  setting : Setting

structure Parsing where
  tokens : List Token
  names : Array (String × NameKind) :=
    (Special.names.map fun (s, name) => (name, if s.isTable then .table else .single)).toArray
  functions : Array Function := #[]
  /-- The parameters of each function. -/
  parameters : Array (List (String × NameKind)) := #[]
  setting : Setting := .record
  loops : Nat := 0
  calls : List CallSite := []
  /-- What was wrong, backwards. -/
  faults : List Fault := []

abbrev Parser := ExceptT Fault (StateM Parsing)

namespace Parser

def peek : Parser Token := do
  return ((← get).tokens.head?).getD ⟨.programEnd, 1, 0, 0⟩

def advance : Parser Unit := modify fun s =>
  match s.tokens with
  | _ :: t :: rest => { s with tokens := t :: rest }
  | _ => s

def isAt (w : String) : Parser Bool := do return (← peek).kind == .word w

def accept (w : String) : Parser Bool := do
  if ← isAt w then
    advance
    return true
  else return false

/-- Something is wrong, but the program can be read on. -/
def complain (message : String) : Parser Unit := do
  let line := (← peek).line
  modify fun s => { s with faults := .at line message :: s.faults }

def missingBrace (t : Token) : Fault := .at t.line "missing \x7d near end of file"

def unexpected {α : Type} : Parser α := do
  let t ← peek
  let ends := match t.kind with
    | .lineEnd => true
    | .word w => w = ";" || w = "\x7d"
    | _ => false
  match t.kind with
  | .stranger c => throw (.stranger c)
  | .fault message => throw (.at t.line message)
  | kind =>
    if ends && t.parentheses ≠ 0 && (← get).faults.isEmpty then
      throw (.at t.line s!"missing ) near {kind.shown}")
    else if kind == .programEnd && t.braces ≠ 0 then throw (missingBrace t)
    else throw (.at t.line s!"syntax error at or near {kind.shown}")

def expect (w : String) : Parser Unit := do
  if !(← accept w) then unexpected

/-- Line ends do not count here. -/
def skipLines : Parser Unit := do
  if (← peek).kind == .lineEnd then advance

/-- The statement ends here. -/
def endsStatement : Parser Bool := do
  match (← peek).kind with
  | .lineEnd => return true
  | .word w => return w = ";" || w = "\x7d"
  | _ => return false

def separator : Parser Unit := do
  if !(← endsStatement) then unexpected
  if !(← isAt "\x7d") then advance

/-- Notes what a name stands for, or complains. -/
def kindOf (place name : String) (known used : NameKind) : Parser NameKind := do
  match known, used with
  | known, .unknown => return known
  | .unknown, used => return used
  | known, used =>
    if known ≠ used then
      let word := if known = .table then "array" else "variable"
      complain s!"illegal reference to {place}{word} {name}"
    return known

/-- The variable of a name, which is used as this. -/
def variableOf (name : String) (used : NameKind) : Parser Variable := do
  let s ← get
  let own : Option (Nat × Nat × NameKind) := match s.setting with
    | .function f =>
      let names := (s.parameters[f]?).getD []
      match names.findIdx? (·.1 = name) with
      | some i => some (f, i, (names.lookup name).getD .unknown)
      | none => none
    | _ => none
  match own with
  | some (f, i, known) =>
    let kind ← kindOf "local " name known used
    let noted (names : List (String × NameKind)) := names.modify i fun (name, _) => (name, kind)
    modify fun s => { s with parameters := s.parameters.modify f noted }
    return .parameter i
  | none =>
    match s.names.findIdx? (·.1 = name) with
    | some i =>
      let kind ← kindOf "" name (((s.names[i]?).map (·.2)).getD .unknown) used
      let names := s.names.modify i fun (name, _) => (name, kind)
      modify fun s => { s with names }
      return .global i
    | none =>
      set { s with names := s.names.push (name, used) }
      return .global s.names.size

/-- The number of a function, which may be defined later. -/
def functionNumber (name : String) : Parser Nat := do
  let s ← get
  match s.functions.findIdx? (·.name = name) with
  | some i => return i
  | none =>
    set { s with functions := s.functions.push { name }, parameters := s.parameters.push [] }
    return s.functions.size

/-- A name stands for a function. -/
def isFunction (name : String) (calls : Bool) : Parser Bool := do
  let s ← get
  let isParameter := match s.setting with
    | .function f => ((s.parameters[f]?).getD []).any (·.1 = name)
    | _ => false
  if isParameter then return false
  if s.functions.any (·.name = name) then return true
  return calls && !s.names.any (·.1 = name)

/-- Parts with an operator between them, from left to right. The fuel is the number of tokens. -/
def chain (part : Parser Expression)
    (operator? : Parser (Option (Expression → Expression → Expression))) :
    (fuel : Nat) → Expression → Parser Expression
  | 0, a => return a
  | fuel + 1, a => do
    match ← operator? with
    | none => return a
    | some join => chain part operator? fuel (join a (← part))

def comparisons : List (String × Comparison) :=
  [("<", .less), ("<=", .lessEqual), ("==", .equal), ("!=", .notEqual), (">=", .greaterEqual)]

def comparison? (inPrint : Bool) : Parser (Option (Expression → Expression → Expression)) := do
  match (← peek).kind with
  | .word w =>
    let found := if w = ">" then (if inPrint then none else some .greater)
      else comparisons.lookup w
    if found.isSome then advance
    return found.map .compare
  | _ => return none

def operation? (signs : List (String × Operation)) :
    Parser (Option (Expression → Expression → Expression)) := do
  match (← peek).kind with
  | .word w =>
    let found := signs.lookup w
    if found.isSome then advance
    return found.map .calculate
  | _ => return none

def sign? (w : String) (make : Expression → Expression → Expression) :
    Parser (Option (Expression → Expression → Expression)) := do
  return if ← accept w then some make else none

/-- What an assignment does besides, if there is one. -/
def assignment? : Parser (Option (Option Operation)) := do
  let signs : List (String × Option Operation) :=
    [("=", none), ("+=", some .add), ("-=", some .subtract), ("*=", some .multiply),
      ("/=", some .divide), ("%=", some .remainder), ("^=", some .power)]
  match (← peek).kind with
  | .word w =>
    let found := signs.lookup w
    if found.isSome then advance
    return found
  | _ => return none

/-- A value begins here that is joined to the one before. -/
def startsValue : TokenKind → Bool
  | .number .. | .text _ | .pattern _ | .name .. => true
  | .word w =>
    ["$", "!", "(", "++", "--", "getline"].contains w || Lexing.builtinWords.contains w
  | _ => false

/-- Builtin functions with the least and the largest number of arguments. -/
def builtin? (w : String) : Option (Builtin × Nat × Nat) :=
  let table : List (String × Builtin × Nat × Nat) :=
    [("index", .index, 2, 2), ("substr", .substring, 2, 3), ("sprintf", .format, 1, 255),
      ("match", .match, 2, 2), ("sin", .sine, 1, 1), ("cos", .cosine, 1, 1),
      ("atan2", .arctangent, 2, 2), ("exp", .exponential, 1, 1), ("log", .logarithm, 1, 1),
      ("sqrt", .squareRoot, 1, 1), ("int", .whole, 1, 1), ("rand", .random, 0, 0),
      ("srand", .seed, 0, 1), ("close", .close, 1, 1), ("system", .system, 1, 1),
      ("toupper", .upper, 1, 1), ("tolower", .lower, 1, 1), ("fflush", .flush, 0, 1)]
  table.lookup w

/-- A regular expression, or a complaint. -/
def regex (s : String) : Parser Expression := do
  match pattern s with
  | .ok e => return .pattern e
  | .error fault => throw (.at (← peek).line (patternComplaint fault s))

/-- A text that stands where a regular expression is expected. -/
def asPattern (a : Expression) : Parser Expression := do
  match a with
  | .text s => regex s
  | a => return a

/-- A target, or what else has been read is not expected. -/
def asTarget (p : Parser Expression) : Parser Target := do
  let start ← get
  match ← p with
  | .target t => return t
  | _ =>
    set start
    unexpected

mutual

/-- An expression; in what is printed a larger-than sign and a bar are none of its own. -/
def expression (inPrint : Bool) : (fuel : Nat) → Parser Expression
  | 0 => unexpected
  | fuel + 1 => do
    let a ← either inPrint fuel
    if !(← accept "?") then return a
    let b ← expression inPrint fuel
    expect ":"
    return .choice a b (← expression inPrint fuel)

def either (inPrint : Bool) : (fuel : Nat) → Parser Expression
  | 0 => unexpected
  | fuel + 1 => do
    chain (both inPrint fuel) (sign? "||" .either) fuel (← both inPrint fuel)

def both (inPrint : Bool) : (fuel : Nat) → Parser Expression
  | 0 => unexpected
  | fuel + 1 => do
    chain (membership inPrint fuel) (sign? "&&" .both) fuel (← membership inPrint fuel)

def membership (inPrint : Bool) : (fuel : Nat) → Parser Expression
  | 0 => unexpected
  | fuel + 1 => do
    keys fuel (← matching inPrint fuel)

/-- Whether values are keys of tables. -/
def keys : (fuel : Nat) → Expression → Parser Expression
  | 0, a => return a
  | fuel + 1, a => do
    if !(← accept "in") then return a
    keys fuel (.hasKey (← tableName) [a])

/-- The name of a table. -/
def tableName : Parser Variable := do
  match (← peek).kind with
  | .name name _ =>
    if ← isFunction name false then unexpected
    let v ← variableOf name .table
    advance
    return v
  | _ => unexpected

def matching (inPrint : Bool) : (fuel : Nat) → Parser Expression
  | 0 => unexpected
  | fuel + 1 => do matched inPrint fuel (← comparison inPrint fuel)

/-- Whether texts match. -/
def matched (inPrint : Bool) : (fuel : Nat) → Expression → Parser Expression
  | 0, a => return a
  | fuel + 1, a => do
    let negated ← isAt "!~"
    if !((← accept "~") || (← accept "!~")) then return a
    matched inPrint fuel (.matches negated a (← asPattern (← comparison inPrint fuel)))

def comparison (inPrint : Bool) : (fuel : Nat) → Parser Expression
  | 0 => unexpected
  | fuel + 1 => do
    chain (operand inPrint fuel) (comparison? inPrint) fuel (← operand inPrint fuel)

/-- A joined text, or an assignment. -/
def operand (inPrint : Bool) : (fuel : Nat) → Parser Expression
  | 0 => unexpected
  | fuel + 1 => do
    let a ← sum inPrint fuel
    match a with
    | .target t =>
      match ← assignment? with
      | some operation => return .assign operation t (← expression inPrint fuel)
      | none => joined inPrint fuel a
    | a => joined inPrint fuel a

def joined (inPrint : Bool) : (fuel : Nat) → Expression → Parser Expression
  | 0, a => return a
  | fuel + 1, a => do
    if startsValue (← peek).kind then joined inPrint fuel (.join a (← sum inPrint fuel))
    else return a

def sum (inPrint : Bool) : (fuel : Nat) → Parser Expression
  | 0 => unexpected
  | fuel + 1 => do
    chain (product inPrint fuel) (operation? [("+", .add), ("-", .subtract)]) fuel
      (← product inPrint fuel)

def product (inPrint : Bool) : (fuel : Nat) → Parser Expression
  | 0 => unexpected
  | fuel + 1 => do
    chain (signed inPrint fuel)
      (operation? [("*", .multiply), ("/", .divide), ("%", .remainder)]) fuel
      (← signed inPrint fuel)

/-- A value with signs before it. -/
def signed (inPrint : Bool) : (fuel : Nat) → Parser Expression
  | 0 => unexpected
  | fuel + 1 => do
    if ← accept "!" then return .not (← signed inPrint fuel)
    if ← accept "-" then return .minus (← signed inPrint fuel)
    if ← accept "+" then return .plus (← signed inPrint fuel)
    let a ← power inPrint fuel
    if inPrint then return a
    lines fuel a

/-- Lines from the output of a command. -/
def lines : (fuel : Nat) → Expression → Parser Expression
  | 0, a => return a
  | fuel + 1, a => do
    if !(← isAt "|") then return a
    advance
    expect "getline"
    lines fuel (.getLineFrom a (← lineTarget fuel))

def power (inPrint : Bool) : (fuel : Nat) → Parser Expression
  | 0 => unexpected
  | fuel + 1 => do
    let a ← stepped inPrint fuel
    if !(← accept "^") then return a
    let hasSign := (← isAt "-") || (← isAt "+") || (← isAt "!")
    return .calculate .power a (← if hasSign then signed inPrint fuel else power inPrint fuel)

/-- A value with a step behind it. -/
def stepped (inPrint : Bool) : (fuel : Nat) → Parser Expression
  | 0 => unexpected
  | fuel + 1 => do
    match ← primary inPrint fuel with
    | .target t =>
      if ← accept "++" then return .step t true false
      if ← accept "--" then return .step t false false
      return .target t
    | a => return a

/-- What a line is read into, if that is said. -/
def lineTarget : (fuel : Nat) → Parser (Option Target)
  | 0 => return none
  | fuel + 1 => do
    match (← peek).kind with
    | .name name calls =>
      if ← isFunction name calls then return none
      return some (← asTarget (primary true fuel))
    | .word "$" => return some (← asTarget (primary true fuel))
    | _ => return none

def expressions (inPrint : Bool) : (fuel : Nat) → Parser (List Expression)
  | 0 => unexpected
  | fuel + 1 => do
    let a ← expression inPrint fuel
    if ← accept "," then return a :: (← expressions inPrint fuel) else return [a]

/-- The arguments of a function that is defined, behind a parenthesis. -/
def callArgs : (fuel : Nat) → Parser (List (Expression × Option Variable))
  | 0 => unexpected
  | fuel + 1 => do
    let arg ← match (← get).tokens with
      | ⟨.name name false, _, _, _⟩ :: ⟨.word w, _, _, _⟩ :: _ =>
        if (w = "," || w = ")") && !(← isFunction name false) then do
          let v ← variableOf name .unknown
          advance
          pure (.target (.named v), some v)
        else pure (← expression false fuel, none)
      | _ => pure (← expression false fuel, none)
    if ← accept "," then return arg :: (← callArgs fuel)
    expect ")"
    return [arg]

/-- A call of a builtin function behind its name. -/
def builtinCall (w : String) : (fuel : Nat) → Parser Expression
  | 0 => unexpected
  | fuel + 1 => do
    if w = "length" then
      if !(← accept "(") then return .builtin .length []
      if ← accept ")" then return .builtin .length []
      match (← get).tokens with
      | ⟨.name name false, _, _, _⟩ :: ⟨.word ")", _, _, _⟩ :: _ =>
        if ← isFunction name false then unexpected
        let v ← variableOf name .unknown
        advance
        advance
        return .sizeOf v
      | _ =>
        let a ← expression false fuel
        expect ")"
        return .builtin .length [a]
    else if w = "split" then
      expect "("
      let a ← expression false fuel
      expect ","
      let table ← tableName
      let mark ← if ← accept "," then pure (some (← expression false fuel)) else pure none
      expect ")"
      return .split a table mark
    else if w = "sub" || w = "gsub" then
      expect "("
      let p ← expression false fuel
      expect ","
      let a ← expression false fuel
      let t ← if ← accept "," then asTarget (primary false fuel) else pure (.field (.number 0))
      expect ")"
      return .substitute (w = "gsub") (← asPattern p) a t
    else match builtin? w with
      | none => unexpected
      | some (b, least, most) =>
        let args ← if most = 0 || b = .flush || b = .seed then
            if !(← accept "(") then
              if b = .flush || most = 0 then pure [] else unexpected
            else if ← accept ")" then pure []
            else do
              let args ← expressions false fuel
              expect ")"
              pure args
          else do
            expect "("
            if ← accept ")" then pure [] else
              let args ← expressions false fuel
              expect ")"
              pure args
        if args.length < least || most < args.length then
          complain s!"wrong number of arguments in call to {w}"
        match b, args with
        | .match, [a, p] => return .builtin .match [a, ← asPattern p]
        | _, _ => return .builtin b args

def primary (inPrint : Bool) : (fuel : Nat) → Parser Expression
  | 0 => unexpected
  | fuel + 1 => do
    let t ← peek
    match t.kind with
    | .number x _ =>
      advance
      return .number x
    | .text s =>
      advance
      return .text s
    | .pattern s =>
      let e ← regex s
      advance
      return e
    | .name name calls =>
      if ← isFunction name calls then
        advance
        expect "("
        let f ← functionNumber name
        let args ← if ← accept ")" then pure [] else callArgs fuel
        modify fun s => { s with calls := ⟨f, t.line, args.map (·.2), s.setting⟩ :: s.calls }
        return .call f (args.map (·.1))
      advance
      if name ≠ "NF" && (← isAt "[") then
        let v ← variableOf name .table
        advance
        let keys ← expressions inPrint fuel
        expect "]"
        return .target (.element v keys)
      return .target (.named (← variableOf name .single))
    | .word "(" =>
      advance
      let all ← expressions false fuel
      expect ")"
      match all with
      | [.target (.field a)] => return .target (.field a)
      | [a] => return .group a
      | all =>
        expect "in"
        return .hasKey (← tableName) all
    | .word "$" =>
      advance
      if ← accept "-" then return .target (.field (.minus (← primary inPrint fuel)))
      return .target (.field (← primary inPrint fuel))
    | .word "getline" =>
      advance
      let target ← lineTarget fuel
      if ← accept "<" then return .getLineOf target (← power inPrint fuel)
      return .getLine target
    | .word "++" =>
      advance
      before inPrint true fuel
    | .word "--" =>
      advance
      before inPrint false fuel
    | .word "-" =>
      advance
      return .minus (← signed inPrint fuel)
    | .word "+" =>
      advance
      return .plus (← signed inPrint fuel)
    | .word "!" =>
      advance
      return .not (← signed inPrint fuel)
    | .word w =>
      if Lexing.builtinWords.contains w then
        advance
        builtinCall w fuel
      else unexpected
    | _ => unexpected

/-- A target behind a step. -/
def before (inPrint up : Bool) : (fuel : Nat) → Parser Expression
  | 0 => unexpected
  | fuel + 1 => do
    return .step (← asTarget (primary inPrint fuel)) up true

end

/-- What is printed. -/
def printed (fuel : Nat) : Parser (List Expression) := do
  let start ← get
  let ends : Parser Bool := do
    return (← endsStatement) || (← isAt ">") || (← isAt ">>") || (← isAt "|")
  if ← ends then return []
  let group : Parser (Option (List Expression)) := do
    expect "("
    let all ← if ← isAt ")" then pure [] else expressions false fuel
    expect ")"
    return if ← ends then some all else none
  let found ← try group catch _ => pure none
  match found with
  | some all => return all
  | none =>
    set start
    expressions true fuel

/-- Where something is printed to, if that is said. -/
def output (fuel : Nat) : Parser (Option Output) := do
  let kinds : List (String × OutputKind) :=
    [(">", .file), (">>", .appendix), ("|", .command)]
  match (← peek).kind with
  | .word w =>
    match kinds.lookup w with
    | none => return none
    | some kind =>
      advance
      return some ⟨kind, ← expression false fuel⟩
  | _ => return none

/-- An expression in parentheses. -/
def condition (fuel : Nat) : Parser Expression := do
  expect "("
  let a ← expression false fuel
  expect ")"
  return a

/-- A statement without others in it. -/
def simple (fuel : Nat) : Parser Statement := do
  let t ← peek
  let optional : Parser (Option Expression) := do
    if ← endsStatement then return none else return some (← expression false fuel)
  match t.kind with
  | .word "print" =>
    advance
    let all ← printed fuel
    return .print all (← output fuel)
  | .word "printf" =>
    advance
    let all ← printed fuel
    if all.isEmpty then complain "no arguments in call to printf"
    return .printFormat all (← output fuel)
  | .word "next" =>
    if (← get).setting ≠ .record then complain "improper use of next"
    advance
    return .nextRecord
  | .word "nextfile" =>
    if (← get).setting ≠ .record then complain "improper use of nextfile"
    advance
    return .nextFile
  | .word "break" =>
    if (← get).loops = 0 then complain "break statement outside of loop"
    advance
    return .leave
  | .word "continue" =>
    if (← get).loops = 0 then complain "continue statement outside of loop"
    advance
    return .again
  | .word "exit" =>
    advance
    return .exit (← optional)
  | .word "return" =>
    match (← get).setting with
    | .function _ => pure ()
    | _ => complain "return outside function body"
    advance
    return .return (← optional)
  | .word "delete" =>
    advance
    let table ← tableName
    if ← accept "[" then
      let keys ← expressions false fuel
      expect "]"
      return .delete table keys
    return .clear table
  | _ => return .expression (← expression false fuel)

/-- Goes on behind something wrong: at the next statement, if there is one. The fuel is the number
of tokens. -/
def recover : (fuel : Nat) → Parser Bool
  | 0 => return false
  | fuel + 1 => do
    match (← peek).kind with
    | .programEnd => return false
    | .fault _ => return true
    | _ =>
      if ← endsStatement then
        separator
        return true
      else
        advance
        recover fuel

def looping {α : Type} (p : Parser α) : Parser α := do
  modify fun s => { s with loops := s.loops + 1 }
  let a ← p
  modify fun s => { s with loops := s.loops - 1 }
  return a

mutual

def statement : (fuel : Nat) → Parser Statement
  | 0 => unexpected
  | fuel + 1 => do
    match (← peek).kind with
    | .lineEnd | .word ";" =>
      advance
      return .nothing
    | .word "\x7b" =>
      advance
      return .block (← statements fuel)
    | .word "if" =>
      advance
      let a ← condition fuel
      skipLines
      let b ← statement fuel
      if ← accept "else" then
        skipLines
        return .choice a b (← statement fuel)
      return .choice a b .nothing
    | .word "while" =>
      advance
      let a ← condition fuel
      if ← accept ";" then return .repeatWhile a .nothing
      skipLines
      return .repeatWhile a (← looping (statement fuel))
    | .word "do" =>
      advance
      skipLines
      let body ← looping (statement fuel)
      expect "while"
      let a ← condition fuel
      separator
      return .repeatUntil body a
    | .word "for" =>
      advance
      forLoop fuel
    | _ =>
      let s ← simple fuel
      separator
      return s

def forLoop : (fuel : Nat) → Parser Statement
  | 0 => unexpected
  | fuel + 1 => do
    expect "("
    match (← get).tokens with
    | ⟨.name a _, _, _, _⟩ :: ⟨.word "in", _, _, _⟩ :: ⟨.name b _, _, _, _⟩ ::
        ⟨.word ")", _, _, _⟩ :: _ =>
      let v ← variableOf a .single
      let table ← variableOf b .table
      modify fun s => { s with tokens := s.tokens.drop 4 }
      skipLines
      return .eachKey v table (← looping (statement fuel))
    | _ =>
      let part (stop : String) : Parser (Option Expression) := do
        if ← accept stop then return none
        let a ← expression false fuel
        expect stop
        return some a
      let start ← part ";"
      let condition ← part ";"
      let step ← part ")"
      skipLines
      let body ← looping (statement fuel)
      let run (a : Option Expression) : Statement := match a with
        | some a => .expression a
        | none => .nothing
      return .loop (run start) condition (run step) body

/-- Statements up to a brace. -/
def statements : (fuel : Nat) → Parser (List Statement)
  | 0 => unexpected
  | fuel + 1 => do
    if ← accept "\x7d" then return []
    let start ← get
    let s ← try statement fuel catch fault => do
      if (← peek).kind.isFault || !(← recover fuel) then throw fault
      modify fun s => { s with faults := fault :: s.faults, loops := start.loops }
      pure .nothing
    match (← peek).kind with
    | .programEnd | .fault _ => unexpected
    | _ => return s :: (← statements fuel)

end

/-- An action in braces. -/
def action (setting : Setting) (fuel : Nat) : Parser Statement := do
  modify fun s => { s with setting, loops := 0 }
  expect "\x7b"
  let all ← statements fuel
  modify fun s => { s with setting := .record }
  return .block all

/-- The parameters of a function behind those that there are. -/
def parameters (function : String) : (fuel : Nat) → List String → Parser (List String)
  | 0, _ => unexpected
  | fuel + 1, before => do
    match (← peek).kind with
    | .name name _ =>
      if name = function then
        complain "function parameter cannot be the function"
        unexpected
      if before.contains name then complain s!"{name} is duplicated in argument list"
      advance
      if ← accept "," then parameters function fuel (before ++ [name])
      else
        expect ")"
        return before ++ [name]
    | _ => unexpected

def define (fuel : Nat) : Parser Unit := do
  match (← peek).kind with
  | .name name _ =>
    let s ← get
    match s.names.find? (·.1 = name) with
    | some (_, kind) =>
      let word := if kind = .table then "array" else "variable"
      complain s!"illegal reference to {word} {name}"
    | none => pure ()
    if s.functions.any fun f => f.name = name && f.body.isSome then
      complain s!"redefinition of {name}"
    let f ← functionNumber name
    advance
    expect "("
    let names ← if ← accept ")" then pure [] else parameters name fuel []
    modify fun s => { s with
      parameters := s.parameters.setIfInBounds f (names.map (·, .unknown))
      functions := s.functions.modify f fun x =>
        { x with parameters := names.length, body := some .nothing } }
    skipLines
    let body ← action (.function f) fuel
    modify fun s => { s with
      functions := s.functions.modify f fun x => { x with body := some body } }
  | _ => unexpected

/-- A rule, or a function, which is none. -/
def rule (fuel : Nat) : Parser (Option Rule) := do
  match (← peek).kind with
  | .word "function" =>
    advance
    define fuel
    return none
  | .word "BEGIN" =>
    advance
    return some ⟨.before, some (← action .edge fuel)⟩
  | .word "END" =>
    advance
    return some ⟨.after, some (← action .edge fuel)⟩
  | .word "\x7b" => return some ⟨.always, some (← action .record fuel)⟩
  | _ =>
    let a ← expression false fuel
    let pattern ← if ← accept "," then pure (.range a (← expression false fuel))
      else pure (.when a)
    if ← isAt "\x7b" then return some ⟨pattern, some (← action .record fuel)⟩
    separator
    return some ⟨pattern, none⟩

/-- Goes on behind something wrong outside of actions: behind the next one. The fuel is the number
of tokens. -/
def recoverOutside (depth : Nat) : (fuel : Nat) → Parser Unit
  | 0 => return
  | fuel + 1 => do
    match (← peek).kind with
    | .programEnd | .fault _ => return
    | .word "\x7b" => discard (try action .record depth catch _ => pure .nothing)
    | _ =>
      advance
      recoverOutside depth fuel

/-- The rules of a program. The fuel is the number of tokens. -/
def rules (depth : Nat) : (fuel : Nat) → Parser (List Rule)
  | 0 => return []
  | fuel + 1 => do
    match (← peek).kind with
    | .programEnd => return []
    | _ =>
      let found ← try rule depth catch fault => do
        modify fun s => { s with faults := fault :: s.faults, setting := .record }
        recoverOutside depth fuel
        pure none
      match (← peek).kind, (← get).faults with
      | .fault _, _ :: _ => return found.toList
      | _, _ => return found.toList ++ (← rules depth fuel)

/-- What is wrong with a call. -/
def callFault (s : Parsing) (last : Nat) (c : CallSite) : Option Fault := do
  let f ← s.functions[c.function]?
  if f.body.isNone then some (.at last s!"function {f.name} never defined")
  else if f.parameters < c.args.length then
    some (.at c.line s!"too many arguments in call to {f.name}")
  else
    let wanted := ((s.parameters[c.function]?).getD []).map (·.2)
    let given := c.args.map fun
      | none => NameKind.single
      | some (.global i) => ((s.names[i]?).map (·.2)).getD .unknown
      | some (.parameter i) => match c.setting with
        | .function g => ((((s.parameters[g]?).getD [])[i]?).map (·.2)).getD .unknown
        | _ => .unknown
    let word (k : NameKind) : String := if k = .table then "array" else "variable"
    let pairs := given.zip wanted
    let place ← pairs.findIdx? fun (a, b) => a ≠ b && a ≠ .unknown && b ≠ .unknown
    let (a, b) ← pairs[place]?
    some (.at c.line (s!"type error in arg({place + 1}) in call to {f.name} " ++
      s!"(actual local {word a} vs local {word b})"))

end Parser

/-- The program of a text, or what is wrong with it. -/
def parse (s : List Char) : Except (List Fault) Program :=
  let (tokens, extras) := tokensOf s
  let depth := 16 * (tokens.length + 2)
  let (found, after) := (Parser.rules depth (tokens.length + 1)).run.run { tokens }
  let extras := extras.map fun (line, message) => Fault.at line message
  let last := ((tokens.getLast?).map (·.line)).getD 1
  let faults := extras ++ after.faults.reverse
  let faults := if faults.isEmpty then
    after.calls.reverse.filterMap (Parser.callFault after last) else faults
  match found with
  | .error fault => .error (faults ++ [fault])
  | .ok rules =>
    if faults.isEmpty then .ok ⟨rules, after.functions, after.names.map (·.1)⟩ else .error faults

end ReleasePreview.Awk
