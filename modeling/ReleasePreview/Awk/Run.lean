import ReleasePreview.Awk.Parse
import ReleasePreview.Awk.Stream

/-! What expressions, statements and rules do. -/
namespace ReleasePreview.Awk.Running

/-- A target whose keys are known. -/
inductive Location where
  | named (v : Variable)
  | element (table : Nat) (key : TableKey)
  | field (number : Nat)

def load : Location → Running Value
  | .named v => valueOf v
  | .element n key => do
    return (← withTable n fun t => t.seek key true).getD .unset
  | .field n => field n

def store (a : Value) : Location → Running Unit
  | .named v => setValue v a
  | .element n key => withTable n fun t => (t.set key a, ())
  | .field n => setField n a

/-- A part of a replacement: a text, or all that has matched. -/
def replacementParts : (fuel : Nat) → List Char → List (Option (List Char))
  | 0, _ => []
  | _, [] => []
  | fuel + 1, '&' :: s => none :: replacementParts fuel s
  | fuel + 1, '\\' :: s =>
    let more := s.takeWhile (· = '\\')
    let count := more.length + 1
    match s.drop more.length with
    | '&' :: rest =>
      let front := some (List.replicate (count / 2) '\\')
      if count % 2 = 0 then front :: none :: replacementParts fuel rest
      else front :: some ['&'] :: replacementParts fuel rest
    | rest => some ('\\' :: more) :: replacementParts fuel rest
  | fuel + 1, c :: s => some [c] :: replacementParts fuel s

/-- Replaces matches from a place on. Gives the pieces of the result and the number of matches. A
match of nothing right behind another one does not count. The fuel is the length of the text. -/
def replaced (e : Regex.Expression) (parts : List (Option (List Char))) (t : Regex.Subject)
    (all : Bool) : (fuel : Nat) → (start : Nat) → (behind : Bool) → List (List Char) × Nat
  | 0, start, _ => ([(t.text.extract start t.size).toList], 0)
  | fuel + 1, start, behind =>
    let rest := [(t.text.extract start t.size).toList]
    match e.search? t false start with
    | none => (rest, 0)
    | some m =>
      let text (start stop : Nat) : List Char := (t.text.extract start stop).toList
      let found := text m.start m.stop
      let image := parts.flatMap fun part => part.getD found
      if m.stop = m.start && behind && m.start = start then
        if t.size ≤ start then (rest, 0)
        else
          let (more, n) := replaced e parts t all fuel (start + 1) false
          (text start (start + 1) :: more, n)
      else
        let front := text start m.start
        if !all then ([front, image, text m.stop t.size], 1)
        else if m.stop = m.start then
          if t.size ≤ m.stop then ([front, image], 1)
          else
            let (more, n) := replaced e parts t all fuel (m.stop + 1) false
            (front :: image :: text m.stop (m.stop + 1) :: more, n + 1)
        else
          let (more, n) := replaced e parts t all fuel m.stop true
          (front :: image :: more, n + 1)

/-- The place of a text in another one, counted from one; zero if it is not there. -/
def placeIn (s r : List Char) : Nat :=
  let rec go (n : Nat) : List Char → Nat
    | [] => 0
    | c :: s => if r.isPrefixOf (c :: s) then n else go (n + 1) s
  if r.isEmpty then 1 else go 1 s

/-- A part of a text by its first place, counted from one, and its length. -/
def part (s : List Char) (first : Int) (length : Option Int) : List Char :=
  let tail := s.drop (first - 1).toNat
  match length with
  | none => tail
  | some n => tail.take (n - min first 0).toNat

/-- The next random number of 64 bits. -/
def randomStep (n : Nat) : Nat :=
  (n * 6364136223846793005 + 1442695040888963407) % 18446744073709551616

/-- A number without its places. -/
def whole (x : Float) : Float := if x < 0 then x.ceil else x.floor

/-- A builtin function of values. -/
def applied (b : Builtin) (args : List Value) : Running Value := do
  let first := (args.head?).getD .unset
  let second := ((args.drop 1).head?).getD .unset
  let x := first.toNumber
  let number (x : Float) : Running Value := return .number x
  match b with
  | .arctangent => number (Float.atan2 x second.toNumber)
  | .cosine => number x.cos
  | .sine => number x.sin
  | .exponential => number x.exp
  | .logarithm => number x.log
  | .squareRoot => number x.sqrt
  | .whole => number (whole x)
  | .close => number (Float.ofInt (← closeName (← textOf first)))
  | .flush =>
    flush
    return .number 0
  | .format =>
    let format ← textOf first
    let (text, fault) := formatted (← texts) format (args.drop 1)
    match fault with
    | some fault => fail (fault.message "sprintf" format)
    | none => return .text text
  | .index =>
    number (Float.ofNat (placeIn (← textOf first).toList (← textOf second).toList))
  | .length =>
    let a ← if args.isEmpty then field 0 else pure first
    number (Float.ofNat (← textOf a).length)
  | .lower => return .text ((← textOf first).map Char.toLower)
  | .upper => return .text ((← textOf first).map Char.toUpper)
  | .match => return .unset
  | .random =>
    let n := randomStep (← get).random
    modify fun s => { s with random := n }
    number (Float.ofNat (n / 4096) / 4503599627370496.0)
  | .seed =>
    let s ← get
    let seed := if args.isEmpty then s.seed + 1 else (truncated x).natAbs
    set { s with seed, random := seed }
    number (Float.ofNat s.seed)
  | .substring =>
    let length := (args.drop 2).head?.map fun a => truncated a.toNumber
    let start := if second.toNumber.isNaN then 0 else truncated second.toNumber
    return .text (String.ofList (part (← textOf first).toList start length))
  | .system =>
    flush
    let s ← get
    let outcome ← perform (Tools.runCommand s.launch s.call (← textOf first))
    number (Float.ofInt (statusOf outcome))

/-- Whether a regular expression matches somewhere in a text. -/
def occurs (e : Regex.Expression) (s : String) : Bool :=
  (e.search? { text := s.toList.toArray } false 0).isSome

/-- The text that a value is printed as. -/
def printedText (a : Value) : Running String := do
  match a with
  | .number x =>
    match integer? x with
    | some n => return toString n
    | none => return fractionText (← textOf (← global .outputFormat)) x
  | a => textOf a

/-- The parameters of calls within each other that there is room for. -/
def maxSlots : Nat := 1006

/-- The calls within each other that there is room for. -/
def maxCalls : Nat := 10000

mutual

def evaluate : (fuel : Nat) → Expression → Running Value
  | 0, _ => abort "program limit exceeded"
  | fuel + 1, e => do
    match e with
    | .number x => return .number x
    | .text s => return .text s
    | .pattern e => return .ofBool (occurs e (← textOf (← field 0)))
    | .target (.named v) => valueOf v
    | .target t => load (← locate fuel t)
    | .group a => evaluate fuel a
    | .assign none t a =>
      let place ← locate fuel t
      let a ← evaluate fuel a
      store a place
      return a
    | .assign (some operation) t a =>
      let place ← locate fuel t
      let b ← evaluate fuel a
      let a ← load place
      let result := Value.number (operation.apply a.toNumber b.toNumber)
      store result place
      return result
    | .step t up before =>
      let place ← locate fuel t
      let x := (← load place).toNumber
      let y := if up then x + 1 else x - 1
      store (.number y) place
      return .number (if before then y else x)
    | .choice c a b =>
      if (← evaluate fuel c).isTrue then evaluate fuel a else evaluate fuel b
    | .either a b =>
      if (← evaluate fuel a).isTrue then return .ofBool true
      return .ofBool (← evaluate fuel b).isTrue
    | .both a b =>
      if !(← evaluate fuel a).isTrue then return .ofBool false
      return .ofBool (← evaluate fuel b).isTrue
    | .hasKey v keys =>
      let n ← tableOf v
      let key ← keyFrom fuel keys
      return .ofBool (← withTable n fun t => t.seek key false).isSome
    | .matches negated a p =>
      let s ← textOf (← evaluate fuel a)
      return .ofBool (occurs (← regexFrom fuel p) s != negated)
    | .compare c a b =>
      let a ← evaluate fuel a
      let b ← evaluate fuel b
      return .ofBool (c.holds (a.order (← texts) b))
    | .join a b =>
      let a ← textOf (← evaluate fuel a)
      let b ← textOf (← evaluate fuel b)
      return .text (a ++ b)
    | .calculate operation a b =>
      let a ← evaluate fuel a
      let b ← evaluate fuel b
      return .number (operation.apply a.toNumber b.toNumber)
    | .plus a => return .number (← evaluate fuel a).toNumber
    | .minus a => return .number (-(← evaluate fuel a).toNumber)
    | .not a => return .ofBool (!(← evaluate fuel a).isTrue)
    | .call f args => call fuel f args
    | .builtin .match [a, p] =>
      let s ← textOf (← evaluate fuel a)
      let e ← regexFrom fuel p
      let t : Regex.Subject := { text := s.toList.toArray }
      let (start, length) : Float × Float := match e.search? t false 0 with
        | some m => (Float.ofNat (m.start + 1), Float.ofNat (m.stop - m.start))
        | none => (0, -1)
      setPlain .matchStart (.number start)
      setPlain .matchLength (.number length)
      return .number start
    | .builtin b args => applied b (← values fuel args)
    | .sizeOf v =>
      match ← cell v with
      | .table n => return .number (Float.ofNat (← table n).size)
      | _ => return .number (Float.ofNat (← textOf (← valueOf v)).length)
    | .split a v separator =>
      let s ← textOf (← evaluate fuel a)
      let separator ← match separator with
        | none => separatorOf (← textOf (← global .fieldSeparator))
        | some (.pattern .empty) => pure .nothing
        | some (.pattern e) => pure (.pattern e)
        | some a => separatorOf (← textOf (← evaluate fuel a))
      let row := (separator.parts s.toList).map fun part => Value.input (String.ofList part)
      let n ← tableOf v
      withTable n fun _ => (Table.ofRow row.toArray, ())
      return .number (Float.ofNat row.length)
    | .substitute all p replacement t =>
      let e ← regexFrom fuel p
      let r := (← textOf (← evaluate fuel replacement)).toList
      let place ← locate fuel t
      let s ← textOf (← load place)
      let t : Regex.Subject := { text := s.toList.toArray }
      let (pieces, n) :=
        replaced e (replacementParts (r.length + 1) r) t all (t.size + 2) 0 false
      if n ≠ 0 then store (.text (String.ofList pieces.flatten)) place
      return .number (Float.ofNat n)
    | .getLine t =>
      match ← nextRecord Program.fuel with
      | none => return .number 0
      | some record =>
        put fuel t record
        return .number 1
    | .getLineOf t path =>
      let path ← textOf (← evaluate fuel path)
      taken fuel t (← nextFrom false path)
    | .getLineFrom command t =>
      let command ← textOf (← evaluate fuel command)
      taken fuel t (← nextFrom true command)

def values : (fuel : Nat) → List Expression → Running (List Value)
  | 0, _ => return []
  | _, [] => return []
  | fuel + 1, a :: args => do
    let a ← evaluate fuel a
    return a :: (← values fuel args)

/-- The key of some values. -/
def keyFrom : (fuel : Nat) → List Expression → Running TableKey
  | 0, _ => return .text ""
  | fuel + 1, [a] => do keyOf (← evaluate fuel a)
  | fuel + 1, all => do
    let parts ← (← values fuel all).mapM textOf
    return .text ((← textOf (← global .keySeparator)).intercalate parts)

def locate : (fuel : Nat) → Target → Running Location
  | 0, _ => abort "program limit exceeded"
  | fuel + 1, t => do
    match t with
    | .named v => return .named v
    | .field a => return .field (← fieldNumber (← evaluate fuel a))
    | .element v keys =>
      let key ← keyFrom fuel keys
      let n ← tableOf v
      discard (withTable n fun t => t.seek key true)
      return .element n key

def regexFrom : (fuel : Nat) → Expression → Running Regex.Expression
  | 0, _ => return .empty
  | _, .pattern e => return e
  | fuel + 1, a => do patternOf (← textOf (← evaluate fuel a))

/-- Puts a line where it is read into. -/
def put : (fuel : Nat) → Option Target → String → Running Unit
  | 0, _, _ => return
  | _, none, line => setField 0 (.input line)
  | fuel + 1, some t, line => do store (.input line) (← locate fuel t)

/-- Puts a line where it is read into. Gives what is told of it. -/
def taken : (fuel : Nat) → Option Target → Except Unit (Option String) → Running Value
  | 0, _, _ => return .unset
  | fuel + 1, t, found => do
    match found with
    | .error _ => return .number (-1)
    | .ok none => return .number 0
    | .ok (some line) =>
      put fuel t line
      return .number 1

def call : (fuel : Nat) → (function : Nat) → List Expression → Running Value
  | 0, _, _ => abort "function call nesting too deep"
  | fuel + 1, number, args => do
    let some f := (← get).program.functions[number]? | return .unset
    let given ← cells fuel args
    let own := given.toArray ++ Array.replicate (f.parameters - given.length) (Cell.unset none)
    tick
    let inner := (← get).calls
    let slots := inner.foldl (fun n cells => n + cells.size) f.parameters
    if maxSlots < slots || maxCalls < inner.size then
      abort "program limit exceeded: eval stack size=1024"
    modify fun s => { s with calls := s.calls.push own }
    let leave : Running Unit := modify fun s => { s with calls := s.calls.pop }
    try
      execute fuel (f.body.getD .nothing)
      leave
      return .unset
    catch
      | .returned a =>
        leave
        return a
      | stop => throw stop

/-- What parameters hold at first. -/
def cells : (fuel : Nat) → List Expression → Running (List Cell)
  | 0, _ => return []
  | _, [] => return []
  | fuel + 1, a :: args => do
    let c ← match a with
      | .target (.named v) =>
        match ← cell v with
        | .table n => pure (.table n)
        | .unset _ =>
          if v = .global Special.fieldCount.number then pure (.value (← valueOf v))
          else pure (.unset (some (← originOf v)))
        | .value _ => pure (.value (← valueOf v))
      | a => pure (.value (← evaluate fuel a))
    return c :: (← cells fuel args)

def execute : (fuel : Nat) → Statement → Running Unit
  | 0, _ => abort "program limit exceeded"
  | fuel + 1, s => do
    match s with
    | .nothing => return
    | .expression a => discard (evaluate fuel a)
    | .print args output =>
      let text ← match args with
        | [] => textOf (← field 0)
        | args =>
          let parts ← (← values fuel args).mapM printedText
          pure ((← textOf (← global .outputFieldSeparator)).intercalate parts)
      emit fuel output (text ++ (← textOf (← global .outputRecordSeparator)))
    | .printFormat args output =>
      match ← values fuel args with
      | [] => return
      | format :: args =>
        let format ← textOf format
        let (text, fault) := formatted (← texts) format args
        emit fuel output text
        match fault with
        | some fault => fail (fault.message "printf" format)
        | none => return
    | .block all => executeAll fuel all
    | .choice c a b =>
      if (← evaluate fuel c).isTrue then execute fuel a else execute fuel b
    | .repeatWhile c body => repeatWhile fuel (some c) .nothing body
    | .repeatUntil body c =>
      if ← goesOn fuel body then repeatWhile fuel (some c) .nothing body
    | .loop start c step body =>
      execute fuel start
      repeatWhile fuel c step body
    | .eachKey v t body =>
      let n ← tableOf t
      let keys ← withTable n fun t => t.keys
      eachKey fuel v body keys
    | .leave => throw .leave
    | .again => throw .again
    | .nextRecord => throw .nextRecord
    | .nextFile => throw .nextFile
    | .exit none => throw .exit
    | .exit (some a) =>
      let n := truncated (← evaluate fuel a).toNumber
      modify fun s => { s with status := (Int.emod n 256).toNat }
      throw .exit
    | .return none => throw (.returned .unset)
    | .return (some a) => throw (.returned (← evaluate fuel a))
    | .delete v keys =>
      let key ← keyFrom fuel keys
      let n ← tableOf v
      withTable n fun t => (t.erase key, ())
    | .clear v =>
      let n ← tableOf v
      withTable n fun _ => ({}, ())

def executeAll : (fuel : Nat) → List Statement → Running Unit
  | 0, _ => return
  | _, [] => return
  | fuel + 1, s :: all => do
    execute fuel s
    executeAll fuel all

/-- Does what is done again and again, and tells whether it is to be done once more. -/
def goesOn : (fuel : Nat) → Statement → Running Bool
  | 0, _ => return false
  | fuel + 1, body => do
    tick
    try
      execute fuel body
      return true
    catch
      | .leave => return false
      | .again => return true
      | stop => throw stop

def repeatWhile : (fuel : Nat) → Option Expression → (step body : Statement) → Running Unit
  | 0, _, _, _ => return
  | fuel + 1, c, step, body => do
    let holds ← match c with
      | some c => pure (← evaluate fuel c).isTrue
      | none => pure true
    if holds then
      if ← goesOn fuel body then
        execute fuel step
        repeatWhile fuel c step body

def eachKey : (fuel : Nat) → Variable → Statement → List String → Running Unit
  | 0, _, _, _ => return
  | _, _, _, [] => return
  | fuel + 1, v, body, key :: keys => do
    setValue v (.text key)
    if ← goesOn fuel body then eachKey fuel v body keys

/-- Prints a text. -/
def emit : (fuel : Nat) → Option Output → String → Running Unit
  | 0, _, _ => return
  | _, none, text => write text
  | fuel + 1, some o, text => do
    writeTo o.kind (← textOf (← evaluate fuel o.name)) text

end

end ReleasePreview.Awk.Running
