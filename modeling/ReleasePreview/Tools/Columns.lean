import ReleasePreview.Tools.Pieces

/-! Programs for fields and columns of lines. -/
namespace ReleasePreview.Tools

/-- Numbers from a first to a last one. -/
abbrev Span := Nat × Option Nat

def Span.contains (n : Nat) (r : Span) : Bool := r.1 ≤ n && r.2.all (n ≤ ·)

/-- The spans of a list, or what is wrong with it. -/
def spans (isField : Bool) (list : String) : Except String (List Span) :=
  let parts := (Text.split ',' (list.toList.map fun c => if c = ' ' then ',' else c))
  parts.mapM fun part => do
    let number (s : List Char) (usual : Nat) : Except String Nat :=
      if s.isEmpty then .ok usual
      else match Decimal.natural? s with
        | some 0 => .error (if isField then "fields are numbered from 1"
            else "byte/character positions are numbered from 1")
        | some n => .ok n
        | none => .error (if isField then s!"invalid field value '{String.ofList s}'"
            else s!"invalid byte/character position '{String.ofList s}'")
    let front := part.takeWhile (· ≠ '-')
    match part.drop front.length with
    | [] =>
      if front.isEmpty then
        throw (if isField then "fields are numbered from 1"
          else "byte/character positions are numbered from 1")
      let n ← number front 1
      return (n, some n)
    | _ :: back =>
      if front.isEmpty && back.isEmpty then throw "invalid range with no endpoint: -"
      let low ← number front 1
      if back.isEmpty then return (low, none)
      let high ← number back 1
      if high < low then throw "invalid decreasing range"
      return (low, some high)

/-- The members of a list whose places are in some spans. -/
def chosen {α : Type} (isChosen : Nat → Bool) (l : List α) : List α :=
  (l.zipIdx.filter fun (_, i) => isChosen (i + 1)).map (·.1)

def cut : Tool := fun _ => withOptions
  { letters := "b:c:d:f:nszXO:"
    names := [("bytes", 'b'), ("characters", 'c'), ("fields", 'f'), ("delimiter", 'd'),
      ("only-delimited", 's'), ("complement", 'X'), ("output-delimiter", 'O')] } 1 fun c o => do
  let lists := o.found.filter fun f => f.1 = 'b' || f.1 = 'c' || f.1 = 'f'
  match lists with
  | [] => misuse c "you must specify a list of bytes, characters, or fields" 1
  | _ :: _ :: _ => misuse c "only one list may be specified" 1
  | [(letter, list)] =>
    let isField := letter = 'f'
    match spans isField list, ((o.value? 'd').getD "\t").toList with
    | .error message, _ => misuse c message 1
    | .ok _, _ :: _ :: _ => misuse c "the delimiter must be a single character" 1
    | .ok ranges, d =>
      let d := d.headD '\x00'
      let isChosen (n : Nat) : Bool := (ranges.any (Span.contains n)) != o.has 'X'
      let joint := ((o.value? 'O').map (·.toList)).getD [d]
      let step (_ : Unit) (line : List Char) : Step Unit :=
        let text := bare line
        let output :=
          if !isField then chosen isChosen text ++ ['\n']
          else if !text.contains d then if o.has 's' then [] else text ++ ['\n']
          else joint.intercalate (chosen isChosen (Text.split d text)) ++ ['\n']
        { state := (), output }
      let (_, status) ← eachLineOf c 1 step "" 0 () (orInput o.args)
      return status

/-- The delimiters of a list with escapes. -/
def delimiters : List Char → List (List Char)
  | '\\' :: '0' :: s => [] :: delimiters s
  | '\\' :: 'n' :: s => ['\n'] :: delimiters s
  | '\\' :: 't' :: s => ['\t'] :: delimiters s
  | '\\' :: c :: s => [c] :: delimiters s
  | c :: s => [c] :: delimiters s
  | [] => []

/-- Texts with delimiters between them, which are taken in turn. -/
def pasted (ds : Array (List Char)) (fields : List (List Char)) : List Char :=
  (fields.zipIdx.map fun (field, i) =>
    (if i = 0 then [] else ds[(i - 1) % ds.size]?.getD []) ++ field).flatten

/-- The inputs as lines; the standard input is dealt out to all its mentions. -/
def inputLines (c : ProgramCall) (paths : List String) :
    Program (Option (List (List (List Char)))) := do
  let shares := paths.count "-"
  let own ← if shares = 0 then pure [] else do
    let (text, _) ← textOf c 1 ["-"]
    pure ((linesOf text).map bare)
  let rec go (taken : Nat) (done : List (List (List Char))) : List String →
      Program (Option (List (List (List Char))))
    | [] => return some done.reverse
    | path :: paths => do
      if path = "-" then
        let part := (own.zipIdx.filter fun (_, i) => i % shares = taken).map (·.1)
        go (taken + 1) (part :: done) paths
      else
        let (text, status) ← textOf c 1 [path]
        if status ≠ 0 then return none else go taken ((linesOf text).map bare :: done) paths
  go 0 [] paths

def paste : Tool := fun _ => withOptions
  { letters := "d:sz", names := [("delimiters", 'd'), ("serial", 's')] } 1 fun c o => do
  let ds := (delimiters ((o.value? 'd').getD "\t").toList).toArray
  let ds := if ds.isEmpty then #[[]] else ds
  match ← inputLines c (orInput o.args) with
  | none => return 1
  | some inputs =>
    if o.has 's' then writeAll (inputs.map fun lines => pasted ds lines ++ ['\n'])
    else
      let height := (inputs.map (·.length)).foldl max 0
      let columns := inputs.map (·.toArray)
      writeAll <| (List.range height).map fun i =>
        pasted ds (columns.map fun column => column[i]?.getD []) ++ ['\n']
    return 0

/-- The column behind a character. -/
def columnBehind (column : Nat) : Char → Nat
  | '\t' => column + 8 - column % 8
  | '\x08' => column - 1
  | '\r' => 0
  | _ => column + 1

/-- Cuts a line where it gets too wide; with `atBlanks` behind the last blank if there is one. The
characters that have been taken come backwards. The fuel is twice the length of the line. -/
def folded (behind : Nat → Char → Nat) (width : Nat) (atBlanks : Bool) :
    (fuel : Nat) → (taken : List Char) → List Char → List Char
  | 0, taken, s => taken.reverse ++ s
  | _, taken, [] => taken.reverse
  | fuel + 1, taken, c :: s =>
    if behind (taken.reverse.foldl behind 0) c ≤ width then
      folded behind width atBlanks fuel (c :: taken) s
    else
      let after := taken.takeWhile fun c => c ≠ ' ' && c ≠ '\t'
      let front := taken.drop after.length
      if atBlanks && !front.isEmpty then
        front.reverse ++ '\n' :: folded behind width atBlanks fuel after (c :: s)
      else if taken.isEmpty then folded behind width atBlanks fuel [c] s
      else taken.reverse ++ '\n' :: folded behind width atBlanks fuel [] (c :: s)

/-- Arguments with a number behind a dash as a width. -/
def withWidths (args : List String) : List String :=
  args.map fun arg =>
    match arg.toList with
    | '-' :: c :: s => if Decimal.isDigit c then String.ofList ('-' :: 'w' :: c :: s) else arg
    | _ => arg

def fold : Tool := fun _ call => withOptions
  { letters := "bsw:", names := [("bytes", 'b'), ("spaces", 's'), ("width", 'w')] } 1
  (act · ·) { call with args := withWidths call.args }
where act (c : ProgramCall) (o : Options) : Program Nat := do
  match Decimal.natural? ((o.value? 'w').getD "80").toList with
  | none | some 0 =>
    complain c ("invalid number of columns: " ++ quotedName ((o.value? 'w').getD ""))
    return 1
  | some width =>
    let behind := if o.has 'b' then fun n (_ : Char) => n + 1 else columnBehind
    let step (_ : Unit) (line : List Char) : Step Unit :=
      let text := bare line
      { state := ()
        output := folded behind width (o.has 's') (2 * text.length + 2) [] text ++
          line.drop text.length }
    let (_, status) ← eachLineOf c 1 step "" 0 () (orInput o.args)
    return status

/-- A line with blanks for its tabs. -/
def withoutTabs (size : Nat) : (at_ : Nat) → List Char → List Char
  | _, [] => []
  | n, '\t' :: s =>
    let width := size - n % size
    List.replicate width ' ' ++ withoutTabs size (n + width) s
  | _, '\n' :: s => '\n' :: withoutTabs size 0 s
  | n, c :: s => c :: withoutTabs size (n + 1) s

def expand : Tool := fun _ => withOptions
  { letters := "it:", names := [("tabs", 't')] } 1 fun c o => do
  let size := max 1 (((o.value? 't').bind (·.toNat?)).getD 8)
  let step (_ : Unit) (line : List Char) : Step Unit :=
    { state := (), output := withoutTabs size 0 line }
  let (_, status) ← eachLineOf c 1 step "" 0 () (orInput o.args)
  return status

end ReleasePreview.Tools
