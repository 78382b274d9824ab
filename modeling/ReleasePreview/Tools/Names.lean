import ReleasePreview.Format.Print
import ReleasePreview.Shell.Condition
import ReleasePreview.Files.Access
import ReleasePreview.Tools.Basic

/-! Programs that write texts made of their arguments, and programs that only have a status. -/
namespace ReleasePreview.Tools

def succeed : Tool := fun _ _ => return 0

def failure : Tool := fun _ _ => return 1

/-- The last name of a path. -/
def lastName (path : String) : String :=
  match ((Text.split '/' path.toList).filter (!·.isEmpty)).getLast? with
  | some name => String.ofList name
  | none => if path.isEmpty then "" else "/"

/-- A name without an end that is not all of it. -/
def withoutEnd (suffix name : String) : String :=
  if name ≠ suffix && !suffix.isEmpty && name.endsWith suffix then
    String.ofList (name.toList.take (name.length - suffix.length))
  else name

def basename : Tool := fun _ => withOptions
  { letters := "as:z", names := [("multiple", 'a'), ("suffix", 's')], anywhere := false } 1
  fun c o => do
  match o.args, o.has 'a' || o.has 's' with
  | [], _ => misuse c "missing operand" 1
  | args, true =>
    let suffix := (o.value? 's').getD ""
    Program.out (String.join (args.map fun a => withoutEnd suffix (lastName a) ++ "\n"))
    return 0
  | [path], false =>
    Program.out (lastName path ++ "\n")
    return 0
  | [path, suffix], false =>
    Program.out (withoutEnd suffix (lastName path) ++ "\n")
    return 0
  | _ :: _ :: extra :: _, false => misuse c s!"extra operand '{extra}'" 1

/-- A path without its last name. -/
def directoryName (path : String) : String :=
  let isSlash (c : Char) : Bool := c = '/'
  let s := path.toList.reverse.dropWhile isSlash
  let front := (s.dropWhile (!isSlash ·)).dropWhile isSlash
  if !front.isEmpty then String.ofList front.reverse
  else if Path.isAbsolute path then "/" else "."

def dirname : Tool := fun _ => withOptions { letters := "z" } 1 fun c o => do
  if o.args.isEmpty then misuse c "missing operand" 1
  else
    Program.out (String.join (o.args.map fun a => directoryName a ++ "\n"))
    return 0

/-- The options in front of a text to be written, each of some letters alone. -/
def echoOptions : List String → List Char × List String
  | arg :: args =>
    match arg.toList with
    | '-' :: c :: cs =>
      if (c :: cs).all "neE".toList.contains then
        let (letters, rest) := echoOptions args
        (c :: cs ++ letters, rest)
      else ([], arg :: args)
    | _ => ([], arg :: args)
  | [] => ([], [])

def hexDigits (s : List Char) : List Char :=
  (s.take 2).takeWhile fun c => (Decimal.digit? 16 c).isSome

/-- A text with its hexadecimal escapes written as octal ones, with this in front of the digits. -/
def withoutHex (front : List Char) : List Char → List Char
  | '\\' :: '\\' :: s => '\\' :: '\\' :: withoutHex front s
  | '\\' :: 'x' :: s =>
    match hexDigits s with
    | [] => '\\' :: 'x' :: withoutHex front s
    | digits =>
      let n := (Decimal.positional? 16 digits).getD 0
      let octal := Nat.toDigits 8 n
      let digitsOf := List.replicate (3 - octal.length) '0' ++ octal
      '\\' :: front ++ digitsOf ++ withoutHex front (s.drop digits.length)
  | c :: s => c :: withoutHex front s
  | [] => []
termination_by s => s.length
decreasing_by all_goals simp_all <;> omega

def echo : Tool := fun _ c => do
  let (letters, args) := echoOptions c.args
  let escapes := (letters.filter (· ≠ 'n')).getLast? = some 'e'
  let text := " ".intercalate args
  let ending := if letters.contains 'n' then "" else "\n"
  if escapes then
    let (s, goesOn) := Format.unescaped (String.ofList (withoutHex ['0'] text.toList))
    Program.out (String.ofList s ++ (if goesOn then ending else ""))
  else Program.out (text ++ ending)
  return 0

def complaintText : Format.Complaint → String
  | .notNumeric arg => s!"'{arg}': expected a numeric value"
  | .partlyNumeric arg => s!"'{arg}': value not completely converted"
  | .outOfRange arg => s!"'{arg}': Numerical result out of range"

def printf : Tool := fun _ c => do
  match if c.args.head? = some "--" then c.args.drop 1 else c.args with
  | [] => misuse c "missing operand" 1
  | format :: args =>
    let p := Format.printed (String.ofList (withoutHex [] format.toList)) args
    Program.out p.text
    p.complaints.forM fun e => complain c (complaintText e)
    match p.halt with
    | some (.noConversion text) =>
      complain c s!"{text}: invalid conversion specification"
      return 1
    | some .noLetter =>
      complain c "%: invalid conversion specification"
      return 1
    | _ => return if p.complaints.isEmpty then 0 else 1

/-- What is wrong with the words of a condition. -/
def conditionFault (args : List String) (message : String) : String :=
  match args with
  | [a] => s!"missing argument after '{a}'"
  | [a, b] =>
    if a.startsWith "-" && a.length = 2 then s!"'{a}': unary operator expected"
    else s!"missing argument after '{b}'"
  | [_, operator, _] =>
    if message.startsWith "Illegal number: " then s!"invalid integer '{message.drop 16}'"
    else s!"'{operator}': binary operator expected"
  | args => "extra argument " ++ quotedName (args.getLast?.getD "")

def condition (c : ProgramCall) (args : List String) : Program Nat := do
  let facts ← Program.files fun files directory =>
    ({ files, directory, ranksMissing := true } : Shell.Condition.Facts)
  let args := args.map fun a => if a = "==" then "=" else a
  match Shell.Condition.holds facts args with
  | .ok true => return 0
  | .ok false => return 1
  | .error message =>
    complain c (conditionFault args message)
    return 2

def test : Tool := fun _ c => condition c c.args

def bracket : Tool := fun _ c => do
  if c.args.getLast? = some "]" then condition c c.args.dropLast
  else
    complain c "missing ']'"
    return 2

/-- A decimal number: a whole number, and how many of its digits stand behind the point. -/
structure DecimalNumber where
  digits : Int
  places : Nat
  /-- The places as they are written. -/
  shown : Nat := places

def decimal? (s : List Char) : Option DecimalNumber := do
  let (negative, s) := match s with
    | '-' :: s => (true, s)
    | '+' :: s => (false, s)
    | s => (false, s)
  let whole := s.takeWhile Decimal.isDigit
  let s := s.drop whole.length
  let (part, s) := match s with
    | '.' :: s => (s.takeWhile Decimal.isDigit, s.dropWhile Decimal.isDigit)
    | s => ([], s)
  if whole.isEmpty && part.isEmpty then none
  let n : Int := Decimal.naturalValue (whole ++ part)
  let n := if negative then -n else n
  match s with
  | [] => return ⟨n, part.length, part.length⟩
  | e :: s =>
    if e ≠ 'e' && e ≠ 'E' then none
    else
      let (power, rest) ← Decimal.decimalInteger? s
      if !rest.isEmpty || 100 < power.natAbs then none
      else
        let places : Int := part.length - power
        if places < 0 then return ⟨n * Nat.pow 10 (-places).toNat, 0, 0⟩
        else return ⟨n, places.toNat, places.toNat⟩

/-- The digits of a number with so many places. -/
def DecimalNumber.scaled (x : DecimalNumber) (places : Nat) : Int :=
  x.digits * Nat.pow 10 (places - x.places)

/-- A number of so many places as a text, with zeros in front up to a width. -/
def decimalText (places width : Nat) (n : Int) : List Char :=
  let ds := Format.withPoint places false (Nat.toDigits 10 n.natAbs)
  let sign := if n < 0 then ['-'] else []
  sign ++ List.replicate (width - sign.length - ds.length) '0' ++ ds

/-- Writes numbers, some at a time. -/
def writeNumbers (text : Int → List Char) (gap : List Char) (step last : Int) :
    (fuel : Nat) → Int → Program Unit
  | 0, _ => return
  | fuel + 1, n =>
    let isOver (n : Int) : Bool := if 0 < step then last < n else n < last
    if isOver n then return
    else do
      let all := (List.range 512).map fun (i : Nat) => n + step * (i : Int)
      let body := gap.intercalate ((all.filter (!isOver ·)).map text)
      let next := n + step * 512
      match ← Program.put 1 (String.ofList (body ++ if isOver next then ['\n'] else gap)) with
      | some _ => return
      | none => writeNumbers text gap step last fuel next

/-- Arguments up to the first number, which may have a sign. -/
def seqOptions : List String → List String × List String
  | arg :: args =>
    match arg.toList with
    | '-' :: c :: _ =>
      if Decimal.isDigit c || c = '.' then ([], arg :: args)
      else
        let taken := if arg = "-s" || arg = "-f" then args.take 1 else []
        let (front, rest) := seqOptions (args.drop taken.length)
        (arg :: taken ++ front, rest)
    | _ => ([], arg :: args)
  | [] => ([], [])
termination_by args => args.length
decreasing_by simp only [List.length_cons, List.length_drop]; omega

/-- Numbers from a first to a last one. -/
def seq : Tool := fun _ c => do
  let (front, operands) := seqOptions c.args
  withOptions
    { letters := "f:s:w", names := [("format", 'f'), ("separator", 's'), ("equal-width", 'w')] } 1
    (fun c o => do
      let operands := o.args ++ operands
      match operands.find? fun a => (decimal? a.toList).isNone with
      | some a =>
        if operands.length ≤ 3 then misuse c s!"invalid floating point argument: '{a}'" 1
        else misuse c ("extra operand " ++ quotedName (operands[3]?.getD "")) 1
      | none =>
        let one : DecimalNumber := ⟨1, 0, 0⟩
        let run (first step last : DecimalNumber) (shown : String) : Program Nat := do
          if step.digits = 0 then
            misuse c s!"invalid Zero increment value: '{shown}'" 1
          else
            let places := max first.places step.places
            let inner := max places last.places
            let scale (x : DecimalNumber) : Int := x.scaled inner
            let drop (n : Int) : Int := n / (Nat.pow 10 (inner - places) : Nat)
            let widest := max (decimalText places 0 (drop (scale first))).length
              (decimalText places 0 (drop (scale last))).length
            let width := if o.has 'w' then widest else 0
            let text (n : Int) : List Char :=
              match o.value? 'f' with
              | none => decimalText places width (drop n)
              | some format =>
                (Format.printed format [String.ofList (decimalText inner 0 n)]).text.toList
            let gap := ((o.value? 's').getD "\n").toList
            writeNumbers text gap (scale step) (scale last) Program.fuel (scale first)
            return 0
        match operands.filterMap fun a => decimal? a.toList with
        | [] => misuse c "missing operand" 1
        | [last] => run one one last ""
        | [first, last] => run first one last ""
        | [first, step, last] => run first step last (operands[1]?.getD "")
        | _ => misuse c ("extra operand " ++ quotedName (operands[3]?.getD "")) 1)
    { c with args := front }

/-- A time interval in millionths of a second. -/
def interval? (s : String) : Option Nat := do
  let (unit, s) := match s.toList.reverse with
    | 's' :: rest => (1, rest.reverse)
    | 'm' :: rest => (60, rest.reverse)
    | 'h' :: rest => (3600, rest.reverse)
    | 'd' :: rest => (86400, rest.reverse)
    | _ => (1, s.toList)
  if s = "infinity".toList || s = "inf".toList then return Nat.pow 10 18
  let n ← decimal? s
  if n.digits < 0 then none
  return n.digits.toNat * unit * 1000000 / Nat.pow 10 n.places

def sleep : Tool := fun _ => withOptions { letters := "" } 1 fun c o => do
  if o.args.isEmpty then misuse c "missing operand" 1
  else
    match o.args.find? fun a => (interval? a).isNone with
    | some a => misuse c s!"invalid time interval '{a}'" 1
    | none =>
      Program.pause ((o.args.filterMap interval?).foldl (· + ·) 0)
      return 0

def pwd : Tool := fun _ _ => do
  let p ← Program.ask fun number w => w.directory number
  Program.out (Text.Octets.ofText p.path ++ "\n")
  return 0

def printenv : Tool := fun _ => withOptions { letters := "0" } 2 fun c o => do
  if o.args.isEmpty then
    Program.out (String.join (c.environment.map fun (name, value) => s!"{name}={value}\n"))
    return 0
  else
    let found := o.args.filterMap c.valueOf?
    Program.out (String.join (found.map (· ++ "\n")))
    return if found.length = o.args.length then 0 else 1

/-- Writes a line that is always the same. -/
def constant (line : String) : Tool := fun _ _ => do
  Program.out (line ++ "\n")
  return 0

def userId : Tool := fun _ => withOptions { letters := "agGnru" } 1 fun _ o => do
  let all := "uid=0(root) gid=0(root) groups=0(root)"
  let line := if o.has 'u' || o.has 'g' || o.has 'G' then if o.has 'n' then "root" else "0" else all
  Program.out (line ++ "\n")
  return 0

def uname : Tool := fun _ => withOptions { letters := "asnrvmpio" } 1 fun _ o => do
  Program.out (if o.has 'm' then "x86_64\n" else "Linux\n")
  return 0

def tty : Tool := fun _ _ => do
  Program.out "not a tty\n"
  return 1

end ReleasePreview.Tools
