import ReleasePreview.Decimal.Natural
import ReleasePreview.Format.Conversion

/-! Formats with arguments, as `printf` takes them. -/
namespace ReleasePreview.Format

/-- What is wrong with an argument. -/
inductive Complaint where
  | notNumeric (arg : String)
  | partlyNumeric (arg : String)
  | outOfRange (arg : String)
deriving Repr, DecidableEq

/-- What has been written, what was complained of, and what is left. -/
structure Printing where
  args : List String
  /-- How many arguments there were in front of those. -/
  taken : Nat := 0
  written : List (List Char) := []
  complaints : List Complaint := []

/-- Why a format is not gone on with. -/
inductive Halt where
  /-- A text asked for it. -/
  | asked
  /-- There is no conversion of this text. -/
  | noConversion (text : String)
  | noLetter

abbrev Printer := ExceptT Halt (StateM Printing)

namespace Printer

def write (s : List Char) : Printer Unit := modify fun p => { p with written := s :: p.written }

def complain (c : Complaint) : Printer Unit := modify fun p =>
  { p with complaints := c :: p.complaints }

/-- The next argument, if there is one. -/
def next? : Printer (Option String) :=
  modifyGet fun p => match p.args with
    | [] => (none, p)
    | arg :: args => (some arg, { p with args, taken := p.taken + 1 })

/-- Complains of an argument that is not read to its end. -/
def check (arg : String) (rest : Option (List Char)) (inRange : Bool) : Printer Unit :=
  match rest with
  | none => if arg.isEmpty then return else complain (.notNumeric arg)
  | some (_ :: _) => complain (.partlyNumeric arg)
  | some [] => if inRange then return else complain (.outOfRange arg)

/-- The code of the character behind a quote. -/
def quoted? (arg : String) : Option Nat :=
  match arg.toList with
  | '"' :: rest | '\'' :: rest => some ((rest.head?.map Char.toNat).getD 0)
  | _ => none

/-- The next argument as an integer between two bounds. -/
def integer (low high : Int) : Printer Int := do
  match ← next? with
  | none => return 0
  | some arg =>
    match quoted? arg with
    | some n => return n
    | none =>
      match Decimal.integer? Decimal.basedNatural? arg.toList with
      | none =>
        check arg none true
        return 0
      | some (n, rest) =>
        check arg (some rest) (low ≤ n && n ≤ high)
        return max low (min high n)

def maxNatural : Int := 18446744073709551615

def signed : Printer Int := integer Decimal.minInteger Decimal.maxInteger

/-- The next argument as a natural number of 64 bits. -/
def natural : Printer Nat := do
  let n ← integer (-maxNatural) maxNatural
  return (Int.emod n (maxNatural + 1)).toNat

def float : Printer Float := do
  match ← next? with
  | none => return 0
  | some arg =>
    match quoted? arg with
    | some n => return Float.ofNat n
    | none =>
      match float? arg.toList with
      | none =>
        check arg none true
        return 0
      | some (x, rest) =>
        check arg (some rest) true
        return x

/-- A conversion behind its percent sign, with numbers for its stars, and what follows it. -/
def conversion (s : List Char) : Printer (Conversion × List Char) := do
  let start := s
  let flags := s.takeWhile fun c => "#-+ 0".toList.contains c
  let s := s.drop flags.length
  let number (s : List Char) : Printer (Int × List Char) := do
    match s with
    | '*' :: s => return (← signed, s)
    | s =>
      let ds := s.takeWhile Char.isDigit
      return ((Decimal.positional? 10 ds).getD 0, s.drop ds.length)
  let (width, s) ← number s
  let flags := if width < 0 then '-' :: flags else flags
  let (precision, s) ← match s with
    | '.' :: s => do
      let (n, s) ← number s
      pure (if n < 0 then none else some n.toNat, s)
    | s => pure (none, s)
  match s with
  | [] => throw .noLetter
  | letter :: rest =>
    if "bcsdiouxXeEfFgG".toList.contains letter then
      return (⟨flags, width.natAbs, precision, letter⟩, rest)
    else
      throw (.noConversion (String.ofList ('%' :: start.take (start.length - rest.length))))

/-- Writes an argument as a conversion asks for it. -/
def convert (c : Conversion) : Printer Unit := do
  if c.letter = 's' then write (c.ofText ((← next?).getD "").toList)
  else if c.letter = 'c' then
    let s := ((← next?).getD "").toList
    write ({ c with precision := none }.ofText [s.head?.getD '\x00'])
  else if c.letter = 'b' then
    let (s, goesOn) := unescaped ((← next?).getD "")
    write (c.ofText s)
    if !goesOn then throw .asked
  else if c.letter = 'd' || c.letter = 'i' then write (c.ofInteger (← signed))
  else if "ouxX".toList.contains c.letter then write (c.ofNatural (← natural))
  else write (c.ofFloat (← float))

/-- Goes over a format once. The fuel is its length. -/
def pass : (fuel : Nat) → List Char → Printer Unit
  | 0, _ => return
  | _, [] => return
  | fuel + 1, '\\' :: s => do
    let (c, rest) := escape s
    write [c]
    pass fuel rest
  | fuel + 1, '%' :: '%' :: s => do
    write ['%']
    pass fuel s
  | fuel + 1, '%' :: s => do
    let (c, rest) ← conversion s
    convert c
    pass fuel rest
  | fuel + 1, s => do
    let plain := s.takeWhile fun c => c ≠ '%' && c ≠ '\\'
    write plain
    pass fuel (s.drop plain.length)

/-- Goes over a format as long as it takes arguments. -/
def passes (format : List Char) : (fuel : Nat) → Printer Unit
  | 0 => return
  | fuel + 1 => do
    let before := (← get).taken
    pass (format.length + 1) format
    let p ← get
    if !p.args.isEmpty && before < p.taken then passes format fuel

end Printer

/-- What a format and its arguments give. -/
structure Printed where
  text : String
  complaints : List Complaint
  halt : Option Halt

def printed (format : String) (args : List String) : Printed :=
  let (r, p) := ((Printer.passes format.toList (args.length + 1)).run).run { args }
  { text := String.ofList p.written.reverse.flatten
    complaints := p.complaints.reverse
    halt := match r with
      | .error e => some e
      | .ok () => none }

end ReleasePreview.Format
