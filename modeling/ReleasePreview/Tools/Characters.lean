import ReleasePreview.Format.Conversion
import ReleasePreview.Text.Pattern
import ReleasePreview.Tools.Basic

/-! Changing single characters of the input. -/
namespace ReleasePreview.Tools

namespace Characters

/-- A member of a set of characters. -/
inductive Member where
  | range (low high : Char)
  | named (name : String)
  /-- A character so many times; without a number as often as there is room. -/
  | repeated (c : Char) (count : Option Nat)
deriving Repr, DecidableEq

/-- A character, behind a backslash or not, and what follows it. -/
def single : List Char → Option (Char × List Char)
  | [] => none
  | '\\' :: s => match s with
    | [] => some ('\\', [])
    | c :: rest =>
      let (d, behind) := Format.escape s
      if d = '\\' && c ≠ '\\' then some (c, rest) else some (d, behind)
  | c :: s => some (c, s)

/-- A member in brackets, and what follows it. -/
def bracketed? (s : List Char) : Option (Member × List Char) :=
  match s with
  | '[' :: ':' :: s =>
    let name := s.takeWhile (· ≠ ':')
    match s.drop name.length with
    | ':' :: ']' :: rest => some (.named (String.ofList name), rest)
    | _ => none
  | '[' :: '=' :: c :: '=' :: ']' :: rest => some (.range c c, rest)
  | '[' :: s => do
    let (c, s) ← single s
    match s with
    | '*' :: s =>
      let digits := s.takeWhile Decimal.isDigit
      match s.drop digits.length with
      | ']' :: rest =>
        let n := Decimal.naturalValue digits
        return (.repeated c (if n = 0 then none else some n), rest)
      | _ => none
    | _ => none
  | _ => none

/-- The members of a set, or what is wrong with it. The fuel is the length of the text. -/
def members : (fuel : Nat) → List Char → Except String (List Member)
  | 0, _ => .ok []
  | fuel + 1, s =>
    match bracketed? s with
    | some (m, rest) => (members fuel rest).map (m :: ·)
    | none =>
      match single s with
      | none => .ok []
      | some (low, '-' :: rest) =>
        match single rest with
        | none => .ok [.range low low, .range '-' '-']
        | some (high, rest') =>
          if high < low then
            let shown := String.ofList (s.take (s.length - rest'.length))
            .error s!"range-endpoints of '{shown}' are in reverse collating sequence order"
          else (members fuel rest').map (.range low high :: ·)
      | some (c, rest) => (members fuel rest).map (.range c c :: ·)

def bytes : List Char := (List.range 256).map Char.ofNat

/-- The characters of a member, in order. -/
def Member.chars (room : Nat) : Member → List Char
  | range low high => bytes.filter fun c => low ≤ c && c ≤ high
  | named name =>
    match Text.characterClass? name with
    | some p => bytes.filter p
    | none => []
  | repeated c count => List.replicate (count.getD room) c

/-- The characters of a set. Repetitions without a number fill it up to a length. -/
def charsOf (length : Nat) (ms : List Member) : List Char :=
  let known := (ms.map fun m => (m.chars 0).length).foldl (· + ·) 0
  ms.flatMap (·.chars (length - known))

/-- Gives what stands for a name of a class that there is not. -/
def unknownClass? (ms : List Member) : Option String :=
  ms.findSome? fun
    | .named name => if (Text.characterClass? name).isNone then some name else none
    | _ => none

/-- Without repetitions of the characters of a set, the last one written being known. -/
def squeezed (set : Char → Bool) : Option Char → List Char → List Char
  | _, [] => []
  | last, c :: s =>
    if last = some c && set c then squeezed set last s else c :: squeezed set (some c) s

/-- What is done with a character, and for which ones repetitions are dropped. -/
structure Change where
  image : Char → Option Char
  squeezes : Char → Bool := fun _ => false

/-- Changes the input as it comes. -/
def changeAll (change : Change) : (fuel : Nat) → (last : Option Char) → Program Unit
  | 0, _ => return
  | fuel + 1, last => do
    match ← Program.read 0 65536 with
    | .error _ => return
    | .ok [] => return
    | .ok bytes =>
      let text := (Text.Octets.ofBytes bytes).toList.filterMap change.image
      let text := squeezed change.squeezes last text
      writeAll [text]
      changeAll change fuel (text.getLast?.or last)

/-- The place of a character in a list is that of its image. The last image is taken for those
behind it. -/
def mapping (source target : Array Char) : Array Char :=
  source.zipIdx.foldl
    (fun images (c, i) => images.setIfInBounds c.toNat ((target[i]?).getD (target.back?.getD c)))
    bytes.toArray

def isIn (set : Array Bool) (c : Char) : Bool := set[c.toNat]?.getD false

def flags (cs : List Char) : Array Bool :=
  cs.foldl (fun set c => set.setIfInBounds c.toNat true) (Array.replicate 256 false)

/-- What the options and sets ask for, or what is wrong with them. -/
def change (o : Options) (first : List Member) (second : Option (List Member)) :
    Except String Change := do
  match unknownClass? (first ++ second.getD []) with
  | some name => throw s!"invalid character class '{name}'"
  | none => pure ()
  let complements := o.has 'c' || o.has 'C'
  let source := charsOf 0 first
  let source := if complements then bytes.filter (!isIn (flags source) ·) else source
  let sourceFlags := flags source
  let targetOf (ms : List Member) : List Char := charsOf source.length ms
  if o.has 'd' then
    let squeezes := (second.map fun ms => flags (targetOf ms)).getD #[]
    return ⟨fun c => if isIn sourceFlags c then none else some c, isIn squeezes⟩
  else
    match second with
    | none => return ⟨some, isIn sourceFlags⟩
    | some ms =>
      let target := targetOf ms
      let source := if o.has 't' then source.take target.length else source
      if target.isEmpty && !source.isEmpty then
        throw "when not truncating set1, string2 must be non-empty"
      let images := mapping source.toArray target.toArray
      let squeezes := if o.has 's' then flags target else #[]
      return ⟨fun c => some (images[c.toNat]?.getD c), isIn squeezes⟩

end Characters

def tr : Tool := fun _ => withOptions
  { letters := "cCdst", names := [("complement", 'c'), ("delete", 'd'), ("squeeze-repeats", 's'),
      ("truncate-set1", 't')], anywhere := false } 1 fun c o => do
  let onlyOne := o.has 'd' && !o.has 's'
  match o.args with
  | [] => misuse c "missing operand" 1
  | _ :: _ :: extra :: _ => misuse c s!"extra operand '{extra}'" 1
  | first :: rest =>
    match rest, onlyOne with
    | [], false =>
      if !o.has 's' then
        misuse c s!"missing operand after '{first}'\nTwo strings must be given when translating." 1
      else if o.has 'd' then
        let rule := "Two strings must be given when both deleting and squeezing repeats."
        misuse c s!"missing operand after '{first}'\n{rule}" 1
      else run c o first none
    | extra :: _, true =>
      let rule := "Only one string may be given when deleting without squeezing repeats."
      misuse c s!"extra operand '{extra}'\n{rule}" 1
    | rest, _ => run c o first rest.head?
where
  run (c : ProgramCall) (o : Options) (first : String) (second : Option String) : Program Nat := do
    let members (s : String) := Characters.members (s.length + 1) s.toList
    let change : Except String Characters.Change := do
      let first ← members first
      let second ← second.mapM members
      Characters.change o first second
    match change with
    | .error message =>
      complain c message
      return 1
    | .ok change =>
      Characters.changeAll change Program.fuel none
      return 0

end ReleasePreview.Tools
