import ReleasePreview.Awk.Program
import ReleasePreview.Awk.Table
import ReleasePreview.Awk.Value
import ReleasePreview.Tools.Basic

/-! What a running program keeps: variables, tables, and the record with its fields. -/
namespace ReleasePreview.Awk

/-- A variable by its place: one of the program, or one of a call. -/
inductive Origin where
  | global (number : Nat)
  | local (depth number : Nat)
deriving Repr, DecidableEq

/-- What a variable holds. -/
inductive Cell where
  /-- Nothing yet. A parameter may stand for a variable that holds nothing either. -/
  | unset (origin : Option Origin)
  | value (a : Value)
  | table (number : Nat)

instance : Inhabited Cell := ⟨.unset none⟩

structure Record where
  whole : Value := .input ""
  fields : Array Value := #[]
  isSplit : Bool := true
  /-- The fields have changed since the record was put together. -/
  isStale : Bool := false

/-- Where records are read from. -/
structure Feed where
  descriptor : Nat
  /-- The process that writes them. -/
  process : Option Nat := none
  /-- What has been read and not taken. -/
  ready : List Char := []
  hasEnded : Bool := false

/-- Where something is written to. -/
structure Outlet where
  name : String
  isCommand : Bool
  descriptor : Nat
  process : Option Nat := none
  /-- What is to be written, backwards, and its size. -/
  written : List String := []
  size : Nat := 0

structure Machine where
  launch : Launcher
  call : ProgramCall
  program : Program
  globals : Array Cell
  /-- The parameters of the calls that have not ended. -/
  calls : Array (Array Cell) := #[]
  tables : Array Table := #[]
  record : Record := {}
  patterns : Std.HashMap String Regex.Expression := {}
  /-- The places of the rules whose ranges have begun. -/
  begun : List Nat := []
  /-- What records are read from, if something is open. -/
  input : Option Feed := none
  /-- The number of the next argument. -/
  nextArgument : Nat := 1
  hasInput : Bool := false
  feeds : List ((Bool × String) × Feed) := []
  outlets : List Outlet := []
  /-- What is to be written, backwards, and its size. -/
  written : List String := []
  size : Nat := 0
  seed : Nat := 0
  random : Nat := 0
  status : Nat := 0

/-- Why statements are not gone on with. -/
inductive Stop where
  | leave
  | again
  | nextRecord
  | nextFile
  | returned (a : Value)
  | exit
  /-- The program ends at once. -/
  | abort

abbrev Running := ExceptT Stop (StateT Machine ReleasePreview.Program)

namespace Running

def perform {α : Type} (p : ReleasePreview.Program α) : Running α :=
  ExceptT.lift (StateT.lift p)

/-- Ends the program with a message. -/
def abort {α : Type} (message : String) : Running α := do
  perform (Tools.complain (← get).call message)
  modify fun s => { s with status := 2 }
  throw .abort

/-- Time goes by. -/
def tick : Running Unit := perform (Program.pause 3)

def global (v : Special) : Running Value := do
  match (← get).globals[v.number]? with
  | some (.value a) => return a
  | _ => return .unset

def setPlain (v : Special) (a : Value) : Running Unit := modify fun s =>
  { s with globals := s.globals.setIfInBounds v.number (.value a) }

/-- How numbers become texts. -/
def texts : Running String := do return (← global .conversionFormat).toText "%.6g"

def textOf (a : Value) : Running String := do
  match a with
  | .text s | .input s => return s
  | .unset => return ""
  | .number x =>
    match integer? x with
    | some n => return toString n
    | none => return fractionText (← texts) x

/-- Ends the program with a message that says where it has been. -/
def fail {α : Type} (message : String) : Running α := do
  let name ← textOf (← global .fileName)
  let inFile ← textOf (.number (← global .fileRecordNumber).toNumber)
  let inAll ← textOf (.number (← global .recordNumber).toNumber)
  abort s!"run time error: {message}\n\tFILENAME=\"{name}\" FNR={inFile} NR={inAll}"

/-- The regular expression of a text. -/
def patternOf (s : String) : Running Regex.Expression := do
  match (← get).patterns[s]? with
  | some e => return e
  | none =>
    match pattern s with
    | .error fault => fail (patternComplaint fault s)
    | .ok e =>
      modify fun m => { m with patterns := m.patterns.insert s e }
      return e

/-- What fields stand between. -/
inductive Separator where
  | blanks
  | nothing
  | char (c : Char)
  | pattern (e : Regex.Expression)

def separatorOf (s : String) : Running Separator := do
  match s.toList with
  | [] => return .nothing
  | [' '] => return .blanks
  | [c] => return .char c
  | _ => return .pattern (← patternOf s)

def isBlank (c : Char) : Bool := c = ' ' || c = '\t' || c = '\n'

/-- The parts of a text between blanks. -/
def words (s : List Char) : List (List Char) :=
  let (word, found) := s.foldr
    (fun c ((word : List Char), (found : List (List Char))) =>
      if isBlank c then ([], if word.isEmpty then found else word :: found)
      else (c :: word, found))
    ([], [])
  if word.isEmpty then found else word :: found

/-- The parts of a text between matches from a place on. The fuel is the length of the text. -/
def partsFrom (e : Regex.Expression) (t : Regex.Subject) : (fuel start next : Nat) →
    List (List Char)
  | 0, start, _ => [(t.text.extract start t.size).toList]
  | fuel + 1, start, next =>
    match e.search? t false next with
    | none => [(t.text.extract start t.size).toList]
    | some m =>
      if m.stop = m.start then
        if m.stop < t.size then partsFrom e t fuel start (m.stop + 1)
        else [(t.text.extract start t.size).toList]
      else (t.text.extract start m.start).toList :: partsFrom e t fuel m.stop m.stop

/-- The parts of a text. -/
def Separator.parts (separator : Separator) (s : List Char) : List (List Char) :=
  if s.isEmpty then []
  else match separator with
    | blanks => words s
    | nothing => s.map ([·])
    | char c =>
      let (part, parts) := s.foldr
        (fun d ((part : List Char), (parts : List (List Char))) =>
          if d = c then ([], part :: parts) else (d :: part, parts))
        ([], [])
      part :: parts
    | pattern e =>
      let t : Regex.Subject := { text := s.toArray }
      partsFrom e t (t.size + 1) 0 0

/-- Divides the record into its fields. -/
def divide : Running Unit := do
  let s ← get
  if s.record.isSplit then return
  let separator ← separatorOf (← textOf (← global .fieldSeparator))
  let parts := separator.parts (← textOf s.record.whole).toList
  let fields := (parts.map fun part => Value.input (String.ofList part)).toArray
  modify fun s => { s with record := { s.record with fields, isSplit := true } }

/-- Puts the record together from its fields. -/
def rebuild : Running Unit := do
  let s ← get
  if !s.record.isStale then return
  let mark ← textOf (← global .outputFieldSeparator)
  let parts ← s.record.fields.toList.mapM textOf
  let whole := Value.input (mark.intercalate parts)
  modify fun s => { s with record := { s.record with whole, isStale := false } }

def fieldCount : Running Nat := do
  divide
  return (← get).record.fields.size

def field (n : Nat) : Running Value := do
  if n = 0 then
    rebuild
    return (← get).record.whole
  else
    divide
    return ((← get).record.fields[n - 1]?).getD (.text "")

def setFieldCount (n : Nat) : Running Unit := do
  divide
  let grow (fields : Array Value) : Array Value :=
    if n < fields.size then fields.extract 0 n
    else fields ++ Array.replicate (n - fields.size) (.text "")
  modify fun s =>
    { s with record := { s.record with fields := grow s.record.fields, isStale := true } }

def setField (n : Nat) (a : Value) : Running Unit := do
  if n = 0 then
    modify fun s => { s with record := { whole := a, isSplit := false } }
  else
    if (← fieldCount) < n then setFieldCount n
    modify fun s =>
      { s with
        record := { s.record with
          fields := s.record.fields.setIfInBounds (n - 1) a
          isStale := true } }

/-- The number of a field. -/
def fieldNumber (a : Value) : Running Nat := do
  let n := truncated a.toNumber
  if n < 0 then fail s!"negative field index ${n}"
  return n.toNat

def cell (v : Variable) : Running Cell := do
  let s ← get
  match v with
  | .global n => return (s.globals[n]?).getD default
  | .parameter n => return (((s.calls.back?).getD #[])[n]?).getD default

def setCell (v : Variable) (c : Cell) : Running Unit := modify fun s =>
  match v with
  | .global n => { s with globals := s.globals.setIfInBounds n c }
  | .parameter n =>
    { s with calls := s.calls.modify (s.calls.size - 1) fun cells => cells.setIfInBounds n c }

def valueOf (v : Variable) : Running Value := do
  if v = .global Special.fieldCount.number then
    return .number (Float.ofNat (← fieldCount))
  match ← cell v with
  | .value a => return a
  | _ => return .unset

def setValue (v : Variable) (a : Value) : Running Unit := do
  match v with
  | .parameter _ => setCell v (.value a)
  | .global n =>
    if n = Special.fieldCount.number then
      let count := truncated a.toNumber
      if count < 0 then fail "negative value assigned to NF"
      setFieldCount count.toNat
    else
      if n = Special.fieldSeparator.number then divide
      if n = Special.outputFieldSeparator.number then rebuild
      setCell v (.value a)

/-- The place of a variable. -/
def originOf (v : Variable) : Running Origin := do
  match v with
  | .global n => return .global n
  | .parameter n => return .local ((← get).calls.size - 1) n

def newTable (t : Table) : Running Nat := do
  let s ← get
  set { s with tables := s.tables.push t }
  return s.tables.size

/-- The number of the table of a variable, and of those that it stands for. The fuel is the number
of the calls. -/
def tableAt : (fuel : Nat) → Origin → Running Nat
  | 0, _ => newTable {}
  | fuel + 1, origin => do
    let s ← get
    let found : Cell := match origin with
      | .global n => (s.globals[n]?).getD default
      | .local depth n => (((s.calls[depth]?).getD #[])[n]?).getD default
    match found with
    | .table n => return n
    | .value _ => newTable {}
    | .unset further =>
      let number ← match further with
        | some o => tableAt fuel o
        | none => newTable {}
      modify fun s => match origin with
        | .global n => { s with globals := s.globals.setIfInBounds n (.table number) }
        | .local depth n =>
          { s with
            calls := s.calls.modify depth fun cells => cells.setIfInBounds n (.table number) }
      return number

def tableOf (v : Variable) : Running Nat := do
  match ← cell v with
  | .table n => return n
  | _ => tableAt ((← get).calls.size + 2) (← originOf v)

def table (n : Nat) : Running Table := do return ((← get).tables[n]?).getD {}

/-- Changes a table, and gives something. -/
def withTable {α : Type} (n : Nat) (f : Table → Table × α) : Running α :=
  modifyGet fun s =>
    let t := (s.tables[n]?).getD {}
    let s := { s with tables := s.tables.setIfInBounds n {} }
    let (t, a) := f t
    (a, { s with tables := s.tables.setIfInBounds n t })

/-- The key that a value is. -/
def keyOf (a : Value) : Running TableKey := do
  match a with
  | .number x =>
    match integer? x with
    | some n => return .integer n
    | none => return .text (← textOf a)
  | a => return .text (← textOf a)

end Running

end ReleasePreview.Awk
