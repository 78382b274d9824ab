import ReleasePreview.Decimal.Natural
import ReleasePreview.Text.Split
import ReleasePreview.Tools.Basic

/-! Dates, and the program that writes them. -/
namespace ReleasePreview.Tools.Calendar

/-- A point of time: seconds since the beginning of 1970, and billionths of one. -/
structure Instant where
  seconds : Int
  parts : Nat := 0
deriving Repr, DecidableEq

/-- A day as it is called. -/
structure Day where
  year : Int
  month : Nat
  day : Nat
deriving Repr, DecidableEq

/-- The number of a day since the beginning of 1970. Years begin in March here, so that the leap day
is the last one. -/
def Day.number (d : Day) : Int :=
  let year := if d.month ≤ 2 then d.year - 1 else d.year
  let era := year / 400
  let yearOfEra := year - era * 400
  let month : Int := (d.month + 9) % 12
  let dayOfYear := (153 * month + 2) / 5 + d.day - 1
  era * 146097 + (yearOfEra * 365 + yearOfEra / 4 - yearOfEra / 100 + dayOfYear) - 719468

/-- The day with a number. -/
def dayOf (number : Int) : Day :=
  let n := number + 719468
  let era := n / 146097
  let dayOfEra := n - era * 146097
  let yearOfEra := (dayOfEra - dayOfEra / 1460 + dayOfEra / 36524 - dayOfEra / 146096) / 365
  let dayOfYear := dayOfEra - (365 * yearOfEra + yearOfEra / 4 - yearOfEra / 100)
  let month := (5 * dayOfYear + 2) / 153
  let day := dayOfYear - (153 * month + 2) / 5 + 1
  let month := if month < 10 then month + 3 else month - 9
  let year := yearOfEra + era * 400
  ⟨if month ≤ 2 then year + 1 else year, month.toNat, day.toNat⟩

def monthNames : List String :=
  ["January", "February", "March", "April", "May", "June", "July", "August", "September",
    "October", "November", "December"]

def dayNames : List String :=
  ["Sunday", "Monday", "Tuesday", "Wednesday", "Thursday", "Friday", "Saturday"]

/-- What is there to be written of an instant. -/
structure Moment where
  instant : Instant
  day : Day
  /-- Since the beginning of the year. -/
  yearDay : Nat
  /-- Since Sunday. -/
  weekDay : Nat
  hour : Nat
  minute : Nat
  second : Nat

def momentOf (i : Instant) : Moment :=
  let number := i.seconds / 86400
  let rest := (i.seconds - number * 86400).toNat
  let day := dayOf number
  { instant := i
    day
    yearDay := (number - (Day.mk day.year 1 1).number).toNat
    weekDay := ((number + 4) % 7).toNat
    hour := rest / 3600
    minute := rest / 60 % 60
    second := rest % 60 }

/-- A part of a date: its digits or letters, how wide it is, and what it is filled up with. -/
structure Part where
  text : String
  width : Nat := 0
  filling : Char := ' '

def numeric (n : Int) (width : Nat) (filling : Char := '0') : Part := ⟨toString n, width, filling⟩

/-- The week of a year that begins on some day of the week. -/
def weekFrom (m : Moment) (first : Nat) : Nat :=
  (m.yearDay + 7 - (m.weekDay + 7 - first) % 7) / 7

/-- The year of the week, and its number in that year. Weeks belong to the year of their Thursday.
-/
def weekOf (m : Moment) : Int × Nat :=
  let thursday := m.instant.seconds / 86400 + 3 - ((m.weekDay + 6) % 7 : Nat)
  let day := dayOf thursday
  (day.year, ((thursday - (Day.mk day.year 1 1).number) / 7 + 1).toNat)

/-- The part that a letter stands for; `none` if it is more than one or unknown. -/
def part? (m : Moment) (letter : Char) : Option Part :=
  let hour := if m.hour % 12 = 0 then 12 else m.hour % 12
  let half := if m.hour < 12 then "AM" else "PM"
  match letter with
  | 'Y' => some (numeric m.day.year 4)
  | 'C' => some (numeric (m.day.year / 100) 2)
  | 'y' => some (numeric (m.day.year % 100) 2)
  | 'm' => some (numeric m.day.month 2)
  | 'd' => some (numeric m.day.day 2)
  | 'e' => some (numeric m.day.day 2 ' ')
  | 'H' => some (numeric m.hour 2)
  | 'k' => some (numeric m.hour 2 ' ')
  | 'I' => some (numeric hour 2)
  | 'l' => some (numeric hour 2 ' ')
  | 'M' => some (numeric m.minute 2)
  | 'S' => some (numeric m.second 2)
  | 'j' => some (numeric (m.yearDay + 1) 3)
  | 'u' => some (numeric ((m.weekDay + 6) % 7 + 1 : Nat) 1)
  | 'w' => some (numeric m.weekDay 1)
  | 'U' => some (numeric (weekFrom m 0) 2)
  | 'W' => some (numeric (weekFrom m 1) 2)
  | 'V' => some (numeric (weekOf m).2 2)
  | 'G' => some (numeric (weekOf m).1 4)
  | 'g' => some (numeric ((weekOf m).1 % 100) 2)
  | 'q' => some (numeric ((m.day.month - 1) / 3 + 1 : Nat) 1)
  | 's' => some (numeric m.instant.seconds 1)
  | 'A' => some ⟨dayNames[m.weekDay]?.getD "", 0, ' '⟩
  | 'a' => some ⟨((dayNames[m.weekDay]?.getD "").take 3).toString, 0, ' '⟩
  | 'B' => some ⟨monthNames[m.day.month - 1]?.getD "", 0, ' '⟩
  | 'b' | 'h' => some ⟨((monthNames[m.day.month - 1]?.getD "").take 3).toString, 0, ' '⟩
  | 'p' => some ⟨half, 0, ' '⟩
  | 'P' => some ⟨half.toLower, 0, ' '⟩
  | 'Z' => some ⟨"UTC", 0, ' '⟩
  | 'z' => some ⟨"+0000", 0, '0'⟩
  | 'n' => some ⟨"\n", 0, ' '⟩
  | 't' => some ⟨"\t", 0, ' '⟩
  | '%' => some ⟨"%", 0, ' '⟩
  | _ => none

/-- What a letter stands for if it is more than one part. -/
def several? (letter : Char) : Option String :=
  match letter with
  | 'D' | 'x' => some "%m/%d/%y"
  | 'F' => some "%Y-%m-%d"
  | 'T' | 'X' => some "%H:%M:%S"
  | 'R' => some "%H:%M"
  | 'r' => some "%I:%M:%S %p"
  | 'c' => some "%a %b %e %H:%M:%S %Y"
  | _ => none

/-- The billionths of a second, in so many digits. -/
def partsText (parts width : Nat) : List Char :=
  let width := if width = 0 then 9 else width
  let digits := Nat.toDigits 10 parts
  let whole := List.replicate (9 - digits.length) '0' ++ digits
  whole.take width ++ List.replicate (width - 9) '0'

/-- The text of a date. The fuel is how far formats may stand for others, and their length. -/
def written (m : Moment) : (fuel : Nat) → List Char → List Char
  | 0, _ => []
  | _, [] => []
  | fuel + 1, '%' :: s =>
    let flags := s.takeWhile "-_0^#+".toList.contains
    let rest := s.drop flags.length
    let digits := rest.takeWhile Decimal.isDigit
    let width := (Decimal.natural? digits).getD 0
    let rest := rest.drop digits.length
    let rest := match rest with
      | 'E' :: c :: rest => c :: rest
      | 'O' :: c :: rest => c :: rest
      | rest => rest
    let raise (s : List Char) : List Char :=
      if flags.contains '^' || flags.contains '#' then s.map Char.toUpper else s
    match rest with
    | [] => '%' :: s
    | ':' :: 'z' :: rest => "+00:00".toList ++ written m fuel rest
    | 'N' :: rest => partsText m.instant.parts width ++ written m fuel rest
    | letter :: rest =>
      match part? m letter, several? letter with
      | some p, _ =>
        let least := if width ≠ 0 then width else if flags.contains '-' then 0 else p.width
        let filling := if flags.contains '_' then ' ' else if flags.contains '0' then '0'
          else p.filling
        let body := raise p.text.toList
        List.replicate (least - body.length) filling ++ body ++ written m fuel rest
      | none, some format =>
        let body := raise (written m fuel format.toList)
        List.replicate (width - body.length) ' ' ++ body ++ written m fuel rest
      | none, none => '%' :: (s.take (s.length - rest.length)) ++ written m fuel rest
  | fuel + 1, c :: s => c :: written m fuel s

/-- Numbers with signs between them. -/
def numbers? (sign : Char) (s : List Char) : Option (List Nat) :=
  (Text.split sign s).mapM fun ds => if ds.isEmpty then none else Decimal.natural? ds

/-- The instant that a text stands for. -/
def instant? (now : Instant) (text : String) : Option Instant := do
  let s := (text.toList.dropWhile (· = ' ')).reverse.dropWhile (· = ' ') |>.reverse
  match s with
  | '@' :: rest =>
    let (negative, rest) := match rest with
      | '-' :: rest => (true, rest)
      | rest => (false, rest)
    let whole := rest.takeWhile Decimal.isDigit
    let n ← if whole.isEmpty then none else Decimal.natural? whole
    let parts ← match rest.drop whole.length with
      | [] => some 0
      | '.' :: ds => Decimal.natural? ((ds ++ List.replicate 9 '0').take 9)
      | _ => none
    return ⟨if negative then -(n : Int) else n, parts⟩
  | _ =>
    if s = "now".toList || s = "today".toList then return now
    if s.isEmpty then return ⟨now.seconds / 86400 * 86400, 0⟩
    let isGap (c : Char) : Bool := c = ' ' || c = 'T'
    let date := s.takeWhile (!isGap ·)
    let clock := (s.drop date.length).dropWhile isGap
    let clock := if clock.getLast? = some 'Z' then clock.dropLast else clock
    match ← numbers? '-' date with
    | [year, month, day] =>
      let number := (Day.mk year month day).number
      let _ ← if dayOf number = Day.mk year month day then some () else none
      let seconds ← match clock with
        | [] => some 0
        | clock =>
          match ← numbers? ':' clock with
          | [h, m] => if h < 24 && m < 60 then some (h * 3600 + m * 60) else none
          | [h, m, s] =>
            if h < 24 && m < 60 && s < 61 then some (h * 3600 + m * 60 + s) else none
          | _ => none
      return ⟨number * 86400 + seconds, 0⟩
    | _ => none

/-- The instant at which the clock starts. -/
def beginning : Int := 1704067200

/-- The formats of dates that have names, by how much they show. -/
def isoFormats : List (String × String) :=
  [("", "%Y-%m-%d"), ("date", "%Y-%m-%d"), ("hours", "%Y-%m-%dT%H%:z"),
    ("minutes", "%Y-%m-%dT%H:%M%:z"), ("seconds", "%Y-%m-%dT%H:%M:%S%:z"),
    ("ns", "%Y-%m-%dT%H:%M:%S,%N%:z")]

end Calendar

open Calendar in
/-- Writes the date. -/
def date : Tool := fun _ => withOptions
  { letters := "d:f:Ir:RT:s:u", optional := "I",
    names := [("date", 'd'), ("utc", 'u'), ("universal", 'u'), ("iso-8601", 'I'),
      ("rfc-email", 'R'), ("rfc-2822", 'R'), ("rfc-3339", 'T'), ("reference", 'r'), ("set", 's')] }
  1 fun c o => do
  let complained (message : String) : Program Nat := do
    complain c message
    return 1
  let clock ← Program.ask fun _ w => w.clock
  let now : Instant := ⟨beginning + clock / 1000000, clock % 1000000 * 1000⟩
  let given := (o.value? 'd').orElse fun _ => o.value? 's'
  let (formats, others) := o.args.partition (·.startsWith "+")
  match given.elim (some now) (instant? now), others, formats with
  | none, _, _ => complained ("invalid date " ++ quotedName (given.getD ""))
  | _, _ :: extra :: _, _ => misuse c s!"extra operand '{extra}'" 1
  | _, [wrong], [] => complained s!"invalid date '{wrong}'"
  | _, [extra], _ :: _ => misuse c s!"extra operand '{extra}'" 1
  | _, [], _ :: extra :: _ => misuse c s!"extra operand '{extra}'" 1
  | some i, [], formats =>
    let named (name : String) : String :=
      ((isoFormats.find? fun f => name = f.1 || (!name.isEmpty && f.1.startsWith name)).map
        (·.2)).getD "%Y-%m-%d"
    let format := match formats with
      | format :: _ => (format.drop 1).toString
      | [] =>
        match o.value? 'I', o.value? 'T' with
        | some name, _ => named name
        | none, some name =>
          String.ofList ((named name).toList.map fun ch => if ch = 'T' then ' ' else ch)
        | none, none =>
          if o.has 'R' then "%a, %d %b %Y %H:%M:%S %z" else "%a %b %e %H:%M:%S %Z %Y"
    let text := written (momentOf i) (format.length + 64) format.toList
    Program.out (String.ofList text ++ "\n")
    return 0

end ReleasePreview.Tools
