import ServiceSyntax.Decimal.Numeral
import ServiceSyntax.Text.Quoted

/-!
# Timestamps

A timestamp is a date, or a date with a time of day, which may lie in a time zone. Times in zones
are the same if they are the same moment.
-/

namespace ServiceSyntax.Yaml

/-- How far the clocks of a zone are ahead, in minutes, and how the zone was written. -/
structure Zone where
  ahead : Int
  name : String
deriving Repr, DecidableEq

structure Clock where
  hour : Nat
  minute : Nat
  second : Nat
  /-- Millionths of a second. -/
  micro : Nat := 0
  zone : Option Zone := none
deriving Repr, DecidableEq

structure Timestamp where
  year : Nat
  month : Nat
  day : Nat
  clock : Option Clock := none
deriving Repr, DecidableEq

/-- A zone is less than a day away from any other. -/
def Zone.isValid (z : Zone) : Bool := z.ahead.natAbs < 24 * 60

def Clock.isValid (c : Clock) : Bool :=
  c.hour < 24 && c.minute < 60 && c.second < 60 && c.zone.all Zone.isValid

/-- Millionths of a second since midnight. -/
def Clock.elapsed (c : Clock) : Nat :=
  ((c.hour * 60 + c.minute) * 60 + c.second) * 1000000 + c.micro

namespace Timestamp

/-! ## The calendar -/

def isLeap (year : Nat) : Bool := year % 4 = 0 && (year % 100 != 0 || year % 400 = 0)

def daysInMonth (year month : Nat) : Nat :=
  if month = 2 then if isLeap year then 29 else 28
  else if [4, 6, 9, 11].contains month then 30
  else 31

/-- Number of days before a date, counted from the first day of the year one. -/
def daysBefore (year month day : Nat) : Nat :=
  let years := year - 1
  years * 365 + years / 4 - years / 100 + years / 400
    + ((List.range (month - 1)).map fun n => daysInMonth year (n + 1)).foldl (· + ·) 0 + (day - 1)

/-- There is such a date and such a time of day. -/
def isValid (t : Timestamp) : Bool :=
  1 ≤ t.year && 1 ≤ t.month && t.month ≤ 12 && 1 ≤ t.day && t.day ≤ daysInMonth t.year t.month
    && t.clock.all Clock.isValid

/-- The same time of the next day. -/
def nextDay (t : Timestamp) : Timestamp :=
  if t.day < daysInMonth t.year t.month then { t with day := t.day + 1 }
  else if t.month < 12 then { t with month := t.month + 1, day := 1 }
  else { t with year := t.year + 1, month := 1, day := 1 }

/-- A timestamp whose second is complete counts it. -/
def carry (t : Timestamp) : Timestamp :=
  match t.clock with
  | none => t
  | some c =>
    if c.micro < 1000000 then t
    else
      let seconds := (c.hour * 60 + c.minute) * 60 + c.second + 1
      let clock :=
        { c with hour := seconds / 3600 % 24, minute := seconds / 60 % 60, second := seconds % 60
                 micro := c.micro - 1000000 }
      let t := { t with clock := some clock }
      if seconds = 24 * 3600 then t.nextDay else t

/-! ## Reading -/

/-- A numeral of some number of digits, and what stands behind it. -/
private def number? (least most : Nat) (cs : List Char) : Option (Nat × List Char) :=
  let digits := cs.takeWhile Char.isDigit
  if least ≤ digits.length ∧ digits.length ≤ most then
    (Numeral.natural? 10 digits).map fun n => (n, cs.drop digits.length)
  else none

private def skip? (mark : Char) : List Char → Option (List Char)
  | c :: rest => if c = mark then some rest else none
  | [] => none

private def isGap (c : Char) : Bool := c = ' ' || c = '\t'

/-- Millionths in a fraction; of further digits the first one decides how it is rounded. -/
private def micros (digits : List Char) : Nat :=
  let six := digits.take 6 ++ List.replicate (6 - digits.length) '0'
  let up := digits[6]?.any fun c => '4' < c
  (Numeral.natural? 10 six).getD 0 + if up then 1 else 0

/-- The zone that the rest of a timestamp names, none if the rest is empty. -/
private def zone? (cs : List Char) : Option (Option Zone) := do
  if cs.isEmpty then return none
  match cs.dropWhile isGap with
  | ['Z'] => return some ⟨0, "Z"⟩
  | sign :: rest =>
    unless sign = '+' ∨ sign = '-' do none
    let (hours, rest) ← number? 1 2 rest
    let minutes ← match rest with
      | [] => some 0
      | rest => do
        let (minutes, rest) ← number? 2 2 (← skip? ':' rest)
        if rest.isEmpty then some minutes else none
    let ahead : Int := hours * 60 + minutes
    return some ⟨if sign = '-' then -ahead else ahead, String.ofList (cs.dropWhile isGap)⟩
  | [] => none

private def clock? (cs : List Char) : Option Clock := do
  let (hour, rest) ← number? 1 2 cs
  let (minute, rest) ← number? 2 2 (← skip? ':' rest)
  let (second, rest) ← number? 2 2 (← skip? ':' rest)
  let (fraction, rest) := match rest with
    | '.' :: rest => (rest.takeWhile Char.isDigit, rest.dropWhile Char.isDigit)
    | rest => ([], rest)
  return { hour, minute, second, micro := micros fraction, zone := ← zone? rest }

/-- A timestamp as it is written, whether there is one or not. Between date and time of day there
are blanks or the letter T. -/
private def written? (cs : List Char) : Option Timestamp := do
  let (year, rest) ← number? 4 4 cs
  let (month, rest) ← number? 1 2 (← skip? '-' rest)
  let (day, rest) ← number? 1 2 (← skip? '-' rest)
  match rest with
  | [] => return { year, month, day }
  | c :: rest =>
    let rest ← if c = 'T' ∨ c = 't' then some rest
      else if isGap c then some (rest.dropWhile isGap)
      else none
    return { year, month, day, clock := some (← clock? rest) }

/-- The form by which a timestamp is known without a tag. Without a time of day month and day have
two digits. -/
def hasForm (cs : List Char) : Bool :=
  match written? cs with
  | some t => t.clock.isSome || cs.length = 10
  | none => false

/-- The timestamp that a text stands for. -/
def ofChars? (cs : List Char) : Option Timestamp := ((written? cs).filter isValid).map carry

/-! ## Comparison -/

/-- Millionths of a second since the beginning of the year one, where clocks are not ahead. -/
private def moment (t : Timestamp) (c : Clock) (z : Zone) : Int :=
  (daysBefore t.year t.month t.day * 86400000000 + c.elapsed : Nat) - z.ahead * 60000000

/-- Timestamps are the same if they are the same moment, or without zones the same words. -/
def same (t u : Timestamp) : Bool :=
  match t.clock, u.clock with
  | some c, some d =>
    match c.zone, d.zone with
    | some y, some z => moment t c y = moment u d z
    | none, none => t = u
    | _, _ => false
  | _, _ => t = u

/-! ## Written forms -/

private def padded (width n : Nat) : String :=
  let digits := toString n
  String.ofList (List.replicate (width - digits.length) '0') ++ digits

private def zoneText (z : Zone) : String :=
  let ahead := z.ahead.natAbs
  (if z.ahead < 0 then "-" else "+") ++ padded 2 (ahead / 60) ++ ":" ++ padded 2 (ahead % 60)

private def clockText (c : Clock) : String :=
  padded 2 c.hour ++ ":" ++ padded 2 c.minute ++ ":" ++ padded 2 c.second
    ++ (if c.micro = 0 then "" else "." ++ padded 6 c.micro) ++ (c.zone.map zoneText).getD ""

/-- A timestamp in its usual form. -/
def text (t : Timestamp) : String :=
  padded 4 t.year ++ "-" ++ padded 2 t.month ++ "-" ++ padded 2 t.day
    ++ (t.clock.map fun c => " " ++ clockText c).getD ""

/-- A distance as days and seconds, of which only the days may be negative. -/
private def distance (minutes : Int) : String :=
  let days := minutes.fdiv 1440
  let seconds := minutes.fmod 1440 * 60
  let parts := (if days = 0 then [] else ["days=" ++ toString days])
    ++ (if seconds = 0 then [] else ["seconds=" ++ toString seconds])
  "datetime.timedelta(" ++ (if parts.isEmpty then "0" else ", ".intercalate parts) ++ ")"

private def zoneParts (z : Zone) : String :=
  "tzinfo=datetime.timezone(" ++ distance z.ahead ++ ", " ++ Text.quoted z.name ++ ")"

/-- The parts of a time of day; seconds and their fraction are left out if they are zero. -/
private def clockParts (c : Clock) : List String :=
  [toString c.hour, toString c.minute]
    ++ (if c.second = 0 ∧ c.micro = 0 then [] else [toString c.second])
    ++ (if c.micro = 0 then [] else [toString c.micro])
    ++ (c.zone.map zoneParts).toList

/-- A timestamp as a call with its parts. -/
def parts (t : Timestamp) : String :=
  let date := [toString t.year, toString t.month, toString t.day]
  match t.clock with
  | none => "datetime.date(" ++ ", ".intercalate date ++ ")"
  | some c => "datetime.datetime(" ++ ", ".intercalate (date ++ clockParts c) ++ ")"

end Timestamp

end ServiceSyntax.Yaml
