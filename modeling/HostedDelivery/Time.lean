import HostedDelivery.Text

/-!
# Instants

An instant is a number of seconds since 1970-01-01T00:00:00Z and nanoseconds after it. A leap second has no number
of its own: it is the last second of its minute with a thousand million nanoseconds or more.

In text an instant is written as RFC 3339 in UTC, with a `Z`. `Time.text` writes as many fraction digits as the instant
needs, in groups of three; `Time.wholeText` leaves the fraction out. `Time.parse?` reads RFC 3339 generously: numbers
may have fewer digits than the standard asks for, blanks may stand between the parts, a year may have a sign, and the
offset may lack its colon or be `UTC`. A fraction is cut after nine digits, and the instant is turned to UTC.
-/

namespace HostedDelivery

/-! ### Calendar dates

Dates of the Gregorian calendar, extended to all years, and their number of days since 1970-01-01. -/

/-- A date of the Gregorian calendar. -/
structure Date where
  year : Int
  month : Nat
  day : Nat
  deriving DecidableEq, Repr

namespace Date

/-- Whether a year has a 29th of February. -/
def isLeap (year : Int) : Bool :=
  year % 4 = 0 && (year % 100 ≠ 0 || year % 400 = 0)

/-- The number of days of a month. -/
def daysInMonth (year : Int) (month : Nat) : Nat :=
  if month = 2 then (if isLeap year then 29 else 28)
  else if month = 4 ∨ month = 6 ∨ month = 9 ∨ month = 11 then 30
  else 31

/-- Whether the calendar has the date. -/
def isValid (date : Date) : Bool :=
  1 ≤ date.month && date.month ≤ 12 && 1 ≤ date.day && date.day ≤ daysInMonth date.year date.month

/-- The number of days from 1970-01-01 to the date. Years are counted from March here, so that the leap day is the
last day of its year. -/
def toDays (date : Date) : Int :=
  let year := if date.month ≤ 2 then date.year - 1 else date.year
  let era := year / 400
  let yearOfEra := year % 400
  let monthFromMarch : Int := ((date.month + 9) % 12 : Nat)
  let dayOfYear := (153 * monthFromMarch + 2) / 5 + date.day - 1
  era * 146097 + yearOfEra * 365 + yearOfEra / 4 - yearOfEra / 100 + dayOfYear - 719468

/-- The date a number of days after 1970-01-01. -/
def ofDays (days : Int) : Date :=
  let z := days + 719468
  let era := z / 146097
  let dayOfEra := z % 146097
  let yearOfEra := (dayOfEra - dayOfEra / 1460 + dayOfEra / 36524 - dayOfEra / 146096) / 365
  let dayOfYear := dayOfEra - (365 * yearOfEra + yearOfEra / 4 - yearOfEra / 100)
  let monthFromMarch := (5 * dayOfYear + 2) / 153
  let day := dayOfYear - (153 * monthFromMarch + 2) / 5 + 1
  let month := if monthFromMarch < 10 then monthFromMarch + 3 else monthFromMarch - 9
  ⟨yearOfEra + era * 400 + (if month ≤ 2 then 1 else 0), month.toNat, day.toNat⟩

end Date

/-! ### Seconds and nanoseconds -/

namespace Time

/-- The first and the last year that an instant can fall in. -/
def firstYear : Int := -262143
@[inherit_doc firstYear] def lastYear : Int := 262142

/-- The number of nanoseconds in a second. -/
def nanosPerSecond : Nat := 1000000000

/-- The year of a second in UTC. -/
def yearOf (seconds : Int) : Int := (Date.ofDays (seconds / 86400)).year

/-- Whether seconds and nanoseconds make an instant: the nanoseconds stay within the second, or in a leap second after
it, and the year is not too far away. -/
def IsInstant (seconds : Int) (nanos : Nat) : Prop :=
  (nanos < nanosPerSecond ∨ seconds % 60 = 59 ∧ nanos < 2 * nanosPerSecond)
    ∧ firstYear ≤ yearOf seconds ∧ yearOf seconds ≤ lastYear

instance (seconds : Int) (nanos : Nat) : Decidable (IsInstant seconds nanos) :=
  inferInstanceAs (Decidable (_ ∧ _))

end Time

/-- An instant in UTC. -/
structure Time where
  seconds : Int
  nanos : Nat
  isInstant : Time.IsInstant seconds nanos
  deriving DecidableEq, Repr

namespace Time

instance : Inhabited Time := ⟨⟨0, 0, by decide⟩⟩

/-- The instant of some seconds and nanoseconds, if they make one. -/
def of? (seconds : Int) (nanos : Nat) : Option Time :=
  if h : IsInstant seconds nanos then some ⟨seconds, nanos, h⟩ else none

/-- The clock fields of an instant that is written at some offset from UTC. -/
structure Fields where
  date : Date
  hour : Nat
  minute : Nat
  /-- Sixty for a leap second. -/
  second : Nat
  nanos : Nat
  deriving DecidableEq, Repr

/-- The instant with the given fields at an offset of whole seconds east of UTC, if there is one. -/
def ofFields? (fields : Fields) (offset : Int) : Option Time :=
  if fields.date.isValid ∧ fields.hour ≤ 23 ∧ fields.minute ≤ 59 ∧ fields.second ≤ 60 ∧ fields.nanos < nanosPerSecond
      ∧ firstYear ≤ fields.date.year ∧ fields.date.year ≤ lastYear ∧ -86400 < offset ∧ offset < 86400 then
    let leap := fields.second = 60
    let second := if leap then 59 else fields.second
    of? (fields.date.toDays * 86400 + (fields.hour * 3600 + fields.minute * 60 + second : Nat) - offset)
      (if leap then fields.nanos + nanosPerSecond else fields.nanos)
  else none

/-- The fields of an instant in UTC. -/
def toFields (t : Time) : Fields :=
  let ofDay := (t.seconds % 86400).toNat
  let leap := nanosPerSecond ≤ t.nanos
  { date := Date.ofDays (t.seconds / 86400)
    hour := ofDay / 3600
    minute := ofDay / 60 % 60
    second := ofDay % 60 + (if leap then 1 else 0)
    nanos := if leap then t.nanos - nanosPerSecond else t.nanos }

/-! ### Instants in text

A year with more or less than four digits carries its sign. -/

/-- The decimal digits of a number, filled up with zeros in front. -/
def padded (width n : Nat) : String :=
  let digits := Nat.toDigits 10 n
  String.ofList (List.replicate (width - digits.length) '0' ++ digits)

/-- A year: four digits, or a sign and at least four. -/
def yearText (year : Int) : String :=
  if 0 ≤ year ∧ year ≤ 9999 then padded 4 year.toNat
  else if year < 0 then "-" ++ padded 4 year.natAbs
  else "+" ++ padded 4 year.natAbs

/-- The fraction of a second: none, or three, six or nine digits, the fewest that keep the value. -/
def fractionText (nanos : Nat) : String :=
  if nanos = 0 then ""
  else if nanos % 1000000 = 0 then "." ++ padded 3 (nanos / 1000000)
  else if nanos % 1000 = 0 then "." ++ padded 6 (nanos / 1000)
  else "." ++ padded 9 nanos

/-- Date and time of day up to the whole second. -/
def Fields.text (f : Fields) : String :=
  yearText f.date.year ++ "-" ++ padded 2 f.date.month ++ "-" ++ padded 2 f.date.day ++ "T"
    ++ padded 2 f.hour ++ ":" ++ padded 2 f.minute ++ ":" ++ padded 2 f.second

/-- An instant to the nanosecond. -/
def text (t : Time) : String := t.toFields.text ++ fractionText t.toFields.nanos ++ "Z"

/-- An instant to the second. -/
def wholeText (t : Time) : String := t.toFields.text ++ "Z"

/-! ### Reading instants -/

/-- A reader of characters: its value and the characters that follow, unless they do not fit. -/
abbrev Scan := StateT (List Char) Option

namespace Scan

/-- Reads the one character given. -/
def char (c : Char) : Scan Unit := fun
  | c' :: rest => if c' = c then some ((), rest) else none
  | [] => none

/-- Passes over blanks. -/
def blanks : Scan Unit := fun cs => some ((), Text.dropBlanks cs)

/-- The number spelt by decimal digits. -/
def natOf (digits : List Char) : Nat := digits.foldl (fun n c => 10 * n + (c.toNat - 48)) 0

/-- Reads a number of at least one and at most `most` digits. -/
def upTo (most : Nat) : Scan Nat := fun cs =>
  let digits := (cs.take most).takeWhile Char.isDigit
  if digits = [] then none else some (natOf digits, cs.drop digits.length)

/-- Reads a number of exactly `count` digits. -/
def exactly (count : Nat) : Scan Nat := fun cs =>
  let digits := cs.take count
  if digits.length = count ∧ digits.all Char.isDigit then some (natOf digits, cs.drop count) else none

/-- Reads a number of any number of digits that a signed word of 64 bits can hold. -/
def long : Scan Nat := fun cs =>
  let digits := cs.takeWhile Char.isDigit
  if digits = [] ∨ Int64.maxValue.toInt < natOf digits then none else some (natOf digits, cs.drop digits.length)

/-- Reads what separates date and time of day. -/
def dateEnd : Scan Unit := fun
  | c :: rest => if c = 'T' ∨ c = 't' ∨ c = ' ' then some ((), rest) else none
  | [] => none

/-- Reads a fraction of a second in nanoseconds, if there is one; digits after the ninth are dropped. -/
def fraction : Scan Nat := fun
  | '.' :: rest =>
    let digits := rest.takeWhile Char.isDigit
    if digits = [] then none
    else
      let kept := digits.take 9
      some (natOf (kept ++ List.replicate (9 - kept.length) '0'), rest.drop digits.length)
  | cs => some (0, cs)

/-- Passes over colons and blanks. -/
def colonsAndBlanks : Scan Unit := fun cs => some ((), cs.dropWhile fun c => c = ':' || Text.isBlank c)

/-- Reads an offset from UTC in seconds: `Z`, or a sign, hours and minutes with any colons and blanks between them. -/
def offset : Scan Int := fun cs =>
  match cs with
  | [] => none
  | c :: rest =>
    if c = 'Z' ∨ c = 'z' then some (0, rest)
    else if c = '+' ∨ c = '-' ∨ c = '−' then
      (do
        let hours ← exactly 2
        colonsAndBlanks
        let minutes ← exactly 2
        if minutes ≤ 59 then
          let seconds : Int := (hours * 3600 + minutes * 60 : Nat)
          pure (if c = '+' then seconds else -seconds)
        else failure : Scan Int) rest
    else none

end Scan

open Scan in
/-- A year: up to four digits, or a sign and any number of digits. -/
def year : Scan Int := do
  blanks
  match ← get with
  | '-' :: rest => set rest; return -((← long) : Int)
  | '+' :: rest => set rest; return (← long)
  | _ => return (← upTo 4)

open Scan in
/-- A number of one or two digits. -/
def number : Scan Nat := do
  blanks
  upTo 2

open Scan in
/-- A time zone: `UTC` in any case of letters, or an offset. -/
def zone : Scan Int := do
  blanks
  let cs ← get
  if (cs.take 3).map Char.toLower = ['u', 't', 'c'] then
    set (cs.drop 3)
    return 0
  else offset

open Scan in
/-- Date, time of day and offset. -/
def instant : Scan (Fields × Int) := do
  let year ← year
  blanks
  char '-'
  let month ← number
  blanks
  char '-'
  let day ← number
  dateEnd
  let hour ← number
  blanks
  char ':'
  let minute ← number
  blanks
  char ':'
  let second ← number
  let nanos ← fraction
  let offset ← zone
  blanks
  pure (⟨⟨year, month, day⟩, hour, minute, second, nanos⟩, offset)

/-- The instant that a text spells. -/
def parse? (text : String) : Option Time := do
  let ((fields, offset), rest) ← instant.run text.toList
  if rest = [] then ofFields? fields offset else none

end Time
end HostedDelivery
