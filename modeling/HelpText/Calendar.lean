import HelpText.Text.Basic

/-!
Dates and times of day in the proleptic Gregorian calendar, with their ISO texts, and the date that
is so many days after the first of January 1970.
-/

namespace HelpText

/-- A calendar date. -/
structure Date where
  year : Nat
  month : Nat
  day : Nat
  deriving DecidableEq, Repr

/-- A time of day, to the microsecond. -/
structure TimeOfDay where
  hour : Nat
  minute : Nat
  second : Nat
  microsecond : Nat
  deriving DecidableEq, Repr

/-- A date with a time of day and, where it is known, the offset from universal time in minutes. -/
structure DateTime where
  date : Date
  time : TimeOfDay
  offset : Option Int
  deriving DecidableEq, Repr

namespace Date

/-- Leap years: every fourth, but of the full centuries only every fourth. -/
def isLeap (year : Nat) : Bool := year % 4 = 0 && (year % 100 ≠ 0 || year % 400 = 0)

def daysInMonth (year month : Nat) : Nat :=
  if month = 2 then (if isLeap year then 29 else 28)
  else if month ∈ [4, 6, 9, 11] then 30 else 31

/-- Dates of the years 1 to 9999. -/
def isValid (d : Date) : Bool :=
  1 ≤ d.year && d.year ≤ 9999 && 1 ≤ d.month && d.month ≤ 12 && 1 ≤ d.day &&
    d.day ≤ daysInMonth d.year d.month

/-- The days from the first of March of the year 0 to the first of January 1970. -/
def daysToEpoch : Int := 719468

/-- The year, month and day so many days after the first of January 1970. Years are counted from
March, so that a leap day is the last of its year, and in cycles of 400 years of 146097 days. -/
def civil (days : Int) : Int × Nat × Nat :=
  let shifted := days + daysToEpoch
  let cycle := shifted.fdiv 146097
  let dayOfCycle := (shifted.fmod 146097).toNat
  let yearOfCycle :=
    (dayOfCycle - dayOfCycle / 1460 + dayOfCycle / 36524 - dayOfCycle / 146096) / 365
  let dayOfYear := dayOfCycle - (365 * yearOfCycle + yearOfCycle / 4 - yearOfCycle / 100)
  -- Five months from March or from August on have 153 days.
  let monthFromMarch := (5 * dayOfYear + 2) / 153
  let day := dayOfYear - (153 * monthFromMarch + 2) / 5 + 1
  let month := if monthFromMarch < 10 then monthFromMarch + 3 else monthFromMarch - 9
  (cycle * 400 + yearOfCycle + (if month ≤ 2 then 1 else 0), month, day)

def text (d : Date) : Text :=
  Text.padLeft '0' 4 (Text.decimal d.year) ++ ['-'] ++ Text.padLeft '0' 2 (Text.decimal d.month) ++
    ['-'] ++ Text.padLeft '0' 2 (Text.decimal d.day)

end Date

/-- The ISO text; the microseconds are left out when there are none. -/
def TimeOfDay.text (t : TimeOfDay) : Text :=
  Text.padLeft '0' 2 (Text.decimal t.hour) ++ [':'] ++ Text.padLeft '0' 2 (Text.decimal t.minute) ++
    [':'] ++ Text.padLeft '0' 2 (Text.decimal t.second) ++
    if t.microsecond = 0 then [] else '.' :: Text.padLeft '0' 6 (Text.decimal t.microsecond)

def DateTime.offsetText (minutes : Int) : Text :=
  (if minutes < 0 then '-' else '+') :: Text.padLeft '0' 2 (Text.decimal (minutes.natAbs / 60)) ++
    [':'] ++ Text.padLeft '0' 2 (Text.decimal (minutes.natAbs % 60))

def DateTime.text (t : DateTime) : Text :=
  t.date.text ++ ['T'] ++ t.time.text ++ (t.offset.map DateTime.offsetText).getD []

end HelpText
