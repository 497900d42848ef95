/-!
# Points in time

A `Moment` counts the seconds since the beginning of 1970 and the part of a second after them, which
goes beyond one in a leap second.

* `Date.ofDays` : the day of the Gregorian calendar, in years that begin in March, so that a leap
  day comes last;
* `Moment.summary` : to the second, for a line of text;
* `Moment.exact` : to the nanosecond, with as many places as are needed in groups of three.
-/

namespace CallRouting.Report

structure Date where
  year : Int
  month : Nat
  day : Nat
deriving DecidableEq

/-- The days of the years that begin in March, up to the one that has these many days gone by in 400
years: a leap day every four years, but for full centuries that are no fourth ones. -/
def Date.yearOfEra (day : Nat) : Nat := (day - day / 1460 + day / 36524 - day / 146096) / 365

/-- The date so many days after the first of January 1970. -/
def Date.ofDays (days : Int) : Date :=
  let sinceMarch := days + 719468
  let era := sinceMarch.fdiv 146097
  let day := (sinceMarch - era * 146097).toNat
  let year := yearOfEra day
  let dayOfYear := day - (365 * year + year / 4 - year / 100)
  let month := (5 * dayOfYear + 2) / 153
  { year := era * 400 + year + (if month < 10 then 0 else 1)
    month := if month < 10 then month + 3 else month - 9
    day := dayOfYear - (153 * month + 2) / 5 + 1 }

/-- A number with zeros before it, up to this many places. -/
def places (n width : Nat) : String :=
  let ds := Nat.toDigits 10 n
  String.ofList (List.replicate (width - ds.length) '0' ++ ds)

/-- Years of other than four digits have a sign. -/
def yearText (year : Int) : String :=
  if 0 ≤ year ∧ year ≤ 9999 then places year.toNat 4
  else (if year < 0 then "-" else "+") ++ places year.natAbs 4

def Date.text (d : Date) : String :=
  yearText d.year ++ "-" ++ places d.month 2 ++ "-" ++ places d.day 2

structure Moment where
  seconds : Int
  nanos : Nat
deriving DecidableEq

namespace Moment

def date (m : Moment) : Date := .ofDays (m.seconds.fdiv 86400)

/-- The time of day to the second; a leap second is the sixtieth of its minute. -/
def clock (m : Moment) : String :=
  let s := (m.seconds.fmod 86400).toNat
  places (s / 3600) 2 ++ ":" ++ places (s / 60 % 60) 2 ++ ":" ++
    places (s % 60 + m.nanos / 1000000000) 2

/-- The part of a second, if there is one. -/
def fraction (m : Moment) : String :=
  let n := m.nanos % 1000000000
  if n = 0 then ""
  else if n % 1000000 = 0 then "." ++ places (n / 1000000) 3
  else if n % 1000 = 0 then "." ++ places (n / 1000) 6
  else "." ++ places n 9

def summary (m : Moment) : String := m.date.text ++ " " ++ m.clock

def exact (m : Moment) : String := m.date.text ++ "T" ++ m.clock ++ m.fraction ++ "Z"

end Moment
end CallRouting.Report
