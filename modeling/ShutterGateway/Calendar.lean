import ShutterGateway.Text.Hex

/-!
Calendar text of points in time. Time is counted in seconds from the start of 1970 in universal
time, and dates are those of the Gregorian calendar, extended to all years. For the arithmetic a
year runs from March to February, so that the leap day comes last in it.
-/

namespace ShutterGateway

/-- A point in time, in seconds from the start of 1970. -/
abbrev UnixTime := Int

/-- A date of the Gregorian calendar. -/
structure Date where
  year : Int
  month : Nat
  day : Nat
  deriving DecidableEq, Repr

namespace Date

/-- The days of four hundred years, after which the calendar repeats. -/
def cycleDays : Int := 146097

/-- The days from the first of March of the year zero to the start of 1970. -/
def epochDays : Int := 719468

/-- The year of a cycle, counted from zero, in which a day of the cycle lies. -/
def yearOfCycle (day : Nat) : Nat :=
  (day - day / 1460 + day / 36524 - day / 146096) / 365

/-- The date that is so many days after the start of 1970. -/
def ofDays (days : Int) : Date :=
  let shifted := days + epochDays
  let dayOfCycle := (shifted.fmod cycleDays).toNat
  let yearInCycle := yearOfCycle dayOfCycle
  let dayOfYear := dayOfCycle - (365 * yearInCycle + yearInCycle / 4 - yearInCycle / 100)
  let monthFromMarch := (5 * dayOfYear + 2) / 153
  let month := if monthFromMarch < 10 then monthFromMarch + 3 else monthFromMarch - 9
  { year := shifted.fdiv cycleDays * 400 + yearInCycle + (if month ≤ 2 then 1 else 0)
    month := month
    day := dayOfYear - (153 * monthFromMarch + 2) / 5 + 1 }

/-- A year with four digits. A year outside zero to 9999 has a sign. -/
def yearText (year : Int) : String :=
  let digits := zeroFilled 4 (toString year.natAbs)
  if 0 ≤ year ∧ year ≤ 9999 then digits else (if year < 0 then "-" else "+") ++ digits

end Date

namespace UnixTime

/-- A number with two digits. -/
def twoDigits (n : Nat) : String :=
  zeroFilled 2 (toString n)

/-- The date and the time of day of a point in time, as in `2023-11-14T22:13:20Z`. -/
def text (time : UnixTime) : String :=
  let date := Date.ofDays (time.fdiv 86400)
  let second := (time.fmod 86400).toNat
  Date.yearText date.year ++ "-" ++ twoDigits date.month ++ "-" ++ twoDigits date.day ++ "T"
    ++ twoDigits (second / 3600) ++ ":" ++ twoDigits (second / 60 % 60) ++ ":"
    ++ twoDigits (second % 60) ++ "Z"

end UnixTime

end ShutterGateway
