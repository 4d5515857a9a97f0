import GladeGo.Text.Numeral

/-! # Timestamps

The date and the time of day, in UTC, of a number of seconds since the start of 1970. Days are
counted in the Gregorian calendar, also before it was in use. -/

namespace GladeGo.Text

/-- A day of the Gregorian calendar. -/
structure Date where
  year : Int
  month : Nat
  day : Nat
  deriving Repr, DecidableEq

/-- The number of days from 1 March of the year 0 to 1 January 1970. -/
def daysToEpoch : Int := 719468

/-- The number of days in 400 years. -/
def daysInCycle : Nat := 146097

/-- The date that lies `days` days after 1 January 1970. Years are counted from March on, so that
the leap day comes last, in cycles of 400 years. -/
def dateOfDays (days : Int) : Date :=
  let shifted := days + daysToEpoch
  let cycle := Int.fdiv shifted daysInCycle
  let dayOfCycle := (Int.fmod shifted daysInCycle).toNat
  let yearOfCycle :=
    (dayOfCycle - dayOfCycle / 1460 + dayOfCycle / 36524 - dayOfCycle / 146096) / 365
  let dayOfYear := dayOfCycle - (365 * yearOfCycle + yearOfCycle / 4 - yearOfCycle / 100)
  let monthFromMarch := (5 * dayOfYear + 2) / 153
  let month := if monthFromMarch < 10 then monthFromMarch + 3 else monthFromMarch - 9
  { year := cycle * 400 + yearOfCycle + if month ≤ 2 then 1 else 0
    month
    day := dayOfYear - (153 * monthFromMarch + 2) / 5 + 1 }

/-- A number of at least two digits. -/
def twoDigits (n : Nat) : String := String.ofList (paddedDigits 10 2 n)

/-- A year of at least four digits; before the year 0 and after 9999 it carries its sign. -/
def showYear (year : Int) : String :=
  let digits := String.ofList (paddedDigits 10 4 year.natAbs)
  if year < 0 then "-" ++ digits else if 9999 < year then "+" ++ digits else digits

/-- The number of seconds in a day. -/
def secondsInDay : Nat := 86400

/-- The moment `seconds` after the start of 1970, as in `1970-01-01 00:00:00`. -/
def showTimestamp (seconds : Int) : String :=
  let date := dateOfDays (Int.fdiv seconds secondsInDay)
  let time := (Int.fmod seconds secondsInDay).toNat
  showYear date.year ++ "-" ++ twoDigits date.month ++ "-" ++ twoDigits date.day ++ " " ++
    twoDigits (time / 3600) ++ ":" ++ twoDigits (time / 60 % 60) ++ ":" ++ twoDigits (time % 60)

end GladeGo.Text
