import WasmDeploy.Measure

/-!
# Dates

This file writes a time, counted in seconds from the start of 1970, as a date and a time of day.
-/

namespace WasmDeploy.Logging

/-- A day of the calendar. -/
structure Date where
  year : Int
  month : Int
  day : Int
deriving DecidableEq, Repr

/-- The date of a day, counted from the start of 1970. The count is moved to the first of March of the year
zero, so that a leap day is the last day of its year, and cut into periods of 400 years. -/
def Date.ofDays (days : Int) : Date :=
  let moved := days + 719468
  let period := moved / 146097
  let dayOfPeriod := moved % 146097
  let yearOfPeriod :=
    (dayOfPeriod - dayOfPeriod / 1460 + dayOfPeriod / 36524 - dayOfPeriod / 146096) / 365
  let dayOfYear := dayOfPeriod - (365 * yearOfPeriod + yearOfPeriod / 4 - yearOfPeriod / 100)
  let monthFromMarch := (5 * dayOfYear + 2) / 153
  let month := if monthFromMarch < 10 then monthFromMarch + 3 else monthFromMarch - 9
  { year := yearOfPeriod + 400 * period + (if month ≤ 2 then 1 else 0)
    month
    day := dayOfYear - (153 * monthFromMarch + 2) / 5 + 1 }

/-- A number with at least two digits. -/
def twoDigits (value : Int) : String :=
  if 0 ≤ value ∧ value < 10 then "0" ++ toString value else toString value

/-- A time as date and time of day, to the second below. -/
def timestamp (time : Measure) : String :=
  let exact : Rat :=
    match time with
    | .exact value => value
    | .float value => (Number.Binary64.ofFloat value).rational?.getD 0
  let seconds := exact.floor
  let date := Date.ofDays (seconds / 86400)
  let second := seconds % 86400
  s!"{date.year}-{twoDigits date.month}-{twoDigits date.day} " ++
    s!"{twoDigits (second / 3600)}:{twoDigits (second / 60 % 60)}:{twoDigits (second % 60)}"

end WasmDeploy.Logging
