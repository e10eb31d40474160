/-! Times in milliseconds since the start of 1970, as dates of the Gregorian calendar. -/

namespace Harvest.Calendar

/-- The time so many milliseconds before another one, unless the calendar has no room for it. -/
def before? (span time : Int) : Option Int :=
  if -8334601228800000 ≤ time - span ∧ time - span < 8210266876800000 then some (time - span) else none

/-- The year, month and day of a day counted from the start of 1970. The count is moved to years that start
in March, so that a leap day is the last one of its year. -/
def dateOf (day : Int) : Int × Nat × Nat :=
  let day := day + 719468
  let era := day.fdiv 146097
  let inEra := (day.fmod 146097).toNat
  let year := (inEra - inEra / 1460 + inEra / 36524 - inEra / 146096) / 365
  let inYear := inEra - (365 * year + year / 4 - year / 100)
  let month := (5 * inYear + 2) / 153
  let date := inYear - (153 * month + 2) / 5 + 1
  let month := if month < 10 then month + 3 else month - 9
  (year + era * 400 + (if month ≤ 2 then 1 else 0), month, date)

/-- A number with at least so many digits. -/
def padded (width n : Nat) : String :=
  let digits := toString n
  String.ofList (List.replicate (width - digits.length) '0') ++ digits

/-- A year; one outside of four digits has a sign. -/
def yearText (year : Int) : String :=
  if 0 ≤ year ∧ year ≤ 9999 then padded 4 year.toNat
  else (if year < 0 then "-" else "+") ++ padded 4 year.natAbs

/-- The written form of a time, with milliseconds only if there are some. -/
def render (time : Int) : String :=
  let (year, month, date) := dateOf (time.fdiv 86400000)
  let inDay := (time.fmod 86400000).toNat
  let millis := inDay % 1000
  let seconds := inDay / 1000
  yearText year ++ "-" ++ padded 2 month ++ "-" ++ padded 2 date ++ "T" ++ padded 2 (seconds / 3600) ++ ":"
    ++ padded 2 (seconds / 60 % 60) ++ ":" ++ padded 2 (seconds % 60)
    ++ (if millis = 0 then "" else "." ++ padded 3 millis) ++ "+00:00"

/-- The first day. -/
example : dateOf 0 = (1970, 1, 1) := by decide

/-- A leap day. -/
example : dateOf 19782 = (2024, 2, 29) := by decide

end Harvest.Calendar
