/-!
The stamp of a moment, as log lines carry it: date and time in universal time.
-/

namespace SessionHost.Console

/-- A number in decimal with zeros in front up to a width. -/
def padded (width n : Nat) : String :=
  let digits := toString n
  String.ofList (List.replicate (width - digits.length) '0') ++ digits

/-- Year, month and day of the day with a number, counted from the start of the year 1970. Years
are taken to begin in March, so that the day a leap year adds is their last. -/
def dateOf (days : Nat) : Nat × Nat × Nat :=
  let fromEra := days + 719468
  let era := fromEra / 146097
  let day := fromEra % 146097
  let year := (day - day / 1460 + day / 36524 - day / 146096) / 365
  let ofYear := day - (365 * year + year / 4 - year / 100)
  let month := (5 * ofYear + 2) / 153
  let ofMonth := ofYear - (153 * month + 2) / 5 + 1
  let calendarMonth := if month < 10 then month + 3 else month - 9
  (year + era * 400 + (if calendarMonth ≤ 2 then 1 else 0), calendarMonth, ofMonth)

/-- The stamp of the moment so many seconds after the start of the year 1970. -/
def stamp (seconds : Nat) : String :=
  let (year, month, day) := dateOf (seconds / 86400)
  let time := seconds % 86400
  padded 4 year ++ "-" ++ padded 2 month ++ "-" ++ padded 2 day ++ " "
    ++ padded 2 (time / 3600) ++ ":" ++ padded 2 (time / 60 % 60) ++ ":" ++ padded 2 (time % 60)

example : stamp 951782400 = "2000-02-29 00:00:00" := by decide +kernel

example : stamp 1704067199 = "2023-12-31 23:59:59" := by decide +kernel

end SessionHost.Console
