import Fleet.Duration.Basic
import Fleet.Number.Rounding

/-! Lengths of time in words, to the nearest unit that says the most. -/

namespace Fleet.Duration

/-- A count of things, in the singular or the plural. -/
def counted (count : Nat) (one many : String) : String :=
  if count == 1 then one else s!"{count} {many}"

/-- A number with a comma before every third digit from the right. -/
def grouped (n : Nat) : String :=
  let rec group : List Char → List Char
    | a :: b :: c :: d :: rest => a :: b :: c :: ',' :: group (d :: rest)
    | short => short
  String.ofList (group (toString n).toList.reverse).reverse

/-- Less than a day. -/
def spokenClock (seconds : Nat) : String :=
  if seconds == 0 then "a moment"
  else if seconds < 60 then counted seconds "a second" "seconds"
  else if seconds < 3600 then
    -- What is rounded up to a full hour is told as one.
    match Number.nearest seconds 60 with
    | 60 => "an hour"
    | minutes => counted minutes "a minute" "minutes"
  else
    match Number.nearest seconds 3600 with
    | 24 => "a day"
    | hours => counted hours "an hour" "hours"

/-- The months nearest to a count of days, at thirty and a half days each. -/
def nearestMonths (days : Nat) : Nat :=
  Number.nearest (2 * days) 61

/-- At least a day and less than a year. -/
def spokenDays (days : Nat) : String :=
  match nearestMonths days with
  | 0 => counted days "a day" "days"
  | 12 => "a year"
  | months => counted months "a month" "months"

/-- A year and a count of days short of another one. -/
def spokenYearAnd (days : Nat) : String :=
  if days == 0 then "a year"
  else match nearestMonths days with
    | 0 => "1 year, " ++ counted days "1 day" "days"
    | 12 => "2 years"
    | months => "1 year, " ++ counted months "1 month" "months"

/-- A count of seconds in words. -/
def spoken (seconds : Nat) : String :=
  let days := seconds / secondsPerDay
  match days / 365 with
  | 0 => if days == 0 then spokenClock (seconds % secondsPerDay) else spokenDays days
  | 1 => spokenYearAnd (days % 365)
  | _ => grouped (Number.nearest days 365) ++ " years"

end Fleet.Duration
