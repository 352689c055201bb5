import Fleet.Duration.Basic

/-! Lengths of time in the standard period notation, such as `P1DT2H3.5S`. -/

namespace Fleet.Duration

/-- Days in the year of the notation. -/
def daysPerYear : Nat := 365

/-- A count and the letter of its unit, or nothing when there are none of it. -/
def part (count : Nat) (letter : String) : String :=
  if count == 0 then "" else toString count ++ letter

/-- The digits after the point of a count of millionths, without closing zeros. -/
def fractionDigits (millionths : Nat) : String :=
  let digits := (toString millionths).toList
  let padded := List.replicate (6 - digits.length) '0' ++ digits
  String.ofList (padded.reverse.dropWhile (· == '0')).reverse

/-- Seconds and millionths of a second. -/
def secondsPart (seconds millionths : Nat) : String :=
  if millionths == 0 then part seconds "S"
  else toString seconds ++ "." ++ fractionDigits millionths ++ "S"

/-- The period notation. A sign stands before all of it, and no time at all is written in
seconds. -/
def period (d : Duration) : String :=
  let magnitude := d.micros.natAbs
  let days := magnitude / microsPerDay
  let clock := magnitude % microsPerDay
  let seconds := clock / microsPerSecond
  -- There are no months, as a length of time does not tell which ones.
  let dateParts := part (days / daysPerYear) "Y" ++ part (days % daysPerYear) "D"
  let timeParts := part (seconds / 3600) "H" ++ part (seconds % 3600 / 60) "M" ++
    secondsPart (seconds % 60) (clock % microsPerSecond)
  let sign := if d.micros < 0 then "-" else ""
  if d.isZero then "PT0S"
  else sign ++ "P" ++ dateParts ++ (if clock == 0 then "" else "T" ++ timeParts)

end Fleet.Duration
