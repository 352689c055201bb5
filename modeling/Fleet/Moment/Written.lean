import Fleet.Moment.Basic

/-! Moments as standard date and time texts, such as `2024-01-31T08:30:00.250000+01:00`. -/

namespace Fleet.Moment

/-- A number in decimal digits, with zeros in front up to a width. -/
def decimalDigits (width n : Nat) : String :=
  let digits := (toString n).toList
  String.ofList (List.replicate (width - digits.length) '0' ++ digits)

/-- Hours and minutes ahead of or behind universal time. -/
def offsetText (minutes : Int) : String :=
  (if minutes < 0 then "-" else "+") ++ decimalDigits 2 (minutes.natAbs / 60) ++ ":" ++
    decimalDigits 2 (minutes.natAbs % 60)

/-- The text of a moment, with its offset from universal time as given. -/
def textWith (offset : Int → String) (moment : Moment) : String :=
  let date := moment.date
  let seconds := moment.clock % microsPerDay / microsPerSecond
  let fraction := moment.clock % microsPerSecond
  decimalDigits 4 date.year ++ "-" ++ decimalDigits 2 date.month ++ "-" ++
    decimalDigits 2 date.day ++ "T" ++ decimalDigits 2 (seconds / 3600) ++ ":" ++
    decimalDigits 2 (seconds / 60 % 60) ++ ":" ++ decimalDigits 2 (seconds % 60) ++
    (if fraction == 0 then "" else "." ++ decimalDigits 6 fraction) ++
    ((moment.offset.map offset).getD "")

/-- The text of a moment. Six places follow the point, unless the fraction is zero. -/
def text (moment : Moment) : String :=
  moment.textWith offsetText

/-- The text of a moment, in which universal time is marked by a letter. -/
def zuluText (moment : Moment) : String :=
  moment.textWith fun minutes => if minutes == 0 then "Z" else offsetText minutes

/-- Why a text is not a moment. -/
inductive ReadError where
  /-- The text does not have the form of a date, or names none. -/
  | malformed
  /-- The text has the form of a date in the year before the first. -/
  | yearZero
deriving DecidableEq

/-- Reads a number of exactly the given count of digits. -/
def readNumber (width : Nat) (text : List Char) : Option (Nat × List Char) :=
  let digits := text.take width
  if digits.length == width && digits.all Char.isDigit then
    some (digits.foldl (fun total c => 10 * total + (c.toNat - '0'.toNat)) 0, text.drop width)
  else none

/-- Reads one character of a class. -/
def readMark (accepts : Char → Bool) : List Char → Option (List Char)
  | c :: rest => if accepts c then some rest else none
  | [] => none

/-- Reads a date. The year before the first is let through. -/
def readDate (text : List Char) : Option (Calendar.Date × List Char) := do
  let (year, text) ← readNumber 4 text
  let text ← readMark (· == '-') text
  let (month, text) ← readNumber 2 text
  let text ← readMark (· == '-') text
  let (day, text) ← readNumber 2 text
  let date : Calendar.Date := ⟨year, month, day⟩
  if date.exists then some (date, text) else none

/-- Reads a fraction of a second as microseconds, if there is one. Places beyond the sixth are
cut off. -/
def readFraction : List Char → Option (Nat × List Char)
  | c :: rest =>
    if c == '.' || c == ',' then
      let digits := rest.takeWhile Char.isDigit
      -- Missing places are zeros.
      let micros := (digits ++ List.replicate 6 '0').take 6
      if digits.isEmpty then none
      else some (micros.foldl (fun total d => 10 * total + (d.toNat - '0'.toNat)) 0,
        rest.dropWhile Char.isDigit)
    else some (0, c :: rest)
  | [] => some (0, [])

/-- Reads a time of day as microseconds after midnight. Seconds may be left out. -/
def readClock (text : List Char) : Option (Nat × List Char) := do
  let (hour, text) ← readNumber 2 text
  let text ← readMark (· == ':') text
  let (minute, text) ← readNumber 2 text
  let (second, micros, text) ← match text with
    | ':' :: text => do
      let (second, text) ← readNumber 2 text
      let (micros, text) ← readFraction text
      some (second, micros, text)
    -- Without seconds there is no fraction either.
    | _ => some (0, 0, text)
  if hour ≤ 23 && minute ≤ 59 && second ≤ 59 then
    some (((hour * 60 + minute) * 60 + second) * microsPerSecond + micros, text)
  else none

/-- The signs for a place behind universal time: the hyphen and the minus sign. -/
def behindSigns : List Char := ['-', '\u2212']

/-- Reads how far a place is ahead of universal time, up to the end of the text. -/
def readOffset : List Char → Option (Option Int)
  | [] => some none
  | ['Z'] | ['z'] => some (some 0)
  | sign :: text => do
    let text ← readMark (fun c => c == '+' || behindSigns.contains c) (sign :: text)
    let (hours, text) ← readNumber 2 text
    -- The colon between hours and minutes may be left out.
    let text := match text with
      | ':' :: text => text
      | _ => text
    let (minutes, text) ← readNumber 2 text
    let offset : Int := hours * 60 + minutes
    if text.isEmpty && hours ≤ 23 && minutes ≤ 59 then
      some (some (if behindSigns.contains sign then -offset else offset))
    else none

/-- Reads a date, a time of day and an offset; or a date alone, which is its first midnight. -/
def readParts (text : List Char) : Option (Calendar.Date × Nat × Option Int) := do
  let (date, rest) ← readDate text
  if rest.isEmpty then return (date, 0, none)
  let rest ← readMark (fun c => c == 'T' || c == 't' || c == ' ' || c == '_') rest
  let (clock, rest) ← readClock rest
  let offset ← readOffset rest
  return (date, clock, offset)

/-- The moment that a text names. -/
def ofText (text : String) : Except ReadError Moment :=
  match readParts text.toList with
  | none => .error .malformed
  | some (date, clock, offset) =>
    -- There is no year zero, which is told apart from a text that is no moment.
    if date.year == 0 then .error .yearZero
    else match ofClock? (date.dayNumber * microsPerDay + clock : Nat) offset with
      | some moment => .ok moment
      | none => .error .malformed

end Fleet.Moment
