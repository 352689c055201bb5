import Fleet.Duration.Basic
import Fleet.Number.Rounding
import Fleet.Text.Blank
import Fleet.Text.Digit
import Fleet.Text.Quoted

/-! Lengths of time as people write them: amounts of hours, minutes and seconds such as
`1h30m0s`, in any order and with repetitions. -/

namespace Fleet

/-- What the amount of a segment counts. -/
inductive TimeUnit where
  | hours
  | minutes
  | seconds
deriving DecidableEq

namespace TimeUnit

/-- The letter that ends a segment. -/
def letter : TimeUnit → Char
  | hours => 'h'
  | minutes => 'm'
  | seconds => 's'

/-- The unit that a letter stands for. -/
def ofLetter? : Char → Option TimeUnit
  | 'h' => some hours
  | 'm' => some minutes
  | 's' => some seconds
  | _ => none

/-- How many seconds one of the unit lasts. -/
def inSeconds : TimeUnit → Nat
  | hours => 3600
  | minutes => 60
  | seconds => 1

/-- A unit is read back from its letter. -/
@[simp]
theorem ofLetter?_letter (unit : TimeUnit) : ofLetter? unit.letter = some unit := by
  cases unit <;> rfl

/-- Only a unit's own letter stands for it. -/
theorem letter_of_ofLetter? {c : Char} {unit : TimeUnit} (read : ofLetter? c = some unit) :
    unit.letter = c := by
  unfold ofLetter? at read
  split at read <;> simp_all [letter]
  all_goals subst read; rfl

end TimeUnit

/-- An amount and the unit that it counts. -/
structure Segment where
  digits : List Char
  unit : TimeUnit
deriving DecidableEq

namespace Segment

/-- The segment as it is written. -/
def text (segment : Segment) : List Char :=
  segment.digits ++ [segment.unit.letter]

/-- The number that the digits write. -/
def amount (segment : Segment) : Nat :=
  Text.digitsValue segment.digits

/-- The seconds that the segment adds. -/
def inSeconds (segment : Segment) : Nat :=
  segment.amount * segment.unit.inSeconds

/-- A segment is well formed when it has digits and nothing else before its letter. -/
def WellFormed (segment : Segment) : Prop :=
  segment.digits ≠ [] ∧ ∀ c ∈ segment.digits, Text.isDigit c = true

end Segment

/-- The segments that make up a text. The digits already read of the segment in progress are
held back, last first. -/
def readSegments (held : List Char) : List Char → Option (List Segment)
  | [] => if held.isEmpty then some [] else none
  | c :: rest =>
    if Text.isDigit c then readSegments (c :: held) rest
    else if held.isEmpty then none
    else do
      let unit ← TimeUnit.ofLetter? c
      let segments ← readSegments [] rest
      return ⟨held.reverse, unit⟩ :: segments

/-- Why a text is not a length of time. -/
inductive DurationError where
  /-- The text is not a sequence of amounts with units. -/
  | malformed (text : String)
  /-- An amount has more digits than are taken for a number. -/
  | tooManyDigits (count : Nat)
  /-- The sum has more days than a length of time can have. -/
  | outOfRange (days : Nat)
deriving DecidableEq

/-- The largest count of days that the range check itself can name. -/
def maxNamedDays : Nat := 2147483647

/-- What is wrong with the text, in words. -/
def DurationError.message : DurationError → String
  | malformed text => "invalid duration: " ++ Text.quote text
  | tooManyDigits count => (Text.NumberFlaw.tooLong count).message
  | outOfRange days =>
    if days ≤ maxNamedDays then s!"days={days}; must have magnitude <= {maxDays}"
    else "Python int too large to convert to C int"

/-- The seconds that segments add up to. -/
def totalSeconds : List Segment → Nat
  | [] => 0
  | segment :: rest => segment.inSeconds + totalSeconds rest

namespace Duration

/-- The length of time that segments add up to. -/
def ofSegments (segments : List Segment) : Except DurationError Duration :=
  -- The number of digits is looked at before any of them is added up.
  match segments.find? fun segment => Text.maxNumberDigits < segment.digits.length with
  | some long => .error (.tooManyDigits long.digits.length)
  | none =>
    let seconds := totalSeconds segments
    match ofSeconds? seconds with
    | some d => .ok d
    -- The sum is told in whole days, as that is where the range ends.
    | none => .error (.outOfRange (seconds / secondsPerDay))

/-- The length of time that a text writes, blanks at its ends aside. -/
def parse (text : String) : Except DurationError Duration :=
  let body := Text.trim text
  match readSegments [] body.toList with
  | none | some [] => .error (.malformed body)
  | some segments => ofSegments segments

/-- The whole seconds, with the fraction cut off toward zero. The fraction is looked at in a
number of 53 binary places, so a length of time just short of a whole second can count as one. -/
def wholeSeconds (d : Duration) : Int :=
  let magnitude := Number.nearestWholePart d.micros.natAbs microsPerSecond
  if d.micros < 0 then -magnitude else magnitude

/-- The canonical way to write a length of time. A negative one has negative hours only. -/
def text (d : Duration) : String :=
  let total := d.wholeSeconds
  let hours := total / 3600
  let minutes := total % 3600 / 60
  let seconds := total % 60
  s!"{hours}h{minutes}m{seconds}s"

end Duration

end Fleet
