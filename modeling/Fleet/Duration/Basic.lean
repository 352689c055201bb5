/-! Signed lengths of time, counted in microseconds. -/

namespace Fleet

/-- The most whole days that a length of time can have, in either direction. -/
def maxDays : Nat := 999999999

/-- Microseconds in a second. -/
def microsPerSecond : Nat := 1000000

/-- Seconds in a day. -/
def secondsPerDay : Nat := 86400

/-- Microseconds in a day. -/
def microsPerDay : Nat := secondsPerDay * microsPerSecond

/-- A length of time. Its days, counted downwards to a whole number, stay within the most that
it can have in either direction. -/
structure Duration where
  micros : Int
  lower : -((maxDays * microsPerDay : Nat) : Int) ≤ micros
  upper : micros < (((maxDays + 1) * microsPerDay : Nat) : Int)
deriving DecidableEq

namespace Duration

/-- Two lengths of time with the same microseconds are the same. -/
@[ext]
theorem ext {a b : Duration} (same : a.micros = b.micros) : a = b := by
  cases a; cases b; simp_all

/-- The length of time with a count of microseconds, if it is in range. -/
def ofMicros? (micros : Int) : Option Duration :=
  if inRange : -((maxDays * microsPerDay : Nat) : Int) ≤ micros ∧
      micros < (((maxDays + 1) * microsPerDay : Nat) : Int) then
    some ⟨micros, inRange.1, inRange.2⟩
  else none

/-- The length of time with a count of seconds, if it is in range. -/
def ofSeconds? (seconds : Nat) : Option Duration :=
  ofMicros? ((seconds * microsPerSecond : Nat) : Int)

/-- No time at all. -/
def zero : Duration := ⟨0, by decide, by decide⟩

/-- Half a day. -/
def twelveHours : Duration := ⟨43200000000, by decide, by decide⟩

/-- Whether no time passes. -/
def isZero (d : Duration) : Bool := d.micros == 0

/-- A length of time is given back by its own count of microseconds. -/
theorem ofMicros?_micros (d : Duration) : ofMicros? d.micros = some d :=
  dif_pos ⟨d.lower, d.upper⟩

/-- The length of time that a count of microseconds gives has that count. -/
theorem micros_of_ofMicros? {micros : Int} {d : Duration} (given : ofMicros? micros = some d) :
    d.micros = micros := by
  unfold ofMicros? at given
  split at given
  · cases given; rfl
  · cases given

/-- A count of microseconds is given a length of time exactly when it is in range. -/
theorem ofMicros?_isSome (micros : Int) :
    (ofMicros? micros).isSome = decide (-((maxDays * microsPerDay : Nat) : Int) ≤ micros ∧
      micros < (((maxDays + 1) * microsPerDay : Nat) : Int)) := by
  unfold ofMicros?
  split
  next inRange => exact (decide_eq_true inRange).symm
  next outside => exact (decide_eq_false outside).symm

/-- Counts of whole seconds are in range exactly up to the last second of the last day. -/
theorem ofSeconds?_isSome (seconds : Nat) :
    (ofSeconds? seconds).isSome = decide (seconds / secondsPerDay ≤ maxDays) := by
  unfold ofSeconds?
  rw [ofMicros?_isSome, decide_eq_decide]
  simp only [maxDays, microsPerDay, secondsPerDay, microsPerSecond]
  omega

end Duration

end Fleet
