import Fleet.Fault
import Fleet.Log
import Fleet.Schedule

/-! Programs: operations on a state that answer or fail, and leave a changed state either way. -/

namespace Fleet

/-- An operation on a state. When it fails, what it did before stays done. -/
abbrev Program (σ α : Type) := ExceptT Fault (StateM σ) α

/-- What the operations on a fleet need of the state that they run on. -/
class Host (σ : Type) where
  /-- What the clock says, in universal time, where the calendar has it. -/
  now : σ → Except MomentError Moment
  /-- The order in which tasks begun side by side end. -/
  schedule : σ → Schedule
  /-- Tells something on the side. -/
  tell : Severity → String → σ → σ

/-- Tells something on the side. -/
def tell (σ : Type) [Host σ] (severity : Severity) (text : String) : StateM σ Unit :=
  modify (Host.tell severity text)

namespace Program

variable {σ α : Type}

/-- The program that gives a known answer or failure and changes nothing. -/
def ofExcept (outcome : Except Fault α) : Program σ α :=
  ExceptT.mk (pure outcome)

/-- What the clock says. -/
def clock [Host σ] : Program σ Moment := do
  ofExcept ((Host.now (← get)).mapError fun error => .problem (.moment error))

/-- The program whose failures are replaced. -/
def mapFault (change : Fault → Fault) (program : Program σ α) : Program σ α :=
  ExceptT.mk do
    match ← program.run with
    | .ok answer => return .ok answer
    | .error fault => return .error (change fault)

/-- Tries again, up to a number of further times, as long as the program fails. Between two
attempts something is done that may depend on the number of the attempt that failed. The last
failure stays. Nothing is tried again once the user has broken off. -/
def retry (pause : Nat → StateM σ Unit) (program : Program σ α) (attempt : Nat) : Nat → Program σ α
  | 0 => program
  | further + 1 => ExceptT.mk do
    match ← program.run with
    | .ok answer => return .ok answer
    | .error fault =>
      if fault.isInterrupt then return .error fault
      else do
        pause attempt
        (retry pause program (attempt + 1) further).run

end Program

end Fleet
