/-! The log: what is told on the side while a command runs. -/

namespace Fleet

/-- How grave a log line is. -/
inductive Severity where
  | debug
  | info
  | warning
  | error
  | critical
deriving DecidableEq

namespace Severity

/-- All severities, the least grave first. -/
def all : List Severity := [debug, info, warning, error, critical]

/-- The name that stands before a log line. -/
def name : Severity → String
  | debug => "DEBUG"
  | info => "INFO"
  | warning => "WARNING"
  | error => "ERROR"
  | critical => "CRITICAL"

/-- The place in the order of gravity. -/
def rank : Severity → Nat
  | debug => 0
  | info => 1
  | warning => 2
  | error => 3
  | critical => 4

/-- The least grave severity that is told. Only errors are, unless more was asked for. -/
def threshold (verbose : Bool) : Severity :=
  if verbose then debug else error

/-- Whether a line is told at all. -/
def isTold (verbose : Bool) (severity : Severity) : Bool :=
  (threshold verbose).rank ≤ severity.rank

end Severity

/-- A line of the log. -/
structure LogLine where
  severity : Severity
  text : String
deriving DecidableEq

/-- A log with its sink. It is set up again and again as commands change how much is told; the
sink is attached the first time only. -/
structure Logger where
  verbose : Bool
  sinks : Nat
deriving DecidableEq

namespace Logger

/-- A log that was never set up. -/
def fresh : Logger := ⟨false, 0⟩

/-- The log set up to tell of errors only, or of everything. -/
def setUp (logger : Logger) (verbose : Bool) : Logger :=
  ⟨verbose, if logger.sinks == 0 then 1 else logger.sinks⟩

/-- The severities that the log tells. -/
def told (logger : Logger) : List Severity :=
  Severity.all.filter (Severity.isTold logger.verbose)

end Logger

end Fleet
