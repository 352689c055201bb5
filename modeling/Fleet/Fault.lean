import Fleet.Duration.Written
import Fleet.Markup.Basic
import Fleet.Moment.Basic
import Fleet.Text.Template

/-! What can go wrong: problems met outside the fleet, and fleet errors that wrap them. -/

namespace Fleet

/-- The sorts of problem that a backend reports in words of its own. -/
inductive ReportSort where
  /-- The backend is in no state to do what it was asked. -/
  | state
  /-- A value is not acceptable. -/
  | value
  /-- A key is not there. -/
  | key
  /-- The operating system refused. -/
  | system
deriving DecidableEq

/-- What is wrong with one field of a loosely typed record. -/
inductive FieldIssue where
  | missing
  | notText
  | notList
  | notMember
  | notMoment
  | malformedMoment
  | yearZero
  | notFlag
  | malformedFlag
  | notDuration
deriving DecidableEq

/-- A field, with its place in a list after a point, and what is wrong with it. -/
structure FieldError where
  path : String
  issue : FieldIssue
deriving DecidableEq

/-- Why a position in a list cannot be used. -/
inductive PositionError where
  /-- The list has no such position. -/
  | outside
  /-- No list could have such a position. -/
  | tooLarge
deriving DecidableEq

/-- What is wrong with the position, in words. -/
def PositionError.message : PositionError → String
  | outside => "list index out of range"
  | tooLarge => "cannot fit 'int' into an index-sized integer"

/-- Problems that arise outside the fleet's own rules. -/
inductive Problem where
  /-- A backend's own report. -/
  | reported (sort : ReportSort) (text : String)
  /-- The zone already has an instance of that name. -/
  | instanceExists (zone name : String)
  /-- The zone has no instance of that name. -/
  | instanceMissing (zone name : String)
  /-- A command ended with a status other than success; a signal counts downwards from zero. -/
  | commandFailed (command : List String) (status : Int)
  /-- A command could not be found. -/
  | commandMissing (command : String)
  /-- A text is not a length of time. -/
  | duration (error : DurationError)
  /-- Moments could not be computed with. -/
  | moment (error : MomentError)
  /-- A position in a list cannot be used. -/
  | position (error : PositionError)
  /-- Fields of a loosely typed record are wrong. -/
  | invalid (fields : List FieldError)
  /-- Two providers ask for the same option. -/
  | optionTwice (option : String)
  /-- The usage of a program cannot be divided into lines. -/
  | unevenUsage
  /-- What is told of an option cannot be filled in. -/
  | template (flaw : Text.Template.Flaw)
  /-- What is to be shown has tags that do not match. -/
  | markup (flaw : Markup.Flaw)
  /-- A lifetime was to be written out, and none was given. -/
  | noLifetime
  /-- A lifetime was to be counted, and none was given. -/
  | noLifetimeCount
  /-- The image that a disk starts from is no text. -/
  | imageNotText
  /-- The user broke off the command. -/
  | interrupted
deriving DecidableEq

/-- The names of the signals that end a command: those counted from one on, then the first and the
last of those that have no meaning of their own. -/
def signalNames : List (Nat × String) :=
  [(1, "SIGHUP"), (2, "SIGINT"), (3, "SIGQUIT"), (4, "SIGILL"), (5, "SIGTRAP"), (6, "SIGABRT"),
   (7, "SIGBUS"), (8, "SIGFPE"), (9, "SIGKILL"), (10, "SIGUSR1"), (11, "SIGSEGV"), (12, "SIGUSR2"),
   (13, "SIGPIPE"), (14, "SIGALRM"), (15, "SIGTERM"), (16, "SIGSTKFLT"), (17, "SIGCHLD"),
   (18, "SIGCONT"), (19, "SIGSTOP"), (20, "SIGTSTP"), (21, "SIGTTIN"), (22, "SIGTTOU"),
   (23, "SIGURG"), (24, "SIGXCPU"), (25, "SIGXFSZ"), (26, "SIGVTALRM"), (27, "SIGPROF"),
   (28, "SIGWINCH"), (29, "SIGIO"), (30, "SIGPWR"), (31, "SIGSYS"), (34, "SIGRTMIN"),
   (64, "SIGRTMAX")]

/-- How a command that failed came to its end. -/
def endingText (status : Int) : String :=
  if status < 0 then
    match signalNames.lookup status.natAbs with
    | some name => s!"died with <Signals.{name}: {status.natAbs}>."
    | none => s!"died with unknown signal {status.natAbs}."
  else s!"returned non-zero exit status {status}."

/-- What the problem is, in words. -/
def Problem.message : Problem → String
  | reported .key text => Text.quote text
  | reported _ text => text
  | instanceExists zone name => s!"already exists: {zone}/{name}"
  | instanceMissing zone name => s!"not found: {zone}/{name}"
  | commandFailed command status => s!"Command '{Text.quoteList command}' {endingText status}"
  | commandMissing command => "[Errno 2] No such file or directory: " ++ Text.quote command
  | duration error => error.message
  | moment error => error.message
  | position error => error.message
  | invalid _ => "<ValidationError>"
  | optionTwice option => s!"argument {option}: conflicting option string: {option}"
  | unevenUsage => ""
  | template flaw => flaw.message
  | markup flaw => flaw.message
  | noLifetime => "'list' object has no attribute 'total_seconds'"
  | noLifetimeCount => "unsupported operand type(s) for //: 'list' and 'datetime.timedelta'"
  | imageNotText =>
    "Failed to initialize AttachedDiskInitializeParams. " ++
      "Underlying error: bad argument type for built-in operation"
  | interrupted => ""

/-- The kinds of error that the fleet itself raises. -/
inductive FleetErrorKind where
  /-- Any error without a kind of its own. -/
  | general
  /-- No provider is registered under the name that was asked for. -/
  | unknownProvider
  /-- A provider's operation failed. -/
  | providerFailed
  /-- The provider is registered but cannot be used. -/
  | unavailable
  /-- No provider has an active account. -/
  | noActiveAccount
  /-- Providers have different active accounts. -/
  | accountMismatch (accounts : List (String × String))
  /-- A zone has no region. -/
  | malformedZone (zone : String)
deriving DecidableEq

/-- What a fleet error says: its kind and words, and where it happened if that is known. -/
structure FleetError where
  kind : FleetErrorKind
  message : String
  provider : Option String
  operation : Option String
deriving DecidableEq

/-- Anything that stops an operation. -/
inductive Fault where
  /-- A problem from outside. -/
  | problem (problem : Problem)
  /-- A fleet error of its own. -/
  | fleet (error : FleetError)
  /-- A fleet error that wraps its cause. -/
  | because (error : FleetError) (cause : Fault)
deriving DecidableEq

namespace Fault

/-- What stopped the operation, in words. An error that wraps its cause names the cause last. -/
def message : Fault → String
  | problem p => p.message
  | fleet error => error.message
  | because error cause => error.message ++ ": " ++ cause.message

/-- Whether the fleet raised it. -/
def isFleet : Fault → Bool
  | problem _ => false
  | fleet _ | because _ _ => true

/-- Whether the user broke off the command. Nobody but the command itself acts on that. -/
def isInterrupt (fault : Fault) : Bool :=
  fault = problem .interrupted

/-- A fleet error without a kind of its own. -/
def general (message : String) (provider operation : Option String) : Fault :=
  fleet ⟨.general, message, provider, operation⟩

/-- The accounts of the providers that were asked do not agree. -/
def accountMismatch (accounts : List (String × String)) : Fault :=
  fleet ⟨.accountMismatch accounts,
    "multiple active Provider accounts detected: " ++ Text.quotePairs accounts, none,
    some "find_active_account"⟩

/-- A zone's name does not begin with a region. -/
def malformedZone (zone : String) (provider : Option String) : Fault :=
  fleet ⟨.malformedZone zone, "unable to parse region from zone " ++ Text.quote zone, provider,
    none⟩

/-- A fault as the provider's fault. Breaking off a command is nobody's fault. -/
def inProvider (name : String) (operation : Option String) (fault : Fault) : Fault :=
  if fault.isInterrupt then fault
  else because ⟨.providerFailed, s!"in provider: {name}", some name, operation⟩ fault

end Fault

end Fleet
