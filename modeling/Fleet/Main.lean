import Fleet.Startup
import Std.Time.DateTime.Timestamp

/-! The program: carries out a command line at the machine at hand. -/

namespace Fleet.Machine

/-- What an action gives, or a stand-in when it fails. -/
def attempt {α : Type} (standIn : α) (action : IO α) : IO α :=
  try action catch _ => return standIn

/-- Days from the first day of the year 1 to the day that the machine counts from. -/
def epochDay : Nat := (Calendar.Date.mk 1970 1 1).dayNumber

/-- The time that the machine's clock shows, or the first moment of all. -/
def readClock : IO Moment := do
  let shown ← Std.Time.Timestamp.now
  let nanoseconds := shown.toNanosecondsSinceUnixEpoch.val
  let moment? := Moment.ofClock? (epochDay * microsPerDay + nanoseconds / 1000) (some 0)
  return moment?.getD ⟨0, some 0, by decide⟩

/-- The machine at hand. From here no other program is run, so the tool of Compute Engine is not
there. -/
def readSite : IO Site := do
  let clock ← readClock
  let hostName ← attempt "localhost" (IO.FS.readFile "/proc/sys/kernel/hostname")
  let project ← IO.getEnv "CLOUDSDK_CORE_PROJECT"
  return {
    clock := clock
    hostName := Text.trim hostName
    hasTool := false
    tool := {}
    cloud := { zones := .empty, faults := .empty }
    project := project.getD ""
    version := some CommandLine.programVersion
    logger := .fresh
    order := []
    localFleet := .start clock (Text.trim hostName)
    settings := .empty
    scripts := .empty
    trace := []
    log := [] }

/-- Shows how a command line came to its end, and gives the status to end with: that of a plain
failure when there is none. -/
def showEnding (ending : Startup.Ending) : IO UInt32 := do
  match ending, ending.shown with
  | _, .error fault =>
    IO.eprintln fault.message
    return 1
  | .halted (.misuse program message), _ => IO.eprintln s!"{program}: error: {message}"
  | .halted .help, _ =>
    IO.println s!"usage: {CommandLine.programName} [-h] [--version] [-v] command"
  | .halted (.version text), _ => IO.println text
  | .halted (.fault fault), _ => IO.eprintln fault.message
  | .done _, .ok text => IO.print text
  | .failed _ fault, _ => unless fault.isFleet do IO.eprintln fault.message
  return (ending.status.getD 1).toNat.toUInt32

end Fleet.Machine

open Fleet Machine in
/-- Carries out a command line and ends with its status. -/
def main (arguments : List String) : IO UInt32 := do
  let site ← readSite
  let (ending, site) := (Startup.start arguments).run site
  site.log.forM fun line => IO.eprintln s!"{line.severity.name} {line.text}"
  showEnding ending
