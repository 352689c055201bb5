import Fleet.Compute.Settings
import Fleet.Compute.Tool
import Fleet.Event
import Fleet.LocalFleet
import Fleet.Moment.Written
import Fleet.Program
import Fleet.Script

/-! The site that a fleet is run from: its clock, its tools, the cloud, and what the providers
keep there. -/

namespace Fleet

/-- The site that a fleet is run from. -/
structure Site where
  /-- What the clock says, where it stands. -/
  clock : Moment
  /-- The name of the machine at hand in its network. -/
  hostName : String
  /-- Whether the tool of Compute Engine is there. -/
  hasTool : Bool
  tool : Compute.Tool
  cloud : Compute.Cloud
  /-- The project that is set for everything that runs here. -/
  project : String
  /-- The version of this program, if it is known. -/
  version : Option String
  logger : Logger
  /-- The labels of tasks that end before the others. -/
  order : List String
  /-- The order in which the others end, and those of one label. -/
  pace : Schedule := .inOrder
  localFleet : LocalFleet
  /-- The settings for Compute Engine, by provider. -/
  settings : OrderedMap String Compute.Settings
  /-- The providers in memory. -/
  scripts : OrderedMap String Script
  /-- What was done to the outside, first to last. -/
  trace : List Event
  /-- What was told on the side, first to last. -/
  log : List LogLine

namespace Site

/-- The time, in universal time. -/
def now (site : Site) : Except MomentError Moment := site.clock.universal

instance : Host Site where
  now := now
  schedule site := site.pace.preferring site.order
  tell severity text site :=
    if severity.isTold site.logger.verbose then
      { site with log := site.log ++ [⟨severity, text⟩] }
    else site

/-- Notes something done to the outside. -/
def note (event : Event) : StateM Site Unit :=
  modify fun site => { site with trace := site.trace ++ [event] }

/-- Meets the fault that is due for a call to the cloud, if there is one. -/
def meetFault (key : String) : Program Site Unit := do
  let site ← get
  let (fault, faults) := site.cloud.faults.take key
  set { site with cloud := { site.cloud with faults := faults } }
  match fault with
  | some fault => throw fault
  | none => return ()

/-- Changes the cloud, unless that is not possible. -/
def changeCloud (change : Compute.Cloud → Except Problem Compute.Cloud) : Program Site Unit := do
  let site ← get
  match change site.cloud with
  | .ok cloud => set { site with cloud := cloud }
  | .error problem => throw (.problem problem)

/-- Waits between two attempts. -/
def pause (seconds : Nat) : StateM Site Unit :=
  note (.waited seconds)

end Site

end Fleet
