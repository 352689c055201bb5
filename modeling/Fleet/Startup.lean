import Fleet.CommandLine.Commands
import Fleet.Console
import Fleet.Provider.LocalHost
import Fleet.Provider.Scripted
import Fleet.Provider.Unavailable

/-! Starting up: providers are opened and registered, and a command line is carried out. -/

namespace Fleet

/-- A registry of providers on a site. -/
abbrev SiteRegistry := Registry (Provider Site)

namespace Startup

/-- Opens the provider of the machine at hand, as if nothing had been created on it. -/
def openLocal : Program Site (Provider Site) := do
  let now ← Program.clock
  modify fun site => { site with localFleet := .start now site.hostName }
  return LocalHost.provider

/-- The settings for Compute Engine of those that come with the site. -/
def standardSettings (site : Site) : Compute.Settings :=
  { project := .text site.project }

/-- Opens a provider that keeps settings for Compute Engine. -/
def openWith (provider : Provider Site) (settings : Compute.Settings) :
    Program Site (Provider Site) := do
  modify fun site => { site with settings := site.settings.insert provider.name settings }
  return provider

/-- Opens a provider in memory. -/
def openScripted (name : String) (script : Script) : Program Site (Provider Site) := do
  modify fun site => { site with scripts := site.scripts.insert name script }
  return Scripted.provider name

/-- Why Compute Engine cannot be used without its tool. -/
def toolMissing : String :=
  "please install the gcloud CLI utilities (https://cloud.google.com/sdk/downloads)"

/-- Opens a provider and registers it. -/
def enroll (registry : SiteRegistry) (opening : Program Site (Provider Site)) :
    Program Site SiteRegistry := do
  let provider ← opening
  let enrolling : StateM Site SiteRegistry := registry.enroll provider
  enrolling

/-- Registers every provider there is. Without its tool Compute Engine has a stand-in. -/
def openAll (registry : SiteRegistry) : Program Site SiteRegistry := do
  let registry ← enroll registry openLocal
  let site ← get
  let settings := standardSettings site
  if site.hasTool then
    enroll registry (openWith Compute.provider settings)
  else
    tell Site .debug "gcloud not found; GCE provider unavailable"
    enroll registry (openWith (Unavailable.provider Compute.providerName toolMissing) settings)

/-- What the command line depends on at a site. -/
def catalogue (registry : SiteRegistry) (site : Site) : Except Fault CommandLine.Catalogue :=
  CommandLine.catalogue registry site (site.version.getD "unknown")

/-- How a command line came to its end. -/
inductive Ending where
  /-- The command line itself ended it: it was not understood, or it asked about the program. -/
  | halted (halt : CommandLine.Halt)
  /-- The command was carried out. -/
  | done (report : Report)
  /-- The command failed with a fault of the fleet or of a provider. -/
  | failed (command : String) (fault : Fault)

/-- The status that the program ends with. There is none when a fault is left that neither the
fleet nor the user raised. -/
def Ending.status : Ending → Option Int
  | halted (.misuse _ _) => some 2
  | halted .help | halted (.version _) | done _ => some 0
  | halted (.fault _) => none
  | failed _ fault =>
    if fault.isInterrupt then some 130 else if fault.isFleet then some 1 else none

/-- What a plain console shows in the end. Flawed markup is a fault that is left. -/
def Ending.shown : Ending → Except Fault String
  | done report => report.plainText.mapError fun flaw => .problem (.markup flaw)
  | halted _ | failed _ _ => .ok ""

/-- Reads a command line. Nothing can be read when two providers add the same option. -/
def read (registry : SiteRegistry) (site : Site) (arguments : List String) :
    Except CommandLine.Halt (Bool × Command) :=
  match catalogue registry site with
  | .ok catalogue => CommandLine.parse catalogue arguments
  | .error fault => .error (.fault fault)

/-- Carries out a command line. -/
def carryOut (registry : SiteRegistry) (arguments : List String) : StateM Site Ending := do
  match read registry (← get) arguments with
  | .error halt => return .halted halt
  | .ok (_, command) =>
    match ← (command.run registry).run with
    | .ok report => return .done report
    | .error fault => return .failed command.name fault

/-- Carries out a command line as a program of its own: how much is told follows the command line,
and a fault of the fleet is told as an error. -/
def execute (registry : SiteRegistry) (arguments : List String) : StateM Site Ending := do
  match read registry (← get) arguments with
  | .error halt => return .halted halt
  | .ok (verbose, command) =>
    modify fun site => { site with logger := site.logger.setUp verbose }
    match ← (command.run registry).run with
    | .ok report => return .done report
    | .error fault =>
      if fault.isFleet then
        tell Site .error s!"{command.name} failed: {fault.message}"
      return .failed command.name fault

/-- Starts with every provider there is and carries out a command line as a program of its own. -/
def start (arguments : List String) : StateM Site Ending := do
  match ← (openAll .empty).run with
  | .ok registry => execute registry arguments
  | .error fault => return .halted (.fault fault)

end Startup

end Fleet
