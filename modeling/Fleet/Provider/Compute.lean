import Fleet.Compute.Client
import Fleet.Draft
import Fleet.Provider.Basic

/-! The provider of virtual machines on Google Compute Engine. -/

namespace Fleet.Compute

/-- The name of the provider. -/
def providerName : String := "gce"

/-- The address inside, from an instance's first interface. -/
def insideAddress (machine : Instance) : String :=
  match machine.interfaces with
  | [] => ""
  | first :: _ => first.inside

/-- The address from outside, from the first way into an instance's first interface. -/
def outsideAddress (machine : Instance) : String :=
  match machine.interfaces with
  | [] => ""
  | first :: _ => first.outside.headD ""

/-- The lifetime that an instance's labels tell, if they tell one. More than a length of time can
be is not taken for a missing one. -/
def labelledLifetime (labels : Labels) : Except Fault (Option Duration) :=
  match labels.get? lifetimeLabel with
  | none => .ok none
  | some text =>
    match Duration.parse text with
    | .ok lifetime => .ok (some lifetime)
    | .error (.outOfRange days) => .error (.problem (.duration (.outOfRange days)))
    | .error _ => .ok none

/-- An instance as a virtual machine. What its data do not tell is empty and told as a flaw. -/
def toVm (project zone : String) (machine : Instance) : Except Fault Vm := do
  let lifetime ← labelledLifetime machine.labels
  let inside := insideAddress machine
  let outside := outsideAddress machine
  let nameFlaws := if Label.accepts machine.name then [] else [VmFlaw.invalidName]
  let lifetimeFlaws := if lifetime.isSome then [] else [VmFlaw.noExpiration]
  let networkFlaws := if inside.isEmpty || outside.isEmpty then [VmFlaw.badNetwork] else []
  match Moment.ofText machine.created with
  | .ok created => return {
      name := machine.name
      provider := providerName
      createdAt := created
      lifetime := some (lifetime.getD .zero)
      dns := s!"{machine.name}.{zone}.{project}"
      privateIp := inside
      publicIp := outside
      zone := zone
      flaws := nameFlaws ++ lifetimeFlaws ++ networkFlaws }
  | .error .malformed => .error (.problem (.invalid [⟨"created_at", .malformedMoment⟩]))
  | .error .yearZero => .error (.problem (.invalid [⟨"created_at", .yearZero⟩]))

/-- The settings of the provider. -/
def settingsAt (site : Site) : Settings :=
  (site.settings.get? providerName).getD { project := .nothing }

/-- Runs the tool and takes what it prints, without the blanks at its ends. -/
def runTool (arguments : List String) : Program Site String := do
  let words := Tool.name :: arguments
  tell Site .debug ("Running: " ++ " ".intercalate words)
  Site.note (.command words)
  match (← get).tool.run arguments with
  | .ok output => return Text.trim output
  | .error problem => throw (.problem problem)

/-- What is wrong when there is no project. -/
def projectMissing : Fault :=
  .general ("no GCE project configured (run `gcloud config set project`, " ++
    "set CLOUDSDK_CORE_PROJECT or pass --gce-project to create)") (some providerName) none

/-- The project of the settings. When they have none the tool is asked, and what it names is
kept. -/
def project : Program Site String := do
  match (settingsAt (← get)).project.text? with
  | some project => return project
  | none =>
    let found ← runTool ["config", "get-value", "project"]
    -- What the tool answers is kept before it is looked at, an empty answer included.
    modify fun site => { site with
      settings := site.settings.modify providerName fun settings =>
        { settings with project := .text found } }
    if found.isEmpty then throw projectMissing
    return found

/-- Adds the instances to the settings of the secure shell, or removes them. -/
def syncSsh (further : List String) : Program Site Unit := do
  let project ← project
  discard <| runTool (["compute", "config-ssh", "--project", project, "--quiet"] ++ further)

/-- Has one instance made, and waits until it is or has failed. -/
def settleInsert (project : String) (task : String × String × InstanceRequest) :
    StateM Site (String × Except Fault Unit) := do
  let (name, zone, request) := task
  return (name, ← (Client.persistently (Client.insert project zone request)).run)

/-- Tells of an instance that could not be made. -/
def tellFailure (ended : String × Except Fault Unit) : StateM Site Unit :=
  match ended.2 with
  | .ok () => return ()
  | .error fault => tell Site .debug s!"Failed to create {ended.1}: {fault.message}"

/-- The names that failed, in order of their first failures, each with its last one. That the user broke off
is never among the outcomes: it reaches the thread that waits for the tasks, and none of the threads that the
tasks run on. -/
def failuresOf (outcomes : List (String × Except Fault Unit)) : OrderedMap String Fault :=
  outcomes.foldl (fun failed (name, outcome) =>
    match outcome with
    | .ok () => failed
    | .error fault => failed.insert name fault) .empty

/-- The failure of all, if any instance failed. -/
def createFailure (count : Nat) (failed : OrderedMap String Fault) : Except Fault Unit :=
  match failed.values with
  | [] => .ok ()
  | cause :: _ =>
    let names := ", ".intercalate (failed.keys.mergeSort (fun a b => a ≤ b))
    .error (.because ⟨.general, s!"failed to create {failed.size} of {count} VMs: {names}",
      some providerName, some "create"⟩ cause)

/-- The instances to ask for, each with its name and zone. -/
def tasksOf (settings : Settings) (places : List (String × String)) (options : CreateOptions) :
    Except Fault (List (String × String × InstanceRequest)) :=
  places.mapM fun (name, zone) =>
    match settings.request name zone options with
    | .ok request => .ok (name, zone, request)
    | .error problem => .error (.problem problem)

/-- Has an instance made for each name, side by side, whatever becomes of the others, and then tells
of those that failed. Nothing is done when it is not clear what to ask for. -/
def create (names : List String) (options : CreateOptions) : Program Site Unit := do
  if names.isEmpty then return ()
  let project ← project
  let site ← get
  let settings := settingsAt site
  let zones := settings.zonesFor names.length options.spread
  let tasks ← Program.ofExcept (tasksOf settings (names.zip zones) options)
  -- The zones were fixed by position before, whatever the order in which tasks end.
  let settled : StateM Site (List (String × Except Fault Unit)) :=
    ((Host.schedule site).arrange Prod.fst tasks).mapM (settleInsert project)
  let ended ← settled
  ended.forM fun outcome => tellFailure outcome
  Program.ofExcept (createFailure names.length (failuresOf ended))

/-- Deletes instances in turn, up to the first failure. -/
def delete (roster : Roster) : Program Site Unit := do
  let project ← project
  roster.forM fun vm => Client.persistently (Client.delete project vm.zone vm.name)

/-- Sets the lifetimes of instances in turn, up to the first failure. -/
def extend (roster : Roster) (lifetime : Duration) : Program Site Unit := do
  let project ← project
  roster.forM fun vm => Client.persistently (Client.setLifetime project vm.zone vm.name lifetime)

/-- Fails at the first instance, as its lifetime would have to be written out. -/
def extendToNothing (roster : Roster) : Program Site Unit := do
  let project ← project
  roster.forM fun vm => Client.persistently do
    discard <| Client.fetch project vm.zone vm.name
    throw (.problem .noLifetime)

/-- What stands before the first at sign of an account. -/
def userPart (account : String) : String :=
  String.ofList (account.toList.takeWhile (· != '@'))

/-- The user that the tool acts as. -/
def account : Program Site String := do
  let account ← runTool ["auth", "list", "--filter=status:ACTIVE", "--format=value(account)"]
  return userPart account

/-- The instances of the project as virtual machines. -/
def list : Program Site Roster := do
  let project ← project
  let listing ← Client.persistently (Client.list project)
  Program.ofExcept (listing.mapM fun (zone, machine) => toVm project zone machine)

/-- The options for the settings of a provider. -/
def flagsOf (name : String) (site : Site) : List Flag :=
  ((site.settings.get? name).map Settings.flags).getD []

/-- Takes over the values of the options for the settings of a provider. -/
def loadFlagsOf (name : String) (values : FlagValues) : Program Site Unit :=
  modify fun site => { site with
    settings := site.settings.modify name fun settings => settings.load values }

/-- The provider on Compute Engine. -/
def provider : Provider Site where
  name := providerName
  kind := .compute
  cleanSsh := syncSsh ["--remove"]
  configSsh := syncSsh []
  create := create
  delete := delete
  extend := extend
  extendToNothing := extendToNothing
  account := account
  flags := flagsOf providerName
  loadFlags := loadFlagsOf providerName
  list := list

end Fleet.Compute
