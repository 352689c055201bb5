import Fleet.Account
import Fleet.LocalFleet
import Fleet.Report

/-! Commands: what the user can have done to the fleet. -/

namespace Fleet

/-- What virtual machines are to be created with. -/
structure CreateArguments where
  names : List String
  /-- The lifetime. There is none when the option for it was given without one. -/
  lifetime : Option Duration := some .twelveHours
  localSsd : Bool := false
  spread : Bool := false
  providers : List String := []
  /-- What the providers' own options were set to. -/
  flags : FlagValues
deriving DecidableEq

/-- The options that every provider takes, which need a lifetime. -/
def CreateArguments.options (arguments : CreateArguments) : Except Fault CreateOptions :=
  match arguments.lifetime with
  | some lifetime =>
    .ok ⟨arguments.localSsd, lifetime, arguments.spread, arguments.providers⟩
  | none => .error (.problem (.invalid [⟨"lifetime", .notDuration⟩]))

/-- What the user can have done. -/
inductive Command where
  /-- Show all virtual machines, as a document or as a table. -/
  | list (asDocument : Bool)
  /-- Create virtual machines. -/
  | create (arguments : CreateArguments)
  /-- Delete the virtual machines of some names. -/
  | destroy (names : List String)
  /-- Set the lifetime of the virtual machines of some names. There is none when the option for it
  was given without one. -/
  | extend (names : List String) (lifetime : Option Duration)
  /-- Show the account that the providers agree on. -/
  | whoami
  /-- Add the virtual machines to the settings of the secure shell, or remove them. -/
  | syncSsh (clean : Bool)
deriving DecidableEq

namespace Command

variable {σ : Type}

/-- The word for the command. -/
def name : Command → String
  | list _ => "list"
  | create _ => "create"
  | destroy _ => "destroy"
  | extend _ _ => "extend"
  | whoami => "whoami"
  | syncSsh _ => "sync-ssh"

/-- The providers that virtual machines can be created on. What is created on the machine at hand
does not outlast the command. -/
def createTargets (registry : Registry (Provider σ)) : List String :=
  (registry.names.filter fun name => name != LocalFleet.providerName).mergeSort (fun a b => a ≤ b)

/-- The virtual machines of all providers, in order of names. -/
def listAll [Host σ] (registry : Registry (Provider σ)) : Program σ Roster := do
  let rosters ← Dispatch.parallel (Host.schedule (← get)) registry registry.names
    (some "list") Provider.list
  return Roster.sortByName rosters.flatten

/-- The names that no virtual machine has, each once and in order. -/
def missingNames (names : List String) (roster : Roster) : List String :=
  (names.eraseDups.filter fun name => !roster.names.contains name).mergeSort (fun a b => a ≤ b)

/-- The virtual machines of some names. Every name must be the name of one. -/
def select [Host σ] (registry : Registry (Provider σ)) (names : List String) :
    Program σ Roster := do
  let all ← listAll registry
  let selected := all.filter fun vm => names.contains vm.name
  match missingNames names selected with
  | [] => return selected
  | missing =>
    throw (.general ("VMs not found: " ++ ", ".intercalate missing) none none)

/-- A line in the colour of success. -/
def success (text : String) : Report :=
  .line ⟨some "green", text⟩

/-- Shows all virtual machines. Only a table that has rows looks at the clock. -/
def runList [Host σ] (registry : Registry (Provider σ)) (asDocument : Bool) :
    Program σ Report := do
  let roster ← listAll registry
  Program.ofExcept ((roster.report asDocument (Host.now (← get))).mapError fun error =>
    .problem (.moment error))

/-- Creates virtual machines on the providers that were asked for. -/
def runCreate [Host σ] (registry : Registry (Provider σ)) (arguments : CreateArguments) :
    Program σ Report := do
  -- Flags are loaded before anybody is asked, and a failure to load ends the command.
  registry.toList.forM fun provider => provider.loadFlags arguments.flags
  let options ← Program.ofExcept arguments.options
  discard <| Dispatch.parallel (Host.schedule (← get)) registry
    (options.eligible (createTargets registry)) (some "create")
    fun provider => provider.create arguments.names options
  return success s!"Created {arguments.names.length} VMs."

/-- Deletes the virtual machines of some names. -/
def runDestroy [Host σ] (registry : Registry (Provider σ)) (names : List String) :
    Program σ Report := do
  let roster ← select registry names
  discard <| Dispatch.fanOut (Host.schedule (← get)) registry roster (some "delete")
    Provider.delete
  return success s!"Deleted {roster.length} VMs."

/-- Sets the lifetime of the virtual machines of some names. Without a lifetime there is nothing to
show in the end, even if no provider minds. -/
def runExtend [Host σ] (registry : Registry (Provider σ)) (names : List String)
    (lifetime : Option Duration) : Program σ Report := do
  let roster ← select registry names
  discard <| Dispatch.fanOut (Host.schedule (← get)) registry roster (some "extend")
    fun provider group => match lifetime with
      | some lifetime => provider.extend group lifetime
      -- Without a lifetime there is nothing to add, and each provider fails at that in its own way.
      | none => provider.extendToNothing group
  match lifetime with
  | some lifetime => return success s!"Extended {roster.length} VMs to {lifetime.text}."
  | none => throw (.problem .noLifetime)

/-- Brings the settings of the secure shell up to date. -/
def runSyncSsh [Host σ] (registry : Registry (Provider σ)) (clean : Bool) :
    Program σ Report := do
  let schedule := Host.schedule (← get)
  if clean then
    discard <| Dispatch.parallel schedule registry registry.names (some "clean_ssh")
      Provider.cleanSsh
  else
    discard <| Dispatch.parallel schedule registry registry.names (some "config_ssh")
      Provider.configSsh
  return .silent

/-- Carries out a command. -/
def run [Host σ] (registry : Registry (Provider σ)) : Command → Program σ Report
  | list asDocument => runList registry asDocument
  | create arguments => runCreate registry arguments
  | destroy names => runDestroy registry names
  | extend names lifetime => runExtend registry names lifetime
  | whoami => return .line (.plain (← Account.resolve registry))
  | syncSsh clean => runSyncSsh registry clean

end Command

end Fleet
