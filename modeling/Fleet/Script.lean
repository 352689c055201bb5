import Fleet.Compute.Cloud
import Fleet.Flag
import Fleet.Options
import Fleet.Roster

/-! Scripts: what a provider in memory holds, and which of its operations are to fail. -/

namespace Fleet

/-- A provider in memory. -/
structure Script where
  account : String := ""
  zone : String := "us-east1-b"
  vms : Roster := []
  /-- The faults that are due, by the operations that they strike. -/
  failures : Compute.FaultQueues := .empty
  /-- What its option was last set to. -/
  loaded : FlagValue := .nothing

namespace Script

/-- The script with a virtual machine of each name added. -/
def create (script : Script) (provider : String) (now : Moment) (names : List String)
    (options : CreateOptions) : Script :=
  { script with
    vms := script.vms ++ names.map fun name =>
      { name := name, provider := provider, createdAt := now, lifetime := some options.lifetime,
        zone := script.zone } }

/-- The script without the virtual machines of some names. -/
def delete (script : Script) (names : List String) : Script :=
  { script with vms := script.vms.filter fun vm => !names.contains vm.name }

/-- The script with the lifetimes of the virtual machines of some names set. -/
def extend (script : Script) (names : List String) (lifetime : Duration) : Script :=
  { script with
    vms := script.vms.map fun vm =>
      if names.contains vm.name then { vm with lifetime := some lifetime } else vm }

end Script

end Fleet
