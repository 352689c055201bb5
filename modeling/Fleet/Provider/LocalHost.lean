import Fleet.Provider.Basic
import Fleet.Site

/-! The provider of virtual machines that are the machine at hand. -/

namespace Fleet.LocalHost

/-- Creates virtual machines on the machine at hand. Each is stamped with the time of its own creation, and
the clock of a site stands still while they are created, so it is read once for all of them. -/
def create (names : List String) (options : CreateOptions) : Program Site Unit := do
  unless names.isEmpty do
    let now ← Program.clock
    modify fun site => { site with
      localFleet := site.localFleet.create now site.hostName names options.lifetime }
  tell Site .debug s!"Created {names.length} local VMs"

/-- Deletes virtual machines from the machine at hand. -/
def delete (roster : Roster) : Program Site Unit := do
  let site ← get
  match site.localFleet.delete roster with
  | .ok localFleet => set { site with localFleet := localFleet }
  | .error fault => throw fault

/-- Sets the lifetimes of virtual machines on the machine at hand, or takes them away. -/
def extend (roster : Roster) (lifetime : Option Duration) : Program Site Unit :=
  modify fun site => { site with localFleet := site.localFleet.extend roster lifetime }

/-- The provider of the machine at hand. It has no part in the secure shell, no account and no
options. -/
def provider : Provider Site where
  name := LocalFleet.providerName
  kind := .localHost
  cleanSsh := return ()
  configSsh := return ()
  create := create
  delete := delete
  extend := fun roster lifetime => extend roster (some lifetime)
  extendToNothing := fun roster => extend roster none
  account := return ""
  flags := fun _ => []
  loadFlags := fun _ => return ()
  list := return (← get).localFleet.list

end Fleet.LocalHost
