import Fleet.Roster

/-! The local fleet: the machine at hand, and virtual machines that are this machine under other
names. -/

namespace Fleet

/-- The machine at hand, and what was created on it since, by name. -/
structure LocalFleet where
  host : Vm
  created : OrderedMap String Vm

namespace LocalFleet

/-- The name of the provider. -/
def providerName : String := "local"

/-- The name under which the machine at hand is listed. -/
def hostName : String := "local"

/-- Its address, on the inside and from outside. -/
def address : String := "127.0.0.1"

/-- A virtual machine that is the machine at hand. -/
def machine (name : String) (now : Moment) (dns : String) (lifetime : Duration)
    (flaws : List VmFlaw) : Vm where
  name := name
  provider := providerName
  createdAt := now
  lifetime := some lifetime
  dns := dns
  privateIp := address
  publicIp := address
  zone := Zone.localZone
  flaws := flaws

/-- The fleet of the machine at hand alone. -/
def start (now : Moment) (dns : String) : LocalFleet :=
  ⟨machine hostName now dns .zero [], .empty⟩

/-- The flaws of a name. -/
def nameFlaws (name : String) : List VmFlaw :=
  if Label.accepts name then [] else [.invalidName]

/-- The fleet with a virtual machine of each name. One that is there already is made anew in its
place. -/
def create (fleet : LocalFleet) (now : Moment) (dns : String) (names : List String)
    (lifetime : Duration) : LocalFleet :=
  { fleet with
    created := names.foldl (fun created name =>
      created.insert name (machine name now dns lifetime (nameFlaws name))) fleet.created }

/-- The fleet without virtual machines of some names. The machine at hand cannot be deleted, and
then nothing is. -/
def delete (fleet : LocalFleet) (roster : Roster) : Except Fault LocalFleet :=
  if roster.any fun vm => vm.name == hostName then
    .error (.general "the local machine cannot be deleted" (some providerName) (some "delete"))
  else
    .ok { fleet with
      created := roster.foldl (fun created vm => created.erase vm.name) fleet.created }

/-- The fleet with the lifetimes of some virtual machines set, or taken from them. Others that are
named are not looked for. -/
def extend (fleet : LocalFleet) (roster : Roster) (lifetime : Option Duration) : LocalFleet :=
  { fleet with
    created := roster.foldl (fun created vm =>
      created.modify vm.name fun vm => { vm with lifetime := lifetime }) fleet.created }

/-- The machine at hand, then the others in the order in which they were created. -/
def list (fleet : LocalFleet) : Roster :=
  fleet.host :: fleet.created.values

end LocalFleet

end Fleet
