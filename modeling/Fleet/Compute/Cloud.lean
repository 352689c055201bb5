import Fleet.Compute.Instance
import Fleet.Fault

/-! The cloud: instances by zone, and the faults that are due. -/

namespace Fleet.Compute

/-- Faults that are due, by what they strike. Each call takes the first that is left, which may be
no fault. -/
abbrev FaultQueues := OrderedMap String (List (Option Fault))

/-- The fault that strikes next, if any, and the queues without it. -/
def FaultQueues.take (queues : FaultQueues) (key : String) : Option Fault × FaultQueues :=
  match queues.get? key with
  | some (next :: later) => (next, queues.insert key later)
  | _ => (none, queues)

/-- Compute Engine: its instances by zone key, the faults that are due, whether a client for it has
been built, and how many times labels have been set. -/
structure Cloud where
  zones : OrderedMap String (List Instance)
  faults : FaultQueues
  hasClient : Bool := false
  stamps : Nat := 0

namespace Cloud

/-- The key of a zone. -/
def zoneKey (zone : String) : String := s!"zones/{zone}"

/-- The zone that a key ends with. -/
def zoneOfKey (key : String) : String :=
  String.ofList (key.toList.reverse.takeWhile (· != '/')).reverse

/-- The instances of a zone. -/
def instancesIn (cloud : Cloud) (zone : String) : List Instance :=
  (cloud.zones.get? (zoneKey zone)).getD []

/-- The instance of a name in a zone. -/
def find? (cloud : Cloud) (zone name : String) : Option Instance :=
  (cloud.instancesIn zone).find? fun machine => machine.name == name

/-- All instances, each with the zone that its key ends with. -/
def listing (cloud : Cloud) : List (String × Instance) :=
  cloud.zones.entries.flatMap fun (key, instances) =>
    instances.map fun machine => (zoneOfKey key, machine)

/-- The cloud with one more instance in a zone, unless the zone has one of its name. -/
def add (cloud : Cloud) (zone : String) (machine : Instance) : Except Problem Cloud :=
  match cloud.find? zone machine.name with
  | some _ => .error (.instanceExists zone machine.name)
  | none => .ok { cloud with
      zones := cloud.zones.insert (zoneKey zone) (cloud.instancesIn zone ++ [machine]) }

/-- The cloud without the instance of a name in a zone. -/
def remove (cloud : Cloud) (zone name : String) : Except Problem Cloud :=
  match cloud.find? zone name with
  | none => .error (.instanceMissing zone name)
  | some _ => .ok { cloud with
      zones := cloud.zones.modify (zoneKey zone) fun instances =>
        instances.eraseP fun machine => machine.name == name }

/-- The instances with a function applied to the first of a name. -/
def changeFirst (name : String) (change : Instance → Instance) : List Instance → List Instance
  | [] => []
  | first :: others =>
    if first.name == name then change first :: others
    else first :: changeFirst name change others

/-- The cloud with the labels of an instance replaced. Its fingerprint is new, too. -/
def relabel (cloud : Cloud) (zone name : String) (labels : Labels) : Except Problem Cloud :=
  match cloud.find? zone name with
  | none => .error (.instanceMissing zone name)
  | some _ =>
    let stamps := cloud.stamps + 1
    .ok { cloud with
      stamps := stamps
      zones := cloud.zones.modify (zoneKey zone) (changeFirst name fun machine =>
        { machine with labels := labels, fingerprint := s!"fp{stamps}" }) }

end Cloud

end Fleet.Compute
