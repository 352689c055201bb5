import Fleet.Fault
import Fleet.Zone

/-! Virtual machines, as every provider describes them. -/

namespace Fleet

/-- What is incomplete or wrong in a description. -/
inductive VmFlaw where
  | badNetwork
  | invalidName
  | noExpiration
deriving DecidableEq

namespace VmFlaw

/-- All flaws. -/
def all : List VmFlaw := [badNetwork, invalidName, noExpiration]

/-- The short name of the flaw. -/
def name : VmFlaw → String
  | badNetwork => "BAD_NETWORK"
  | invalidName => "INVALID_NAME"
  | noExpiration => "NO_EXPIRATION"

/-- The flaw in words. -/
def text : VmFlaw → String
  | badNetwork => "could not determine network information"
  | invalidName => "invalid VM name"
  | noExpiration => "could not determine expiration"

end VmFlaw

/-- A virtual machine. Fields that a provider could not fill in are empty, and then some flaw
tells of it. -/
structure Vm where
  name : String
  provider : String
  createdAt : Moment
  /-- The lifetime. There is none when it was last set without one. -/
  lifetime : Option Duration := some .zero
  dns : String := ""
  privateIp : String := ""
  publicIp : String := ""
  zone : String := ""
  flaws : List VmFlaw := []
deriving DecidableEq

namespace Vm

/-- A description without flaws. -/
def isValid (vm : Vm) : Bool := vm.flaws.isEmpty

/-- The machine at hand. -/
def isLocal (vm : Vm) : Bool := vm.zone == Zone.localZone

/-- The moment at which the lifetime ends. -/
def expiresAt (vm : Vm) : Except MomentError Moment :=
  vm.createdAt.add (vm.lifetime.getD .zero)

/-- Whether the virtual machine stays for as long as it is not deleted. -/
def neverExpires (vm : Vm) : Bool := vm.lifetime.all Duration.isZero

/-- Where a region and a zone are. -/
def localityText (region zone : String) : String :=
  s!"region={region},zone={zone}"

/-- The region and zone of the virtual machine. The local zone is its own region. -/
def locality (vm : Vm) : Except Fault String :=
  if vm.isLocal then .ok (localityText vm.zone vm.zone)
  else match Zone.region? vm.zone with
    | some region => .ok (localityText region vm.zone)
    | none => .error (.malformedZone vm.zone (some vm.provider))

end Vm

end Fleet
