import Fleet.Flag

/-! Instances of Compute Engine: how they are asked for and how they are listed. -/

namespace Fleet.Compute

/-- Texts by their keys. -/
abbrev Labels := OrderedMap String String

/-- A network interface of an instance: its address inside, and outside for each way in. -/
structure Interface where
  inside : String
  outside : List String
deriving DecidableEq

/-- An instance, as far as it is looked at. -/
structure Instance where
  name : String
  created : String
  labels : Labels
  fingerprint : String
  interfaces : List Interface

/-- A disk that an instance is asked for with. -/
structure DiskRequest where
  boot : Bool
  autoDelete : Bool
  kind : Option String
  interface : Option String
  image : Option String
  diskType : Option String
deriving DecidableEq

/-- A way from outside into a network interface that is asked for. -/
structure AccessRequest where
  name : String
  kind : String
deriving DecidableEq

/-- A network interface that an instance is asked for with. -/
structure InterfaceRequest where
  network : String
  access : List AccessRequest
deriving DecidableEq

/-- An instance that is asked for. -/
structure InstanceRequest where
  name : String
  machineType : String
  labels : Labels
  disks : List DiskRequest
  interfaces : List InterfaceRequest
deriving DecidableEq

/-- The instance that a request makes. It has no addresses and no fingerprint yet. -/
def InstanceRequest.toInstance (request : InstanceRequest) (created : String) : Instance where
  name := request.name
  created := created
  labels := request.labels
  fingerprint := ""
  interfaces := request.interfaces.map fun interface =>
    ⟨"", interface.access.map fun _ => ""⟩

end Fleet.Compute
