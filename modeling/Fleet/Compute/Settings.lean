import Fleet.Compute.Instance
import Fleet.Duration.Written
import Fleet.Fault
import Fleet.Options

/-! Settings for Compute Engine, and the instances that are asked for under them. -/

namespace Fleet.Compute

/-- The machine type unless another is asked for. -/
def standardMachineType : String := "n1-standard-4"

/-- The boot image unless another is asked for. -/
def standardImage : String :=
  "projects/ubuntu-os-cloud/global/images/family/ubuntu-2204-lts"

/-- The zones unless others are asked for. -/
def standardZones : List String := ["us-east1-b", "us-west1-b", "europe-west2-b"]

/-- The label of instances that the fleet looks after. -/
def fleetLabel : String := "vmfleet"

/-- The label that holds the lifetime. -/
def lifetimeLabel : String := "lifetime"

/-- What instances are asked for with, each as a flag was set to. Without a project one is looked up
when it is needed. -/
structure Settings where
  project : FlagValue
  machineType : FlagValue := .text standardMachineType
  image : FlagValue := .text standardImage
  zones : FlagValue := .texts standardZones
deriving DecidableEq

namespace Settings

/-- The options for the settings. What they are now stays unless an option is given. -/
def flags (settings : Settings) : List Flag :=
  [⟨"--gce-project", false, settings.project,
    "Project to create VMs in (default: $CLOUDSDK_CORE_PROJECT)"⟩,
   ⟨"--gce-machine-type", false, settings.machineType,
    s!"Machine type (default: {settings.machineType.written})"⟩,
   ⟨"--gce-image", false, settings.image, "Boot disk source image"⟩,
   ⟨"--gce-zones", true, settings.zones,
    "Zones for VMs (default: " ++ ", ".intercalate settings.zones.toList ++ ")"⟩]

/-- The settings with the values of options taken over. -/
def load (settings : Settings) (values : FlagValues) : Settings where
  project := (values.get? "gce_project").getD settings.project
  machineType := (values.get? "gce_machine_type").getD settings.machineType
  image := (values.get? "gce_image").getD settings.image
  zones := (values.get? "gce_zones").getD settings.zones

/-- The zones to choose from. -/
def choice (settings : Settings) : List String :=
  match settings.zones.toList with
  | [] => standardZones
  | zones => zones

/-- A zone for each of a number of instances: the first one, or all in turn. -/
def zonesFor (settings : Settings) (count : Nat) (spread : Bool) : List String :=
  let zones := settings.choice
  (List.range count).map fun place => zones.getD (if spread then place % zones.length else 0) ""

/-- The image to start from, if there is one. It has to be a text. -/
def bootImage (settings : Settings) : Except Problem (Option String) :=
  match settings.image with
  | .nothing => .ok none
  | .text image => .ok (some image)
  | .texts _ => .error .imageNotText

/-- The disk that an instance starts from. -/
def bootDisk (image : Option String) : DiskRequest :=
  { boot := true, autoDelete := true, kind := none, interface := none, image := image,
    diskType := none }

/-- A fast disk beside the machine, which is gone with the instance. -/
def scratchDisk (zone : String) : DiskRequest :=
  { boot := false, autoDelete := true, kind := some "SCRATCH", interface := some "NVME",
    image := none, diskType := some s!"zones/{zone}/diskTypes/local-ssd" }

/-- The interface through which an instance is reached from outside. -/
def interface : InterfaceRequest :=
  ⟨"global/networks/default", [⟨"External NAT", "ONE_TO_ONE_NAT"⟩]⟩

/-- The instance to ask for. -/
def request (settings : Settings) (name zone : String) (options : CreateOptions) :
    Except Problem InstanceRequest := do
  let image ← settings.bootImage
  return {
    name := name
    machineType := s!"zones/{zone}/machineTypes/{settings.machineType.written}"
    labels := .ofList [(fleetLabel, "true"), (lifetimeLabel, options.lifetime.text)]
    disks := bootDisk image :: if options.localSsd then [scratchDisk zone] else []
    interfaces := [interface] }

end Settings

end Fleet.Compute
