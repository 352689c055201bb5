import Fleet.Site

/-! The client of Compute Engine: calls to the cloud, each tried up to three times. -/

namespace Fleet.Compute.Client

/-- Builds the client, unless there is one. A client that could not be built is built anew. -/
def ready : Program Site Unit := do
  let site ← get
  if site.cloud.hasClient then return ()
  Site.note .clientBuilt
  Site.meetFault "client"
  Site.changeCloud fun cloud => .ok { cloud with hasClient := true }

/-- The filter that the listing asks for. -/
def listingFilter : String := s!"labels.{fleetLabel}=true"

/-- Lists the instances of a project, each with its zone. -/
def list (project : String) : Program Site (List (String × Instance)) := do
  ready
  Site.note (.listed project listingFilter)
  Site.meetFault "list"
  return (← get).cloud.listing

/-- Has an instance made in a zone, and waits until it is. -/
def insert (project zone : String) (request : InstanceRequest) : Program Site Unit := do
  ready
  Site.note (.inserted project zone request)
  Site.meetFault s!"insert:{request.name}"
  Site.meetFault s!"insert_result:{request.name}"
  let site ← get
  Site.changeCloud fun cloud => cloud.add zone (request.toInstance site.clock.text)

/-- Deletes an instance. -/
def delete (project zone name : String) : Program Site Unit := do
  ready
  Site.note (.deleted project zone name)
  Site.meetFault s!"delete:{name}"
  Site.changeCloud fun cloud => cloud.remove zone name

/-- Looks up an instance. -/
def fetch (project zone name : String) : Program Site Instance := do
  ready
  Site.note (.fetched project zone name)
  Site.meetFault s!"get:{name}"
  match (← get).cloud.find? zone name with
  | some machine => return machine
  | none => throw (.problem (.instanceMissing zone name))

/-- Sets the lifetime of an instance in its labels, as they are at that time. -/
def setLifetime (project zone name : String) (lifetime : Duration) : Program Site Unit := do
  let machine ← fetch project zone name
  let labels := machine.labels.insert lifetimeLabel lifetime.text
  Site.note (.relabelled project zone name labels machine.fingerprint)
  Site.meetFault s!"set_labels:{name}"
  Site.changeCloud fun cloud => cloud.relabel zone name labels

/-- How long to wait after an attempt that failed: some seconds after the first attempt and twice as
long after each further one, but never less than the least wait or more than the most. -/
structure Backoff where
  first : Nat
  least : Nat
  most : Nat
deriving DecidableEq

/-- The seconds to wait after an attempt. Attempts are numbered from one. -/
def Backoff.seconds (backoff : Backoff) (attempt : Nat) : Nat :=
  max backoff.least (min (backoff.first * Nat.pow 2 (attempt - 1)) backoff.most)

/-- The waits between attempts at a call. -/
def backoff : Backoff where
  first := 1
  least := 4
  most := 10

/-- Tries a call up to three times. -/
def persistently {α : Type} (call : Program Site α) : Program Site α :=
  call.retry (fun attempt => Site.pause (backoff.seconds attempt)) 1 2

end Fleet.Compute.Client
