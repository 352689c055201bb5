import Fleet.Provider.Basic
import Fleet.Site

/-! Providers in memory, whose failures are planned. -/

namespace Fleet.Scripted

/-- What the provider of a name holds. -/
def scriptAt (site : Site) (name : String) : Script :=
  (site.scripts.get? name).getD {}

/-- Changes what the provider of a name holds. -/
def change (name : String) (change : Script → Script) : StateM Site Unit :=
  modify fun site => { site with scripts := site.scripts.modify name change }

/-- Notes a request and meets the fault that is due for it, if there is one. -/
def receive (name : String) (request : Request) : Program Site Unit := do
  Site.note (.asked name request)
  -- The request is noted even when it fails.
  let site ← get
  let (fault, failures) := (scriptAt site name).failures.take request.operation
  change name fun script => { script with failures := failures }
  match fault with
  | some fault => throw fault
  | none => return ()

/-- The option that the provider adds. -/
def flag (name : String) : Flag :=
  { option := s!"--{name}-size", many := false, standard := .text "small" }

/-- Takes over the value of the option. -/
def load (name : String) (values : FlagValues) : Program Site Unit :=
  match values.get? (flag name).key with
  | some size => change name fun script => { script with loaded := size }
  | none => return ()

/-- Creates virtual machines in memory. -/
def create (name : String) (names : List String) (options : CreateOptions) :
    Program Site Unit := do
  receive name (.create names options)
  unless names.isEmpty do
    let now ← Program.clock
    change name fun script => script.create name now names options

/-- Sets the lifetime of every virtual machine that the provider lists. -/
def overwrite (name : String) (lifetime : Duration) : Program Site Unit := do
  receive name .list
  change name fun script => script.extend script.vms.names lifetime

/-- The provider in memory of a name. -/
def provider (name : String) : Provider Site where
  name := name
  kind := .scripted
  cleanSsh := receive name .cleanSsh
  configSsh := receive name .configSsh
  create := create name
  delete := fun roster => do
    receive name (.delete roster.names)
    change name fun script => script.delete roster.names
  extend := fun roster lifetime => do
    receive name (.extend roster.names lifetime)
    change name fun script => script.extend roster.names lifetime
  extendToNothing := fun _ => throw (.problem .noLifetimeCount)
  account := do
    receive name .account
    return (scriptAt (← get) name).account
  flags := fun _ => [flag name]
  loadFlags := load name
  list := do
    receive name .list
    return (scriptAt (← get) name).vms

end Fleet.Scripted
