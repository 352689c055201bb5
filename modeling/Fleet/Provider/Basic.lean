import Fleet.Flag
import Fleet.Options
import Fleet.Registry
import Fleet.Roster

/-! Providers: what every source of virtual machines can be asked to do. -/

namespace Fleet

/-- The kinds of provider. -/
inductive ProviderKind where
  /-- The machine at hand. -/
  | localHost
  /-- Google Compute Engine. -/
  | compute
  /-- A stand-in for a provider that cannot be used, and why. -/
  | unavailable (reason : String)
  /-- A provider in memory whose failures are planned. -/
  | scripted
deriving DecidableEq

/-- A source of virtual machines. Its operations run on a state that they share with those of the
other providers. -/
structure Provider (σ : Type) where
  /-- The name under which it is registered. -/
  name : String
  kind : ProviderKind
  /-- Removes the virtual machines from the settings of the secure shell. -/
  cleanSsh : Program σ Unit
  /-- Adds the virtual machines to the settings of the secure shell. -/
  configSsh : Program σ Unit
  /-- Creates a virtual machine for each name. One failure stands for all. -/
  create : List String → CreateOptions → Program σ Unit
  delete : Roster → Program σ Unit
  /-- Sets the lifetime of virtual machines. -/
  extend : Roster → Duration → Program σ Unit
  /-- Meets the request to set the lifetime of virtual machines when no lifetime was given. -/
  extendToNothing : Roster → Program σ Unit := fun _ => return ()
  /-- The account that the user acts as. An empty one is no opinion. -/
  account : Program σ String
  /-- The options that it adds to the command that creates. -/
  flags : σ → List Flag
  /-- Takes over the values of the options. -/
  loadFlags : FlagValues → Program σ Unit
  list : Program σ Roster

instance {σ : Type} : Named (Provider σ) := ⟨Provider.name⟩

end Fleet
