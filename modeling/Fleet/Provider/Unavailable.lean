import Fleet.Provider.Compute

/-! Stand-ins for providers that cannot be used. Their options are there, so that commands are
understood as ever, but whatever would need the provider fails with the reason. -/

namespace Fleet.Unavailable

/-- Fails with the reason. -/
def refuse (name reason operation : String) : Program Site Unit :=
  throw (.fleet ⟨.unavailable, reason, some name, some operation⟩)

/-- A stand-in for a provider on Compute Engine. -/
def provider (name reason : String) : Provider Site where
  name := name
  kind := .unavailable reason
  cleanSsh := return ()
  configSsh := return ()
  create := fun _ _ => refuse name reason "create"
  delete := fun _ => refuse name reason "delete"
  extend := fun _ _ => refuse name reason "extend"
  extendToNothing := fun _ => refuse name reason "extend"
  account := return ""
  flags := Compute.flagsOf name
  loadFlags := Compute.loadFlagsOf name
  list := return []

end Fleet.Unavailable
