import Fleet.Registry
import Fleet.Roster

/-! Dispatch: one operation carried to one, some or all providers. Nothing is asked of a provider
here but to be registered. -/

namespace Fleet.Dispatch

variable {σ π α : Type}

/-- Runs an action on a provider. What the action raises is told as the provider's fault. -/
def within (provider : π) (name : String) (operation : Option String)
    (action : π → Program σ α) : Program σ α :=
  (action provider).mapFault (Fault.inProvider name operation)

/-- Runs an action on the provider of a name. -/
def forProvider (registry : Registry π) (operation : Option String)
    (action : π → Program σ α) (name : String) : Program σ α := do
  let provider ← Program.ofExcept (registry.get name)
  within provider name operation action

/-- Runs a labelled task to its end, whatever becomes of it. -/
def settle (task : String × Program σ α) : StateM σ (String × Except Fault α) := do
  return (task.1, ← task.2.run)

/-- Tells of a labelled task that failed. -/
def tellFailure [Host σ] (ended : String × Except Fault α) : StateM σ Unit :=
  match ended.2 with
  | .ok _ => return ()
  | .error fault => tell σ .debug s!"Task for provider {ended.1} failed: {fault.message}"

/-- Runs all labelled tasks to their ends in the order of a schedule, whatever becomes of the
others, and then tells of those that failed. The first failure to come is the failure of all;
otherwise the answers stand in the order in which they came. -/
def together [Host σ] (schedule : Schedule) (tasks : List (String × Program σ α)) :
    Program σ (List α) :=
  ExceptT.mk do
    let ended ← (schedule.arrange Prod.fst tasks).mapM settle
    ended.forM tellFailure
    return ended.mapM Prod.snd

/-- Runs an action side by side on the providers of the given names. -/
def parallel [Host σ] (schedule : Schedule) (registry : Registry π)
    (names : List String) (operation : Option String) (action : π → Program σ α) :
    Program σ (List α) :=
  together schedule (names.map fun name => (name, forProvider registry operation action name))

/-- Runs an action on the providers of the given names in turn, up to the first failure. -/
def sequential (registry : Registry π) (names : List String)
    (operation : Option String) (action : π → Program σ α) : Program σ (List α) :=
  names.mapM (forProvider registry operation action)

/-- Runs an action on the provider of a group of virtual machines. -/
def forGroup (registry : Registry π) (operation : Option String)
    (action : π → Roster → Program σ α) (group : String × Roster) : Program σ α :=
  match registry.get group.1 with
  | .ok provider => within provider group.1 operation fun provider => action provider group.2
  | .error _ => throw (.fleet ⟨.unknownProvider, s!"unknown provider name: {group.1}",
      some group.1, operation⟩)

/-- Runs an action side by side on every provider that has some of the virtual machines, with
that provider's share of them. -/
def fanOut [Host σ] (schedule : Schedule) (registry : Registry π) (roster : Roster)
    (operation : Option String) (action : π → Roster → Program σ α) : Program σ (List α) :=
  together schedule (roster.byProvider.entries.map fun group =>
    (group.1, forGroup registry operation action group))

end Fleet.Dispatch
