import Fleet.Proofs.OrderedMap
import Fleet.Proofs.Program
import Fleet.Provider.Basic

/-! Watched providers: every call of a provider is noted with what it was given and what became of it,
and nothing else is changed. -/

namespace Fleet

/-- A state together with the calls that were noted, first to last. -/
structure Watched (κ σ : Type) where
  state : σ
  calls : List κ

/-- Watching leaves the clock, the schedule and the log to the state that is watched. -/
instance {κ σ : Type} [Host σ] : Host (Watched κ σ) where
  now watched := Host.now watched.state
  schedule watched := Host.schedule watched.state
  tell severity text watched := { watched with state := Host.tell severity text watched.state }

namespace Program

variable {κ σ α β : Type}

/-- The program as it is, noted as a call once it has come to its end. -/
def noted (program : Program σ α) (call : Except Fault α → κ) : Program (Watched κ σ) α :=
  ExceptT.mk fun watched =>
    let (outcome, state) := program.on watched.state
    (outcome, ⟨state, watched.calls ++ [call outcome]⟩)

/-- The program as it is, which no call is noted for. -/
def unnoted (program : Program σ α) : Program (Watched κ σ) α :=
  ExceptT.mk fun watched =>
    let (outcome, state) := program.on watched.state
    (outcome, ⟨state, watched.calls⟩)

/-- A watching program does what the plain one does, and notes calls which, together with the
outcome, meet a condition. -/
def Watches (watching : Program (Watched κ σ) α) (plain : Program σ α)
    (condition : Except Fault α → List κ → Prop) : Prop :=
  ∀ watched : Watched κ σ, ∃ calls, condition (plain.on watched.state).1 calls ∧
    watching.on watched =
      ((plain.on watched.state).1, ⟨(plain.on watched.state).2, watched.calls ++ calls⟩)

namespace Watches

variable {watching : Program (Watched κ σ) α} {plain : Program σ α}
  {condition : Except Fault α → List κ → Prop}

/-- What follows from a condition is a condition, too. -/
theorem weaken (watches : Watches watching plain condition)
    {weaker : Except Fault α → List κ → Prop}
    (follows : ∀ outcome calls, condition outcome calls → weaker outcome calls) :
    Watches watching plain weaker := by
  intro watched
  obtain ⟨calls, holds, same⟩ := watches watched
  exact ⟨calls, follows _ _ holds, same⟩

/-- Watched from the start, the calls that were noted are all there are. -/
theorem fromStart (watches : Watches watching plain condition) (state : σ) :
    ∃ outcome after calls, plain.on state = (outcome, after) ∧
      watching.on ⟨state, []⟩ = (outcome, ⟨after, calls⟩) ∧ condition outcome calls := by
  -- Nothing was noted before, so nothing stands before the calls.
  obtain ⟨calls, holds, same⟩ := watches ⟨state, []⟩
  exact ⟨_, _, calls, rfl, same, holds⟩

/-- A known outcome makes no call. -/
theorem ofExcept (outcome : Except Fault α) :
    Watches (Program.ofExcept outcome : Program (Watched κ σ) α) (Program.ofExcept outcome)
      fun reached calls => reached = outcome ∧ calls = [] :=
  fun watched => ⟨[], ⟨rfl, rfl⟩, by simp⟩

/-- A known answer makes no call. -/
theorem pure (answer : α) :
    Watches (Pure.pure answer : Program (Watched κ σ) α) (Pure.pure answer)
      fun reached calls => reached = .ok answer ∧ calls = [] :=
  ofExcept (.ok answer)

/-- A failure makes no call. -/
theorem throw (fault : Fault) :
    Watches (MonadExcept.throw fault : Program (Watched κ σ) α) (MonadExcept.throw fault)
      fun reached calls => reached = .error fault ∧ calls = [] :=
  ofExcept (.error fault)

/-- A program that is noted makes one call. -/
theorem noted (program : Program σ α) (call : Except Fault α → κ) :
    Watches (program.noted call) program fun outcome calls => calls = [call outcome] :=
  fun watched => ⟨[call (program.on watched.state).1], rfl, rfl⟩

/-- What is noted became of the program at some state. -/
theorem noted_reached (program : Program σ α) (call : Except Fault α → κ) :
    Watches (program.noted call) program fun outcome calls =>
      calls = [call outcome] ∧ ∃ state, (program.on state).1 = outcome :=
  fun watched => ⟨[call (program.on watched.state).1], ⟨rfl, watched.state, rfl⟩, rfl⟩

/-- The calls of a program come before those of what follows its answer, and after a failure nothing
follows. -/
theorem bind {next : α → Program (Watched κ σ) β} {plainNext : α → Program σ β}
    {later : α → Except Fault β → List κ → Prop}
    (first : Watches watching plain condition)
    (second : ∀ answer, Watches (next answer) (plainNext answer) (later answer)) :
    Watches (watching >>= next) (plain >>= plainNext) fun outcome calls =>
      (∃ fault, condition (.error fault) calls ∧ outcome = .error fault) ∨
      ∃ answer before after, condition (.ok answer) before ∧ later answer outcome after ∧
        calls = before ++ after := by
  -- The second program takes over the state and the calls that the first one left.
  intro watched
  obtain ⟨before, holds, same⟩ := first watched
  rcases ran : plain.on watched.state with ⟨fault | answer, state⟩
  · -- After a failure the calls are those of the first program alone.
    rw [ran] at holds same
    rw [on_bind_error ran, on_bind_error same]
    exact ⟨before, .inl ⟨fault, holds, rfl⟩, rfl⟩
  · rw [ran] at holds same
    -- After an answer the calls of the second program follow them.
    obtain ⟨after, goes, rest⟩ := second answer ⟨state, watched.calls ++ before⟩
    rw [on_bind_ok ran, on_bind_ok same, rest]
    exact ⟨before ++ after, .inr ⟨answer, before, after, holds, goes, rfl⟩, by simp⟩

/-- Replacing failures makes no call. -/
theorem mapFault (watches : Watches watching plain condition) (change : Fault → Fault) :
    Watches (watching.mapFault change) (plain.mapFault change) fun outcome calls =>
      ∃ inner, condition inner calls ∧ outcome = inner.mapError change := by
  intro watched
  obtain ⟨calls, holds, same⟩ := watches watched
  exact ⟨calls, ⟨_, by simpa using holds, by simp⟩, by simp [same]⟩

/-- An answer that is not looked at may as well be there. -/
theorem discard (watches : Watches watching plain condition) :
    Watches (Functor.discard watching) (Functor.discard plain) fun outcome calls =>
      ∃ inner, condition inner calls ∧ outcome = inner.map fun _ => ⟨⟩ := by
  intro watched
  -- The calls are those that were made before the answer was dropped.
  obtain ⟨calls, holds, same⟩ := watches watched
  refine ⟨calls, ⟨_, holds, by simp [on_discard]⟩, ?_⟩
  rw [on_discard, on_discard, same]

/-- Telling something on the side makes no call, and watching does not change what is told. -/
theorem tell [Host σ] (severity : Severity) (text : String) :
    Watches (liftM (Fleet.tell (Watched κ σ) severity text) : Program (Watched κ σ) Unit)
      (liftM (Fleet.tell σ severity text)) fun reached calls => reached = .ok ⟨⟩ ∧ calls = [] :=
  fun watched => ⟨[], ⟨rfl, rfl⟩, by rw [on_lift, on_lift, List.append_nil]; rfl⟩

/-- Asking for the schedule makes no call, and watching does not change the answer. -/
theorem scheduled [Host σ] {next : Schedule → Program (Watched κ σ) α}
    {plainNext : Schedule → Program σ α} {under : Schedule → Except Fault α → List κ → Prop}
    (watches : ∀ schedule, Watches (next schedule) (plainNext schedule) (under schedule)) :
    Watches (do next (Host.schedule (← get))) (do plainNext (Host.schedule (← get)))
      fun outcome calls => ∃ schedule, under schedule outcome calls := by
  intro watched
  -- The schedule is read off the state that is watched, which has it from the state itself.
  simp only [on_bind, on_get]
  obtain ⟨calls, holds, same⟩ := watches (Host.schedule watched.state) watched
  exact ⟨calls, ⟨_, holds⟩, same⟩

end Watches

end Program

/-- A call of a provider: whose it is, what was given, and what became of it. -/
inductive Call where
  | cleanSsh (provider : String) (outcome : Except Fault Unit)
  | configSsh (provider : String) (outcome : Except Fault Unit)
  | create (provider : String) (names : List String) (options : CreateOptions)
    (outcome : Except Fault Unit)
  | delete (provider : String) (roster : Roster) (outcome : Except Fault Unit)
  /-- The lifetime is missing when the call was to set none. -/
  | extend (provider : String) (roster : Roster) (lifetime : Option Duration)
    (outcome : Except Fault Unit)
  | account (provider : String) (outcome : Except Fault String)
  | list (provider : String) (outcome : Except Fault Roster)

variable {σ : Type}

/-- The provider registered under a name, with its calls noted under that name. -/
def Provider.watched (name : String) (provider : Provider σ) : Provider (Watched Call σ) where
  name := provider.name
  kind := provider.kind
  cleanSsh := provider.cleanSsh.noted (.cleanSsh name)
  configSsh := provider.configSsh.noted (.configSsh name)
  create names options := (provider.create names options).noted (.create name names options)
  delete roster := (provider.delete roster).noted (.delete name roster)
  extend roster lifetime :=
    (provider.extend roster lifetime).noted (.extend name roster (some lifetime))
  extendToNothing roster := (provider.extendToNothing roster).noted (.extend name roster none)
  account := provider.account.noted (.account name)
  flags watched := provider.flags watched.state
  loadFlags values := (provider.loadFlags values).unnoted
  list := provider.list.noted (.list name)

namespace Registry

/-- The registry with all of its providers watched. -/
def watched (registry : Registry (Provider σ)) : Registry (Provider (Watched Call σ)) :=
  ⟨registry.members.mapValues Provider.watched⟩

/-- Watching changes no name. -/
@[simp]
theorem names_watched (registry : Registry (Provider σ)) :
    registry.watched.names = registry.names :=
  OrderedMap.keys_mapValues _ _

/-- Providers that are watched stand in the order of the plain ones. -/
theorem toList_watched (registry : Registry (Provider σ)) :
    registry.watched.toList = registry.members.entries.map fun entry => entry.2.watched entry.1 := by
  simp [toList, watched, OrderedMap.values, OrderedMap.mapValues]

/-- A provider that is watched is found where it was. -/
@[simp]
theorem get_watched (registry : Registry (Provider σ)) (name : String) :
    registry.watched.get name = (registry.get name).map (Provider.watched name) := by
  simp only [get, watched, OrderedMap.get?_mapValues]
  cases registry.members.get? name <;> rfl

/-- Whether a name is registered decides what is found under it. -/
theorem registered_or {π : Type} (registry : Registry π) (name : String) :
    (registry.contains name = true ∧ ∃ member, registry.get name = .ok member) ∨
      (registry.contains name = false ∧ ∃ fault, registry.get name = .error fault) := by
  simp only [contains, OrderedMap.contains, get]
  cases registry.members.get? name <;> simp

/-- A name is registered exactly when it is one of the names. -/
theorem contains_iff {π : Type} (registry : Registry π) (name : String) :
    registry.contains name = true ↔ name ∈ registry.names :=
  OrderedMap.isSome_get?_iff registry.members name

/-- A member is found under a name exactly when it is registered under it. -/
theorem get_eq_ok_iff {π : Type} (registry : Registry π) (name : String) (member : π) :
    registry.get name = .ok member ↔ registry.members.get? name = some member := by
  rw [get]
  cases registry.members.get? name <;> simp

/-- Every name that is registered is somebody's. -/
theorem get_of_mem_names {π : Type} {registry : Registry π} {name : String}
    (registered : name ∈ registry.names) : ∃ member, registry.get name = .ok member := by
  obtain ⟨member, found⟩ := Option.isSome_iff_exists.mp
    ((OrderedMap.isSome_get?_iff registry.members name).mpr registered)
  exact ⟨member, (get_eq_ok_iff registry name member).mpr found⟩

/-- Whoever is found under a name is registered under it. -/
theorem mem_names_of_get {π : Type} {registry : Registry π} {name : String} {member : π}
    (found : registry.get name = .ok member) : name ∈ registry.names := by
  have known := (get_eq_ok_iff registry name member).mp found
  exact (OrderedMap.isSome_get?_iff registry.members name).mp (by rw [known]; rfl)

end Registry

end Fleet
