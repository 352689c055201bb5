import Fleet.Proofs.Names
import Fleet.Proofs.Registry
import Fleet.Proofs.Watch

/-! Registries over whole histories: whatever was registered and asked for, in whatever order, all views of a
registry tell of the registrations so far, and of nothing else. -/

namespace Fleet.Registry

variable {π σ : Type} [Named π]

/-- The last of some members to go by a name. -/
def latest (members : List π) (name : String) : Option π :=
  members.reverse.find? fun member => Named.name member == name

/-- A further member is the last one of its own name. -/
theorem latest_concat (members : List π) (last : π) (name : String) :
    latest (members ++ [last]) name =
      if name = Named.name last then some last else latest members name := by
  -- The latest of a name is the first from the end, so the last member is looked at first.
  rw [latest, List.reverse_append, List.reverse_singleton, List.singleton_append, List.find?_cons]
  by_cases own : name = Named.name last
  · simp [own]
  · have other : (Named.name last == name) = false := by simpa using Ne.symm own
    rw [other, if_neg own]
    rfl

/-- The last member to go by a name does so. -/
theorem name_of_latest {members : List π} {name : String} {member : π}
    (found : latest members name = some member) : Named.name member = name := by
  simpa using List.find?_some found

/-- The names of members, each once, in order of first appearance. -/
def namesOf (members : List π) : List String := (members.map Named.name).eraseDups

/-- The names are those of the members that were registered. -/
theorem names_ofList (members : List π) : (ofList members).names = namesOf members := by
  -- A registration leaves the names as they are, or puts a new one at the end.
  induction members using List.reverseRecOn with
  | nil => rfl
  | append_singleton earlier last ih =>
    rw [ofList_concat, names, register, OrderedMap.keys_insert, ← names, ih]
    simp only [namesOf, List.map_append, List.map_cons, List.map_nil, Names.eraseDups_concat,
      Names.mem_eraseDups]

/-- Under a name stands the last member that was registered under it. -/
theorem get?_ofList (members : List π) (name : String) :
    (ofList members).members.get? name = latest members name := by
  -- The last registration decides for its own name, and the earlier ones for all others.
  induction members using List.reverseRecOn with
  | nil => rfl
  | append_singleton earlier last ih =>
    rw [ofList_concat, register, OrderedMap.get?_insert, latest_concat, ih]

/-- What is told of a name that nobody goes by. -/
def unknown (name : String) : Fault :=
  .fleet ⟨.unknownProvider, s!"unknown vm provider: {name}", some name, none⟩

/-- The views of a registry tell of the members that were registered, first to last. -/
structure Reflects (registered : List π) (registry : Registry π) : Prop where
  /-- The names stand in order of first registration. -/
  names : registry.names = namesOf registered
  mem_names : ∀ name, name ∈ registry.names ↔ ∃ member ∈ registered, Named.name member = name
  distinct : registry.names.Nodup
  size : registry.size = registry.names.length
  contains : ∀ name, registry.contains name = true ↔ name ∈ registry.names
  /-- Each name has the member that was registered last under it, in the order of the names. -/
  members : registry.toList.map some = registry.names.map (latest registered)
  /-- The same member is found under the name, and goes by it. -/
  found : ∀ name ∈ registry.names, ∃ member, latest registered name = some member ∧
    registry.get name = .ok member ∧ Named.name member = name
  missing : ∀ name, name ∉ registry.names → registry.get name = .error (unknown name)

/-- A registry reflects its registrations. -/
theorem reflects_ofList (members : List π) : Reflects members (ofList members) := by
  have names := names_ofList members
  refine ⟨names, fun name => ?_, (ofList members).members.nodup_keys, ?_, contains_iff _, ?_,
    fun name registered => ?_, fun name unregistered => ?_⟩
  · -- A name is registered if some member goes by it.
    rw [names, namesOf, Names.mem_eraseDups, List.mem_map]
  · -- There are as many members as names.
    rw [size, OrderedMap.size, Registry.names, OrderedMap.keys, List.length_map]
  · -- The members are what is found under the names, in their order.
    rw [toList, ← OrderedMap.map_get?_keys]
    exact List.map_congr_left fun name _ => get?_ofList members name
  · -- A registered name has a member, which is the last one of that name.
    obtain ⟨member, found⟩ := get_of_mem_names registered
    have last : latest members name = some member := by
      rw [← get?_ofList]
      exact (get_eq_ok_iff _ name member).mp found
    exact ⟨member, last, found, name_of_latest last⟩
  · -- Under a name that is not registered there is nothing.
    have absent := (OrderedMap.get?_eq_none_iff (ofList members).members name).mpr unregistered
    rw [get, absent]
    rfl

/-- What a registry is used for: a registration, or one of its views. -/
inductive Use (π : Type) where
  | register (member : π)
  | get (name : String)
  | contains (name : String)
  | names
  | size
  | toList

/-- What is registered by a use. -/
def Use.registration? : Use π → Option π
  | register member => some member
  | get _ | contains _ | names | size | toList => none

/-- What was registered, first to last. -/
def registrations (uses : List (Use π)) : List π := uses.filterMap Use.registration?

/-- What a use is answered with. -/
inductive Reply (π : Type) where
  | registered
  | got (outcome : Except Fault π)
  | contained (known : Bool)
  | names (names : List String)
  | size (size : Nat)
  | members (members : List π)

/-- What a registry answers. -/
def reply (registry : Registry π) : Use π → Reply π
  | .register _ => .registered
  | .get name => .got (registry.get name)
  | .contains name => .contained (registry.contains name)
  | .names => .names registry.names
  | .size => .size registry.size
  | .toList => .members registry.toList

/-- The registry after a use. Only a registration makes another one of it. -/
def after [Host σ] (registry : Registry π) : Use π → StateM σ (Registry π)
  | .register member => registry.enroll member
  | .get _ | .contains _ | .names | .size | .toList => return registry

/-- Uses a registry several times, and answers each time. -/
def serve [Host σ] (registry : Registry π) : List (Use π) → StateM σ (List (Reply π) × Registry π)
  | [] => return ([], registry)
  | use :: later => do
    let next ← registry.after use
    let (replies, last) ← next.serve later
    return (registry.reply use :: replies, last)

/-- What comes later is served by the registry after the first use. -/
theorem run_serve_cons [Host σ] (registry : Registry π) (use : Use π) (later : List (Use π)) (state : σ) :
    (registry.serve (use :: later)).run state =
      let next := (registry.after use).run state
      let rest := (next.1.serve later).run next.2
      ((registry.reply use :: rest.1.1, rest.1.2), rest.2) :=
  rfl

/-- Enrolling a member registers it, whether or not it takes the place of another. -/
theorem run_enroll [Host σ] (registry : Registry π) (member : π) (state : σ) :
    ∃ told, (registry.enroll member).run state = (registry.register member, told) := by
  rw [enroll]
  split <;> exact ⟨_, rfl⟩

/-- A use adds what it registers, if it registers anything. -/
theorem run_after [Host σ] (registered : List π) (use : Use π) (state : σ) :
    ∃ told, ((ofList registered).after use).run state =
      (ofList (registered ++ use.registration?.toList), told) := by
  -- Registering is the only use that leaves another registry.
  cases use with
  | register member =>
    obtain ⟨told, ran⟩ := run_enroll (ofList registered) member state
    exact ⟨told, by rw [after, ran, ← ofList_concat]; rfl⟩
  | get _ | contains _ | names | size | toList =>
    refine ⟨state, ?_⟩
    rw [Use.registration?, Option.toList_none, List.append_nil]
    rfl

/-- However a registry is used, each use is answered from the registrations before it, and the registry that is
left is that of all registrations. -/
theorem run_serve [Host σ] (registered : List π) (uses : List (Use π)) (state : σ) :
    ∃ replies told, ((ofList registered).serve uses).run state =
        ((replies, ofList (registered ++ registrations uses)), told) ∧
      replies.length = uses.length ∧
      ∀ earlier use later, uses = earlier ++ use :: later →
        replies[earlier.length]? = some ((ofList (registered ++ registrations earlier)).reply use) := by
  -- What the first use registers comes before all that is registered later.
  induction uses generalizing registered state with
  | nil =>
    refine ⟨[], state, ?_, rfl, fun earlier use later split => by simp at split⟩
    rw [registrations, List.filterMap_nil, List.append_nil]
    rfl
  | cons first rest ih =>
    obtain ⟨middle, stepped⟩ := run_after registered first state
    obtain ⟨replies, told, ran, size, each⟩ := ih (registered ++ first.registration?.toList) middle
    -- What the first use registers is put before what the others do.
    have joined (uses : List (Use π)) : registered ++ first.registration?.toList ++ registrations uses =
        registered ++ registrations (first :: uses) := by
      rw [List.append_assoc, registrations, registrations, List.filterMap_cons]
      cases first.registration? <;> rfl
    rw [joined] at ran
    refine ⟨(ofList registered).reply first :: replies, told, ?_, by simp [size], ?_⟩
    · simp only [run_serve_cons, stepped, ran]
    · rintro (_ | ⟨head, earlier⟩) use later split
      · -- Nothing was registered before the first use.
        cases split
        simp [registrations]
      · -- The use is one of the others, and what the first one registered came before it.
        obtain ⟨rfl, others⟩ := List.cons.inj split
        have answered := each earlier use later others
        rw [joined] at answered
        simpa using answered

/-- However a registry is used from when it is empty, it reflects what was registered, in the order of first
registration and with the last member of each name. Every use on the way was answered by a registry that
reflects what was registered before it, so nothing that is looked up makes a difference. -/
theorem serve_reflects [Host σ] (uses : List (Use π)) (state : σ) :
    ∃ replies registry told, ((empty : Registry π).serve uses).run state = ((replies, registry), told) ∧
      Reflects (registrations uses) registry ∧ replies.length = uses.length ∧
      ∀ earlier use later, uses = earlier ++ use :: later → ∃ asked : Registry π,
        Reflects (registrations earlier) asked ∧ replies[earlier.length]? = some (asked.reply use) := by
  obtain ⟨replies, told, ran, size, each⟩ := run_serve [] uses state
  exact ⟨replies, _, told, ran, reflects_ofList _, size, fun earlier use later split =>
    ⟨_, reflects_ofList _, each earlier use later split⟩⟩

end Fleet.Registry
