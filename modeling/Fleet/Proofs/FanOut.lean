import Fleet.Proofs.Dispatch

/-! Fanning out divides a roster among its owners: each registered owner gets one call with exactly its
share, no other provider gets any, and failures are kept apart until the first of them is told. -/

namespace Fleet.Dispatch

open Program

variable {σ π α : Type}

/-- A call of an action on a group of virtual machines: the provider, the group, and what became of it. -/
structure GroupCall (π α : Type) where
  provider : π
  group : Roster
  outcome : Except Fault α

/-- The action with each of its calls noted. -/
def noting (action : π → Roster → Program σ α) (provider : π) (group : Roster) :
    Program (Watched (GroupCall π α) σ) α :=
  (action provider group).noted fun outcome => ⟨provider, group, outcome⟩

/-- The end of an owner's group: the one call that was made if the owner is registered, or none, and what
became of the group. -/
abbrev GroupEnd (π α : Type) := TaskEnd String (GroupCall π α) α

namespace GroupEnd

/-- The owner is registered, and what was called for the group returned. -/
def Returned (registry : Registry π) (ended : GroupEnd π α) : Prop :=
  registry.contains ended.task = true ∧ ∀ call ∈ ended.calls, ∃ answer, call.outcome = .ok answer

/-- The fault of a group: the owner is not registered, or what was called for the group raised the cause
of the fault. Breaking off a command is told as it is. -/
def Raised (registry : Registry π) (operation : Option String) (ended : GroupEnd π α)
    (fault : Fault) : Prop :=
  (registry.contains ended.task = false ∧ fault = unknownOwner ended.task operation) ∨
    ∃ call cause, ended.calls = [call] ∧ call.outcome = .error cause ∧
      fault = if cause.isInterrupt then cause
        else .because ⟨.providerFailed, s!"in provider: {ended.task}", some ended.task, operation⟩ cause

variable {registry : Registry π} {roster : Roster} {operation : Option String}
  {ended : GroupEnd π α}

/-- A group has an answer exactly when its owner is registered and the call returned. -/
theorem returned_iff (fits : ended.Fits registry (fun _ => GroupCall.mk) roster operation) :
    (∃ answer, ended.outcome = .ok answer) ↔ ended.Returned registry := by
  -- Telling an outcome as the owner's keeps answers answers and failures failures.
  obtain ⟨known, provider, found⟩ | ⟨unknown, fault, found⟩ := registry.registered_or ended.task
  · obtain ⟨inner, called, same⟩ := fits.called found
    rw [Returned, called, same]
    cases inner <;> simp [known, Except.mapError]
  · simp [Returned, (fits.not_called found).2, unknown]

/-- A group that fails has the fault of an unknown owner, or of the owner that failed. -/
theorem raised (fits : ended.Fits registry (fun _ => GroupCall.mk) roster operation) {fault : Fault}
    (failed : ended.outcome = .error fault) : ended.Raised registry operation fault := by
  -- What failed was the call of a registered owner, or the look-up of an unknown one.
  obtain ⟨_, provider, found⟩ | ⟨unknown, _, found⟩ := registry.registered_or ended.task
  · obtain ⟨inner, called, same⟩ := fits.called found
    rw [failed] at same
    cases inner with
    | ok answer => cases same
    | error cause =>
      -- The owner was called and raised the cause.
      cases same
      exact .inr ⟨_, cause, called, rfl, rfl⟩
  · have told := (fits.not_called found).2
    rw [failed] at told
    exact .inl ⟨unknown, Except.error.inj told⟩

end GroupEnd

/-- Noting the calls of an action changes nothing, and its groups end as the registry and the roster
have it. -/
theorem noting_watches [Host σ] (schedule : Schedule) (registry : Registry π) (roster : Roster)
    (operation : Option String) (action : π → Roster → Program σ α) :
    Watches (fanOut schedule registry roster operation (noting action))
      (fanOut schedule registry roster operation action) fun outcome calls =>
        ∃ ends : List (GroupEnd π α), ends.map TaskEnd.task = schedule.arrange id roster.owners ∧
          (∀ ended ∈ ends, ended.Fits registry (fun _ => GroupCall.mk) roster operation) ∧
          calls = ends.flatMap TaskEnd.calls ∧ outcome = ends.mapM TaskEnd.outcome :=
  -- Any registry is watched as itself here, as it is the action that notes its calls.
  fanOut_watches schedule (fun _ => GroupCall.mk)
    (fun name => show registry.get name = (registry.get name).map fun provider => provider by
      cases registry.get name <;> rfl)
    (fun _ provider group => Watches.noted (action provider group) (GroupCall.mk provider group))
    roster operation

/-- Fanning out calls the action once for each registered provider that has some of the virtual machines,
with exactly those of them and in their order, and for no other name. Groups end in the order of the
schedule, none of them keeps another from running, all of them have to return for an answer, and
otherwise the fault is that of the first group to fail. -/
theorem fanOut_partitions [Host σ] (schedule : Schedule) (registry : Registry π) (roster : Roster)
    (operation : Option String) (action : π → Roster → Program σ α) (state : σ) :
    ∃ (ends : List (GroupEnd π α)) (outcome : Except Fault (List α)) (after : σ),
      (fanOut schedule registry roster operation action).on state = (outcome, after) ∧
      (fanOut schedule registry roster operation (noting action)).on ⟨state, []⟩ =
        (outcome, ⟨after, ends.flatMap TaskEnd.calls⟩) ∧
      ends.map TaskEnd.task = schedule.arrange id roster.owners ∧
      (ends.map TaskEnd.task).Nodup ∧
      (∀ owner, owner ∈ ends.map TaskEnd.task ↔ ∃ vm ∈ roster, vm.provider = owner) ∧
      (∀ ended ∈ ends, ∀ provider, registry.get ended.task = .ok provider →
        ∃ outcome, ended.calls =
          [⟨provider, roster.filter fun vm => vm.provider == ended.task, outcome⟩]) ∧
      (∀ ended ∈ ends, registry.contains ended.task = false → ended.calls = []) ∧
      ((∃ answers, outcome = .ok answers) ↔
        (∀ vm ∈ roster, registry.contains vm.provider = true) ∧
          ∀ call ∈ ends.flatMap TaskEnd.calls, ∃ answer, call.outcome = .ok answer) ∧
      (∀ fault, outcome = .error fault → ∃ before first later, ends = before ++ first :: later ∧
        (∀ ended ∈ before, ended.Returned registry) ∧ first.Raised registry operation fault) := by
  obtain ⟨_, after, _, plain, watched, ends, owners, fits, rfl, rfl⟩ :=
    (noting_watches schedule registry roster operation action).fromStart state
  -- Groups are those of the owners, each once, whatever the order in which they end.
  have perm : (ends.map TaskEnd.task).Perm roster.owners := owners ▸ schedule.arrange_perm id _
  have owned (owner : String) : owner ∈ ends.map TaskEnd.task ↔ ∃ vm ∈ roster, vm.provider = owner :=
    perm.mem_iff.trans (roster.mem_owners owner)
  refine ⟨ends, _, after, plain, watched, owners,
    perm.nodup_iff.mpr roster.nodup_owners, owned, fun ended member provider found =>
      ((fits ended member).called found).imp fun _ both => both.1, fun ended member unknown => ?_,
    ?_, ?_⟩
  · -- An owner that is not registered has nobody to call.
    obtain ⟨known, _⟩ | ⟨_, fault, found⟩ := registry.registered_or ended.task
    · simp [known] at unknown
    · exact ((fits ended member).not_called found).1
  · -- There are answers exactly when every group has one.
    rw [exists_mapM_eq_ok_iff]
    have each : (∀ ended ∈ ends, ∃ answer, ended.outcome = .ok answer) ↔
        ∀ ended ∈ ends, ended.Returned registry :=
      forall₂_congr fun ended member => GroupEnd.returned_iff (fits ended member)
    rw [each]
    constructor
    · -- Each virtual machine belongs to a group that ended, and each call was made by one.
      intro returned
      refine ⟨fun vm member => ?_, fun call called => ?_⟩
      · obtain ⟨ended, present, named⟩ := List.mem_map.mp ((owned vm.provider).mpr ⟨vm, member, rfl⟩)
        exact named ▸ (returned ended present).1
      · obtain ⟨ended, present, made⟩ := List.mem_flatMap.mp called
        exact (returned ended present).2 call made
    · -- Each group has a virtual machine that speaks for its owner.
      rintro ⟨registered, returned⟩ ended member
      obtain ⟨vm, present, named⟩ := (owned ended.task).mp (List.mem_map.mpr ⟨ended, member, rfl⟩)
      exact ⟨named ▸ registered vm present,
        fun call made => returned call (List.mem_flatMap.mpr ⟨ended, member, made⟩)⟩
  · -- The first group to fail decides, and those before it returned.
    intro fault failed
    obtain ⟨before, first, later, rfl, fine, raised⟩ := mapM_eq_error_iff.mp failed
    exact ⟨before, first, later, rfl,
      fun ended member => (GroupEnd.returned_iff (fits ended (by simp [member]))).mp (fine ended member),
      GroupEnd.raised (fits first (by simp)) raised⟩

end Fleet.Dispatch
