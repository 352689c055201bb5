import Fleet.Proofs.Compute.Project

/-! Listing Compute Engine: what an instance is described as, and that an instance which is found in a zone
is listed there once. -/

namespace Fleet.Compute

/-- What an instance is described as: its own data with the zone and the project, and the flaws of its name,
its lifetime and its network, as far as there are any. -/
theorem toVm_eq_ok {project zone : String} {machine : Instance} {vm : Vm}
    (described : toVm project zone machine = .ok vm) :
    ∃ lifetime created, labelledLifetime machine.labels = .ok lifetime ∧ vm = {
      name := machine.name
      provider := providerName
      createdAt := created
      lifetime := some (lifetime.getD .zero)
      dns := s!"{machine.name}.{zone}.{project}"
      privateIp := insideAddress machine
      publicIp := outsideAddress machine
      zone := zone
      flaws := (if Label.accepts machine.name then [] else [.invalidName]) ++
        (if lifetime.isSome then [] else [.noExpiration]) ++
        (if (insideAddress machine).isEmpty || (outsideAddress machine).isEmpty then [.badNetwork]
          else []) } := by
  -- Only labels or a moment that cannot be read keep an instance from being described.
  unfold toVm at described
  cases labelled : labelledLifetime machine.labels with
  | error fault => simp [labelled, Bind.bind, Except.bind] at described
  | ok lifetime =>
    simp only [labelled, Bind.bind, Except.bind] at described
    -- Only with a moment of creation there is something to describe.
    split at described
    · cases described
      exact ⟨lifetime, _, rfl, rfl⟩
    · cases described
    · cases described

/-- An instance is described by its own data, the zone and the project. -/
theorem exists_of_toVm {project zone : String} {machine : Instance} {vm : Vm}
    (described : toVm project zone machine = .ok vm) :
    ∃ lifetime, labelledLifetime machine.labels = .ok lifetime ∧ vm.name = machine.name ∧
      vm.zone = zone ∧ vm.provider = providerName ∧ vm.dns = s!"{machine.name}.{zone}.{project}" ∧
      vm.lifetime = some (lifetime.getD .zero) ∧
      (lifetime.isSome = true → VmFlaw.noExpiration ∉ vm.flaws) := by
  -- The parts are read off from the whole description.
  obtain ⟨lifetime, _, labelled, rfl⟩ := toVm_eq_ok described
  refine ⟨lifetime, labelled, rfl, rfl, rfl, rfl, rfl, fun told => ?_⟩
  -- A lifetime that was told adds no flaw, and the other flaws are others.
  simp only [told, if_true, List.append_nil, List.mem_append, not_or]
  constructor <;> split <;> simp

/-- A listing that answers describes every instance of the project, and leaves all zones as they are. -/
theorem exists_of_list {site after : Site} {roster : Roster}
    (listed : list.on site = (.ok roster, after)) :
    ∃ found resolved, project.on site = (.ok found, resolved) ∧
      List.Forall₂ (fun entry vm => toVm found entry.1 entry.2 = .ok vm) site.cloud.listing roster ∧
      after.cloud.zones = site.cloud.zones := by
  -- The project is looked up, the instances are listed, and then each is described.
  obtain ⟨found, resolved, resolves, listed⟩ := Program.bind_ok listed
  obtain ⟨listing, called, calls, described⟩ := Program.bind_ok listed
  obtain ⟨attempts, middle, _, kept, ⟨fault, failed, _⟩ | ⟨_, _, ⟨rfl, rfl⟩, answered⟩⟩ :=
    (Client.list_goes found).persistently resolved
  · -- A listing that failed three times does not answer.
    rw [failed] at calls
    cases calls
  · -- The cloud answered with what it has, and each instance was described.
    rw [answered] at calls
    cases calls
    obtain ⟨each, rfl⟩ := Prod.mk.inj described
    have zones := kept.zones.trans (project_resolves resolves).zones
    rw [Cloud.listing_of_zones zones] at each
    exact ⟨found, resolved, resolves, mapM_eq_ok_iff.mp each, zones⟩

end Fleet.Compute
