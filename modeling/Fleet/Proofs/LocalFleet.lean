import Fleet.LocalFleet
import Fleet.Proofs.OrderedMap

/-! Laws of the local fleet: what each operation leaves of the machines that were created, and that each of
them is kept under its own name. -/

namespace Fleet.LocalFleet

/-- The virtual machine with its lifetime set, or taken from it. -/
def lasting (lifetime : Option Duration) (vm : Vm) : Vm := { vm with lifetime := lifetime }

/-- The virtual machines without those of some names. -/
def without (names : List String) (vms : Roster) : Roster :=
  vms.filter fun vm => vm.name ∉ names

/-- The virtual machines with the lifetimes of those of some names set. -/
def renewed (names : List String) (lifetime : Option Duration) (vms : Roster) : Roster :=
  vms.map fun vm => if vm.name ∈ names then lasting lifetime vm else vm

/-- The machine at hand goes by its name, and each machine that was created is kept under its own. All are
of the one provider. -/
structure Sound (fleet : LocalFleet) : Prop where
  hostName : fleet.host.name = hostName
  hostProvider : fleet.host.provider = providerName
  created : ∀ entry ∈ fleet.created.entries, entry.2.name = entry.1 ∧ entry.2.provider = providerName

/-- What it is when the machine at hand is to be deleted. -/
def hostStays : Fault :=
  .general "the local machine cannot be deleted" (some providerName) (some "delete")

/-- Nothing is deleted when the machine at hand is among what is to be. -/
theorem delete_of_mem {roster : Roster} (fleet : LocalFleet) (named : hostName ∈ roster.names) :
    fleet.delete roster = .error hostStays := by
  have any : (roster.any fun vm => vm.name == hostName) = true := by
    obtain ⟨vm, member, same⟩ := List.mem_map.mp named
    exact List.any_eq_true.mpr ⟨vm, member, by simp [same]⟩
  rw [delete, if_pos any, hostStays]

/-- The fleet without the machines of some names. -/
def remove (fleet : LocalFleet) (names : List String) : LocalFleet :=
  { fleet with created := names.foldl OrderedMap.erase fleet.created }

/-- Otherwise the machines of the names are gone. -/
theorem delete_of_not_mem {roster : Roster} (fleet : LocalFleet) (spared : hostName ∉ roster.names) :
    fleet.delete roster = .ok (fleet.remove roster.names) := by
  have none : ¬ (roster.any fun vm => vm.name == hostName) = true := by
    intro any
    obtain ⟨vm, member, same⟩ := List.any_eq_true.mp any
    exact spared (List.mem_map.mpr ⟨vm, member, by simpa using same⟩)
  rw [delete, if_neg none, remove, Roster.names, List.foldl_map]

/-- The machines that are left after a removal are those under other names. -/
theorem entries_remove (fleet : LocalFleet) (names : List String) :
    (fleet.remove names).created.entries =
      fleet.created.entries.filter fun entry => entry.1 ∉ names :=
  OrderedMap.entries_foldl_erase _ _

/-- Extending changes the machines of the names, each in its place. -/
theorem entries_extend (fleet : LocalFleet) (roster : Roster) (lifetime : Option Duration) :
    (fleet.extend roster lifetime).created.entries = fleet.created.entries.map fun entry =>
      if entry.1 ∈ roster.names then (entry.1, lasting lifetime entry.2) else entry := by
  -- A lifetime that is set twice is set.
  rw [← OrderedMap.entries_foldl_modify _ _ (lasting lifetime) fun _ => rfl, Roster.names,
    List.foldl_map]
  rfl

namespace Sound

variable {fleet : LocalFleet}

/-- At the start there is the machine at hand alone. -/
theorem start (now : Moment) (dns : String) : (LocalFleet.start now dns).Sound :=
  ⟨rfl, rfl, by simp [LocalFleet.start, OrderedMap.empty]⟩

/-- All machines that are listed are of the one provider. -/
theorem provider_of_mem_list (sound : fleet.Sound) {vm : Vm} (listed : vm ∈ fleet.list) :
    vm.provider = providerName := by
  rcases List.mem_cons.mp listed with rfl | created
  · exact sound.hostProvider
  · obtain ⟨entry, member, rfl⟩ := List.mem_map.mp created
    exact (sound.created entry member).2

/-- The machines of other names are those that are kept under other names. -/
theorem without_values (sound : fleet.Sound) (names : List String) :
    without names fleet.created.values =
      (fleet.created.entries.filter fun entry => entry.1 ∉ names).map Prod.snd := by
  -- A machine has a name exactly when it is kept under it.
  rw [without, OrderedMap.values, List.filter_map]
  congr 1
  refine List.filter_congr fun entry member => ?_
  rw [Function.comp_apply, (sound.created entry member).1]

/-- The machines that are left after a removal are those of other names. -/
theorem values_remove (sound : fleet.Sound) (names : List String) :
    (fleet.remove names).created.values = without names fleet.created.values := by
  rw [sound.without_values, OrderedMap.values, entries_remove]

/-- Extending changes the machines of the names, and those alone. -/
theorem values_extend (sound : fleet.Sound) (roster : Roster) (lifetime : Option Duration) :
    (fleet.extend roster lifetime).created.values =
      renewed roster.names lifetime fleet.created.values := by
  rw [OrderedMap.values, entries_extend, renewed, OrderedMap.values, List.map_map, List.map_map]
  refine List.map_congr_left fun entry member => ?_
  simp only [Function.comp_apply, (sound.created entry member).1]
  split <;> rfl

end Sound

/-- From one local fleet to another only machines of the names are gone: the machine at hand is there, the
other machines are as they were and in their order, and there is no new one. -/
structure Spares (names : List String) (before after : LocalFleet) : Prop where
  host : after.host = before.host
  left : after.created.entries.Sublist before.created.entries
  others : after.created.entries.filter (fun entry => entry.1 ∉ names) =
    before.created.entries.filter fun entry => entry.1 ∉ names

namespace Spares

variable {names : List String} {first second third : LocalFleet}

/-- Where nothing is done no machine is gone. -/
theorem refl (fleet : LocalFleet) : Spares names fleet fleet :=
  ⟨rfl, .refl _, rfl⟩

/-- What is gone later is gone, too. -/
theorem trans (one : Spares names first second) (other : Spares names second third) :
    Spares names first third :=
  ⟨other.host.trans one.host, other.left.trans one.left, other.others.trans one.others⟩

/-- To remove machines of some of the names is to spare all others. -/
theorem remove {gone : List String} (named : gone ⊆ names) (fleet : LocalFleet) :
    Spares names fleet (fleet.remove gone) := by
  refine ⟨rfl, ?_, ?_⟩
  · rw [entries_remove]
    exact List.filter_sublist
  · rw [entries_remove, List.filter_filter]
    refine List.filter_congr fun entry _ => ?_
    by_cases asked : entry.1 ∈ names
    · simp [asked]
    · simp [asked, mt (@named entry.1) asked]

/-- What is listed then was listed before. -/
theorem list_sublist (spares : Spares names first second) : second.list.Sublist first.list := by
  rw [list, list, spares.host]
  exact (spares.left.map _).cons_cons _

/-- Where no name is given up all is listed as before. -/
theorem list_eq (spares : Spares [] first second) : second.list = first.list := by
  have entries : second.created.entries = first.created.entries := by simpa using spares.others
  rw [list, list, spares.host, OrderedMap.values, entries, ← OrderedMap.values]

/-- Machines are kept under their names as before. -/
theorem sound (spares : Spares names first second) (sound : first.Sound) : second.Sound :=
  ⟨spares.host ▸ sound.hostName, spares.host ▸ sound.hostProvider,
    fun entry member => sound.created entry (spares.left.subset member)⟩

/-- The machines of other names are as before. -/
theorem without_values (spares : Spares names first second) (sound : first.Sound) :
    without names second.created.values = without names first.created.values := by
  rw [sound.without_values, (spares.sound sound).without_values, spares.others]

end Spares

end Fleet.LocalFleet
