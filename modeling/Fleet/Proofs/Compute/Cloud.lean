import Fleet.Compute.Cloud
import Fleet.Proofs.OrderedMap
import Mathlib.Data.List.Nodup
import Mathlib.Data.List.TakeWhile

/-! Laws of the cloud: zones are told apart by their keys, a zone and a name find one instance, and each
change is a change of that one alone. -/

namespace Fleet.Compute.Cloud

/-- A zone's name has no slash. -/
def SlashFree (zone : String) : Prop := '/' ∉ zone.toList

instance (zone : String) : Decidable (SlashFree zone) :=
  inferInstanceAs (Decidable ('/' ∉ zone.toList))

/-- Zones of one key are the same. -/
@[simp]
theorem zoneKey_inj {zone other : String} : zoneKey zone = zoneKey other ↔ zone = other := by
  -- All keys begin with the same letters.
  refine ⟨fun same => ?_, congrArg zoneKey⟩
  have letters := congrArg String.toList same
  simp only [zoneKey, toString, String.toList_append] at letters
  exact String.toList_injective (List.append_cancel_left letters)

/-- A zone without slashes is read back from its key. -/
theorem zoneOfKey_zoneKey {zone : String} (free : SlashFree zone) :
    zoneOfKey (zoneKey zone) = zone := by
  -- Backwards, the letters of the zone come before the slash that ends what is put before it.
  have letters : (zoneKey zone).toList.reverse = zone.toList.reverse ++ "/senoz".toList := by
    simp only [zoneKey, toString, String.toList_append, List.reverse_append]
    rfl
  -- All letters before that slash are kept, as none of them is one.
  have kept : (zone.toList.reverse ++ "/senoz".toList).takeWhile (· != '/') = zone.toList.reverse := by
    rw [List.takeWhile_append_of_pos]
    · simp
    · intro c member
      rw [bne_iff_ne]
      rintro rfl
      exact free (by simpa using member)
  rw [zoneOfKey, letters, kept, List.reverse_reverse, String.ofList_toList]

/-- The instances under a key. -/
def under (cloud : Cloud) (key : String) : List Instance :=
  (cloud.zones.get? key).getD []

/-- The instances of a zone are those under its key. -/
theorem instancesIn_eq_under (cloud : Cloud) (zone : String) :
    cloud.instancesIn zone = cloud.under (zoneKey zone) :=
  rfl

/-- An instance is added exactly when its zone has none of its name, and then it comes last there. -/
theorem add_eq_ok_iff {cloud after : Cloud} {zone : String} {machine : Instance} :
    cloud.add zone machine = .ok after ↔ cloud.find? zone machine.name = none ∧
      after = { cloud with
        zones := cloud.zones.insert (zoneKey zone) (cloud.instancesIn zone ++ [machine]) } := by
  unfold add
  cases cloud.find? zone machine.name <;> simp [eq_comm]

/-- An instance is added to its own zone and to no other. -/
theorem under_add {cloud after : Cloud} {zone : String} {machine : Instance}
    (added : cloud.add zone machine = .ok after) (key : String) :
    after.under key = cloud.under key ++ if zoneKey zone = key then [machine] else [] := by
  -- It was added because its name was free in the zone, and it went to the end.
  obtain ⟨_, rfl⟩ := add_eq_ok_iff.mp added
  rw [under, OrderedMap.get?_insert]
  by_cases same : key = zoneKey zone
  · rw [if_pos same, if_pos same.symm, same]
    rfl
  · rw [if_neg same, if_neg (Ne.symm same), List.append_nil]
    rfl

/-- Only zones are looked at to find an instance. -/
theorem find?_of_zones {cloud other : Cloud} (same : other.zones = cloud.zones)
    (zone name : String) : other.find? zone name = cloud.find? zone name := by
  rw [find?, instancesIn, same, ← instancesIn, ← find?]

/-- What is found in a zone has the name that was looked for. -/
theorem find?_name {cloud : Cloud} {zone name : String} {machine : Instance}
    (found : cloud.find? zone name = some machine) :
    machine ∈ cloud.instancesIn zone ∧ machine.name = name :=
  ⟨List.mem_of_find?_eq_some found, by simpa using List.find?_some found⟩

/-- Nothing is found in a zone exactly when nothing there has the name. -/
theorem find?_eq_none_iff {cloud : Cloud} {zone name : String} :
    cloud.find? zone name = none ↔ ∀ machine ∈ cloud.instancesIn zone, machine.name ≠ name := by
  simp [find?]

/-- What is added is found under its name in its zone, and nothing else is found that was not there. -/
theorem find?_add {cloud after : Cloud} {zone : String} {machine : Instance}
    (added : cloud.add zone machine = .ok after) (otherZone otherName : String) :
    after.find? otherZone otherName = if otherZone = zone ∧ otherName = machine.name then some machine
      else cloud.find? otherZone otherName := by
  -- It comes last in its zone, where nothing had its name.
  have free := (add_eq_ok_iff.mp added).1
  rw [find?, instancesIn_eq_under, under_add added, List.find?_append, ← instancesIn_eq_under, ← find?]
  -- In another zone nothing was added, so nothing else is found there.
  by_cases sameZone : otherZone = zone
  · subst sameZone
    rw [if_pos rfl]
    -- In its zone it is found under its own name alone.
    by_cases sameName : otherName = machine.name
    · subst sameName
      simp [free]
    · simp [sameName, Ne.symm sameName]
  · simp [sameZone, Ne.symm sameZone]

/-- A change of the first instance of a name is found under that name, and nowhere else, as long as the
change keeps names. -/
theorem find?_changeFirst {change : Instance → Instance}
    (keeps : ∀ machine, (change machine).name = machine.name) (name other : String)
    (instances : List Instance) :
    (changeFirst name change instances).find? (fun machine => machine.name == other) =
      if other = name then (instances.find? fun machine => machine.name == other).map change
      else instances.find? fun machine => machine.name == other := by
  -- What is changed keeps its name, so it is found as it was before.
  induction instances with
  | nil => simp [changeFirst]
  | cons first rest ih =>
    rw [changeFirst]
    -- The change ends the search for the name, and any other search goes past it.
    by_cases named : first.name = name
    · subst named
      by_cases sought : other = first.name
      · simp [sought, keeps]
      · simp [sought, keeps, Ne.symm sought]
    · by_cases sought : first.name = other
      · subst sought
        simp [named]
      · simpa [named, sought] using ih

/-- A change that keeps names keeps the names of all. -/
theorem map_name_changeFirst {change : Instance → Instance}
    (keeps : ∀ machine, (change machine).name = machine.name) (name : String)
    (instances : List Instance) :
    (changeFirst name change instances).map Instance.name = instances.map Instance.name := by
  -- The first of the name is changed and keeps the name, and all others stay.
  induction instances with
  | nil => rfl
  | cons first rest ih =>
    rw [changeFirst]
    split
    · simp [keeps]
    · simp [ih]

/-- Labels are replaced exactly when there is such an instance, which is changed in its place. -/
theorem relabel_eq_ok_iff {cloud after : Cloud} {zone name : String} {labels : Labels} :
    cloud.relabel zone name labels = .ok after ↔ cloud.find? zone name ≠ none ∧
      after = { cloud with
        stamps := cloud.stamps + 1
        zones := cloud.zones.modify (zoneKey zone) (changeFirst name fun machine =>
          { machine with labels := labels, fingerprint := s!"fp{cloud.stamps + 1}" }) } := by
  unfold relabel
  -- Either there is an instance to be changed, or the labels have nowhere to go.
  cases cloud.find? zone name <;> simp [eq_comm]

/-- Labels are replaced in the instances of one key alone. -/
theorem under_relabel {cloud after : Cloud} {zone name : String} {labels : Labels}
    (relabelled : cloud.relabel zone name labels = .ok after) (key : String) :
    after.under key = if key = zoneKey zone then changeFirst name (fun machine =>
      { machine with labels := labels, fingerprint := s!"fp{cloud.stamps + 1}" }) (cloud.under key)
      else cloud.under key := by
  -- A key that has no instances has none to change.
  obtain ⟨_, rfl⟩ := relabel_eq_ok_iff.mp relabelled
  simp only [under, OrderedMap.get?_modify]
  split
  · cases cloud.zones.get? key <;> rfl
  · rfl

/-- Labels are replaced in one instance alone. -/
theorem find?_relabel {cloud after : Cloud} {zone name : String} {labels : Labels}
    (relabelled : cloud.relabel zone name labels = .ok after) (otherZone otherName : String) :
    after.find? otherZone otherName = if otherZone = zone ∧ otherName = name then
      (cloud.find? otherZone otherName).map fun machine =>
        { machine with labels := labels, fingerprint := s!"fp{cloud.stamps + 1}" }
      else cloud.find? otherZone otherName := by
  -- Neither another zone nor another name in the zone is touched.
  simp only [find?, instancesIn_eq_under, under_relabel relabelled, zoneKey_inj]
  by_cases sameZone : otherZone = zone
  · rw [if_pos sameZone, find?_changeFirst fun machine => by rfl]
    by_cases sameName : otherName = name <;> simp [sameZone, sameName]
  · simp [sameZone]

/-- Every key is that of a zone without slashes, and the instances of a zone have names of their own. -/
structure WellZoned (cloud : Cloud) : Prop where
  keys : ∀ key ∈ cloud.zones.keys, ∃ zone, SlashFree zone ∧ key = zoneKey zone
  names : ∀ key, ((cloud.under key).map Instance.name).Nodup

/-- Only zones are looked at. -/
theorem WellZoned.of_zones {cloud after : Cloud} (well : cloud.WellZoned)
    (same : after.zones = cloud.zones) : after.WellZoned :=
  ⟨by simpa only [same] using well.keys, by simpa only [under, same] using well.names⟩

/-- An added instance has a name that was free, and its zone a key of its own. -/
theorem WellZoned.add {cloud after : Cloud} {zone : String} {machine : Instance}
    (well : cloud.WellZoned) (free : SlashFree zone) (added : cloud.add zone machine = .ok after) :
    after.WellZoned := by
  -- The zone is new or was there, and the name was free in it.
  refine ⟨fun key member => ?_, fun key => ?_⟩
  · -- A key that was not there before is that of the zone.
    obtain ⟨_, rfl⟩ := add_eq_ok_iff.mp added
    rw [OrderedMap.keys_insert] at member
    split at member
    · exact well.keys key member
    · rw [List.mem_append, List.mem_singleton] at member
      exact member.elim (well.keys key) fun new => ⟨zone, free, new⟩
  · -- Only the zone that was added to has other names than before.
    rw [under_add added]
    split
    · next here =>
      subst here
      -- Nothing in the zone had the name that was added.
      have unused := find?_eq_none_iff.mp (add_eq_ok_iff.mp added).1
      rw [List.map_append, List.nodup_append]
      refine ⟨well.names _, by simp, fun name member other new => ?_⟩
      obtain ⟨present, held, rfl⟩ := List.mem_map.mp member
      rw [List.map_singleton, List.mem_singleton] at new
      exact new ▸ unused present held
    · rw [List.append_nil]
      exact well.names key

/-- Replacing labels changes no key and no name. -/
theorem WellZoned.relabel {cloud after : Cloud} {zone name : String} {labels : Labels}
    (well : cloud.WellZoned) (relabelled : cloud.relabel zone name labels = .ok after) :
    after.WellZoned := by
  refine ⟨fun key member => ?_, fun key => ?_⟩
  · -- The instances of a key are changed, but no key is.
    obtain ⟨_, rfl⟩ := relabel_eq_ok_iff.mp relabelled
    rw [OrderedMap.keys_modify] at member
    exact well.keys key member
  · -- Only the zone of the instance is another, and only in its labels.
    rw [under_relabel relabelled]
    split
    · -- The instance that is changed keeps its name.
      rw [map_name_changeFirst fun machine => by rfl]
      exact well.names key
    · exact well.names key

/-- A name in a zone finds the instance of that name there. -/
theorem WellZoned.find?_eq_some_iff {cloud : Cloud} (well : cloud.WellZoned) {zone name : String}
    {machine : Instance} : cloud.find? zone name = some machine ↔
      machine ∈ cloud.instancesIn zone ∧ machine.name = name := by
  -- What is found first has the name, and no other in the zone has it.
  refine ⟨find?_name, fun ⟨member, named⟩ => ?_⟩
  subst named
  cases found : cloud.find? zone machine.name with
  | none => exact absurd rfl (find?_eq_none_iff.mp found machine member)
  | some first =>
    obtain ⟨present, same⟩ := find?_name found
    exact congrArg some (List.inj_on_of_nodup_map (well.names _) present member same)

/-- Only zones are looked at to list the instances. -/
theorem listing_of_zones {cloud other : Cloud} (same : other.zones = cloud.zones) :
    other.listing = cloud.listing := by
  rw [listing, same, ← listing]

/-- An instance is listed with its zone. -/
theorem WellZoned.mem_listing_iff {cloud : Cloud} (well : cloud.WellZoned) {zone : String}
    {machine : Instance} : (zone, machine) ∈ cloud.listing ↔
      SlashFree zone ∧ cloud.find? zone machine.name = some machine := by
  -- The key of an entry is that of its zone, which is read back from it.
  -- What is listed is what stands under some key, with the zone that the key is for.
  rw [well.find?_eq_some_iff, and_iff_left rfl, listing, List.mem_flatMap]
  constructor
  · -- What is listed stands under the key of a zone without slashes.
    rintro ⟨⟨key, instances⟩, entry, member⟩
    obtain ⟨_, held, same⟩ := List.mem_map.mp member
    cases same
    obtain ⟨zone, free, rfl⟩ := well.keys key (List.mem_map.mpr ⟨_, entry, rfl⟩)
    rw [zoneOfKey_zoneKey free, instancesIn, (OrderedMap.get?_eq_some_iff _ _ _).mpr entry]
    exact ⟨free, held⟩
  · -- What is found in a zone stands under its key, and all keys are listed.
    rintro ⟨free, held⟩
    cases found : cloud.zones.get? (zoneKey zone) with
    | none => simp [instancesIn, found] at held
    | some instances =>
      rw [instancesIn, found] at held
      exact ⟨(zoneKey zone, instances), (OrderedMap.get?_eq_some_iff _ _ _).mp found,
        List.mem_map.mpr ⟨machine, held, by rw [zoneOfKey_zoneKey free]⟩⟩

end Fleet.Compute.Cloud
