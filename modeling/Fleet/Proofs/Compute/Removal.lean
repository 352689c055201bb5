import Fleet.Proofs.Compute.Listing

/-! Removal from Compute Engine: deleting virtual machines touches no instance of another name, and when it
answers none of theirs is left in its zone. -/

namespace Fleet.Compute

namespace Cloud

/-- An instance is removed exactly when its zone has one of its name, and then it is the first one of that
name that goes. -/
theorem remove_eq_ok_iff {cloud after : Cloud} {zone name : String} :
    cloud.remove zone name = .ok after ↔ cloud.find? zone name ≠ none ∧
      after = { cloud with
        zones := cloud.zones.modify (zoneKey zone) fun instances =>
          instances.eraseP fun machine => machine.name == name } := by
  unfold remove
  cases cloud.find? zone name <;> simp [eq_comm]

/-- An instance is removed from its own zone and from no other. -/
theorem under_remove {cloud after : Cloud} {zone name : String}
    (removed : cloud.remove zone name = .ok after) (key : String) :
    after.under key = if key = zoneKey zone then
      (cloud.under key).eraseP fun machine => machine.name == name else cloud.under key := by
  -- A key that has no instances has none to remove.
  obtain ⟨_, rfl⟩ := remove_eq_ok_iff.mp removed
  simp only [under, OrderedMap.get?_modify]
  split
  · cases cloud.zones.get? key <;> rfl
  · rfl

/-- Where names do not repeat, whatever has a name goes with the first that has it. -/
theorem eraseP_eq_filter {name : String} {instances : List Instance}
    (distinct : (instances.map Instance.name).Nodup) :
    (instances.eraseP fun machine => machine.name == name) =
      instances.filter fun machine => !(machine.name == name) := by
  -- The induction is on the instances, up to the first of the name.
  induction instances with
  | nil => rfl
  | cons first rest ih =>
    obtain ⟨fresh, distinct⟩ := List.nodup_cons.mp distinct
    by_cases same : first.name = name
    · -- None of the rest has the name, so all of it stays.
      rw [List.eraseP_cons_of_pos (by simpa using same), List.filter_cons_of_neg (by simpa using same),
        List.filter_eq_self.mpr]
      intro machine member
      have other : machine.name ≠ name := fun named =>
        fresh (List.mem_map.mpr ⟨machine, member, named.trans same.symm⟩)
      simpa using other
    · rw [List.eraseP_cons_of_neg (by simpa using same), List.filter_cons_of_pos (by simpa using same),
        ih distinct]

/-- Where names do not repeat, nothing is found any more once it was removed. -/
theorem WellZoned.find?_removed {cloud after : Cloud} {zone name : String} (well : cloud.WellZoned)
    (removed : cloud.remove zone name = .ok after) : after.find? zone name = none := by
  rw [find?_eq_none_iff, instancesIn_eq_under, under_remove removed, if_pos rfl,
    eraseP_eq_filter (well.names _)]
  -- All of the name were taken out, so none is found.
  intro machine member
  simpa using (List.mem_filter.mp member).2

/-- The instances are those under all keys in turn. -/
theorem listing_eq (cloud : Cloud) : cloud.listing = cloud.zones.keys.flatMap fun key =>
    (cloud.under key).map fun machine => (zoneOfKey key, machine) := by
  rw [listing, OrderedMap.keys, List.flatMap_map]
  refine List.flatMap_congr fun entry member => ?_
  rw [under, (OrderedMap.get?_eq_some_iff _ _ _).mpr member, Option.getD_some]

/-- Who looks for other names does not miss an instance of one of them. -/
theorem filter_eraseP {names : List String} {name : String} (named : name ∈ names)
    (instances : List Instance) :
    (instances.eraseP fun machine => machine.name == name).filter (fun machine => machine.name ∉ names) =
      instances.filter fun machine => machine.name ∉ names := by
  -- Of two lists that differ in an instance of the names, those of other names are the same.
  induction instances with
  | nil => rfl
  | cons first rest ih =>
    by_cases same : first.name = name
    · rw [List.eraseP_cons_of_pos (by simpa using same), List.filter_cons_of_neg (by simp [same, named])]
    · rw [List.eraseP_cons_of_neg (by simpa using same), List.filter_cons, List.filter_cons, ih]

/-- From one cloud to another only instances of the names are gone: the others are as they were and in their
order, and there is no new one. -/
structure Spares (names : List String) (before after : Cloud) : Prop where
  keys : after.zones.keys = before.zones.keys
  left : ∀ key, (after.under key).Sublist (before.under key)
  others : ∀ key, (after.under key).filter (fun machine => machine.name ∉ names) =
    (before.under key).filter fun machine => machine.name ∉ names

namespace Spares

variable {names : List String} {first second third : Cloud}

/-- Where zones stay no instance is gone. -/
theorem of_zones (same : second.zones = first.zones) : Spares names first second := by
  have under_eq (key : String) : second.under key = first.under key := by
    rw [under, same, ← under]
  exact ⟨by rw [same], fun key => under_eq key ▸ .refl _, fun key => by rw [under_eq]⟩

/-- What is gone later is gone, too. -/
theorem trans (one : Spares names first second) (other : Spares names second third) :
    Spares names first third :=
  ⟨other.keys.trans one.keys, fun key => (other.left key).trans (one.left key),
    fun key => (other.others key).trans (one.others key)⟩

/-- To remove an instance of one of the names is to spare all others. -/
theorem of_remove {zone name : String} (named : name ∈ names)
    (removed : first.remove zone name = .ok second) : Spares names first second := by
  refine ⟨?_, fun key => ?_, fun key => ?_⟩
  · -- To remove an instance changes the value of a key, and neither adds nor takes one.
    obtain ⟨_, rfl⟩ := remove_eq_ok_iff.mp removed
    exact OrderedMap.keys_modify _ _ _
  · -- Under the key of its zone one instance is taken out, and elsewhere none.
    rw [under_remove removed]
    split
    · exact List.eraseP_sublist
    · exact .refl _
  · -- The one that is taken out has one of the names, so those of other names stay.
    rw [under_remove removed]
    split
    · exact filter_eraseP named _
    · rfl

/-- What is not there does not come back. -/
theorem find?_eq_none (spares : Spares names first second) {zone name : String}
    (gone : first.find? zone name = none) : second.find? zone name = none := by
  rw [find?_eq_none_iff] at gone ⊢
  exact fun machine member => gone machine ((spares.left _).subset member)

/-- Zones and names are as sound as before. -/
theorem wellZoned (spares : Spares names first second) (well : first.WellZoned) : second.WellZoned :=
  ⟨fun key member => well.keys key (spares.keys ▸ member),
    fun key => (well.names key).sublist ((spares.left key).map _)⟩

/-- What is listed then was listed before. -/
theorem listing_sublist (spares : Spares names first second) :
    second.listing.Sublist first.listing := by
  -- The keys are the same, and under each of them there is no more than before.
  rw [listing_eq, listing_eq, spares.keys]
  induction first.zones.keys with
  | nil => exact .refl _
  | cons key rest ih =>
    rw [List.flatMap_cons, List.flatMap_cons]
    exact ((spares.left key).map _).append ih

/-- Instances of other names are listed as before. -/
theorem filter_listing (spares : Spares names first second) :
    second.listing.filter (fun entry => entry.2.name ∉ names) =
      first.listing.filter fun entry => entry.2.name ∉ names := by
  -- Keys are gone through in the same order, so it is enough to look under each of them.
  rw [listing_eq, listing_eq, spares.keys, List.filter_flatMap, List.filter_flatMap]
  refine List.flatMap_congr fun key _ => ?_
  rw [List.filter_map, List.filter_map]
  exact congrArg _ (spares.others key)

end Spares

end Cloud

/-- An attempt to delete an instance either fails, or removes it. -/
theorem Client.delete_goes (project zone name : String) :
    Goes (Client.delete project zone name) (CallEvents (.deleted project zone name))
      fun site _ cloud => site.cloud.remove zone name = .ok cloud := by
  intro site
  obtain ⟨events, first, form, calls, ⟨fault, failed⟩ | asked⟩ :=
    on_ask (.deleted project zone name) site
  · exact ⟨events, first, form, calls, .inl ⟨fault, failed _⟩⟩
  · -- The request was made, and a fault may be due for it.
    obtain ⟨outcome, second, met, same⟩ := Site.on_meetFault s!"delete:{name}" first
    refine ⟨events, second, form, by simpa using calls.trans met, ?_⟩
    rw [Client.delete, asked, Program.on_bind, same]
    cases outcome with
    | error fault => exact .inl ⟨fault, rfl⟩
    | ok answer =>
      -- Only an instance that is not there still stands in the way.
      simp only [Site.on_changeCloud]
      cases second.cloud.remove zone name with
      | error problem => exact .inl ⟨_, rfl⟩
      | ok cloud => exact .inr ⟨_, cloud, rfl, rfl⟩

/-- At a site instances of some names alone are gone from the cloud, and the local fleet stays. -/
structure Culls (names : List String) (before after : Site) : Prop where
  cloud : Cloud.Spares names before.cloud after.cloud
  localFleet : after.localFleet = before.localFleet

namespace Culls

variable {names : List String} {first second third : Site}

/-- Calls that leave all zones alone take no instance. -/
theorem of_calls {events : List Event} (calls : Site.Calls events first second) :
    Culls names first second :=
  ⟨.of_zones calls.zones, by rw [calls.rest]⟩

/-- What is gone later is gone, too. -/
theorem trans (one : Culls names first second) (other : Culls names second third) :
    Culls names first third :=
  ⟨one.cloud.trans other.cloud, other.localFleet.trans one.localFleet⟩

end Culls

/-- When an instance is deleted no other name is touched, and if that was done, none of its name is left in
its zone. -/
theorem deletion_culls (project : String) {names : List String} {vm : Vm} (named : vm.name ∈ names)
    (site : Site) :
    ∃ outcome after,
      (Client.persistently (Client.delete project vm.zone vm.name)).on site = (outcome, after) ∧
      Culls names site after ∧
      (outcome = .ok () → site.cloud.WellZoned → after.cloud.find? vm.zone vm.name = none) := by
  obtain ⟨attempts, middle, _, calls, ⟨fault, failed, _⟩ | ⟨⟨⟩, cloud, removed, done⟩⟩ :=
    (Client.delete_goes project vm.zone vm.name).persistently site
  · -- All attempts failed, and an attempt that fails leaves the cloud.
    exact ⟨_, middle, failed, .of_calls calls, nofun⟩
  · -- The attempts that failed changed nothing, and the last one removed the instance.
    have last : Culls names middle { middle with cloud := cloud } := ⟨.of_remove named removed, rfl⟩
    refine ⟨_, _, done, (Culls.of_calls calls).trans last, fun _ well => ?_⟩
    exact (well.of_zones calls.zones).find?_removed removed

/-- When instances are deleted in turn no other name is touched, however far that goes. If all was done,
none of their names is left in their zones. -/
theorem deletions_cull (project : String) {names : List String} {vms : Roster}
    (named : ∀ vm ∈ vms, vm.name ∈ names) (site : Site) :
    ∃ outcome after,
      (vms.forM fun vm => Client.persistently (Client.delete project vm.zone vm.name)).on site =
        (outcome, after) ∧
      Culls names site after ∧
      (outcome = .ok ⟨⟩ → site.cloud.WellZoned →
        ∀ vm ∈ vms, after.cloud.find? vm.zone vm.name = none) := by
  -- The first deletion either ends all, or leaves a site to the others where its instance is gone.
  induction vms generalizing site with
  | nil => exact ⟨_, site, rfl, .of_calls (.refl site), fun _ _ => by simp⟩
  | cons vm rest ih =>
    obtain ⟨outcome, middle, ran, culls, gone⟩ := deletion_culls project (named vm (by simp)) site
    rw [List.forM]
    cases outcome with
    -- Those behind it are not tried any more, so not all was done.
    | error fault => exact ⟨_, middle, Program.on_bind_error ran _, culls, fun all => by cases all⟩
    | ok answer =>
      obtain ⟨outcome, after, further, onward, others⟩ :=
        ih (fun other member => named other (by simp [member])) middle
      refine ⟨outcome, after, (Program.on_bind_ok ran _).trans further, culls.trans onward,
        fun all well => List.forall_mem_cons.mpr ⟨?_, others all (culls.cloud.wellZoned well)⟩⟩
      -- What the later deletions leave was there before them, so nothing comes back.
      exact onward.cloud.find?_eq_none (gone rfl well)

/-- Looking up the project takes no instance. -/
theorem project_culls (names : List String) {site after : Site} {outcome : Except Fault String}
    (ran : project.on site = (outcome, after)) : Culls names site after := by
  have kept := project_resolves ran
  exact ⟨.of_zones kept.zones, by rw [kept.rest]⟩

/-- Deleting virtual machines touches no other name. If it answers, none of their names is left in their
zones. -/
theorem delete_culls {names : List String} {vms : Roster} (named : ∀ vm ∈ vms, vm.name ∈ names)
    (site : Site) :
    ∃ outcome after, (delete vms).on site = (outcome, after) ∧ Culls names site after ∧
      (outcome = .ok () → site.cloud.WellZoned →
        ∀ vm ∈ vms, after.cloud.find? vm.zone vm.name = none) := by
  rcases resolved : project.on site with ⟨fault | found, middle⟩
  · -- Without a project nothing is deleted.
    exact ⟨_, middle, Program.on_bind_error resolved _, project_culls names resolved, nofun⟩
  · -- The look-up leaves the zones, so what holds of the deletions holds of the whole.
    obtain ⟨outcome, after, ran, onward, gone⟩ := deletions_cull found named middle
    exact ⟨outcome, after, (Program.on_bind_ok resolved _).trans ran,
      (project_culls names resolved).trans onward,
      fun all well => gone all (well.of_zones (project_resolves resolved).zones)⟩

/-- Listing takes no instance. -/
theorem list_culls (names : List String) (site : Site) : Culls names site (list.on site).2 := by
  unfold list
  rcases resolved : project.on site with ⟨fault | found, middle⟩
  · rw [Program.on_bind_error resolved]
    exact project_culls names resolved
  · rw [Program.on_bind_ok resolved]
    refine (project_culls names resolved).trans ?_
    obtain ⟨attempts, last, _, calls, ⟨fault, failed, _⟩ | ⟨listing, _, ⟨_, rfl⟩, answered⟩⟩ :=
      (Client.list_goes found).persistently middle
    · -- A listing that failed only asked.
      rw [Program.on_bind_error failed]
      exact .of_calls calls
    · -- What was listed is only described.
      rw [Program.on_bind_ok answered]
      exact .of_calls calls

end Fleet.Compute
