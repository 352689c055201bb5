import Fleet.Proofs.Carried
import Fleet.Proofs.Compute.Removal
import Fleet.Proofs.LocalHistory
import Fleet.Proofs.NameOrder
import Fleet.Proofs.Registry

/-! Destroying virtual machines: whatever becomes of it, those of other names stay as they were, and
when it answers none of the names is left. -/

namespace Fleet

open Program
open LocalFleet (without)

namespace Site

/-- From one site to another only what has one of the names is gone from the cloud and the local
fleet. -/
structure Spares (names : List String) (before after : Site) : Prop where
  cloud : Compute.Cloud.Spares names before.cloud after.cloud
  localFleet : LocalFleet.Spares names before.localFleet after.localFleet

/-- What has none of the names is kept. -/
def sparing (names : List String) : Frame Site where
  Kept := Spares names
  refl site := ⟨.of_zones rfl, .refl site.localFleet⟩
  trans one other := ⟨one.cloud.trans other.cloud, one.localFleet.trans other.localFleet⟩

/-- The instances and the local fleet are left alone. -/
structure Untouched (before after : Site) : Prop where
  zones : after.cloud.zones = before.cloud.zones
  localFleet : after.localFleet = before.localFleet

/-- The instances and the local fleet are kept as they are. -/
def untouched : Frame Site where
  Kept := Untouched
  refl _ := ⟨rfl, rfl⟩
  trans one other := ⟨other.zones.trans one.zones, other.localFleet.trans one.localFleet⟩

variable {names : List String} {before after : Site}

/-- What is left alone is spared. -/
theorem Untouched.spares (untouched : Untouched before after) : Spares names before after :=
  ⟨.of_zones untouched.zones, untouched.localFleet ▸ .refl _⟩

/-- Where only the cloud is culled the local fleet is spared, too. -/
theorem spares_of_culls (culls : Compute.Culls names before after) : Spares names before after :=
  ⟨culls.cloud, culls.localFleet ▸ .refl _⟩

/-- Telling something on the side leaves everything alone. -/
theorem untouched_tell (severity : Severity) (text : String) (site : Site) :
    Untouched site (Host.tell severity text site) := by
  change Untouched site (if severity.isTold site.logger.verbose then
    { site with log := site.log ++ [⟨severity, text⟩] } else site)
  split <;> exact ⟨rfl, rfl⟩

end Site

open Site (Spares sparing Untouched untouched)

/-- A provider that leaves the instances and the local fleet alone when it lists or deletes. -/
structure Bystander (provider : Provider Site) : Prop where
  list : untouched.Around provider.list
  delete : ∀ roster, untouched.Around (provider.delete roster)

/-- For a provider in memory to receive a request is to keep what is kept when calls are noted and
its own script is changed. -/
theorem Scripted.around_receive {frame : Frame Site} {name : String}
    (noted : ∀ event, frame.Around (Site.note event : Program Site Unit))
    (changed : ∀ change, frame.Around (Scripted.change name change : Program Site Unit))
    (request : Request) : frame.Around (Scripted.receive name request) := by
  unfold Scripted.receive
  -- A request is noted, the fault that is due is taken off the script, and then it is met.
  refine (noted _).bind fun _ => Frame.Around.reading fun site => ?_
  refine (changed _).bind fun _ => ?_
  split <;> exact frame.refl

/-- A provider in memory touches nothing but its own script. -/
theorem Scripted.bystander (name : String) : Bystander (Scripted.provider name) := by
  have changed (change : Script → Script) :
      untouched.Around (Scripted.change name change : Program Site Unit) :=
    fun _ => ⟨rfl, rfl⟩
  have noted (event : Event) : untouched.Around (Site.note event : Program Site Unit) :=
    fun _ => ⟨rfl, rfl⟩
  -- A request is noted and its script is changed, and nothing else is touched.
  have received := Scripted.around_receive noted changed
  constructor
  · exact (received .list).bind fun _ => untouched.refl
  · exact fun roster => (received (.delete roster.names)).bind fun _ => changed _

/-- A provider of a registry with the machine at hand and Compute Engine is one of the two, or it is
what everybody else is. -/
theorem cases_of_both {registry : SiteRegistry} {Other : Provider Site → Prop}
    (localHost : registry.get LocalFleet.providerName = .ok LocalHost.provider)
    (compute : registry.get Compute.providerName = .ok Compute.provider)
    (others : ∀ name provider, registry.get name = .ok provider → name ≠ LocalFleet.providerName →
      name ≠ Compute.providerName → Other provider)
    {name : String} {provider : Provider Site} (found : registry.get name = .ok provider) :
    provider = LocalHost.provider ∨ provider = Compute.provider ∨ Other provider := by
  -- The registry has one provider of each name.
  by_cases here : name = LocalFleet.providerName
  · rw [here, localHost] at found
    exact .inl (Except.ok.inj found).symm
  · by_cases there : name = Compute.providerName
    · rw [there, compute] at found
      exact .inr (.inl (Except.ok.inj found).symm)
    · exact .inr (.inr (others name provider found here there))

/-- The registry has the machine at hand and Compute Engine, and everybody else leaves both
alone. -/
structure HoldsBoth (registry : SiteRegistry) : Prop where
  localHost : registry.get LocalFleet.providerName = .ok LocalHost.provider
  compute : registry.get Compute.providerName = .ok Compute.provider
  others : ∀ name provider, registry.get name = .ok provider → name ≠ LocalFleet.providerName →
    name ≠ Compute.providerName → Bystander provider

namespace HoldsBoth

variable {registry : SiteRegistry} (holds : HoldsBoth registry)

include holds

/-- A provider of the registry is one of the two, or it leaves both alone. -/
theorem cases {name : String} {provider : Provider Site} (found : registry.get name = .ok provider) :
    provider = LocalHost.provider ∨ provider = Compute.provider ∨ Bystander provider :=
  cases_of_both holds.localHost holds.compute holds.others found

/-- To list takes nothing away. -/
theorem around_list (names : List String) {name : String} {provider : Provider Site}
    (found : registry.get name = .ok provider) : (sparing names).Around provider.list := by
  obtain rfl | rfl | bystander := holds.cases found
  · -- The machine at hand reads its own fleet, and changes nothing.
    exact (sparing names).refl
  · -- Compute Engine may look up its project, which is a setting and no instance.
    exact fun site => Site.spares_of_culls (Compute.list_culls names site)
  · -- Whoever else is registered has no part in the cloud or in the local fleet.
    exact fun site => (bystander.list site).spares

/-- To delete takes nothing away but what has the names. -/
theorem around_delete {names : List String} {roster : Roster} (named : ∀ vm ∈ roster, vm.name ∈ names)
    {name : String} {provider : Provider Site} (found : registry.get name = .ok provider) :
    (sparing names).Around (provider.delete roster) := by
  intro site
  obtain rfl | rfl | bystander := holds.cases found
  · -- Either all machines of the roster are removed, or none.
    by_cases host : LocalFleet.hostName ∈ roster.names
    · rw [LocalHost.on_delete_of_mem site host]
      exact (sparing names).refl site
    · rw [LocalHost.on_delete_of_not_mem site host]
      -- What is removed has the names that the roster has.
      have gone : roster.names ⊆ names := fun name member => by
        obtain ⟨vm, listed, rfl⟩ := List.mem_map.mp member
        exact named vm listed
      exact ⟨.of_zones rfl, .remove gone site.localFleet⟩
  · -- Compute Engine culls instances of the names alone, whether it comes to the end or not.
    obtain ⟨outcome, after, ran, culls, _⟩ := Compute.delete_culls named site
    change (sparing names).Kept site ((Compute.delete roster).on site).2
    rw [ran]
    exact Site.spares_of_culls culls
  · -- Whoever else is registered has no part in the cloud or in the local fleet.
    exact (bystander.delete roster site).spares

end HoldsBoth

namespace Command

variable {registry : SiteRegistry}

/-- Destroying takes nothing away but what has the names, however far it goes. -/
theorem around_destroy (holds : HoldsBoth registry) (names : List String) :
    (sparing names).Around (run registry (.destroy names)) :=
  Order.around_run .delete _ (fun _ _ _ => (Site.untouched_tell _ _ _).spares)
    (fun _ _ => holds.around_list names) fun _ _ found _ named => holds.around_delete named found

/-- On the way to a site the provider deleted a virtual machine along with others of the names, and
nothing came back after that. -/
def Deleted (provider : Provider Site) (names : List String) (vm : Vm) (site after : Site) : Prop :=
  ∃ before next share, vm ∈ share ∧ (∀ other ∈ share, other.name ∈ names) ∧
    Spares names site before ∧ (provider.delete share).on before = (.ok (), next) ∧
    Spares names next after

/-- When destroying answered, a provider listed with everything still there, and deleted whatever it
had listed as its own under one of the names. -/
theorem exists_deletion (holds : HoldsBoth registry) {names : List String} {site after : Site}
    {report : Report} (ran : (run registry (.destroy names)).on site = (.ok report, after))
    {name : String} {provider : Provider Site} (found : registry.get name = .ok provider) :
    ∃ first last roster, Spares [] site first ∧ provider.list.on first = (.ok roster, last) ∧
      ∀ vm ∈ roster, vm.provider = name → vm.name ∈ names → Deleted provider names vm site after :=
  Order.exists_carried .delete (sparing names) (fun _ _ _ => (Site.untouched_tell _ _ _).spares)
    (fun _ _ => holds.around_list names) (fun _ _ found _ named => holds.around_delete named found)
    (sparing []) (fun _ _ _ => (Site.untouched_tell _ _ _).spares) (fun _ _ => holds.around_list []) ran found

/-- When destroying answered, no instance has one of the names. -/
theorem not_mem_of_mem_listing (holds : HoldsBoth registry) {names : List String} {site after : Site}
    {report : Report} (well : site.cloud.WellZoned)
    (ran : (run registry (.destroy names)).on site = (.ok report, after)) :
    ∀ entry ∈ after.cloud.listing, entry.2.name ∉ names := by
  rintro ⟨zone, machine⟩ entry asked
  have spares := (around_destroy holds names).kept ran
  -- It was there from the beginning, and so Compute Engine listed it.
  obtain ⟨first, last, roster, still, answered, deletions⟩ := exists_deletion holds ran holds.compute
  have same : first.cloud.listing = site.cloud.listing := by
    simpa using still.cloud.filter_listing
  obtain ⟨project, _, _, described, _⟩ := Compute.exists_of_list answered
  obtain ⟨vm, member, shown⟩ := exists_of_mem_forall₂ described
    (same ▸ spares.cloud.listing_sublist.subset entry)
  obtain ⟨_, _, name, place, own, _⟩ := Compute.exists_of_toVm shown
  -- It was deleted then, and what is deleted is not found any more.
  obtain ⟨before, next, share, shared, named, earlier, deleted, onward⟩ :=
    deletions vm member own (name ▸ asked)
  obtain ⟨outcome, _, same, _, gone⟩ := Compute.delete_culls named before
  cases deleted.symm.trans same
  have missing := onward.cloud.find?_eq_none (gone rfl (earlier.cloud.wellZoned well) vm shared)
  rw [place, name, ((spares.cloud.wellZoned well).mem_listing_iff.mp entry).2] at missing
  cases missing

/-- When destroying answered, no local machine has one of the names. -/
theorem not_mem_of_mem_list (holds : HoldsBoth registry) {names : List String} {site after : Site}
    {report : Report} (sound : site.localFleet.Sound)
    (ran : (run registry (.destroy names)).on site = (.ok report, after)) :
    ∀ vm ∈ after.localFleet.list, vm.name ∉ names := by
  intro vm listed asked
  have spares := (around_destroy holds names).kept ran
  -- It was there from the beginning, and so the machine at hand listed it.
  obtain ⟨first, last, roster, still, answered, deletions⟩ := exists_deletion holds ran holds.localHost
  rw [LocalHost.on_list] at answered
  cases answered
  have member : vm ∈ first.localFleet.list :=
    still.localFleet.list_eq ▸ spares.localFleet.list_sublist.subset listed
  have own := (still.localFleet.sound sound).provider_of_mem_list member
  -- It was deleted then, so it is not the machine at hand, and what is deleted is kept no more.
  obtain ⟨before, next, share, shared, _, _, deleted, onward⟩ := deletions vm member own asked
  have named : vm.name ∈ share.names := List.mem_map_of_mem shared
  -- With the machine at hand in its share the deletion would have failed.
  by_cases host : LocalFleet.hostName ∈ share.names
  · rw [LocalHost.on_delete_of_mem before host] at deleted
    cases deleted
  · rw [LocalHost.on_delete_of_not_mem before host] at deleted
    cases deleted
    have kept := spares.localFleet.sound sound
    -- The machine at hand was not in the share, and any other was removed under its name.
    rcases List.mem_cons.mp listed with rfl | created
    · exact host (kept.hostName ▸ named)
    · obtain ⟨entry, held, rfl⟩ := List.mem_map.mp created
      have left := onward.localFleet.left.subset held
      rw [LocalFleet.entries_remove, List.mem_filter, (kept.created entry held).1.symm] at left
      simp [named] at left

/-- Whatever becomes of destroying the virtual machines of some names, every instance and every
local machine of another name is there as it was and in its order, nothing new is there, and the
machine at hand is still listed. If it answers, no instance and no local machine has one of the
names. -/
theorem destroy_spares (holds : HoldsBoth registry) (names : List String) {site : Site}
    (sound : site.localFleet.Sound) (well : site.cloud.WellZoned) :
    ∃ outcome after, (run registry (.destroy names)).on site = (outcome, after) ∧
      (after.cloud.zones.keys = site.cloud.zones.keys ∧
        after.cloud.listing.Sublist site.cloud.listing ∧
        after.cloud.listing.filter (fun entry => entry.2.name ∉ names) =
          site.cloud.listing.filter fun entry => entry.2.name ∉ names) ∧
      (∃ others : Roster,
        LocalHost.provider.list.on after = (.ok (site.localFleet.host :: others), after) ∧
        others.Sublist site.localFleet.created.values ∧
        without names others = without names site.localFleet.created.values) ∧
      ∀ report, outcome = .ok report →
        (∀ entry ∈ after.cloud.listing, entry.2.name ∉ names) ∧
        ∀ vm ∈ after.localFleet.list, vm.name ∉ names := by
  -- Whatever the providers do on the way spares other names, so the whole run does.
  have spares := around_destroy holds names site
  rcases ran : (run registry (.destroy names)).on site with ⟨outcome, after⟩
  rw [ran] at spares
  refine ⟨outcome, after, rfl, ⟨spares.cloud.keys, spares.cloud.listing_sublist,
    spares.cloud.filter_listing⟩, ⟨after.localFleet.created.values, ?_, spares.localFleet.left.map _,
    spares.localFleet.without_values sound⟩, ?_⟩
  · -- The machine at hand is never removed from its own listing.
    rw [LocalHost.on_list, spares.localFleet.host]
  · -- With an answer all deletions were carried out to the end, in the cloud and here.
    rintro report rfl
    exact ⟨not_mem_of_mem_listing holds well ran, not_mem_of_mem_list holds sound ran⟩

/-- The machine at hand, Compute Engine and a provider in memory. -/
def threeProviders : SiteRegistry :=
  Registry.ofList [LocalHost.provider, Compute.provider, Scripted.provider "lab"]

/-- Of the three any but the first two is the one in memory. -/
theorem eq_of_threeProviders {name : String} {provider : Provider Site}
    (found : threeProviders.get name = .ok provider) (notLocal : name ≠ LocalFleet.providerName)
    (notCompute : name ≠ Compute.providerName) : provider = Scripted.provider "lab" := by
  simp only [threeProviders, Registry.ofList, List.foldl_cons, List.foldl_nil,
    Registry.get_register] at found
  -- The one that was registered last is looked at first.
  split at found
  · exact (Except.ok.inj found).symm
  · split at found
    · next same => exact absurd same notCompute
    · split at found
      · -- The name that is left is that of none of the three.
        next same => exact absurd same notLocal
      · cases found

/-- Of the three the one in memory leaves the other two alone. -/
theorem holdsBoth_threeProviders : HoldsBoth threeProviders :=
  ⟨rfl, rfl, fun name provider found notLocal notCompute => by
    obtain rfl := eq_of_threeProviders found notLocal notCompute
    exact Scripted.bystander "lab"⟩

/-- An instance with half a day to live. -/
def plainInstance (name : String) : Compute.Instance where
  name := name
  created := "1970-01-01T00:00:00Z"
  labels := .ofList [(Compute.lifetimeLabel, "12h")]
  fingerprint := ""
  interfaces := []

/-- A site with two instances in one zone and two local machines, one of them of an instance's
name. -/
def busySite : Site :=
  { Compute.quietSite with
    cloud := {
      zones := .ofList
        [(Compute.Cloud.zoneKey "us-east1-b", [plainInstance "web", plainInstance "db"])]
      faults := .empty }
    localFleet :=
      Compute.quietSite.localFleet.create Compute.firstNoon "here" ["api", "web"] .twelveHours }

/-- The zone of the busy site has no slash, and its instances have names of their own. -/
theorem wellZoned_busySite : busySite.cloud.WellZoned := by
  -- There is one zone, and the names of its two instances differ.
  refine ⟨fun key member => ⟨"us-east1-b", by decide, List.mem_singleton.mp member⟩, fun key => ?_⟩
  rw [Compute.Cloud.under, busySite, OrderedMap.ofList, List.foldl_cons, List.foldl_nil,
    OrderedMap.get?_insert]
  split
  · decide
  · exact .nil

/-- On the busy site an instance and a local machine of one name are destroyed, and the others
stay. -/
theorem destroy_spares_busySite :
    HoldsBoth threeProviders ∧ busySite.localFleet.Sound ∧ busySite.cloud.WellZoned ∧
      ∃ report after, (run threeProviders (.destroy ["web"])).on busySite = (.ok report, after) ∧
        after.cloud.listing.filter (fun entry => entry.2.name ∉ ["web"]) =
          busySite.cloud.listing.filter (fun entry => entry.2.name ∉ ["web"]) ∧
        (∀ entry ∈ after.cloud.listing, entry.2.name ∉ ["web"]) ∧
        ∀ vm ∈ after.localFleet.list, vm.name ∉ ["web"] := by
  have sound : busySite.localFleet.Sound := ⟨rfl, rfl, by decide +kernel⟩
  refine ⟨holdsBoth_threeProviders, sound, wellZoned_busySite, ?_⟩
  have ends : ((run threeProviders (.destroy ["web"])).on busySite).1.isOk = true := by
    -- Sorting by insertion is what can be carried out here.
    simp only [run, runDestroy, select, listAll, missingNames, Roster.sortByName_eq_insertionSort,
      List.mergeSort_eq_insertionSort]
    decide +kernel
  -- An answer leaves a report and a site to tell of.
  obtain ⟨report, after, ran⟩ := Program.exists_of_isOk ends
  obtain ⟨outcome, _, same, ⟨_, _, others⟩, _, gone⟩ :=
    destroy_spares holdsBoth_threeProviders ["web"] sound wellZoned_busySite
  -- The theorem tells of the same run.
  cases ran.symm.trans same
  exact ⟨report, after, ran, others, gone report rfl⟩

end Command

end Fleet
