import Fleet.Proofs.Carried
import Fleet.Proofs.Compute.Description
import Fleet.Proofs.Compute.Renewal
import Fleet.Proofs.Destroy
import Fleet.Proofs.LocalHistory

/-! Extending virtual machines: when it answers, those of the names are listed with the lifetime,
but for the machine at hand, and all others are listed as before. -/

namespace Fleet

open Program
open LocalFleet (lasting renewed)

namespace LocalFleet

/-- Under its name a machine is as it was, or it has one of the names and its lifetime was set. -/
def Touched (names : List String) (lifetime : Option Duration) : String × Vm → String × Vm → Prop
  | (name, vm), (other, later) =>
    other = name ∧ (later = vm ∨ name ∈ names ∧ later = lasting lifetime vm)

/-- From one local fleet to another only machines of the names have their lifetime set: the machine
at hand is as it was, and the others stay under their names and in their order. -/
structure Renews (names : List String) (lifetime : Option Duration) (before after : LocalFleet) :
    Prop where
  host : after.host = before.host
  each : List.Forall₂ (Touched names lifetime) before.created.entries after.created.entries

namespace Renews

variable {names : List String} {lifetime : Option Duration} {first second third : LocalFleet}

/-- Where nothing is done no lifetime is set. -/
theorem refl (fleet : LocalFleet) : Renews names lifetime fleet fleet :=
  ⟨rfl, List.forall₂_same.mpr fun _ _ => ⟨rfl, .inl rfl⟩⟩

/-- A lifetime that is set later is set, too. -/
theorem trans (one : Renews names lifetime first second) (other : Renews names lifetime second third) :
    Renews names lifetime first third := by
  refine ⟨other.host.trans one.host, forall₂_trans ?_ one.each other.each⟩
  -- A lifetime that is set twice is set.
  rintro ⟨name, vm⟩ ⟨_, _⟩ ⟨_, _⟩ ⟨rfl, rfl | ⟨named, rfl⟩⟩ ⟨rfl, same⟩
  · exact ⟨rfl, same⟩
  · obtain rfl | ⟨_, rfl⟩ := same <;> exact ⟨rfl, .inr ⟨named, rfl⟩⟩

/-- To extend machines of some of the names is to set no other lifetime. -/
theorem extend {roster : Roster} (named : ∀ vm ∈ roster, vm.name ∈ names) (fleet : LocalFleet) :
    Renews names lifetime fleet (fleet.extend roster lifetime) := by
  refine ⟨rfl, ?_⟩
  -- Each machine is looked at on its own: it is one of the roster, or it is left alone.
  rw [entries_extend, List.forall₂_map_right_iff]
  refine List.forall₂_same.mpr fun entry _ => ?_
  split
  · next member =>
    obtain ⟨vm, listed, same⟩ := List.mem_map.mp member
    exact ⟨rfl, .inr ⟨same ▸ named vm listed, rfl⟩⟩
  · exact ⟨rfl, .inl rfl⟩

/-- Machines are kept under their names as before. -/
theorem sound (renews : Renews names lifetime first second) (sound : first.Sound) : second.Sound := by
  refine ⟨renews.host ▸ sound.hostName, renews.host ▸ sound.hostProvider, ?_⟩
  -- A lifetime that is set leaves name and provider of a machine as they are.
  rintro ⟨name, later⟩ member
  obtain ⟨⟨_, vm⟩, held, rfl, rfl | ⟨_, rfl⟩⟩ := exists_of_mem_forall₂ renews.each.flip member
  · exact sound.created _ held
  · exact sound.created (name, vm) held

/-- When all machines of the names have the lifetime in the end, they are as they were but for
that. -/
theorem values_eq {lifetime : Duration} (renews : Renews names (some lifetime) first second)
    (sound : first.Sound)
    (set : ∀ entry ∈ second.created.entries, entry.1 ∈ names → entry.2.lifetime = some lifetime) :
    second.created.values = renewed names (some lifetime) first.created.values := by
  -- Machine by machine the two lists of values are compared, as neither order nor number changes.
  rw [OrderedMap.values, OrderedMap.values, LocalFleet.renewed, List.map_map, ← List.forall₂_eq_eq_eq,
    List.forall₂_map_left_iff, List.forall₂_map_right_iff]
  -- A machine is kept under its name, and its name stays.
  refine ((List.forall₂_and_left _ _).mpr ⟨fun _ => id, renews.each.flip⟩).imp ?_
  rintro ⟨name, later⟩ ⟨_, vm⟩ ⟨member, rfl, kept⟩
  -- The name under which a machine is kept is its own.
  have own : later.name = name := ((renews.sound sound).created _ member).1
  -- A machine was left as it was, or renewed.
  obtain rfl | ⟨named, rfl⟩ := kept
  · rw [Function.comp_apply]
    split
    · -- It is as it was, and has the lifetime, so it had the lifetime before.
      next asked =>
      -- Its name is one of those that all machines of have the lifetime now.
      have given : later.lifetime = some lifetime := set _ member (own ▸ asked)
      rw [lasting, ← given]
    · rfl
  · -- It was renewed, so its name is one of those to be renewed.
    rw [Function.comp_apply, if_pos (show vm.name ∈ names from (own : vm.name = _) ▸ named)]

end Renews

end LocalFleet

namespace Site

/-- From one site to another only what has one of the names is renewed, in the cloud and on the
machine at hand, and the same project is found. -/
structure Renews (names : List String) (lifetime : Duration) (before after : Site) : Prop where
  cloud : Compute.Cloud.Renews names lifetime.text before.cloud after.cloud
  localFleet : LocalFleet.Renews names (some lifetime) before.localFleet after.localFleet
  project : (Compute.project.on after).1 = (Compute.project.on before).1

/-- All but what has the names is kept. -/
def renewing (names : List String) (lifetime : Duration) : Frame Site where
  Kept := Renews names lifetime
  refl site := ⟨.of_zones rfl, .refl site.localFleet, rfl⟩
  trans one other := ⟨one.cloud.trans other.cloud, one.localFleet.trans other.localFleet,
    other.project.trans one.project⟩

variable {names : List String} {lifetime : Duration} {before after : Site}

/-- Where only instances are renewed the local fleet is left alone. -/
theorem Renews.of_updates (updates : Compute.Updates names lifetime.text before after) :
    Renews names lifetime before after :=
  ⟨updates.cloud, updates.localFleet ▸ .refl _, updates.project⟩

/-- What is left alone is not renewed. -/
theorem Still.renews (still : Still before after) : Renews names lifetime before after :=
  .of_updates (.of_still still)

end Site

open Site (Still still Renews renewing)

/-- A provider that leaves the instances, the local fleet and the project alone when it lists or
extends. -/
structure Idler (provider : Provider Site) : Prop where
  list : still.Around provider.list
  extend : ∀ roster lifetime, still.Around (provider.extend roster lifetime)

/-- A provider in memory has its own machines only. -/
theorem Scripted.idler (name : String) : Idler (Scripted.provider name) := by
  have changed (change : Script → Script) :
      still.Around (Scripted.change name change : Program Site Unit) :=
    fun _ => ⟨rfl, rfl, Compute.project_of_settings rfl rfl⟩
  have noted (event : Event) : still.Around (Site.note event : Program Site Unit) :=
    fun site => (Site.note_calls event site).still
  -- Whatever else it does, it does after it received the request.
  have received := Scripted.around_receive noted changed
  constructor
  · exact (received .list).bind fun _ => still.refl
  · exact fun roster lifetime => (received (.extend roster.names lifetime)).bind fun _ => changed _

/-- The registry has the machine at hand and Compute Engine, and everybody else is idle towards
both. -/
structure HasBoth (registry : SiteRegistry) : Prop where
  localHost : registry.get LocalFleet.providerName = .ok LocalHost.provider
  compute : registry.get Compute.providerName = .ok Compute.provider
  others : ∀ name provider, registry.get name = .ok provider → name ≠ LocalFleet.providerName →
    name ≠ Compute.providerName → Idler provider

namespace HasBoth

variable {registry : SiteRegistry} (has : HasBoth registry)

include has

/-- A provider of the registry is one of the two, or it is idle. -/
theorem cases {name : String} {provider : Provider Site} (found : registry.get name = .ok provider) :
    provider = LocalHost.provider ∨ provider = Compute.provider ∨ Idler provider :=
  cases_of_both has.localHost has.compute has.others found

/-- To list changes nothing. -/
theorem around_list {name : String} {provider : Provider Site}
    (found : registry.get name = .ok provider) : still.Around provider.list := by
  -- The three kinds of providers read different parts of the site, and none of them changes any.
  obtain rfl | rfl | idler := has.cases found
  · exact still.refl
  · exact Compute.still_list
  · exact idler.list

/-- To extend renews nothing but what has the names. -/
theorem around_extend {names : List String} {roster : Roster} (named : ∀ vm ∈ roster, vm.name ∈ names)
    (lifetime : Duration) {name : String} {provider : Provider Site}
    (found : registry.get name = .ok provider) :
    (renewing names lifetime).Around (provider.extend roster lifetime) := by
  obtain rfl | rfl | idler := has.cases found
  · -- The machine at hand has its own fleet, and neither cloud nor settings.
    intro site
    exact ⟨.of_zones rfl, .extend named site.localFleet, Compute.project_of_settings rfl rfl⟩
  · -- Compute Engine updates the labels of instances of the names, and leaves all others.
    exact fun site => .of_updates (Compute.updating_extend named lifetime site)
  · -- Whoever else is registered has no part in the cloud or in the local fleet.
    exact fun site => (idler.extend roster lifetime site).renews

end HasBoth

namespace Compute

/-- What Compute Engine lists at a site: the instances of its project as they are described. Once
the cloud answers they are listed, and nothing else ever is. -/
structure Offers (site : Site) (roster : Roster) : Prop where
  shown : ∃ found, (project.on site).1 = .ok found ∧
    List.Forall₂ (fun entry vm => toVm found entry.1 entry.2 = .ok vm) site.cloud.listing roster
  answers : ∀ found resolved response asked, project.on site = (.ok found, resolved) →
    (Client.persistently (Client.list found)).on resolved = (.ok response, asked) →
    list.on site = (.ok roster, asked)
  only : ∀ listed last, list.on site = (.ok listed, last) → listed = roster

/-- To know how the instances of the project are described is to know what is listed. -/
theorem Offers.of_described {site : Site} {found : String} {roster : Roster}
    (known : (project.on site).1 = .ok found)
    (described : List.Forall₂ (fun entry vm => toVm found entry.1 entry.2 = .ok vm) site.cloud.listing
      roster) : Offers site roster := by
  -- All instances of the listing are described without a failure.
  have all : (site.cloud.listing.mapM fun entry => toVm found entry.1 entry.2) = .ok roster :=
    mapM_eq_ok_iff.mpr described
  refine ⟨⟨found, known, described⟩, fun again resolved response asked resolves responds => ?_,
    fun listed last ran => ?_⟩
  · -- Once the cloud has answered nothing is left to fail.
    obtain rfl : again = found := by
      rw [resolves] at known
      exact Except.ok.inj known
    obtain ⟨rfl, listed⟩ := list_of_response resolves responds
    rw [listed, all]
  · -- What was listed was described the same way.
    obtain ⟨again, _, resolves, others, _⟩ := exists_of_list ran
    obtain rfl : again = found := by
      rw [resolves] at known
      exact Except.ok.inj known
    exact Except.ok.inj ((mapM_eq_ok_iff.mpr others).symm.trans all)

end Compute

namespace Command

variable {registry : SiteRegistry} {names : List String} {lifetime : Duration} {site after : Site}
  {report : Report}

/-- Extending renews nothing but what has the names, however far it goes. -/
theorem around_extend (has : HasBoth registry) (names : List String) (lifetime : Duration) :
    (renewing names lifetime).Around (run registry (.extend names (some lifetime))) :=
  Order.around_run (.extend (some lifetime)) _ (fun _ _ _ => (Site.still_tell _ _ _).renews)
    (fun _ _ found site => (has.around_list found site).renews)
    fun _ _ found _ named => has.around_extend named lifetime found

/-- On the way to a site the provider extended a virtual machine along with others of the names. -/
def Extended (provider : Provider Site) (names : List String) (lifetime : Duration) (vm : Vm)
    (site after : Site) : Prop :=
  ∃ before next share, vm ∈ share ∧ (∀ other ∈ share, other.name ∈ names) ∧
    Renews names lifetime site before ∧ (provider.extend share lifetime).on before = (.ok (), next) ∧
    Renews names lifetime next after

/-- When extending answered, a provider listed with everything as it was, and extended whatever it
had listed as its own under one of the names. -/
theorem exists_extension (has : HasBoth registry)
    (ran : (run registry (.extend names (some lifetime))).on site = (.ok report, after))
    {name : String} {provider : Provider Site} (found : registry.get name = .ok provider) :
    ∃ first last roster, Still site first ∧ provider.list.on first = (.ok roster, last) ∧
      ∀ vm ∈ roster, vm.provider = name → vm.name ∈ names →
        Extended provider names lifetime vm site after :=
  -- What every provider does on the way keeps other names as they were, and what comes before keeps all.
  Order.exists_carried (.extend (some lifetime)) (renewing names lifetime)
    (fun _ _ _ => (Site.still_tell _ _ _).renews)
    (fun _ _ found site => (has.around_list found site).renews)
    (fun _ _ found _ named => has.around_extend named lifetime found) still
    (fun _ _ _ => Site.still_tell _ _ _) (fun _ _ => has.around_list) ran found

/-- When extending answered, every instance of the names tells the lifetime. -/
theorem label_of_mem_listing (has : HasBoth registry) (well : site.cloud.WellZoned)
    (ran : (run registry (.extend names (some lifetime))).on site = (.ok report, after)) :
    ∀ entry ∈ after.cloud.listing, entry.2.name ∈ names →
      entry.2.labels.get? Compute.lifetimeLabel = some lifetime.text := by
  rintro ⟨zone, machine⟩ entry asked
  -- However the run came to its end, it has renewed nothing but instances of the names.
  have renews := (around_extend has names lifetime).kept ran
  obtain ⟨free, held⟩ := (renews.cloud.wellZoned well).mem_listing_iff.mp entry
  -- It was there from the beginning, and so Compute Engine listed it.
  obtain ⟨earlier, was, name⟩ : ∃ earlier, site.cloud.find? zone machine.name = some earlier ∧
      machine.name = earlier.name := by
    -- An instance stands under the same name and in the same zone before and after.
    have both := renews.cloud.find? zone machine.name
    rw [held] at both
    cases found : site.cloud.find? zone machine.name with
    | none => rw [found] at both; cases both
    | some earlier =>
      rw [found] at both
      cases both with
      | some becomes => exact ⟨earlier, rfl, becomes.name⟩
  -- The provider listed it while all was still as it was.
  obtain ⟨first, last, roster, still, answered, extensions⟩ := exists_extension has ran has.compute
  obtain ⟨project, _, _, described, _⟩ := Compute.exists_of_list answered
  have there : (zone, earlier) ∈ first.cloud.listing := by
    rw [Compute.Cloud.listing_of_zones still.zones]
    exact well.mem_listing_iff.mpr ⟨free, name ▸ was⟩
  obtain ⟨vm, member, shown⟩ := exists_of_mem_forall₂ described there
  obtain ⟨_, _, called, place, own, _⟩ := Compute.exists_of_toVm shown
  -- It was extended then, and what tells the lifetime goes on doing so.
  obtain ⟨before, next, share, shared, _, early, extended, onward⟩ :=
    extensions vm member own (by rw [called, ← name]; exact asked)
  -- Extending what was selected begins with the project, and then goes on to each instance.
  obtain ⟨_, _, resolves, extended⟩ := Program.bind_ok extended
  obtain ⟨_, _, each⟩ := Compute.exists_of_extensions extended
    ((early.cloud.wellZoned well).of_zones (Compute.project_resolves resolves).zones)
  obtain ⟨_, renewed, _, is, changed⟩ := each vm shared
  -- What is there in the end has become so from what was renewed.
  have both := onward.cloud.find? vm.zone vm.name
  rw [is, place, called, ← name, held] at both
  cases both with
  | some becomes => exact becomes.label changed.label

/-- When extending answered, every local machine of the names has the lifetime. -/
theorem lifetime_of_mem_entries (has : HasBoth registry) (sound : site.localFleet.Sound)
    (ran : (run registry (.extend names (some lifetime))).on site = (.ok report, after)) :
    ∀ entry ∈ after.localFleet.created.entries, entry.1 ∈ names →
      entry.2.lifetime = some lifetime := by
  rintro ⟨name, later⟩ entry asked
  -- However the run came to its end, it has renewed nothing but machines of the names.
  have renews := (around_extend has names lifetime).kept ran
  -- It was there from the beginning, and so the machine at hand listed it.
  obtain ⟨⟨_, vm⟩, held, rfl, _⟩ := exists_of_mem_forall₂ renews.localFleet.each.flip entry
  obtain ⟨called, own⟩ := sound.created _ held
  obtain ⟨first, last, roster, still, answered, extensions⟩ := exists_extension has ran has.localHost
  -- The machine at hand listed its own fleet as it was then.
  rw [LocalHost.on_list] at answered
  cases answered
  have listed : vm ∈ first.localFleet.host :: first.localFleet.created.values := by
    rw [still.localFleet]
    exact List.mem_cons_of_mem _ (List.mem_map_of_mem (f := Prod.snd) held)
  -- It was extended then, and a lifetime that is set stays.
  obtain ⟨before, next, share, shared, _, _, extended, onward⟩ :=
    extensions vm listed own (called ▸ asked)
  obtain ⟨⟨_, between⟩, kept, rfl, unchanged⟩ := exists_of_mem_forall₂ onward.localFleet.each.flip entry
  cases extended.symm.trans (LocalHost.on_extend share (some lifetime) before)
  -- The extension gave the lifetime to each machine of its share, and this is one of them.
  have set : between.lifetime = some lifetime := by
    rw [LocalFleet.entries_extend] at kept
    obtain ⟨⟨key, earlier⟩, _, is⟩ := List.mem_map.mp kept
    split at is
    · cases is
      rfl
    · next free =>
      cases is
      exact absurd (List.mem_map.mpr ⟨vm, shared, called⟩) free
  -- After that it was left alone or renewed again, which gives it the same lifetime.
  obtain rfl | ⟨_, rfl⟩ := unchanged
  · exact set
  · rfl

/-- When extending answered, Compute Engine offers what it did before, but with the lifetime where
the names are, and all that it offered under one of the names was selected. -/
theorem exists_offers (has : HasBoth registry) (well : site.cloud.WellZoned) {written : String}
    (read : Duration.parse written = .ok lifetime)
    (ran : (run registry (.extend names (some lifetime))).on site = (.ok report, after))
    {selected : Roster} {middle : Site}
    (selecting : (select registry names).on site = (.ok selected, middle)) :
    ∃ roster, Compute.Offers site roster ∧ (∀ vm ∈ roster, vm.name ∈ names → vm ∈ selected) ∧
      Compute.Offers after (roster.map fun vm =>
        if vm.name ∈ names then vm.extended lifetime else vm) := by
  -- However the run came to its end, it has renewed nothing but what has the names.
  have renews := (around_extend has names lifetime).kept ran
  -- On the way all was still as it was when Compute Engine described its instances.
  obtain ⟨first, last, roster, still, answered, among⟩ := exists_listing_of_select
    (fun _ _ _ => Site.still_tell _ _ _) (fun _ _ => has.around_list) selecting has.compute
  obtain ⟨found, resolved, resolves, described, _⟩ := Compute.exists_of_list answered
  -- The project is the same however often it is looked up.
  have known : (Compute.project.on site).1 = .ok found := by rw [← still.project, resolves]
  rw [Compute.Cloud.listing_of_zones still.zones] at described
  refine ⟨roster, .of_described known described, among,
    .of_described (renews.project.trans known) ?_⟩
  rw [List.forall₂_map_right_iff]
  -- Each instance there is now was one before, and that one was described.
  refine forall₂_trans ?_
    ((List.forall₂_and_left _ _).mpr ⟨fun _ => id, renews.cloud.listing.flip⟩) described
  rintro ⟨_, later⟩ ⟨zone, machine⟩ vm ⟨member, rfl, becomes⟩ shown
  obtain ⟨_, _, called, _⟩ := Compute.exists_of_toVm shown
  have kept := becomes.name
  split
  · -- Its label tells the lifetime, and what a lifetime is written as reads as that lifetime.
    next asked =>
    have told := label_of_mem_listing has well ran _ member (by rw [kept, ← called]; exact asked)
    exact becomes.toVm_of_label told (Duration.parse_text read) shown
  · -- Only instances of the names are renewed.
    next free =>
    obtain rfl | ⟨named, _⟩ := becomes
    · exact shown
    · exact absurd (called ▸ named) free

/-- When extending the virtual machines of some names answered, what was selected is counted, and
under the names that is all that Compute Engine and the machine at hand listed before. Compute
Engine goes on listing the same, but with the lifetime where the names are. The machine at hand goes
on listing itself as it was, whether or not it was named, and its other machines as they were, but
with the lifetime where the names are. -/
theorem extend_renews (has : HasBoth registry) {written : String}
    (read : Duration.parse written = .ok lifetime) (sound : site.localFleet.Sound)
    (well : site.cloud.WellZoned)
    (ran : (run registry (.extend names (some lifetime))).on site = (.ok report, after)) :
    ∃ selected middle roster, (select registry names).on site = (.ok selected, middle) ∧
      report = success s!"Extended {selected.length} VMs to {lifetime.text}." ∧
      (∀ vm ∈ site.localFleet.list ++ roster, vm.name ∈ names → vm ∈ selected) ∧
      Compute.Offers site roster ∧
      Compute.Offers after (roster.map fun vm =>
        if vm.name ∈ names then vm.extended lifetime else vm) ∧
      LocalHost.provider.list.on after = (.ok (site.localFleet.host ::
        renewed names (some lifetime) site.localFleet.created.values), after) := by
  -- However the run came to its end, it has renewed nothing but what has the names.
  have renews := (around_extend has names lifetime).kept ran
  -- An answer means that the selection answered, and that it is counted in the report.
  obtain ⟨selected, middle, _, selecting, _, shown⟩ :=
    Order.exists_selection (.extend (some lifetime)) ran
  obtain ⟨roster, offered, among, offers⟩ := exists_offers has well read ran selecting
  refine ⟨selected, middle, roster, selecting, (Except.ok.inj shown).symm, ?_, offered, offers, ?_⟩
  · -- Both were listed on the way to the selection, with everything as it was.
    intro vm listed asked
    rcases List.mem_append.mp listed with here | there
    · obtain ⟨first, last, machines, still, answered, own⟩ := exists_listing_of_select
        (fun _ _ _ => Site.still_tell _ _ _) (fun _ _ => has.around_list) selecting has.localHost
      rw [LocalHost.on_list, still.localFleet] at answered
      cases answered
      exact own vm here asked
    · exact among vm there asked
  · -- The machine at hand lists itself as it was, and all others with the lifetime they have got.
    rw [LocalHost.on_list, renews.localFleet.host,
      renews.localFleet.values_eq sound (lifetime_of_mem_entries has sound ran)]

/-- Of the three the one in memory is idle towards the other two. -/
theorem hasBoth_threeProviders : HasBoth threeProviders :=
  ⟨rfl, rfl, fun name provider found notLocal notCompute => by
    obtain rfl := eq_of_threeProviders found notLocal notCompute
    exact Scripted.idler "lab"⟩

/-- A minute of time. -/
def oneMinute : Duration := ⟨60000000, by decide, by decide⟩

/-- On the busy site an instance and a local machine of one name are extended, and the others are
listed as before. -/
theorem extend_renews_busySite :
    HasBoth threeProviders ∧ Duration.parse "1m" = .ok oneMinute ∧ busySite.localFleet.Sound ∧
      busySite.cloud.WellZoned ∧
      ∃ report after roster,
        (run threeProviders (.extend ["web"] (some oneMinute))).on busySite = (.ok report, after) ∧
        Compute.Offers busySite roster ∧
        Compute.Offers after (roster.map fun vm =>
          if vm.name ∈ ["web"] then vm.extended oneMinute else vm) ∧
        LocalHost.provider.list.on after = (.ok (busySite.localFleet.host ::
          renewed ["web"] (some oneMinute) busySite.localFleet.created.values), after) := by
  have read : Duration.parse "1m" = .ok oneMinute := by decide +kernel
  have sound : busySite.localFleet.Sound := ⟨rfl, rfl, by decide +kernel⟩
  have ends : ((run threeProviders (.extend ["web"] (some oneMinute))).on busySite).1.isOk = true := by
    -- Sorting by insertion is what can be carried out here.
    simp only [run, runExtend, select, listAll, missingNames, Roster.sortByName_eq_insertionSort,
      List.mergeSort_eq_insertionSort]
    decide +kernel
  -- An answer leaves a report and a site to tell of.
  obtain ⟨report, after, ran⟩ := Program.exists_of_isOk ends
  obtain ⟨_, _, roster, _, _, _, offered, offers, listed⟩ :=
    extend_renews hasBoth_threeProviders read sound wellZoned_busySite ran
  exact ⟨hasBoth_threeProviders, read, sound, wellZoned_busySite, report, after, roster, ran, offered,
    offers, listed⟩

/-- The machine at hand is selected by its name, its extension is told, and it is listed as without
a lifetime all the same. -/
theorem not_extended_host :
    HasBoth threeProviders ∧ Duration.parse "1m" = .ok oneMinute ∧ busySite.cloud.WellZoned ∧
      ∃ after, (run threeProviders (.extend [LocalFleet.hostName] (some oneMinute))).on busySite =
          (.ok (success "Extended 1 VMs to 0h1m0s."), after) ∧
        ∃ host ∈ after.localFleet.list, host.name = LocalFleet.hostName ∧ host.lifetime = some .zero ∧
          host.lifetime ≠ some oneMinute := by
  -- The whole command is run for its answer, but that the machine at hand stays holds of every run.
  have answers : ((run threeProviders (.extend [LocalFleet.hostName] (some oneMinute))).on busySite).1 =
      .ok (success "Extended 1 VMs to 0h1m0s.") := by
    simp only [run, runExtend, select, listAll, missingNames, Roster.sortByName_eq_insertionSort,
      List.mergeSort_eq_insertionSort]
    decide +kernel
  -- That host is never renewed is known without carrying anything out.
  have host := (around_extend hasBoth_threeProviders [LocalFleet.hostName] oneMinute busySite).localFleet.host
  refine ⟨hasBoth_threeProviders, by decide +kernel, wellZoned_busySite, _, Prod.ext answers rfl, _,
    List.mem_cons_self, ?_⟩
  rw [host]
  exact ⟨rfl, rfl, by decide⟩

end Command

end Fleet
