import Fleet.Proofs.Compute.Lifetime
import Fleet.Proofs.Compute.Removal
import Fleet.Proofs.Frame

/-! Renewal in Compute Engine: setting lifetimes changes no instance of another name, and in those
of the names nothing but the label for it and the fingerprint. -/

namespace Fleet

/-- Rows that are related item by item to one in between are related to each other. -/
theorem forall₂_trans {α β γ : Type} {one : α → β → Prop} {other : β → γ → Prop} {both : α → γ → Prop}
    (composed : ∀ {item between answer}, one item between → other between answer → both item answer)
    {items : List α} {betweens : List β} {answers : List γ} (early : List.Forall₂ one items betweens)
    (later : List.Forall₂ other betweens answers) : List.Forall₂ both items answers := by
  -- The row in between tells how far to go in the other one.
  induction early generalizing answers with
  | nil =>
    cases later
    exact .nil
  | cons first _ ih =>
    obtain ⟨_, _, second, rest, rfl⟩ := List.forall₂_cons_left_iff.mp later
    exact .cons (composed first second) (ih rest)

/-- What is looked for in two rows that are related item by item is found in both or in neither. -/
theorem rel_find? {α β : Type} {related : α → β → Prop} {first : α → Bool} {second : β → Bool}
    (alike : ∀ {item answer}, related item answer → first item = second answer) {items : List α}
    {answers : List β} (all : List.Forall₂ related items answers) :
    Option.Rel related (items.find? first) (answers.find? second) := by
  induction all with
  | nil => exact .none
  | @cons item answer _ _ both _ ih =>
    -- Both heads are what is looked for, or neither is.
    rw [List.find?_cons, List.find?_cons, ← alike both]
    cases first item with
    | true => exact .some both
    | false => exact ih

/-- What two rows that are related item by item have in common is the same in both. -/
theorem map_eq_of_forall₂ {α β γ : Type} {related : α → β → Prop} {items : List α} {answers : List β}
    (all : List.Forall₂ related items answers) {first : α → γ} {second : β → γ}
    (alike : ∀ item answer, related item answer → second answer = first item) :
    answers.map second = items.map first := by
  rw [← List.forall₂_eq_eq_eq, List.forall₂_map_left_iff, List.forall₂_map_right_iff]
  exact all.flip.imp fun answer item both => alike item answer both

/-- The virtual machine with a lifetime, which is no flaw. -/
def Vm.extended (lifetime : Duration) (vm : Vm) : Vm :=
  { vm with lifetime := some lifetime, flaws := vm.flaws.filter (· != .noExpiration) }

namespace Compute

/-- An instance is as it was, or it has one of the names and was renewed. -/
def Becomes (names : List String) (written : String) (before after : Instance) : Prop :=
  after = before ∨ before.name ∈ names ∧ Renewed written before after

namespace Becomes

variable {names : List String} {written : String} {first second third : Instance}

/-- An instance that stays is as it was. -/
theorem refl (machine : Instance) : Becomes names written machine machine := .inl rfl

/-- An instance keeps its name. -/
theorem name (becomes : Becomes names written first second) : second.name = first.name := by
  obtain rfl | ⟨_, _, rfl⟩ := becomes <;> rfl

/-- What is renewed after it was renewed is renewed. -/
theorem trans (one : Becomes names written first second) (other : Becomes names written second third) :
    Becomes names written first third := by
  obtain rfl | ⟨named, renewed⟩ := one
  · exact other
  · -- It was renewed before, and stays so whatever comes later.
    obtain rfl | ⟨_, again⟩ := other
    · exact .inr ⟨named, renewed⟩
    · exact .inr ⟨named, renewed.trans again⟩

/-- A label that tells the lifetime stays. -/
theorem label (becomes : Becomes names written first second)
    (told : first.labels.get? lifetimeLabel = some written) :
    second.labels.get? lifetimeLabel = some written := by
  obtain rfl | ⟨_, renewed⟩ := becomes
  · exact told
  · exact renewed.label

/-- Whatever becomes of an instance, once its label tells a lifetime it is described as before, but
with that lifetime and without the flaw that none is known. -/
theorem toVm_of_label {lifetime : Duration} (becomes : Becomes names written first second)
    (told : second.labels.get? lifetimeLabel = some written)
    (read : Duration.parse written = .ok lifetime) {project zone : String} {vm : Vm}
    (described : toVm project zone first = .ok vm) :
    toVm project zone second = .ok (vm.extended lifetime) := by
  -- Only the labels can have changed, and they tell the lifetime now.
  -- Neither a label nor a fingerprint has a part in these.
  have same : second.name = first.name ∧ second.created = first.created ∧
      insideAddress second = insideAddress first ∧ outsideAddress second = outsideAddress first := by
    obtain rfl | ⟨_, _, rfl⟩ := becomes <;> exact ⟨rfl, rfl, rfl, rfl⟩
  -- The label is there and can be read.
  have labelled : labelledLifetime second.labels = .ok (some lifetime) := by
    simp only [labelledLifetime, told, read]
  unfold toVm at described ⊢
  -- The instance was described before, so its earlier labels could be read too.
  cases before : labelledLifetime first.labels with
  | error fault => simp [before, Bind.bind, Except.bind] at described
  | ok earlier =>
    simp only [before, Bind.bind, Except.bind] at described
    simp only [labelled, Bind.bind, Except.bind, same]
    cases created : Moment.ofText first.created with
    | error problem => cases problem <;> simp [created] at described
    | ok moment =>
      simp only [created] at described ⊢
      cases described
      -- Of all flaws only the one of the lifetime is gone.
      simp only [Pure.pure, Except.pure, Vm.extended, Except.ok.injEq, Vm.mk.injEq, true_and,
        Option.getD_some, Option.isSome_some, if_true, List.filter_append]
      refine congrArg₂ (· ++ ·) (congrArg₂ (· ++ ·) ?_ ?_) ?_ <;> split <;> rfl

end Becomes

namespace Cloud

/-- From one cloud to another only instances of the names are renewed: keys and instances stay in
their order, and no other instance is changed. -/
structure Renews (names : List String) (written : String) (before after : Cloud) : Prop where
  keys : after.zones.keys = before.zones.keys
  each : ∀ key, List.Forall₂ (Becomes names written) (before.under key) (after.under key)

namespace Renews

variable {names : List String} {written : String} {first second third : Cloud}

/-- Where zones stay no instance is renewed. -/
theorem of_zones (same : second.zones = first.zones) : Renews names written first second := by
  have under_eq (key : String) : second.under key = first.under key := by
    rw [under, same, ← under]
  exact ⟨by rw [same], fun key => under_eq key ▸ List.forall₂_same.mpr fun machine _ => .refl machine⟩

/-- What is renewed later is renewed, too. -/
theorem trans (one : Renews names written first second) (other : Renews names written second third) :
    Renews names written first third :=
  ⟨other.keys.trans one.keys, fun key => forall₂_trans .trans (one.each key) (other.each key)⟩

/-- Zones and names are as sound as before. -/
theorem wellZoned (renews : Renews names written first second) (well : first.WellZoned) :
    second.WellZoned := by
  refine ⟨fun key member => well.keys key (renews.keys ▸ member), fun key => ?_⟩
  -- To be renewed is to keep the name, so each key has the same names.
  have same : (second.under key).map Instance.name = (first.under key).map Instance.name :=
    map_eq_of_forall₂ (renews.each key) fun _ _ becomes => becomes.name
  exact same ▸ well.names key

/-- An instance is found exactly where it was, perhaps renewed. -/
theorem find? (renews : Renews names written first second) (zone name : String) :
    Option.Rel (Becomes names written) (first.find? zone name) (second.find? zone name) :=
  rel_find? (fun becomes => by rw [becomes.name]) (renews.each (zoneKey zone))

/-- Instances are listed in their order and with their zones, perhaps renewed. -/
theorem listing (renews : Renews names written first second) :
    List.Forall₂ (fun entry later => later.1 = entry.1 ∧ Becomes names written entry.2 later.2)
      first.listing second.listing := by
  -- Both are listed key by key, and under a key one by one.
  rw [listing_eq, listing_eq, renews.keys]
  have keys : List.Forall₂ Eq first.zones.keys first.zones.keys :=
    List.forall₂_same.mpr fun _ _ => rfl
  refine List.rel_flatMap keys fun key _ same => ?_
  subst same
  rw [List.forall₂_map_left_iff, List.forall₂_map_right_iff]
  exact (renews.each key).imp fun _ _ becomes => ⟨rfl, becomes⟩

/-- Changing the first instance of a name renews that one alone, if that is what the change does to
it. -/
theorem forall₂_changeFirst {name : String} (named : name ∈ names) {change : Instance → Instance}
    {machine : Instance} (changed : Renewed written machine (change machine)) {instances : List Instance}
    (held : instances.find? (fun machine => machine.name == name) = some machine) :
    List.Forall₂ (Becomes names written) instances (changeFirst name change instances) := by
  -- The induction is on the instances, up to the first of the name.
  induction instances with
  | nil => cases held
  | cons head rest ih =>
    rw [List.find?_cons] at held
    rw [changeFirst]
    by_cases same : (head.name == name) = true
    · -- The first of the name is the one that was looked for.
      rw [same] at held
      cases held
      rw [if_pos same]
      exact .cons (.inr ⟨by simpa [beq_iff_eq.mp same] using named, changed⟩)
        (List.forall₂_same.mpr fun machine _ => .refl machine)
    · -- It is not the first one, which stays as it is.
      rw [Bool.not_eq_true] at same
      rw [same] at held
      rw [if_neg (by simp [same])]
      exact .cons (.refl head) (ih held)

/-- To set the lifetime of an instance of one of the names is to renew it. -/
theorem of_relabel {zone name : String} (named : name ∈ names) {machine : Instance}
    (held : first.find? zone name = some machine)
    (relabelled : first.relabel zone name (machine.labels.insert lifetimeLabel written) = .ok second) :
    Renews names written first second := by
  refine ⟨?_, fun key => ?_⟩
  · -- To replace labels changes the value of a key, and neither adds nor takes one.
    obtain ⟨_, rfl⟩ := relabel_eq_ok_iff.mp relabelled
    exact OrderedMap.keys_modify _ _ _
  · rw [under_relabel relabelled]
    -- Under another key nothing is done at all.
    split
    · next here =>
      subst here
      exact forall₂_changeFirst named ⟨_, rfl⟩ held
    · exact List.forall₂_same.mpr fun machine _ => .refl machine

end Renews

end Cloud

end Compute

/-- What is done for each item in turn keeps a frame when it does so for every item. -/
theorem Frame.Around.forM {σ α : Type} {frame : Frame σ} {act : α → Program σ PUnit} {items : List α}
    (each : ∀ item ∈ items, frame.Around (act item)) : frame.Around (items.forM act) := by
  -- The induction is on the items, each of which keeps the frame.
  induction items with
  | nil => exact frame.refl
  | cons item rest ih =>
    obtain ⟨first, others⟩ := List.forall_mem_cons.mp each
    exact first.bind fun _ => ih others

namespace Site

/-- From one site to another instances and local machines are left alone, and the same project is
found. -/
structure Still (before after : Site) : Prop where
  zones : after.cloud.zones = before.cloud.zones
  localFleet : after.localFleet = before.localFleet
  project : (Compute.project.on after).1 = (Compute.project.on before).1

/-- Instances, local machines and the project are kept. -/
def still : Frame Site where
  Kept := Still
  refl _ := ⟨rfl, rfl, rfl⟩
  trans one other := ⟨other.zones.trans one.zones, other.localFleet.trans one.localFleet,
    other.project.trans one.project⟩

/-- Calls that leave all zones alone leave everything alone. -/
theorem Calls.still {events : List Event} {before after : Site} (calls : Calls events before after) :
    Still before after :=
  ⟨calls.zones, by rw [calls.rest], Compute.project_of_settings calls.settings calls.tool⟩

/-- Telling something on the side leaves everything alone. -/
theorem still_tell (severity : Severity) (text : String) (site : Site) :
    Still site (Host.tell severity text site) :=
  (tell_calls severity text site).still

end Site

namespace Compute

/-- Looking for the project leaves everything alone. -/
theorem still_project : Site.still.Around project := by
  intro site
  have kept := project_resolves (Prod.mk.eta (p := project.on site)).symm
  exact ⟨kept.zones, by rw [kept.rest], project_of_project site⟩

/-- Listing leaves everything alone. -/
theorem still_list : Site.still.Around list := by
  refine still_project.bind fun {_ found _} _ => Frame.Around.bind ?_ fun _ => Frame.around_ofExcept _
  -- However many attempts there are, each of them is a call that leaves the zones alone.
  intro site
  obtain ⟨_, middle, _, calls, ⟨_, failed, _⟩ | ⟨_, _, ⟨_, rfl⟩, answered⟩⟩ :=
    (Client.list_goes found).persistently site
  · rw [failed]
    exact calls.still
  · rw [answered]
    exact calls.still

/-- From one site to another only instances of the names are renewed. -/
structure Updates (names : List String) (written : String) (before after : Site) : Prop where
  cloud : Cloud.Renews names written before.cloud after.cloud
  localFleet : after.localFleet = before.localFleet
  project : (project.on after).1 = (project.on before).1

/-- All but instances of the names is kept. -/
def updating (names : List String) (written : String) : Frame Site where
  Kept := Updates names written
  refl _ := ⟨.of_zones rfl, rfl, rfl⟩
  trans one other := ⟨one.cloud.trans other.cloud, other.localFleet.trans one.localFleet,
    other.project.trans one.project⟩

/-- What is left alone is not renewed. -/
theorem Updates.of_still {names : List String} {written : String} {before after : Site}
    (still : Site.Still before after) : Updates names written before after :=
  ⟨.of_zones still.zones, still.localFleet, still.project⟩

/-- To set lifetimes renews nothing but instances of the names, however far it goes. -/
theorem updating_extend {names : List String} {vms : Roster} (named : ∀ vm ∈ vms, vm.name ∈ names)
    (lifetime : Duration) : (updating names lifetime.text).Around (extend vms lifetime) := by
  -- The look-up changes settings and notes events, and nothing else.
  have looked : (updating names lifetime.text).Around project := fun site => .of_still (still_project site)
  refine looked.bind fun {_ found _} _ => Frame.Around.forM fun vm member site => ?_
  obtain ⟨_, middle, _, calls, ⟨_, failed, _⟩ | ⟨_, cloud, ⟨machine, held, relabelled⟩, done⟩⟩ :=
    (Client.setLifetime_goes found vm.zone vm.name lifetime).persistently site
  · -- All attempts failed.
    rw [failed]
    exact .of_still calls.still
  · -- The attempts that failed changed nothing, and the last one renewed the instance.
    rw [done]
    exact (updating names lifetime.text).trans (.of_still calls.still)
      ⟨.of_relabel (named vm member) held relabelled, rfl, project_of_settings rfl rfl⟩

end Compute

end Fleet
