import Fleet.Proofs.Compute.Create
import Fleet.Proofs.LocalFleet
import Fleet.Startup
import Mathlib.Data.List.Induction

/-! The machine at hand over whole histories: after any calls it lists itself first, and then one machine for
each name that was created and not deleted since. -/

namespace Fleet.LocalHost

open LocalFleet (machine nameFlaws without renewed lasting)

/-- What a call does to one name. -/
inductive Touch where
  /-- A machine of the name is made, or made anew. -/
  | made (name : String) (now : Moment) (dns : String) (lifetime : Duration)
  | removed (name : String)
  /-- The lifetime of a machine of the name is set or taken from it. -/
  | relifed (name : String) (lifetime : Option Duration)

namespace Touch

/-- What a touch does to the machines that were created. -/
def apply (created : OrderedMap String Vm) : Touch → OrderedMap String Vm
  | made name now dns lifetime => created.insert name (machine name now dns lifetime (nameFlaws name))
  | removed name => created.erase name
  | relifed name lifetime => created.modify name (lasting lifetime)

/-- Whether a machine of the name is there after the touch, if the touch decides that. -/
def presence (name : String) : Touch → Option Bool
  | made other _ _ _ => if other = name then some true else none
  | removed other => if other = name then some false else none
  | relifed _ _ => none

/-- When and where a machine of the name was made, if the touch made it. -/
def making (name : String) : Touch → Option (Moment × String)
  | made other now dns _ => if other = name then some (now, dns) else none
  | removed _ | relifed _ _ => none

/-- The lifetime that the touch gives to a machine of the name, if it gives one. -/
def lifetime (name : String) : Touch → Option (Option Duration)
  | made other _ _ lifetime => if other = name then some (some lifetime) else none
  | relifed other lifetime => if other = name then some lifetime else none
  | removed _ => none

end Touch

/-- What the latest touch tells that tells anything. -/
def latest {β : Type} (told : Touch → Option β) (touches : List Touch) : Option β :=
  touches.reverse.findSome? told

/-- A further touch is the latest one if it tells anything. -/
theorem latest_concat {β : Type} (told : Touch → Option β) (touches : List Touch) (touch : Touch) :
    latest told (touches ++ [touch]) = (told touch).or (latest told touches) := by
  rw [latest, List.reverse_append, List.reverse_singleton, List.singleton_append, List.findSome?_cons]
  cases told touch <;> rfl

/-- A machine of the name was created and not deleted since. -/
def Live (touches : List Touch) (name : String) : Prop :=
  latest (Touch.presence name) touches = some true

/-- At the position the name was first created after it was last deleted. -/
def Born (touches : List Touch) (name : String) (position : Nat) : Prop :=
  ∃ before touch after, touches = before ++ touch :: after ∧ before.length = position ∧
    ¬ Live before name ∧ touch.presence name = some true ∧
    ∀ later ∈ after, later.presence name ≠ some false

/-- After a further touch a name is live if it was made then, or live before and not removed. -/
theorem live_concat (touches : List Touch) (touch : Touch) (name : String) :
    Live (touches ++ [touch]) name ↔
      touch.presence name = some true ∨ touch.presence name = none ∧ Live touches name := by
  rw [Live, latest_concat, Live]
  rcases touch.presence name with _ | _ | _ <;> simp

/-- A name that was made is live until it is removed. -/
theorem live_of_made {before after : List Touch} {touch : Touch} {name : String}
    (made : touch.presence name = some true)
    (kept : ∀ later ∈ after, later.presence name ≠ some false) :
    Live (before ++ touch :: after) name := by
  -- None of the later touches decides otherwise, so the induction is on the last of them.
  induction after using List.reverseRecOn with
  | nil => exact (live_concat _ _ _).mpr (.inl made)
  | append_singleton after last ih =>
    rw [← List.cons_append, ← List.append_assoc, live_concat]
    have own := kept last (by simp)
    have earlier := ih fun later member => kept later (by simp [member])
    -- The last touch makes the name, removes it or does not decide on it.
    rcases told : last.presence name with _ | _ | _
    · exact .inr ⟨rfl, earlier⟩
    · exact absurd told own
    · exact .inl rfl

/-- A name is born at one position only. -/
theorem Born.unique {touches : List Touch} {name : String} {first second : Nat}
    (one : Born touches name first) (other : Born touches name second) : first = second := by
  -- Were one position before the other, the name would be live already at the later one.
  obtain ⟨before, touch, after, split, rfl, fresh, made, kept⟩ := one
  obtain ⟨before', touch', after', split', rfl, fresh', made', kept'⟩ := other
  rw [split] at split'
  -- Of two positions in one history one comes first, or they are the same.
  rcases List.append_eq_append_iff.mp split' with ⟨between, rfl, same⟩ | ⟨between, rfl, same⟩
  · cases between with
    | nil => simp
    | cons head between =>
      obtain ⟨rfl, rfl⟩ := List.cons.inj same
      exact absurd (live_of_made made fun later member => kept later (by simp [member])) fresh'
  · cases between with
    | nil => simp
    | cons head between =>
      obtain ⟨rfl, rfl⟩ := List.cons.inj same
      exact absurd (live_of_made made' fun later member => kept' later (by simp [member])) fresh

/-- A birth stays the last one until the name is removed. -/
theorem Born.concat {touches : List Touch} {name : String} {position : Nat}
    (born : Born touches name position) {touch : Touch} (kept : touch.presence name ≠ some false) :
    Born (touches ++ [touch]) name position := by
  -- The birth keeps its place, and the touch that is added comes after all that spared the name.
  obtain ⟨before, making, after, rfl, place, fresh, made, spared⟩ := born
  refine ⟨before, making, after ++ [touch], by simp, place, fresh, made, fun later member => ?_⟩
  rcases List.mem_append.mp member with earlier | last
  · exact spared later earlier
  · rwa [List.mem_singleton.mp last]

/-- A name that is not live is born when it is made. -/
theorem born_of_made {touches : List Touch} {name : String} {touch : Touch}
    (fresh : ¬ Live touches name) (made : touch.presence name = some true) :
    Born (touches ++ [touch]) name touches.length :=
  ⟨touches, touch, [], rfl, rfl, fresh, made, by simp⟩

/-- A birth is one of the touches. -/
theorem Born.lt {touches : List Touch} {name : String} {position : Nat}
    (born : Born touches name position) : position < touches.length := by
  obtain ⟨before, touch, after, rfl, rfl, _⟩ := born
  -- The birth is the touch behind those that came before, so there are more touches than these.
  simp

/-- The machines that were created, after some touches. -/
def remembered (touches : List Touch) : OrderedMap String Vm :=
  touches.foldl Touch.apply .empty

/-- A further touch comes upon what the others left. -/
theorem remembered_concat (touches : List Touch) (touch : Touch) :
    remembered (touches ++ [touch]) = touch.apply (remembered touches) := by
  rw [remembered, List.foldl_append]
  rfl

/-- A machine carries what the latest touches of its name gave it: when and where it was last made, and the
lifetime of its latest creation or extension. -/
structure Carries (touches : List Touch) (vm : Vm) : Prop where
  made : latest (Touch.making vm.name) touches = some (vm.createdAt, vm.dns)
  lifetime : latest (Touch.lifetime vm.name) touches = some vm.lifetime
  /-- Its name is told as a flaw exactly when it is no label. -/
  flawed : VmFlaw.invalidName ∈ vm.flaws ↔ Label.accepts vm.name = false
  /-- All else is that of the machine at hand. -/
  rest : vm = lasting vm.lifetime
    (machine vm.name vm.createdAt vm.dns .zero (nameFlaws vm.name))

/-- A machine that is made carries what it is made with. -/
theorem carries_of_made (touches : List Touch) (name : String) (now : Moment) (dns : String)
    (lifetime : Duration) :
    Carries (touches ++ [.made name now dns lifetime])
      (machine name now dns lifetime (nameFlaws name)) where
  made := by simp [latest_concat, machine, Touch.making]
  lifetime := by simp [latest_concat, machine, Touch.lifetime]
  flawed := by cases accepted : Label.accepts name <;> simp [machine, nameFlaws, accepted]
  rest := rfl

/-- A machine whose lifetime is set carries that and what it had. -/
theorem Carries.relifed {touches : List Touch} {vm : Vm} (carries : Carries touches vm)
    (lifetime : Option Duration) :
    Carries (touches ++ [.relifed vm.name lifetime]) (lasting lifetime vm) where
  made := by simpa [latest_concat, Touch.making, lasting] using carries.made
  lifetime := by simp [latest_concat, lasting, Touch.lifetime]
  flawed := carries.flawed
  rest := by rw [carries.rest]; rfl

/-- A touch of another name changes nothing for a machine. -/
theorem Carries.concat {touches : List Touch} {vm : Vm} (carries : Carries touches vm) {touch : Touch}
    (made : touch.making vm.name = none) (lifetime : touch.lifetime vm.name = none) :
    Carries (touches ++ [touch]) vm where
  made := by rw [latest_concat, made]; exact carries.made
  lifetime := by rw [latest_concat, lifetime]; exact carries.lifetime
  flawed := carries.flawed
  rest := carries.rest

/-- A machine is remembered under a name exactly when the name is live. -/
theorem mem_keys_remembered (touches : List Touch) (name : String) :
    name ∈ (remembered touches).keys ↔ Live touches name := by
  -- Each touch makes a name live, removes it or leaves it, just as it does with the keys.
  induction touches using List.reverseRecOn with
  | nil => simp [remembered, Live, latest]
  | append_singleton touches touch ih =>
    rw [remembered_concat, live_concat, ← ih]
    -- A making adds its own name to the keys, and no other name.
    cases touch with
    | made other now dns lifetime =>
      by_cases same : other = name
      · simp [Touch.apply, Touch.presence, same]
      · simp [Touch.apply, Touch.presence, same, Ne.symm same]
    -- A removal takes its own name from the keys, and no other name.
    | removed other =>
      by_cases same : other = name
      · simp [Touch.apply, Touch.presence, same, OrderedMap.keys_erase]
      · simp [Touch.apply, Touch.presence, same, Ne.symm same, OrderedMap.keys_erase]
    -- To set a lifetime decides on no name, and keeps the keys.
    | relifed other lifetime => simp [Touch.apply, Touch.presence, OrderedMap.keys_modify]

/-- Each name that is remembered was born. -/
theorem exists_born {touches : List Touch} {name : String}
    (known : name ∈ (remembered touches).keys) : ∃ position, Born touches name position := by
  replace known := (mem_keys_remembered touches name).mp known
  -- The latest touch that decides on the name made it, and either it was new then or it was born before.
  induction touches using List.reverseRecOn with
  | nil => cases known
  | append_singleton touches touch ih =>
    -- The name is live because the last touch made it, or because it was live before and was left so.
    obtain made | ⟨silent, live⟩ := (live_concat _ _ _).mp known
    · by_cases live : Live touches name
      · obtain ⟨position, born⟩ := ih live
        exact ⟨position, born.concat (by simp [made])⟩
      · exact ⟨touches.length, born_of_made live made⟩
    · obtain ⟨position, born⟩ := ih live
      exact ⟨position, born.concat (by simp [silent])⟩

/-- The one name was born before the other. -/
def BornBefore (touches : List Touch) (one other : String) : Prop :=
  ∀ i j, Born touches one i → Born touches other j → i < j

/-- Among names that stay, which was born first does not change. -/
theorem BornBefore.concat {touches : List Touch} {one other : String}
    (before : BornBefore touches one other) {i j : Nat} (first : Born touches one i)
    (second : Born touches other j) {touch : Touch} (keptOne : touch.presence one ≠ some false)
    (keptOther : touch.presence other ≠ some false) :
    BornBefore (touches ++ [touch]) one other := by
  -- Both births stay where they were.
  intro i' j' first' second'
  obtain rfl := (first.concat keptOne).unique first'
  obtain rfl := (second.concat keptOther).unique second'
  exact before i j first second

/-- What is made takes no name away. -/
theorem presence_made_ne (name other : String) (now : Moment) (dns : String) (lifetime : Duration) :
    (Touch.made name now dns lifetime).presence other ≠ some false := by
  rw [Touch.presence]
  split <;> simp

/-- A new name is born after all that are remembered. -/
theorem bornBefore_made {touches : List Touch} {name other : String} {now : Moment} {dns : String}
    {lifetime : Duration} (known : other ∈ (remembered touches).keys)
    (fresh : name ∉ (remembered touches).keys) :
    BornBefore (touches ++ [.made name now dns lifetime]) other name := by
  -- The other name keeps the birth that it has, and the new one is born in the last touch.
  intro i j first second
  obtain ⟨position, born⟩ := exists_born known
  obtain rfl := (born.concat (presence_made_ne name other now dns lifetime)).unique first
  obtain rfl := (born_of_made (mt (mem_keys_remembered _ _).mpr fresh)
    (by simp [Touch.presence])).unique second
  exact born.lt

/-- Names are remembered in the order of their births. -/
theorem keys_remembered_pairwise (touches : List Touch) :
    (remembered touches).keys.Pairwise (BornBefore touches) := by
  -- The induction is on the last touch, which may add a key at the end or take one out of the middle.
  induction touches using List.reverseRecOn with
  | nil => exact .nil
  | append_singleton touches touch ih =>
    -- Names that stay keep their births, and so their order.
    have stays {names : List String} (known : ∀ name ∈ names, name ∈ (remembered touches).keys)
        (kept : ∀ name ∈ names, touch.presence name ≠ some false)
        (ordered : names.Pairwise (BornBefore touches)) :
        names.Pairwise (BornBefore (touches ++ [touch])) := by
      refine ordered.imp_of_mem fun first second before => ?_
      obtain ⟨i, one⟩ := exists_born (known _ first)
      obtain ⟨j, other⟩ := exists_born (known _ second)
      exact before.concat one other (kept _ first) (kept _ second)
    rw [remembered_concat]
    cases touch with
    -- A name that is made again keeps its place, and a new one goes to the end.
    | made name now dns lifetime =>
      have before := stays (fun _ member => member)
        (fun other _ => presence_made_ne name other now dns lifetime) ih
      rw [Touch.apply, OrderedMap.keys_insert]
      split
      · exact before
      · next fresh =>
        refine List.pairwise_append.mpr ⟨before, List.pairwise_singleton _ _, ?_⟩
        rintro other member new same
        obtain rfl := List.mem_singleton.mp same
        exact bornBefore_made member fresh
    -- Those that are left when a name is removed stand as they stood.
    | removed name =>
      rw [Touch.apply, OrderedMap.keys_erase]
      refine stays (fun other member => List.mem_of_mem_filter member) (fun other member => ?_)
        (ih.filter _)
      have different : other ≠ name := by simpa using (List.mem_filter.mp member).2
      simp [Touch.presence, Ne.symm different]
    -- To set a lifetime keeps all names where they are.
    | relifed name lifetime =>
      rw [Touch.apply, OrderedMap.keys_modify]
      exact stays (fun _ member => member) (fun _ _ => by simp [Touch.presence]) ih

/-- A machine that is remembered goes by the name that it is remembered under, and carries what the latest
touches gave it. -/
theorem carries_of_remembered {touches : List Touch} {name : String} {vm : Vm}
    (held : (remembered touches).get? name = some vm) : vm.name = name ∧ Carries touches vm := by
  -- The induction is on the last touch, as the latest of a name decides.
  induction touches using List.reverseRecOn generalizing vm with
  | nil => cases held
  | append_singleton touches touch ih =>
    rw [remembered_concat] at held
    cases touch with
    | made other now dns lifetime =>
      rw [Touch.apply, OrderedMap.get?_insert] at held
      -- The machine was made by this touch, or it was there before and goes by another name.
      split at held
      · next same =>
        cases held
        exact ⟨same.symm, carries_of_made touches other now dns lifetime⟩
      · next different =>
        obtain ⟨rfl, carries⟩ := ih held
        exact ⟨rfl, carries.concat (by simp [Touch.making, Ne.symm different])
          (by simp [Touch.lifetime, Ne.symm different])⟩
    -- What is still there goes by another name than that which was removed.
    | removed other =>
      rw [Touch.apply, OrderedMap.get?_erase] at held
      split at held
      · cases held
      · obtain ⟨rfl, carries⟩ := ih held
        exact ⟨rfl, carries.concat rfl rfl⟩
    | relifed other lifetime =>
      rw [Touch.apply, OrderedMap.get?_modify] at held
      -- The lifetime of this machine was set, or that of another.
      split at held
      · next same =>
        obtain ⟨before, was, rfl⟩ := Option.map_eq_some_iff.mp held
        obtain ⟨rfl, carries⟩ := ih was
        subst same
        exact ⟨rfl, carries.relifed lifetime⟩
      · next different =>
        obtain ⟨rfl, carries⟩ := ih held
        exact ⟨rfl, carries.concat rfl (by simp [Touch.lifetime, Ne.symm different])⟩

/-- The virtual machines are one for each live name, in the order in which the names were born, and each
carries what the latest touches gave it. -/
structure Remembers (touches : List Touch) (vms : Roster) : Prop where
  live : ∀ name, name ∈ vms.names ↔ Live touches name
  once : vms.names.Nodup
  born : ∀ name ∈ vms.names, ∃ position, Born touches name position
  ordered : vms.names.Pairwise (BornBefore touches)
  carries : ∀ vm ∈ vms, Carries touches vm

/-- What is remembered is what the touches made. -/
theorem remembers_values (touches : List Touch) :
    Remembers touches (remembered touches).values := by
  -- A machine is remembered under its own name, so the names are the keys.
  have names : Roster.names (remembered touches).values = (remembered touches).keys := by
    rw [Roster.names, OrderedMap.values, List.map_map, OrderedMap.keys]
    refine List.map_congr_left fun entry member => ?_
    exact (carries_of_remembered ((OrderedMap.get?_eq_some_iff _ _ _).mpr member)).1
  -- Each part of the claim is one of the laws of what is remembered, put in terms of names.
  refine ⟨fun name => ?_, ?_, fun name member => ?_, ?_, fun vm member => ?_⟩
  · rw [names]
    exact mem_keys_remembered touches name
  · rw [names]
    exact OrderedMap.nodup_keys _
  · rw [names] at member
    exact exists_born member
  · rw [names]
    exact keys_remembered_pairwise touches
  · obtain ⟨name, held⟩ := (OrderedMap.mem_values_iff _ _).mp member
    exact (carries_of_remembered held).2

/-- What can be asked of the provider. -/
inductive Asking where
  | create (names : List String) (options : CreateOptions)
  | delete (roster : Roster)
  | extend (roster : Roster) (lifetime : Option Duration)
  | list

namespace Asking

/-- The call of a provider that asks it. -/
def ask (provider : Provider Site) : Asking → Program Site Unit
  | create names options => provider.create names options
  | delete roster => provider.delete roster
  | extend roster (some lifetime) => provider.extend roster lifetime
  | extend roster none => provider.extendToNothing roster
  | list => discard provider.list

/-- The touches of what is asked at a site. Nothing is made when the calendar does not have the time, and
nothing is removed along with the machine at hand. -/
def touches (site : Site) : Asking → List Touch
  | create names options =>
    match site.now with
    | .ok now => names.map fun name => .made name now site.hostName options.lifetime
    | .error _ => []
  | delete roster =>
    if LocalFleet.hostName ∈ roster.names then [] else roster.names.map .removed
  | extend roster lifetime => roster.names.map fun name => .relifed name lifetime
  | list => []

end Asking

/-- The fleet after a call at a site, which found the fleet as it was left before. -/
def undergo (provider : Provider Site) (fleet : LocalFleet) (call : Site × Asking) : LocalFleet :=
  ((call.2.ask provider).on { call.1 with localFleet := fleet }).2.localFleet

/-- The fleet after calls one after the other, whatever becomes of each of them. All but the fleet may be
different from call to call. -/
def undergoAll (provider : Provider Site) (fleet : LocalFleet) (history : List (Site × Asking)) :
    LocalFleet :=
  history.foldl (undergo provider) fleet

/-- The touches of a history. -/
def touchesOf (history : List (Site × Asking)) : List Touch :=
  history.flatMap fun call => call.2.touches call.1

/-- The listing is the machine at hand and then the others, and changes nothing. -/
theorem on_list (site : Site) :
    provider.list.on site = (.ok (site.localFleet.host :: site.localFleet.created.values), site) :=
  rfl

/-- Deleting the machine at hand is refused, and then nothing is changed. -/
theorem on_delete_of_mem {roster : Roster} (site : Site) (named : LocalFleet.hostName ∈ roster.names) :
    (provider.delete roster).on site = (.error LocalFleet.hostStays, site) := by
  change (delete roster).on site = _
  simp only [delete, Program.on_bind, Program.on_get, LocalFleet.delete_of_mem _ named]
  rfl

/-- Deleting others removes those of their names, and changes nothing else. -/
theorem on_delete_of_not_mem {roster : Roster} (site : Site)
    (spared : LocalFleet.hostName ∉ roster.names) :
    (provider.delete roster).on site =
      (.ok (), { site with localFleet := site.localFleet.remove roster.names }) := by
  change (delete roster).on site = _
  simp only [delete, Program.on_bind, Program.on_get, LocalFleet.delete_of_not_mem _ spared]
  rfl

/-- Extending changes those of the names, and nothing else. -/
theorem on_extend (roster : Roster) (lifetime : Option Duration) (site : Site) :
    ((Asking.extend roster lifetime).ask provider).on site =
      (.ok (), { site with localFleet := site.localFleet.extend roster lifetime }) := by
  cases lifetime <;> rfl

/-- What is told on the side is nothing to the fleet. -/
theorem tell_localFleet (severity : Severity) (text : String) (site : Site) :
    (Host.tell severity text site).localFleet = site.localFleet := by
  change (if _ then _ else _ : Site).localFleet = _
  split <;> rfl

/-- Creating makes a machine of each name, unless the calendar does not have the time. -/
theorem create_localFleet (names : List String) (options : CreateOptions) (site : Site) :
    ((provider.create names options).on site).2.localFleet = { site.localFleet with
      created := ((Asking.create names options).touches site).foldl Touch.apply
        site.localFleet.created } := by
  have clock : Program.clock.on site = ((site.now).mapError fun error => .problem (.moment error), site) :=
    rfl
  change ((create names options).on site).2.localFleet = _
  by_cases empty : names.isEmpty = true
  · -- No name is no machine, and no look at the clock.
    obtain rfl := List.isEmpty_iff.mp empty
    rw [Asking.touches]
    cases site.now <;> exact tell_localFleet _ _ _
  · -- There are names, so that the clock is looked at first.
    simp only [create, empty]
    cases told : site.now with
    | error error => simp [Asking.touches, told, Program.on_bind, clock, Except.mapError]
    | ok now =>
      simp only [Asking.touches, told, List.foldl_map]
      simp [Program.on_bind, clock, told, Except.mapError, tell, tell_localFleet]
      rfl

/-- A call touches what was created, and never the machine at hand. -/
theorem undergo_eq (fleet : LocalFleet) (call : Site × Asking) :
    undergo provider fleet call = { fleet with
      created := (call.2.touches call.1).foldl Touch.apply fleet.created } := by
  obtain ⟨site, asking⟩ := call
  -- What a call does to the fleet is what its touches do to what was created.
  cases asking with
  | create names options => exact create_localFleet names options { site with localFleet := fleet }
  | delete roster =>
    -- Nothing is touched when the machine at hand is among those to be deleted.
    by_cases named : LocalFleet.hostName ∈ roster.names
    · simp [undergo, Asking.ask, Asking.touches, on_delete_of_mem _ named, named]
    · simp only [undergo, Asking.ask, Asking.touches, on_delete_of_not_mem _ named, if_neg named,
        List.foldl_map]
      rfl
  | extend roster lifetime =>
    -- Each machine of the roster is touched under its name.
    simp only [undergo, on_extend, Asking.touches, Roster.names, List.foldl_map]
    rfl
  | list => rfl

/-- A history is its touches, one after the other. -/
theorem undergoAll_eq (fleet : LocalFleet) (history : List (Site × Asking)) :
    undergoAll provider fleet history = { fleet with
      created := (touchesOf history).foldl Touch.apply fleet.created } := by
  -- The first call leaves the fleet that the later ones find.
  induction history generalizing fleet with
  | nil => rfl
  | cons call later ih =>
    rw [undergoAll, List.foldl_cons, ← undergoAll, ih, undergo_eq]
    simp only [touchesOf, List.flatMap_cons, List.foldl_append]

/-- A touch leaves each machine under its own name. -/
theorem sound_apply {fleet : LocalFleet} (sound : fleet.Sound) (touch : Touch) :
    LocalFleet.Sound { fleet with created := touch.apply fleet.created } := by
  refine ⟨sound.hostName, sound.hostProvider, ?_⟩
  rintro ⟨key, vm⟩ member
  -- What stood under a key had the key for its name.
  have own {vm : Vm} (held : fleet.created.get? key = some vm) :
      vm.name = key ∧ vm.provider = LocalFleet.providerName :=
    sound.created _ ((OrderedMap.get?_eq_some_iff _ _ _).mp held)
  have found := (OrderedMap.get?_eq_some_iff _ _ _).mpr member
  cases touch with
  | made name now dns lifetime =>
    rw [Touch.apply, OrderedMap.get?_insert] at found
    -- The machine under the key is the one that was made, or one that was there before.
    split at found
    · next same =>
      cases found
      exact ⟨same.symm, rfl⟩
    · exact own found
  | removed name =>
    rw [Touch.apply, OrderedMap.get?_erase] at found
    -- What is still there was there before.
    split at found
    · cases found
    · exact own found
  | relifed name lifetime =>
    rw [Touch.apply, OrderedMap.get?_modify] at found
    -- A machine whose lifetime is set keeps its name and its provider.
    split at found
    · obtain ⟨before, held, rfl⟩ := Option.map_eq_some_iff.mp found
      have kept := own held
      exact kept
    · exact own found

/-- Every history leaves each machine under its own name. -/
theorem sound_undergoAll {fleet : LocalFleet} (sound : fleet.Sound) (history : List (Site × Asking)) :
    (undergoAll provider fleet history).Sound := by
  rw [undergoAll_eq]
  -- The induction is on the touches, from the fleet that the first of them leaves.
  induction touchesOf history generalizing fleet with
  | nil => exact sound
  | cons touch later ih => exact ih (sound_apply sound touch)

/-- A provider at a site lists the host and then what is remembered of the touches. Deletions and extensions
do to that what they say, and nothing else to the site. -/
structure Answers (made : Provider Site) (host : Vm) (touches : List Touch) (site : Site)
    (others : Roster) : Prop where
  remembers : Remembers touches others
  lists : made.list.on site = (.ok (host :: others), site)
  refuses : ∀ roster : Roster, LocalFleet.hostName ∈ roster.names →
    (made.delete roster).on site = (.error LocalFleet.hostStays, site)
  deletes : ∀ roster : Roster, LocalFleet.hostName ∉ roster.names → ∃ after fleet,
    (made.delete roster).on site = (.ok (), after) ∧ after = { site with localFleet := fleet } ∧
    made.list.on after = (.ok (host :: without roster.names others), after)
  prolongs : ∀ (roster : Roster) (lifetime : Option Duration), ∃ after fleet,
    ((Asking.extend roster lifetime).ask made).on site = (.ok (), after) ∧
    after = { site with localFleet := fleet } ∧
    made.list.on after = (.ok (host :: renewed roster.names lifetime others), after)

/-- From when it is opened on, the provider of the machine at hand answers from the history of its calls
alone: it lists the machine at hand as it was when it was opened, and then one machine for each name that was
created and not deleted since. -/
theorem answers_history {site opened : Site} {made : Provider Site}
    (opens : Startup.openLocal.on site = (.ok made, opened)) :
    ∃ now, site.now = .ok now ∧
      ∀ (history : List (Site × Asking)) (here : Site),
        here.localFleet = undergoAll made opened.localFleet history →
        ∃ others, Answers made (machine LocalFleet.hostName now site.hostName .zero [])
          (touchesOf history) here others := by
  -- Opening needs the time, and then starts anew.
  obtain ⟨now, middle, told, rest⟩ := Program.bind_ok opens
  have clock : (site.now.mapError fun error => Fault.problem (.moment error), site) = (.ok now, middle) :=
    told
  cases rest
  obtain ⟨time, rfl⟩ := Prod.mk.inj clock
  have now_eq : site.now = .ok now := by
    cases reached : site.now with
    | error error => simp [reached, Except.mapError] at time
    | ok moment =>
      rw [reached] at time
      cases time
      rfl
  refine ⟨now, now_eq, fun history here left => ⟨(remembered (touchesOf history)).values, ?_⟩⟩
  -- Whatever was called since, the fleet is as sound as it was when it was opened.
  have sound : here.localFleet.Sound := left ▸ sound_undergoAll (.start now site.hostName) history
  rw [undergoAll_eq] at left
  -- The machines that were created are those of the touches, and the machine at hand is as it was.
  have host : here.localFleet.host = machine LocalFleet.hostName now site.hostName .zero [] := by
    rw [left]
    rfl
  have others : here.localFleet.created = remembered (touchesOf history) := by
    rw [left]
    rfl
  refine ⟨remembers_values _, ?_, fun roster named => on_delete_of_mem here named,
    fun roster spared => ?_, fun roster lifetime => ?_⟩
  · -- Listing shows the machine at hand, and behind it those that are remembered.
    rw [on_list, host, others]
  · -- Deleting without the machine at hand removes from what is remembered.
    refine ⟨_, _, on_delete_of_not_mem here spared, rfl, ?_⟩
    rw [on_list, sound.values_remove, others, ← host]
    rfl
  · -- Extending sets the lifetimes of what is remembered.
    refine ⟨_, _, on_extend roster lifetime here, rfl, ?_⟩
    rw [on_list, sound.values_extend, others, ← host]
    rfl

/-- Two creations of one name, and a deletion of another name. -/
def passing (site : Site) : List (Site × Asking) :=
  [(site, .create ["web", "db", "web"] {}),
   (site, .delete [machine "db" site.clock site.hostName .zero []])]

/-- On the quiet site this leaves one machine beside the machine at hand. -/
theorem answers_passing :
    ∃ opened, Startup.openLocal.on Compute.quietSite = (.ok provider, opened) ∧
      ∃ now others, Roster.names others = ["web"] ∧
        Answers provider (machine LocalFleet.hostName now "here" .zero []) (touchesOf (passing opened))
          { opened with localFleet := undergoAll provider opened.localFleet (passing opened) } others := by
  -- Opening and the two calls are carried out to see what they leave.
  have opens : Startup.openLocal.on Compute.quietSite = (.ok provider, _) := rfl
  obtain ⟨now, _, answers⟩ := answers_history opens
  obtain ⟨others, given⟩ := answers (passing _) _ rfl
  refine ⟨_, rfl, now, others, ?_, given⟩
  have listed := given.lists
  rw [on_list] at listed
  cases listed
  decide +kernel

end Fleet.LocalHost
