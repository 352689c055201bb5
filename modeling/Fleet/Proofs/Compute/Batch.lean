import Fleet.Proofs.Compute.Description
import Fleet.Proofs.Compute.Failure
import Fleet.Proofs.Compute.Renewal

/-! Batches in Compute Engine: virtual machines are deleted or extended one after the other, each in up to
three attempts, and the first that cannot be ends the batch. What stands before it is done, and what stands
behind it was not even asked for. -/

namespace Fleet

/-- The zone and the name of the instance that something done to the outside was about, if it was about
one. -/
def Event.target? : Event → Option (String × String)
  | .inserted _ zone request => some (zone, request.name)
  | .deleted _ zone name | .fetched _ zone name | .relabelled _ zone name _ _ => some (zone, name)
  | _ => none

namespace Compute

section Batches

/-- How a call was tried: each attempt before the last failed and was followed by a wait of four seconds, and
what became of the last became of all. A failure is the last only if it is the third, or if the user broke off. -/
structure Handled (call : Program Site Unit) (noted : List Event → Prop) (before : Site)
    (attempts : List (List Event)) (outcome : Except Fault Unit) (after : Site) : Prop where
  attempted : Client.Attempted noted attempts
  acts : Site.Acts (Client.eventsOf attempts) before after
  last : ∃ earlier final middle, attempts = earlier ++ [final] ∧
    Program.Tries (Site.pause 4) call earlier.length before middle ∧
    call.on middle = (outcome, after)
  ended : ∀ fault, outcome = .error fault → attempts.length = 3 ∨ fault.isInterrupt = true

/-- A virtual machine that was seen to, and the events of each attempt. -/
structure Visit where
  vm : Vm
  attempts : List (List Event)

/-- The events of visits, one after the other. -/
def Visit.events (visits : List Visit) : List Event :=
  visits.flatMap fun visit => Client.eventsOf visit.attempts

/-- A call for each of several virtual machines in turn: the next one is seen to only when the call for the
one before has an answer, and a failure ends it all. -/
inductive InTurn (call : Vm → Program Site Unit) (noted : Vm → List Event → Prop) :
    Roster → Site → List Visit → Except Fault Unit → Site → Prop where
  | all (site : Site) : InTurn call noted [] site [] (.ok ()) site
  | next {vm : Vm} {later : Roster} {site middle after : Site} {attempts : List (List Event)}
      {visits : List Visit} {outcome : Except Fault Unit}
      (first : Handled (call vm) (noted vm) site attempts (.ok ()) middle)
      (others : InTurn call noted later middle visits outcome after) :
      InTurn call noted (vm :: later) site (⟨vm, attempts⟩ :: visits) outcome after
  | failed {vm : Vm} {later : Roster} {site after : Site} {attempts : List (List Event)} {fault : Fault}
      (first : Handled (call vm) (noted vm) site attempts (.error fault) after) :
      InTurn call noted (vm :: later) site [⟨vm, attempts⟩] (.error fault) after

section Calls

variable {call : Program Site Unit} {noted : List Event → Prop} {done : Site → Unit → Cloud → Prop}

/-- A call that goes in a way is tried so. -/
theorem Client.Goes.handled (goes : Client.Goes call noted done) (site : Site) :
    ∃ attempts outcome after, (Client.persistently call).on site = (outcome, after) ∧
      Handled call noted site attempts outcome after := by
  obtain ⟨earlier, final, last, middle, tries, same, attempted, calls, ended, result⟩ := goes.attempts site
  -- The last attempt may change the cloud, and otherwise only calls.
  have acts : Site.Acts (Client.eventsOf (earlier ++ [final])) site (call.on last).2 := by
    -- It failed and left the zones, or it has an answer and left a changed cloud, and both are acts.
    obtain ⟨fault, failed⟩ | ⟨_, cloud, _, answered⟩ := result
    · rw [failed]
      exact calls.toActs
    · rw [answered]
      exact ⟨by rw [calls.rest], calls.trace⟩
  exact ⟨earlier ++ [final], (call.on last).1, (call.on last).2, same, attempted, acts,
    ⟨earlier, final, last, rfl, tries, rfl⟩, ended⟩

variable {before after : Site} {attempts : List (List Event)} {outcome : Except Fault Unit}

/-- What fails in the end leaves all zones as they were, and what has an answer is done by the last attempt,
which finds them as they were. -/
theorem Handled.reached (goes : Client.Goes call noted done)
    (handled : Handled call noted before attempts outcome after) :
    (∃ fault, outcome = .error fault ∧ after.cloud.zones = before.cloud.zones) ∨
      ∃ middle : Site, outcome = .ok () ∧ middle.cloud.zones = before.cloud.zones ∧
        done middle () after.cloud := by
  obtain ⟨_, _, last, _, tries, ran⟩ := handled.last
  -- The attempts before the last failed, so it is up to the last.
  obtain ⟨_, _, _, earlier⟩ := goes.tries tries
  obtain ⟨_, middle, _, called, ⟨fault, failed⟩ | ⟨_, _, done, answered⟩⟩ := goes last
  · cases failed.symm.trans ran
    exact .inl ⟨fault, rfl, called.zones.trans earlier.zones⟩
  · cases answered.symm.trans ran
    exact .inr ⟨middle, rfl, called.zones.trans earlier.zones, done⟩

end Calls

variable {call : Vm → Program Site Unit} {noted : Vm → List Event → Prop}
  {done : Vm → Site → Unit → Cloud → Prop}

/-- Calls for virtual machines one after the other come in turn. -/
theorem exists_inTurn (goes : ∀ vm, Client.Goes (call vm) (noted vm) (done vm)) (vms : Roster)
    (site : Site) :
    ∃ visits outcome after, (vms.forM fun vm => Client.persistently (call vm)).on site = (outcome, after) ∧
      InTurn call noted vms site visits outcome after := by
  -- The first call either ends all, or leaves a site to the others.
  induction vms generalizing site with
  | nil => exact ⟨[], .ok (), site, rfl, .all site⟩
  | cons vm later ih =>
    -- What the first call comes to, in up to three attempts, decides whether there is another.
    obtain ⟨attempts, outcome, middle, ran, first⟩ := (goes vm).handled site
    rw [List.forM]
    cases outcome with
    | error fault => exact ⟨_, _, middle, Program.on_bind_error ran _, .failed first⟩
    | ok answer =>
      obtain ⟨visits, outcome, after, further, others⟩ := ih middle
      exact ⟨_, outcome, after, (Program.on_bind_ok ran _).trans further, .next first others⟩

namespace InTurn

variable {vms : Roster} {start after : Site} {visits : List Visit} {outcome : Except Fault Unit}

/-- The events of the visits are all that was done to the outside. -/
theorem acts (inTurn : InTurn call noted vms start visits outcome after) :
    Site.Acts (Visit.events visits) start after := by
  -- The events of a visit come before those of the visits that follow.
  induction inTurn with
  | all site => exact .refl site
  | next first _ ih => exact first.acts.trans ih
  | failed first =>
    rw [Visit.events, List.flatMap_singleton]
    exact first.acts

/-- Each visit took one to three attempts. -/
theorem attempted (inTurn : InTurn call noted vms start visits outcome after) :
    ∀ visit ∈ visits, Client.Attempted (noted visit.vm) visit.attempts := by
  -- The induction is on the visits, each of which was seen to in attempts of its own.
  induction inTurn with
  | all => exact List.forall_mem_nil _
  | next first _ ih => exact List.forall_mem_cons.mpr ⟨first.attempted, ih⟩
  | failed first => exact List.forall_mem_singleton.mpr first.attempted

/-- Either all virtual machines were seen to, or those up to one whose call failed. -/
theorem split (inTurn : InTurn call noted vms start visits outcome after) :
    (outcome = .ok () ∧ visits.map Visit.vm = vms) ∨
    ∃ before failing later earlier attempts fault middle,
      vms = before ++ failing :: later ∧ visits = earlier ++ [⟨failing, attempts⟩] ∧
      earlier.map Visit.vm = before ∧ InTurn call noted before start earlier (.ok ()) middle ∧
      Handled (call failing) (noted failing) middle attempts (.error fault) after ∧
      outcome = .error fault := by
  -- A call that fails parts the list, and one with an answer stands before wherever that is.
  induction inTurn with
  | all => exact .inl ⟨rfl, rfl⟩
  | @next vm later site middle after attempts visits outcome first others ih =>
    -- The first call had an answer, so it is up to the others.
    obtain ⟨fine, all⟩ | ⟨before, failing, rest, earlier, last, fault, reached, split, seen, named, well,
      failed, told⟩ := ih
    · exact .inl ⟨fine, by rw [List.map_cons, all]⟩
    · exact .inr ⟨vm :: before, failing, rest, ⟨vm, attempts⟩ :: earlier, last, fault, reached,
        by rw [split, List.cons_append], by rw [seen, List.cons_append], by rw [List.map_cons, named],
        .next first well, failed, told⟩
  | @failed vm later site after attempts fault first =>
    exact .inr ⟨[], vm, later, [], attempts, fault, site, rfl, rfl, rfl, .all site, first, rfl⟩

end InTurn

/-- Under each key instances have names of their own. -/
def Cloud.Distinct (cloud : Cloud) : Prop :=
  ∀ key, ((cloud.under key).map Instance.name).Nodup

/-- What calls do to a cloud adds up to an effect for all of their virtual machines: none where zones stay,
and that of each call after that of those before. -/
structure Accumulates (done : Vm → Site → Unit → Cloud → Prop) (effect : Roster → Cloud → Cloud → Prop) :
    Prop where
  of_zones : ∀ {first second : Cloud}, second.zones = first.zones → effect [] first second
  of_done : ∀ {vm : Vm} {site : Site} {cloud : Cloud}, site.cloud.Distinct → done vm site () cloud →
    effect [vm] site.cloud cloud
  trans : ∀ {vms others : Roster} {first second third : Cloud}, effect vms first second →
    effect others second third → effect (vms ++ others) first third
  distinct : ∀ {vms : Roster} {first second : Cloud}, effect vms first second → first.Distinct →
    second.Distinct

variable {effect : Roster → Cloud → Cloud → Prop}

/-- When all calls have answers the effect is that for all virtual machines. -/
theorem InTurn.accumulated (goes : ∀ vm, Client.Goes (call vm) (noted vm) (done vm))
    (accumulates : Accumulates done effect) {vms : Roster} {start after : Site} {visits : List Visit}
    {outcome : Except Fault Unit} (inTurn : InTurn call noted vms start visits outcome after)
    (fine : outcome = .ok ()) (distinct : start.cloud.Distinct) : effect vms start.cloud after.cloud := by
  -- Attempts that failed have no effect, and the one that did not has that of its call.
  induction inTurn with
  | all => exact accumulates.of_zones rfl
  | @next vm later site middle after _ _ _ first others ih =>
    obtain ⟨_, failed, _⟩ | ⟨last, _, zones, done⟩ := first.reached (goes vm)
    · -- This call has an answer, as the batch goes on behind it.
      cases failed
    have still : effect [] site.cloud last.cloud := accumulates.of_zones zones
    have own := accumulates.trans still
      (accumulates.of_done (accumulates.distinct still distinct) done)
    exact accumulates.trans own (ih fine (accumulates.distinct own distinct))
  | failed => cases fine

/-- How far a batch of calls came. The virtual machines were seen to in turn, and nothing that was done to
the outside names another. If all is well the effect is that for all of them. If not, it is that for those
before the one whose call failed, which was the last to be seen to. -/
structure Progress (call : Vm → Program Site Unit) (noted : Vm → List Event → Prop)
    (effect : Roster → Cloud → Cloud → Prop) (vms : Roster) (start : Site) (visits : List Visit)
    (outcome : Except Fault Unit) (after : Site) : Prop where
  inTurn : InTurn call noted vms start visits outcome after
  acts : Site.Acts (Visit.events visits) start after
  named : ∀ event ∈ Visit.events visits, ∀ target, event.target? = some target →
    ∃ visit ∈ visits, target = (visit.vm.zone, visit.vm.name)
  finished : outcome = .ok () → visits.map Visit.vm = vms ∧ effect vms start.cloud after.cloud
  stopped : ∀ fault, outcome = .error fault → ∃ before failing later earlier attempts middle,
    vms = before ++ failing :: later ∧ visits = earlier ++ [⟨failing, attempts⟩] ∧
    earlier.map Visit.vm = before ∧
    Handled (call failing) (noted failing) middle attempts (.error fault) after ∧
    effect before start.cloud after.cloud

/-- Calls whose effects add up come so far. -/
theorem exists_progress (goes : ∀ vm, Client.Goes (call vm) (noted vm) (done vm))
    (accumulates : Accumulates done effect)
    (aimed : ∀ vm events, noted vm events → ∀ event ∈ events, ∀ target, event.target? = some target →
      target = (vm.zone, vm.name)) (vms : Roster) {start : Site} (distinct : start.cloud.Distinct) :
    ∃ visits outcome after, (vms.forM fun vm => Client.persistently (call vm)).on start = (outcome, after) ∧
      Progress call noted effect vms start visits outcome after := by
  -- Carrying the batch out shows who was seen to, and the parts are read off from that.
  obtain ⟨visits, outcome, after, ran, inTurn⟩ := exists_inTurn goes vms start
  refine ⟨visits, outcome, after, ran, inTurn, inTurn.acts, ?_, fun fine => ?_, fun fault failed => ?_⟩
  · -- A pause names nobody, and an attempt only the one it is for.
    intro event member target aim
    obtain ⟨visit, among, member⟩ := List.mem_flatMap.mp member
    obtain rfl | ⟨events, attempt, member⟩ := Client.mem_eventsOf member
    · cases aim
    · exact ⟨visit, among, aimed visit.vm events ((inTurn.attempted visit among).noted events attempt) event
        member target aim⟩
  · -- With an answer to all calls nobody was left out.
    obtain ⟨_, all⟩ | ⟨_, _, _, _, _, _, _, _, _, _, _, _, failed⟩ := inTurn.split
    · exact ⟨all, inTurn.accumulated goes accumulates fine distinct⟩
    · cases fine.symm.trans failed
  · -- With a failure in the end, the visits part at the one that failed.
    obtain ⟨fine, _⟩ | ⟨before, failing, later, earlier, attempts, _, middle, split, seen, named, well, last,
      told⟩ := inTurn.split
    · cases failed.symm.trans fine
    · cases failed.symm.trans told
      refine ⟨before, failing, later, earlier, attempts, middle, split, seen, named, last, ?_⟩
      -- Before it all calls were answered, and they have their effect.
      obtain ⟨_, _, zones⟩ | ⟨_, fine, _⟩ := last.reached (goes failing)
      · -- The call that failed had no effect.
        have effect := accumulates.trans (well.accumulated goes accumulates rfl distinct)
          (accumulates.of_zones zones)
        rwa [List.append_nil] at effect
      · cases fine

end Batches

/-- Whether an instance under a key is the one that some virtual machine stands for. -/
def addressed (vms : Roster) (key : String) (machine : Instance) : Bool :=
  vms.any fun vm => key == Cloud.zoneKey vm.zone && machine.name == vm.name

/-- Further virtual machines address further instances. -/
theorem addressed_append (vms others : Roster) (key : String) (machine : Instance) :
    addressed (vms ++ others) key machine = (addressed vms key machine || addressed others key machine) :=
  List.any_append

/-- Under the key of its zone a virtual machine addresses what has its name. -/
theorem addressed_zoneKey (vm : Vm) (machine : Instance) :
    addressed [vm] (Cloud.zoneKey vm.zone) machine = (machine.name == vm.name) := by
  simp [addressed]

/-- Under any other key it addresses nothing. -/
theorem addressed_other {vm : Vm} {key : String} (other : key ≠ Cloud.zoneKey vm.zone)
    (machine : Instance) : addressed [vm] key machine = false := by
  simp [addressed, other]

namespace Cloud

/-- The instances of virtual machines were there and are gone. All others are as they were, in their order. -/
structure Deletes (vms : Roster) (before after : Cloud) : Prop where
  keys : after.zones.keys = before.zones.keys
  there : ∀ vm ∈ vms, ∃ machine ∈ before.under (zoneKey vm.zone), machine.name = vm.name
  left : ∀ key, after.under key = (before.under key).filter fun machine => !addressed vms key machine

/-- Removing instances one after the other adds up to deleting them. -/
theorem deletes_accumulates :
    Accumulates (fun vm site _ cloud => site.cloud.remove vm.zone vm.name = .ok cloud) Deletes where
  of_zones same := by
    -- Without a virtual machine nothing is addressed, so all of it is left.
    refine ⟨by rw [same], List.forall_mem_nil _, fun key => ?_⟩
    rw [under, same, ← under, List.filter_eq_self.mpr]
    exact fun _ _ => rfl
  of_done {vm site cloud} distinct removed := by
    refine ⟨?_, ?_, fun key => ?_⟩
    · -- To remove an instance changes the value of a key, and adds or removes none.
      obtain ⟨_, rfl⟩ := remove_eq_ok_iff.mp removed
      exact OrderedMap.keys_modify _ _ _
    · -- What was not there could not be removed.
      refine List.forall_mem_singleton.mpr ?_
      obtain ⟨machine, found⟩ := Option.ne_none_iff_exists'.mp (remove_eq_ok_iff.mp removed).1
      exact ⟨machine, find?_name found⟩
    · -- Under the key of the zone the first of the name is the only one, and no other key is touched.
      rw [under_remove removed]
      split
      · next here =>
        subst here
        rw [eraseP_eq_filter (distinct _)]
        simp only [addressed_zoneKey]
      · next other =>
        simp only [addressed_other other, Bool.not_false, List.filter_true]
  trans {vms others first second third} one other := by
    refine ⟨other.keys.trans one.keys, fun vm member => ?_, fun key => ?_⟩
    · -- What is deleted later was there at that time, and what is deleted first was there before.
      rcases List.mem_append.mp member with member | member
      · exact one.there vm member
      · -- What is there later was there before.
        obtain ⟨machine, held, named⟩ := other.there vm member
        rw [one.left] at held
        exact ⟨machine, List.mem_of_mem_filter held, named⟩
    · -- What is left is what neither the first nor the others stand for.
      rw [other.left, one.left, List.filter_filter]
      refine List.filter_congr fun machine _ => ?_
      rw [addressed_append, Bool.not_or, Bool.and_comm]
  distinct deletes distinct key := by
    rw [deletes.left]
    exact (distinct key).sublist (List.filter_sublist.map _)

/-- An instance was renewed if it is the one that some virtual machine stands for, and else it is as it
was. -/
def RenewedFor (written : String) (vms : Roster) (key : String) (before after : Instance) : Prop :=
  if addressed vms key before then Renewed written before after else after = before

namespace RenewedFor

variable {written key : String} {vms others : Roster} {first second third : Instance}

/-- What no virtual machine stands for stays. -/
theorem refl (other : addressed vms key first = false) : RenewedFor written vms key first first := by
  rw [RenewedFor, other]
  rfl

/-- An instance keeps its name. -/
theorem name (renewed : RenewedFor written vms key first second) : second.name = first.name := by
  unfold RenewedFor at renewed
  -- Whether it was renewed or left alone, its name is the same.
  split at renewed
  · obtain ⟨_, rfl⟩ := renewed
    rfl
  · rw [renewed]

/-- What is renewed for some virtual machines, and then for others, is renewed for all of them. -/
theorem trans (one : RenewedFor written vms key first second)
    (other : RenewedFor written others key second third) :
    RenewedFor written (vms ++ others) key first third := by
  -- An instance keeps its name, so it is the one that virtual machines stand for before and after.
  have same : addressed others key second = addressed others key first := by
    simp only [addressed, one.name]
  rw [RenewedFor, same] at other
  rw [RenewedFor] at one ⊢
  rw [addressed_append]
  -- Whether it was renewed before and whether it is renewed again are two questions.
  cases early : addressed vms key first <;> cases late : addressed others key first <;>
    rw [early] at one <;> rw [late] at other
  · exact other.trans one
  · exact (show second = first from one) ▸ other
  · exact (show third = second from other) ▸ one
  · exact Renewed.trans one other

end RenewedFor

/-- The instances of virtual machines were there and are renewed in their places. All others are as they
were. -/
structure Extends (written : String) (vms : Roster) (before after : Cloud) : Prop where
  keys : after.zones.keys = before.zones.keys
  there : ∀ vm ∈ vms, ∃ machine ∈ before.under (zoneKey vm.zone), machine.name = vm.name
  each : ∀ key, List.Forall₂ (RenewedFor written vms key) (before.under key) (after.under key)

/-- Where names do not repeat, a change of the first instance of a name that renews it renews the one
instance that the virtual machine of that name stands for. -/
theorem renewedFor_changeFirst {written : String} {vm : Vm} {change : Instance → Instance}
    {machine : Instance} (changed : Renewed written machine (change machine)) {instances : List Instance}
    (distinct : (instances.map Instance.name).Nodup)
    (held : instances.find? (fun machine => machine.name == vm.name) = some machine) :
    List.Forall₂ (RenewedFor written [vm] (zoneKey vm.zone)) instances
      (changeFirst vm.name change instances) := by
  -- The induction goes on up to the first of the name.
  induction instances with
  | nil => cases held
  | cons first rest ih =>
    obtain ⟨fresh, distinct⟩ := List.nodup_cons.mp distinct
    rw [List.find?_cons] at held
    rw [changeFirst]
    by_cases same : first.name = vm.name
    · -- The first of the name is the one that was looked for, and none of the rest has the name.
      rw [beq_iff_eq.mpr same] at held
      cases held
      rw [if_pos (beq_iff_eq.mpr same)]
      refine .cons ?_ (List.forall₂_same.mpr fun other member => .refl ?_)
      · -- The first of the name is renewed, and it is the one that is addressed.
        rwa [RenewedFor, addressed_zoneKey, if_pos (beq_iff_eq.mpr same)]
      · -- Behind it nobody goes by the name, so all of them stay.
        rw [addressed_zoneKey, beq_eq_false_iff_ne]
        exact fun named => fresh (List.mem_map.mpr ⟨other, member, named.trans same.symm⟩)
    · -- The first is not of the name, so it stays, and the one that is looked for is further on.
      rw [beq_eq_false_iff_ne.mpr same] at held
      rw [if_neg (by simpa using same)]
      refine .cons (.refl ?_) (ih distinct held)
      rw [addressed_zoneKey, beq_eq_false_iff_ne]
      exact same

/-- Setting lifetimes one after the other adds up to extending the instances. -/
theorem extends_accumulates (written : String) :
    Accumulates (fun vm site _ cloud => ∃ machine, site.cloud.find? vm.zone vm.name = some machine ∧
      site.cloud.relabel vm.zone vm.name (machine.labels.insert lifetimeLabel written) = .ok cloud)
      (Extends written) where
  of_zones same := by
    -- Without a virtual machine nothing is addressed, and every instance stays.
    refine ⟨by rw [same], List.forall_mem_nil _, fun key => ?_⟩
    rw [under, under, same]
    exact List.forall₂_same.mpr fun _ _ => .refl rfl
  of_done {vm site cloud} distinct done := by
    obtain ⟨machine, held, relabelled⟩ := done
    refine ⟨?_, List.forall_mem_singleton.mpr ⟨machine, find?_name held⟩, fun key => ?_⟩
    · -- To replace labels changes the value of a key, and adds or removes none.
      obtain ⟨_, rfl⟩ := relabel_eq_ok_iff.mp relabelled
      exact OrderedMap.keys_modify _ _ _
    · -- The labels that are set are those that were found, with the lifetime in its place.
      rw [under_relabel relabelled]
      split
      · next here =>
        subst here
        exact renewedFor_changeFirst ⟨_, rfl⟩ (distinct _) held
      · next other => exact List.forall₂_same.mpr fun machine _ => .refl (addressed_other other machine)
  trans {vms others first second third} one other := by
    refine ⟨other.keys.trans one.keys, fun vm member => ?_, fun key =>
      forall₂_trans .trans (one.each key) (other.each key)⟩
    -- What is extended later was there at that time, and what is extended first was there before.
    rcases List.mem_append.mp member with member | member
    · exact one.there vm member
    · -- What is there later was there before, under the same name.
      obtain ⟨machine, held, named⟩ := other.there vm member
      obtain ⟨before, present, renewed⟩ := exists_of_mem_forall₂ (one.each _).flip held
      exact ⟨before, present, (RenewedFor.name renewed).symm.trans named⟩
  distinct {vms first second} extended distinct key := by
    -- To be renewed is to keep the name, so each key has the same names.
    have same : (second.under key).map Instance.name = (first.under key).map Instance.name :=
      map_eq_of_forall₂ (extended.each key) fun _ _ renewed => RenewedFor.name renewed
    exact same ▸ distinct key

end Cloud

/-- An attempt at a call names only what the call is about. -/
theorem Client.CallEvents.target {asked : Event} {events : List Event}
    (form : Client.CallEvents asked events) {event : Event} (member : event ∈ events)
    {target : String × String} (aim : event.target? = some target) : asked.target? = some target := by
  -- Building a client names nobody.
  obtain rfl | rfl | rfl := form
  · rw [List.mem_singleton.mp member] at aim
    cases aim
  · rwa [← List.mem_singleton.mp member]
  · rcases List.mem_cons.mp member with rfl | member
    · cases aim
    · rwa [← List.mem_singleton.mp member]

/-- An attempt to set a lifetime names only the instance that it is for. -/
theorem Client.LifetimeEvents.target {found zone name : String} {lifetime : Duration} {events : List Event}
    (form : Client.LifetimeEvents found zone name lifetime events) {event : Event} (member : event ∈ events)
    {target : String × String} (aim : event.target? = some target) : target = (zone, name) := by
  -- The instance is looked up first, and then its labels are set.
  obtain form | ⟨before, machine, form, rfl⟩ := form
  · exact (Option.some.inj (form.target member aim)).symm
  · rcases List.mem_append.mp member with member | member
    · exact (Option.some.inj (form.target member aim)).symm
    · rw [List.mem_singleton.mp member] at aim
      exact (Option.some.inj aim).symm

/-- Deleting and extending virtual machines act on a prefix of them, once the project is found. They are
seen to in turn, each in one to three attempts with a wait of four seconds before each further one, up to the
first whose attempts all fail. Its last failure is that of all, the instances of those before it are deleted
or renewed, no other instance is changed, and nobody behind it is named. If none fails, all are deleted or
renewed. -/
theorem delete_extend_progress (vms : Roster) {site resolved : Site} {found : String}
    (resolves : project.on site = (.ok found, resolved)) (distinct : site.cloud.Distinct) :
    resolved.cloud.zones = site.cloud.zones ∧
    (∃ visits outcome after, (delete vms).on site = (outcome, after) ∧
      Progress (fun vm => Client.delete found vm.zone vm.name)
        (fun vm => Client.CallEvents (.deleted found vm.zone vm.name)) Cloud.Deletes
        vms resolved visits outcome after) ∧
    ∀ lifetime : Duration, ∃ visits outcome after, (extend vms lifetime).on site = (outcome, after) ∧
      Progress (fun vm => Client.setLifetime found vm.zone vm.name lifetime)
        (fun vm => Client.LifetimeEvents found vm.zone vm.name lifetime) (Cloud.Extends lifetime.text)
        vms resolved visits outcome after := by
  -- Looking the project up leaves all zones as they are.
  have zones := (project_resolves resolves).zones
  have distinct : resolved.cloud.Distinct := fun key => by
    rw [Cloud.under, zones, ← Cloud.under]
    exact distinct key
  refine ⟨zones, ?_, fun lifetime => ?_⟩
  · -- To delete names the instance and nobody else, in every form of attempt.
    obtain ⟨visits, outcome, after, ran, progress⟩ :=
      exists_progress (fun vm => Client.delete_goes found vm.zone vm.name) Cloud.deletes_accumulates
        (fun vm events form event member target aim =>
          (Option.some.inj (form.target member aim)).symm) vms distinct
    exact ⟨visits, outcome, after, (Program.on_bind_ok resolves _).trans ran, progress⟩
  · -- To set a lifetime names it too, in the look-up and in the change of its labels.
    obtain ⟨visits, outcome, after, ran, progress⟩ :=
      exists_progress (fun vm => Client.setLifetime_goes found vm.zone vm.name lifetime)
        (Cloud.extends_accumulates lifetime.text)
        (fun vm events form event member target aim => form.target member aim) vms distinct
    exact ⟨visits, outcome, after, (Program.on_bind_ok resolves _).trans ran, progress⟩

/-- A virtual machine of a name where the instances of `siteWith` are. -/
def placedVm (name : String) : Vm :=
  { name := name, provider := providerName, createdAt := firstNoon, zone := "us-east1-b" }

/-- A site with three instances where the first attempt for `web` fails, and each of three attempts for
`db`. -/
def stuckSite : Site :=
  let site := siteWith [labelledInstance "web" [], labelledInstance "db" [], labelledInstance "cache" []]
  { site with cloud := { site.cloud with
      faults := .ofList [("delete:web", [some busy]), ("delete:db", List.replicate 3 (some busy)),
        ("get:web", [some busy]), ("set_labels:db", List.replicate 3 (some busy))] } }

/-- Virtual machines for all three instances. -/
def threeVms : Roster := [placedVm "web", placedVm "db", placedVm "cache"]

/-- On the stuck site `web` is deleted or renewed in the second attempt, `db` is not in any of three, and
`cache` is not asked for. Four seconds are waited before each further attempt. -/
theorem delete_extend_progress_stuckSite :
    project.on stuckSite = (.ok "lab", stuckSite) ∧ stuckSite.cloud.Distinct ∧
    (∃ deleted before failing later, (delete threeVms).on stuckSite = (.error busy, deleted) ∧
      threeVms = before ++ failing :: later ∧ Cloud.Deletes before stuckSite.cloud deleted.cloud ∧
      (deleted.cloud.under (Cloud.zoneKey "us-east1-b")).map Instance.name = ["db", "cache"] ∧
      deleted.trace = [.clientBuilt, .deleted "lab" "us-east1-b" "web", .waited 4,
        .deleted "lab" "us-east1-b" "web",
        .deleted "lab" "us-east1-b" "db", .waited 4, .deleted "lab" "us-east1-b" "db", .waited 4,
        .deleted "lab" "us-east1-b" "db"]) ∧
    ∃ extended before failing later, (extend threeVms .twelveHours).on stuckSite = (.error busy, extended) ∧
      threeVms = before ++ failing :: later ∧
      Cloud.Extends Duration.twelveHours.text before stuckSite.cloud extended.cloud ∧
      (extended.cloud.under (Cloud.zoneKey "us-east1-b")).map (fun machine =>
        machine.labels.get? lifetimeLabel) = [some "12h0m0s", none, none] ∧
      extended.trace = [.clientBuilt, .fetched "lab" "us-east1-b" "web", .waited 4,
        .fetched "lab" "us-east1-b" "web",
        .relabelled "lab" "us-east1-b" "web" (.ofList [("lifetime", "12h0m0s")]) "",
        .fetched "lab" "us-east1-b" "db",
        .relabelled "lab" "us-east1-b" "db" (.ofList [("lifetime", "12h0m0s")]) "", .waited 4,
        .fetched "lab" "us-east1-b" "db",
        .relabelled "lab" "us-east1-b" "db" (.ofList [("lifetime", "12h0m0s")]) "", .waited 4,
        .fetched "lab" "us-east1-b" "db",
        .relabelled "lab" "us-east1-b" "db" (.ofList [("lifetime", "12h0m0s")]) ""] := by
  have resolves : project.on stuckSite = (.ok "lab", stuckSite) := rfl
  have distinct : stuckSite.cloud.Distinct := by
    -- One key has instances, whose names differ.
    intro key
    rw [Cloud.under, stuckSite, siteWith, OrderedMap.ofList, List.foldl_cons, List.foldl_nil,
      OrderedMap.get?_insert]
    split
    · decide
    · exact .nil
  -- The theorem tells how far each of the two batches came.
  obtain ⟨_, ⟨_, outcome, deleted, ran, progress⟩, extending⟩ :=
    delete_extend_progress threeVms resolves distinct
  obtain ⟨_, result, extended, ranToo, progressToo⟩ := extending .twelveHours
  -- What becomes of the two calls, and what each of them asks and waits, is found by carrying them out.
  have stuck : ((delete threeVms).on stuckSite).1 = .error busy := by decide +kernel
  have stuckToo : ((extend threeVms .twelveHours).on stuckSite).1 = .error busy := by decide +kernel
  refine ⟨resolves, distinct, ?_, ?_⟩
  · rw [ran] at stuck
    cases stuck
    -- As the batch failed, it parts the roster, and what stands before the failure has its effect.
    obtain ⟨before, failing, later, _, _, _, split, _, _, _, effect⟩ := progress.stopped busy rfl
    obtain rfl : ((delete threeVms).on stuckSite).2 = deleted := by rw [ran]
    exact ⟨_, before, failing, later, ran, split, effect, by decide +kernel, by decide +kernel⟩
  · rw [ranToo] at stuckToo
    cases stuckToo
    obtain ⟨before, failing, later, _, _, _, split, _, _, _, effect⟩ := progressToo.stopped busy rfl
    obtain rfl : ((extend threeVms .twelveHours).on stuckSite).2 = extended := by rw [ranToo]
    exact ⟨_, before, failing, later, ranToo, split, effect, by decide +kernel, by decide +kernel⟩

end Compute

end Fleet
