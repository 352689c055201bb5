import Fleet.Proofs.Compute.Batch

/-! Lifetimes are set by reading anew: whenever labels are to be replaced, the attempt that asks for it has
just looked the instance up, and writes back what it found then. -/

namespace Fleet

/-- Whether something done to the outside asks for labels to be replaced. -/
def Event.relabels : Event → Bool
  | .relabelled _ _ _ _ _ => true
  | _ => false

namespace Compute

/-- Whenever labels are to be replaced among some events, so it is made after all that was done before. -/
def Requests (made : List Event → Event → Prop) (sofar events : List Event) : Prop :=
  ∀ before request later, events = before ++ request :: later → request.relabels = true →
    made (sofar ++ before) request

namespace Requests

variable {made other : List Event → Event → Prop} {sofar events more : List Event}

/-- Events that ask for no labels can come at any time. -/
theorem silent (quiet : ∀ event ∈ events, event.relabels = false) : Requests made sofar events := by
  rintro before request later rfl asks
  exact absurd (quiet request (by simp)) (by simp [asks])

/-- What is asked for after other events is asked for after all that was done before those, too. -/
theorem append (early : Requests made sofar events) (late : Requests made (sofar ++ events) more) :
    Requests made sofar (events ++ more) := by
  -- A request stands among the first events or among those that follow.
  intro before request later same asks
  obtain ⟨between, rfl, rest⟩ | ⟨between, rfl, rest⟩ := List.append_eq_append_iff.mp same
  · rw [← List.append_assoc]
    exact late between request later rest asks
  · cases between with
    | nil =>
      -- It opens the events that follow.
      simpa using late [] request later rest.symm asks
    | cons first between =>
      obtain ⟨rfl, rfl⟩ := List.cons.inj rest
      exact early before request between rfl asks

/-- A request that is made in one way is made in a more general one. -/
theorem mono (general : ∀ sofar request, made sofar request → other sofar request)
    (requests : Requests made sofar events) : Requests other sofar events :=
  fun before request later same asks => general _ _ (requests before request later same asks)

/-- One request after events that ask for nothing is made after all of them. -/
theorem concat {request : Event} (quiet : ∀ event ∈ events, event.relabels = false)
    (last : made (sofar ++ events) request) : Requests made sofar (events ++ [request]) := by
  refine (silent quiet).append ?_
  intro before only later same _
  -- A single event has nothing before it.
  obtain ⟨rfl, rfl, -⟩ : before = [] ∧ only = request ∧ later = [] := by
    cases before with
    | nil => simpa [eq_comm] using same
    | cons => simp at same
  rwa [List.append_nil]

end Requests

/-- A request for new labels that an attempt makes which began at a site. The last that was done before is the
look-up of the instance, at most a client was built before that, and the instance was found. The request names
the project, the zone and the instance that were looked up, and the fingerprint that was found there. Its
labels are those that were found but for the lifetime. -/
def Reread (found : String) (lifetime : Duration) (vm : Vm) (start : Site) (sofar : List Event)
    (request : Event) : Prop :=
  ∃ client machine read, (client = [] ∨ client = [Event.clientBuilt]) ∧
    sofar = start.trace ++ client ++ [.fetched found vm.zone vm.name] ∧
    (Client.fetch found vm.zone vm.name).on start = (.ok machine, read) ∧ read.trace = sofar ∧
    start.cloud.find? vm.zone vm.name = some machine ∧
    request = .relabelled found vm.zone vm.name (machine.labels.insert lifetimeLabel lifetime.text)
      machine.fingerprint

/-- An attempt to set the lifetime of one of several virtual machines begins at a site: those before it have
been seen to, and of its own attempts at most two have failed. -/
inductive Begins (found : String) (lifetime : Duration) : Roster → Site → Vm → Site → Prop where
  | own {vm : Vm} {later : Roster} {site start : Site} {count : Nat} (few : count ≤ 2)
      (tries : Program.Tries (Site.pause 4)
        (Client.setLifetime found vm.zone vm.name lifetime) count site start) :
      Begins found lifetime (vm :: later) site vm start
  | next {vm other : Vm} {later : Roster} {site middle start : Site}
      (first : (Client.persistently (Client.setLifetime found vm.zone vm.name lifetime)).on site =
        (.ok ⟨⟩, middle))
      (begins : Begins found lifetime later middle other start) :
      Begins found lifetime (vm :: later) site other start

/-- An attempt at a call asks for no labels, if the call is for something else. -/
theorem Client.CallEvents.relabels {asked : Event} {events : List Event}
    (form : Client.CallEvents asked events) (other : asked.relabels = false) :
    ∀ event ∈ events, event.relabels = false := by
  obtain rfl | rfl | rfl := form <;> simp only [List.forall_mem_cons, other] <;>
    simp [Event.relabels]

/-- A look-up that has an answer is the last that was done, and the answer is what the cloud has. -/
theorem fetch_ok {found zone name : String} {machine : Instance} {start read : Site}
    (ran : (Client.fetch found zone name).on start = (.ok machine, read)) :
    ∃ client, (client = [] ∨ client = [Event.clientBuilt]) ∧
      Site.Calls (client ++ [.fetched found zone name]) start read ∧
      start.cloud.find? zone name = some machine := by
  -- There is a client, so the instance is asked for, and no fault is met.
  obtain ⟨_, _, readied, ran⟩ := Program.bind_ok ran
  obtain ⟨_, client, ready, form, _, building, same⟩ := Client.on_ready start
  obtain ⟨-, rfl⟩ := Prod.mk.inj (same.symm.trans readied)
  obtain ⟨_, _, asked, ran⟩ := Program.bind_ok ran
  obtain rfl := (Prod.mk.inj asked).2
  have calls := building.trans (Site.note_calls (.fetched found zone name) ready)
  obtain ⟨_, _, meeting, ran⟩ := Program.bind_ok ran
  obtain ⟨_, met, taken, same⟩ := Site.on_meetFault s!"get:{name}" ((Site.note (.fetched found zone name)).run ready).2
  obtain ⟨-, rfl⟩ := Prod.mk.inj (same.symm.trans meeting)
  have calls := calls.trans taken
  rw [List.append_nil] at calls
  rw [Program.on_bind, Program.on_get] at ran
  -- Zones stay up to the look-up itself.
  rw [← Cloud.find?_of_zones calls.zones]
  cases held : met.cloud.find? zone name with
  | none => simp [held] at ran
  | some machine =>
    simp only [held, Program.on_pure, Prod.mk.injEq, Except.ok.injEq] at ran
    obtain ⟨rfl, rfl⟩ := ran
    exact ⟨client, form, calls, rfl⟩

/-- A call that asks for something, and is then up to a fault and a change of the cloud, adds one event. -/
theorem on_request (request : Event) (key : String) (change : Cloud → Except Problem Cloud) (read : Site) :
    ∃ outcome after, (do Site.note request; Site.meetFault key; Site.changeCloud change :
      Program Site Unit).on read = (outcome, after) ∧ after.trace = read.trace ++ [request] := by
  obtain ⟨outcome, after, met, same⟩ := Site.on_meetFault key ((Site.note request).run read).2
  have trace := ((Site.note_calls request read).trans met).trace
  -- The request is noted before anything can go wrong.
  rw [Program.on_bind, Program.on_lift]
  cases outcome with
  | error fault => exact ⟨_, after, Program.on_bind_error same _, trace⟩
  | ok answer =>
    -- Whether the cloud was changed or not, there is no further event.
    refine ⟨_, _, (Program.on_bind_ok same _).trans (Site.on_changeCloud change after), ?_⟩
    cases change after.cloud <;> exact trace

/-- An attempt to set a lifetime asks for labels only as it has just found them. -/
theorem setLifetime_rereads (found : String) (lifetime : Duration) (vm : Vm) (start : Site) :
    ∃ events outcome after,
      (Client.setLifetime found vm.zone vm.name lifetime).on start = (outcome, after) ∧
      after.trace = start.trace ++ events ∧
      Requests (Reread found lifetime vm start) start.trace events := by
  obtain ⟨events, read, form, calls, ⟨fault, failed⟩ | ⟨machine, _, _, fetched⟩⟩ :=
    Client.fetch_goes found vm.zone vm.name start
  · -- Without the instance nothing is asked for.
    exact ⟨events, _, read, Program.on_bind_error failed _, calls.trace, .silent (form.relabels rfl)⟩
  · -- Whatever becomes of the request, it is the last that is done.
    obtain ⟨client, built, calls, held⟩ := fetch_ok fetched
    obtain ⟨outcome, after, ran, trace⟩ := on_request (.relabelled found vm.zone vm.name
        (machine.labels.insert lifetimeLabel lifetime.text) machine.fingerprint)
      s!"set_labels:{vm.name}" (fun cloud => cloud.relabel vm.zone vm.name
        (machine.labels.insert lifetimeLabel lifetime.text)) _
    have all := trace.trans (congrArg (· ++ _) calls.trace)
    rw [List.append_assoc] at all
    refine ⟨_, outcome, after, (Program.on_bind_ok fetched _).trans ran, all, .concat ?_ ?_⟩
    · -- A client may have been built before, which asks for no labels.
      obtain rfl | rfl := built <;> simp [Event.relabels]
    · -- The last event before the request is the look-up of this very instance.
      exact ⟨client, machine, _, built, (List.append_assoc ..).symm, fetched, calls.trace, held, rfl⟩

/-- When an attempt to set a lifetime is made again, it reads anew: whatever else comes to pass in the pauses,
each attempt asks for labels only as it has found them itself. -/
theorem retry_rereads {pause : StateM Site Unit}
    (paused : ∀ site, ∃ events, (pause.run site).2.trace = site.trace ++ events ∧
      ∀ event ∈ events, event.relabels = false)
    (found : String) (lifetime : Duration) (vm : Vm) (attempt further : Nat) (site : Site) :
    ∃ events outcome after,
      ((Client.setLifetime found vm.zone vm.name lifetime).retry (fun _ => pause) attempt further).on site =
        (outcome, after) ∧
      after.trace = site.trace ++ events ∧
      Requests (fun sofar request => ∃ count ≤ further, ∃ start,
        Program.Tries pause (Client.setLifetime found vm.zone vm.name lifetime) count site start ∧
        Reread found lifetime vm start sofar request) site.trace events := by
  -- The induction is on the attempts that are left, each of which begins where the pause before it ended.
  induction further generalizing attempt site with
  | zero =>
    obtain ⟨events, outcome, after, ran, trace, requests⟩ := setLifetime_rereads found lifetime vm site
    -- The last attempt is one attempt.
    exact ⟨events, outcome, after, ran, trace,
      requests.mono fun _ _ reread => ⟨0, Nat.le_refl 0, site, .none site, reread⟩⟩
  | succ further ih =>
    obtain ⟨events, outcome, after, ran, trace, requests⟩ := setLifetime_rereads found lifetime vm site
    -- The first of several attempts begins at the site itself.
    have own : Requests (fun sofar request => ∃ count ≤ further + 1, ∃ start,
        Program.Tries pause (Client.setLifetime found vm.zone vm.name lifetime) count site start ∧
        Reread found lifetime vm start sofar request) site.trace events :=
      requests.mono fun _ _ reread => ⟨0, Nat.zero_le _, site, .none site, reread⟩
    rw [Program.on_retry_succ, ran]
    cases outcome with
    | ok answer => exact ⟨events, _, after, rfl, trace, own⟩
    | error fault =>
      by_cases broken : fault.isInterrupt = true
      · -- The user broke off, so this attempt is the last.
        exact ⟨events, _, after, if_pos broken, trace, own⟩
      · obtain ⟨between, waited, quiet⟩ := paused after
        obtain ⟨more, outcome, last, again, onward, later⟩ := ih (attempt + 1) (pause.run after).2
        have persists : fault.isInterrupt = false := by simpa using broken
        -- Nothing is asked for in a pause, and the attempts after it begin behind it.
        refine ⟨events ++ (between ++ more), outcome, last, (if_neg broken).trans again, ?_,
          own.append (.append (.silent quiet) ?_)⟩
        · rw [onward, waited, trace, List.append_assoc, List.append_assoc]
        · rw [← trace, ← waited]
          exact later.mono fun _ _ ⟨count, few, start, tries, reread⟩ =>
            ⟨count + 1, by omega, start, .again ran persists tries, reread⟩

/-- Lifetimes that are set one after the other are set by reading anew. -/
theorem extensions_reread (found : String) (lifetime : Duration) (vms : Roster) (site : Site) :
    ∃ events outcome after, (vms.forM fun vm => Client.persistently
        (Client.setLifetime found vm.zone vm.name lifetime)).on site = (outcome, after) ∧
      after.trace = site.trace ++ events ∧
      Requests (fun sofar request => ∃ vm start, Begins found lifetime vms site vm start ∧
        Reread found lifetime vm start sofar request) site.trace events := by
  -- The induction is on the virtual machines, from the site that those before them left.
  induction vms generalizing site with
  | nil => exact ⟨[], .ok ⟨⟩, site, rfl, (List.append_nil _).symm, .silent (List.forall_mem_nil _)⟩
  | cons vm later ih =>
    -- A pause is noted as such and does nothing else.
    have paused (site : Site) : ∃ events,
        ((Site.pause 4).run site).2.trace = site.trace ++ events ∧
        ∀ event ∈ events, event.relabels = false :=
      ⟨[.waited 4], rfl, List.forall_mem_singleton.mpr rfl⟩
    obtain ⟨events, outcome, middle, ran, trace, requests⟩ :=
      retry_rereads paused found lifetime vm 1 2 site
    rw [← Client.persistently_eq] at ran
    have own : Requests (fun sofar request => ∃ other start,
        Begins found lifetime (vm :: later) site other start ∧
        Reread found lifetime other start sofar request) site.trace events := by
      refine requests.mono fun _ _ begun => ?_
      obtain ⟨_, few, start, tries, reread⟩ := begun
      -- What was asked for so far was asked for by one of the attempts for the first one.
      exact ⟨vm, start, .own few tries, reread⟩
    rw [List.forM]
    cases outcome with
    -- It failed, so those behind it have no turn.
    | error fault => exact ⟨events, _, middle, Program.on_bind_error ran _, trace, own⟩
    | ok answer =>
      -- Those behind begin where the first one left off.
      obtain ⟨more, outcome, after, further, onward, others⟩ := ih middle
      refine ⟨events ++ more, outcome, after, (Program.on_bind_ok ran _).trans further,
        by rw [onward, trace, List.append_assoc], own.append ?_⟩
      rw [← trace]
      refine others.mono fun _ _ begun => ?_
      obtain ⟨other, start, begins, reread⟩ := begun
      exact ⟨other, start, .next ran begins, reread⟩

/-- An instance is as it was, or it is one that some virtual machine stands for and was renewed. -/
def Touched (written : String) (vms : Roster) (key : String) (before after : Instance) : Prop :=
  after = before ∨ addressed vms key before = true ∧ Renewed written before after

/-- What is touched twice was touched. -/
theorem Touched.trans {written key : String} {vms : Roster} {first second third : Instance}
    (one : Touched written vms key first second) (other : Touched written vms key second third) :
    Touched written vms key first third := by
  -- An instance that was left alone the first time has changed at most once.
  obtain rfl | ⟨meant, renewed⟩ := one
  · exact other
  · obtain rfl | ⟨_, again⟩ := other
    · exact .inr ⟨meant, renewed⟩
    · exact .inr ⟨meant, renewed.trans again⟩

/-- From one cloud to another keys and instances stay in their order. Only instances that virtual machines stand
for are renewed, and no other is changed. -/
structure Cloud.Touches (written : String) (vms : Roster) (before after : Cloud) : Prop where
  keys : after.zones.keys = before.zones.keys
  each : ∀ key, List.Forall₂ (Touched written vms key) (before.under key) (after.under key)

namespace Cloud.Touches

variable {written : String} {vms : Roster} {first second third : Cloud}

/-- Where zones stay nothing is touched. -/
theorem of_zones (same : second.zones = first.zones) : Touches written vms first second := by
  refine ⟨by rw [same], fun key => ?_⟩
  rw [under, under, same]
  exact List.forall₂_same.mpr fun _ _ => .inl rfl

/-- What is touched later is touched, too. -/
theorem trans (one : Touches written vms first second) (other : Touches written vms second third) :
    Touches written vms first third :=
  ⟨other.keys.trans one.keys, fun key => forall₂_trans .trans (one.each key) (other.each key)⟩

/-- To set the lifetime of a virtual machine touches its instance. -/
theorem of_relabel {vm : Vm} (member : vm ∈ vms) {machine : Instance}
    (held : first.find? vm.zone vm.name = some machine)
    (relabelled : first.relabel vm.zone vm.name (machine.labels.insert lifetimeLabel written) =
      .ok second) : Touches written vms first second := by
  refine ⟨(Renews.of_relabel (List.mem_singleton_self _) held relabelled).keys, fun key => ?_⟩
  rw [under_relabel relabelled]
  -- Under another key nothing is done at all.
  split
  · next here =>
    -- Under the key of its zone what is renewed has its name.
    subst here
    refine (Renews.forall₂_changeFirst (List.mem_singleton_self _) ⟨_, rfl⟩ held).imp
      fun _ _ becomes => becomes.imp_right fun ⟨named, renewed⟩ => ⟨?_, renewed⟩
    rw [addressed, List.any_eq_true]
    exact ⟨vm, member, by simpa using named⟩
  · exact List.forall₂_same.mpr fun _ _ => .inl rfl

end Cloud.Touches

/-- All but the instances that virtual machines stand for is kept. -/
def touching (vms : Roster) (written : String) : Frame Site where
  Kept before after := before.cloud.Touches written vms after.cloud
  refl _ := .of_zones rfl
  trans := .trans

/-- To set lifetimes touches nothing but the instances of the virtual machines, however far it goes. -/
theorem touching_extend (vms : Roster) (lifetime : Duration) :
    (touching vms lifetime.text).Around (extend vms lifetime) := by
  -- The look-up leaves the zones.
  have looked : (touching vms lifetime.text).Around project := fun site =>
    .of_zones (project_resolves (Prod.mk.eta (p := project.on site)).symm).zones
  refine looked.bind fun {_ found _} _ => Frame.Around.forM fun vm member site => ?_
  obtain ⟨_, middle, _, calls, ⟨_, failed, _⟩ | ⟨_, cloud, ⟨machine, held, relabelled⟩, done⟩⟩ :=
    (Client.setLifetime_goes found vm.zone vm.name lifetime).persistently site
  · -- All attempts failed, and leave the zones.
    rw [failed]
    exact .of_zones calls.zones
  · -- The last attempt changed one instance, and those before it none.
    rw [done]
    exact (Cloud.Touches.of_zones calls.zones).trans (.of_relabel member held relabelled)

/-- Extending is a fresh reading and writing back for each virtual machine. Whenever labels are to be replaced,
the attempt that asks for it has just looked up the same instance of the same project, found it, and done nothing
since. It sends the fingerprint that it found, and the labels that it found with the lifetime alone set anew. In
the cloud that is left all instances are as before but for the lifetimes and fingerprints of those that the
virtual machines stand for. -/
theorem extend_rereads (vms : Roster) (lifetime : Duration) (site : Site) :
    ∃ events outcome after, (extend vms lifetime).on site = (outcome, after) ∧
      after.trace = site.trace ++ events ∧
      Requests (fun sofar request => ∃ found resolved vm start,
        project.on site = (.ok found, resolved) ∧ Begins found lifetime vms resolved vm start ∧
        Reread found lifetime vm start sofar request) site.trace events ∧
      Cloud.Touches lifetime.text vms site.cloud after.cloud := by
  have touches := touching_extend vms lifetime site
  rcases resolves : project.on site with ⟨fault | found, resolved⟩ <;>
    obtain ⟨asked, trace, silent⟩ := project_trace resolves
  -- The tool is asked for nothing but the project.
  all_goals
    have quiet : ∀ event ∈ asked, event.relabels = false := fun event member => by
      rw [silent event member]
      rfl
  · -- Without a project nothing else is done.
    have failed : (extend vms lifetime).on site = (.error fault, resolved) :=
      Program.on_bind_error resolves _
    exact ⟨asked, _, _, failed, trace, .silent quiet, by rwa [failed] at touches⟩
  · -- With a project lifetimes are set one after the other, behind the look-up.
    obtain ⟨events, outcome, after, ran, onward, requests⟩ := extensions_reread found lifetime vms resolved
    have done : (extend vms lifetime).on site = (outcome, after) :=
      (Program.on_bind_ok resolves _).trans ran
    refine ⟨asked ++ events, outcome, after, done, by rw [onward, trace, List.append_assoc],
      (Requests.silent quiet).append ?_, by rwa [done] at touches⟩
    rw [← trace]
    exact requests.mono fun _ _ ⟨vm, start, begins, reread⟩ =>
      ⟨found, resolved, vm, start, rfl, begins, reread⟩

/-- On the stuck site `db` is looked up anew before each of three requests, the last of which fails, too. -/
example : (((extend [placedVm "db"] .twelveHours).on stuckSite).2.trace.map Event.relabels) =
    [false, false, true, false, false, true, false, false, true] := by
  decide +kernel

end Compute

end Fleet
