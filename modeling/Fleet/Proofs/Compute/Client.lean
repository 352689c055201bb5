import Fleet.Compute.Client
import Fleet.Proofs.Compute.Cloud
import Fleet.Proofs.Program

/-! Laws of calls to the cloud: an attempt that fails leaves all zones as they are, one that answers does
what the call is for, and there are at most three of them. -/

namespace Fleet

namespace Site

/-- Nothing but the cloud, the trace and the log is changed, and the trace goes on with some events. -/
structure Acts (events : List Event) (before after : Site) : Prop where
  rest : after = { before with cloud := after.cloud, trace := after.trace, log := after.log }
  trace : after.trace = before.trace ++ events

/-- It acts, and all zones stay as they are. -/
structure Calls (events : List Event) (before after : Site) : Prop extends
    Acts events before after where
  zones : after.cloud.zones = before.cloud.zones

variable {first second third : Site} {early late : List Event}

/-- Nothing is done without an event. -/
theorem Acts.refl (site : Site) : Acts [] site site := ⟨rfl, by simp⟩

/-- The events of what is done later come later. -/
theorem Acts.trans (one : Acts early first second) (other : Acts late second third) :
    Acts (early ++ late) first third :=
  ⟨by rw [other.rest, one.rest], by rw [other.trace, one.trace, List.append_assoc]⟩

/-- The clock stands. -/
theorem Acts.clock (acts : Acts early first second) : second.clock = first.clock := by
  rw [acts.rest]

/-- The settings stay. -/
theorem Acts.settings (acts : Acts early first second) : second.settings = first.settings := by
  rw [acts.rest]

/-- The tool stays. -/
theorem Acts.tool (acts : Acts early first second) : second.tool = first.tool := by
  rw [acts.rest]

/-- Nothing is called without an event. -/
theorem Calls.refl (site : Site) : Calls [] site site := ⟨.refl site, rfl⟩

/-- The events of what is called later come later. -/
theorem Calls.trans (one : Calls early first second) (other : Calls late second third) :
    Calls (early ++ late) first third :=
  ⟨one.toActs.trans other.toActs, by rw [other.zones, one.zones]⟩

/-- Noting an event does nothing else. -/
theorem note_calls (event : Event) (site : Site) : Calls [event] site ((note event).run site).2 :=
  ⟨⟨rfl, rfl⟩, rfl⟩

/-- Telling something on the side is no event. -/
theorem tell_calls (severity : Severity) (text : String) (site : Site) :
    Calls [] site ((tell Site severity text).run site).2 := by
  change Calls [] site (if severity.isTold site.logger.verbose then
    { site with log := site.log ++ [⟨severity, text⟩] } else site)
  -- Whether it is told depends on how much is told at all.
  split
  · exact ⟨⟨rfl, by simp⟩, rfl⟩
  · exact .refl site

/-- Meeting a fault leaves all zones as they are, whether there is one or not. -/
theorem on_meetFault (key : String) (site : Site) :
    ∃ outcome after, Calls [] site after ∧ (meetFault key).on site = (outcome, after) := by
  -- Taking a fault off its queue is all that happens to the cloud.
  have unasked (faults : Compute.FaultQueues) :
      Calls [] site { site with cloud := { site.cloud with faults := faults } } :=
    ⟨⟨rfl, by simp⟩, rfl⟩
  simp only [meetFault, Program.on_bind, Program.on_get, Program.on_set]
  -- Either none is due, or the one that is due is the fault of this attempt.
  rcases site.cloud.faults.take key with ⟨_ | fault, faults⟩
  · exact ⟨.ok ⟨⟩, _, unasked faults, rfl⟩
  · exact ⟨.error fault, _, unasked faults, rfl⟩

/-- The cloud is changed unless that is not possible, and then nothing is done. -/
theorem on_changeCloud (change : Compute.Cloud → Except Problem Compute.Cloud) (site : Site) :
    (changeCloud change).on site = match change site.cloud with
      | .ok cloud => (.ok ⟨⟩, { site with cloud := cloud })
      | .error problem => (.error (.problem problem), site) := by
  simp only [changeCloud, Program.on_bind, Program.on_get]
  cases change site.cloud <;> rfl

end Site

namespace Compute.Client

variable {α : Type}

/-- How a call goes: it notes events of some form. When it fails all zones stay as they are, and when it
answers, what it is for is done. -/
def Goes (call : Program Site α) (noted : List Event → Prop) (done : Site → α → Cloud → Prop) :
    Prop :=
  ∀ site, ∃ events middle, noted events ∧ Site.Calls events site middle ∧
    ((∃ fault, call.on site = (.error fault, middle)) ∨
      ∃ answer cloud, done middle answer cloud ∧
        call.on site = (.ok answer, { middle with cloud := cloud }))

/-- Attempts of a call come one to three times, each with events of the call's form. -/
structure Attempted (noted : List Event → Prop) (attempts : List (List Event)) : Prop where
  some : attempts ≠ []
  few : attempts.length ≤ 3
  noted : ∀ events ∈ attempts, noted events

/-- As long as doubling has not gone past the least wait, that is how long to wait. -/
theorem Backoff.seconds_eq_least {backoff : Backoff} {attempt : Nat}
    (short : backoff.first * Nat.pow 2 (attempt - 1) ≤ backoff.least) :
    backoff.seconds attempt = backoff.least :=
  Nat.max_eq_left ((Nat.min_le_left _ _).trans short)

/-- Four seconds are waited after each of the first three attempts. -/
theorem seconds_backoff {attempt : Nat} (early : attempt ≤ 3) : backoff.seconds attempt = 4 := by
  refine Backoff.seconds_eq_least ?_
  -- The third attempt is the last after which doubling has not gone past four seconds.
  calc backoff.first * Nat.pow 2 (attempt - 1) = Nat.pow 2 (attempt - 1) := Nat.one_mul _
    _ ≤ Nat.pow 2 2 := Nat.pow_le_pow_right (by decide) (by omega)

/-- A call is tried up to three times, with four seconds before the second attempt and before the third. -/
theorem persistently_eq (call : Program Site α) :
    persistently call = call.retry (fun _ => Site.pause 4) 1 2 :=
  call.retry_congr fun _ _ few => by rw [seconds_backoff (by omega)]

/-- The events of attempts in a row, with four seconds between any two. -/
def eventsOf (attempts : List (List Event)) : List Event :=
  [Event.waited 4].intercalate attempts

/-- A last attempt follows the earlier ones, with a pause after each of them. -/
theorem eventsOf_concat (attempts : List (List Event)) (last : List Event) :
    eventsOf (attempts ++ [last]) =
      (attempts.flatMap fun events => events ++ [.waited 4]) ++ last := by
  -- Between any two attempts there is a pause, so there is one before the last.
  -- The induction is on the attempts, and each but the last brings a pause with it.
  induction attempts with
  | nil => simp [eventsOf, List.intercalate_singleton]
  | cons first rest ih =>
    cases rest with
    | nil => simp [eventsOf, List.intercalate_cons_cons, List.intercalate_singleton]
    | cons next others =>
      rw [eventsOf, List.cons_append, List.cons_append, List.intercalate_cons_cons,
        ← List.cons_append, ← eventsOf, ih]
      simp

/-- The events of attempts are those of each, and pauses. -/
theorem mem_eventsOf {attempts : List (List Event)} {event : Event}
    (member : event ∈ eventsOf attempts) :
    event = .waited 4 ∨ ∃ events ∈ attempts, event ∈ events := by
  obtain rfl | ⟨earlier, final, rfl⟩ := attempts.eq_nil_or_concat
  · cases member
  · rw [List.concat_eq_append, eventsOf_concat, List.mem_append, List.mem_flatMap] at member
    -- All pauses follow an attempt before the last.
    obtain ⟨events, among, member⟩ | member := member
    · rcases List.mem_append.mp member with member | member
      · exact .inr ⟨events, by simp [among], member⟩
      · exact .inl (List.mem_singleton.mp member)
    · exact .inr ⟨final, by simp, member⟩

/-- Attempts that fail leave all zones as they are. -/
theorem Goes.tries {call : Program Site α} {noted : List Event → Prop}
    {done : Site → α → Cloud → Prop} (goes : Goes call noted done) {count : Nat} {site last : Site}
    (tries : Program.Tries (Site.pause 4) call count site last) :
    ∃ attempts : List (List Event), attempts.length = count ∧ (∀ events ∈ attempts, noted events) ∧
      Site.Calls (attempts.flatMap fun events => events ++ [.waited 4]) site last := by
  -- Each attempt that failed is followed by its pause.
  induction tries with
  | none site => exact ⟨[], rfl, by simp, .refl site⟩
  | @again count site after last fault failed persists further ih =>
    obtain ⟨attempts, rfl, each, calls⟩ := ih
    -- An attempt that fails leaves the zones, and this one did fail.
    obtain ⟨events, middle, form, called, ⟨_, same⟩ | ⟨answer, _, _, same⟩⟩ := goes site
    · obtain rfl : middle = after := by
        rw [failed] at same
        exact (Prod.mk.inj same).2.symm
      refine ⟨events :: attempts, rfl, by simpa [form] using each, ?_⟩
      exact (called.trans (Site.note_calls (.waited 4) middle)).trans calls
    · rw [failed] at same
      cases same

/-- A call is tried one to three times: the attempts before the last fail and leave all zones as they are, and
what becomes of the last becomes of all. A failure is the last only if it is the third, or if the user broke
off. -/
theorem Goes.attempts {call : Program Site α} {noted : List Event → Prop}
    {done : Site → α → Cloud → Prop} (goes : Goes call noted done) (site : Site) :
    ∃ earlier final last middle,
      Program.Tries (Site.pause 4) call earlier.length site last ∧
      (persistently call).on site = call.on last ∧
      Attempted noted (earlier ++ [final]) ∧ Site.Calls (eventsOf (earlier ++ [final])) site middle ∧
      (∀ fault, (call.on last).1 = .error fault →
        (earlier ++ [final]).length = 3 ∨ fault.isInterrupt = true) ∧
      ((∃ fault, call.on last = (.error fault, middle)) ∨
        ∃ answer cloud, done middle answer cloud ∧
          call.on last = (.ok answer, { middle with cloud := cloud })) := by
  -- The last attempt comes after those that failed, and it alone can change zones.
  -- It is tried again with the same pause throughout, as doubling does not get past four seconds.
  obtain ⟨count, few, last, tries, same, ended⟩ :=
    Program.on_retry (Site.pause 4) call 1 2 site
  rw [← persistently_eq] at same
  obtain ⟨earlier, rfl, each, before⟩ := goes.tries tries
  obtain ⟨final, middle, form, called, result⟩ := goes last
  refine ⟨earlier, final, last, middle, tries, same, ⟨by simp, by simp; omega, ?_⟩, ?_, ?_, result⟩
  · -- Each attempt, the last one too, has the form of the call.
    intro events member
    rcases List.mem_append.mp member with member | member
    · exact each events member
    · exact List.mem_singleton.mp member ▸ form
  · -- There is no pause after the last attempt.
    rw [eventsOf_concat]
    exact before.trans called
  · -- Without a third attempt the last one was not followed by another because the user broke off.
    exact fun fault failed => ended.imp (fun all => by simp [all]) fun broken => broken fault failed

/-- A call that is tried again goes as the call does, in one to three attempts. Only what the user broke
off fails before the third. -/
theorem Goes.persistently {call : Program Site α} {noted : List Event → Prop}
    {done : Site → α → Cloud → Prop} (goes : Goes call noted done) (site : Site) :
    ∃ attempts middle, Attempted noted attempts ∧ Site.Calls (eventsOf attempts) site middle ∧
      ((∃ fault, (persistently call).on site = (.error fault, middle) ∧
          (attempts.length = 3 ∨ fault.isInterrupt = true)) ∨
        ∃ answer cloud, done middle answer cloud ∧
          (persistently call).on site = (.ok answer, { middle with cloud := cloud })) := by
  obtain ⟨earlier, final, last, middle, _, same, attempted, calls, ended, result⟩ := goes.attempts site
  refine ⟨earlier ++ [final], middle, attempted, calls, ?_⟩
  -- What became of the last attempt became of all.
  rw [same]
  exact result.imp_left fun ⟨fault, failed⟩ => ⟨fault, failed, ended fault (by rw [failed])⟩

/-- A client is built with one event, unless there is one. -/
theorem on_ready (site : Site) :
    ∃ outcome events after, (events = [] ∨ events = [.clientBuilt]) ∧
      (∀ fault, outcome = .error fault → events = [.clientBuilt]) ∧
      Site.Calls events site after ∧ ready.on site = (outcome, after) := by
  -- Building is one event, and it can fail only while it is done.
  by_cases there : site.cloud.hasClient = true
  · -- There is a client already.
    refine ⟨.ok ⟨⟩, [], site, .inl rfl, by simp, .refl site, ?_⟩
    simp [ready, Program.on_bind, there]
  · -- A client is built, which may fail.
    have noted := Site.note_calls .clientBuilt site
    obtain ⟨outcome, after, calls, same⟩ :=
      Site.on_meetFault "client" ((Site.note .clientBuilt).run site).2
    -- With the fault that is met known, building comes to this.
    have built : ready.on site = match outcome with
        | .ok _ => (.ok ⟨⟩, { after with cloud := { after.cloud with hasClient := true } })
        | .error fault => (.error fault, after) := by
      simp only [ready, Program.on_bind, Program.on_get, there, Bool.false_eq_true, if_false,
        Program.on_lift, same]
      cases outcome <;> simp only [Site.on_changeCloud]
    cases outcome with
    | error fault => exact ⟨_, _, _, .inr rfl, fun _ _ => rfl, noted.trans calls, built⟩
    | ok answer =>
      -- Only now there is a client, and no zone has changed.
      have further : Site.Calls [] after
          { after with cloud := { after.cloud with hasClient := true } } := ⟨⟨rfl, by simp⟩, rfl⟩
      exact ⟨_, _, _, .inr rfl, fun _ _ => rfl, (noted.trans calls).trans further, built⟩

/-- The events of an attempt at a call that is asked for by one event. The client is built first if there is
none, and when it could not be built nothing is asked for. -/
def CallEvents (asked : Event) (events : List Event) : Prop :=
  events = [.clientBuilt] ∨ events = [asked] ∨ events = [.clientBuilt, asked]

/-- A call begins by asking, unless there is no client to ask. -/
theorem on_ask (asked : Event) (site : Site) :
    ∃ events middle, CallEvents asked events ∧ Site.Calls events site middle ∧
      ((∃ fault, ∀ next : Program Site α,
          (do ready; Site.note asked; next : Program Site α).on site = (.error fault, middle)) ∨
        ∀ next : Program Site α,
          (do ready; Site.note asked; next : Program Site α).on site = next.on middle) := by
  obtain ⟨outcome, events, first, building, failing, calls, readied⟩ := on_ready site
  -- Without a client the call ends before anything is asked for.
  cases outcome with
  | error fault =>
    exact ⟨events, first, .inl (failing fault rfl), calls,
      .inl ⟨fault, fun next => Program.on_bind_error readied _⟩⟩
  | ok answer =>
    -- With a client the event is noted, and the rest of the call goes on from there.
    refine ⟨_, _, ?_, calls.trans (Site.note_calls asked first), .inr fun next => ?_⟩
    · rcases building with rfl | rfl
      · exact .inr (.inl rfl)
      · exact .inr (.inr rfl)
    · rw [Program.on_bind_ok readied, Program.on_bind, Program.on_lift]

/-- An attempt to list the instances either fails, or answers what the cloud has. -/
theorem list_goes (project : String) :
    Goes (list project) (CallEvents (.listed project listingFilter)) fun site answer cloud =>
      answer = site.cloud.listing ∧ cloud = site.cloud := by
  intro site
  -- Without a client the attempt fails, and otherwise a fault may be due for the listing.
  obtain ⟨events, first, form, calls, ⟨fault, failed⟩ | asked⟩ :=
    on_ask (.listed project listingFilter) site
  · exact ⟨events, first, form, calls, .inl ⟨fault, failed _⟩⟩
  · obtain ⟨outcome, second, met, same⟩ := Site.on_meetFault "list" first
    refine ⟨events, second, form, by simpa using calls.trans met, ?_⟩
    rw [list, asked, Program.on_bind, same]
    cases outcome with
    | error fault => exact .inl ⟨fault, rfl⟩
    | ok answer => exact .inr ⟨_, second.cloud, ⟨rfl, rfl⟩, rfl⟩

/-- An attempt to have an instance made either fails, or adds what the request makes. -/
theorem insert_goes (project zone : String) (request : InstanceRequest) :
    Goes (insert project zone request) (CallEvents (.inserted project zone request))
      fun site _ cloud => site.cloud.add zone (request.toInstance site.clock.text) = .ok cloud := by
  -- Two faults may be met, at the call and when its result is awaited, before anything is added.
  intro site
  obtain ⟨events, first, form, calls, ⟨fault, failed⟩ | asked⟩ :=
    on_ask (.inserted project zone request) site
  · exact ⟨events, first, form, calls, .inl ⟨fault, failed _⟩⟩
  · obtain ⟨called, second, metCall, sameCall⟩ :=
      Site.on_meetFault s!"insert:{request.name}" first
    rw [insert, asked, Program.on_bind, sameCall]
    cases called with
    | error fault =>
      exact ⟨events, second, form, by simpa using calls.trans metCall, .inl ⟨fault, rfl⟩⟩
    | ok answer =>
      obtain ⟨awaited, third, metResult, sameResult⟩ :=
        Site.on_meetFault s!"insert_result:{request.name}" second
      refine ⟨events, third, form, by simpa using (calls.trans metCall).trans metResult, ?_⟩
      simp only [Program.on_bind, sameResult]
      cases awaited with
      | error fault => exact .inl ⟨fault, rfl⟩
      | ok answer =>
        -- Only a name that is taken in the zone still stands in the way.
        simp only [Program.on_get, Site.on_changeCloud]
        cases third.cloud.add zone (request.toInstance third.clock.text) with
        | error problem => exact .inl ⟨_, rfl⟩
        | ok cloud => exact .inr ⟨_, cloud, rfl, rfl⟩

/-- An attempt to look up an instance either fails, or answers what is found. -/
theorem fetch_goes (project zone name : String) :
    Goes (fetch project zone name) (CallEvents (.fetched project zone name))
      fun site answer cloud => site.cloud.find? zone name = some answer ∧ cloud = site.cloud := by
  intro site
  -- Without a client the attempt fails, and otherwise a fault may be due for the look-up.
  obtain ⟨events, first, form, calls, ⟨fault, failed⟩ | asked⟩ :=
    on_ask (.fetched project zone name) site
  · exact ⟨events, first, form, calls, .inl ⟨fault, failed _⟩⟩
  · obtain ⟨outcome, second, met, same⟩ := Site.on_meetFault s!"get:{name}" first
    refine ⟨events, second, form, by simpa using calls.trans met, ?_⟩
    rw [fetch, asked, Program.on_bind, same]
    cases outcome with
    | error fault => exact .inl ⟨fault, rfl⟩
    | ok answer =>
      simp only [Program.on_bind, Program.on_get]
      -- Nothing of the name in the zone is a failure of the attempt, too.
      cases second.cloud.find? zone name with
      | none => exact .inl ⟨_, rfl⟩
      | some machine => exact .inr ⟨machine, second.cloud, ⟨rfl, rfl⟩, rfl⟩

/-- The events of an attempt to set a lifetime: the instance is looked up, and then its labels are to be
replaced by those that were found with the lifetime in its place. -/
def LifetimeEvents (project zone name : String) (lifetime : Duration) (events : List Event) : Prop :=
  CallEvents (.fetched project zone name) events ∨
    ∃ before, ∃ machine : Instance, CallEvents (.fetched project zone name) before ∧
      events = before ++ [.relabelled project zone name
        (machine.labels.insert lifetimeLabel lifetime.text) machine.fingerprint]

/-- An attempt to set a lifetime either fails, or puts it into the labels of the instance. -/
theorem setLifetime_goes (project zone name : String) (lifetime : Duration) :
    Goes (setLifetime project zone name lifetime) (LifetimeEvents project zone name lifetime)
      fun site _ cloud => ∃ machine, site.cloud.find? zone name = some machine ∧
        site.cloud.relabel zone name (machine.labels.insert lifetimeLabel lifetime.text) =
          .ok cloud := by
  -- Zones stay between the look-up and the replacement, so the labels are those that were found.
  intro site
  -- The look-up comes first, and when it fails nothing is written.
  obtain ⟨events, first, form, calls, ⟨fault, failed⟩ | ⟨machine, _, ⟨found, rfl⟩, fetched⟩⟩ :=
    fetch_goes project zone name site
  · exact ⟨events, first, .inl form, calls, .inl ⟨fault, Program.on_bind_error failed _⟩⟩
  · -- The labels that are written are those that were found, with the lifetime in its place.
    have noted := calls.trans (Site.note_calls (.relabelled project zone name
      (machine.labels.insert lifetimeLabel lifetime.text) machine.fingerprint) first)
    obtain ⟨outcome, second, met, same⟩ := Site.on_meetFault s!"set_labels:{name}"
      ((Site.note (.relabelled project zone name
        (machine.labels.insert lifetimeLabel lifetime.text) machine.fingerprint)).run first).2
    have done := noted.trans met
    rw [List.append_nil] at done
    refine ⟨_, second, .inr ⟨events, machine, form, rfl⟩, done, ?_⟩
    rw [setLifetime, Program.on_bind_ok fetched]
    simp only [Program.on_bind, Program.on_lift, same]
    cases outcome with
    | error fault => exact .inl ⟨fault, rfl⟩
    | ok answer =>
      simp only [Site.on_changeCloud]
      -- The instance is still found, as no zone has changed since the look-up.
      have held : second.cloud.find? zone name = some machine := by
        rw [← found, Cloud.find?_of_zones (done.zones.trans calls.zones.symm)]
      -- Even now the cloud may refuse, and then it is left as it is.
      cases relabelled : second.cloud.relabel zone name
          (machine.labels.insert lifetimeLabel lifetime.text) with
      | error problem => exact .inl ⟨_, rfl⟩
      | ok cloud => exact .inr ⟨_, cloud, ⟨machine, held, relabelled⟩, rfl⟩

end Compute.Client

end Fleet
