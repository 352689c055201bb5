import Fleet.Proofs.Compute.Placement
import Mathlib.Data.List.Sort

/-! The result of creating on Compute Engine does not depend on the order in which tasks end: what a task does
is up to what it sees of the site, and no task changes what another one sees. -/

namespace Fleet

namespace Program

variable {σ τ α β : Type}

/-- A program does on a state what another one does on a view of it, if the state is fit for that, and leaves
a state that is fit, too. -/
def Mirrors (fit : σ → Prop) (view : σ → τ) (program : Program σ α) (seen : Program τ α) : Prop :=
  ∀ state, fit state → fit (program.on state).2 ∧
    seen.on (view state) = ((program.on state).1, view (program.on state).2)

namespace Mirrors

variable {fit : σ → Prop} {view : σ → τ} {program : Program σ α} {seen : Program τ α}

/-- Programs one after the other are mirrored part by part. -/
theorem bind {next : α → Program σ β} {seenNext : α → Program τ β} (first : Mirrors fit view program seen)
    (further : ∀ answer, Mirrors fit view (next answer) (seenNext answer)) :
    Mirrors fit view (program >>= next) (seen >>= seenNext) := by
  intro state fits
  obtain ⟨still, same⟩ := first state fits
  rw [on_bind, on_bind, same]
  -- Both fail, or both go on with the same answer from states that fit.
  rcases ran : program.on state with ⟨fault | answer, after⟩ <;> rw [ran] at still
  · exact ⟨still, rfl⟩
  · exact further answer after still

/-- What answers and is not seen may come before. -/
theorem after_unseen {next : α → Program σ β} {seenNext : Program τ β}
    (unseen : ∀ state, fit state → ∃ answer after, program.on state = (.ok answer, after) ∧ fit after ∧
      view after = view state) (further : ∀ answer, Mirrors fit view (next answer) seenNext) :
    Mirrors fit view (program >>= next) seenNext := by
  intro state fits
  obtain ⟨answer, after, ran, still, same⟩ := unseen state fits
  rw [on_bind_ok ran, ← same]
  exact further answer after still

/-- What is tried again is mirrored if each attempt is and pauses are not seen. -/
theorem retry (each : Mirrors fit view program seen) {pause : Nat → StateM σ Unit}
    (paused : ∀ number state, fit state →
      fit ((pause number).run state).2 ∧ view ((pause number).run state).2 = view state)
    (attempt further : Nat) :
    Mirrors fit view (program.retry pause attempt further)
      (seen.retry (fun _ => pure ()) attempt further) := by
  -- The induction is on how many attempts are left, at any number of those before.
  induction further generalizing attempt with
  | zero => exact each
  | succ further ih =>
    intro state fits
    obtain ⟨still, same⟩ := each state fits
    rw [on_retry_succ, on_retry_succ, same]
    rcases ran : program.on state with ⟨fault | answer, after⟩ <;> rw [ran] at still
    · -- Both fail with the same, so both go on or neither does.
      by_cases broken : fault.isInterrupt = true
      · simp only [broken, if_true]
        exact ⟨still, trivial⟩
      · simp only [broken, Bool.false_eq_true, if_false]
        obtain ⟨rested, unseen⟩ := paused attempt after still
        rw [← unseen]
        exact ih _ _ rested
    · exact ⟨still, rfl⟩

end Mirrors

end Program

namespace Compute

namespace FaultQueues

/-- The faults that are due for what a key stands for. -/
def due (queues : FaultQueues) (key : String) : List (Option Fault) :=
  (queues.get? key).getD []

/-- The fault that strikes is the first that is due. -/
theorem take_fst (queues : FaultQueues) (key : String) :
    (queues.take key).1 = (queues.due key).head?.join := by
  unfold take due
  rcases queues.get? key with _ | _ | ⟨next, later⟩ <;> rfl

/-- It is due no more, and what else is due stays so. -/
theorem due_take (queues : FaultQueues) (key other : String) :
    (queues.take key).2.due other =
      if other = key then (queues.due other).tail else queues.due other := by
  by_cases same : other = key
  · subst same
    unfold take due
    -- The queue that is taken from loses its first fault, if it has one.
    rcases held : queues.get? other with _ | _ | ⟨next, later⟩ <;> simp [held, OrderedMap.get?_insert]
  · -- The other queues are as they were.
    unfold take due
    rcases queues.get? key with _ | _ | ⟨next, later⟩ <;> simp [same, OrderedMap.get?_insert]

end FaultQueues

/-- The client for the cloud is there or can be built. -/
def Cloud.Buildable (cloud : Cloud) : Prop :=
  cloud.hasClient = true ∨ (cloud.faults.due "client").head?.join = none

/-- What a task to make an instance sees: the faults that are due when it asks for it and when it waits for it,
whether its zone has the name already, and what was asked for under that name before. -/
structure Outlook where
  called : List (Option Fault)
  awaited : List (Option Fault)
  taken : Bool
  asked : List (String × String × InstanceRequest)

/-- What was asked for under a name. -/
def insertionsOf (name : String) (events : List Event) : List (String × String × InstanceRequest) :=
  (insertions events).filter fun (_, _, request) => request.name == name

/-- What was asked for under a name, first before and then later. -/
theorem insertionsOf_append (name : String) (early late : List Event) :
    insertionsOf name (early ++ late) = insertionsOf name early ++ insertionsOf name late := by
  simp only [insertionsOf, insertions, List.filterMap_append, List.filter_append]

/-- What a task for a name in a zone sees of a site. -/
def outlook (zone name : String) (site : Site) : Outlook where
  called := site.cloud.faults.due s!"insert:{name}"
  awaited := site.cloud.faults.due s!"insert_result:{name}"
  taken := (site.cloud.find? zone name).isSome
  asked := insertionsOf name site.trace

namespace Outlook

/-- An instance is asked for. -/
def ask (project zone : String) (request : InstanceRequest) : Program Outlook Unit :=
  modify fun seen => { seen with asked := seen.asked ++ [(project, zone, request)] }

/-- What comes of a fault that is due, if there is one. -/
def struckBy : Option Fault → Except Fault Unit
  | some fault => .error fault
  | none => .ok ()

/-- The call meets the fault that is due. -/
def call : Program Outlook Unit := do
  let seen ← get
  set { seen with called := seen.called.tail }
  Program.ofExcept (struckBy seen.called.head?.join)

/-- The wait for its result meets the fault that is due. -/
def wait : Program Outlook Unit := do
  let seen ← get
  set { seen with awaited := seen.awaited.tail }
  Program.ofExcept (struckBy seen.awaited.head?.join)

/-- The name is taken in the zone, unless it was before. -/
def take (zone name : String) : Program Outlook Unit := do
  let seen ← get
  if seen.taken then throw (.problem (.instanceExists zone name)) else set { seen with taken := true }

/-- An attempt to have an instance made, in the eyes of its task. -/
def insert (project zone : String) (request : InstanceRequest) : Program Outlook Unit := do
  ask project zone request
  call
  wait
  take zone request.name

end Outlook

/-- Texts that begin alike are the same when they go on alike. -/
theorem append_right_inj {stem one other : String} : stem ++ one = stem ++ other ↔ one = other := by
  -- What they have in common cancels.
  refine ⟨fun same => ?_, congrArg _⟩
  have letters := congrArg String.toList same
  simp only [String.toList_append] at letters
  exact String.toList_injective (List.append_cancel_left letters)

/-- What strikes a call does not strike the wait for its result. -/
theorem insert_ne_result (one other : String) : s!"insert:{one}" ≠ s!"insert_result:{other}" := by
  intro same
  have letters := congrArg (fun text : String => text.toList[6]?) same
  simp [toString] at letters

/-- What strikes the client strikes neither. -/
theorem client_ne (name : String) : "client" ≠ s!"insert:{name}" ∧ "client" ≠ s!"insert_result:{name}" := by
  constructor <;> intro same <;>
    have letters := congrArg (fun text : String => text.toList.head?) same <;>
    simp [toString] at letters

/-- The site without the fault that strikes next. -/
def struck (key : String) (site : Site) : Site :=
  { site with cloud := { site.cloud with faults := (site.cloud.faults.take key).2 } }

/-- A fault that is due is met, and due no more. -/
theorem on_meetFault (key : String) (site : Site) :
    (Site.meetFault key).on site =
      (Outlook.struckBy (site.cloud.faults.due key).head?.join, struck key site) := by
  simp only [Site.meetFault, Program.on_bind, Program.on_get, Program.on_set, struck,
    ← FaultQueues.take_fst]
  rcases site.cloud.faults.take key with ⟨_ | fault, faults⟩ <;> rfl

/-- What a task sees of the faults that are due, after one of them struck. -/
theorem outlook_struck (zone name key : String) (site : Site) :
    outlook zone name (struck key site) = { outlook zone name site with
      called := if s!"insert:{name}" = key then (outlook zone name site).called.tail
        else (outlook zone name site).called
      awaited := if s!"insert_result:{name}" = key then (outlook zone name site).awaited.tail
        else (outlook zone name site).awaited } := by
  simp only [outlook, struck, FaultQueues.due_take]
  rfl

/-- What a task sees of an event is what was asked for under its name. -/
theorem outlook_note (zone name : String) (event : Event) (site : Site) :
    outlook zone name ((Site.note event).run site).2 = { outlook zone name site with
      asked := (outlook zone name site).asked ++ insertionsOf name [event] } :=
  congrArg (fun asked => { outlook zone name site with asked := asked })
    (insertionsOf_append name site.trace [event])

/-- Of an event that asks for nothing under its name a task sees nothing. -/
theorem outlook_note_nil {zone name : String} {event : Event} (silent : insertionsOf name [event] = [])
    (site : Site) : outlook zone name ((Site.note event).run site).2 = outlook zone name site := by
  rw [outlook_note, silent, List.append_nil]

/-- An instance that was added is seen by the task for its name in its zone. -/
theorem outlook_add {site : Site} {cloud : Cloud} {place : String} {machine : Instance}
    (added : site.cloud.add place machine = .ok cloud) (zone name : String) :
    outlook zone name { site with cloud := cloud } = { outlook zone name site with
      taken := if zone = place ∧ name = machine.name then true else (outlook zone name site).taken } := by
  have found := Cloud.find?_add added zone name
  have faults : cloud.faults = site.cloud.faults := by
    obtain ⟨_, rfl⟩ := Cloud.add_eq_ok_iff.mp added
    rfl
  simp only [outlook, found, faults]
  split <;> rfl

/-- There is a client or can be one, and to tasks for other names than one a site looks as at the start. -/
structure Apart (name : String) (start site : Site) : Prop where
  buildable : site.cloud.Buildable
  others : ∀ place other, other ≠ name → outlook place other site = outlook place other start

namespace Apart

variable {name : String} {start : Site}

/-- A site is apart from itself. -/
theorem refl (buildable : start.cloud.Buildable) : Apart name start start :=
  ⟨buildable, fun _ _ _ => rfl⟩

/-- A client that can be built is there afterwards, and no task sees a difference. -/
theorem ready {site : Site} (apart : Apart name start site) :
    ∃ after, Client.ready.on site = (.ok ⟨⟩, after) ∧ Apart name start after ∧
      ∀ zone name, outlook zone name after = outlook zone name site := by
  by_cases there : site.cloud.hasClient = true
  · exact ⟨site, by simp [Client.ready, Program.on_bind, there], apart, fun _ _ => rfl⟩
  · -- No fault is due for the client, so it is built.
    set noted := ((Site.note .clientBuilt).run site).2
    have met : (Site.meetFault "client").on noted = (.ok ⟨⟩, struck "client" noted) := by
      rw [on_meetFault]
      exact Prod.ext (congrArg Outlook.struckBy (apart.buildable.resolve_left there)) rfl
    have unseen (zone name : String) : outlook zone name (struck "client" noted) = outlook zone name site := by
      obtain ⟨called, awaited⟩ := client_ne name
      rw [outlook_struck, if_neg called.symm, if_neg awaited.symm]
      exact outlook_note_nil rfl site
    refine ⟨{ struck "client" noted with
      cloud := { (struck "client" noted).cloud with hasClient := true } }, ?_,
      ⟨.inl rfl, fun place other different => (unseen place other).trans (apart.others place other different)⟩,
      unseen⟩
    rw [Client.ready, Program.on_bind, Program.on_get]
    simp only [there, Bool.false_eq_true, if_false]
    rw [Program.on_bind, Program.on_lift]
    exact (Program.on_bind_ok met _).trans (Site.on_changeCloud _ _)

/-- A fault that strikes another call than that for the client leaves it to be built. -/
theorem buildable_struck {site : Site} (apart : Apart name start site) {key : String}
    (other : "client" ≠ key) : (struck key site).cloud.Buildable := by
  refine apart.buildable.imp_right fun none => ?_
  rw [struck, FaultQueues.due_take, if_neg other]
  exact none

/-- A task sees that it asked. -/
theorem mirrors_ask (project zone : String) (request : InstanceRequest) :
    Program.Mirrors (Apart request.name start) (outlook zone request.name)
      (Site.note (.inserted project zone request)) (Outlook.ask project zone request) := by
  intro site apart
  refine ⟨⟨apart.buildable, fun place other different => ?_⟩, ?_⟩
  · -- The event belongs to this name, so others see no new event.
    refine (outlook_note_nil ?_ site).trans (apart.others place other different)
    simp [insertionsOf, insertions, Event.insertion?, Ne.symm different]
  · -- The task itself sees one event more.
    rw [Program.on_lift, outlook_note]
    simp [Outlook.ask, insertionsOf, insertions, Event.insertion?]

/-- A task sees what its call meets. -/
theorem mirrors_call (zone : String) :
    Program.Mirrors (Apart name start) (outlook zone name) (Site.meetFault s!"insert:{name}")
      Outlook.call := by
  intro site apart
  rw [on_meetFault]
  refine ⟨⟨apart.buildable_struck (client_ne name).1, fun place other different => ?_⟩, ?_⟩
  · -- A fault for this name is not due for another.
    have called : s!"insert:{other}" ≠ s!"insert:{name}" := fun same =>
      different (append_right_inj.mp same)
    rw [outlook_struck, if_neg called, if_neg (insert_ne_result _ _).symm]
    exact apart.others place other different
  · -- It is due for the call, and not for the wait that follows.
    rw [outlook_struck, if_pos rfl, if_neg (insert_ne_result _ _).symm]
    rfl

/-- A task sees what the wait for its result meets. -/
theorem mirrors_wait (zone : String) :
    Program.Mirrors (Apart name start) (outlook zone name) (Site.meetFault s!"insert_result:{name}")
      Outlook.wait := by
  intro site apart
  rw [on_meetFault]
  refine ⟨⟨apart.buildable_struck (client_ne name).2, fun place other different => ?_⟩, ?_⟩
  · -- As before, a fault for this name is not due for another.
    have awaited : s!"insert_result:{other}" ≠ s!"insert_result:{name}" := fun same =>
      different (append_right_inj.mp same)
    rw [outlook_struck, if_neg (insert_ne_result _ _), if_neg awaited]
    exact apart.others place other different
  · -- It is due for the wait, and not for the call before.
    rw [outlook_struck, if_neg (insert_ne_result _ _), if_pos rfl]
    rfl

/-- A task sees whether its name is free. -/
theorem mirrors_take (zone created : String) (request : InstanceRequest) :
    Program.Mirrors (Apart request.name start) (outlook zone request.name)
      (Site.changeCloud fun cloud => cloud.add zone (request.toInstance created))
      (Outlook.take zone request.name) := by
  intro site apart
  rw [Site.on_changeCloud]
  simp only [Outlook.take, Program.on_bind, Program.on_get]
  cases held : site.cloud.find? zone request.name with
  | some machine =>
    -- A name that is taken is refused, and the task knows that it is taken.
    have taken : site.cloud.add zone (request.toInstance created) =
        .error (.instanceExists zone request.name) := by
      rw [Cloud.add, InstanceRequest.toInstance, held]
    have seen : (outlook zone request.name site).taken = true := by rw [outlook, held]; rfl
    rw [taken, if_pos seen]
    exact ⟨apart, rfl⟩
  | none =>
    -- A name that is free is taken from now on, in this zone and by this task alone.
    have free : site.cloud.add zone (request.toInstance created) = .ok { site.cloud with
        zones := site.cloud.zones.insert (Cloud.zoneKey zone)
          (site.cloud.instancesIn zone ++ [request.toInstance created]) } :=
      Cloud.add_eq_ok_iff.mpr ⟨held, rfl⟩
    have seen : ¬(outlook zone request.name site).taken = true := by simp [outlook, held]
    rw [free, if_neg seen]
    refine ⟨⟨apart.buildable, fun place other different => ?_⟩, ?_⟩
    · rw [outlook_add free, if_neg fun same => different same.2]
      exact apart.others place other different
    · rw [outlook_add free, if_pos ⟨rfl, rfl⟩]
      rfl

/-- An attempt to have an instance made does what its task sees of it, and no task for another name sees
anything of it. -/
theorem mirrors_insert (project zone : String) (request : InstanceRequest) :
    Program.Mirrors (Apart request.name start) (outlook zone request.name)
      (Client.insert project zone request) (Outlook.insert project zone request) := by
  -- The moment of creation is read from the site, but the task does not see it.
  have taken : Program.Mirrors (Apart request.name start) (outlook zone request.name)
      (do
        let site ← get
        Site.changeCloud fun cloud => cloud.add zone (request.toInstance site.clock.text))
      (Outlook.take zone request.name) := by
    intro site apart
    rw [Program.on_bind, Program.on_get]
    exact mirrors_take zone site.clock.text request site apart
  have asked := (mirrors_ask project zone request).bind fun _ => (mirrors_call zone).bind fun _ =>
    (mirrors_wait zone).bind fun _ => taken
  -- A client may have to be built before, which no task sees.
  refine Program.Mirrors.after_unseen (fun site apart => ?_) fun _ => asked
  obtain ⟨after, ran, still, unseen⟩ := apart.ready
  exact ⟨⟨⟩, after, ran, still, unseen zone request.name⟩

/-- No task sees a pause. -/
theorem pause {site : Site} (apart : Apart name start site) (seconds : Nat) (zone : String) :
    Apart name start ((Site.pause seconds).run site).2 ∧
      outlook zone name ((Site.pause seconds).run site).2 = outlook zone name site :=
  ⟨⟨apart.buildable, fun place other different =>
    (outlook_note_nil rfl site).trans (apart.others place other different)⟩, outlook_note_nil rfl site⟩

end Apart

/-- A task to make an instance, in its own eyes. -/
def Outlook.settle (project zone : String) (request : InstanceRequest) (seen : Outlook) :
    Except Fault Unit × Outlook :=
  ((Outlook.insert project zone request).retry (fun _ => pure ()) 1 2).on seen

/-- A task does what it sees, and no task for another name sees anything of it. -/
theorem insert_apart (project zone : String) (request : InstanceRequest) {site : Site}
    (buildable : site.cloud.Buildable) :
    let ended := (Client.persistently (Client.insert project zone request)).on site
    Apart request.name site ended.2 ∧
      (outlook zone request.name site).settle project zone request =
        (ended.1, outlook zone request.name ended.2) :=
  (Apart.mirrors_insert project zone request).retry (fun _ _ apart => apart.pause _ _) 1 2 site
    (.refl buildable)

/-- What a task comes to when it is the only one. -/
def alone (found : String) (site : Site) (task : String × String × InstanceRequest) :
    Except Fault Unit × Outlook :=
  (outlook task.2.1 task.1 site).settle found task.2.1 task.2.2

/-- Tasks one after the other came to what each of them comes to alone. -/
structure Settled (found : String) (tasks : List (String × String × InstanceRequest)) (start : Site)
    (outcomes : List (String × Except Fault Unit)) (after : Site) : Prop where
  outcomes : outcomes = tasks.map fun task => (task.1, (alone found start task).1)
  trace : ∃ events, after.trace = start.trace ++ events
  asked : ∀ task ∈ tasks, insertionsOf task.1 after.trace = (alone found start task).2.asked
  unasked : ∀ name, name ∉ tasks.map Prod.fst →
    insertionsOf name after.trace = insertionsOf name start.trace
  instances : ∀ key, after.cloud.under key = start.cloud.under key ++
    (tasks.filter fun task => (alone found start task).1.isOk && Cloud.zoneKey task.2.1 == key).map
      fun task => task.2.2.toInstance start.clock.text

/-- A task that is settled adds its instance behind those of its zone, if all is well, and else nothing. -/
theorem under_settled (found zone : String) (request : InstanceRequest) (site : Site) :
    let ended := (Client.persistently (Client.insert found zone request)).on site
    ended.2.clock = site.clock ∧ (∃ events, ended.2.trace = site.trace ++ events) ∧
      ∀ key, ended.2.cloud.under key = site.cloud.under key ++
        if ended.1.isOk && Cloud.zoneKey zone == key then [request.toInstance site.clock.text] else [] := by
  -- Of all attempts only one that answers has an effect, and it adds the instance.
  obtain ⟨_, middle, _, calls, ⟨fault, failed, _⟩ | ⟨_, cloud, added, done⟩⟩ :=
    (Client.insert_goes found zone request).persistently site
  · -- Nothing was added, and no attempt reads the clock.
    rw [failed]
    refine ⟨calls.clock, ⟨_, calls.trace⟩, fun key => ?_⟩
    simp [Cloud.under, calls.zones, Except.isOk, Except.toBool]
  · -- The instance was made at the moment that the clock showed all along.
    rw [done]
    refine ⟨calls.clock, ⟨_, calls.trace⟩, fun key => ?_⟩
    rw [Cloud.under_add added, calls.clock, Cloud.under, calls.zones, ← Cloud.under]
    simp [Except.isOk, Except.toBool]

/-- Tasks for different names come to what each of them comes to alone, whatever their order. -/
theorem settled_of_run {found : String} {tasks : List (String × String × InstanceRequest)}
    (named : ∀ task ∈ tasks, task.2.2.name = task.1) (distinct : (tasks.map Prod.fst).Nodup) {start : Site}
    (buildable : start.cloud.Buildable) {outcomes : List (String × Except Fault Unit)} {after : Site}
    (ran : (tasks.mapM (settleInsert found)).run start = (outcomes, after)) :
    Settled found tasks start outcomes after := by
  -- The induction is on the tasks, from any site where a client can be had.
  induction tasks generalizing start outcomes after with
  | nil =>
    cases ran
    exact ⟨rfl, ⟨[], (List.append_nil _).symm⟩, List.forall_mem_nil _, fun _ _ => rfl,
      fun _ => (List.append_nil _).symm⟩
  | cons task rest ih =>
    obtain ⟨name, zone, request⟩ := task
    obtain ⟨own, namedRest⟩ := List.forall_mem_cons.mp named
    obtain rfl : request.name = name := own
    obtain ⟨fresh, distinct⟩ := List.nodup_cons.mp distinct
    simp only [run_mapM_cons, run_settleInsert] at ran
    -- The first task is seen by itself alone, and comes to what it comes to alone.
    obtain ⟨apart, same⟩ := insert_apart found zone request buildable
    obtain ⟨clock, ⟨events, trace⟩, under⟩ := under_settled found zone request start
    set ended := (Client.persistently (Client.insert found zone request)).on start
    rcases others : (rest.mapM (settleInsert found)).run ended.2 with ⟨behind, last⟩
    rw [others] at ran
    obtain ⟨rfl, rfl⟩ := Prod.mk.inj ran
    have later := ih namedRest distinct apart.buildable others
    -- To the other tasks the site looks as it did before the first one.
    have unseen : ∀ other ∈ rest, alone found ended.2 other = alone found start other := by
      intro other member
      rw [alone, apart.others _ _ fun same => fresh (List.mem_map.mpr ⟨other, member, same⟩), ← alone]
    have first : alone found start (request.name, zone, request) =
        (ended.1, outlook zone request.name ended.2) := same
    refine ⟨?_, ?_, List.forall_mem_cons.mpr ⟨?_, fun other member => ?_⟩, fun other absent => ?_,
      fun key => ?_⟩
    · -- Its outcome stands before those of the others, which are as if it had not been there.
      rw [List.map_cons, first, later.outcomes]
      exact congrArg _ (List.map_congr_left fun other member => by rw [unseen other member])
    · obtain ⟨more, onward⟩ := later.trace
      exact ⟨events ++ more, by rw [onward, trace, List.append_assoc]⟩
    · rw [later.unasked request.name fresh, first]
      rfl
    · rw [later.asked other member, unseen other member]
    · -- No task is for this name, so nobody asked for it.
      obtain ⟨different, absent⟩ := not_or.mp (mt List.mem_cons.mpr absent)
      rw [later.unasked other absent]
      exact congrArg Outlook.asked (apart.others zone other different)
    · -- The instance of the first task comes before those of the others.
      have alike : (rest.filter fun other => (alone found ended.2 other).1.isOk &&
          Cloud.zoneKey other.2.1 == key) = rest.filter fun other =>
            (alone found start other).1.isOk && Cloud.zoneKey other.2.1 == key :=
        List.filter_congr fun other member => by rw [unseen other member]
      rw [later.instances, under, clock, alike, List.filter_cons, first, List.append_assoc]
      split <;> rfl

/-- The task for a name failed for good with a cause. It began where the tasks before it had left off, and the
attempt that failed with the cause was its third, unless the user broke that one off. -/
def GaveUp (found : String) (tasks : List (String × String × InstanceRequest)) (start : Site) (name : String)
    (cause : Fault) : Prop :=
  ∃ before zone request later count last after, tasks = before ++ (name, zone, request) :: later ∧
    Program.Tries (Site.pause 4) (Client.insert found zone request) count
      ((before.mapM (settleInsert found)).run start).2 last ∧
    (Client.insert found zone request).on last = (.error cause, after) ∧
    (count = 2 ∨ cause.isInterrupt = true)

/-- A task with a failure for its outcome failed for good. -/
theorem gaveUp_of_mem {found : String} {tasks : List (String × String × InstanceRequest)} {start : Site}
    {name : String} {cause : Fault}
    (failed : (name, .error cause) ∈ ((tasks.mapM (settleInsert found)).run start).1) :
    GaveUp found tasks start name cause := by
  induction tasks generalizing start with
  -- Without tasks none failed.
  | nil => cases failed
  | cons task rest ih =>
    obtain ⟨own, zone, request⟩ := task
    simp only [run_mapM_cons, run_settleInsert, List.mem_cons] at failed
    obtain failed | failed := failed
    · -- It is the first task that failed, with what its last attempt failed with.
      obtain ⟨rfl, outcome⟩ := Prod.mk.inj failed
      obtain ⟨count, _, last, tries, same, ended⟩ := Program.on_retry (Site.pause 4)
        (Client.insert found zone request) 1 2 start
      rw [Client.persistently_eq, same] at outcome
      exact ⟨[], zone, request, rest, count, last, _, rfl, tries, Prod.ext outcome.symm rfl,
        ended.imp_right fun broken => broken cause outcome.symm⟩
    · -- It is a later task, and the ones before it are passed over.
      obtain ⟨before, place, wanted, later, count, last, after, split, tries, ran⟩ := ih failed
      refine ⟨(own, zone, request) :: before, place, wanted, later, count, last, after,
        by rw [split, List.cons_append], ?_, ran⟩
      rwa [run_mapM_cons, run_settleInsert]

/-- The failure that is told when some names failed. -/
def creationError (told : List String) (count : Nat) : FleetError :=
  ⟨.general, s!"failed to create {told.length} of {count} VMs: " ++ ", ".intercalate told,
    some providerName, some "create"⟩

/-- Either no task failed, or the names that failed are told in order, and one of the failures is the cause. -/
theorem createFailure_eq (count : Nat) (outcomes : List (String × Except Fault Unit)) :
    (createFailure count (failuresOf outcomes) = .ok () ∧ (failuresOf outcomes).keys = []) ∨
      ∃ name cause, (name, .error cause) ∈ outcomes ∧ name ∈ (failuresOf outcomes).keys ∧
        createFailure count (failuresOf outcomes) = .error (.because
          (creationError (Names.sorted (failuresOf outcomes).keys) count) cause) := by
  cases values : (failuresOf outcomes).values with
  -- Without a failure that is kept nothing is told.
  | nil =>
    refine .inl ⟨by rw [createFailure, values], ?_⟩
    rw [OrderedMap.values, List.map_eq_nil_iff] at values
    rw [OrderedMap.keys, values, List.map_nil]
  | cons cause others =>
    -- What is kept is the failure of some task under its name.
    obtain ⟨name, failed⟩ := mem_values_failuresOf (by rw [values]; exact List.mem_cons_self)
    refine .inr ⟨name, cause, failed, (mem_keys_failuresOf _ _).mpr ⟨cause, failed⟩, ?_⟩
    have size : (Names.sorted (failuresOf outcomes).keys).length = (failuresOf outcomes).size := by
      rw [Names.length_sorted, OrderedMap.keys, List.length_map, OrderedMap.size]
    rw [createFailure, values, creationError, size]
    rfl

/-- To look the project up asks for no instance. -/
theorem exists_events_project (site : Site) :
    ∃ events, (project.on site).2.trace = site.trace ++ events ∧ ∀ name, insertionsOf name events = [] := by
  -- Only commands of the tool are run, and they are no requests.
  obtain ⟨events, trace, commands⟩ := project_trace (Prod.mk.eta (p := project.on site)).symm
  refine ⟨events, trace, fun name => ?_⟩
  rw [insertionsOf, insertions, List.filterMap_eq_nil_iff.mpr, List.filter_nil]
  intro event member
  rw [commands event member]
  rfl

/-- What was done to look the project up is seen by no task. -/
theorem outlook_project (zone name : String) (site : Site) :
    outlook zone name (project.on site).2 = outlook zone name site := by
  obtain ⟨events, trace, silent⟩ := exists_events_project site
  rw [outlook, cloud_project, trace, insertionsOf_append, silent, List.append_nil, ← outlook]

/-- Creating comes to what its tasks come to alone, where names do not repeat, and tells their failures. -/
theorem create_settled {names : List String} (distinct : names.Nodup) (some : names ≠ [])
    {options : CreateOptions} {site resolved : Site} {found : String} (buildable : site.cloud.Buildable)
    (resolves : project.on site = (.ok found, resolved))
    {tasks : List (String × String × InstanceRequest)}
    (asked : tasksOf (settingsAt resolved) (names.zip ((settingsAt resolved).zonesFor names.length
      options.spread)) options = .ok tasks)
    (labels : tasks.map Prod.fst = names) (named : ∀ task ∈ tasks, task.2.2.name = task.1) :
    ∃ outcomes created, (create names options).on site =
        (createFailure names.length (failuresOf outcomes), created) ∧
      Settled found ((Host.schedule site).arrange Prod.fst tasks) site outcomes created ∧
      ∀ name cause, (name, .error cause) ∈ outcomes →
        GaveUp found ((Host.schedule site).arrange Prod.fst tasks) resolved name cause := by
  -- Tasks are arranged by the schedule, which has the same ones in another order.
  set arranged := (Host.schedule site).arrange Prod.fst tasks with arrangement
  have perm : arranged.Perm tasks := (Host.schedule site).arrange_perm Prod.fst tasks
  have kept := project_resolves resolves
  have after := cloud_project site
  -- The look-up is unseen by the tasks, so they come to the same after it as before it.
  have seen (zone name : String) := outlook_project zone name site
  rw [resolves] at after seen
  rcases ran : (arranged.mapM (settleInsert found)).run resolved with ⟨outcomes, last⟩
  obtain ⟨created, told, same⟩ := on_create_settled some resolves asked ran
  have settled := settled_of_run (fun task member => named task (perm.mem_iff.mp member))
    ((perm.map Prod.fst).nodup_iff.mpr (labels ▸ distinct)) (after ▸ buildable) ran
  have alike (task : String × String × InstanceRequest) :
      alone found resolved task = alone found site task := by
    rw [alone, seen, ← alone]
  -- To tell failures is no event.
  have onward : created.trace = last.trace := by rw [told.trace, List.append_nil]
  refine ⟨outcomes, created, same, ⟨?_, ?_, fun task member => ?_, fun name absent => ?_, fun key => ?_⟩,
    fun name cause failed => gaveUp_of_mem (by rwa [ran])⟩
  · simpa only [alike] using settled.outcomes
  · obtain ⟨before, commands, _⟩ := project_trace resolves
    obtain ⟨events, trace⟩ := settled.trace
    exact ⟨before ++ events, by rw [onward, trace, commands, List.append_assoc]⟩
  · rw [onward, settled.asked task member, alike]
  · rw [onward, settled.unasked name absent]
    exact congrArg Outlook.asked (seen "" name)
  · -- Neither the look-up of the project nor the telling of failures touches a zone.
    rw [Cloud.under, told.zones, ← Cloud.under, settled.instances, after, kept.clock]
    simp only [alike]

/-- Tasks in another order come to the same, on sites that differ in nothing that a task sees. -/
theorem Settled.alike {found : String} {tasks tasksToo : List (String × String × InstanceRequest)}
    {one other created createdToo : Site} {outcomes outcomesToo : List (String × Except Fault Unit)}
    (settled : Settled found tasks one outcomes created)
    (settledToo : Settled found tasksToo other outcomesToo createdToo) (perm : tasks.Perm tasksToo)
    (trace : other.trace = one.trace) (cloud : other.cloud = one.cloud) (clock : other.clock = one.clock) :
    outcomes.Perm outcomesToo ∧
      (∀ name, insertionsOf name created.trace = insertionsOf name createdToo.trace) ∧
      ∀ key, (created.cloud.under key).Perm (createdToo.cloud.under key) := by
  have same (task : String × String × InstanceRequest) : alone found other task = alone found one task := by
    rw [alone, outlook, trace, cloud, ← outlook, ← alone]
  refine ⟨?_, fun name => ?_, fun key => ?_⟩
  · -- Outcomes belong to tasks, whatever their place.
    rw [settled.outcomes, settledToo.outcomes]
    simp only [same]
    exact perm.map _
  · -- A name has one task in both orders, or in neither.
    by_cases wanted : name ∈ tasks.map Prod.fst
    · obtain ⟨task, member, rfl⟩ := List.mem_map.mp wanted
      rw [settled.asked task member, settledToo.asked task (perm.mem_iff.mp member), same]
    · rw [settled.unasked name wanted,
        settledToo.unasked name fun wantedToo => wanted ((perm.map _).mem_iff.mpr wantedToo), trace]
  · -- So do instances, which are behind those that were there.
    rw [settled.instances, settledToo.instances, cloud, clock]
    simp only [same]
    exact ((perm.filter _).map _).append_left _

/-- Nothing is begun: there is no project, or the image is no text. -/
def Hindered (site : Site) (fault : Fault) : Prop :=
  (project.on site).1 = .error fault ∨ ∃ found problem, (project.on site).1 = .ok found ∧
    (settingsAt site).bootImage = .error problem ∧ fault = .problem problem

/-- What a batch is to do does not depend on the project. -/
theorem Resolves.tasksOf {before after : Site} (resolves : Resolves before after)
    (places : List (String × String)) (options : CreateOptions) :
    tasksOf (settingsAt after) places options = tasksOf (settingsAt before) places options := by
  obtain ⟨value, same⟩ := resolves.settings
  rw [same]
  rfl

/-- Where nothing is begun creating fails. -/
theorem Hindered.on_create {site : Site} {fault : Fault} (hindered : Hindered site fault)
    {names : List String} (some : names ≠ []) (options : CreateOptions) :
    (create names options).on site = (.error fault, (project.on site).2) := by
  rcases ran : project.on site with ⟨outcome, resolved⟩
  -- Either there is no project, or there is one and the image is no text.
  obtain failed | ⟨found, problem, resolves, unusable, rfl⟩ := hindered
  · rw [ran] at failed
    cases failed
    have nonempty : names.isEmpty = false := by simpa using some
    rw [create, nonempty]
    exact Program.on_bind_error ran _
  · rw [ran] at resolves
    cases resolves
    refine on_create_unusable some options ran ?_
    obtain ⟨value, same⟩ := (project_resolves ran).settings
    rw [same]
    exact unusable

/-- Either nothing is begun, or there is a task for each of the names. -/
theorem hindered_or_tasks (names : List String) (options : CreateOptions) (site : Site) :
    (∃ fault, Hindered site fault) ∨ ∃ found resolved tasks, project.on site = (.ok found, resolved) ∧
      tasksOf (settingsAt site) (names.zip ((settingsAt site).zonesFor names.length options.spread)) options =
        .ok tasks ∧
      tasks.map Prod.fst = names ∧ ∀ task ∈ tasks, task.2.2.name = task.1 := by
  -- With a project and an image that is a text, every name has a request of its own.
  rcases ran : project.on site with ⟨fault | found, resolved⟩
  · exact .inl ⟨fault, .inl (by rw [ran])⟩
  · cases usable : (settingsAt site).bootImage with
    | error problem => exact .inl ⟨_, .inr ⟨found, problem, by rw [ran], usable, rfl⟩⟩
    | ok image =>
      obtain ⟨tasks, asked, labels, each⟩ := exists_tasksOf usable
        (names.zip ((settingsAt site).zonesFor names.length options.spread)) options
      rw [List.map_fst_zip (by simp)] at labels
      refine .inr ⟨found, resolved, tasks, rfl, asked, labels, fun task member => ?_⟩
      obtain ⟨position, here⟩ := List.getElem?_of_mem member
      exact (of_request (each position _ _ _ here).2).1

/-- How two runs of creating end alike: both well, or both with the same names that failed, each for a cause
that the task for one of them gave up with. Otherwise neither began with a task, for the same reason. -/
inductive EndAlike (names : List String) (options : CreateOptions) (one other : Site) :
    Except Fault Unit → Except Fault Unit → Prop where
  | fine : EndAlike names options one other (.ok ()) (.ok ())
  | failed {told : List String} {found name nameToo : String} {resolved resolvedToo : Site}
      {tasks : List (String × String × InstanceRequest)} {cause causeToo : Fault}
      (resolves : project.on one = (.ok found, resolved))
      (resolvesToo : project.on other = (.ok found, resolvedToo))
      (asked : tasksOf (settingsAt one) (names.zip ((settingsAt one).zonesFor names.length
        options.spread)) options = .ok tasks)
      (first : name ∈ told)
      (gaveUp : GaveUp found ((Host.schedule one).arrange Prod.fst tasks) resolved name cause)
      (firstToo : nameToo ∈ told)
      (gaveUpToo : GaveUp found ((Host.schedule other).arrange Prod.fst tasks) resolvedToo nameToo causeToo) :
      EndAlike names options one other
        (.error (.because (creationError told names.length) cause))
        (.error (.because (creationError told names.length) causeToo))
  | unbegun {fault : Fault} (hindered : Hindered one fault) (hinderedToo : Hindered other fault) :
      EndAlike names options one other (.error fault) (.error fault)

/-- Creating does not depend on the order in which its tasks end, where no name is asked for twice and there is
a client or can be one. Two runs that differ in that order alone ask for the same instances under each name, as
many times, and leave the same instances in every zone, perhaps in another order. Both end well, or both fail
and tell the same, with some task's third failure for the cause. -/
theorem create_unordered {names : List String} (distinct : names.Nodup) (options : CreateOptions) {site : Site}
    (buildable : site.cloud.Buildable) (order : List String) (pace : Schedule) :
    ∃ outcome created events outcomeToo createdToo eventsToo,
      (create names options).on site = (outcome, created) ∧
      (create names options).on { site with order := order, pace := pace } = (outcomeToo, createdToo) ∧
      created.trace = site.trace ++ events ∧ createdToo.trace = site.trace ++ eventsToo ∧
      (∀ name, insertionsOf name events = insertionsOf name eventsToo) ∧
      (∀ key, (created.cloud.under key).Perm (createdToo.cloud.under key)) ∧
      EndAlike names options site { site with order := order, pace := pace } outcome outcomeToo := by
  by_cases empty : names = []
  · -- For no names nothing is done.
    subst empty
    exact ⟨.ok (), site, [], .ok (), _, [], rfl, rfl, (List.append_nil _).symm, (List.append_nil _).symm,
      fun _ => rfl, fun _ => .refl _, .fine⟩
  set other : Site := { site with order := order, pace := pace } with rescheduled
  have found_eq : (project.on other).1 = (project.on site).1 := project_of_settings rfl rfl
  obtain ⟨fault, hindered⟩ | ⟨found, resolved, tasks, resolves, asked, labels, named⟩ :=
    hindered_or_tasks names options site
  · -- Which project is found and whether the image is a text is the same for both.
    have hinderedToo : Hindered other fault := by
      rw [Hindered, found_eq]
      exact hindered
    obtain ⟨events, trace, silent⟩ := exists_events_project site
    obtain ⟨eventsToo, traceToo, silentToo⟩ := exists_events_project other
    refine ⟨_, _, events, _, _, eventsToo, hindered.on_create empty options,
      hinderedToo.on_create empty options, trace, traceToo, fun name => by rw [silent, silentToo],
      fun key => ?_, .unbegun hindered hinderedToo⟩
    rw [cloud_project, cloud_project]
  · -- Both look for the same project, and have the same tasks in another order.
    obtain ⟨resolvedToo, resolvesToo⟩ : ∃ after, project.on other = (.ok found, after) :=
      ⟨(project.on other).2, Prod.ext (found_eq.trans (by rw [resolves])) rfl⟩
    have wanted {start after : Site} (kept : Resolves start after) (same : settingsAt start = settingsAt site) :
        tasksOf (settingsAt after) (names.zip ((settingsAt after).zonesFor names.length options.spread))
          options = .ok tasks := by
      rw [kept.tasksOf, kept.zonesFor, same, asked]
    obtain ⟨outcomes, created, ran, settled, gaveUp⟩ := create_settled distinct empty buildable resolves
      (wanted (project_resolves resolves) rfl) labels named
    have buildableToo : other.cloud.Buildable := buildable
    obtain ⟨outcomesToo, createdToo, ranToo, settledToo, gaveUpToo⟩ := create_settled distinct empty
      buildableToo resolvesToo (wanted (project_resolves resolvesToo) rfl) labels named
    have perm := ((Host.schedule site).arrange_perm Prod.fst tasks).trans
      ((Host.schedule other).arrange_perm Prod.fst tasks).symm
    obtain ⟨permuted, asks, instances⟩ := settled.alike settledToo perm rfl rfl rfl
    obtain ⟨events, trace⟩ := settled.trace
    obtain ⟨eventsToo, traceToo⟩ := settledToo.trace
    refine ⟨_, created, events, _, createdToo, eventsToo, ran, ranToo, trace, traceToo, fun name => ?_,
      instances, ?_⟩
    · -- What was asked for before is the same for both.
      have same := asks name
      rw [trace, traceToo, insertionsOf_append, insertionsOf_append] at same
      exact List.append_cancel_left same
    · -- The same names failed, so the same is told of them.
      have told : ∀ name, name ∈ (failuresOf outcomes).keys ↔ name ∈ (failuresOf outcomesToo).keys := by
        simp only [mem_keys_failuresOf, permuted.mem_iff, implies_true]
      have sorted := Names.sorted_eq (OrderedMap.nodup_keys _) (OrderedMap.nodup_keys _) told
      obtain ⟨fine, none⟩ | ⟨name, cause, failed, first, failure⟩ := createFailure_eq names.length outcomes <;>
        obtain ⟨fineToo, noneToo⟩ | ⟨nameToo, causeToo, failedToo, firstToo, failureToo⟩ :=
          createFailure_eq names.length outcomesToo
      · rw [fine, fineToo]
        exact .fine
      · rw [← told, none] at firstToo
        cases firstToo
      · rw [told, noneToo] at first
        cases first
      · rw [failure, failureToo, ← sorted]
        exact .failed resolves resolvesToo asked ((Names.mem_sorted _ _).mpr first)
          (gaveUp name cause failed) (by rwa [sorted, Names.mem_sorted])
          (gaveUpToo nameToo causeToo failedToo)

/-- A site where all three calls for `web` fail, since the cloud is busy, and the results of all three calls for
`db`, since it is full. -/
def brokenSite : Site :=
  { quietSite with cloud := {
      zones := .empty
      faults := .ofList [("insert:web", List.replicate 3 (some busy)),
        ("insert_result:db", List.replicate 3 (some full))] } }

/-- What a failure gives for its cause, if it has one. -/
def causeOf : Except Fault Unit → Option Fault
  | .error (.because _ cause) => some cause
  | _ => none

/-- On the broken site the same is told in whichever order tasks end, but for the cause, which is that of the name
that failed first. -/
theorem create_unordered_brokenSite :
    ["web", "db", "cache"].Nodup ∧ brokenSite.cloud.Buildable ∧
      ∃ told created createdToo events eventsToo,
        (create ["web", "db", "cache"] {}).on brokenSite =
          (.error (.because (creationError told 3) busy), created) ∧
        (create ["web", "db", "cache"] {}).on { brokenSite with order := ["db"], pace := .inOrder } =
          (.error (.because (creationError told 3) full), createdToo) ∧
        created.trace = brokenSite.trace ++ events ∧ createdToo.trace = brokenSite.trace ++ eventsToo ∧
        (insertionsOf "web" events).length = 3 ∧
        (∀ name, insertionsOf name events = insertionsOf name eventsToo) ∧
        ∀ key, (created.cloud.under key).Perm (createdToo.cloud.under key) := by
  -- Names differ, and the client is not in the way.
  have distinct : ["web", "db", "cache"].Nodup := by decide
  have buildable : brokenSite.cloud.Buildable := .inr (by decide +kernel)
  obtain ⟨outcome, created, events, outcomeToo, createdToo, eventsToo, ran, ranToo, trace, traceToo, asks,
    instances, alike⟩ := create_unordered distinct {} buildable ["db"] .inOrder
  -- What the two runs fail with is found by carrying them out.
  have failed : causeOf ((create ["web", "db", "cache"] {}).on brokenSite).1 = some busy := by
    decide +kernel
  have failedToo : causeOf ((create ["web", "db", "cache"] {}).on
      { brokenSite with order := ["db"], pace := .inOrder }).1 = some full := by
    decide +kernel
  have asked : (insertionsOf "web" ((create ["web", "db", "cache"] {}).on brokenSite).2.trace).length = 3 := by
    decide +kernel
  rw [ran] at failed asked
  rw [ranToo] at failedToo
  rw [trace] at asked
  cases alike with
  | fine => cases failed
  | failed =>
    cases failed
    cases failedToo
    exact ⟨distinct, buildable, _, created, createdToo, events, eventsToo, ran, ranToo, trace, traceToo,
      asked, asks, instances⟩
  | unbegun => exact absurd (failed.symm.trans failedToo) (by decide)

end Compute

end Fleet
