import Fleet.Proofs.Compute.Project
import Fleet.Proofs.Names
import Fleet.Proofs.Schedule

/-! Creating on Compute Engine accounts for every virtual machine: each position of the list has one task,
which either adds the instance of its name to its zone or adds nothing, and the names whose tasks failed are
told. -/

namespace Fleet.Compute

/-- How the task for one position of the names came to its end. -/
structure InsertEnd where
  position : Nat
  name : String
  zone : String
  request : InstanceRequest
  outcome : Except Fault Unit
  events : List Event

namespace InsertEnd

/-- Whether an instance was made. -/
def succeeded (ended : InsertEnd) : Bool := ended.outcome.isOk

/-- The instance that the task asked for, made at a time. -/
def made (created : String) (ended : InsertEnd) : Instance := ended.request.toInstance created

/-- What stands for the task among those that have ended. -/
def told (ended : InsertEnd) : String × Except Fault Unit := (ended.name, ended.outcome)

/-- The task was one to three attempts at the request in its zone. Only what the user broke off failed
before the third. -/
def Attempted (project : String) (ended : InsertEnd) : Prop :=
  ∃ attempts, Client.Attempted
    (Client.CallEvents (.inserted project ended.zone ended.request)) attempts ∧
    ended.events = Client.eventsOf attempts ∧
    ∀ fault, ended.outcome = .error fault → attempts.length = 3 ∨ fault.isInterrupt = true

/-- The task was for the name and the zone of its position. -/
structure Fits (settings : Settings) (names : List String) (options : CreateOptions)
    (ended : InsertEnd) : Prop where
  name : names[ended.position]? = some ended.name
  zone : (settings.zonesFor names.length options.spread)[ended.position]? = some ended.zone
  request : settings.request ended.name ended.zone options = .ok ended.request

end InsertEnd

/-- An instance is asked for with its name, and with labels that tell whose it is and its lifetime. -/
theorem of_request {settings : Settings} {name zone : String} {options : CreateOptions}
    {request : InstanceRequest} (asked : settings.request name zone options = .ok request) :
    request.name = name ∧
      request.labels = .ofList [(fleetLabel, "true"), (lifetimeLabel, options.lifetime.text)] := by
  unfold Settings.request at asked
  -- With an image that is a list there is no request at all.
  cases image : settings.bootImage with
  | error problem => simp [image, Bind.bind, Except.bind] at asked
  | ok image =>
    simp only [image, Bind.bind, Except.bind, Pure.pure, Except.pure, Except.ok.injEq] at asked
    rw [← asked]
    exact ⟨rfl, rfl⟩

/-- What is made has the name that it was asked for with. -/
theorem InsertEnd.Fits.made_name {settings : Settings} {names : List String}
    {options : CreateOptions} {ended : InsertEnd} (fits : ended.Fits settings names options)
    (created : String) : (ended.made created).name = ended.name :=
  (of_request fits.request).1

/-- A cloud grew by what tasks made: each that succeeded added its instance, and nothing else changed. -/
inductive Grown (created : String) : Cloud → List InsertEnd → Cloud → Prop where
  | done {before after : Cloud} (same : after.zones = before.zones) : Grown created before [] after
  | made {before start next after : Cloud} {ended : InsertEnd} {later : List InsertEnd}
      (succeeded : ended.outcome = .ok ()) (same : start.zones = before.zones)
      (added : start.add ended.zone (ended.made created) = .ok next)
      (further : Grown created next later after) : Grown created before (ended :: later) after
  | failed {before next after : Cloud} {ended : InsertEnd} {later : List InsertEnd} {fault : Fault}
      (failed : ended.outcome = .error fault) (same : next.zones = before.zones)
      (further : Grown created next later after) : Grown created before (ended :: later) after

namespace Grown

variable {created : String} {before after : Cloud} {ends : List InsertEnd}

/-- Every zone has what it had and then what the tasks for it made, in the order in which they ended. -/
theorem under (grown : Grown created before ends after) (key : String) :
    after.under key = before.under key ++
      (ends.filter fun ended => ended.succeeded && Cloud.zoneKey ended.zone == key).map
        (InsertEnd.made created) := by
  -- Each end adds its instance behind those of the ends before it, or nothing.
  induction grown with
  | done same => simp [Cloud.under, same]
  | @made before start next after ended later succeeded same added further ih =>
    rw [ih, Cloud.under_add added, Cloud.under, same, ← Cloud.under]
    -- An instance that was made stands under the key of its zone, and under no other.
    by_cases here : Cloud.zoneKey ended.zone = key
    · simp [here, InsertEnd.succeeded, succeeded, Except.isOk, Except.toBool]
    · simp [here]
  -- A task that failed made nothing, so every key has what it had.
  | @failed before next after ended later fault failed same further ih =>
    rw [ih, Cloud.under, same, ← Cloud.under]
    simp [InsertEnd.succeeded, failed, Except.isOk, Except.toBool]

/-- Zones without slashes stay well kept. -/
theorem wellZoned (grown : Grown created before ends after) (well : before.WellZoned)
    (free : ∀ ended ∈ ends, Cloud.SlashFree ended.zone) : after.WellZoned := by
  -- Every instance that was made had a free name in a zone without slashes.
  induction grown with
  | done same => exact well.of_zones same
  | made _ same added _ ih =>
    exact ih ((well.of_zones same).add (free _ (by simp)) added)
      fun ended member => free ended (by simp [member])
  | failed _ same _ ih =>
    exact ih (well.of_zones same) fun ended member => free ended (by simp [member])

/-- Only the zones of the cloud in the end are looked at. -/
theorem of_zones (grown : Grown created before ends after) {last : Cloud}
    (same : last.zones = after.zones) : Grown created before ends last := by
  -- The end of the list of tasks is where the last cloud is looked at, so the induction goes there.
  induction grown with
  | done done => exact .done (same.trans done)
  | made succeeded start added _ ih => exact .made succeeded start added (ih same)
  | failed failed start _ ih => exact .failed failed start (ih same)

end Grown

/-- A task's name and outcome are told, and its attempts are what the client made. -/
theorem run_settleInsert (project name zone : String) (request : InstanceRequest) (site : Site) :
    (settleInsert project (name, zone, request)).run site =
      let ended := (Client.persistently (Client.insert project zone request)).on site
      ((name, ended.1), ended.2) :=
  rfl

/-- Tasks at some positions run one after the other, each to its own end. -/
theorem run_settleInserts (project : String) (tasks : List (String × String × InstanceRequest))
    {positions : List Nat} (inside : ∀ position ∈ positions, position < tasks.length) (site : Site) :
    ∃ (ends : List InsertEnd) (after : Site), ends.map InsertEnd.position = positions ∧
      (∀ ended ∈ ends, tasks[ended.position]? = some (ended.name, ended.zone, ended.request) ∧
        ended.Attempted project) ∧
      ((positions.filterMap (tasks[·]?)).mapM (settleInsert project)).run site =
        (ends.map InsertEnd.told, after) ∧
      Site.Acts (ends.flatMap InsertEnd.events) site after ∧
      Grown site.clock.text site.cloud ends after.cloud := by
  -- Each task begins with the site that the one before it left.
  induction positions generalizing site with
  | nil => exact ⟨[], site, rfl, by simp, rfl, .refl site, .done rfl⟩
  | cons position rest ih =>
    obtain ⟨⟨name, zone, request⟩, found⟩ : ∃ task, tasks[position]? = some task :=
      ⟨_, List.getElem?_eq_getElem (inside position (by simp))⟩
    have following (start : Site) := ih (fun other member => inside other (by simp [member])) start
    -- The call is tried up to three times, and it either failed in all of them or added its instance.
    obtain ⟨attempts, middle, attempted, calls, result⟩ :=
      (Client.insert_goes project zone request).persistently site
    rw [List.filterMap_cons_some found]
    obtain ⟨fault, ran, ended⟩ | ⟨_, cloud, added, ran⟩ := result
    · -- The task failed and left all zones as they were.
      obtain ⟨ends, after, placed, each, settled, acts, grown⟩ := following middle
      refine ⟨⟨position, name, zone, request, .error fault, Client.eventsOf attempts⟩ :: ends, after,
        by simp [placed], ?_, ?_, calls.toActs.trans acts, ?_⟩
      · refine List.forall_mem_cons.mpr ⟨⟨found, attempts, attempted, rfl, ?_⟩, each⟩
        rintro _ ⟨⟩
        exact ended
      · rw [run_mapM_cons, run_settleInsert, ran]
        simp only [settled]
        rfl
      · exact .failed rfl calls.zones (calls.clock ▸ grown)
    · -- The task added its instance, and the rest begins with that.
      obtain ⟨ends, after, placed, each, settled, acts, grown⟩ := following { middle with cloud := cloud }
      have adding : Site.Acts (Client.eventsOf attempts) site { middle with cloud := cloud } :=
        ⟨by rw [calls.rest], calls.trace⟩
      refine ⟨⟨position, name, zone, request, .ok (), Client.eventsOf attempts⟩ :: ends, after,
        by simp [placed], ?_, ?_, adding.trans acts, ?_⟩
      · exact List.forall_mem_cons.mpr ⟨⟨found, attempts, attempted, rfl, nofun⟩, each⟩
      · rw [run_mapM_cons, run_settleInsert, ran]
        simp only [settled]
        rfl
      · rw [calls.clock] at added
        exact .made rfl calls.zones added (adding.clock ▸ grown)

/-- Telling of tasks that failed is no event, and does not fail. -/
theorem on_tellFailures (outcomes : List (String × Except Fault Unit)) (site : Site) :
    ∃ after, Site.Calls [] site after ∧
      (outcomes.forM fun outcome => liftM (tellFailure outcome) : Program Site PUnit).on site =
        (.ok ⟨⟩, after) := by
  -- The failures are told one after another, each into the log that the one before left.
  induction outcomes generalizing site with
  | nil => exact ⟨site, .refl site, rfl⟩
  | cons ended rest ih =>
    -- Telling of one failure writes into the log at most.
    have first : Site.Calls [] site ((tellFailure ended).run site).2 := by
      obtain ⟨name, _ | answer⟩ := ended
      · exact Site.tell_calls _ _ site
      · exact .refl site
    obtain ⟨after, calls, same⟩ := ih ((tellFailure ended).run site).2
    refine ⟨after, first.trans calls, ?_⟩
    rw [List.forM, Program.on_bind, Program.on_lift]
    exact same

/-- One more end adds its name to those that failed, if it failed. -/
theorem failuresOf_concat (outcomes : List (String × Except Fault Unit))
    (ended : String × Except Fault Unit) :
    failuresOf (outcomes ++ [ended]) = match ended.2 with
      | .ok _ => failuresOf outcomes
      | .error fault => (failuresOf outcomes).insert ended.1 fault := by
  simp only [failuresOf, List.foldl_append, List.foldl_cons, List.foldl_nil]
  cases ended.2 <;> rfl

/-- The names that failed are those with a failed end. -/
theorem mem_keys_failuresOf (outcomes : List (String × Except Fault Unit)) (name : String) :
    name ∈ (failuresOf outcomes).keys ↔ ∃ fault, (name, .error fault) ∈ outcomes := by
  -- The last end adds its own name if it failed, and no end takes a name away.
  induction outcomes using List.reverseRecOn with
  | nil => simp [failuresOf]
  | append_singleton outcomes ended ih =>
    rw [failuresOf_concat]
    obtain ⟨other, fault | answer⟩ := ended
    · simp [ih, exists_or, or_comm]
    · simp [ih]

/-- Each failure that is kept is that of some end. -/
theorem mem_values_failuresOf {outcomes : List (String × Except Fault Unit)} {fault : Fault}
    (kept : fault ∈ (failuresOf outcomes).values) : ∃ name, (name, .error fault) ∈ outcomes := by
  -- A later failure may take the place of an earlier one of its name.
  induction outcomes using List.reverseRecOn with
  | nil => simp [failuresOf, OrderedMap.values, OrderedMap.empty] at kept
  | append_singleton outcomes ended ih =>
    rw [failuresOf_concat] at kept
    obtain ⟨other, later | answer⟩ := ended
    · -- The failure is that of the last end, or it was kept before.
      -- What is kept now is the failure of this end, or another that was kept before.
      obtain ⟨name, found⟩ := (OrderedMap.mem_values_iff _ _).mp kept
      rw [OrderedMap.get?_insert] at found
      split at found
      · cases found
        exact ⟨other, by simp⟩
      · obtain ⟨name, member⟩ := ih ((OrderedMap.mem_values_iff _ _).mpr ⟨name, found⟩)
        exact ⟨name, by simp [member]⟩
    · -- An end without a failure leaves all that was kept.
      obtain ⟨name, member⟩ := ih kept
      exact ⟨name, by simp [member]⟩

/-- All is well exactly when every task succeeded. -/
theorem createFailure_eq_ok_iff (count : Nat) (ends : List InsertEnd) :
    createFailure count (failuresOf (ends.map InsertEnd.told)) = .ok () ↔
      ∀ ended ∈ ends, ended.outcome = .ok () := by
  -- There is a failure to tell exactly when one was kept, and then it is that of some task.
  have kept (fault : Fault) : fault ∈ (failuresOf (ends.map InsertEnd.told)).values →
      ∃ ended ∈ ends, ended.outcome = .error fault := by
    intro member
    obtain ⟨name, told⟩ := mem_values_failuresOf member
    obtain ⟨ended, present, same⟩ := List.mem_map.mp told
    exact ⟨ended, present, congrArg Prod.snd same⟩
  rw [createFailure]
  cases values : (failuresOf (ends.map InsertEnd.told)).values with
  | nil =>
    -- No failure was kept, so no task can have failed.
    refine iff_of_true rfl fun ended member => ?_
    cases outcome : ended.outcome with
    | ok answer => rfl
    | error fault =>
      have failed : ended.name ∈ (failuresOf (ends.map InsertEnd.told)).keys :=
        (mem_keys_failuresOf _ _).mpr ⟨fault, List.mem_map.mpr ⟨ended, member, by
          rw [InsertEnd.told, outcome]⟩⟩
      simp only [OrderedMap.values, List.map_eq_nil_iff] at values
      simp [OrderedMap.keys, values] at failed
  | cons cause others =>
    -- A failure was kept, so it is that of some task.
    refine iff_of_false (by simp) fun fine => ?_
    obtain ⟨ended, member, outcome⟩ := kept cause (by simp [values])
    rw [fine ended member] at outcome
    cases outcome

/-- When all is not well, the names with a failed task are told, in order and each once, with the failure of
some task for their cause. -/
theorem createFailure_eq_error (count : Nat) {ends : List InsertEnd}
    (failed : ∃ ended ∈ ends, ∃ fault, ended.outcome = .error fault) :
    ∃ (reported : List String) (cause : Fault), reported.Pairwise (· < ·) ∧
      (∀ name, name ∈ reported ↔
        ∃ ended ∈ ends, ended.name = name ∧ ∃ fault, ended.outcome = .error fault) ∧
      (∃ ended ∈ ends, ended.outcome = .error cause) ∧
      createFailure count (failuresOf (ends.map InsertEnd.told)) = .error (.because ⟨.general,
        s!"failed to create {reported.length} of {count} VMs: " ++ ", ".intercalate reported,
        some providerName, some "create"⟩ cause) := by
  -- The names that failed are the keys of what was kept, which do not repeat.
  have told (name : String) (fault : Fault) : (name, .error fault) ∈ ends.map InsertEnd.told ↔
      ∃ ended ∈ ends, ended.name = name ∧ ended.outcome = .error fault := by
    simp only [List.mem_map, InsertEnd.told, Prod.mk.injEq]
  cases values : (failuresOf (ends.map InsertEnd.told)).values with
  | nil =>
    -- The failure of that task would have been kept.
    obtain ⟨ended, member, fault, outcome⟩ := failed
    have fine := (createFailure_eq_ok_iff count ends).mp (by rw [createFailure, values])
    rw [fine ended member] at outcome
    cases outcome
  | cons cause others =>
    refine ⟨Names.sorted (failuresOf (ends.map InsertEnd.told)).keys, cause,
      Names.sorted_ascending (OrderedMap.nodup_keys _), fun name => ?_, ?_, ?_⟩
    · -- Exactly the names with a failed task are told.
      rw [Names.mem_sorted, mem_keys_failuresOf]
      simp only [told]
      exact ⟨fun ⟨fault, ended, member, named, outcome⟩ => ⟨ended, member, named, fault, outcome⟩,
        fun ⟨ended, member, named, fault, outcome⟩ => ⟨fault, ended, member, named, outcome⟩⟩
    · -- The cause is the first failure that was kept.
      have last : cause ∈ (failuresOf (ends.map InsertEnd.told)).values := by simp [values]
      obtain ⟨name, found⟩ := mem_values_failuresOf last
      obtain ⟨ended, member, _, outcome⟩ := (told name cause).mp found
      exact ⟨ended, member, outcome⟩
    · -- The number that is told is that of the names.
      have size : (Names.sorted (failuresOf (ends.map InsertEnd.told)).keys).length =
          (failuresOf (ends.map InsertEnd.told)).size := by
        simp [Names.sorted, OrderedMap.keys, OrderedMap.size]
      rw [createFailure, values, size]
      rfl

/-- There is a zone for each of a number of instances. -/
@[simp]
theorem length_zonesFor (settings : Settings) (count : Nat) (spread : Bool) :
    (settings.zonesFor count spread).length = count := by
  simp [Settings.zonesFor]

/-- When the image is a text or missing there is a task for each position, with its name and zone. -/
theorem exists_tasksOf {settings : Settings} {image : Option String}
    (usable : settings.bootImage = .ok image) (places : List (String × String))
    (options : CreateOptions) :
    ∃ tasks, tasksOf settings places options = .ok tasks ∧ tasks.map Prod.fst = places.map Prod.fst ∧
      ∀ (position : Nat) (name zone : String) (request : InstanceRequest),
        tasks[position]? = some (name, zone, request) → places[position]? = some (name, zone) ∧
          settings.request name zone options = .ok request := by
  -- Only the image can stand in the way of a request, and it is the same for all.
  induction places with
  | nil => exact ⟨[], rfl, rfl, by simp⟩
  | cons place rest ih =>
    obtain ⟨name, zone⟩ := place
    obtain ⟨tasks, same, names, each⟩ := ih
    have asked : ∃ request, settings.request name zone options = .ok request := by
      rw [Settings.request, usable]
      exact ⟨_, rfl⟩
    obtain ⟨request, asked⟩ := asked
    refine ⟨(name, zone, request) :: tasks, ?_, by simp [names], fun position => ?_⟩
    · -- The first request comes before those of the rest.
      simp only [tasksOf, List.mapM_cons, asked]
      rw [tasksOf] at same
      rw [same]
      rfl
    · -- Each position has the request for its own name and zone.
      cases position with
      | zero =>
        rintro _ _ _ ⟨⟩
        exact ⟨rfl, asked⟩
      | succ position => simpa using each position

/-- When the image is a list there is no task at all. -/
theorem tasksOf_eq_error {settings : Settings} {problem : Problem}
    (unusable : settings.bootImage = .error problem) {places : List (String × String)}
    (some : places ≠ []) (options : CreateOptions) :
    tasksOf settings places options = .error (.problem problem) := by
  -- The first place already asks for a request, and there is none.
  cases places with
  | nil => exact absurd rfl some
  | cons place rest =>
    have refused : settings.request place.1 place.2 options = .error problem := by
      rw [Settings.request, unusable]
      rfl
    simp only [tasksOf, List.mapM_cons, refused]
    rfl

/-- Creating comes down to its tasks, which are settled in the order of the schedule. After that failures
are told, and the failure of all is that of the tasks. -/
theorem on_create_settled {names : List String} (some : names ≠ []) {options : CreateOptions}
    {site resolved : Site} {found : String} (resolves : project.on site = (.ok found, resolved))
    {tasks : List (String × String × InstanceRequest)}
    (asked : tasksOf (settingsAt resolved) (names.zip ((settingsAt resolved).zonesFor names.length
      options.spread)) options = .ok tasks)
    {outcomes : List (String × Except Fault Unit)} {after : Site}
    (settled : (((Host.schedule site).arrange Prod.fst tasks).mapM (settleInsert found)).run resolved =
      (outcomes, after)) :
    ∃ created, Site.Calls [] after created ∧
      (create names options).on site = (createFailure names.length (failuresOf outcomes), created) := by
  -- Looking the project up does not change the order of the tasks.
  obtain ⟨created, told, silent⟩ := on_tellFailures outcomes after
  refine ⟨created, told, ?_⟩
  have nonempty : names.isEmpty = false := by simpa using some
  rw [← (project_resolves resolves).schedule] at settled
  rw [create, nonempty]
  simp only [Bool.false_eq_true, if_false]
  rw [Program.on_bind_ok resolves]
  simp only [Program.on_bind, Program.on_get, Program.on_ofExcept, asked, Program.on_lift, settled, silent]

/-- Creating runs one task for each position of the names, in the order of the schedule, and each to its own
end, and tells the failure of all. -/
theorem on_create {names : List String} (some : names ≠ []) (options : CreateOptions)
    {site resolved : Site} {found : String} (resolves : project.on site = (.ok found, resolved))
    {image : Option String} (usable : (settingsAt resolved).bootImage = .ok image) :
    ∃ (ends : List InsertEnd) (created : Site),
      ends.map InsertEnd.position = (Host.schedule site).positions names ∧
      (∀ ended ∈ ends, ended.Fits (settingsAt resolved) names options ∧ ended.Attempted found) ∧
      Site.Acts (ends.flatMap InsertEnd.events) resolved created ∧
      Grown site.clock.text resolved.cloud ends created.cloud ∧
      (create names options).on site =
        (createFailure names.length (failuresOf (ends.map InsertEnd.told)), created) := by
  -- A task's label is its name, so the schedule arranges the positions of the names.
  have kept := project_resolves resolves
  have zones := length_zonesFor (settingsAt resolved) names.length options.spread
  obtain ⟨tasks, asked, labels, each⟩ := exists_tasksOf usable
    (names.zip ((settingsAt resolved).zonesFor names.length options.spread)) options
  rw [List.map_fst_zip (by omega)] at labels
  have size : tasks.length = names.length := by simpa using congrArg List.length labels
  -- Every position that is arranged has a task.
  have inside : ∀ position ∈ (Host.schedule site).positions names, position < tasks.length := by
    intro position member
    rw [size]
    exact List.mem_range.mp (((Host.schedule site).perm names).mem_iff.mp member)
  obtain ⟨ends, after, placed, done, settled, acts, grown⟩ :=
    run_settleInserts found tasks inside resolved
  rw [← labels] at settled
  obtain ⟨created, told, ran⟩ := on_create_settled some resolves asked settled
  refine ⟨ends, created, placed, fun ended member => ?_, by simpa using acts.trans told.toActs,
    kept.clock ▸ grown.of_zones told.zones, ran⟩
  -- The task at a position is that of its name and its zone.
  obtain ⟨task, attempted⟩ := done ended member
  obtain ⟨place, request⟩ := each _ _ _ _ task
  obtain ⟨name, zone⟩ := List.getElem?_zip_eq_some.mp place
  exact ⟨⟨name, zone, request⟩, attempted⟩

/-- For an image that is a list nothing is begun. -/
theorem on_create_unusable {names : List String} (some : names ≠ []) (options : CreateOptions)
    {site resolved : Site} {found : String} (resolves : project.on site = (.ok found, resolved))
    {problem : Problem} (unusable : (settingsAt resolved).bootImage = .error problem) :
    (create names options).on site = (.error (.problem problem), resolved) := by
  -- There are names, and so there is a place for each of them.
  have nonempty : names.isEmpty = false := by simpa using some
  have places : names.zip ((settingsAt resolved).zonesFor names.length options.spread) ≠ [] := by
    rw [ne_eq, List.zip_eq_nil_iff, not_or, ← List.length_eq_zero_iff (l := Settings.zonesFor _ _ _),
      length_zonesFor, List.length_eq_zero_iff]
    exact ⟨some, some⟩
  rw [create, nonempty]
  simp only [Bool.false_eq_true, if_false]
  rw [Program.on_bind_ok resolves]
  simp only [Program.on_bind, Program.on_get, Program.on_ofExcept, tasksOf_eq_error unusable places]

/-- The ends of tasks, the outcome and the site that creating leaves account for every position of the names.
The project was found on a resolved site. -/
structure Accounted (names : List String) (options : CreateOptions) (site resolved : Site)
    (found : String) (ends : List InsertEnd) (outcome : Except Fault Unit) (created : Site) :
    Prop where
  /-- Tasks ended in the order of the schedule. -/
  scheduled : ends.map InsertEnd.position = (Host.schedule site).positions names
  /-- Every position had one task, whatever became of the others. -/
  complete : (ends.map InsertEnd.position).Perm (List.range names.length)
  /-- Every task was for the name and the zone of its position. -/
  fits : ∀ ended ∈ ends, ended.Fits (settingsAt resolved) names options
  /-- What a task would make has its name. -/
  named : ∀ ended ∈ ends, (ended.made site.clock.text).name = ended.name
  /-- Every task was one to three attempts. -/
  attempted : ∀ ended ∈ ends, ended.Attempted found
  /-- Nothing else was done. Nobody asks for a project when there is nothing to create. -/
  trace : created.trace =
    (if names = [] then site else resolved).trace ++ ends.flatMap InsertEnd.events
  /-- Every zone has what it had, and then one instance for each task for it that succeeded. -/
  instances : ∀ key, created.cloud.under key = site.cloud.under key ++
    (ends.filter fun ended => ended.succeeded && Cloud.zoneKey ended.zone == key).map
      (InsertEnd.made site.clock.text)
  /-- All is well exactly when every task succeeded. -/
  ok_iff : outcome = .ok () ↔ ∀ ended ∈ ends, ended.outcome = .ok ()
  /-- Otherwise exactly the names with a failed task are told, in order and each once. -/
  reported : (∃ ended ∈ ends, ∃ fault, ended.outcome = .error fault) →
    ∃ (reported : List String) (cause : Fault), reported.Pairwise (· < ·) ∧
      (∀ name, name ∈ reported ↔
        ∃ ended ∈ ends, ended.name = name ∧ ∃ fault, ended.outcome = .error fault) ∧
      (∃ ended ∈ ends, ended.outcome = .error cause) ∧
      outcome = .error (.because ⟨.general,
        s!"failed to create {reported.length} of {names.length} VMs: " ++ ", ".intercalate reported,
        some providerName, some "create"⟩ cause)

/-- Creating accounts for every virtual machine, once the project is found. Each position of the names has
one task for its name and its zone, of one to three attempts, whatever becomes of the others. A task that
succeeded added one instance of its name to its zone, one that failed added none, and what was there before
stays as it was. All is well exactly when every task succeeded; otherwise exactly the names with a failed
task are told. Only for an image that is no text nothing is begun. -/
theorem create_accounts (names : List String) (options : CreateOptions) {site resolved : Site}
    {found : String} (resolves : project.on site = (.ok found, resolved)) :
    (∃ problem, (settingsAt resolved).bootImage = .error problem ∧ names ≠ [] ∧
      (create names options).on site = (.error (.problem problem), resolved)) ∨
    ∃ (ends : List InsertEnd) (outcome : Except Fault Unit) (created : Site),
      (create names options).on site = (outcome, created) ∧
      Accounted names options site resolved found ends outcome created := by
  -- The schedule puts positions in an order and leaves none out.
  have placed (labels : List String) := (Host.schedule site).perm labels
  by_cases empty : names = []
  · -- Nobody asks for a project when there is nothing to create.
    subst empty
    have none : (Host.schedule site).positions [] = [] := List.perm_nil.mp (placed [])
    exact .inr ⟨[], .ok (), site, rfl, by simp [none], by simp, by simp, by simp, by simp, by simp,
      by simp, by simp, by simp⟩
  · cases usable : (settingsAt resolved).bootImage with
    | error problem =>
      -- The image is refused before anything is begun.
      exact .inl ⟨problem, rfl, empty, on_create_unusable empty options resolves usable⟩
    | ok image =>
      -- Each part is read off how the tasks ended.
      obtain ⟨ends, created, positions, each, acts, grown, same⟩ :=
        on_create empty options resolves usable
      refine .inr ⟨ends, _, created, same, positions, positions ▸ placed names,
        fun ended member => (each ended member).1, fun ended member => (each ended member).1.made_name _,
        fun ended member => (each ended member).2, by rw [if_neg empty, acts.trace], fun key => ?_,
        createFailure_eq_ok_iff names.length ends, createFailure_eq_error names.length⟩
      -- Looking for the project left the zones, so they have grown from what was there before.
      rw [grown.under, Cloud.under, (project_resolves resolves).zones, ← Cloud.under]

/-- Noon of the first day of all. -/
def firstNoon : Moment := ⟨43200000000, some 0, by decide⟩

/-- A site with a project and an empty cloud, where no call fails. -/
def quietSite : Site where
  clock := firstNoon
  hostName := "here"
  hasTool := true
  tool := {}
  cloud := { zones := .empty, faults := .empty }
  project := ""
  version := none
  logger := .fresh
  order := []
  localFleet := .start firstNoon "here"
  settings := .ofList [(providerName, { project := .text "lab" })]
  scripts := .empty
  trace := []
  log := []

/-- On the quiet site the second of two tasks for one name fails, and the name is told once. -/
theorem create_accounts_for_repetition :
    project.on quietSite = (.ok "lab", quietSite) ∧
      ∃ (ends : List InsertEnd) (outcome : Except Fault Unit) (created : Site),
        (create ["web", "web"] {}).on quietSite = (outcome, created) ∧ outcome ≠ .ok () ∧
        Accounted ["web", "web"] {} quietSite quietSite "lab" ends outcome created := by
  have resolves : project.on quietSite = (.ok "lab", quietSite) := rfl
  -- The name is taken when the second task asks for it.
  have failed : ((create ["web", "web"] {}).on quietSite).1 ≠ .ok () := by decide +kernel
  refine ⟨resolves, ?_⟩
  -- The quiet site has no image to refuse.
  obtain ⟨problem, unusable, _⟩ | ⟨ends, outcome, created, same, accounted⟩ :=
    create_accounts ["web", "web"] {} resolves
  · cases unusable
  · exact ⟨ends, outcome, created, same, by rwa [same] at failed, accounted⟩

end Fleet.Compute
