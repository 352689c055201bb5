import Fleet.Proofs.Compute.Create

/-! The failure that creating on Compute Engine tells: failed tasks are counted by their names, each name
once, and the cause is the last failure of the name that failed first. -/

namespace Fleet.Compute

/-- The failures of tasks, each with the task's name, in the order in which they came. -/
def failures (ends : List InsertEnd) : List (String × Fault) :=
  ends.filterMap fun ended =>
    match ended.outcome with
    | .ok _ => none
    | .error fault => some (ended.name, fault)

/-- The last of the failures of a name. -/
def lastFailure (name : String) (failures : List (String × Fault)) : Option Fault :=
  (failures.filter fun failure => failure.1 == name).getLast?.map Prod.snd

/-- A task that fails last adds its failure, and any other adds none. -/
theorem failures_concat (ends : List InsertEnd) (ended : InsertEnd) :
    failures (ends ++ [ended]) = match ended.outcome with
      | .ok _ => failures ends
      | .error fault => failures ends ++ [(ended.name, fault)] := by
  simp only [failures, List.filterMap_append, List.filterMap_cons, List.filterMap_nil]
  cases ended.outcome <;> simp

/-- There are no failures exactly when every task succeeded. -/
theorem failures_eq_nil_iff (ends : List InsertEnd) :
    failures ends = [] ↔ ∀ ended ∈ ends, ended.outcome = .ok () := by
  rw [failures, List.filterMap_eq_nil_iff]
  refine forall₂_congr fun ended _ => ?_
  cases ended.outcome <;> simp

/-- A failure that comes last is the last of its own name, and of no other. -/
theorem lastFailure_concat (failures : List (String × Fault)) (other name : String) (fault : Fault) :
    lastFailure name (failures ++ [(other, fault)]) =
      if name = other then some fault else lastFailure name failures := by
  -- Only the failures of the name are looked at.
  rw [lastFailure, List.filter_append]
  by_cases own : name = other
  · simp [own]
  · simp [own, Ne.symm own, lastFailure]

/-- What is kept of one more task. -/
theorem failuresOf_told_concat (ends : List InsertEnd) (ended : InsertEnd) :
    failuresOf ((ends ++ [ended]).map InsertEnd.told) = match ended.outcome with
      | .ok _ => failuresOf (ends.map InsertEnd.told)
      | .error fault => (failuresOf (ends.map InsertEnd.told)).insert ended.name fault := by
  rw [List.map_append, List.map_singleton, failuresOf_concat]
  rfl

/-- The names that are kept are those that failed, each once, in the order of their first failures. -/
theorem keys_failuresOf (ends : List InsertEnd) :
    (failuresOf (ends.map InsertEnd.told)).keys = ((failures ends).map Prod.fst).eraseDups := by
  -- A failure adds its name behind the others, unless it is one of them.
  induction ends using List.reverseRecOn with
  | nil => rfl
  | append_singleton ends ended ih =>
    rw [failuresOf_told_concat, failures_concat]
    cases ended.outcome with
    | ok answer => exact ih
    | error fault =>
      simp only [OrderedMap.keys_insert, ih, Names.mem_eraseDups, List.map_append, List.map_singleton,
        Names.eraseDups_concat]

/-- Under each name its last failure is kept. -/
theorem get?_failuresOf (ends : List InsertEnd) (name : String) :
    (failuresOf (ends.map InsertEnd.told)).get? name = lastFailure name (failures ends) := by
  -- A failure takes the place of those before it of its name.
  induction ends using List.reverseRecOn with
  | nil => rfl
  | append_singleton ends ended ih =>
    rw [failuresOf_told_concat, failures_concat]
    cases ended.outcome with
    | ok answer => exact ih
    | error fault =>
      simp only [OrderedMap.get?_insert, lastFailure_concat, ih]

/-- What is told of failures: the names that failed, in order and each once, and for the cause the last
failure of the name that failed first. -/
structure Summary (failures : List (String × Fault)) (told : List String) (cause : Fault) : Prop where
  ascending : told.Pairwise (· < ·)
  names : ∀ name, name ∈ told ↔ name ∈ failures.map Prod.fst
  cause : ∃ first later, failures = first :: later ∧ lastFailure first.1 failures = some cause
  /-- Every failed task is counted exactly when no two of them are of one name. -/
  counted : told.length = failures.length ↔ (failures.map Prod.fst).Nodup

/-- Where no name failed twice the cause is the first failure of all. -/
theorem Summary.cause_eq {first : String × Fault} {later : List (String × Fault)} {told : List String}
    {cause : Fault} (summary : Summary (first :: later) told cause)
    (distinct : ((first :: later).map Prod.fst).Nodup) : cause = first.2 := by
  obtain ⟨_, _, same, last⟩ := summary.cause
  obtain ⟨rfl, rfl⟩ := List.cons.inj same
  -- The name has no other failure, so its last one is its first.
  have none : (later.filter fun failure => failure.1 == first.1) = [] := by
    rw [List.filter_eq_nil_iff]
    intro failure member named
    exact (List.nodup_cons.mp distinct).1 (List.mem_map.mpr ⟨failure, member, by simpa using named⟩)
  rw [lastFailure, List.filter_cons_of_pos (by simp), none] at last
  exact (Option.some.inj last).symm

/-- The failure that is told of tasks is the summary of their failures. -/
theorem exists_summary (count : Nat) {ends : List InsertEnd} (failed : failures ends ≠ []) :
    ∃ (told : List String) (cause : Fault), Summary (failures ends) told cause ∧
      createFailure count (failuresOf (ends.map InsertEnd.told)) = .error (.because ⟨.general,
        s!"failed to create {told.length} of {count} VMs: " ++ ", ".intercalate told,
        some providerName, some "create"⟩ cause) := by
  obtain ⟨first, later, same⟩ := List.exists_cons_of_ne_nil failed
  have keys := keys_failuresOf ends
  -- The first name that is kept is that of the first failure.
  have begins : ∃ others, (failuresOf (ends.map InsertEnd.told)).keys = first.1 :: others :=
    ⟨_, by rw [keys, same, List.map_cons, List.eraseDups_cons]⟩
  obtain ⟨others, begins⟩ := begins
  rcases kept : (failuresOf (ends.map InsertEnd.told)).entries with _ | ⟨⟨name, cause⟩, rest⟩
  · -- With nothing kept there would be no first name.
    rw [OrderedMap.keys, kept] at begins
    cases begins
  · refine ⟨Names.sorted (failuresOf (ends.map InsertEnd.told)).keys, cause, ⟨?_, ?_, ?_, ?_⟩, ?_⟩
    · -- Names are told in order, each once.
      exact Names.sorted_ascending (OrderedMap.nodup_keys _)
    · -- Those that are told are those that are kept, and those are the names of the failures.
      intro name
      rw [Names.mem_sorted, keys, Names.mem_eraseDups]
    · -- What is kept first is the cause, and it is kept under the first name.
      rw [OrderedMap.keys, kept, List.map_cons] at begins
      obtain rfl : name = first.1 := (List.cons.inj begins).1
      refine ⟨first, later, same, ?_⟩
      rw [← get?_failuresOf, OrderedMap.get?_eq_some_iff, kept]
      exact List.mem_cons_self
    · -- A name that failed twice is the only way to lose count.
      rw [Names.length_sorted, keys, ← Names.length_eraseDups_eq_iff, List.length_map]
    · -- The number that is told is that of the names.
      have values : (failuresOf (ends.map InsertEnd.told)).values = cause :: rest.map Prod.snd := by
        rw [OrderedMap.values, kept, List.map_cons]
      have size : (failuresOf (ends.map InsertEnd.told)).size =
          (Names.sorted (failuresOf (ends.map InsertEnd.told)).keys).length := by
        rw [Names.length_sorted, OrderedMap.size, OrderedMap.keys, List.length_map]
      rw [createFailure, values, size]
      rfl

/-- Where no name is asked for twice none fails twice. -/
theorem nodup_failures {settings : Settings} {names : List String} {options : CreateOptions}
    {ends : List InsertEnd} (distinct : names.Nodup)
    (positions : (ends.map InsertEnd.position).Nodup)
    (fits : ∀ ended ∈ ends, ended.Fits settings names options) :
    ((failures ends).map Prod.fst).Nodup := by
  -- Tasks for different positions have different names.
  have named : (ends.map InsertEnd.name).Nodup := by
    -- Suppose that two of them had one name.
    refine List.pairwise_map.mpr ((List.pairwise_map.mp positions).imp_of_mem ?_)
    intro one other member memberToo apart same
    have first := (fits one member).name
    have second := (fits other memberToo).name
    rw [← same, ← first] at second
    -- Then it would stand at both positions, and it is asked for only once.
    have inside : other.position < names.length := by
      rw [first] at second
      exact (List.getElem?_eq_some_iff.mp second).1
    exact apart ((List.getElem?_inj inside distinct).mp second).symm
  -- The names of failures are some of those of the tasks.
  refine named.sublist ?_
  clear named positions fits
  induction ends with
  | nil => exact .refl _
  | cons ended rest ih =>
    rw [failures, List.filterMap_cons, ← failures, List.map_cons]
    cases ended.outcome with
    | ok answer => exact ih.cons _
    | error fault => exact ih.cons_cons _

/-- Creating tells a summary of the failures of its tasks, once the project is found. Each position of the
names has one task, which ends in the order of the schedule. If no task fails all is well. Otherwise the names
that failed are told, each once, with their number and that of all names, and the cause is the last failure
of the name that failed first. So every failed task is counted exactly when no two of them are of one name,
and where no name is asked for twice the cause is the first failure of all. Only for an image that is no text
nothing is begun. -/
theorem create_summarizes (names : List String) (options : CreateOptions) {site resolved : Site}
    {found : String} (resolves : project.on site = (.ok found, resolved)) :
    (∃ problem, (settingsAt resolved).bootImage = .error problem ∧ names ≠ [] ∧
      (create names options).on site = (.error (.problem problem), resolved)) ∨
    ∃ (ends : List InsertEnd) (outcome : Except Fault Unit) (created : Site),
      (create names options).on site = (outcome, created) ∧
      ends.map InsertEnd.position = (Host.schedule site).positions names ∧
      (ends.map InsertEnd.position).Perm (List.range names.length) ∧
      (∀ ended ∈ ends, ended.Fits (settingsAt resolved) names options ∧ ended.Attempted found) ∧
      (failures ends = [] → outcome = .ok ()) ∧
      (failures ends ≠ [] → ∃ (told : List String) (cause : Fault),
        Summary (failures ends) told cause ∧
        outcome = .error (.because ⟨.general,
          s!"failed to create {told.length} of {names.length} VMs: " ++ ", ".intercalate told,
          some providerName, some "create"⟩ cause) ∧
        (names.Nodup → told.length = (failures ends).length ∧
          ((failures ends).map Prod.snd).head? = some cause)) := by
  have placed := (Host.schedule site).perm names
  by_cases empty : names = []
  · -- Nothing is begun for no names, and nothing fails.
    subst empty
    have none : (Host.schedule site).positions [] = [] := List.perm_nil.mp placed
    exact .inr ⟨[], .ok (), site, rfl, by simp [none], by simp, by simp, fun _ => rfl, by simp [failures]⟩
  cases usable : (settingsAt resolved).bootImage with
  | error problem => exact .inl ⟨problem, rfl, empty, on_create_unusable empty options resolves usable⟩
  | ok image =>
    obtain ⟨ends, created, positions, each, _, _, ran⟩ := on_create empty options resolves usable
    -- As positions come once, so do the names that are asked for.
    have once : (ends.map InsertEnd.position).Perm (List.range names.length) := positions ▸ placed
    refine .inr ⟨ends, _, created, ran, positions, once, each, fun fine => ?_, fun failed => ?_⟩
    · exact (createFailure_eq_ok_iff names.length ends).mpr ((failures_eq_nil_iff ends).mp fine)
    · obtain ⟨told, cause, summary, same⟩ := exists_summary names.length failed
      refine ⟨told, cause, summary, same, fun distinct => ?_⟩
      -- Different names fail once each, so all failures are counted and the first one is kept.
      have apart := nodup_failures distinct (once.nodup_iff.mpr List.nodup_range)
        fun ended member => (each ended member).1
      refine ⟨summary.counted.mpr apart, ?_⟩
      obtain ⟨first, later, begins⟩ := List.exists_cons_of_ne_nil failed
      rw [begins] at summary apart ⊢
      rw [summary.cause_eq apart]
      rfl

/-- What a call to the cloud fails with while the cloud is busy. -/
def busy : Fault := .problem (.reported .state "busy")

/-- What a call to the cloud fails with when the cloud is full. -/
def full : Fault := .problem (.reported .state "full")

/-- A site where six calls for an instance of the name `web` fail: the cloud is busy for three of them, and
then it is full. -/
def crowdedSite : Site :=
  { quietSite with cloud := {
      zones := .empty
      faults := .ofList [("insert:web", List.replicate 3 (some busy) ++ List.replicate 3 (some full))] } }

/-- On the crowded site a name that is asked for once fails once, and is counted with its cause. -/
theorem create_summarizes_crowdedSite :
    project.on crowdedSite = (.ok "lab", crowdedSite) ∧
      ((create ["web", "db"] {}).on crowdedSite).1 = .error (.because ⟨.general,
        "failed to create 1 of 2 VMs: web", some providerName, some "create"⟩ busy) ∧
      ∃ (ends : List InsertEnd) (told : List String),
        Summary (failures ends) told busy ∧ told.length = (failures ends).length := by
  have resolves : project.on crowdedSite = (.ok "lab", crowdedSite) := rfl
  have ran : ((create ["web", "db"] {}).on crowdedSite).1 = .error (.because ⟨.general,
      "failed to create 1 of 2 VMs: web", some providerName, some "create"⟩ busy) := by decide +kernel
  refine ⟨resolves, ran, ?_⟩
  obtain ⟨_, unusable, _⟩ | ⟨ends, outcome, created, same, _, _, _, fine, summarized⟩ :=
    create_summarizes ["web", "db"] {} resolves
  · cases unusable
  · have failed : failures ends ≠ [] := fun none => by
      -- If nothing had failed, creating would have been well, and it was not.
      rw [same, fine none] at ran
      cases ran
    obtain ⟨told, cause, summary, reported, counted⟩ := summarized failed
    -- The cause of the failure that was told is that the cloud is busy.
    rw [same] at ran
    obtain rfl : busy = cause := (Fault.because.inj (Except.error.inj (ran.symm.trans reported))).2
    exact ⟨ends, told, summary, (counted (by decide)).1⟩

/-- On the crowded site a name that is asked for twice fails twice, first since the cloud is busy, but one of
two failures is counted, and its cause is that the cloud is full. -/
theorem create_miscounts :
    ∃ tasks, tasksOf (settingsAt crowdedSite) [("web", "us-east1-b"), ("web", "us-east1-b")] {} = .ok tasks ∧
      ((((Host.schedule crowdedSite).arrange Prod.fst tasks).mapM (settleInsert "lab")).run
        crowdedSite).1 = [("web", .error busy), ("web", .error full)] ∧
      ((create ["web", "web"] {}).on crowdedSite).1 = .error (.because ⟨.general,
        "failed to create 1 of 2 VMs: web", some providerName, some "create"⟩ full) :=
  ⟨_, rfl, by decide +kernel, by decide +kernel⟩

end Fleet.Compute
