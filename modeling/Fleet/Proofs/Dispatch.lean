import Fleet.Dispatch
import Fleet.Proofs.Roster
import Fleet.Proofs.Schedule
import Fleet.Proofs.Watch

/-! Dispatch side by side: every task runs to its end in the order of the schedule, whatever becomes of
the others, and the first failure to come is the failure of all. -/

namespace Fleet.Dispatch

open Program

variable {κ σ π ρ ι α : Type}

/-- How one of several tasks came to its end, and the calls that it made. -/
structure TaskEnd (ι κ α : Type) where
  task : ι
  outcome : Except Fault α
  calls : List κ

/-- A task that is settled is run once, and what becomes of it stands beside its label. -/
theorem run_settle (label : String) (program : Program σ α) (state : σ) :
    (settle (label, program)).run state = ((label, (program.on state).1), (program.on state).2) :=
  rfl

/-- Settling tasks one after another runs each of them, whatever becomes of the others. -/
theorem settle_watches (label : ι → String) {watching : ι → Program (Watched κ σ) α}
    {plain : ι → Program σ α} {condition : ι → Except Fault α → List κ → Prop} {tasks : List ι}
    (watches : ∀ task ∈ tasks, Watches (watching task) (plain task) (condition task))
    (state : σ) (calls : List κ) :
    ∃ (ends : List (TaskEnd ι κ α)) (after : σ),
      ends.map TaskEnd.task = tasks ∧
      (∀ ended ∈ ends, condition ended.task ended.outcome ended.calls) ∧
      ((tasks.map fun task => (label task, plain task)).mapM settle).run state =
        (ends.map fun ended => (label ended.task, ended.outcome), after) ∧
      ((tasks.map fun task => (label task, watching task)).mapM settle).run ⟨state, calls⟩ =
        (ends.map fun ended => (label ended.task, ended.outcome),
          ⟨after, calls ++ ends.flatMap TaskEnd.calls⟩) := by
  -- Each task takes over the state and the calls that the tasks before it left.
  induction tasks generalizing state calls with
  | nil => exact ⟨[], state, rfl, by simp, rfl, by simp; rfl⟩
  | cons task rest ih =>
    -- The first task makes its calls, and the induction goes on with what it left.
    obtain ⟨made, holds, same⟩ := watches task (by simp) ⟨state, calls⟩
    obtain ⟨ends, after, tasksEnded, all, plainRest, watchingRest⟩ :=
      ih (fun other member => watches other (by simp [member])) ((plain task).on state).2
        (calls ++ made)
    refine ⟨⟨task, ((plain task).on state).1, made⟩ :: ends, after, by simp [tasksEnded], ?_, ?_, ?_⟩
    · -- Each end is that of the first task or of one of the rest.
      intro ended member
      rcases List.mem_cons.mp member with rfl | member
      · exact holds
      · exact all ended member
    · -- Nobody watches here, and the tasks come to the same ends.
      simp only [List.map_cons, run_mapM_cons, run_settle, plainRest]
    · -- The calls of the first task come before those of the rest.
      simp only [List.map_cons, run_mapM_cons, run_settle, same, watchingRest,
        List.flatMap_cons, List.append_assoc]

/-- Telling of failures answers nothing, and makes no call on a state that is watched. -/
theorem tell_watched [Host σ] (ends : List (String × Except Fault α)) (state : σ)
    (calls : List κ) :
    (ends.forM tellFailure : StateM (Watched κ σ) PUnit).run ⟨state, calls⟩ =
      (⟨⟩, ⟨((ends.forM tellFailure : StateM σ PUnit).run state).2, calls⟩) := by
  -- Telling changes the state that is watched, and makes no call.
  induction ends generalizing state with
  | nil => rfl
  | cons ended rest ih =>
    obtain ⟨label, outcome⟩ := ended
    cases outcome with
    | ok answer => exact ih state
    | error fault => exact ih _

/-- What becomes of tasks side by side: the tasks in the order of the schedule are settled, failures are
told, and the first failure or all answers are what is left. -/
theorem on_together [Host σ] (schedule : Schedule) (tasks : List (String × Program σ α)) (state : σ) :
    (together schedule tasks).on state =
      let settled := ((schedule.arrange Prod.fst tasks).mapM settle).run state
      (settled.1.mapM Prod.snd, ((settled.1.forM tellFailure).run settled.2).2) :=
  rfl

/-- Tasks side by side each run once, in the order of the schedule. The first failure to come is the
failure of all; otherwise there are the answers in the order in which they came. -/
theorem together_watches [Host σ] (schedule : Schedule) (label : ι → String)
    {watching : ι → Program (Watched κ σ) α} {plain : ι → Program σ α}
    {condition : ι → Except Fault α → List κ → Prop} {tasks : List ι}
    (watches : ∀ task ∈ tasks, Watches (watching task) (plain task) (condition task)) :
    Watches (together schedule (tasks.map fun task => (label task, watching task)))
      (together schedule (tasks.map fun task => (label task, plain task))) fun outcome calls =>
        ∃ ends : List (TaskEnd ι κ α), ends.map TaskEnd.task = schedule.arrange label tasks ∧
          (∀ ended ∈ ends, condition ended.task ended.outcome ended.calls) ∧
          calls = ends.flatMap TaskEnd.calls ∧ outcome = ends.mapM TaskEnd.outcome := by
  -- Settling comes before telling, and only settling makes calls.
  intro ⟨state, calls⟩
  have arranged : ∀ task ∈ schedule.arrange label tasks,
      Watches (watching task) (plain task) (condition task) :=
    fun task member => watches task ((schedule.mem_arrange label tasks task).mp member)
  obtain ⟨ends, after, ended, all, plainSettled, watchingSettled⟩ :=
    settle_watches label arranged state calls
  -- Labels are only for telling, so what is left are the outcomes of the ends.
  have outcomes : (ends.map fun ended => (label ended.task, ended.outcome)).mapM Prod.snd =
      ends.mapM TaskEnd.outcome := by
    rw [List.mapM_map]
    rfl
  simp only [on_together, Schedule.arrange_map, plainSettled, watchingSettled, tell_watched, outcomes]
  exact ⟨_, ⟨ends, ended, all, rfl, rfl⟩, rfl⟩

section Providers

variable {registry : Registry π} {others : Registry ρ} {watch : String → π → ρ}

/-- An action on the provider of a name does what it does if the name is registered, and what it raises is
told as that provider's fault; otherwise nothing is called. -/
theorem forProvider_watches (found : ∀ name, others.get name = (registry.get name).map (watch name))
    {watching : ρ → Program (Watched κ σ) α} {plain : π → Program σ α} (operation : Option String)
    {name : String} {condition : π → Except Fault α → List κ → Prop}
    (watches : ∀ member, registry.get name = .ok member →
      Watches (watching (watch name member)) (plain member) (condition member)) :
    Watches (forProvider others operation watching name) (forProvider registry operation plain name)
      fun outcome calls => match registry.get name with
        | .ok member => ∃ inner, condition member inner calls ∧
          outcome = inner.mapError (Fault.inProvider name operation)
        | .error fault => calls = [] ∧ outcome = .error fault := by
  -- Whether the name is registered decides both sides alike.
  unfold forProvider
  rw [found]
  cases known : registry.get name with
  | ok member =>
    -- The calls are those of the provider, whose failure is told as its own.
    exact (watches member known).mapFault _
  | error fault =>
    -- There is nobody to call.
    exact (Watches.ofExcept (.error fault)).weaken fun _ _ ⟨same, made⟩ => ⟨made, same⟩

/-- What the fault of a group is when nobody is registered under the owner's name. -/
def unknownOwner (owner : String) (operation : Option String) : Fault :=
  .fleet ⟨.unknownProvider, s!"unknown provider name: {owner}", some owner, operation⟩

/-- The end of an owner's group fits the registry and the roster: a registered owner was called once with
its share, and what it raised is told as its fault. For any other owner there was no call. -/
def TaskEnd.Fits (registry : Registry π) (call : String → π → Roster → Except Fault α → κ)
    (roster : Roster) (operation : Option String) (ended : TaskEnd String κ α) : Prop :=
  match registry.get ended.task with
  | .ok member => ∃ inner, ended.calls = [call ended.task member (roster.share ended.task) inner] ∧
    ended.outcome = inner.mapError (Fault.inProvider ended.task operation)
  | .error _ => ended.calls = [] ∧ ended.outcome = .error (unknownOwner ended.task operation)

namespace TaskEnd.Fits

variable {call : String → π → Roster → Except Fault α → κ} {roster : Roster}
  {operation : Option String} {ended : TaskEnd String κ α}

/-- A registered owner was called once, and failed as it raised. -/
theorem called (fits : ended.Fits registry call roster operation) {member : π}
    (found : registry.get ended.task = .ok member) :
    ∃ inner, ended.calls = [call ended.task member (roster.share ended.task) inner] ∧
      ended.outcome = inner.mapError (Fault.inProvider ended.task operation) := by
  rwa [Fits, found] at fits

/-- Nothing was called for an owner that is not registered. -/
theorem not_called (fits : ended.Fits registry call roster operation) {fault : Fault}
    (unknown : registry.get ended.task = .error fault) :
    ended.calls = [] ∧ ended.outcome = .error (unknownOwner ended.task operation) := by
  rwa [Fits, unknown] at fits

end TaskEnd.Fits

/-- An action on the provider of an owner is called once, with the owner's share, if the owner is
registered; otherwise nothing is called. -/
theorem forGroup_watches (found : ∀ name, others.get name = (registry.get name).map (watch name))
    {watching : ρ → Roster → Program (Watched κ σ) α} {plain : π → Roster → Program σ α}
    {call : String → π → Roster → Except Fault α → κ}
    (watches : ∀ name member group, Watches (watching (watch name member) group) (plain member group)
      fun outcome calls => calls = [call name member group outcome])
    (operation : Option String) (roster : Roster) (owner : String) :
    Watches (forGroup others operation watching (owner, roster.share owner))
      (forGroup registry operation plain (owner, roster.share owner)) fun outcome calls =>
        TaskEnd.Fits registry call roster operation ⟨owner, outcome, calls⟩ := by
  -- Whether the owner is registered decides both sides alike.
  unfold forGroup
  rw [found]
  cases known : registry.get owner with
  | ok member =>
    -- The owner is called with its share.
    refine ((watches owner member _).mapFault _).weaken fun outcome calls ⟨inner, made, same⟩ => ?_
    rw [TaskEnd.Fits, known]
    exact ⟨inner, made, same⟩
  | error fault =>
    -- There is nobody to call with the share.
    refine (Watches.throw _).weaken fun outcome calls ⟨same, made⟩ => ?_
    rw [TaskEnd.Fits, known]
    exact ⟨made, same⟩

/-- An action side by side on registered providers is called once for each of the names, in the order of
the schedule, and what becomes of each call is possible for its provider. The first failure to come is the
failure of all. -/
theorem parallel_watches [Host σ] (schedule : Schedule) (call : String → Except Fault α → κ)
    {possible : String → Except Fault α → Prop}
    (found : ∀ name, others.get name = (registry.get name).map (watch name))
    {watching : ρ → Program (Watched κ σ) α} {plain : π → Program σ α}
    (watches : ∀ name member, registry.get name = .ok member →
      Watches (watching (watch name member)) (plain member)
        fun outcome calls => calls = [call name outcome] ∧ possible name outcome)
    (operation : Option String) {names : List String}
    (registered : ∀ name ∈ names, ∃ member, registry.get name = .ok member) :
    Watches (parallel schedule others names operation watching)
      (parallel schedule registry names operation plain) fun outcome calls =>
        ∃ made : List (String × Except Fault α), made.map Prod.fst = schedule.arrange id names ∧
          (∀ one ∈ made, possible one.1 one.2) ∧
          calls = made.map (fun made => call made.1 made.2) ∧
          outcome = made.mapM fun made => made.2.mapError (Fault.inProvider made.1 operation) := by
  -- Side by side, each task comes to an end of its own, as a call to a provider does.
  refine (together_watches schedule id fun name _ =>
    forProvider_watches found operation (watches name)).weaken ?_
  rintro outcome calls ⟨ends, tasks, each, rfl, rfl⟩
  rw [← tasks]
  -- Each end is that of a registered name, so there is one call for it.
  replace each : ∀ ended ∈ ends, ∃ inner,
      (ended.calls = [call ended.task inner] ∧ possible ended.task inner) ∧
        ended.outcome = inner.mapError (Fault.inProvider ended.task operation) := by
    intro ended member
    -- Arranging tasks adds none, so each of them is for one of the names.
    have named : ended.task ∈ names := (schedule.mem_arrange id names _).mp
      (tasks ▸ List.mem_map.mpr ⟨ended, member, rfl⟩)
    obtain ⟨provider, known⟩ := registered ended.task named
    simpa only [known] using each ended member
  clear tasks
  induction ends with
  | nil => exact ⟨[], rfl, by simp, rfl, rfl⟩
  | cons ended rest ih =>
    -- The first end is looked at first, and its call comes before those of the rest.
    obtain ⟨inner, ⟨made, first⟩, same⟩ := each ended (by simp)
    obtain ⟨others, names, later, calls, outcomes⟩ :=
      ih fun other member => each other (by simp [member])
    refine ⟨(ended.task, inner) :: others, by simp [names], List.forall_mem_cons.mpr ⟨first, later⟩,
      by simp [made, calls], ?_⟩
    rw [List.mapM_cons, List.mapM_cons, same, outcomes]

/-- An action side by side on the providers of a roster settles one group for each owner, in the order of
the schedule. -/
theorem fanOut_watches [Host σ] (schedule : Schedule)
    (call : String → π → Roster → Except Fault α → κ)
    (found : ∀ name, others.get name = (registry.get name).map (watch name))
    {watching : ρ → Roster → Program (Watched κ σ) α} {plain : π → Roster → Program σ α}
    (watches : ∀ name member group, Watches (watching (watch name member) group) (plain member group)
      fun outcome calls => calls = [call name member group outcome])
    (roster : Roster) (operation : Option String) :
    Watches (fanOut schedule others roster operation watching)
      (fanOut schedule registry roster operation plain) fun outcome calls =>
        ∃ ends : List (TaskEnd String κ α), ends.map TaskEnd.task = schedule.arrange id roster.owners ∧
          (∀ ended ∈ ends, ended.Fits registry call roster operation) ∧
          calls = ends.flatMap TaskEnd.calls ∧ outcome = ends.mapM TaskEnd.outcome := by
  -- The groups are those of the owners, each with its share.
  unfold fanOut
  rw [Roster.entries_byProvider, List.map_map, List.map_map]
  exact together_watches schedule id fun owner _ =>
    forGroup_watches found watches operation roster owner

end Providers

end Fleet.Dispatch
