import Fleet.Proofs.Dispatch

/-! Frames: what a program keeps from the state before it to the state after it, whatever becomes of it, and
the states on the way at which the parts of a program answered. -/

namespace Fleet

/-- What is kept from a state to a later one. Every state keeps it for itself, and it is kept over several
states when it is kept from each to the next. -/
structure Frame (σ : Type) where
  Kept : σ → σ → Prop
  refl : ∀ state, Kept state state
  trans : ∀ {first second third}, Kept first second → Kept second third → Kept first third

namespace Frame

open Program Dispatch

variable {σ π ι α β : Type} {frame : Frame σ}

/-- The program keeps the frame, whether it answers or fails. -/
def Around (frame : Frame σ) (program : Program σ α) : Prop :=
  ∀ state, frame.Kept state (program.on state).2

/-- On the way from one state to another the program answered one of the answers. -/
def Answered (frame : Frame σ) (program : Program σ α) (state after : σ) (answers : List α) : Prop :=
  ∃ before next answer, frame.Kept state before ∧ program.on before = (.ok answer, next) ∧
    frame.Kept next after ∧ answer ∈ answers

/-- Whatever came of a program that keeps the frame, it is kept to the state that was left. -/
theorem Around.kept {program : Program σ α} (around : frame.Around program) {state after : σ}
    {outcome : Except Fault α} (ran : program.on state = (outcome, after)) : frame.Kept state after := by
  have kept := around state
  rwa [ran] at kept

/-- A known outcome changes nothing. -/
theorem around_ofExcept (outcome : Except Fault α) : frame.Around (Program.ofExcept outcome) :=
  frame.refl

/-- Programs one after the other keep the frame when each of them does. The second one has to only for the
answers that the first one gives. -/
theorem Around.bind {program : Program σ α} {next : α → Program σ β} (around : frame.Around program)
    (further : ∀ {state answer after}, program.on state = (.ok answer, after) →
      frame.Around (next answer)) :
    frame.Around (program >>= next) := by
  intro state
  rw [on_bind]
  rcases ran : program.on state with ⟨fault | answer, middle⟩
  · -- The first one failed, and the second one was not begun.
    exact around.kept ran
  · exact frame.trans (around.kept ran) (further ran middle)

/-- What is read of the state is nothing that changes it. -/
theorem Around.reading {next : σ → Program σ α} (around : ∀ state, frame.Around (next state)) :
    frame.Around (do next (← get)) :=
  Around.bind (fun state => frame.refl state) fun {_ answer _} _ => around answer

/-- Other words for failures change nothing. -/
theorem Around.mapFault {program : Program σ α} (around : frame.Around program)
    (change : Fault → Fault) : frame.Around (program.mapFault change) := by
  intro state
  rw [on_mapFault]
  exact around state

/-- An answer that is not looked at was given all the same. -/
theorem Around.discard {program : Program σ α} (around : frame.Around program) :
    frame.Around (discard program) := by
  intro state
  rw [on_discard]
  exact around state

/-- An operation that cannot fail keeps as a program what it keeps by itself. -/
theorem around_lift {action : StateM σ α} (kept : ∀ state, frame.Kept state (action.run state).2) :
    frame.Around (liftM action : Program σ α) :=
  kept

/-- A program that is tried again keeps the frame when each attempt and the pause between any two do. -/
theorem Around.retry {pause : StateM σ Unit} {program : Program σ α} (around : frame.Around program)
    (paused : ∀ state, frame.Kept state (pause.run state).2) (attempt further : Nat) :
    frame.Around (program.retry (fun _ => pause) attempt further) := by
  -- What becomes of it is what becomes of the last attempt, after others that failed.
  intro state
  obtain ⟨count, _, last, tries, same, _⟩ := on_retry pause program attempt further state
  rw [same]
  exact frame.trans (tries.keeps frame.refl frame.trans paused around.kept) (around last)

/-- Operations in a row keep the frame when each of them does. -/
theorem mapM_keeps {operation : ι → StateM σ α} {items : List ι}
    (each : ∀ item ∈ items, ∀ state, frame.Kept state ((operation item).run state).2) (state : σ) :
    frame.Kept state ((items.mapM operation).run state).2 := by
  -- The items go one after another, each from the state that the one before left.
  induction items generalizing state with
  | nil => exact frame.refl state
  | cons item rest ih =>
    obtain ⟨first, others⟩ := List.forall_mem_cons.mp each
    rw [run_mapM_cons]
    exact frame.trans (first state) (ih others _)

/-- A program whose failures are replaced answered as it does without that. -/
theorem ok_of_mapFault {program : Program σ α} {change : Fault → Fault} {state after : σ} {answer : α}
    (answered : (program.mapFault change).on state = (.ok answer, after)) :
    program.on state = (.ok answer, after) := by
  rw [on_mapFault] at answered
  -- A failure is still one when it is replaced, so what answers had an answer before.
  rcases ran : program.on state with ⟨fault | given, next⟩
  · rw [ran] at answered
    cases answered
  · rw [ran] at answered
    cases answered
    rfl

/-- Tasks that are settled one after another keep the frame, and each that answered did so on the way. -/
theorem settle_keeps {tasks : List (String × Program σ α)}
    (around : ∀ task ∈ tasks, frame.Around task.2) (state : σ) :
    frame.Kept state ((tasks.mapM settle).run state).2 ∧
      ∀ answers, ((tasks.mapM settle).run state).1.mapM Prod.snd = .ok answers →
        ∀ task ∈ tasks, frame.Answered task.2 state ((tasks.mapM settle).run state).2 answers := by
  -- The first task is settled at the state at hand, and the others where it left off.
  induction tasks generalizing state with
  | nil => exact ⟨frame.refl state, fun _ _ => by simp⟩
  | cons task rest ih =>
    -- The first task keeps the frame, and so do the others from the state that it left.
    have first := around task (by simp)
    obtain ⟨kept, each⟩ := ih (fun other member => around other (by simp [member])) (task.2.on state).2
    rw [run_mapM_cons, run_settle]
    refine ⟨frame.trans (first state) kept, fun answers all => ?_⟩
    obtain ⟨answer, others, own, later, rfl⟩ : ∃ answer others, (task.2.on state).1 = .ok answer ∧
        ((rest.mapM settle).run (task.2.on state).2).1.mapM Prod.snd = .ok others ∧
        answers = answer :: others := by
      -- Answers for all are one for the first and some for the others.
      cases answers with
      | nil => cases mapM_eq_ok_iff.mp all
      | cons answer others =>
        obtain ⟨own, later⟩ := List.forall₂_cons.mp (mapM_eq_ok_iff.mp all)
        exact ⟨answer, others, own, mapM_eq_ok_iff.mpr later, rfl⟩
    -- The first task answered at the state at hand, and each of the others further on.
    refine List.forall_mem_cons.mpr ⟨?_, fun other member => ?_⟩
    · exact ⟨state, _, answer, frame.refl state, Prod.ext own rfl, kept, by simp⟩
    · obtain ⟨before, next, given, earlier, ran, onward, listed⟩ := each others later other member
      exact ⟨before, next, given, frame.trans (first state) earlier, ran, onward, by simp [listed]⟩

section SideBySide

variable [Host σ] (told : ∀ severity text state, frame.Kept state (Host.tell severity text state))

include told

/-- Telling of failures changes nothing that is kept. -/
theorem tell_keeps (ended : List (String × Except Fault α)) (state : σ) :
    frame.Kept state ((ended.forM tellFailure).run state).2 := by
  induction ended generalizing state with
  | nil => exact frame.refl state
  | cons first rest ih =>
    -- Only for a failure something is told.
    obtain ⟨label, outcome⟩ := first
    cases outcome with
    | ok answer => exact ih state
    | error fault => exact frame.trans (told _ _ _) (ih _)

variable {items : List ι} {label : ι → String} {task : ι → Program σ α}

omit told [Host σ] in
/-- In the order of a schedule there are no other tasks. -/
theorem around_arranged (schedule : Schedule) (around : ∀ item ∈ items, frame.Around (task item)) :
    ∀ labelled ∈ schedule.arrange Prod.fst (items.map fun item => (label item, task item)),
      frame.Around labelled.2 := by
  intro labelled member
  obtain ⟨item, listed, rfl⟩ := List.mem_map.mp ((schedule.mem_arrange Prod.fst _ _).mp member)
  exact around item listed

/-- Tasks side by side keep the frame when each of them does. -/
theorem around_together (schedule : Schedule) (around : ∀ item ∈ items, frame.Around (task item)) :
    frame.Around (together schedule (items.map fun item => (label item, task item))) := by
  intro state
  rw [on_together]
  exact frame.trans (settle_keeps (around_arranged schedule around) state).1 (tell_keeps told _ _)

/-- When tasks side by side answered, each of them did so on the way. -/
theorem together_answered {schedule : Schedule} (around : ∀ item ∈ items, frame.Around (task item))
    {state after : σ} {answers : List α}
    (answered : (together schedule (items.map fun item => (label item, task item))).on state =
      (.ok answers, after)) {item : ι} (member : item ∈ items) :
    frame.Answered (task item) state after answers := by
  rw [on_together] at answered
  obtain ⟨all, rfl⟩ := Prod.mk.inj answered
  -- After the last task has ended, failures are told, which keeps what is kept.
  obtain ⟨before, next, answer, earlier, ran, onward, listed⟩ :=
    (settle_keeps (around_arranged schedule around) state).2 answers all _
      ((schedule.mem_arrange Prod.fst _ _).mpr (List.mem_map_of_mem member))
  exact ⟨before, next, answer, earlier, ran, frame.trans onward (tell_keeps told _ _), listed⟩

variable {registry : Registry π}

omit told [Host σ] in
/-- What is done with the provider of a name keeps the frame if what is done with any provider there does. -/
theorem around_forProvider {operation : Option String} {action : π → Program σ α} {name : String}
    (around : ∀ provider, registry.get name = .ok provider → frame.Around (action provider)) :
    frame.Around (forProvider registry operation action name) := by
  -- Without such a provider nothing is done.
  unfold forProvider
  refine (around_ofExcept _).bind fun {state provider after} found => ?_
  exact (around provider (Prod.mk.inj found).1).mapFault _

/-- Providers that are asked side by side keep the frame when each of them does. -/
theorem around_parallel (schedule : Schedule) {names : List String} {operation : Option String}
    {action : π → Program σ α}
    (around : ∀ name ∈ names, ∀ provider, registry.get name = .ok provider →
      frame.Around (action provider)) :
    frame.Around (parallel schedule registry names operation action) :=
  around_together told schedule fun name listed => around_forProvider (around name listed)

/-- When all of them answered, each provider did so on the way. -/
theorem parallel_answered {schedule : Schedule} {names : List String} {operation : Option String}
    {action : π → Program σ α}
    (around : ∀ name ∈ names, ∀ provider, registry.get name = .ok provider →
      frame.Around (action provider))
    {state after : σ} {answers : List α}
    (answered : (parallel schedule registry names operation action).on state = (.ok answers, after))
    {name : String} (listed : name ∈ names) {provider : π} (found : registry.get name = .ok provider) :
    frame.Answered (action provider) state after answers := by
  obtain ⟨before, next, answer, earlier, ran, onward, given⟩ := together_answered told
    (fun name listed => around_forProvider (around name listed)) answered listed
  -- The provider is the one of the name, and what it answered was not replaced.
  refine ⟨before, next, answer, earlier, ?_, onward, given⟩
  simp only [forProvider, found, on_bind, on_ofExcept] at ran
  exact ok_of_mapFault ran

omit told [Host σ] in
/-- What is done with the provider of a group keeps the frame if what is done with any provider there
does. -/
theorem around_forGroup {operation : Option String} {action : π → Roster → Program σ α} {owner : String}
    {group : Roster}
    (around : ∀ provider, registry.get owner = .ok provider → frame.Around (action provider group)) :
    frame.Around (forGroup registry operation action (owner, group)) := by
  unfold forGroup
  -- With the provider nothing but a failure is replaced, and without one nothing is done.
  cases found : registry.get owner with
  | ok provider => exact (around provider found).mapFault _
  | error fault => exact fun state => frame.refl state

variable {roster : Roster} {operation : Option String} {action : π → Roster → Program σ α}
  (around : ∀ owner ∈ roster.owners, ∀ provider, registry.get owner = .ok provider →
    frame.Around (action provider (roster.share owner)))

include around

/-- What is carried to owners side by side keeps the frame when each of them does with its share. -/
theorem around_fanOut (schedule : Schedule) :
    frame.Around (fanOut schedule registry roster operation action) := by
  unfold fanOut
  rw [Roster.entries_byProvider, List.map_map]
  exact around_together told schedule fun owner listed => around_forGroup (around owner listed)

/-- When all of them answered, each owner did so with its share on the way. -/
theorem fanOut_answered {schedule : Schedule} {state after : σ} {answers : List α}
    (answered : (fanOut schedule registry roster operation action).on state = (.ok answers, after))
    {owner : String} (listed : owner ∈ roster.owners) {provider : π}
    (found : registry.get owner = .ok provider) :
    frame.Answered (action provider (roster.share owner)) state after answers := by
  unfold fanOut at answered
  -- A group is an owner with its share, and the answer of the group is that of its task.
  rw [Roster.entries_byProvider, List.map_map] at answered
  obtain ⟨before, next, answer, earlier, ran, onward, given⟩ := together_answered told
    (fun owner listed => around_forGroup (around owner listed)) answered listed
  refine ⟨before, next, answer, earlier, ?_, onward, given⟩
  simp only [forGroup, found] at ran
  -- The failure of the action would have been told as that of the owner.
  exact ok_of_mapFault ran

end SideBySide

end Frame

end Fleet
