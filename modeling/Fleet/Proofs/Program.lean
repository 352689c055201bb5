import Fleet.Program
import Mathlib.Data.List.Forall2

/-! Laws of programs: what each way to build one does with the state and with failures, which attempt
is the last of a program that is tried again, and which failure of several comes first. -/

namespace Fleet

namespace Program

variable {σ α β : Type}

/-- What becomes of a program on a state, and the state that it leaves. -/
def on (program : Program σ α) (state : σ) : Except Fault α × σ :=
  program.run.run state

/-- A known answer leaves the state as it is. -/
@[simp]
theorem on_pure (answer : α) (state : σ) : (pure answer : Program σ α).on state = (.ok answer, state) :=
  rfl

/-- A failure leaves the state as it is. -/
@[simp]
theorem on_throw (fault : Fault) (state : σ) :
    (throw fault : Program σ α).on state = (.error fault, state) :=
  rfl

/-- Reading the state leaves it as it is. -/
@[simp]
theorem on_get (state : σ) : (get : Program σ σ).on state = (.ok state, state) :=
  rfl

/-- Setting the state forgets the one before. -/
@[simp]
theorem on_set (next state : σ) : (set next : Program σ PUnit).on state = (.ok ⟨⟩, next) :=
  rfl

/-- Changing the state answers nothing. -/
@[simp]
theorem on_modify (change : σ → σ) (state : σ) :
    (modify change : Program σ PUnit).on state = (.ok ⟨⟩, change state) :=
  rfl

/-- A known outcome leaves the state as it is. -/
@[simp]
theorem on_ofExcept (outcome : Except Fault α) (state : σ) :
    (ofExcept outcome).on state = (outcome, state) :=
  rfl

/-- An operation that cannot fail answers as a program, too. -/
@[simp]
theorem on_lift (action : StateM σ α) (state : σ) :
    (liftM action : Program σ α).on state = (.ok (action.run state).1, (action.run state).2) :=
  rfl

/-- A program goes on from the answer and the state of the one before, unless that one failed. -/
theorem on_bind (program : Program σ α) (next : α → Program σ β) (state : σ) :
    (program >>= next).on state =
      match program.on state with
      | (.ok answer, after) => (next answer).on after
      | (.error fault, after) => (.error fault, after) := by
  -- A failure skips the rest, so the cases are those of the first outcome.
  change (ExceptT.bindCont next (program.on state).1).run (program.on state).2 = _
  rcases program.on state with ⟨_ | _, _⟩ <;> rfl

/-- After an answer the rest of the program decides. -/
theorem on_bind_ok {program : Program σ α} {state after : σ} {answer : α}
    (answered : program.on state = (.ok answer, after)) (next : α → Program σ β) :
    (program >>= next).on state = (next answer).on after := by
  rw [on_bind, answered]

/-- After a failure nothing is done. -/
theorem on_bind_error {program : Program σ α} {state after : σ} {fault : Fault}
    (failed : program.on state = (.error fault, after)) (next : α → Program σ β) :
    (program >>= next).on state = (.error fault, after) := by
  rw [on_bind, failed]

/-- What follows an answer that is not looked at keeps its own answer to itself. -/
theorem on_discard (program : Program σ α) (state : σ) :
    (discard program).on state = ((program.on state).1.map fun _ => ⟨⟩, (program.on state).2) := by
  change (program >>= fun _ => pure ()).on state = _
  rw [on_bind]
  rcases program.on state with ⟨_ | _, _⟩ <;> rfl

/-- Replacing failures leaves answers and states alone. -/
@[simp]
theorem on_mapFault (change : Fault → Fault) (program : Program σ α) (state : σ) :
    (program.mapFault change).on state =
      ((program.on state).1.mapError change, (program.on state).2) := by
  simp only [on, mapFault, ExceptT.run_mk, StateT.run_bind]
  rcases StateT.run (ExceptT.run program) state with ⟨_ | _, _⟩ <;> rfl

/-- A program that answers did so in both of its parts. -/
theorem bind_ok {program : Program σ α} {next : α → Program σ β} {state after : σ} {answer : β}
    (answered : (program >>= next).on state = (.ok answer, after)) :
    ∃ first middle, program.on state = (.ok first, middle) ∧
      (next first).on middle = (.ok answer, after) := by
  -- If the first part had failed, so would both.
  rw [on_bind] at answered
  rcases ran : program.on state with ⟨_ | first, middle⟩
  · simp [ran] at answered
  · exact ⟨first, middle, rfl, by simpa [ran] using answered⟩

/-- An outcome that is one has an answer. -/
theorem exists_of_isOk {reached : Except Fault α × σ} (ended : reached.1.isOk = true) :
    ∃ answer after, reached = (.ok answer, after) := by
  rcases reached with ⟨_ | answer, after⟩
  · cases ended
  · exact ⟨answer, after, rfl⟩

/-- A program fails a number of times on the way from one state to another, with a pause after each
failure. -/
inductive Tries (pause : StateM σ Unit) (program : Program σ α) : Nat → σ → σ → Prop where
  | none (state : σ) : Tries pause program 0 state state
  | again {count : Nat} {state after last : σ} {fault : Fault}
      (failed : program.on state = (.error fault, after)) (persists : fault.isInterrupt = false)
      (further : Tries pause program count (pause.run after).2 last) :
      Tries pause program (count + 1) state last

/-- A further attempt follows a pause, and only a failure that the user did not bring about. -/
theorem on_retry_succ (pause : Nat → StateM σ Unit) (program : Program σ α) (attempt further : Nat)
    (state : σ) :
    (program.retry pause attempt (further + 1)).on state =
      match program.on state with
      | (.ok answer, after) => (.ok answer, after)
      | (.error fault, after) =>
        if fault.isInterrupt then (.error fault, after)
        else (program.retry pause (attempt + 1) further).on ((pause attempt).run after).2 := by
  simp only [on, retry, ExceptT.run_mk, StateT.run_bind]
  rcases StateT.run (ExceptT.run program) state with ⟨fault | _, after⟩
  · -- Only here it is asked whether the user broke off.
    dsimp only [bind]
    by_cases broken : fault.isInterrupt = true
    · rw [if_pos broken, if_pos broken]
      rfl
    · rw [if_neg broken, if_neg broken]
      rfl
  · -- An answer is given back as it is, whatever might have been done after it.
    rfl

/-- Only the pauses that can come make a difference: those after the attempts before the last. -/
theorem retry_congr {pause other : Nat → StateM σ Unit} (program : Program σ α) {attempt further : Nat}
    (same : ∀ number, attempt ≤ number → number < attempt + further → pause number = other number) :
    program.retry pause attempt further = program.retry other attempt further := by
  -- The pause at hand is the first of them, and the others come after further attempts.
  induction further generalizing attempt with
  | zero => rfl
  | succ further ih =>
    rw [retry, retry, same attempt (Nat.le_refl attempt) (by omega),
      ih fun number least most => same number (by omega) (by omega)]

/-- What becomes of a program that is tried again, with the same pause each time, is what becomes of its last
attempt. That one comes after failures alone, and is not followed by another because there is none left, or
because it answered or the user broke it off. -/
theorem on_retry (pause : StateM σ Unit) (program : Program σ α) (attempt further : Nat) (state : σ) :
    ∃ count ≤ further, ∃ last, Tries pause program count state last ∧
      (program.retry (fun _ => pause) attempt further).on state = program.on last ∧
      (count = further ∨ ∀ fault, (program.on last).1 = .error fault → fault.isInterrupt = true) := by
  -- The induction is on the attempts that are left after the one at hand.
  induction further generalizing attempt state with
  -- With no attempt left the one at hand is the last, whatever becomes of it.
  | zero => exact ⟨0, Nat.le_refl 0, state, .none state, rfl, .inl rfl⟩
  | succ further ih =>
    rw [on_retry_succ]
    rcases ran : program.on state with ⟨fault | answer, after⟩
    · by_cases broken : fault.isInterrupt = true
      · -- The user broke off, so this attempt is the last.
        refine ⟨0, by omega, state, .none state, by simp [broken, ran], .inr ?_⟩
        rintro _ same
        rw [ran] at same
        cases same
        exact broken
      · -- A pause follows, and then the attempts that are left.
        obtain ⟨count, few, last, tries, same, ended⟩ := ih (attempt + 1) (pause.run after).2
        have persists : fault.isInterrupt = false := by simpa using broken
        exact ⟨count + 1, by omega, last, .again ran persists tries, by simp [persists, same],
          ended.imp_left fun all => by omega⟩
    · -- An answer needs no further attempt.
      exact ⟨0, by omega, state, .none state, by simp [ran], .inr (by simp [ran])⟩

/-- What each failure and each pause keeps is kept on the way to the last attempt. -/
theorem Tries.keeps {pause : StateM σ Unit} {program : Program σ α} {kept : σ → σ → Prop}
    (refl : ∀ state, kept state state)
    (trans : ∀ {first second third}, kept first second → kept second third → kept first third)
    (paused : ∀ state, kept state (pause.run state).2)
    (failing : ∀ {state after fault}, program.on state = (.error fault, after) → kept state after)
    {count : Nat} {state last : σ} (tries : Tries pause program count state last) :
    kept state last := by
  -- One failure and its pause after the other keep what is kept.
  induction tries with
  | none state => exact refl state
  | again failed _ _ ih => exact trans (failing failed) (trans (paused _) ih)

end Program

section Operations

variable {σ α β : Type}

/-- Operations in a row each take over the state that the one before left. -/
theorem run_mapM_cons (operation : α → StateM σ β) (item : α) (rest : List α) (state : σ) :
    ((item :: rest).mapM operation).run state =
      let first := (operation item).run state
      let others := (rest.mapM operation).run first.2
      (first.1 :: others.1, others.2) := by
  rw [List.mapM_cons]
  rfl

end Operations

section Outcomes

variable {ε α β : Type}

/-- What answers in the end answered at every step. -/
theorem exists_of_bind_ok {first : Except ε α} {next : α → Except ε β} {answer : β}
    (answered : first >>= next = .ok answer) :
    ∃ middle, first = .ok middle ∧ next middle = .ok answer := by
  cases first with
  | error fault => cases answered
  | ok middle => exact ⟨middle, rfl, answered⟩

/-- Checks in a row pass exactly when each of them does. -/
theorem forM_eq_ok_iff {check : α → Except ε Unit} {items : List α} :
    items.forM check = .ok () ↔ ∀ item ∈ items, check item = .ok () := by
  -- A check that fails ends the row, and one that passes leaves the verdict to the rest.
  induction items with
  | nil => exact ⟨fun _ => nofun, fun _ => rfl⟩
  | cons item rest ih =>
    rw [List.forM, List.forall_mem_cons]
    cases first : check item with
    | error fault => simp [Bind.bind, Except.bind]
    | ok checked => simpa [Bind.bind, Except.bind] using ih

/-- Outcomes in a row answer exactly when each of them does. -/
theorem mapM_eq_ok_iff {outcome : α → Except ε β} {items : List α} {answers : List β} :
    items.mapM outcome = .ok answers ↔
      List.Forall₂ (fun item answer => outcome item = .ok answer) items answers := by
  -- One item that fails decides for all, whatever the rest would answer.
  induction items generalizing answers with
  | nil => cases answers <;> simp [Pure.pure, Except.pure]
  | cons item rest ih =>
    rw [List.mapM_cons]
    cases first : outcome item with
    -- The first item fails, and no answers fit that.
    | error fault => cases answers <;> simp [Bind.bind, Except.bind, first]
    | ok answer =>
      cases later : rest.mapM outcome with
      | error fault =>
        -- The first item answers, but the rest has no answers to follow.
        have none : ∀ others, ¬ List.Forall₂ (fun item answer => outcome item = .ok answer)
            rest others := fun others all => by simp [ih.mpr all] at later
        cases answers <;> simp [Bind.bind, Except.bind, first, none]
      | ok others =>
        -- Both answer, the first item first.
        cases answers with
        | nil => simp [Bind.bind, Except.bind, Pure.pure, Except.pure]
        | cons head tail =>
          simp [Bind.bind, Except.bind, Pure.pure, Except.pure, first, ← ih, later]

/-- An item of a row has an answer in the other row. -/
theorem exists_of_mem_forall₂ {related : α → β → Prop} {items : List α} {answers : List β}
    (all : List.Forall₂ related items answers) {item : α} (member : item ∈ items) :
    ∃ answer ∈ answers, related item answer := by
  -- The two rows go side by side, so the induction is on both.
  induction all with
  | nil => cases member
  | cons first _ ih =>
    rcases List.mem_cons.mp member with rfl | later
    · -- The item is the first one, and its answer is the first one.
      exact ⟨_, by simp, first⟩
    · -- The item stands further on, and so does its answer.
      obtain ⟨answer, present, holds⟩ := ih later
      exact ⟨answer, by simp [present], holds⟩

/-- Outcomes in a row fail with the first failure among them. -/
theorem mapM_eq_error_iff {outcome : α → Except ε β} {items : List α} {fault : ε} :
    items.mapM outcome = .error fault ↔
      ∃ before first later, items = before ++ first :: later ∧
        (∀ item ∈ before, ∃ answer, outcome item = .ok answer) ∧ outcome first = .error fault := by
  -- Either the first item fails, or the first failure is among the rest.
  induction items with
  | nil => simp [Pure.pure, Except.pure]
  | cons item rest ih =>
    rw [List.mapM_cons]
    constructor
    · -- The first item has failed, or it has an answer and the failure comes later.
      intro failed
      cases first : outcome item with
      | error early =>
        -- Nothing comes before the first item.
        rw [first] at failed
        cases failed
        exact ⟨[], item, rest, rfl, by simp, first⟩
      | ok answer =>
        -- The first item joins those that answer before the failure in the rest.
        have failed : rest.mapM outcome = .error fault := by
          cases later : rest.mapM outcome <;>
            simp_all [Bind.bind, Except.bind, Pure.pure, Except.pure]
        obtain ⟨before, culprit, later, rfl, fine, found⟩ := ih.mp failed
        exact ⟨item :: before, culprit, later, rfl, by simpa [first] using fine, found⟩
    · rintro ⟨_ | ⟨head, before⟩, culprit, later, same, fine, found⟩
      · -- Nothing answers before the failure, so it is that of the first item.
        cases same
        simp [found, Bind.bind, Except.bind]
      · -- The first item answers, and the failure is left to the rest.
        obtain ⟨rfl, rfl⟩ := List.cons.inj same
        obtain ⟨answer, answered⟩ := fine item (by simp)
        have failed := ih.mpr ⟨before, culprit, later, rfl,
          fun other member => fine other (by simp [member]), found⟩
        rw [answered, failed]
        rfl

/-- Outcomes in a row have answers exactly when there is no failure among them. -/
theorem exists_mapM_eq_ok_iff {outcome : α → Except ε β} {items : List α} :
    (∃ answers, items.mapM outcome = .ok answers) ↔
      ∀ item ∈ items, ∃ answer, outcome item = .ok answer := by
  -- Without answers there would be a first failure.
  constructor
  · rintro ⟨answers, all⟩
    replace all := mapM_eq_ok_iff.mp all
    induction all with
    | nil => simp
    -- The answers stand in the row of the items, so each item finds its own.
    | cons answered _ ih =>
      intro item member
      rcases List.mem_cons.mp member with rfl | member
      · exact ⟨_, answered⟩
      · exact ih item member
  · intro all
    -- If the row failed, the item that is to blame would have an answer all the same.
    cases reached : items.mapM outcome with
    | ok answers => exact ⟨answers, rfl⟩
    | error fault =>
      obtain ⟨before, first, later, rfl, _, failed⟩ := mapM_eq_error_iff.mp reached
      obtain ⟨answer, answered⟩ := all first (by simp)
      simp [failed] at answered

end Outcomes

end Fleet
