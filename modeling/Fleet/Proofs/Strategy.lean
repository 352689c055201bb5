import Fleet.Proofs.Compute.Create
import Fleet.Proofs.Dispatch
import Fleet.Proofs.Registry
import Fleet.Provider.LocalHost
import Fleet.Provider.Scripted

/-! Two ways to carry an action to providers: in turn, up to the first failure, or side by side, whatever
becomes of the others. Where each provider has an outcome of its own, both ways agree on whether all is well,
and on more than that the fewer names fail. -/

namespace Fleet

section Outcomes

variable {ε α β : Type}

/-- What is found for the first item comes before what is found for the rest. -/
theorem filterMap_cons_toList (find : α → Option β) (item : α) (rest : List α) :
    (item :: rest).filterMap find = (find item).toList ++ rest.filterMap find := by
  rw [List.filterMap_eq_flatMap_toList, List.filterMap_eq_flatMap_toList, List.flatMap_cons]

/-- Outcomes in a row fail exactly when there is a failure among them. -/
theorem exists_mapM_eq_error_iff {outcome : α → Except ε β} {items : List α} :
    (∃ fault, items.mapM outcome = .error fault) ↔
      ∃ item ∈ items, ∃ fault, outcome item = .error fault := by
  constructor
  · -- The first failure is one.
    rintro ⟨fault, failed⟩
    obtain ⟨before, first, later, rfl, _, same⟩ := mapM_eq_error_iff.mp failed
    exact ⟨first, by simp, fault, same⟩
  · rintro ⟨item, member, fault, failed⟩
    -- If all had answers, the item would have one, too.
    cases reached : items.mapM outcome with
    | error fault => exact ⟨fault, rfl⟩
    | ok answers =>
      obtain ⟨answer, answered⟩ := exists_mapM_eq_ok_iff.mp ⟨answers, reached⟩ item member
      rw [answered] at failed
      cases failed

/-- A row in which no item fails but one fails as that one does. -/
theorem mapM_eq_error_of_only {outcome : α → Except ε β} {items : List α} {culprit : α} {fault : ε}
    (failed : outcome culprit = .error fault) (member : culprit ∈ items)
    (only : ∀ item ∈ items, ∀ fault, outcome item = .error fault → item = culprit) :
    items.mapM outcome = .error fault := by
  -- The row fails, and the first item to fail can be no other.
  obtain ⟨told, ended⟩ := exists_mapM_eq_error_iff.mpr ⟨culprit, member, fault, failed⟩
  obtain ⟨before, item, later, rfl, _, same⟩ := mapM_eq_error_iff.mp ended
  obtain rfl : item = culprit := only item (by simp) told same
  rw [ended, Except.error.inj (same.symm.trans failed)]

/-- Rows of the same items fail alike when one of the items fails, and fails once. -/
theorem mapM_eq_of_perm_of_one {outcome : α → Except ε β} {items others : List α}
    (perm : others.Perm items) (one : items.countP (fun item => !(outcome item).isOk) = 1) :
    ∃ fault, items.mapM outcome = .error fault ∧ others.mapM outcome = .error fault := by
  rw [List.countP_eq_length_filter, List.length_eq_one_iff] at one
  obtain ⟨culprit, alone⟩ := one
  -- Whatever fails is the item that is left when those with answers are taken out.
  have only (item : α) (member : item ∈ items) (fault : ε) (failed : outcome item = .error fault) :
      item = culprit := by
    have left : item ∈ items.filter fun item => !(outcome item).isOk :=
      List.mem_filter.mpr ⟨member, by rw [failed]; rfl⟩
    rwa [alone, List.mem_singleton] at left
  have left : culprit ∈ items.filter fun item => !(outcome item).isOk := by
    rw [alone]
    exact List.mem_singleton_self culprit
  obtain ⟨member, fails⟩ := List.mem_filter.mp left
  -- The culprit is among those without an answer, so it has a fault to tell.
  cases failed : outcome culprit with
  | ok answer =>
    rw [failed] at fails
    cases fails
  | error fault =>
    -- In any order it is the only one to fail, and so the first.
    exact ⟨fault, mapM_eq_error_of_only failed member only,
      mapM_eq_error_of_only failed (perm.mem_iff.mpr member)
        fun item present => only item (perm.mem_iff.mp present)⟩

/-- The items of a row up to the first that fails, which is among them. -/
def upToFailure (outcome : α → Except ε β) : List α → List α
  | [] => []
  | item :: rest =>
    match outcome item with
    | .ok _ => item :: upToFailure outcome rest
    | .error _ => [item]

/-- Behind an item with an answer the others are reached. -/
theorem upToFailure_cons_of_ok {outcome : α → Except ε β} {item : α} {answer : β}
    (answered : outcome item = .ok answer) (rest : List α) :
    upToFailure outcome (item :: rest) = item :: upToFailure outcome rest := by
  rw [upToFailure, answered]

/-- Behind an item that fails no other is reached. -/
theorem upToFailure_cons_of_error {outcome : α → Except ε β} {item : α} {fault : ε}
    (failed : outcome item = .error fault) (rest : List α) :
    upToFailure outcome (item :: rest) = [item] := by
  rw [upToFailure, failed]

/-- Where none fails all items are reached. -/
theorem upToFailure_of_ok {outcome : α → Except ε β} {items : List α}
    (fine : ∀ item ∈ items, ∃ answer, outcome item = .ok answer) : upToFailure outcome items = items := by
  -- Each item has an answer, so the next one is reached, too.
  induction items with
  | nil => rfl
  | cons item rest ih =>
    obtain ⟨⟨answer, answered⟩, others⟩ := List.forall_mem_cons.mp fine
    rw [upToFailure_cons_of_ok answered, ih others]

/-- What stands behind the first item that fails is not reached. -/
theorem upToFailure_of_error {outcome : α → Except ε β} {before later : List α} {first : α} {fault : ε}
    (fine : ∀ item ∈ before, ∃ answer, outcome item = .ok answer) (failed : outcome first = .error fault) :
    upToFailure outcome (before ++ first :: later) = before ++ [first] := by
  -- The items before have answers, and then the first failure is the end.
  induction before with
  | nil => exact upToFailure_cons_of_error failed later
  | cons item rest ih =>
    obtain ⟨⟨answer, answered⟩, others⟩ := List.forall_mem_cons.mp fine
    rw [List.cons_append, upToFailure_cons_of_ok answered, ih others, List.cons_append]

end Outcomes

namespace Dispatch

open Program

variable {σ π α : Type}

/-- The action with the provider of each of its calls noted. -/
def calling (action : π → Program σ α) (provider : π) : Program (Watched π σ) α :=
  (action provider).noted fun _ => provider

/-- What becomes of a name when an action is carried to its provider: the outcome of the provider, whose
failure is told as its own, or that nobody goes by the name. -/
def verdict (registry : Registry π) (operation : Option String) (outcome : π → Except Fault α)
    (name : String) : Except Fault α :=
  match registry.members.get? name with
  | some provider => (outcome provider).mapError (Fault.inProvider name operation)
  | none => .error (.fleet ⟨.unknownProvider, s!"unknown vm provider: {name}", some name, none⟩)

/-- Every provider of a registry has an outcome of its own, whatever was done before. -/
def Fixed (registry : Registry π) (action : π → Program σ α) (outcome : π → Except Fault α) : Prop :=
  ∀ provider ∈ registry.toList, ∀ state, ((action provider).on state).1 = outcome provider

/-- At a state a program comes to an outcome, and the calls that it makes are noted, which changes
nothing. -/
def Makes {κ : Type} (watching : Program (Watched κ σ) α) (plain : Program σ α) (state : σ)
    (outcome : Except Fault α) (calls : List κ) : Prop :=
  ∃ after, plain.on state = (outcome, after) ∧ watching.on ⟨state, []⟩ = (outcome, ⟨after, calls⟩)

variable {registry : Registry π} {action : π → Program σ α} {outcome : π → Except Fault α}

/-- The action is called on the provider of a name, if there is one, and the verdict is what becomes of
it. -/
theorem forProvider_verdict (fixed : Fixed registry action outcome) (operation : Option String)
    (name : String) :
    Watches (forProvider registry operation (calling action) name)
      (forProvider registry operation action name) fun reached calls =>
        reached = verdict registry operation outcome name ∧
          calls = (registry.members.get? name).toList := by
  -- Whether the name is somebody's decides the run and the verdict alike.
  unfold forProvider verdict Registry.get
  cases known : registry.members.get? name with
  | none => exact Watches.ofExcept _
  | some provider =>
    have member : provider ∈ registry.toList := (OrderedMap.mem_values_iff _ _).mpr ⟨name, known⟩
    -- Whatever was done before, the provider comes to its own outcome.
    have noted : Watches (calling action provider) (action provider) fun reached calls =>
        reached = outcome provider ∧ calls = [provider] :=
      fun watched => ⟨[provider], ⟨fixed provider member watched.state, rfl⟩, rfl⟩
    refine (noted.mapFault _).weaken ?_
    rintro reached calls ⟨inner, ⟨rfl, rfl⟩, rfl⟩
    exact ⟨rfl, rfl⟩

/-- In turn, the action is called for the names up to the first that fails. -/
theorem sequential_verdict (fixed : Fixed registry action outcome) (operation : Option String)
    (names : List String) :
    Watches (sequential registry names operation (calling action))
      (sequential registry names operation action) fun reached calls =>
        reached = names.mapM (verdict registry operation outcome) ∧
          calls = (upToFailure (verdict registry operation outcome) names).filterMap
            registry.members.get? := by
  -- The first name is tried, and the others only if it has an answer.
  unfold sequential
  induction names with
  | nil => exact Watches.pure []
  | cons name later ih =>
    rw [List.mapM_cons, List.mapM_cons, List.mapM_cons]
    refine ((forProvider_verdict fixed operation name).bind fun first =>
      ih.bind fun answers => Watches.pure (first :: answers)).weaken ?_
    rintro reached calls (⟨fault, ⟨failed, rfl⟩, rfl⟩ | ⟨first, before, after, ⟨answered, rfl⟩, further, rfl⟩)
    · -- The first name failed, so nobody else was called.
      rw [← failed, upToFailure_cons_of_error failed.symm]
      exact ⟨rfl, by rw [filterMap_cons_toList, List.filterMap_nil, List.append_nil]⟩
    · -- The first name has an answer, and whatever comes of the others comes of all.
      rw [← answered, upToFailure_cons_of_ok answered.symm, filterMap_cons_toList]
      -- One of the others failed, or all of them were answered.
      obtain ⟨fault, ⟨failed, rfl⟩, rfl⟩ | ⟨answers, made, _, ⟨reached, rfl⟩, ⟨rfl, rfl⟩, rfl⟩ := further
      · rw [← failed]
        exact ⟨rfl, rfl⟩
      · rw [← reached, List.append_nil]
        exact ⟨rfl, rfl⟩

/-- Side by side, the action is called for every name in the order of the schedule. -/
theorem parallel_verdict [Host σ] (fixed : Fixed registry action outcome) (operation : Option String)
    (schedule : Schedule) (names : List String) :
    Watches (parallel schedule registry names operation (calling action))
      (parallel schedule registry names operation action) fun reached calls =>
        reached = (schedule.arrange id names).mapM (verdict registry operation outcome) ∧
          calls = (schedule.arrange id names).filterMap registry.members.get? := by
  unfold parallel
  -- All tasks come to their ends, whatever becomes of any of them.
  refine (together_watches schedule id fun name _ =>
    forProvider_verdict fixed operation name).weaken ?_
  rintro reached calls ⟨ends, tasks, each, rfl, rfl⟩
  rw [← tasks]
  -- Every end is that of its name, so ends and names go along with each other.
  clear tasks
  induction ends with
  | nil => exact ⟨rfl, rfl⟩
  | cons ended rest ih =>
    -- The end at hand makes the call of its name, or none if nobody goes by it.
    obtain ⟨⟨same, made⟩, later⟩ := List.forall_mem_cons.mp each
    obtain ⟨outcomes, calls⟩ := ih later
    rw [List.map_cons, List.mapM_cons, List.mapM_cons, same, outcomes, List.flatMap_cons, made, calls,
      filterMap_cons_toList]
    exact ⟨rfl, rfl⟩

/-- How both ways of carrying an action to providers come to their ends. In turn the names are `names`, and
side by side they end in the order `ends`. Each name has a verdict, and some have a provider. Each way has an
outcome, `inTurn` or `abreast`, and the providers that it called in order, `asked` or `called`. -/
structure Agreement (find : String → Option π) (verdict : String → Except Fault α)
    (names ends : List String) (inTurn abreast : Except Fault (List α)) (asked called : List π) : Prop where
  /-- In turn, all is well where every name is, and every name was called. -/
  completed : (∀ name ∈ names, ∃ answer, verdict name = .ok answer) →
    (∃ answers, inTurn = .ok answers) ∧ names.map find = asked.map some
  /-- In turn, the first name that fails decides, and is the last that was called, if it is anybody's. -/
  stopped : ∀ before first later fault, names = before ++ first :: later →
    (∀ name ∈ before, ∃ answer, verdict name = .ok answer) → verdict first = .error fault →
    inTurn = .error fault ∧
      ∃ earlier, before.map find = earlier.map some ∧ asked = earlier ++ (find first).toList
  /-- Side by side, every name that is anybody's was called, as often as it stands among the names. -/
  each : called = ends.filterMap find ∧ called.Perm (names.filterMap find)
  /-- Side by side, the first failure to come decides. -/
  earliest : ∀ before first later fault, ends = before ++ first :: later →
    (∀ name ∈ before, ∃ answer, verdict name = .ok answer) → verdict first = .error fault →
    abreast = .error fault
  /-- Both ways fail, or neither. -/
  together : (∃ fault, inTurn = .error fault) ↔ ∃ fault, abreast = .error fault
  /-- Where all is well both ways called the same providers equally often. -/
  sameCalls : (∃ answers, inTurn = .ok answers) → asked.Perm called
  /-- Where one name fails, and stands there once, both ways fail alike. -/
  sameFault : names.countP (fun name => !(verdict name).isOk) = 1 →
    ∃ fault, inTurn = .error fault ∧ abreast = .error fault
  /-- Where the names end in their own order both ways come to the same outcome. -/
  sameOrder : ends = names → abreast = inTurn

/-- A name that has an answer is somebody's. -/
theorem isSome_of_verdict {operation : Option String} {name : String} {answer : α}
    (answered : verdict registry operation outcome name = .ok answer) :
    ∃ provider, registry.members.get? name = some provider := by
  -- Nobody's name has no answer.
  unfold verdict at answered
  cases known : registry.members.get? name with
  | some provider => exact ⟨provider, rfl⟩
  | none =>
    rw [known] at answered
    cases answered

/-- Names that have answers are somebody's, each of them. -/
theorem map_find_of_verdicts {operation : Option String} {names : List String}
    (fine : ∀ name ∈ names, ∃ answer, verdict registry operation outcome name = .ok answer) :
    names.map registry.members.get? = (names.filterMap registry.members.get?).map some := by
  -- Nothing is left out of what is found.
  rw [List.map_filterMap_some_eq_filter_map_isSome, List.filter_eq_self.mpr]
  intro found member
  obtain ⟨name, present, rfl⟩ := List.mem_map.mp member
  obtain ⟨answer, answered⟩ := fine name present
  obtain ⟨provider, known⟩ := isSome_of_verdict answered
  rw [known]
  rfl

/-- Verdicts in a row up to the first failure, and in any order to the last, agree. -/
theorem Agreement.of_perm (operation : Option String) {names ends : List String} (perm : ends.Perm names) :
    Agreement registry.members.get? (verdict registry operation outcome) names ends
      (names.mapM (verdict registry operation outcome)) (ends.mapM (verdict registry operation outcome))
      ((upToFailure (verdict registry operation outcome) names).filterMap registry.members.get?)
      (ends.filterMap registry.members.get?) where
  completed fine :=
    ⟨exists_mapM_eq_ok_iff.mpr fine, by rw [upToFailure_of_ok fine, map_find_of_verdicts fine]⟩
  stopped before first later fault same fine failed := by
    -- All names before have answers, so all of them were called, and then this one.
    subst same
    refine ⟨mapM_eq_error_iff.mpr ⟨before, first, later, rfl, fine, failed⟩, _, map_find_of_verdicts fine, ?_⟩
    rw [upToFailure_of_error fine failed, List.filterMap_append, filterMap_cons_toList, List.filterMap_nil,
      List.append_nil]
  each := ⟨rfl, perm.filterMap _⟩
  earliest before first later fault same fine failed :=
    mapM_eq_error_iff.mpr ⟨before, first, later, same, fine, failed⟩
  together := by
    -- A failure among the names is one among the ends, wherever it stands.
    simp only [exists_mapM_eq_error_iff, perm.mem_iff]
  sameCalls fine := by
    -- Nobody failed, so nobody was left out in turn, and side by side nobody ever is.
    rw [upToFailure_of_ok (exists_mapM_eq_ok_iff.mp fine)]
    exact (perm.filterMap _).symm
  sameFault one := mapM_eq_of_perm_of_one perm one
  sameOrder same := by rw [same]

/-- Where every provider has an outcome of its own, carrying an action to providers in turn and carrying it to
them side by side agree, for all names and every order in which they end side by side. -/
theorem strategies_agree [Host σ] (fixed : Fixed registry action outcome) (operation : Option String)
    (names : List String) (schedule : Schedule) (state : σ) :
    ∃ inTurn abreast asked called,
      Makes (sequential registry names operation (calling action))
        (sequential registry names operation action) state inTurn asked ∧
      Makes (parallel schedule registry names operation (calling action))
        (parallel schedule registry names operation action) state abreast called ∧
      Agreement registry.members.get? (verdict registry operation outcome) names
        (schedule.arrange id names) inTurn abreast asked called := by
  -- Each way does what its verdicts say, and the verdicts agree.
  obtain ⟨inTurn, after, asked, plain, watched, rfl, rfl⟩ :=
    (sequential_verdict fixed operation names).fromStart state
  obtain ⟨abreast, later, called, plainToo, watchedToo, rfl, rfl⟩ :=
    (parallel_verdict fixed operation schedule names).fromStart state
  exact ⟨_, _, _, _, ⟨after, plain, watched⟩, ⟨later, plainToo, watchedToo⟩,
    Agreement.of_perm operation (schedule.arrange_perm id names)⟩

/-- The machine at hand and a provider in memory. -/
def localAndLab : Registry (Provider Site) := Registry.ofList [LocalHost.provider, Scripted.provider "lab"]

/-- A provider in memory has its name to tell, and no other provider has one. -/
def nameInMemory (provider : Provider Site) : Except Fault String :=
  if provider.kind = .scripted then .ok provider.name else .error (.problem .noLifetimeCount)

/-- Telling the name of a provider in memory. -/
def tellName (provider : Provider Site) : Program Site String := Program.ofExcept (nameInMemory provider)

/-- Where the machine at hand fails, and nobody goes by one of the names, both ways fail. In turn nobody is
called behind the first failure, and side by side the failure that comes first is another. -/
theorem strategies_agree_localAndLab :
    Fixed localAndLab tellName nameInMemory ∧
      ∃ inTurn abreast asked called,
        Makes (sequential localAndLab ["lab", "nobody", "local", "lab"] none (calling tellName))
          (sequential localAndLab ["lab", "nobody", "local", "lab"] none tellName)
          Compute.quietSite inTurn asked ∧
        Makes (parallel (.byLabel ["local"]) localAndLab ["lab", "nobody", "local", "lab"] none
            (calling tellName))
          (parallel (.byLabel ["local"]) localAndLab ["lab", "nobody", "local", "lab"] none tellName)
          Compute.quietSite abreast called ∧
        inTurn = .error (.fleet ⟨.unknownProvider, "unknown vm provider: nobody", some "nobody", none⟩) ∧
        abreast = .error ((Fault.problem .noLifetimeCount).inProvider "local" none) ∧
        asked.map Provider.name = ["lab"] ∧ called.map Provider.name = ["local", "lab", "lab"] := by
  have fixed : Fixed localAndLab tellName nameInMemory := fun _ _ _ => rfl
  obtain ⟨inTurn, abreast, asked, called, first, second, agreement⟩ :=
    strategies_agree fixed none ["lab", "nobody", "local", "lab"] (.byLabel ["local"]) Compute.quietSite
  -- In turn `nobody` is the first to fail, and side by side the machine at hand is.
  obtain ⟨failed, earlier, told, same⟩ := agreement.stopped ["lab"] "nobody" ["local", "lab"] _ rfl
    (by simpa using ⟨"lab", rfl⟩) rfl
  -- Side by side the machine at hand ends first, and it fails as well.
  have failedToo := agreement.earliest [] "local" ["lab", "nobody", "lab"] _ (by decide +kernel) nofun rfl
  refine ⟨fixed, inTurn, abreast, asked, called, first, second, failed, failedToo, ?_, ?_⟩
  · -- Only the provider of `lab` was called before.
    have names : ["lab"].map some = (earlier.map Provider.name).map some := by
      rw [List.map_map]
      exact (congrArg (List.map (Option.map Provider.name)) told).trans List.map_map
    rw [same, List.map_append, ← List.map_injective_iff.mpr (fun _ _ => Option.some.inj) names]
    rfl
  · -- Side by side all were called, in the order in which they ended.
    rw [agreement.each.1]
    decide +kernel

end Dispatch

end Fleet
