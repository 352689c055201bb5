import Fleet.Account
import Fleet.Proofs.Names
import Fleet.Proofs.Registry
import Fleet.Proofs.Watch
import Mathlib.Data.Finset.Card

/-! Accounts over whole runs: as long as nothing was agreed on, every call asks the providers in turn up to
the first that raises, and decides by the answers of that call alone. What was once agreed on is answered
from then on without asking anybody. -/

namespace Fleet.Account

open Program

variable {σ : Type}

/-- The accounts that were named. An empty answer names none. -/
def named (answers : List (String × String)) : Finset String :=
  (answers.map Prod.snd).toFinset.erase ""

/-- An account is named when it is one of the answers, and not empty. -/
theorem mem_named (answers : List (String × String)) (account : String) :
    account ∈ named answers ↔ account ≠ "" ∧ account ∈ answers.map Prod.snd := by
  rw [named, Finset.mem_erase, List.mem_toFinset]

/-- The candidates are the accounts that were named. -/
theorem toFinset_candidates (answers : List (String × String)) :
    (candidates answers).toFinset = named answers := by
  -- Leaving out repetitions and empty answers is all that is done to the answers.
  ext account
  rw [List.mem_toFinset, mem_named, candidates, Names.mem_eraseDups, List.mem_filter, and_comm]
  simp

/-- There are as many candidates as accounts that were named. -/
theorem length_candidates (answers : List (String × String)) :
    (candidates answers).length = (named answers).card := by
  have once : (candidates answers).Nodup := Names.nodup_eraseDups _
  rw [← toFinset_candidates, List.toFinset_card_of_nodup once]

/-- What it is when no provider names an account. -/
def nobody : Fault :=
  .fleet ⟨.noActiveAccount, "no Providers returned any active accounts", none,
    some "find_active_account"⟩

/-- The outcome is what the answers of all providers decide. -/
structure Decided (answers : List (String × String)) (outcome : Except Fault String) : Prop where
  /-- An account is agreed on exactly when it is the only one that was named. -/
  agreed : ∀ account, outcome = .ok account ↔ named answers = {account}
  /-- There is no account exactly when none was named. -/
  missing : outcome = .error nobody ↔ named answers = ∅
  /-- Exactly when two or more were named the answers of all providers are told, in their order. -/
  mismatched : outcome = .error (.accountMismatch answers) ↔ 2 ≤ (named answers).card

/-- The consensus is decided by the answers. -/
theorem consensus_decided (answers : List (String × String)) :
    Decided answers (consensus answers) := by
  -- No candidate, one, and several are the three cases, and they exclude each other.
  have members := toFinset_candidates answers
  have count := length_candidates answers
  unfold consensus
  rcases listed : candidates answers with _ | ⟨first, _ | ⟨second, others⟩⟩
  · -- Nobody was named.
    rw [listed] at members count
    have none : named answers = ∅ := members.symm
    refine ⟨fun account => ?_, iff_of_true rfl none, iff_of_false ?_ ?_⟩
    · -- So it is no account alone that was named, and too few were named for a mismatch.
      rw [none]
      simp
    · simp [Fault.accountMismatch]
    · simp [none]
  · -- One account was named, perhaps by several providers.
    rw [listed] at members count
    have one : named answers = {first} := members.symm
    refine ⟨fun account => ?_, iff_of_false nofun ?_, iff_of_false nofun ?_⟩
    · -- The one account is agreed on, and no other.
      rw [one, Finset.singleton_inj, Except.ok.injEq]
    · rw [one]
      exact Finset.singleton_ne_empty first
    · simp [one]
  · -- Two accounts at least were named.
    rw [listed] at count
    have several : 2 ≤ (named answers).card := by
      rw [← count]
      simp
    refine ⟨fun account => iff_of_false nofun fun one => ?_, iff_of_false ?_ fun none => ?_,
      iff_of_true rfl several⟩
    · -- With only one named there would be no second.
      rw [one, Finset.card_singleton] at several
      omega
    · simp [Fault.accountMismatch, nobody]
    · rw [none, Finset.card_empty] at several
      omega

/-- Asks a provider for its account, and tells whose answer it is. -/
def answer (provider : Provider σ) : Program σ (String × String) := do
  let account ← provider.account
  return (provider.name, account)

/-- The call by which a provider gave its answer. -/
def answering (answer : String × String) : Call := .account answer.1 (.ok answer.2)

/-- Providers are asked in turn, each once, up to the first that raises, whose fault is told as its own. -/
inductive Asked : List String → List Call → Except Fault (List (String × String)) → Prop where
  | all : Asked [] [] (.ok [])
  | raised (name : String) (later : List String) (cause : Fault) :
      Asked (name :: later) [.account name (.error cause)]
        (.error (cause.inProvider name (some operation)))
  | answered {later : List String} {calls : List Call}
      {outcome : Except Fault (List (String × String))} (name account : String)
      (further : Asked later calls outcome) :
      Asked (name :: later) (answering (name, account) :: calls)
        (outcome.map ((name, account) :: ·))

/-- A provider that is registered under its own name is asked once. -/
theorem answer_watches {registry : Registry (Provider σ)} {name : String} {provider : Provider σ}
    (found : registry.get name = .ok provider) (own : provider.name = name) :
    Watches (Dispatch.forProvider registry.watched (some operation) answer name)
      (Dispatch.forProvider registry (some operation) answer name) fun outcome calls =>
        ∃ inner : Except Fault String, calls = [.account name inner] ∧
          outcome = (inner.map (Prod.mk name)).mapError (Fault.inProvider name (some operation)) := by
  -- The call is that of the account, and the provider's name goes with the answer.
  unfold Dispatch.forProvider
  rw [Registry.get_watched, found]
  refine ((Watches.noted provider.account (Call.account name)).bind fun account =>
    Watches.pure (provider.name, account)).mapFault _ |>.weaken ?_
  rintro outcome calls ⟨_, ⟨fault, made, rfl⟩ | ⟨account, _, _, rfl, ⟨rfl, rfl⟩, made⟩, rfl⟩
  · exact ⟨.error fault, made, rfl⟩
  · exact ⟨.ok account, made, by rw [own]; rfl⟩

/-- Asking providers in turn asks each of them once, up to the first that raises. -/
theorem answers_watch {registry : Registry (Provider σ)} {names : List String}
    (own : ∀ name ∈ names, ∃ provider, registry.get name = .ok provider ∧ provider.name = name) :
    Watches (Dispatch.sequential registry.watched names (some operation) answer)
      (Dispatch.sequential registry names (some operation) answer)
      fun outcome calls => Asked names calls outcome := by
  -- The first provider is asked, and the others only if it answered.
  unfold Dispatch.sequential
  induction names with
  -- With nobody to ask there is no call and no answer.
  | nil =>
    refine (Watches.pure []).weaken ?_
    rintro outcome calls ⟨rfl, rfl⟩
    exact .all
  | cons name later ih =>
    -- Registration decides who the name stands for, and it goes by that name itself.
    obtain ⟨provider, found, same⟩ := own name (by simp)
    have others := ih fun other member => own other (by simp [member])
    rw [List.mapM_cons, List.mapM_cons]
    refine ((answer_watches found same).bind fun first =>
      others.bind fun answers => Watches.pure (first :: answers)).weaken ?_
    rintro outcome calls (⟨fault, ⟨inner, rfl, told⟩, rfl⟩ |
      ⟨first, before, after, ⟨inner, rfl, told⟩, further, rfl⟩)
    · -- The first provider raised, so nobody else was asked.
      -- The fault of the call is that of the account, as the name that goes with an answer cannot fail.
      cases inner with
      | ok account => cases told
      | error cause =>
        cases told
        exact .raised name later cause
    · -- The first provider answered, and the others follow.
      cases inner with
      | error cause => cases told
      | ok account =>
        cases told
        -- What becomes of the others becomes of all, with this answer at the head.
        obtain ⟨fault, asked, rfl⟩ | ⟨answers, made, _, asked, ⟨rfl, rfl⟩, rfl⟩ := further
        · exact .answered name account asked
        · rw [List.append_nil]
          exact .answered name account asked

/-- Everybody was asked and answered, or somebody raised and was the last to be asked. -/
theorem Asked.split {names : List String} {calls : List Call}
    {outcome : Except Fault (List (String × String))} (asked : Asked names calls outcome) :
    (∃ answers : List (String × String), answers.map Prod.fst = names ∧
      calls = answers.map answering ∧ outcome = .ok answers) ∨
    ∃ (answers : List (String × String)) (name : String) (cause : Fault) (later : List String),
      names = answers.map Prod.fst ++ name :: later ∧
      calls = answers.map answering ++ [.account name (.error cause)] ∧
      outcome = .error (cause.inProvider name (some operation)) := by
  -- A provider that answered comes before those that were asked after it.
  induction asked with
  | all => exact .inl ⟨[], rfl, rfl, rfl⟩
  | raised name later cause => exact .inr ⟨[], name, cause, later, rfl, rfl, rfl⟩
  | answered name account further ih =>
    obtain ⟨answers, rfl, rfl, rfl⟩ | ⟨answers, culprit, cause, later, rfl, rfl, rfl⟩ := ih
    · exact .inl ⟨(name, account) :: answers, rfl, rfl, rfl⟩
    · exact .inr ⟨(name, account) :: answers, culprit, cause, later, rfl, rfl, rfl⟩

/-- One call for the account: the calls of providers that it made, and its outcome. -/
structure Round where
  calls : List Call
  outcome : Except Fault String

namespace Round

/-- The call asked the providers of some names in turn, each once. Either all of them answered, and the
answers of this call decide, or one of them raised, was the last to be asked, and its fault was told as its
own. Breaking off is told as it is. -/
def Polls (names : List String) (round : Round) : Prop :=
  (∃ answers : List (String × String), answers.map Prod.fst = names ∧
    round.calls = answers.map answering ∧ Decided answers round.outcome) ∨
  ∃ (answers : List (String × String)) (name : String) (cause : Fault) (later : List String),
    names = answers.map Prod.fst ++ name :: later ∧
    round.calls = answers.map answering ++ [.account name (.error cause)] ∧
    round.outcome = .error (if cause.isInterrupt then cause else
      .because ⟨.providerFailed, s!"in provider: {name}", some name, some "find_active_account"⟩ cause)

/-- The call was answered with what had been agreed on, and asked nobody. -/
def kept (account : String) : Round := ⟨[], .ok account⟩

/-- What had been agreed on is the outcome. -/
@[simp]
theorem outcome_kept (account : String) : (kept account).outcome = .ok account := rfl

/-- However often nobody is asked, there are no calls. -/
@[simp]
theorem calls_replicate_kept (times : Nat) (account : String) :
    (List.replicate times (kept account)).flatMap calls = [] := by
  simp [List.flatMap_eq_nil_iff, kept]

end Round

/-- Resolving polls the registered providers, if each is registered under its own name. -/
theorem resolve_watches [Host σ] {registry : Registry (Provider σ)}
    (own : ∀ name ∈ registry.names,
      ∃ provider, registry.get name = .ok provider ∧ provider.name = name) :
    Watches (resolve registry.watched) (resolve registry)
      fun outcome calls => (Round.mk calls outcome).Polls registry.names := by
  -- Only asking makes calls, and the consensus sees all answers of this time or none.
  unfold resolve
  rw [registry.names_watched]
  refine ((answers_watch own).bind fun answers =>
    (Watches.tell .debug s!"Provider accounts: {Text.quotePairs answers}").bind fun _ =>
      Watches.ofExcept (consensus answers)).weaken ?_
  rintro outcome calls (⟨fault, asked, rfl⟩ | ⟨answers, before, after, asked,
    ⟨_, ⟨told, _⟩, _⟩ | ⟨_, _, _, ⟨_, rfl⟩, ⟨rfl, rfl⟩, rfl⟩, rfl⟩)
  · -- Somebody raised, so there is nothing to decide.
    -- Asking everybody does not raise, so of the two ways to ask it is the second.
    obtain ⟨_, _, _, told⟩ | ⟨answers, name, cause, later, names, made, told⟩ := asked.split
    · cases told
    · exact .inr ⟨answers, name, cause, later, names, made, congrArg _ (Except.error.inj told)⟩
  · -- Telling of the answers does not fail.
    cases told
  · -- Everybody answered.
    -- Asking somebody who raises does not answer, so of the two ways it is the first.
    obtain ⟨_, names, rfl, told⟩ | ⟨_, _, _, _, _, _, told⟩ := asked.split
    · cases told
      exact .inl ⟨answers, names, by simp, consensus_decided answers⟩
    · cases told

/-- A cache with an account answers it, and nothing is done. -/
theorem run_ask_some [Host σ] (account : String) (registry : Registry (Provider σ)) (state : σ) :
    ((⟨some account⟩ : Cache).ask registry).run state = ((.ok account, ⟨some account⟩), state) :=
  rfl

/-- The cache after a call that found it without an account. -/
def Cache.after : Except Fault String → Cache
  | .ok account => ⟨some account⟩
  | .error _ => {}

/-- Without an account in the cache the providers are asked, and only an account is remembered. -/
theorem run_ask_none [Host σ] (registry : Registry (Provider σ)) (state : σ) :
    (({} : Cache).ask registry).run state =
      let reached := (resolve registry).on state
      ((reached.1, .after reached.1), reached.2) := by
  -- Whether there is an account decides what is remembered.
  rcases reached : (resolve registry).on state with ⟨fault | account, after⟩
  all_goals
    rw [Cache.ask, StateT.run_bind]
    change (resolve registry).run.run state = _ at reached
    rw [reached]
    rfl

/-- Asking once more asks first and then as often as before. -/
theorem run_askTimes_succ [Host σ] (cache : Cache) (registry : Registry (Provider σ)) (further : Nat)
    (state : σ) :
    (cache.askTimes registry (further + 1)).run state =
      let first := (cache.ask registry).run state
      let later := (first.1.2.askTimes registry further).run first.2
      ((first.1.1 :: later.1.1, later.1.2), later.2) :=
  rfl

/-- Once an account is agreed on, every call answers it, and nothing is done. -/
theorem run_askTimes_some [Host σ] (account : String) (registry : Registry (Provider σ)) (times : Nat)
    (state : σ) :
    ((⟨some account⟩ : Cache).askTimes registry times).run state =
      ((List.replicate times (.ok account), ⟨some account⟩), state) := by
  induction times with
  | zero => rfl
  | succ further ih => simp only [run_askTimes_succ, run_ask_some, ih, List.replicate_succ]

/-- Calls for the account in a row, on an empty cache, and the cache that they leave. First come calls that
fail, and leave the cache empty. If one of them succeeds in the end, the cache has its account, and all
later calls answer it. -/
structure Agrees (names : List String) (failed settled : List Round) (cache : Cache) : Prop where
  /-- As long as no call has succeeded, each asks the providers anew. -/
  failures : ∀ round ∈ failed, round.Polls names ∧ ∃ fault, round.outcome = .error fault
  /-- The first to succeed has asked the providers, too, and those after it ask nobody. -/
  settles : (settled = [] ∧ cache = {}) ∨ ∃ (first : Round) (account : String) (later : Nat),
    settled = first :: List.replicate later (.kept account) ∧ first.Polls names ∧
    first.outcome = .ok account ∧ cache = ⟨some account⟩

/-- Calls for the account in a row, watched from some state on. -/
theorem askTimes_watches [Host σ] {registry : Registry (Provider σ)}
    (own : ∀ name ∈ registry.names,
      ∃ provider, registry.get name = .ok provider ∧ provider.name = name)
    (times : Nat) (state : σ) (calls : List Call) :
    ∃ (failed settled : List Round) (cache : Cache) (after : σ),
      (({} : Cache).askTimes registry times).run state =
        (((failed ++ settled).map Round.outcome, cache), after) ∧
      (({} : Cache).askTimes registry.watched times).run ⟨state, calls⟩ =
        (((failed ++ settled).map Round.outcome, cache),
          ⟨after, calls ++ (failed ++ settled).flatMap Round.calls⟩) ∧
      (failed ++ settled).length = times ∧ Agrees registry.names failed settled cache := by
  -- A call that fails leaves the cache as it was, so the induction goes on from the next state.
  induction times generalizing state calls with
  | zero => exact ⟨[], [], {}, state, rfl, by simp; rfl, rfl, by simp, .inl ⟨rfl, rfl⟩⟩
  | succ further ih =>
    -- What the call does to the state is the same whether it is watched or not.
    obtain ⟨made, polls, same⟩ := resolve_watches own ⟨state, calls⟩
    rcases reached : (resolve registry).on state with ⟨fault | account, middle⟩
    · -- The call failed and left the cache empty, so the calls after it are those that the induction is
      -- about.
      rw [reached] at polls same
      obtain ⟨failed, settled, cache, after, plain, watched, count, agrees⟩ := ih middle (calls ++ made)
      refine ⟨⟨made, .error fault⟩ :: failed, settled, cache, after, ?_, ?_, by simp [← count], ?_,
        agrees.settles⟩
      · simp only [run_askTimes_succ, run_ask_none, reached, Cache.after, plain, List.cons_append,
          List.map_cons]
      · simp only [run_askTimes_succ, run_ask_none, same, Cache.after, watched, List.cons_append,
          List.map_cons, List.flatMap_cons, List.append_assoc]
      · exact List.forall_mem_cons.mpr ⟨⟨polls, fault, rfl⟩, agrees.failures⟩
    · -- The call has an account, so the calls after it answer that account and ask nobody.
      rw [reached] at polls same
      refine ⟨[], ⟨made, .ok account⟩ :: List.replicate further (.kept account), ⟨some account⟩,
        middle, ?_, ?_, by simp, by simp, .inr ⟨_, account, further, rfl, polls, rfl, rfl⟩⟩
      · simp [run_askTimes_succ, run_ask_none, reached, Cache.after, run_askTimes_some]
      · simp [run_askTimes_succ, run_ask_none, same, Cache.after, run_askTimes_some]

/-- However often the account is asked for, and whatever the providers answer or raise each time: as long as
no call has succeeded, each asks the registered providers in turn up to the first that raises, and what all
of them answered this time decides. A call that fails leaves the cache empty. After the first call that
succeeds every call has its account, and asks nobody. -/
theorem askTimes_agrees [Host σ] (providers : List (Provider σ)) (times : Nat) (state : σ) :
    ∃ (failed settled : List Round) (cache : Cache) (after : σ),
      (({} : Cache).askTimes (.ofList providers) times).run state =
        (((failed ++ settled).map Round.outcome, cache), after) ∧
      (({} : Cache).askTimes (Registry.ofList providers).watched times).run ⟨state, []⟩ =
        (((failed ++ settled).map Round.outcome, cache),
          ⟨after, (failed ++ settled).flatMap Round.calls⟩) ∧
      (failed ++ settled).length = times ∧
      Agrees (Registry.ofList providers).names failed settled cache := by
  -- Whoever was registered stands under its own name.
  refine askTimes_watches (fun name member => ?_) times state []
  obtain ⟨provider, found⟩ := Registry.get_of_mem_names member
  exact ⟨provider, found, Registry.name_of_get_ofList found⟩

end Fleet.Account
