import Fleet.Proofs.Account
import Fleet.Proofs.Compute.Create
import Fleet.Proofs.Console
import Fleet.Proofs.Registry
import Fleet.Proofs.Routing
import Fleet.Startup

/-! Containment: what a provider raises reaches the user as that provider's fault, with nothing lost of it, and
whatever else stops a command is a fleet error of its own. -/

namespace Fleet

open Program

variable {σ α β : Type} {timed : Prop}

namespace Fault

/-- The messages of a fault, from its own down to that of its innermost cause. -/
def messages : Fault → List String
  | problem p => [p.message]
  | fleet error => [error.message]
  | because error cause => error.message :: cause.messages

/-- Every fault has a message. -/
theorem exists_messages_eq_cons (fault : Fault) :
    ∃ first others, fault.messages = first :: others := by
  -- The message of a fault is that of its outermost part, which each kind of fault has.
  cases fault with
  | problem p => exact ⟨_, _, rfl⟩
  | fleet error => exact ⟨_, _, rfl⟩
  | because error cause => exact ⟨_, _, rfl⟩

/-- The words of a fault are all its messages, joined by colons. -/
theorem message_eq_intercalate (fault : Fault) : fault.message = ": ".intercalate fault.messages := by
  -- A cause puts its own messages after that of the error that wraps it, so the induction is on the causes.
  induction fault with
  | problem p => rfl
  | fleet error => rfl
  | because error cause ih =>
    obtain ⟨first, others, same⟩ := cause.exists_messages_eq_cons
    rw [message, ih, messages, same, String.intercalate_cons_cons, String.append_assoc]

/-- The fleet error that a fault is, with or without a cause. -/
def error? : Fault → Option FleetError
  | problem _ => none
  | fleet error | because error _ => some error

end Fault

/-- What an outcome raised, if it raised anything. -/
def raised? : Except Fault α → Option Fault
  | .ok _ => none
  | .error fault => some fault

namespace Call

/-- Whose call it was. -/
def provider : Call → String
  | cleanSsh provider _ | configSsh provider _ | create provider _ _ _ | delete provider _ _
  | extend provider _ _ _ | account provider _ | list provider _ => provider

/-- The operation that was called. -/
def operation : Call → String
  | cleanSsh _ _ => "clean_ssh"
  | configSsh _ _ => "config_ssh"
  | create _ _ _ _ => "create"
  | delete _ _ _ => "delete"
  | extend _ _ _ _ => "extend"
  | account _ _ => "find_active_account"
  | list _ _ => "list"

/-- What the provider raised, if it raised anything. -/
def fault? : Call → Option Fault
  | cleanSsh _ outcome | configSsh _ outcome | create _ _ _ outcome | delete _ _ outcome
  | extend _ _ _ outcome => raised? outcome
  | account _ outcome => raised? outcome
  | list _ outcome => raised? outcome

end Call

/-- Among some calls is one of the provider that raised the cause in the operation. -/
def Raised (calls : List Call) (provider operation : String) (cause : Fault) : Prop :=
  ∃ call ∈ calls, call.provider = provider ∧ call.operation = operation ∧ call.fault? = some cause

/-- A fault that reaches the user: one that a provider raised, told as that provider's, a fleet error that
tells of no provider's failure, or, where a lifetime is missing, the problem that this is. -/
inductive Surfaces (timed : Prop) (calls : List Call) : Fault → Prop where
  | raised {provider operation : String} {cause : Fault}
      (raised : Raised calls provider operation cause) :
      Surfaces timed calls (cause.inProvider provider (some operation))
  | own (error : FleetError) (other : error.kind ≠ .providerFailed) :
      Surfaces timed calls (.fleet error)
  | lapse (problem : Problem) (untimed : ¬ timed) : Surfaces timed calls (.problem problem)

/-- What fails does so with a fault that may reach the user. -/
def Contained (timed : Prop) (outcome : Except Fault α) (calls : List Call) : Prop :=
  ∀ fault, outcome = .error fault → Surfaces timed calls fault

/-- What fails does so with what the provider raised in the operation. -/
def Relays (provider operation : String) (outcome : Except Fault α) (calls : List Call) : Prop :=
  ∀ cause, outcome = .error cause → Raised calls provider operation cause

/-- What surfaces from some calls surfaces from more. -/
theorem Surfaces.mono {calls more : List Call} {fault : Fault}
    (surfaces : Surfaces timed calls fault) (among : calls ⊆ more) : Surfaces timed more fault := by
  -- Only a failure of a provider speaks of the calls, and its call is among the further ones, too.
  cases surfaces with
  | raised raised =>
    obtain ⟨call, member, told⟩ := raised
    exact .raised ⟨call, among member, told⟩
  | own error other => exact .own error other
  | lapse problem untimed => exact .lapse problem untimed

/-- A fault that is told as a provider's is told as that of a provider that raised its cause, and in the
words of every error from there to the innermost cause. -/
def Tells (calls : List Call) (fault : Fault) : Prop :=
  ∀ error, fault.error? = some error → error.kind = .providerFailed →
    ∃ provider operation cause, Raised calls provider operation cause ∧
      error.provider = some provider ∧ error.operation = some operation ∧
      fault = .because error cause ∧ fault.message = s!"in provider: {provider}: {cause.message}" ∧
      cause.message = ": ".intercalate cause.messages

/-- What surfaces tells what was raised. -/
theorem Surfaces.tells {calls : List Call} {fault : Fault} (surfaces : Surfaces timed calls fault) :
    Tells calls fault := by
  -- Only what was raised is told as the failure of a provider, and wrapping it changes no word of it.
  intro error same failed
  cases surfaces with
  | @raised provider operation cause raised =>
    rw [Fault.inProvider] at same ⊢
    split at same
    · -- Breaking off a command is told as nobody's.
      next broken =>
      rw [of_decide_eq_true broken] at same
      cases same
    · next persists =>
      cases same
      rw [if_neg persists]
      exact ⟨provider, operation, cause, raised, rfl, rfl, rfl, rfl, cause.message_eq_intercalate⟩
  | own own other =>
    cases same
    exact absurd failed other
  | lapse problem untimed => cases same

/-- What surfaces is a fleet error, with which the program ends in a status of its own, unless a lifetime is
missing or the user broke off. -/
theorem Surfaces.isFleet {calls : List Call} {fault : Fault} (surfaces : Surfaces timed calls fault)
    (given : timed) (persists : ∀ call ∈ calls, call.fault? ≠ some (.problem .interrupted))
    (word : String) :
    fault.isFleet = true ∧ (Startup.Ending.failed word fault).status = some 1 := by
  -- What a provider raised is wrapped in a fleet error unless it was the user's breaking off.
  have fleet : fault.isFleet = true ∧ fault.isInterrupt = false := by
    cases surfaces with
    | @raised provider operation cause raised =>
      obtain ⟨call, member, _, _, told⟩ := raised
      -- A cause that no call raised by breaking off is not told as breaking off.
      have other : cause.isInterrupt = false := by
        refine decide_eq_false fun broken => persists call member ?_
        rw [told, broken]
      rw [Fault.inProvider, if_neg (by simp [other])]
      exact ⟨rfl, rfl⟩
    | own error other => exact ⟨rfl, rfl⟩
    | lapse problem untimed => exact absurd given untimed
  exact ⟨fleet.1, by rw [Startup.Ending.status]; simp [fleet]⟩

/-- An answer contains everything. -/
theorem contained_ok (answer : α) (calls : List Call) : Contained timed (.ok answer) calls :=
  fun _ => nofun

namespace Program.Watches

variable {watching : Program (Watched Call σ) α} {plain : Program σ α}

/-- Two programs in a row contain what each of them contains. -/
theorem contained_bind {next : α → Program (Watched Call σ) β} {plainNext : α → Program σ β}
    (first : Watches watching plain (Contained timed))
    (second : ∀ answer, Watches (next answer) (plainNext answer) (Contained timed)) :
    Watches (watching >>= next) (plain >>= plainNext) (Contained timed) := by
  refine (first.bind second).weaken ?_
  -- The fault is that of the first program, or that of the second, whose calls are the last ones.
  rintro outcome calls (⟨fault, contained, rfl⟩ | ⟨answer, before, after, _, contained, rfl⟩)
  · intro _ same
    cases same
    exact contained fault rfl
  · exact fun fault failed => (contained fault failed).mono (List.subset_append_right _ _)

/-- A known answer needs no containing. -/
theorem contained_pure (answer : α) :
    Watches (Pure.pure answer : Program (Watched Call σ) α) (Pure.pure answer) (Contained timed) :=
  (Watches.pure answer).weaken fun _ _ ⟨same, _⟩ => same ▸ contained_ok answer _

/-- A known outcome is contained when its failure surfaces without any call. -/
theorem contained_ofExcept {outcome : Except Fault α}
    (surfaces : ∀ fault, outcome = .error fault → Surfaces timed [] fault) :
    Watches (Program.ofExcept outcome : Program (Watched Call σ) α) (Program.ofExcept outcome)
      (Contained timed) := by
  refine (Watches.ofExcept outcome).weaken ?_
  rintro _ _ ⟨rfl, rfl⟩
  exact surfaces

/-- What is contained stays so when its answer is not looked at. -/
theorem contained_discard (contained : Watches watching plain (Contained timed)) :
    Watches (Functor.discard watching) (Functor.discard plain) (Contained timed) := by
  refine contained.discard.weaken ?_
  rintro _ calls ⟨inner, holds, rfl⟩ fault failed
  -- Only a failure can surface, and dropping the answer leaves failures as they are.
  cases inner with
  | ok answer => cases failed
  | error cause =>
    cases failed
    exact holds _ rfl

/-- What is contained under every schedule is contained under that of the state. -/
theorem contained_scheduled [Host σ] {next : Schedule → Program (Watched Call σ) α}
    {plainNext : Schedule → Program σ α}
    (contained : ∀ schedule, Watches (next schedule) (plainNext schedule) (Contained timed)) :
    Watches (do next (Host.schedule (← get))) (do plainNext (Host.schedule (← get))) (Contained timed) :=
  (Watches.scheduled contained).weaken fun _ _ ⟨_, holds⟩ => holds

/-- A call that is noted relays what the provider raised. -/
theorem noted_relays {program : Program σ α} {call : Except Fault α → Call}
    {provider operation : String}
    (told : ∀ cause, (call (.error cause)).provider = provider ∧
      (call (.error cause)).operation = operation ∧ (call (.error cause)).fault? = some cause) :
    Watches (program.noted call) program (Relays provider operation) := by
  -- There is one call, and what it notes is the outcome of the program.
  refine (Watches.noted program call).weaken ?_
  rintro _ calls rfl cause failed
  rw [failed]
  exact ⟨_, List.mem_singleton.mpr rfl, told cause⟩

/-- What a provider raised is contained as its fault. -/
theorem contained_mapFault {provider operation : String}
    (relays : Watches watching plain (Relays provider operation)) :
    Watches (watching.mapFault (Fault.inProvider provider (some operation)))
      (plain.mapFault (Fault.inProvider provider (some operation))) (Contained timed) := by
  refine (relays.mapFault _).weaken ?_
  rintro _ calls ⟨inner, holds, rfl⟩ fault failed
  -- Only a failure is told as the provider's, and the call that was noted has its cause.
  cases inner with
  | ok answer => cases failed
  | error cause =>
    cases failed
    exact .raised (holds cause rfl)

end Program.Watches

namespace Dispatch

/-- Tasks side by side contain what each of them contains. -/
theorem contained_together [Host σ] {ι : Type} (schedule : Schedule) (label : ι → String)
    {watching : ι → Program (Watched Call σ) α} {plain : ι → Program σ α} {tasks : List ι}
    (contained : ∀ task ∈ tasks, Watches (watching task) (plain task) (Contained timed)) :
    Watches (together schedule (tasks.map fun task => (label task, watching task)))
      (together schedule (tasks.map fun task => (label task, plain task))) (Contained timed) := by
  refine (together_watches schedule label contained).weaken ?_
  rintro _ calls ⟨ends, _, each, rfl, rfl⟩ fault failed
  -- The failure of all is that of the first to fail, which is contained in its own calls.
  obtain ⟨before, first, later, rfl, _, raised⟩ := mapM_eq_error_iff.mp failed
  refine (each first (by simp) fault raised).mono fun call member => ?_
  exact List.mem_flatMap.mpr ⟨first, by simp, member⟩

variable {registry : Registry (Provider σ)} {operation : String}

/-- Who is looked up in vain is an unknown provider. -/
theorem surfaces_of_get {name : String} {fault : Fault} (missing : registry.get name = .error fault) :
    Surfaces timed [] fault := by
  rw [Registry.get] at missing
  -- Whoever is found is no failure, and for anybody else the fault is one of the fleet.
  split at missing
  · cases missing
  · cases missing
    exact .own _ (by simp)

/-- What is done with the provider of a name is contained if what the provider raises is relayed. -/
theorem contained_forProvider {watching : Provider (Watched Call σ) → Program (Watched Call σ) α}
    {plain : Provider σ → Program σ α} {name : String}
    (relays : ∀ provider, Watches (watching (provider.watched name)) (plain provider)
      (Relays name operation)) :
    Watches (forProvider registry.watched (some operation) watching name)
      (forProvider registry (some operation) plain name) (Contained timed) := by
  unfold forProvider
  rw [Registry.get_watched]
  -- The provider is called, or nobody goes by the name and no call is made.
  cases found : registry.get name with
  | ok provider => exact Watches.contained_mapFault (relays provider)
  | error fault =>
    have unknown : Watches (Program.ofExcept (.error fault) : Program (Watched Call σ) α)
        (Program.ofExcept (.error fault)) (Contained timed) := by
      refine Watches.contained_ofExcept ?_
      rintro _ same
      cases same
      exact surfaces_of_get found
    exact unknown

variable (registry)

/-- What is done side by side with the providers of some names is contained if what they raise is
relayed. -/
theorem contained_parallel [Host σ] (schedule : Schedule) (names : List String)
    {watching : Provider (Watched Call σ) → Program (Watched Call σ) α}
    {plain : Provider σ → Program σ α}
    (relays : ∀ name (provider : Provider σ),
      Watches (watching (provider.watched name)) (plain provider) (Relays name operation)) :
    Watches (parallel schedule registry.watched names (some operation) watching)
      (parallel schedule registry names (some operation) plain) (Contained timed) :=
  contained_together schedule id fun name _ => contained_forProvider (relays name)

/-- What is done in turn with the providers of some names is contained if what they raise is relayed. -/
theorem contained_sequential (names : List String)
    {watching : Provider (Watched Call σ) → Program (Watched Call σ) α}
    {plain : Provider σ → Program σ α}
    (relays : ∀ name (provider : Provider σ),
      Watches (watching (provider.watched name)) (plain provider) (Relays name operation)) :
    Watches (sequential registry.watched names (some operation) watching)
      (sequential registry names (some operation) plain) (Contained timed) := by
  unfold sequential
  -- The induction is on the names, and each of them adds a program that is contained.
  induction names with
  | nil => exact Watches.contained_pure []
  | cons name later ih =>
    rw [List.mapM_cons, List.mapM_cons]
    exact (contained_forProvider (relays name)).contained_bind fun answer =>
      ih.contained_bind fun answers => Watches.contained_pure (answer :: answers)

/-- What is carried to the owners of virtual machines is contained if what they raise is relayed. -/
theorem contained_fanOut [Host σ] (schedule : Schedule) (roster : Roster)
    {watching : Provider (Watched Call σ) → Roster → Program (Watched Call σ) α}
    {plain : Provider σ → Roster → Program σ α}
    (relays : ∀ name (provider : Provider σ) group,
      Watches (watching (provider.watched name) group) (plain provider group)
        (Relays name operation)) :
    Watches (fanOut schedule registry.watched roster (some operation) watching)
      (fanOut schedule registry roster (some operation) plain) (Contained timed) := by
  refine contained_together schedule Prod.fst fun group _ => ?_
  -- An owner that is not registered is an unknown provider.
  unfold forGroup
  rw [Registry.get_watched]
  cases registry.get group.1 with
  | ok provider => exact Watches.contained_mapFault (relays group.1 provider group.2)
  | error fault =>
    refine Watches.contained_ofExcept ?_
    rintro _ same
    cases same
    exact .own _ (by simp)

end Dispatch

namespace Account

/-- A consensus that fails does so with a fleet error of its own. -/
theorem surfaces_of_consensus {answers : List (String × String)} {fault : Fault}
    (failed : consensus answers = .error fault) : Surfaces timed [] fault := by
  unfold consensus at failed
  -- No account and several accounts are failures of the consensus itself, which no provider raised.
  split at failed
  · cases failed
  · cases failed
    exact .own _ (by simp)
  · cases failed
    exact .own _ (by simp)

/-- Resolving the account is contained. -/
theorem contained_resolve [Host σ] (registry : Registry (Provider σ)) :
    Watches (resolve registry.watched) (resolve registry) (Contained timed) := by
  unfold resolve
  rw [registry.names_watched]
  refine (Dispatch.contained_sequential registry registry.names fun name provider => ?_).contained_bind
    fun answers => ?_
  · -- Nothing but the account is asked for, so nothing else can fail.
    refine ((Watches.noted_relays fun cause => ⟨rfl, rfl, rfl⟩).bind fun account =>
      Watches.pure (provider.name, account)).weaken ?_
    rintro outcome calls (⟨fault, relayed, rfl⟩ | ⟨account, before, after, _, ⟨rfl, _⟩, _⟩)
    · -- Somebody raised, and that is relayed as it is.
      rintro _ same
      cases same
      exact relayed _ rfl
    · -- Everybody answered, and answers are no failures.
      exact fun _ => nofun
  · -- Telling of the answers does not fail, and the consensus fails with an error of its own.
    have told := Watches.tell (κ := Call) (σ := σ) .debug
      s!"Provider accounts: {Text.quotePairs answers}"
    exact (told.weaken fun outcome calls ⟨same, _⟩ => same ▸ contained_ok _ calls).contained_bind
      fun _ => Watches.contained_ofExcept fun _ => surfaces_of_consensus

end Account

namespace Command

/-- Choosing by names fails with a fleet error of its own. -/
theorem surfaces_of_chosen {names : List String} {all : Roster} {fault : Fault}
    (failed : chosen names all = .error fault) : Surfaces timed [] fault := by
  dsimp only [chosen] at failed
  -- Either no name is missing, or the names that are make a fleet error.
  split at failed
  · cases failed
  · cases failed
    exact .own _ (by simp)

variable [Host σ] (registry : Registry (Provider σ))

/-- Listing all virtual machines is contained. -/
theorem contained_listAll :
    Watches (listAll registry.watched) (listAll registry) (Contained timed) := by
  have relays (name : String) (provider : Provider σ) :
      Watches (Provider.list (provider.watched name)) (Provider.list provider) (Relays name "list") :=
    Watches.noted_relays fun cause => ⟨rfl, rfl, rfl⟩
  unfold listAll
  rw [registry.names_watched]
  -- Whatever the order in which the lists come in, putting them together and sorting them does not fail.
  exact Watches.contained_scheduled fun schedule =>
    (Dispatch.contained_parallel registry schedule registry.names relays).contained_bind
      fun rosters => Watches.contained_pure (Roster.sortByName rosters.flatten)

/-- Selecting virtual machines by names is contained. -/
theorem contained_select (names : List String) :
    Watches (select registry.watched names) (select registry names) (Contained timed) := by
  rw [select_eq, select_eq]
  exact (contained_listAll registry).contained_bind fun all =>
    Watches.contained_ofExcept fun _ => surfaces_of_chosen

omit [Host σ] in
/-- Taking over flags is contained when no provider fails to. -/
theorem contained_loading {flags : FlagValues}
    (loads : ∀ provider ∈ registry.toList, ∀ state, ((provider.loadFlags flags).on state).1 = .ok ()) :
    Watches (registry.watched.toList.forM fun provider => provider.loadFlags flags)
      (registry.toList.forM fun provider => provider.loadFlags flags) (Contained timed) := by
  rw [registry.toList_watched, Registry.toList, OrderedMap.values]
  rw [Registry.toList, OrderedMap.values] at loads
  -- Every provider takes over the flags in its turn, and no call is noted for that.
  generalize registry.members.entries = entries at loads
  induction entries with
  | nil => exact Watches.contained_pure _
  | cons entry rest ih =>
    have first : Watches ((entry.2.watched entry.1).loadFlags flags) (entry.2.loadFlags flags)
        (Contained timed) := by
      -- By assumption the flags are taken over without a failure, and without a call.
      intro watched
      refine ⟨[], ?_, by rw [List.append_nil]; rfl⟩
      rw [loads entry.2 (by simp)]
      exact contained_ok _ _
    rw [List.map_cons, List.map_cons, List.forM, List.forM]
    exact first.contained_bind fun _ => ih fun provider member => loads provider (by simp [member])

/-- Creating is contained when every provider takes over its options. -/
theorem contained_runCreate {arguments : CreateArguments}
    (loads : ∀ provider ∈ registry.toList, ∀ state,
      ((provider.loadFlags arguments.flags).on state).1 = .ok ())
    (lapses : arguments.lifetime = none → ¬ timed) :
    Watches (runCreate registry.watched arguments) (runCreate registry arguments)
      (Contained timed) := by
  -- Each call for creating is noted with what the provider raised.
  have relays (options : CreateOptions) (name : String) (provider : Provider σ) :
      Watches ((provider.watched name).create arguments.names options)
        (provider.create arguments.names options) (Relays name "create") :=
    Watches.noted_relays fun cause => ⟨rfl, rfl, rfl⟩
  -- Of the options only the lifetime can be missing.
  have options (fault : Fault) (invalid : arguments.options = .error fault) :
      Surfaces timed [] fault := by
    rw [CreateArguments.options] at invalid
    split at invalid
    · cases invalid
    · next missing =>
      cases invalid
      exact .lapse _ (lapses missing)
  unfold runCreate
  rw [createTargets, registry.names_watched, ← createTargets]
  -- The steps come one after the other, and each is contained: options, arguments, calls, conclusion.
  exact (contained_loading registry loads).contained_bind fun _ =>
    (Watches.contained_ofExcept options).contained_bind fun options =>
      Watches.contained_scheduled fun schedule =>
        (Dispatch.contained_parallel registry schedule _
          (relays options)).contained_discard.contained_bind fun _ => Watches.contained_pure _

/-- Carrying out an order is contained. -/
theorem contained_order (order : Order) (names : List String)
    (lapses : order = .extend none → ¬ timed) :
    Watches (run registry.watched (order.command names)) (run registry (order.command names))
      (Contained timed) := by
  -- Both orders note their call with what the provider raised, under their own names.
  have relays (name : String) (provider : Provider σ) (group : Roster) :
      Watches (order.action (provider.watched name) group) (order.action provider group)
        (Relays name order.operation) := by
    refine (order.action_watches name provider group).weaken ?_
    rintro _ calls rfl cause rfl
    cases order <;> exact ⟨_, List.mem_singleton.mpr rfl, rfl, rfl, rfl⟩
  -- Without a lifetime there is nothing to show, even if every owner has carried out the order.
  have concluding (roster : Roster) (fault : Fault) (failed : order.conclusion roster = .error fault) :
      Surfaces timed [] fault := by
    cases order with
    | delete => cases failed
    | extend lifetime =>
      cases lifetime with
      | some lifetime => cases failed
      | none =>
        cases failed
        exact .lapse _ (lapses rfl)
  rw [run_command, run_command]
  -- The steps come one after the other, and each is contained: selection, calls, conclusion.
  exact (contained_select registry names).contained_bind fun roster =>
    Watches.contained_scheduled fun schedule =>
      (Dispatch.contained_fanOut registry schedule roster relays).contained_discard.contained_bind
        fun _ => Watches.contained_ofExcept (concluding roster)

/-- What all providers do side by side, with a known report in the end, is contained if what they raise is
relayed. -/
theorem contained_all {operation : String} (report : Report)
    {watching : Provider (Watched Call σ) → Program (Watched Call σ) α}
    {plain : Provider σ → Program σ α} (schedule : Schedule)
    (relays : ∀ name (provider : Provider σ),
      Watches (watching (provider.watched name)) (plain provider) (Relays name operation)) :
    Watches
      (do
        discard <| Dispatch.parallel schedule registry.watched registry.names (some operation) watching
        return report)
      (do
        discard <| Dispatch.parallel schedule registry registry.names (some operation) plain
        return report)
      (Contained timed) :=
  (Dispatch.contained_parallel registry schedule registry.names
    relays).contained_discard.contained_bind fun _ => Watches.contained_pure report

/-- Bringing the settings of the secure shell up to date is contained. -/
theorem contained_runSyncSsh (clean : Bool) :
    Watches (runSyncSsh registry.watched clean) (runSyncSsh registry clean) (Contained timed) := by
  unfold runSyncSsh
  rw [registry.names_watched]
  -- Either way all providers are asked for one operation.
  cases clean <;>
    exact Watches.contained_scheduled fun schedule => contained_all registry .silent schedule
      fun name provider => Watches.noted_relays fun cause => ⟨rfl, rfl, rfl⟩

/-- The providers take over the options that the command sets. -/
def Loads (registry : Registry (Provider σ)) : Command → Prop
  | create arguments => ∀ provider ∈ registry.toList, ∀ state,
    ((provider.loadFlags arguments.flags).on state).1 = .ok ()
  | list _ | destroy _ | extend _ _ | whoami | syncSsh _ => True

/-- A lifetime is there if the command sets one. -/
def Timed : Command → Prop
  | create arguments => arguments.lifetime.isSome = true
  | extend _ lifetime => lifetime.isSome = true
  | list _ | destroy _ | whoami | syncSsh _ => True

/-- Every command but the one that shows a table is contained if the providers take over their options. -/
theorem contained_run {command : Command} (loads : Loads registry command)
    (plain : command ≠ .list false) :
    Watches (run registry.watched command) (run registry command) (Contained command.Timed) := by
  -- The commands differ in what they do before they ask the providers, so each is a case of its own.
  cases command with
  | list asDocument =>
    cases asDocument with
    | false => exact absurd rfl plain
    | true =>
      -- A document does not depend on the clock.
      have writing (roster : Roster) :
          Watches (do return .document (roster.document) : Program (Watched Call σ) Report)
            (do return .document (roster.document)) (Contained True) :=
        Watches.contained_pure _
      exact (contained_listAll registry).contained_bind writing
  | create arguments =>
    refine contained_runCreate registry loads fun missing given => ?_
    rw [Timed, missing] at given
    cases given
  -- Destroying and extending are orders, which differ in whether a lifetime can be missing.
  | destroy names => exact contained_order registry .delete names nofun
  | extend names lifetime =>
    refine contained_order registry (.extend lifetime) names ?_
    rintro ⟨rfl⟩ ⟨⟩
  | whoami =>
    exact (Account.contained_resolve registry).contained_bind fun account =>
      Watches.contained_pure _
  | syncSsh clean => exact contained_runSyncSsh registry clean

omit [Host σ] in
/-- The console shows the end of every order that comes to one. -/
theorem shows_conclusion {order : Order} {roster : Roster} {report : Report}
    (concluded : order.conclusion roster = .ok report) : ∃ shown, report.plainText = .ok shown := by
  -- Nothing but counts and lengths of time is put into the lines that tell of an end.
  cases order with
  | delete =>
    cases concluded
    exact Report.shows_count (by decide) (by decide) _
  | extend lifetime =>
    cases lifetime with
    | none => cases concluded
    | some lifetime =>
      cases concluded
      have first : Legible "Extended ".toList := by decide
      have between : Legible " VMs to ".toList := by decide
      have last : Legible ".".toList := by decide
      refine Report.shows_success ?_
      simp only [String.toList_append]
      exact (((first.append (Legible.number _)).append between).append
        (Legible.duration lifetime)).append last

/-- The console shows the end of every order that is carried out. -/
theorem shown_of_order {order : Order} {names : List String} {state after : σ} {report : Report}
    (answered : (run registry (order.command names)).on state = (.ok report, after)) :
    ∃ shown, report.plainText = .ok shown := by
  -- Whoever answers has answered in every part, and the last part decides what is shown.
  rw [run_command] at answered
  obtain ⟨roster, _, _, answered⟩ := bind_ok answered
  obtain ⟨_, _, _, answered⟩ := bind_ok answered
  obtain ⟨_, _, _, concluded⟩ := bind_ok answered
  exact shows_conclusion (congrArg Prod.fst concluded)

/-- The console shows the end of every command that comes to one, other than the command for a table and
the one for an account that is not legible. -/
theorem shown_of_run {command : Command} (plain : command ≠ .list false) {state after : σ}
    {report : Report} (answered : (run registry command).on state = (.ok report, after)) :
    (∃ shown, report.plainText = .ok shown) ∨
      ∃ account, command = .whoami ∧ report = .line (.plain account) ∧
        ¬ Legible account.toList := by
  -- Every command ends with one report, and what it is follows from the last step alone.
  cases command with
  | list asDocument =>
    cases asDocument with
    | false => exact absurd rfl plain
    | true =>
      -- A document is written out as it is, and nothing in it is read as a mark.
      obtain ⟨roster, _, _, told⟩ := bind_ok answered
      cases told
      exact .inl ⟨_, rfl⟩
  | create arguments =>
    -- Flags, options, schedule and calls have passed, so that only the count of virtual machines is told.
    obtain ⟨_, _, _, answered⟩ := bind_ok answered
    obtain ⟨_, _, _, answered⟩ := bind_ok answered
    obtain ⟨_, _, _, answered⟩ := bind_ok answered
    obtain ⟨_, _, _, told⟩ := bind_ok answered
    cases told
    exact .inl (Report.shows_count (by decide) (by decide) _)
  | destroy names =>
    change (run registry (Order.delete.command names)).on state = _ at answered
    exact .inl (shown_of_order registry answered)
  | extend names lifetime =>
    change (run registry ((Order.extend lifetime).command names)).on state = _ at answered
    exact .inl (shown_of_order registry answered)
  | whoami =>
    obtain ⟨account, _, _, told⟩ := bind_ok answered
    cases told
    -- An account is told as it stands, and only one that is legible is sure to be shown.
    by_cases legible : Legible account.toList
    · exact .inl (Report.shows_plain legible)
    · exact .inr ⟨account, rfl, rfl, legible⟩
  | syncSsh clean =>
    obtain ⟨_, _, _, answered⟩ := bind_ok answered
    cases clean <;>
    · obtain ⟨_, _, _, told⟩ := bind_ok answered
      cases told
      exact .inl ⟨_, rfl⟩

/-- Whatever the providers do, and in whatever order their tasks end, a command other than the one for a
table comes to an end that the console shows, or to an account. Or it fails, with a fleet error and the
status for one unless a lifetime is missing, and a failure that is told as a provider's is what that
provider raised, in all its words. -/
theorem run_contains {command : Command} (loads : Loads registry command)
    (plain : command ≠ .list false) (state : σ) :
    ∃ outcome after calls,
      (run registry command).on state = (outcome, after) ∧
      (run registry.watched command).on ⟨state, []⟩ = (outcome, ⟨after, calls⟩) ∧
      (∀ report, outcome = .ok report → (∃ shown, report.plainText = .ok shown) ∨
        ∃ account, command = .whoami ∧ report = .line (.plain account) ∧
          ¬ Legible account.toList) ∧
      ∀ fault, outcome = .error fault → Tells calls fault ∧
        (command.Timed → (∀ call ∈ calls, call.fault? ≠ some (.problem .interrupted)) →
          fault.isFleet = true ∧ (Startup.Ending.failed command.name fault).status = some 1) := by
  -- The command is watched from a state without calls, so that what surfaces was raised on the way.
  obtain ⟨outcome, after, calls, ran, watched, contained⟩ :=
    (contained_run registry loads plain).fromStart state
  refine ⟨outcome, after, calls, ran, watched, ?_, fun fault failed => ?_⟩
  · rintro report rfl
    exact shown_of_run registry plain ran
  · have surfaces := contained fault failed
    exact ⟨surfaces.tells, fun given persists => surfaces.isFleet given persists _⟩

/-- A provider in memory and no other. -/
def soleLab : SiteRegistry := Registry.ofList [Scripted.provider "lab"]

/-- The provider in memory takes over every option. -/
theorem loads_soleLab (command : Command) : Loads soleLab command := by
  -- Only creating hands options on.
  cases command with
  | create arguments =>
    intro provider member state
    cases List.mem_singleton.mp member
    change ((Scripted.load "lab" arguments.flags).on state).1 = .ok ()
    rw [Scripted.load]
    split <;> rfl
  | _ => trivial

/-- The fault of a backend that is out of space, as a fleet error for the want of a quota. -/
def nestedFault : Fault :=
  .because ⟨.general, "no quota", none, none⟩ (.problem (.reported .state "full"))

/-- A site where the provider in memory fails to create with a nested fault. -/
def brokenSite : Site :=
  { Compute.quietSite with
    scripts := .ofList [("lab", { failures := .ofList [("create", [some nestedFault])] })] }

/-- What the provider in memory raises is told down to its innermost cause. -/
theorem run_contains_nestedFault :
    Loads soleLab (.create { names := ["web"], flags := .empty }) ∧
      Timed (.create { names := ["web"], flags := .empty }) ∧
      ∃ fault after calls,
        (run soleLab (.create { names := ["web"], flags := .empty })).on brokenSite =
          (.error fault, after) ∧
        Raised calls "lab" "create" nestedFault ∧
        fault.message = "in provider: lab: no quota: full" ∧
        (Startup.Ending.failed "create" fault).status = some 1 := by
  -- The theorem is applied to the run of one provider whose call fails with a chain of causes.
  have loads := loads_soleLab (.create { names := ["web"], flags := .empty })
  have timed : Timed (.create { names := ["web"], flags := .empty }) := rfl
  obtain ⟨outcome, after, calls, ran, watched, _, contains⟩ :=
    run_contains soleLab loads nofun brokenSite
  -- The one call raises the nested fault, and nobody breaks off.
  have failed : ((run soleLab (.create { names := ["web"], flags := .empty })).on brokenSite).1 =
      .error (.because ⟨.providerFailed, "in provider: lab", some "lab", some "create"⟩
        nestedFault) := by decide +kernel
  have raised : ((run soleLab.watched (.create { names := ["web"], flags := .empty })).on
      ⟨brokenSite, []⟩).2.calls.map Call.fault? = [some nestedFault] := by decide +kernel
  rw [ran] at failed
  rw [watched] at raised
  obtain rfl : outcome = _ := failed
  -- What surfaces is told as the failure of a provider, so it was raised in a call.
  obtain ⟨tells, fleet⟩ := contains _ rfl
  obtain ⟨provider, operation, cause, among, own, operated, same, _⟩ := tells _ rfl rfl
  cases own
  cases operated
  cases same
  refine ⟨loads, timed, _, after, calls, ran, among, by decide,
    (fleet timed fun call member broken => ?_).2⟩
  -- The only call raised the nested fault, so it did not break off.
  have told : call.fault? ∈ calls.map Call.fault? := List.mem_map_of_mem member
  rw [raised, broken, List.mem_singleton] at told
  cases told

/-- A site where the account of the provider in memory looks like a mark. -/
def markedSite : Site :=
  { Compute.quietSite with scripts := .ofList [("lab", { account := "[/red]" })] }

/-- An account that looks like a mark is nothing that the console shows, and without a lifetime creating fails
with no fleet error. -/
theorem run_escapes :
    (∃ report after, (run soleLab .whoami).on markedSite = (.ok report, after) ∧
      (Startup.Ending.done report).shown =
        .error (.problem (.markup (.notOpen ⟨"/red", none⟩ 0)))) ∧
      ∃ verbose arguments fault after,
        Startup.read soleLab markedSite ["create", "web", "--lifetime=--"] =
          .ok (verbose, .create arguments) ∧
        Loads soleLab (.create arguments) ∧
        (run soleLab (.create arguments)).on markedSite = (.error fault, after) ∧
        fault.isFleet = false := by
  constructor
  · -- The account that is told would close a mark that was never opened.
    have told : ((run soleLab .whoami).on markedSite).1 = .ok (.line (.plain "[/red]")) := by
      decide +kernel
    obtain ⟨report, after, ran⟩ := exists_of_isOk (show _ = true by rw [told]; rfl)
    rw [ran] at told
    cases told
    exact ⟨_, after, ran, by decide +kernel⟩
  · -- The line is read as a command without a lifetime, which is invalid among the options.
    have parsed : (match Startup.read soleLab markedSite ["create", "web", "--lifetime=--"] with
      | .ok (_, .create arguments) =>
        decide (((run soleLab (.create arguments)).on markedSite).1 =
          .error (.problem (.invalid [⟨"lifetime", .notDuration⟩])))
      | _ => false) = true := by decide +kernel
    split at parsed
    · next verbose arguments reads =>
      rcases ran : (run soleLab (.create arguments)).on markedSite with ⟨outcome, after⟩
      rw [ran] at parsed
      obtain rfl : outcome = _ := of_decide_eq_true parsed
      exact ⟨verbose, arguments, _, after, reads, loads_soleLab _, ran, rfl⟩
    · cases parsed

end Command

end Fleet
