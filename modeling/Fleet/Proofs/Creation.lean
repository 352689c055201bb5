import Fleet.Proofs.CommandLine.Create
import Fleet.Proofs.Containment

/-! Creating: who is asked to create virtual machines, how often, for what, and how the command ends. -/

namespace Fleet

open Program CommandLine

variable {σ : Type}

namespace Registry

/-- No name is registered twice. -/
theorem nodup_names {π : Type} (registry : Registry π) : registry.names.Nodup :=
  registry.members.distinct

end Registry

namespace Command

/-- The providers that are to create: those that were named, or else all that can. -/
def targeted (registry : Registry (Provider σ)) (named : List String) : List String :=
  if named = [] then createTargets registry else named

/-- Whoever can create is registered, and is not the machine at hand. -/
theorem mem_createTargets {registry : Registry (Provider σ)} {name : String} :
    name ∈ createTargets registry ↔ name ∈ registry.names ∧ name ≠ LocalFleet.providerName := by
  simp [createTargets]

/-- Whoever can create is told once. -/
theorem nodup_createTargets (registry : Registry (Provider σ)) : (createTargets registry).Nodup :=
  (List.mergeSort_perm _ _).nodup_iff.mpr (registry.nodup_names.filter _)

/-- Who is among those that are to create. -/
theorem mem_targeted {registry : Registry (Provider σ)} {named : List String} {name : String} :
    name ∈ targeted registry named ↔
      if named = [] then name ∈ registry.names ∧ name ≠ LocalFleet.providerName else name ∈ named := by
  unfold targeted
  -- Nobody is named, so that all who can create are to.
  split
  · exact mem_createTargets
  · -- Those that are named are to create, whether they can or not.
    rfl

/-- How often a provider is among those that are to create. -/
theorem count_targeted (registry : Registry (Provider σ)) (named : List String) (name : String) :
    (targeted registry named).count name =
      if named = [] then if name ∈ registry.names ∧ name ≠ LocalFleet.providerName then 1 else 0
      else named.count name := by
  unfold targeted
  split
  · -- Who can create is listed once, as a registry has each name once.
    rw [List.Nodup.count (nodup_createTargets registry)]
    simp only [mem_createTargets]
  · rfl

/-- The providers that are eligible are those that are to create. -/
theorem eligible_perm (registry : Registry (Provider σ)) (options : CreateOptions) :
    (options.eligible (createTargets registry)).Perm (targeted registry options.providers) := by
  simp only [CreateOptions.eligible, targeted, List.isEmpty_iff]
  split
  · -- Nobody is named, and all who can create are put in order, which loses nobody.
    exact List.mergeSort_perm _ _
  · -- Those that are named stand as they are.
    exact .refl _

/-- The options are those that were found, with a lifetime. -/
theorem options_eq_ok {arguments : CreateArguments} {options : CreateOptions}
    (valid : arguments.options = .ok options) :
    ∃ lifetime, arguments.lifetime = some lifetime ∧
      options = ⟨arguments.localSsd, lifetime, arguments.spread, arguments.providers⟩ := by
  unfold CreateArguments.options at valid
  split at valid
  · -- A lifetime is all that has to be there, and the other options are taken as they are.
    next lifetime timed =>
    cases valid
    exact ⟨lifetime, timed, rfl⟩
  · cases valid

/-- What is shown when virtual machines have been created. -/
def created (names : List String) : Report := success s!"Created {names.length} VMs."

/-- What becomes of the command when each of the providers that were asked came to an end: all is well if
nobody failed, and otherwise the first failure is told as that provider's. -/
def Concludes (made : List (String × Except Fault Unit)) (report : Report) (outcome : Except Fault Report) :
    Prop :=
  (∀ one ∈ made, one.2 = .ok ()) ∧ outcome = .ok report ∨
    ∃ before name cause later, made = before ++ (name, .error cause) :: later ∧
      (∀ one ∈ before, one.2 = .ok ()) ∧ outcome = .error (cause.inProvider name (some "create"))

/-- The first failure among the ends decides. -/
theorem concludes_of_mapM {made : List (String × Except Fault Unit)} {answers : Except Fault (List Unit)}
    (report : Report)
    (all : answers = made.mapM fun one => one.2.mapError (Fault.inProvider one.1 (some "create"))) :
    Concludes made report (answers.map fun _ => report) := by
  -- Telling a failure as a provider's leaves answers as they are.
  have answered {one : String × Except Fault Unit}
      (returned : ∃ answer, one.2.mapError (Fault.inProvider one.1 (some "create")) = .ok answer) :
      one.2 = .ok () := by
    obtain ⟨name, outcome⟩ := one
    obtain ⟨answer, returned⟩ := returned
    cases outcome with
    | ok _ => rfl
    | error cause => cases returned
  cases answers with
  | ok answers =>
    -- All ends are there, so nobody failed.
    have each := exists_mapM_eq_ok_iff.mp ⟨answers, all.symm⟩
    exact .inl ⟨fun one member => answered (each one member), rfl⟩
  | error fault =>
    -- The failure that ends it all is that of the first who failed.
    obtain ⟨before, ⟨name, outcome⟩, later, rfl, fine, failed⟩ := mapM_eq_error_iff.mp all.symm
    cases outcome with
    | ok _ => cases failed
    | error cause =>
      cases failed
      exact .inr ⟨before, name, cause, later, rfl, fun one member => answered (fine one member), rfl⟩

/-- Providers were asked to create virtual machines of the names with the options, each of those that are to
create as often as it is among them, and each came to an end of its own. -/
structure Asked (registry : Registry (Provider σ)) (names : List String) (options : CreateOptions)
    (made : List (String × Except Fault Unit)) : Prop where
  perm : (made.map Prod.fst).Perm (targeted registry options.providers)
  own : ∀ one ∈ made, ∃ provider state, registry.get one.1 = .ok provider ∧
    ((provider.create names options).on state).1 = one.2

/-- The calls by which providers are asked. -/
def callsOf (names : List String) (options : CreateOptions) (made : List (String × Except Fault Unit)) :
    List Call :=
  made.map fun one => .create one.1 names options one.2

/-- How often a provider was called to create. -/
def creates (calls : List Call) (provider : String) : Nat :=
  calls.countP fun call => call.operation == "create" && call.provider == provider

/-- How often a virtual machine of the name was asked for from a provider. -/
def requests (provider name : String) : List Call → Nat
  | [] => 0
  | .create other names _ _ :: rest =>
    (if other = provider then names.count name else 0) + requests provider name rest
  | _ :: rest => requests provider name rest

/-- A provider is called as often as it is asked. -/
theorem creates_callsOf (names : List String) (options : CreateOptions)
    (made : List (String × Except Fault Unit)) (provider : String) :
    creates (callsOf names options made) provider = (made.map Prod.fst).count provider := by
  unfold creates callsOf
  rw [List.countP_map, List.count, List.countP_map]
  rfl

/-- With each call a provider is asked for a virtual machine as often as its name is among the names. -/
theorem requests_callsOf (names : List String) (options : CreateOptions)
    (made : List (String × Except Fault Unit)) (provider name : String) :
    requests provider name (callsOf names options made) =
      creates (callsOf names options made) provider * names.count name := by
  rw [creates_callsOf]
  -- One more call of the provider counts the names once more, and a call of another one changes nothing.
  induction made with
  | nil => exact (Nat.zero_mul _).symm
  | cons one rest ih =>
    unfold callsOf at ih ⊢
    rw [List.map_cons, requests, ih, List.map_cons, List.count_cons, Nat.add_mul, Nat.add_comm]
    congr 1
    by_cases same : one.1 = provider <;> simp [same]

/-- Every provider takes over its flags in turn. -/
def loading (registry : Registry (Provider σ)) (flags : FlagValues) : Program σ Unit :=
  registry.toList.forM fun provider => provider.loadFlags flags

/-- Taking over flags makes no call. -/
theorem loading_watches (registry : Registry (Provider σ)) (flags : FlagValues) :
    Watches (loading registry.watched flags) (loading registry flags) fun _ calls => calls = [] := by
  unfold loading
  rw [registry.toList_watched, Registry.toList, OrderedMap.values]
  -- Who takes over flags is watched, but that is no call; the first failure ends the round.
  induction registry.members.entries with
  | nil => exact (Watches.pure PUnit.unit).weaken fun _ _ ended => ended.2
  | cons entry rest ih =>
    have first : Watches ((entry.2.watched entry.1).loadFlags flags) (entry.2.loadFlags flags)
        fun _ calls => calls = [] :=
      fun watched => ⟨[], rfl, by rw [List.append_nil]; rfl⟩
    rw [List.map_cons, List.map_cons, List.forM, List.forM]
    refine (first.bind fun _ => ih).weaken ?_
    rintro outcome calls (⟨_, rfl, _⟩ | ⟨_, before, after, rfl, rfl, rfl⟩) <;> rfl

/-- How creating ends, with the calls that are made: a provider does not take over its flags, or there is no
lifetime, and nobody is asked. Or else providers are asked, and what becomes of them decides. -/
inductive Ends (registry : Registry (Provider σ)) (arguments : CreateArguments) (state : σ) :
    Except Fault Report → List Call → Prop where
  | unloaded {fault : Fault} (failed : ((loading registry arguments.flags).on state).1 = .error fault) :
      Ends registry arguments state (.error fault) []
  | untimed (loaded : ((loading registry arguments.flags).on state).1 = .ok ())
      (missing : arguments.lifetime = none) :
      Ends registry arguments state (.error (.problem (.invalid [⟨"lifetime", .notDuration⟩]))) []
  | asked {options : CreateOptions} {made : List (String × Except Fault Unit)}
      {outcome : Except Fault Report}
      (loaded : ((loading registry arguments.flags).on state).1 = .ok ())
      (valid : arguments.options = .ok options) (asked : Asked registry arguments.names options made)
      (concludes : Concludes made (created arguments.names) outcome) :
      Ends registry arguments state outcome (callsOf arguments.names options made)

/-- How a command line to create is read: options of the program, the word for the command and its own
arguments, which are taken for these tokens. -/
structure Reads (known : Catalogue) (line : List String)
    (tokens : List (String × Reading CreateArguments)) (arguments : CreateArguments) : Prop where
  line : ∃ options own, line = options ++ "create" :: own ∧
    (∀ argument ∈ options, argument.toList.head? = some '-') ∧
    (createGrammar known).classifyAll own = .ok tokens
  divides : Divides known tokens arguments

variable [Host σ]

/-- The providers that are to create are asked to, side by side. -/
def asking (registry : Registry (Provider σ)) (names : List String) (options : CreateOptions) :
    Program σ Report := do
  discard <| Dispatch.parallel (Host.schedule (← get)) registry
    (options.eligible (createTargets registry)) (some "create")
    fun provider => provider.create names options
  return created names

/-- Creating takes over flags, and asks providers if the options are valid. -/
theorem run_create (registry : Registry (Provider σ)) (arguments : CreateArguments) :
    run registry (.create arguments) = (do
      loading registry arguments.flags
      let options ← Program.ofExcept arguments.options
      asking registry arguments.names options) :=
  rfl

/-- Whoever is to create is asked, in the order of some schedule. -/
theorem asking_watches {registry : Registry (Provider σ)} {names : List String} {options : CreateOptions}
    (known : ∀ name ∈ options.providers, name ∈ registry.names) :
    Watches (asking registry.watched names options) (asking registry names options)
      fun outcome calls => ∃ made, Asked registry names options made ∧
        calls = callsOf names options made ∧ Concludes made (created names) outcome := by
  have perm := eligible_perm registry options
  -- Whether they were named or not, all that are to create are registered.
  have registered (name : String) (member : name ∈ options.eligible (createTargets registry)) :
      ∃ provider, registry.get name = .ok provider := by
    -- Who is eligible was named, or is registered if nobody was.
    have among := mem_targeted.mp (perm.mem_iff.mp member)
    split at among
    · exact Registry.get_of_mem_names among.1
    · exact Registry.get_of_mem_names (known name among)
  -- Each of them is noted once with what its own run comes to, from whatever state the others left.
  have noted (name : String) (provider : Provider σ) (found : registry.get name = .ok provider) :
      Watches ((provider.watched name).create names options) (provider.create names options)
        fun outcome calls => calls = [Call.create name names options outcome] ∧
          ∃ provider state, registry.get name = .ok provider ∧
            ((provider.create names options).on state).1 = outcome :=
    (Watches.noted_reached (provider.create names options) (Call.create name names options)).weaken
      fun _ _ ⟨called, state, same⟩ => ⟨called, provider, state, found, same⟩
  -- Side by side, each of those that are eligible makes its one call.
  have asking (schedule : Schedule) : Watches
      (Dispatch.parallel schedule registry.watched (options.eligible (createTargets registry))
        (some "create") fun provider => provider.create names options)
      (Dispatch.parallel schedule registry (options.eligible (createTargets registry)) (some "create")
        fun provider => provider.create names options) _ :=
    Dispatch.parallel_watches schedule (fun name => Call.create name names options)
      registry.get_watched noted (some "create") registered
  unfold Command.asking
  rw [createTargets, registry.names_watched, ← createTargets]
  refine (Watches.scheduled fun schedule => (asking schedule).discard.bind fun _ =>
    Watches.pure (created names)).weaken ?_
  -- Whether all is well or not, the calls are those of the ends, and these decide what becomes of it all.
  rintro outcome calls ⟨schedule,
    (⟨fault, ⟨answers, ⟨made, arranged, own, rfl, all⟩, failed⟩, rfl⟩ |
      ⟨_, before, after, ⟨answers, ⟨made, arranged, own, rfl, all⟩, done⟩, ⟨rfl, rfl⟩, rfl⟩)⟩
  all_goals
    -- The schedule puts the calls in another order, and so does the choice of who is eligible.
    have asked : Asked registry names options made :=
      ⟨arranged ▸ (schedule.arrange_perm id _).trans perm, own⟩
    -- What is concluded depends only on whether some call failed, and not on its place.
    have concluded := concludes_of_mapM (created names) all
  · -- Some call failed, and its fault is that of all.
    cases answers with
    | ok _ => cases failed
    | error cause =>
      cases failed
      exact ⟨made, asked, rfl, concluded⟩
  · -- All calls were answered, so that what was created is told.
    cases answers with
    | ok _ => exact ⟨made, asked, List.append_nil _, concluded⟩
    | error cause => cases done

/-- Creating on providers that are registered ends in one of these ways. -/
theorem exists_end {registry : Registry (Provider σ)} {arguments : CreateArguments}
    (known : ∀ name ∈ arguments.providers, name ∈ registry.names) (state : σ) :
    ∃ outcome after calls, (run registry (.create arguments)).on state = (outcome, after) ∧
      (run registry.watched (.create arguments)).on ⟨state, []⟩ = (outcome, ⟨after, calls⟩) ∧
      Ends registry arguments state outcome calls := by
  rw [run_create, run_create]
  -- Whether flags are taken over or not, no call is made for that.
  obtain ⟨_, rfl, watching⟩ := loading_watches registry arguments.flags ⟨state, []⟩
  rcases loaded : (loading registry arguments.flags).on state with ⟨fault | ⟨⟩, middle⟩
  · -- Nothing follows the failure to take over flags.
    rw [loaded] at watching
    exact ⟨_, middle, [], on_bind_error loaded _, on_bind_error watching _,
      .unloaded (congrArg Prod.fst loaded)⟩
  · rw [loaded] at watching
    rw [on_bind_ok loaded, on_bind_ok watching]
    cases valid : arguments.options with
    | error fault =>
      -- Of the options only the lifetime can be missing.
      unfold CreateArguments.options at valid
      split at valid
      · cases valid
      · next missing =>
        cases valid
        exact ⟨_, middle, [], rfl, rfl, .untimed (congrArg Prod.fst loaded) missing⟩
    | ok options =>
      -- The options name the same providers as the arguments do.
      have providers : ∀ name ∈ options.providers, name ∈ registry.names := by
        obtain ⟨lifetime, _, rfl⟩ := options_eq_ok valid
        exact known
      -- The options are valid, so the calls are made from the state with the flags.
      obtain ⟨calls, ⟨made, asked, rfl, concludes⟩, watched⟩ := asking_watches providers ⟨middle, []⟩
      exact ⟨_, _, _, rfl, watched, .asked (congrArg Prod.fst loaded) valid asked concludes⟩

/-- A command line to create that is understood is read, and ends in one of these ways. The provider of the
machine at hand is not named. -/
theorem exists_end_of_parse {registry : Registry (Provider σ)} {current : σ} {version : String}
    {known : Catalogue} (read : catalogue registry current version = .ok known) {line : List String}
    {verbose : Bool} {arguments : CreateArguments}
    (parsed : parse known line = .ok (verbose, .create arguments)) (state : σ) :
    ∃ tokens outcome after calls, Reads known line tokens arguments ∧
      (run registry (.create arguments)).on state = (outcome, after) ∧
      (run registry.watched (.create arguments)).on ⟨state, []⟩ = (outcome, ⟨after, calls⟩) ∧
      LocalFleet.providerName ∉ arguments.providers ∧ Ends registry arguments state outcome calls := by
  -- The catalogue of options is built from the registry, and has no option twice.
  obtain ⟨targets, distinct⟩ := catalogue_eq_ok read
  -- What is understood as creating was read by the grammar for creating.
  obtain ⟨options, own, divided, hyphens, understood⟩ := create_of_parse parsed
  obtain ⟨tokens, classified, divides⟩ := divides_of_parseKnown distinct understood
  -- Only who can create may be named.
  have eligible (name : String) (named : name ∈ arguments.providers) :
      name ∈ registry.names ∧ name ≠ LocalFleet.providerName :=
    mem_createTargets.mp (targets ▸ divides.targeted name named)
  -- All that are named are registered, so that the run ends in one of its ways.
  obtain ⟨outcome, after, calls, ran, watched, ends⟩ :=
    exists_end (fun name named => (eligible name named).1) state
  exact ⟨tokens, outcome, after, calls, ⟨⟨options, own, divided, hyphens, classified⟩, divides⟩, ran,
    watched, fun named => (eligible _ named).2 rfl, ends⟩

/-- What comes of a command line to create. -/
inductive Creates (registry : Registry (Provider σ)) (tokens : List (String × Reading CreateArguments))
    (arguments : CreateArguments) (state : σ) : Except Fault Report → List Call → Prop where
  /-- A provider does not take over its flags, and nobody is asked. -/
  | unloaded {fault : Fault} (failed : ((loading registry arguments.flags).on state).1 = .error fault) :
      Creates registry tokens arguments state (.error fault) []
  /-- The lifetime is a separator alone, and nobody is asked. -/
  | untimed (loaded : ((loading registry arguments.flags).on state).1 = .ok ()) (lapses : Lapses tokens) :
      Creates registry tokens arguments state
        (.error (.problem (.invalid [⟨"lifetime", .notDuration⟩]))) []
  /-- Exactly the providers that the last option names are asked, or if it names none all but the one of the
  machine at hand, which is never asked. -/
  | asked {lifetime : Duration} {made : List (String × Except Fault Unit)} {outcome : Except Fault Report}
      (loaded : ((loading registry arguments.flags).on state).1 = .ok ()) (lasts : ¬ Lapses tokens)
      (timed : arguments.lifetime = some lifetime)
      (targets : ∀ name, name ∈ made.map Prod.fst ↔
        if providersIn tokens = [] then name ∈ registry.names ∧ name ≠ LocalFleet.providerName
        else name ∈ providersIn tokens)
      (remote : LocalFleet.providerName ∉ made.map Prod.fst)
      (own : ∀ one ∈ made, ∃ provider before, registry.get one.1 = .ok provider ∧
        ((provider.create (namesIn tokens)
          ⟨arguments.localSsd, lifetime, arguments.spread, providersIn tokens⟩).on before).1 = one.2)
      (concludes : Concludes made (created (namesIn tokens)) outcome) :
      Creates registry tokens arguments state outcome (callsOf (namesIn tokens)
        ⟨arguments.localSsd, lifetime, arguments.spread, providersIn tokens⟩ made)

/-- For every command line to create that is understood, whoever is to create is asked, whatever becomes of
the others, with the names in their order and the options as they were read. All is well in the end if and
only if nobody failed. -/
theorem create_asks {registry : Registry (Provider σ)} {current : σ} {version : String}
    {known : Catalogue} (read : catalogue registry current version = .ok known) {line : List String}
    {verbose : Bool} {arguments : CreateArguments}
    (parsed : parse known line = .ok (verbose, .create arguments)) (state : σ) :
    ∃ tokens outcome after calls, Reads known line tokens arguments ∧
      (run registry (.create arguments)).on state = (outcome, after) ∧
      (run registry.watched (.create arguments)).on ⟨state, []⟩ = (outcome, ⟨after, calls⟩) ∧
      Creates registry tokens arguments state outcome calls := by
  -- A line that is understood ends in one of a few ways, in terms of the arguments that were read.
  obtain ⟨tokens, outcome, after, calls, reads, ran, watched, away, ends⟩ :=
    exists_end_of_parse read parsed state
  refine ⟨tokens, outcome, after, calls, reads, ran, watched, ?_⟩
  -- What was read is told in terms of the line: names, providers and whether a lifetime is missing.
  obtain ⟨names, providers, lifetime, _⟩ := reads.divides
  cases ends with
  | unloaded failed => exact .unloaded failed
  | untimed loaded missing => exact .untimed loaded (lifetime.mp missing)
  | @asked options made outcome loaded valid asked concludes =>
    -- Options are valid only with a lifetime, so the last option for it has one.
    obtain ⟨span, timed, rfl⟩ := options_eq_ok valid
    have lasts : ¬ Lapses tokens := fun lapses => by simp [lifetime.mpr lapses] at timed
    -- Names and providers are put as the line has them.
    rw [names, providers] at asked ⊢
    rw [providers] at away
    rw [names] at concludes
    -- Who was called is who is to create, in another order.
    have targets {name : String} : name ∈ made.map Prod.fst ↔
        if providersIn tokens = [] then name ∈ registry.names ∧ name ≠ LocalFleet.providerName
        else name ∈ providersIn tokens :=
      asked.perm.mem_iff.trans mem_targeted
    -- The machine at hand is left out when nobody is named, and cannot be named.
    have remote : LocalFleet.providerName ∉ made.map Prod.fst := by
      intro member
      have among := targets.mp member
      split at among
      · exact among.2 rfl
      · exact away among
    exact .asked loaded lasts timed (fun _ => targets) remote asked.own concludes

/-- A command line leads to providers at a site: it is understood as one to create, with something given to
the last option for providers, and ends in an outcome for which these providers are called. -/
def LeadsTo (registry : SiteRegistry) (site : Site) (line : List String) (given : Option (List String))
    (outcome : Except Fault Report) (reached : List String) : Prop :=
  ∃ known verbose arguments tokens after calls,
    catalogue registry site "unknown" = .ok known ∧
    parse known line = .ok (verbose, .create arguments) ∧
    (createGrammar known).classifyAll line.tail = .ok tokens ∧
    lastGiven "--providers" tokens = given ∧
    (run registry.watched (.create arguments)).on ⟨site, []⟩ = (outcome, ⟨after, calls⟩) ∧
    calls.map Call.provider = reached

/-- What a command line to create leads to at a site, if it leads to anything. -/
def attempt (registry : SiteRegistry) (site : Site) (line : List String) :
    Option (Option (List String) × Except Fault Report × List String) :=
  match catalogue registry site "unknown" with
  | .error _ => none
  | .ok known =>
    match parse known line, (createGrammar known).classifyAll line.tail with
    | .ok (_, .create arguments), .ok tokens =>
      let ended := (run registry.watched (.create arguments)).on ⟨site, []⟩
      some (lastGiven "--providers" tokens, ended.1, ended.2.calls.map Call.provider)
    | _, _ => none

/-- What is attempted is led to. -/
theorem leadsTo_of_attempt {registry : SiteRegistry} {site : Site} {line : List String}
    {given : Option (List String)} {outcome : Except Fault Report} {reached : List String}
    (attempted : attempt registry site line = some (given, outcome, reached)) :
    LeadsTo registry site line given outcome reached := by
  unfold attempt at attempted
  -- Without a catalogue there was no attempt.
  split at attempted
  · cases attempted
  · next known read =>
    -- The line was understood as creating, and its words were classified.
    split at attempted
    · next verbose arguments tokens parsed classified =>
      cases attempted
      exact ⟨known, verbose, arguments, tokens, _, _, read, parsed, classified, rfl, rfl, rfl⟩
    · -- Any other line is no attempt at creating.
      cases attempted

/-- The machine at hand and a provider in memory. -/
def hostAndLab : SiteRegistry := Registry.ofList [LocalHost.provider, Scripted.provider "lab"]

/-- Where nobody is named, everyone is asked but the provider of the machine at hand. -/
theorem create_asks_lab :
    ∃ known verbose arguments tokens calls,
      catalogue hostAndLab Compute.quietSite "unknown" = .ok known ∧
      parse known ["create", "web", "db", "--geo"] = .ok (verbose, .create arguments) ∧
      Creates hostAndLab tokens arguments Compute.quietSite (.ok (created ["web", "db"])) calls ∧
      calls.map Call.provider = ["lab"] := by
  -- All of the attempt is carried out once, and the theorem applies to the line it read.
  obtain ⟨known, verbose, arguments, _, _, calls, read, parsed, _, _, ended, called⟩ :=
    leadsTo_of_attempt (show attempt hostAndLab Compute.quietSite ["create", "web", "db", "--geo"] =
      some (none, .ok (created ["web", "db"]), ["lab"]) by decide +kernel)
  obtain ⟨tokens, _, _, _, _, _, watched, creates⟩ := create_asks read parsed Compute.quietSite
  -- Both are runs of the same command, so they have the same calls.
  cases watched.symm.trans ended
  exact ⟨known, verbose, arguments, tokens, calls, read, parsed, creates, called⟩

/-- A separator names nobody when it is given for the providers, and still the provider in memory is asked.
When it is given for the lifetime nobody is asked, though nobody was named. -/
theorem create_strays :
    LeadsTo hostAndLab Compute.quietSite ["create", "web", "--providers=--"] (some ["--"])
      (.ok (created ["web"])) ["lab"] ∧
    LeadsTo hostAndLab Compute.quietSite ["create", "web", "--lifetime=--"] none
      (.error (.problem (.invalid [⟨"lifetime", .notDuration⟩]))) [] :=
  ⟨leadsTo_of_attempt (by decide +kernel), leadsTo_of_attempt (by decide +kernel)⟩

/-- How often providers are called for a command line to create, and how often they are asked for a virtual
machine. -/
structure Counts (registry : Registry (Provider σ)) (tokens : List (String × Reading CreateArguments))
    (calls : List Call) (goes : Prop) : Prop where
  /-- Nobody is called unless the command goes as far as that. -/
  stopped : ¬ goes → calls = []
  /-- Those that the last option names are called as often as it names them, or everyone once, but for the
  provider of the machine at hand, if it names nobody. -/
  times : goes → ∀ provider, creates calls provider =
    if providersIn tokens = [] then
      if provider ∈ registry.names ∧ provider ≠ LocalFleet.providerName then 1 else 0
    else (providersIn tokens).count provider
  /-- So nobody is called twice exactly when nobody is named twice. -/
  once : goes → ((∀ provider, creates calls provider ≤ 1) ↔ (providersIn tokens).Nodup)
  /-- With each call a virtual machine is asked for as often as its name is among the names. -/
  requests : ∀ provider name,
    requests provider name calls = creates calls provider * (namesIn tokens).count name

/-- For every command line to create that is understood, providers are called exactly as often as the last
option for them names them. So each is called at most once if and only if nobody is named twice, and then it
is asked for a virtual machine no more often than the name is on the command line. -/
theorem create_counts {registry : Registry (Provider σ)} {current : σ} {version : String}
    {known : Catalogue} (read : catalogue registry current version = .ok known) {line : List String}
    {verbose : Bool} {arguments : CreateArguments}
    (parsed : parse known line = .ok (verbose, .create arguments)) (state : σ) :
    ∃ tokens outcome after calls, Reads known line tokens arguments ∧
      (run registry (.create arguments)).on state = (outcome, after) ∧
      (run registry.watched (.create arguments)).on ⟨state, []⟩ = (outcome, ⟨after, calls⟩) ∧
      Counts registry tokens calls
        (((loading registry arguments.flags).on state).1 = .ok () ∧ ¬ Lapses tokens) := by
  -- A line that is understood ends in one of a few ways, in terms of the arguments that were read.
  obtain ⟨tokens, outcome, after, calls, reads, ran, watched, away, ends⟩ :=
    exists_end_of_parse read parsed state
  refine ⟨tokens, outcome, after, calls, reads, ran, watched, ?_⟩
  obtain ⟨names, providers, lifetime, _⟩ := reads.divides
  -- Without a call nobody is called, and nobody is asked for anything.
  have nobody {goes : Prop} (stops : ¬ goes) : Counts registry tokens [] goes :=
    ⟨fun _ => rfl, fun on => absurd on stops, fun on => absurd on stops,
      fun _ _ => (Nat.zero_mul _).symm⟩
  cases ends with
  -- Without the flags no call is made.
  | unloaded failed =>
    refine nobody fun ⟨loaded, _⟩ => ?_
    rw [failed] at loaded
    cases loaded
  -- Without a lifetime no call is made.
  | untimed loaded missing => exact nobody fun ⟨_, lasts⟩ => lasts (lifetime.mp missing)
  | @asked options made outcome loaded valid asked concludes =>
    -- Options are valid only with a lifetime, so the last option for it has one.
    obtain ⟨span, timed, rfl⟩ := options_eq_ok valid
    have lasts : ¬ Lapses tokens := fun lapses => by simp [lifetime.mpr lapses] at timed
    -- The ends are those of the providers that are to create, in another order.
    have times (options : CreateOptions) (provider : String) :
        creates (callsOf arguments.names options made) provider =
          (targeted registry (providersIn tokens)).count provider := by
      rw [creates_callsOf, asked.perm.count_eq, providers]
    refine ⟨fun stops => absurd ⟨loaded, lasts⟩ stops,
      fun _ provider => (times _ provider).trans (count_targeted ..), fun _ => ?_, fun provider name => ?_⟩
    · -- Nobody is called twice exactly when nobody is named twice, or nobody is named at all.
      simp only [times]
      rw [← List.nodup_iff_count_le_one]
      unfold targeted
      split
      · next nobody => simp [nobody, nodup_createTargets]
      · rfl
    · -- Each call asks for all names on the line, however often one of them is there.
      rw [requests_callsOf, names]

/-- Who is named once is called once, but is asked twice for a virtual machine whose name is there twice. -/
theorem create_counts_lab :
    ∃ known verbose arguments tokens calls,
      catalogue hostAndLab Compute.quietSite "unknown" = .ok known ∧
      parse known ["create", "web", "web", "--providers=lab"] = .ok (verbose, .create arguments) ∧
      Counts hostAndLab tokens calls
        (((loading hostAndLab arguments.flags).on Compute.quietSite).1 = .ok () ∧ ¬ Lapses tokens) ∧
      calls.map Call.provider = ["lab"] := by
  -- All of the attempt is carried out once, and the theorem applies to the line it read.
  obtain ⟨known, verbose, arguments, _, _, calls, read, parsed, _, _, ended, called⟩ :=
    leadsTo_of_attempt (show attempt hostAndLab Compute.quietSite
      ["create", "web", "web", "--providers=lab"] =
        some (some ["lab"], .ok (created ["web", "web"]), ["lab"]) by decide +kernel)
  obtain ⟨tokens, _, _, _, _, _, watched, counts⟩ := create_counts read parsed Compute.quietSite
  cases watched.symm.trans ended
  exact ⟨known, verbose, arguments, tokens, calls, read, parsed, counts, called⟩

/-- A provider that is named twice is called twice, and so it is asked twice for each virtual machine. -/
theorem create_repeats :
    LeadsTo hostAndLab Compute.quietSite ["create", "web", "--providers", "lab", "lab"]
      (some ["lab", "lab"]) (.ok (created ["web"])) ["lab", "lab"] :=
  leadsTo_of_attempt (by decide +kernel)

end Command

end Fleet
