import Fleet.Proofs.Compute.Batch

/-! The project over whole histories: it is looked up by the first errand that needs it and finds none, it is
kept once it is found, and from then on everything is done for it. -/

namespace Fleet

namespace Text

/-- Nothing is left of a text exactly when all of it is blank. -/
theorem trim_eq_empty_iff {text : String} : trim text = "" ↔ ∀ c ∈ text.toList, isBlank c = true := by
  rw [trim, trimChars, String.ofList_eq_empty_iff, List.reverse_eq_nil_iff, List.dropWhile_eq_nil_iff]
  simp only [List.mem_reverse]
  constructor
  · -- What comes before the rest is blank by itself.
    intro rest c member
    rw [← List.takeWhile_append_dropWhile (p := isBlank) (l := text.toList)] at member
    exact (List.mem_append.mp member).elim List.mem_takeWhile_imp (rest c)
  · -- If all of it is blank, no end of it is left.
    exact fun all c member => all c ((List.dropWhile_sublist _).subset member)

end Text

namespace Compute

/-- The words that ask the tool for the account. -/
abbrev accountQuestion : List String :=
  ["auth", "list", "--filter=status:ACTIVE", "--format=value(account)"]

end Compute

namespace Event

open Compute (Tool accountQuestion projectQuestion)

/-- What is done to the outside is done for a project: every request names it, and so does every command but
the one that asks for the account. -/
def IsFor (found : String) : Event → Prop
  | command words => words = Tool.name :: accountQuestion ∨ ∃ further ∈ [[], ["--remove"]],
      words = Tool.name :: ["compute", "config-ssh", "--project", found, "--quiet"] ++ further
  | clientBuilt | waited _ => True
  | listed project _ | inserted project _ _ | deleted project _ _ | fetched project _ _
  | relabelled project _ _ _ _ => project = found
  | asked _ _ | acted _ _ => False

/-- The tool is asked which project there is. -/
def question : Event := .command (Tool.name :: projectQuestion)

/-- Who asks for a project does nothing for one. -/
theorem IsFor.ne_question {found : String} {event : Event} (serves : event.IsFor found) :
    event ≠ question := by
  rintro rfl
  -- It asks for the account, or names a project that the question does not name.
  obtain same | ⟨further, _, same⟩ := serves
  · simp [accountQuestion, projectQuestion] at same
  · simp [projectQuestion] at same

end Event

namespace Compute

variable {α : Type} {found : String}

/-- The settings stay, and all that is done is done for the project. -/
def serving (found : String) : Frame Site where
  Kept before after := after.settings = before.settings ∧
    ∃ events, after.trace = before.trace ++ events ∧ ∀ event ∈ events, event.IsFor found
  refl site := ⟨rfl, [], (List.append_nil _).symm, List.forall_mem_nil _⟩
  trans := by
    rintro first second third ⟨settings, events, trace, serve⟩ ⟨further, more, onward, others⟩
    exact ⟨further.trans settings, events ++ more, by rw [onward, trace, List.append_assoc],
      List.forall_mem_append.mpr ⟨serve, others⟩⟩

/-- Acts are for the project when their events are. -/
theorem serving_of_acts {events : List Event} {before after : Site} (acts : Site.Acts events before after)
    (serve : ∀ event ∈ events, event.IsFor found) : (serving found).Kept before after :=
  ⟨acts.settings, events, acts.trace, serve⟩

/-- Calls are for the project when the events of each attempt are. -/
theorem serving_of_goes {call : Program Site α} {noted : List Event → Prop} {done : Site → α → Cloud → Prop}
    (goes : Client.Goes call noted done)
    (serve : ∀ events, noted events → ∀ event ∈ events, event.IsFor found) :
    (serving found).Around call := by
  intro site
  obtain ⟨events, middle, form, calls, ⟨fault, failed⟩ | ⟨answer, cloud, _, answered⟩⟩ := goes site
  · -- All attempts failed, and have events of the call alone.
    rw [failed]
    exact serving_of_acts calls.toActs (serve _ form)
  · -- What is done to the cloud in the end is no event, and no matter of settings.
    rw [answered]
    exact ⟨calls.settings, events, calls.trace, serve _ form⟩

/-- An attempt at a call is for the project when what it asks for is. -/
theorem Client.CallEvents.isFor {asked : Event} {events : List Event} (form : Client.CallEvents asked events)
    (serves : asked.IsFor found) : ∀ event ∈ events, event.IsFor found := by
  have built : Event.clientBuilt.IsFor found := trivial
  obtain rfl | rfl | rfl := form <;> simp only [List.forall_mem_cons, serves, built, true_and] <;>
    exact List.forall_mem_nil _

/-- An attempt to set a lifetime is for the project. -/
theorem Client.LifetimeEvents.isFor {zone name : String} {lifetime : Duration} {events : List Event}
    (form : Client.LifetimeEvents found zone name lifetime events) :
    ∀ event ∈ events, event.IsFor found := by
  -- The look-up and the new labels are asked for with the same project.
  obtain form | ⟨before, machine, form, rfl⟩ := form
  · exact form.isFor rfl
  · exact List.forall_mem_append.mpr ⟨form.isFor rfl, List.forall_mem_singleton.mpr rfl⟩

/-- To try again is to do no more than that. -/
theorem serving_persistently {call : Program Site α} (around : (serving found).Around call) :
    (serving found).Around (Client.persistently call) := by
  rw [Client.persistently_eq]
  exact around.retry (fun site => serving_of_acts (Site.note_calls (.waited 4) site).toActs
    (List.forall_mem_singleton.mpr trivial)) 1 2

/-- To run the tool is for the project when the command is. -/
theorem serving_runTool {arguments : List String}
    (serves : (Event.command (Tool.name :: arguments)).IsFor found) :
    (serving found).Around (runTool arguments) := by
  intro site
  -- The command is one event, and the answer makes no difference to it.
  obtain ⟨after, calls, same⟩ := on_runTool arguments site
  have kept := serving_of_acts calls.toActs (List.forall_mem_singleton.mpr serves)
  rw [same]
  cases site.tool.run arguments <;> exact kept

/-- A program looks the project up first. If it is not found nothing else is done, and otherwise all that
follows is done for it. -/
def Resolving (program : Program Site α) : Prop :=
  ∀ site, match project.on site with
    | (.error fault, after) => program.on site = (.error fault, after)
    | (.ok found, resolved) => (serving found).Kept resolved (program.on site).2

/-- What goes on with the project is to serve it. -/
theorem resolving_bind {work : String → Program Site α}
    (serves : ∀ found, (serving found).Around (work found)) : Resolving (project >>= work) := by
  intro site
  -- A project that is not found ends the program, and one that is found is handed on.
  rcases looked : project.on site with ⟨fault | found, resolved⟩
  · exact Program.on_bind_error looked _
  · rw [Program.on_bind_ok looked]
    exact serves found resolved

/-- Whether the answer is looked at or not makes no difference. -/
theorem Resolving.discard {program : Program Site α} (resolving : Resolving program) :
    Resolving (discard program) := by
  intro site
  have own := resolving site
  rw [Program.on_discard]
  -- Without a project the failure is the same, and with one the program serves it as before.
  rcases looked : project.on site with ⟨fault | found, resolved⟩ <;> rw [looked] at own
  · simp only [own]
    rfl
  · exact own

/-- What the provider can be asked to do, but for taking over options. -/
inductive Errand where
  | cleanSsh
  | configSsh
  | create (names : List String) (options : CreateOptions)
  | delete (roster : Roster)
  | extend (roster : Roster) (lifetime : Option Duration)
  | account
  | list

namespace Errand

/-- The call of the provider that asks it. -/
def ask : Errand → Program Site Unit
  | cleanSsh => provider.cleanSsh
  | configSsh => provider.configSsh
  | create names options => provider.create names options
  | delete roster => provider.delete roster
  | extend roster (some lifetime) => provider.extend roster lifetime
  | extend roster none => provider.extendToNothing roster
  | account => discard provider.account
  | list => discard provider.list

/-- Whether it takes a project: to ask for the account and to create nothing does not. -/
def needsProject : Errand → Bool
  | account => false
  | create names _ => !names.isEmpty
  | cleanSsh | configSsh | delete _ | extend _ _ | list => true

end Errand

/-- The secure shell is set up for the project. -/
theorem resolving_syncSsh {further : List String} (known : further ∈ [[], ["--remove"]]) :
    Resolving (syncSsh further) :=
  resolving_bind fun _ => (serving_runTool (.inr ⟨further, known, rfl⟩)).discard

/-- Instances of the project are listed. -/
theorem resolving_list : Resolving list :=
  resolving_bind fun found =>
    (serving_persistently (serving_of_goes (Client.list_goes found) fun _ form => form.isFor rfl)).bind
      fun _ => Frame.around_ofExcept _

/-- What is done with instances in turn is done for the project when each of them is. -/
theorem resolving_forM {call : String → Vm → Program Site Unit} (vms : Roster)
    (serves : ∀ found vm, (serving found).Around (call found vm)) :
    Resolving (do
      let found ← project
      vms.forM fun vm => Client.persistently (call found vm)) :=
  resolving_bind fun found => Frame.Around.forM fun vm _ => serving_persistently (serves found vm)

/-- Instances are asked for in the project. -/
theorem resolving_create {names : List String} (some : names.isEmpty = false) (options : CreateOptions) :
    Resolving (create names options) := by
  simp only [create, some, Bool.false_eq_true, if_false]
  refine resolving_bind fun found => .reading fun site => ?_
  refine (Frame.around_ofExcept _).bind fun {_ tasks _} _ => ?_
  -- The tasks come first, and what is told of them comes after.
  refine (Frame.around_lift (Frame.mapM_keeps fun task _ start => ?_)).bind fun {_ ended _} _ => ?_
  · -- A task is a call that may be tried again.
    obtain ⟨name, zone, request⟩ := task
    rw [run_settleInsert]
    exact serving_persistently (serving_of_goes (Client.insert_goes found zone request)
      fun _ form => form.isFor rfl) start
  · -- What is told of failures is no event.
    refine Frame.Around.bind (fun start => ?_) fun _ => Frame.around_ofExcept _
    obtain ⟨after, calls, same⟩ := on_tellFailures ended start
    rw [same]
    exact serving_of_acts calls.toActs (List.forall_mem_nil _)

/-- An errand that takes a project looks it up first and serves it. -/
theorem resolving_ask {errand : Errand} (needs : errand.needsProject = true) : Resolving errand.ask := by
  cases errand with
  -- Errands are told apart here, as each asks in its own way.
  | cleanSsh => exact resolving_syncSsh (by simp)
  | configSsh => exact resolving_syncSsh (by simp)
  | create names options => exact resolving_create (by simpa [Errand.needsProject] using needs) options
  | delete roster =>
    exact resolving_forM roster fun found vm =>
      serving_of_goes (Client.delete_goes found vm.zone vm.name) fun _ form => form.isFor rfl
  | extend roster lifetime =>
    cases lifetime with
    | some lifetime =>
      exact resolving_forM roster fun found vm =>
        serving_of_goes (Client.setLifetime_goes found vm.zone vm.name lifetime) fun _ form => form.isFor
    | none =>
      -- The instance is looked up, and only then there is no lifetime to write.
      refine resolving_forM roster fun found vm => ?_
      have fetched := serving_of_goes (Client.fetch_goes found vm.zone vm.name) fun _ form => form.isFor rfl
      exact fetched.discard.bind fun _ site => (serving found).refl site
  | account => cases needs
  | list => exact resolving_list.discard

/-- An errand that takes no project asks for the account at most, and leaves the settings alone. -/
theorem idle_ask {errand : Errand} (idle : errand.needsProject = false) (site : Site) :
    (errand.ask.on site).2.settings = site.settings ∧ ∃ events,
      (errand.ask.on site).2.trace = site.trace ++ events ∧
      ∀ event ∈ events, event = .command (Tool.name :: accountQuestion) := by
  cases errand with
  | account =>
    -- Whether the tool answers or fails, it was asked once.
    obtain ⟨after, calls, same⟩ := on_runTool accountQuestion site
    have left : ((discard account).on site).2 = after := by
      rw [Program.on_discard, account, Program.on_bind, same]
      cases site.tool.run accountQuestion <;> rfl
    change ((discard account).on site).2.settings = _ ∧ ∃ events,
      ((discard account).on site).2.trace = _ ∧ _
    rw [left]
    exact ⟨calls.settings, _, calls.trace, List.forall_mem_singleton.mpr rfl⟩
  | create names options =>
    -- There is nothing to create.
    obtain rfl : names = [] := by simpa [Errand.needsProject] using idle
    exact ⟨rfl, [], (List.append_nil _).symm, List.forall_mem_nil _⟩
  | _ => cases idle

/-- The project that the provider has in its settings, if it has one. -/
def projectIn (settings : OrderedMap String Settings) : Option String :=
  (settings.get? providerName).bind fun own => own.project.text?

/-- What becomes of an errand at a site, which finds the settings as they were left before. All else may be
different from errand to errand. -/
def pursue (settings : OrderedMap String Settings) (call : Site × Errand) : Except Fault Unit × Site :=
  call.2.ask.on { call.1 with settings := settings }

/-- The settings after errands one after the other, whatever becomes of each of them. -/
def pursueAll (settings : OrderedMap String Settings) (calls : List (Site × Errand)) :
    OrderedMap String Settings :=
  calls.foldl (fun settings call => (pursue settings call).2.settings) settings

/-- An errand is for the project that is known: the settings stay, everything is done for it, and the tool is
not asked which one it is. -/
structure Serves (found : String) (settings : OrderedMap String Settings) (call : Site × Errand) :
    Prop where
  kept : (pursue settings call).2.settings = settings
  events : ∃ events, (pursue settings call).2.trace = call.1.trace ++ events ∧
    ∀ event ∈ events, event.IsFor found ∧ event ≠ .question

/-- An errand that needs the project when none is known asks the tool for it, once and before all else. -/
inductive Asks (settings : OrderedMap String Settings) (call : Site × Errand) : Prop where
  /-- The tool fails, and so does the errand, with nothing else done. -/
  | failed {problem : Problem} {after : Site} (told : call.1.tool.run projectQuestion = .error problem)
      (ran : pursue settings call = (.error (.problem problem), after))
      (trace : after.trace = call.1.trace ++ [.question]) (kept : after.settings = settings)
  /-- The tool prints nothing but blanks. Then the errand fails, too, with nothing else done, and there still
  is no project. -/
  | blank {output : String} {after : Site} (told : call.1.tool.run projectQuestion = .ok output)
      (nothing : ∀ c ∈ output.toList, Text.isBlank c = true)
      (ran : pursue settings call = (.error projectMissing, after))
      (trace : after.trace = call.1.trace ++ [.question])
      (kept : after.settings = settings.modify providerName fun own => { own with project := .text "" })
      (unset : projectIn after.settings = none)
  /-- The tool names a project. It is kept, and all else is done for it. -/
  | found {output : String} {events : List Event} (told : call.1.tool.run projectQuestion = .ok output)
      (something : ∃ c ∈ output.toList, Text.isBlank c = false)
      (trace : (pursue settings call).2.trace = call.1.trace ++ .question :: events)
      (serve : ∀ event ∈ events, event.IsFor (Text.trim output) ∧ event ≠ .question)
      (kept : (pursue settings call).2.settings =
        settings.modify providerName fun own => { own with project := .text (Text.trim output) })
      (set : projectIn (pursue settings call).2.settings = some (Text.trim output))

/-- An errand that needs no project asks for none: the settings stay, and the tool is asked for the account
at most. -/
structure Idles (settings : OrderedMap String Settings) (call : Site × Errand) : Prop where
  kept : (pursue settings call).2.settings = settings
  events : ∃ events, (pursue settings call).2.trace = call.1.trace ++ events ∧
    ∀ event ∈ events, event = .command (Tool.name :: accountQuestion)

/-- The project that settings have is the one that is found. -/
theorem text?_settingsAt (site : Site) : (settingsAt site).project.text? = projectIn site.settings := by
  rw [settingsAt, projectIn]
  cases site.settings.get? providerName <;> rfl

/-- A project that is kept is had, unless it is empty. -/
theorem projectIn_modify {settings : OrderedMap String Settings} {own : Settings}
    (held : settings.get? providerName = some own) (text : String) :
    projectIn (settings.modify providerName fun own => { own with project := .text text }) =
      if text.isEmpty then none else some text := by
  rw [projectIn, OrderedMap.get?_modify, if_pos rfl, held]
  rfl

/-- Where everything is done for the project nobody asks for it. -/
theorem isFor_and_ne_question {events : List Event} (serve : ∀ event ∈ events, event.IsFor found) :
    ∀ event ∈ events, event.IsFor found ∧ event ≠ .question :=
  fun event member => ⟨serve event member, (serve event member).ne_question⟩

/-- Once the project is known every errand is for it. -/
theorem serves_of_projectIn {settings : OrderedMap String Settings} (known : projectIn settings = some found)
    (call : Site × Errand) : Serves found settings call := by
  obtain ⟨site, errand⟩ := call
  cases needs : errand.needsProject with
  | true =>
    -- The settings have the project, so nobody is asked for it.
    have own := resolving_ask needs { site with settings := settings }
    rw [on_project_some ((text?_settingsAt _).trans known)] at own
    obtain ⟨kept, events, trace, serve⟩ := own
    exact ⟨kept, events, trace, isFor_and_ne_question serve⟩
  -- An errand that needs no project asks for none.
  | false =>
    obtain ⟨kept, events, trace, asks⟩ := idle_ask needs { site with settings := settings }
    refine ⟨kept, events, trace, isFor_and_ne_question fun event member => ?_⟩
    rw [asks event member]
    exact .inl rfl

/-- As long as there is none an errand that needs it asks for it. -/
theorem asks_of_projectIn {settings : OrderedMap String Settings} (unknown : projectIn settings = none)
    {own : Settings} (held : settings.get? providerName = some own) {call : Site × Errand}
    (needs : call.2.needsProject = true) : Asks settings call := by
  obtain ⟨site, errand⟩ := call
  have resolving := resolving_ask needs { site with settings := settings }
  -- Without it in the settings the tool is asked, and its answer decides.
  obtain ⟨middle, calls, looked⟩ :=
    on_project_none ((text?_settingsAt { site with settings := settings }).trans unknown)
  rw [looked] at resolving
  cases told : site.tool.run projectQuestion with
  | error problem =>
    -- Nothing is kept of a failure.
    simp only [told] at resolving
    exact .failed told resolving calls.trace calls.settings
  | ok output =>
    have stored : middle.settings = settings := calls.settings
    simp only [told, stored] at resolving
    by_cases blank : Text.trim output = ""
    · -- What is kept is as good as nothing.
      rw [blank] at resolving
      exact .blank told (Text.trim_eq_empty_iff.mp blank) resolving calls.trace rfl
        (projectIn_modify held "")
    · have named : (Text.trim output).isEmpty = false := by simpa using blank
      -- What is kept is what everything else was done for.
      have set := projectIn_modify held (Text.trim output)
      simp only [named, Bool.false_eq_true, if_false] at resolving set
      obtain ⟨kept, events, trace, serve⟩ := resolving
      refine .found told ?_ (trace.trans ?_) (isFor_and_ne_question serve) kept
        ((congrArg projectIn kept).trans set)
      · simpa [Text.trim_eq_empty_iff] using blank
      · rw [calls.trace, List.append_assoc]
        rfl

/-- An errand that needs no project leaves it at that. -/
theorem idles (settings : OrderedMap String Settings) {call : Site × Errand}
    (idle : call.2.needsProject = false) : Idles settings call := by
  obtain ⟨kept, events⟩ := idle_ask idle { call.1 with settings := settings }
  exact ⟨kept, events⟩

/-- An errand leaves the provider its settings. -/
theorem exists_pursue {settings : OrderedMap String Settings} {own : Settings}
    (held : settings.get? providerName = some own) (call : Site × Errand) :
    ∃ next, (pursue settings call).2.settings.get? providerName = some next := by
  -- What becomes of the settings depends on whether the project is known and needed.
  cases known : projectIn settings with
  | some found => exact ⟨own, by rw [(serves_of_projectIn known call).kept, held]⟩
  | none =>
    cases needs : call.2.needsProject with
    | false => exact ⟨own, by rw [(idles settings needs).kept, held]⟩
    | true =>
      -- To change the settings of the provider is not to take them away.
      have changed (change : Settings → Settings) :
          (settings.modify providerName change).get? providerName = some (change own) := by
        rw [OrderedMap.get?_modify, if_pos rfl, held, Option.map_some]
      cases asks_of_projectIn known held needs with
      | failed _ ran _ kept => exact ⟨own, by rw [ran, kept, held]⟩
      | blank _ _ ran _ kept => exact ⟨_, by rw [ran, kept, changed]⟩
      | found _ _ _ _ kept => exact ⟨_, by rw [kept, changed]⟩

/-- However many errands there were, the provider has its settings. -/
theorem exists_pursueAll {settings : OrderedMap String Settings} {own : Settings}
    (held : settings.get? providerName = some own) (calls : List (Site × Errand)) :
    ∃ next, (pursueAll settings calls).get? providerName = some next := by
  -- The induction is on the calls, with the settings that each of them leaves.
  induction calls generalizing settings own with
  | nil => exact ⟨own, held⟩
  | cons call later ih =>
    obtain ⟨next, kept⟩ := exists_pursue held call
    exact ih kept

/-- Once the project is known no errands change the settings. -/
theorem pursueAll_of_projectIn {settings : OrderedMap String Settings}
    (known : projectIn settings = some found) (calls : List (Site × Errand)) :
    pursueAll settings calls = settings := by
  -- The first errand changes nothing, so the next one finds the project known, too.
  induction calls with
  | nil => rfl
  | cons call later ih =>
    rw [pursueAll, List.foldl_cons, (serves_of_projectIn known call).kept]
    exact ih

/-- At any time in a history: once the project is known it stays as it is, and whatever is done later is done
for it. Until then each errand that needs it asks for it once, and goes on with what it finds. -/
structure ResolvesOnce (settings : OrderedMap String Settings) : Prop where
  known : ∀ found, projectIn settings = some found → ∀ later call,
    pursueAll settings later = settings ∧ Serves found (pursueAll settings later) call
  unknown : projectIn settings = none → ∀ call : Site × Errand, call.2.needsProject = true →
    Asks settings call
  idle : projectIn settings = none → ∀ call : Site × Errand, call.2.needsProject = false →
    Idles settings call

/-- Whatever settings the provider was opened with, and whatever was asked of it since and became of that: it
looks its project up once, and uses it everywhere. -/
theorem project_resolved_once (others : OrderedMap String Settings) (flags : Settings)
    (earlier : List (Site × Errand)) :
    ResolvesOnce (pursueAll (others.insert providerName flags) earlier) := by
  have opened : (others.insert providerName flags).get? providerName = some flags := by
    rw [OrderedMap.get?_insert, if_pos rfl]
  obtain ⟨own, held⟩ := exists_pursueAll opened earlier
  refine ⟨fun found known later call => ?_, fun unknown call => asks_of_projectIn unknown held,
    fun _ call => idles _⟩
  -- However much later it is, the settings are those of now.
  have same := pursueAll_of_projectIn known later
  exact ⟨same, serves_of_projectIn (same.symm ▸ known) call⟩

/-- The tool fails, prints a line break, names a project, and then would name another one. -/
example : (List.range 5).map (fun count => projectIn (pursueAll
      (.insert .empty providerName { project := .nothing })
      ([{ failures := [("config", some 1)] }, { project := "\n" }, { project := "lab\n" },
        { project := "den\n" }].map (fun tool : Tool => ({ quietSite with tool := tool }, Errand.list))
        |>.take count))) = [none, none, none, some "lab", some "lab"] := by
  decide +kernel

end Compute

end Fleet
