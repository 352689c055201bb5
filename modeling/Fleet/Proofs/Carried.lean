import Fleet.Proofs.Frame
import Fleet.Proofs.Routing

/-! Orders carried out: what is kept by all that an order has done is kept by the order, and when it
answered, each provider listed and then did its part on the way. -/

namespace Fleet

open Program

variable {σ : Type} [Host σ] {registry : Registry (Provider σ)}

namespace Command

/-- What is chosen by names are all virtual machines that have one of them. -/
theorem eq_of_chosen {names : List String} {all roster : Roster}
    (reached : chosen names all = .ok roster) : roster = all.filter fun vm => names.contains vm.name := by
  -- A name that is missing would have been told.
  dsimp only [chosen] at reached
  split at reached
  · exact (Except.ok.inj reached).symm
  · cases reached

/-- What was selected by names are all virtual machines of theirs among all that there are. -/
theorem exists_of_select {names : List String} {state after : σ} {roster : Roster}
    (selected : (select registry names).on state = (.ok roster, after)) :
    ∃ all, (listAll registry).on state = (.ok all, after) ∧
      roster = all.filter fun vm => names.contains vm.name := by
  -- Selecting is listing and then choosing, and choosing keeps what stands under one of the names.
  rw [select_eq] at selected
  obtain ⟨all, middle, listed, chose⟩ := Program.bind_ok selected
  obtain ⟨reached, rfl⟩ := Prod.mk.inj chose
  exact ⟨all, listed, eq_of_chosen reached⟩

/-- What is selected by names has the names. -/
theorem named_of_select {names : List String} {state after : σ} {roster : Roster}
    (selected : (select registry names).on state = (.ok roster, after)) :
    ∀ vm ∈ roster, vm.name ∈ names := by
  obtain ⟨all, _, rfl⟩ := exists_of_select selected
  intro vm member
  simpa using (List.mem_filter.mp member).2

section Listing

variable {frame : Frame σ} (told : ∀ severity text state, frame.Kept state (Host.tell severity text state))
  (lists : ∀ name provider, registry.get name = .ok provider → frame.Around provider.list)

include told lists

/-- Listing all keeps what each provider keeps when it lists. -/
theorem around_listAll : frame.Around (listAll registry) := by
  refine Frame.Around.reading fun state => Frame.Around.bind ?_ fun _ => frame.refl
  exact Frame.around_parallel told _ fun _ _ => lists _

/-- Selecting keeps what each provider keeps when it lists. -/
theorem around_select (names : List String) : frame.Around (select registry names) := by
  rw [select_eq]
  exact (around_listAll told lists).bind fun _ => Frame.around_ofExcept _

/-- Among all that there are is what each provider listed on the way. -/
theorem exists_listing {state after : σ} {all : Roster}
    (listed : (listAll registry).on state = (.ok all, after)) {name : String} {provider : Provider σ}
    (found : registry.get name = .ok provider) :
    ∃ before next roster, frame.Kept state before ∧ provider.list.on before = (.ok roster, next) ∧
      ∀ vm ∈ roster, vm ∈ all := by
  -- The schedule was read, the providers were listed by it, and what they listed was sorted.
  obtain ⟨current, start, read, listed⟩ := Program.bind_ok listed
  cases read
  obtain ⟨rosters, last, ran, sorted⟩ := Program.bind_ok listed
  cases sorted
  obtain ⟨before, next, roster, kept, answered, _, given⟩ :=
    Frame.parallel_answered told (fun _ _ => lists _) ran (Registry.mem_names_of_get found) found
  refine ⟨before, next, roster, kept, answered, fun vm member => ?_⟩
  exact (Roster.mem_sortByName _ vm).mpr (List.mem_flatten.mpr ⟨roster, given, member⟩)

/-- Among what was selected is whatever each provider listed under one of the names on the way. -/
theorem exists_listing_of_select {names : List String} {state after : σ} {selected : Roster}
    (selecting : (select registry names).on state = (.ok selected, after)) {name : String}
    {provider : Provider σ} (found : registry.get name = .ok provider) :
    ∃ before next roster, frame.Kept state before ∧ provider.list.on before = (.ok roster, next) ∧
      ∀ vm ∈ roster, vm.name ∈ names → vm ∈ selected := by
  -- All that is listed on the way is among all there is, and choosing by name lets it through.
  obtain ⟨all, listed, rfl⟩ := exists_of_select selecting
  obtain ⟨before, next, roster, kept, answered, among⟩ := exists_listing told lists listed found
  refine ⟨before, next, roster, kept, answered, fun vm member asked => ?_⟩
  exact List.mem_filter.mpr ⟨among vm member, by simpa using asked⟩

end Listing

end Command

namespace Order

variable (order : Order) {names : List String}

/-- On the way from one state to another the provider carried out the order for a virtual machine
along with others of the names. -/
def Carried (frame : Frame σ) (order : Order) (provider : Provider σ) (names : List String) (vm : Vm)
    (state after : σ) : Prop :=
  ∃ before next share, vm ∈ share ∧ (∀ other ∈ share, other.name ∈ names) ∧ frame.Kept state before ∧
    (order.action provider share).on before = (.ok (), next) ∧ frame.Kept next after

/-- When an order answered, virtual machines were selected, it was carried to their owners, and what
was shown is its conclusion. -/
theorem exists_selection {state after : σ} {report : Report}
    (ran : (Command.run registry (order.command names)).on state = (.ok report, after)) :
    ∃ selected middle answers, (Command.select registry names).on state = (.ok selected, middle) ∧
      (Dispatch.fanOut (Host.schedule middle) registry selected (some order.operation) order.action).on
        middle = (.ok answers, after) ∧
      order.conclusion selected = .ok report := by
  rw [Command.run_command] at ran
  -- What answers as a whole answered part by part.
  obtain ⟨selected, middle, selecting, ran⟩ := Program.bind_ok ran
  obtain ⟨current, start, read, ran⟩ := Program.bind_ok ran
  -- Looking at the schedule leaves the state, so orders are carried out where the selection ended.
  cases read
  obtain ⟨⟨⟩, carried, discarded, concluded⟩ := Program.bind_ok ran
  obtain ⟨shown, rfl⟩ := Prod.mk.inj concluded
  obtain ⟨answers, last, fanned, done⟩ := Program.bind_ok discarded
  cases done
  exact ⟨selected, middle, answers, selecting, fanned, shown⟩

section Giving

variable (frame : Frame σ) (told : ∀ severity text state, frame.Kept state (Host.tell severity text state))
  (lists : ∀ name provider, registry.get name = .ok provider → frame.Around provider.list)
  (acts : ∀ name provider, registry.get name = .ok provider → ∀ share : Roster,
    (∀ vm ∈ share, vm.name ∈ names) → frame.Around (order.action provider share))

include told lists acts

/-- Giving an order keeps what each provider keeps when it lists and when it carries out the order,
however far that goes. -/
theorem around_run : frame.Around (Command.run registry (order.command names)) := by
  rw [Command.run_command]
  -- What is carried to the owners was selected by the names.
  refine (Command.around_select told lists names).bind fun {_ roster _} selected =>
    Frame.Around.reading fun state => ?_
  refine Frame.Around.bind (Frame.Around.discard ?_) fun _ => Frame.around_ofExcept _
  refine Frame.around_fanOut told ?_ _
  exact fun owner _ provider found => acts owner provider found _
    fun vm member => Command.named_of_select selected vm (List.mem_filter.mp member).1

/-- When an order answered, each provider listed its virtual machines, perhaps while even more was
kept than by the whole order, and carried it out for whatever it had listed as its own under one of
the names. -/
theorem exists_carried (quiet : Frame σ)
    (toldQuietly : ∀ severity text state, quiet.Kept state (Host.tell severity text state))
    (listsQuietly : ∀ name provider, registry.get name = .ok provider → quiet.Around provider.list)
    {state after : σ} {report : Report}
    (ran : (Command.run registry (order.command names)).on state = (.ok report, after)) {name : String}
    {provider : Provider σ} (found : registry.get name = .ok provider) :
    ∃ first last roster, quiet.Kept state first ∧ provider.list.on first = (.ok roster, last) ∧
      ∀ vm ∈ roster, vm.provider = name → vm.name ∈ names →
        order.Carried frame provider names vm state after := by
  -- Both parts answered: the virtual machines were selected, and then carried to their owners.
  obtain ⟨selected, middle, answers, selecting, fanned, _⟩ := exists_selection order ran
  have named := Command.named_of_select selecting
  -- Selecting kept what listing keeps, and the calls that carried the order keep it from then on.
  have kept := (Command.around_select told lists names).kept selecting
  obtain ⟨first, last, roster, still, answered, among⟩ :=
    Command.exists_listing_of_select toldQuietly listsQuietly selecting found
  refine ⟨first, last, roster, still, answered, fun vm member own asked => ?_⟩
  -- The virtual machine was selected, so the provider is one of the owners and has it in its share.
  have chosen := among vm member asked
  obtain ⟨before, next, _, earlier, acted, onward, _⟩ := Frame.fanOut_answered told
    (fun owner _ provider found => acts owner provider found _
      fun vm member => named vm (List.mem_filter.mp member).1)
    fanned ((Roster.mem_owners _ _).mpr ⟨vm, chosen, own⟩) found
  exact ⟨before, next, _, List.mem_filter.mpr ⟨chosen, by simp [own]⟩,
    fun other member => named other (List.mem_filter.mp member).1, frame.trans kept earlier, acted, onward⟩

end Giving

end Order

end Fleet
