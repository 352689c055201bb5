import Fleet.Command
import Fleet.Proofs.Dispatch

/-! Routing of orders: what deletes or extends virtual machines by their names lists every provider once,
and then carries to each owner exactly the virtual machines that were asked for, or nothing to anyone. -/

namespace Fleet

open Program

variable {σ : Type}

/-- What is ordered for the virtual machines of some names. The lifetime that they are to have is missing
when none was given. -/
inductive Order where
  | delete
  | extend (lifetime : Option Duration)

namespace Order

/-- The command that gives the order for some names. -/
def command : Order → List String → Command
  | delete, names => .destroy names
  | extend lifetime, names => .extend names lifetime

/-- The name of the operation that the order is carried out by. -/
def operation : Order → String
  | delete => "delete"
  | extend _ => "extend"

/-- What a provider does to carry out the order. -/
def action : Order → Provider σ → Roster → Program σ Unit
  | delete => Provider.delete
  | extend lifetime => fun provider group => match lifetime with
    | some lifetime => provider.extend group lifetime
    | none => provider.extendToNothing group

/-- The call that carries the order to a provider. -/
def call : Order → String → Roster → Except Fault Unit → Call
  | delete, provider, roster, outcome => .delete provider roster outcome
  | extend lifetime, provider, roster, outcome => .extend provider roster lifetime outcome

/-- What is shown when the order has been carried out. -/
def conclusion : Order → Roster → Except Fault Report
  | delete, roster => .ok (Command.success s!"Deleted {roster.length} VMs.")
  | extend (some lifetime), roster =>
    .ok (Command.success s!"Extended {roster.length} VMs to {lifetime.text}.")
  | extend none, _ => .error (.problem .noLifetime)

end Order

namespace Command

/-- The virtual machines of some names among all there are, unless a name is that of none. -/
def chosen (names : List String) (all : Roster) : Except Fault Roster :=
  let selected := all.filter fun vm => names.contains vm.name
  match missingNames names selected with
  | [] => .ok selected
  | missing => .error (.general ("VMs not found: " ++ ", ".intercalate missing) none none)

/-- Selecting lists all virtual machines and chooses among them. -/
theorem select_eq [Host σ] (registry : Registry (Provider σ)) (names : List String) :
    select registry names = (do
      let all ← listAll registry
      Program.ofExcept (chosen names all)) := by
  -- Both refuse for the same missing names.
  unfold select chosen
  congr 1
  funext all
  dsimp only
  cases missingNames names (all.filter fun vm => names.contains vm.name) <;> rfl

/-- Giving an order selects virtual machines, carries the order to their owners and shows the end. -/
theorem run_command [Host σ] (registry : Registry (Provider σ)) (order : Order)
    (names : List String) :
    run registry (order.command names) = (do
      let roster ← select registry names
      discard <| Dispatch.fanOut (Host.schedule (← get)) registry roster (some order.operation)
        order.action
      Program.ofExcept (order.conclusion roster)) := by
  cases order with
  | delete => rfl
  | extend lifetime => cases lifetime <;> rfl

/-- What becomes of listing all virtual machines when the providers' lists have these outcomes, in the
order in which they came. -/
def gathered (listed : List (String × Except Fault Roster)) : Except Fault Roster :=
  (listed.mapM fun entry : String × Except Fault Roster =>
    entry.2.mapError (Fault.inProvider entry.1 (some "list"))).map
    fun rosters => Roster.sortByName rosters.flatten

/-- The outcome is what the provider of the name lists at some state. -/
def Lists (registry : Registry (Provider σ)) (name : String) (outcome : Except Fault Roster) : Prop :=
  ∃ provider state, registry.get name = .ok provider ∧ (provider.list.on state).1 = outcome

/-- Listing all providers under a schedule lists each of them once, in the order of the schedule, and gathers
what they list. -/
theorem gathering_watches [Host σ] (registry : Registry (Provider σ)) (schedule : Schedule) :
    Watches
      (do
        let rosters ← Dispatch.parallel schedule registry.watched registry.names (some "list")
          Provider.list
        return Roster.sortByName rosters.flatten)
      (do
        let rosters ← Dispatch.parallel schedule registry registry.names (some "list") Provider.list
        return Roster.sortByName rosters.flatten) fun outcome calls =>
      ∃ listed : List (String × Except Fault Roster),
        listed.map Prod.fst = schedule.arrange id registry.names ∧
        (∀ entry ∈ listed, Lists registry entry.1 entry.2) ∧
        calls = listed.map (fun entry => Call.list entry.1 entry.2) ∧ outcome = gathered listed := by
  -- Each list is noted, and the lists are gathered once all of them have come.
  -- A provider is registered under the name that its call is noted with.
  have noted (name : String) (provider : Provider σ) (found : registry.get name = .ok provider) :
      Watches (Provider.list (provider.watched name)) (Provider.list provider)
        fun outcome calls => calls = [Call.list name outcome] ∧ Lists registry name outcome :=
    (Watches.noted_reached provider.list (Call.list name)).weaken
      fun _ _ ⟨called, state, same⟩ => ⟨called, provider, state, found, same⟩
  have listing := Dispatch.parallel_watches schedule Call.list registry.get_watched noted (some "list")
    fun name (known : name ∈ registry.names) => Registry.get_of_mem_names known
  refine (listing.bind fun rosters => Watches.pure (Roster.sortByName rosters.flatten)).weaken ?_
  rintro outcome calls (⟨fault, ⟨listed, names, own, rfl, same⟩, rfl⟩ |
    ⟨rosters, before, after, ⟨listed, names, own, rfl, same⟩, ⟨rfl, rfl⟩, rfl⟩)
  · -- Some list failed, and of the failures the first to come is that of all.
    exact ⟨listed, names, own, rfl, by rw [gathered, ← same]; rfl⟩
  · -- All lists came, and they are put together and sorted.
    exact ⟨listed, names, own, by simp, by rw [gathered, ← same]; rfl⟩

/-- Listing all virtual machines lists every provider once and gathers what they list. -/
theorem listAll_watches [Host σ] (registry : Registry (Provider σ)) :
    Watches (listAll registry.watched) (listAll registry) fun outcome calls =>
      ∃ listed : List (String × Except Fault Roster),
        (listed.map Prod.fst).Perm registry.names ∧
        calls = listed.map (fun entry => Call.list entry.1 entry.2) ∧ outcome = gathered listed := by
  -- Under every schedule the names are only put into another order.
  unfold listAll
  rw [registry.names_watched]
  refine (Watches.scheduled (gathering_watches registry)).weaken ?_
  rintro outcome calls ⟨schedule, listed, names, _, made, same⟩
  exact ⟨listed, names ▸ schedule.arrange_perm id _, made, same⟩

/-- Selecting lists every provider once, and gathers and chooses among what they list. -/
theorem select_watches [Host σ] (registry : Registry (Provider σ)) (names : List String) :
    Watches (select registry.watched names) (select registry names) fun outcome calls =>
      ∃ listed : List (String × Except Fault Roster),
        (listed.map Prod.fst).Perm registry.names ∧
        calls = listed.map (fun entry => Call.list entry.1 entry.2) ∧
        outcome = (gathered listed).bind (chosen names) := by
  -- Selecting is listing, which makes the calls, and then choosing, which makes none.
  rw [select_eq, select_eq]
  refine ((listAll_watches registry).bind fun all => Watches.ofExcept (chosen names all)).weaken ?_
  rintro outcome calls (⟨fault, ⟨listed, perm, rfl, same⟩, rfl⟩ |
    ⟨all, before, after, ⟨listed, perm, rfl, same⟩, ⟨rfl, rfl⟩, rfl⟩)
  · -- A list failed, so there was nothing to choose from.
    exact ⟨listed, perm, rfl, by rw [← same]; rfl⟩
  · -- All lists came, and choosing among them decided.
    exact ⟨listed, perm, by simp, by rw [← same]; rfl⟩

/-- A name is missing exactly when it was asked for and no virtual machine has it. -/
theorem mem_missingNames (names : List String) (roster : Roster) (name : String) :
    name ∈ missingNames names roster ↔ name ∈ names ∧ ∀ vm ∈ roster, vm.name ≠ name := by
  simp [missingNames, Roster.names]

/-- Missing names stand in order, each once. -/
theorem missingNames_ascending (names : List String) (roster : Roster) :
    (missingNames names roster).Pairwise (· < ·) :=
  Names.sorted_ascending ((Names.nodup_eraseDups names).filter _)

/-- When every name is that of a virtual machine, those of the names are chosen. -/
theorem chosen_eq_ok {names : List String} {all : Roster}
    (found : ∀ name ∈ names, ∃ vm ∈ all, vm.name = name) :
    chosen names all = .ok (all.filter fun vm => names.contains vm.name) := by
  -- A missing name would be that of a virtual machine which was chosen.
  have missing : missingNames names (all.filter fun vm => names.contains vm.name) = [] := by
    refine List.eq_nil_iff_forall_not_mem.mpr fun name member => ?_
    obtain ⟨asked, absent⟩ := (mem_missingNames _ _ _).mp member
    obtain ⟨vm, present, rfl⟩ := found name asked
    exact absent vm (by simpa [present] using asked) rfl
  simp only [chosen, missing]

/-- When some name is that of no virtual machine, nothing is chosen, and exactly the names that are
missing are told, in order and each once. -/
theorem chosen_eq_error {names : List String} {all : Roster}
    (absent : ∃ name ∈ names, ∀ vm ∈ all, vm.name ≠ name) :
    ∃ missing : List String, missing.Pairwise (· < ·) ∧
      (∀ name, name ∈ missing ↔ name ∈ names ∧ ∀ vm ∈ all, vm.name ≠ name) ∧
      chosen names all =
        .error (.general ("VMs not found: " ++ ", ".intercalate missing) none none) := by
  -- What is told to be missing is what was asked for and is not there.
  have told (name : String) : name ∈ missingNames names (all.filter fun vm => names.contains vm.name) ↔
      name ∈ names ∧ ∀ vm ∈ all, vm.name ≠ name := by
    rw [mem_missingNames]
    -- What was not chosen has none of the names anyway.
    refine and_congr_right fun asked => ⟨fun none vm present same => ?_, fun none vm present => ?_⟩
    · exact none vm (by simpa [present, same] using asked) same
    · exact none vm (List.mem_filter.mp present).1
  refine ⟨_, missingNames_ascending _ _, told, ?_⟩
  obtain ⟨name, missing⟩ := absent
  dsimp only [chosen]
  split
  · -- A name is missing, so the list of those missing is not empty.
    next empty =>
    rw [← told, empty] at missing
    cases missing
  · rfl

/-- When every listing returned, what was listed is gathered in order of names. -/
theorem gathered_eq_ok {listed : List (String × Except Fault Roster)} {rosters : List Roster}
    (returned : listed.map Prod.snd = rosters.map .ok) :
    gathered listed = .ok (Roster.sortByName rosters.flatten) := by
  -- Answers are not replaced, so they stand in the order in which they came.
  have answers : (listed.mapM fun entry : String × Except Fault Roster =>
      entry.2.mapError (Fault.inProvider entry.1 (some "list"))) = .ok rosters := by
    -- Each outcome is the answer that stands in its place.
    rw [mapM_eq_ok_iff]
    induction listed generalizing rosters with
    | nil => cases rosters <;> simp_all
    | cons entry rest ih =>
      cases rosters with
      | nil => simp at returned
      | cons roster others =>
        simp only [List.map_cons, List.cons.injEq] at returned
        exact .cons (by rw [returned.1]; rfl) (ih returned.2)
  rw [gathered, answers]
  rfl

/-- When a listing failed, the first failure is what becomes of all, told as its provider's. -/
theorem gathered_eq_error {listed : List (String × Except Fault Roster)}
    (failed : ∃ entry ∈ listed, ∃ cause, entry.2 = .error cause) :
    ∃ before provider cause later, listed = before ++ (provider, .error cause) :: later ∧
      (∀ entry ∈ before, ∃ roster, entry.2 = .ok roster) ∧
      gathered listed = .error (cause.inProvider provider (some "list")) := by
  -- Replacing failures keeps answers answers, so the first failure stays the first.
  cases reached : listed.mapM fun entry : String × Except Fault Roster =>
      entry.2.mapError (Fault.inProvider entry.1 (some "list")) with
  | ok rosters =>
    -- With all rosters gathered no listing can have failed.
    obtain ⟨⟨provider, outcome⟩, member, cause, rfl⟩ := failed
    obtain ⟨roster, answered⟩ := exists_mapM_eq_ok_iff.mp ⟨rosters, reached⟩ _ member
    cases answered
  | error fault =>
    -- The fault is that of the first entry that failed.
    obtain ⟨before, ⟨provider, outcome⟩, later, rfl, fine, told⟩ := mapM_eq_error_iff.mp reached
    cases outcome with
    | ok roster => cases told
    | error cause =>
      cases told
      refine ⟨before, provider, cause, later, rfl, fun entry member => ?_, by rw [gathered, reached]; rfl⟩
      obtain ⟨roster, answered⟩ := fine entry member
      rcases entry with ⟨_, _ | listing⟩
      · cases answered
      · exact ⟨listing, rfl⟩

end Command

/-- What an order carried to a provider, and what became of it there. -/
structure Delivery where
  provider : String
  group : Roster
  outcome : Except Fault Unit

namespace Order

/-- The call that a delivery is made by. -/
def deliver (order : Order) (delivery : Delivery) : Call :=
  order.call delivery.provider delivery.group delivery.outcome

/-- To carry out an order a provider is called once, with the order's virtual machines. -/
theorem action_watches (order : Order) (name : String) (provider : Provider σ) (group : Roster) :
    Watches (order.action (provider.watched name) group) (order.action provider group)
      fun outcome calls => calls = [order.call name group outcome] := by
  -- Each order is one call of the provider, and it is noted under the name of its own.
  cases order with
  | delete => exact Watches.noted (provider.delete group) (Call.delete name group)
  | extend lifetime =>
    cases lifetime with
    | some lifetime =>
      exact Watches.noted (provider.extend group lifetime) (Call.extend name group (some lifetime))
    | none => exact Watches.noted (provider.extendToNothing group) (Call.extend name group none)

/-- The deliveries are to the registered owners of a roster, one to each, with their shares. -/
structure Delivers (registry : Registry (Provider σ)) (roster : Roster)
    (delivered : List Delivery) : Prop where
  owners : (delivered.map Delivery.provider).Perm (roster.owners.filter registry.contains)
  share : ∀ delivery ∈ delivered, delivery.group = roster.share delivery.provider

/-- Groups that came to their ends were delivered where their owners are registered, and nowhere
else. -/
theorem exists_deliveries (order : Order) {registry : Registry (Provider σ)} {roster : Roster}
    {operation : Option String} {ends : List (Dispatch.TaskEnd String Call Unit)}
    (fits : ∀ ended ∈ ends, ended.Fits registry (fun name _ => order.call name) roster operation) :
    ∃ delivered : List Delivery,
      delivered.map Delivery.provider =
        (ends.map Dispatch.TaskEnd.task).filter registry.contains ∧
      (∀ delivery ∈ delivered, delivery.group = roster.share delivery.provider) ∧
      ends.flatMap Dispatch.TaskEnd.calls = delivered.map order.deliver := by
  -- An owner that is not registered adds neither a call nor a delivery.
  induction ends with
  | nil => exact ⟨[], rfl, by simp, rfl⟩
  | cons ended rest ih =>
    -- The groups behind the first one are delivered as the induction has it.
    obtain ⟨delivered, providers, shares, calls⟩ := ih fun other member => fits other (by simp [member])
    obtain ⟨known, provider, found⟩ | ⟨unknown, fault, found⟩ := registry.registered_or ended.task
    · -- The call to a registered owner is a delivery of its share.
      obtain ⟨inner, called, _⟩ := (fits ended (by simp)).called found
      refine ⟨⟨ended.task, roster.share ended.task, inner⟩ :: delivered, ?_, ?_, ?_⟩
      · simp [known, providers]
      · simpa using shares
      · rw [List.flatMap_cons, called, calls]
        rfl
    · -- An owner that is not registered is left out of the filter, and has made no call.
      have none := ((fits ended (by simp)).not_called found).1
      refine ⟨delivered, ?_, shares, ?_⟩
      · simp [unknown, providers]
      · rw [List.flatMap_cons, none, calls, List.nil_append]

/-- Once virtual machines are selected, the order is carried to their registered owners. -/
theorem deliver_watches [Host σ] (order : Order) (registry : Registry (Provider σ))
    (roster : Roster) (schedule : Schedule) :
    Watches
      (do
        discard <| Dispatch.fanOut schedule registry.watched roster (some order.operation)
          order.action
        Program.ofExcept (order.conclusion roster))
      (do
        discard <| Dispatch.fanOut schedule registry roster (some order.operation) order.action
        Program.ofExcept (order.conclusion roster))
      fun _ calls => ∃ delivered, Delivers registry roster delivered ∧
        calls = delivered.map order.deliver := by
  -- What is shown in the end makes no call.
  have fanned := Dispatch.fanOut_watches schedule (fun name _ => order.call name)
    registry.get_watched order.action_watches roster (some order.operation)
  -- The groups that came to their ends are those of the owners, in the order of the schedule.
  have made {ends : List (Dispatch.TaskEnd String Call Unit)}
      (tasks : ends.map Dispatch.TaskEnd.task = schedule.arrange id roster.owners)
      (fits : ∀ ended ∈ ends,
        ended.Fits registry (fun name _ => order.call name) roster (some order.operation)) :
      ∃ delivered, Delivers registry roster delivered ∧
        ends.flatMap Dispatch.TaskEnd.calls = delivered.map order.deliver := by
    obtain ⟨delivered, providers, shares, calls⟩ := exists_deliveries order fits
    exact ⟨delivered, ⟨providers ▸ tasks ▸ (schedule.arrange_perm id _).filter _, shares⟩, calls⟩
  refine (fanned.discard.bind fun _ => Watches.ofExcept (order.conclusion roster)).weaken ?_
  rintro outcome calls (⟨_, ⟨_, ⟨ends, tasks, fits, rfl, _⟩, _⟩, _⟩ |
    ⟨_, before, after, ⟨_, ⟨ends, tasks, fits, rfl, _⟩, _⟩, ⟨_, rfl⟩, rfl⟩)
  · -- The deliveries are the same if some of them failed.
    exact made tasks fits
  · -- All of them were answered, and nothing was called after that.
    rw [List.append_nil]
    exact made tasks fits

/-- What was listed and delivered is what the names ask for. -/
structure Routed (registry : Registry (Provider σ)) (names : List String)
    (listed : List (String × Except Fault Roster)) (delivered : List Delivery)
    (outcome : Except Fault Report) : Prop where
  /-- Every provider was listed once. -/
  listedOnce : (listed.map Prod.fst).Perm registry.names
  /-- If a listing failed nothing was delivered, and the first failure was told as its provider's. -/
  stopped : (∃ entry ∈ listed, ∃ cause, entry.2 = .error cause) → delivered = [] ∧
    ∃ before provider cause later, listed = before ++ (provider, .error cause) :: later ∧
      (∀ entry ∈ before, ∃ roster, entry.2 = .ok roster) ∧
      ∃ fault, outcome = .error fault ∧ fault = cause.inProvider provider (some "list") ∧
        (cause.isInterrupt = false → fault.isFleet = true)
  /-- If a name is that of no virtual machine nothing was delivered, and exactly the names that are
  missing were told, in order and each once. -/
  refused : ∀ rosters : List Roster, listed.map Prod.snd = rosters.map .ok →
    (∃ name ∈ names, ∀ vm ∈ rosters.flatten, vm.name ≠ name) → delivered = [] ∧
      ∃ missing : List String, missing.Pairwise (· < ·) ∧
        (∀ name, name ∈ missing ↔ name ∈ names ∧ ∀ vm ∈ rosters.flatten, vm.name ≠ name) ∧
        outcome = .error (.general ("VMs not found: " ++ ", ".intercalate missing) none none)
  /-- Otherwise one delivery was made to each registered owner of a virtual machine of the names, and
  to nobody else. -/
  owners : ∀ rosters : List Roster, listed.map Prod.snd = rosters.map .ok →
    (∀ name ∈ names, ∃ vm ∈ rosters.flatten, vm.name = name) →
      (delivered.map Delivery.provider).Nodup ∧
      ∀ provider, provider ∈ delivered.map Delivery.provider ↔ provider ∈ registry.names ∧
        ∃ vm ∈ rosters.flatten, vm.name ∈ names ∧ vm.provider = provider
  /-- An owner was given exactly its virtual machines of the names, in the order of the whole list. -/
  groups : ∀ rosters : List Roster, listed.map Prod.snd = rosters.map .ok → ∀ delivery ∈ delivered,
    delivery.group = (Roster.sortByName rosters.flatten).filter fun vm =>
      names.contains vm.name && vm.provider == delivery.provider
  /-- No virtual machine of the names was lost on the way to a registered owner, and none was
  repeated. -/
  complete : ∀ rosters : List Roster, listed.map Prod.snd = rosters.map .ok →
    (∀ name ∈ names, ∃ vm ∈ rosters.flatten, vm.name = name) →
      (delivered.flatMap Delivery.group).Perm ((Roster.sortByName rosters.flatten).filter fun vm =>
        names.contains vm.name && registry.contains vm.provider)
  /-- Nothing was delivered that was not asked for. -/
  onlyNamed : ∀ delivery ∈ delivered, ∀ vm ∈ delivery.group, vm.name ∈ names

/-- Listings have all returned, or one of them failed. -/
theorem returned_or_failed (listed : List (String × Except Fault Roster)) :
    (∃ rosters : List Roster, listed.map Prod.snd = rosters.map .ok) ∨
      ∃ entry ∈ listed, ∃ cause, entry.2 = .error cause := by
  -- The first listing decides, unless it returned.
  induction listed with
  | nil => exact .inl ⟨[], rfl⟩
  | cons entry rest ih =>
    obtain ⟨provider, fault | roster⟩ := entry
    · exact .inr ⟨(provider, .error fault), by simp, fault, rfl⟩
    · obtain ⟨rosters, returned⟩ | ⟨entry, member, failed⟩ := ih
      · exact .inl ⟨roster :: rosters, by simp [returned]⟩
      · exact .inr ⟨entry, by simp [member], failed⟩

/-- When all listings returned, none of them failed. -/
theorem not_failed_of_returned {listed : List (String × Except Fault Roster)} {rosters : List Roster}
    (returned : listed.map Prod.snd = rosters.map .ok) :
    ¬ ∃ entry ∈ listed, ∃ cause, entry.2 = .error cause := by
  rintro ⟨entry, member, cause, raised⟩
  have answer : entry.2 ∈ rosters.map Except.ok := returned ▸ List.mem_map.mpr ⟨entry, member, rfl⟩
  simp [raised] at answer

/-- Listings that returned answer one list of rosters. -/
theorem rosters_unique {listed : List (String × Except Fault Roster)} {some others : List Roster}
    (one : listed.map Prod.snd = some.map .ok) (other : listed.map Prod.snd = others.map .ok) :
    some = others :=
  List.map_injective_iff.mpr (fun _ _ => Except.ok.inj) (one.symm.trans other)

/-- When a listing failed and nothing was delivered, the order is routed as it should be. -/
theorem Routed.of_failed {registry : Registry (Provider σ)} (names : List String)
    {listed : List (String × Except Fault Roster)}
    (perm : (listed.map Prod.fst).Perm registry.names)
    (failed : ∃ entry ∈ listed, ∃ cause, entry.2 = .error cause) {fault : Fault}
    (gathered : Command.gathered listed = .error fault) :
    Routed registry names listed [] (.error fault) := by
  -- What is promised for listings that all returned is promised for nothing here.
  have none (rosters : List Roster) : listed.map Prod.snd ≠ rosters.map .ok :=
    fun returned => not_failed_of_returned returned failed
  refine ⟨perm, fun _ => ⟨rfl, ?_⟩, fun rosters returned => absurd returned (none rosters),
    fun rosters returned => absurd returned (none rosters), by simp,
    fun rosters returned => absurd returned (none rosters), by simp⟩
  -- The first failure is that of its provider, unless the user broke off.
  obtain ⟨before, provider, cause, later, split, fine, told⟩ := Command.gathered_eq_error failed
  rw [gathered] at told
  refine ⟨before, provider, cause, later, split, fine, fault, rfl, Except.error.inj told, ?_⟩
  intro persists
  simp [Except.error.inj told, Fault.inProvider, persists, Fault.isFleet]

/-- When a name was missing and nothing was delivered, the order is routed as it should be. -/
theorem Routed.of_missing {registry : Registry (Provider σ)} {names : List String}
    {listed : List (String × Except Fault Roster)} {rosters : List Roster}
    (perm : (listed.map Prod.fst).Perm registry.names)
    (returned : listed.map Prod.snd = rosters.map .ok)
    (absent : ∃ name ∈ names, ∀ vm ∈ rosters.flatten, vm.name ≠ name) {fault : Fault}
    (chosen : Command.chosen names (Roster.sortByName rosters.flatten) = .error fault) :
    Routed registry names listed [] (.error fault) := by
  -- Rosters that were returned are these and no others.
  have one {others : List Roster} (other : listed.map Prod.snd = others.map .ok) : others = rosters :=
    rosters_unique other returned
  -- So not all names can be found in them.
  have found {others : List Roster} (other : listed.map Prod.snd = others.map .ok)
      (all : ∀ name ∈ names, ∃ vm ∈ others.flatten, vm.name = name) : False := by
    obtain ⟨name, asked, none⟩ := absent
    obtain ⟨vm, present, same⟩ := all name asked
    exact none vm (one other ▸ present) same
  refine ⟨perm, fun failed => (not_failed_of_returned returned failed).elim,
    fun others other _ => ⟨rfl, ?_⟩, fun others other all => (found other all).elim, by simp,
    fun others other all => (found other all).elim, by simp⟩
  -- The fault tells the names that are missing from what was listed.
  rw [one other]
  -- Sorting neither adds nor takes away, so what is missing can be read off the sorted list.
  have unsorted : ∃ name ∈ names, ∀ vm ∈ Roster.sortByName rosters.flatten, vm.name ≠ name := by
    simpa only [Roster.mem_sortByName] using absent
  obtain ⟨missing, ascending, told, same⟩ := Command.chosen_eq_error unsorted
  rw [chosen] at same
  refine ⟨missing, ascending, fun name => ?_, congrArg _ (Except.error.inj same)⟩
  simp only [told, Roster.mem_sortByName]

/-- When the virtual machines of the names were delivered to their owners, the order is routed as it
should be. -/
theorem Routed.of_delivered {registry : Registry (Provider σ)} {names : List String}
    {listed : List (String × Except Fault Roster)} {rosters : List Roster}
    {delivered : List Delivery} (perm : (listed.map Prod.fst).Perm registry.names)
    (returned : listed.map Prod.snd = rosters.map .ok)
    (present : ∀ name ∈ names, ∃ vm ∈ rosters.flatten, vm.name = name)
    (delivers : Delivers registry ((Roster.sortByName rosters.flatten).filter fun vm =>
      names.contains vm.name) delivered) (outcome : Except Fault Report) :
    Routed registry names listed delivered outcome := by
  -- The deliveries are the shares of what was chosen, so each part is read off there.
  have one {others : List Roster} (other : listed.map Prod.snd = others.map .ok) : others = rosters :=
    rosters_unique other returned
  -- Each delivery is the share of its provider, which is what was asked for and is its own.
  have group {delivery : Delivery} (member : delivery ∈ delivered) :
      delivery.group = (Roster.sortByName rosters.flatten).filter fun vm =>
        names.contains vm.name && vm.provider == delivery.provider := by
    rw [delivers.share delivery member, Roster.share, List.filter_filter]
    simp only [Bool.and_comm]
  -- An owner is grouped once, so it is delivered to once.
  have distinct : (delivered.map Delivery.provider).Nodup :=
    delivers.owners.nodup_iff.mpr ((Roster.nodup_owners _).filter _)
  -- Delivered to is whoever is registered and owns something of the names.
  have owner (provider : String) : provider ∈ delivered.map Delivery.provider ↔
      provider ∈ registry.names ∧
        ∃ vm ∈ rosters.flatten, vm.name ∈ names ∧ vm.provider = provider := by
    rw [delivers.owners.mem_iff, List.mem_filter, Roster.mem_owners, registry.contains_iff, and_comm]
    simp only [List.mem_filter, Roster.mem_sortByName, List.contains_iff_mem, and_assoc]
  refine ⟨perm, fun failed => (not_failed_of_returned returned failed).elim, ?_,
    fun others other _ => ?_, fun others other delivery member => ?_, fun others other _ => ?_,
    fun delivery member vm given => ?_⟩
  · -- Every name is that of something listed, so none can be missing.
    rintro others other ⟨name, asked, none⟩
    obtain ⟨vm, listedVm, same⟩ := present name asked
    exact absurd same (none vm (one other ▸ listedVm))
  · -- Owners are delivered to once each, and they are the owners of what was asked for.
    exact one other ▸ ⟨distinct, owner⟩
  · -- What was delivered to an owner is its share of what was listed.
    exact one other ▸ group member
  · -- The groups are the shares of the registered owners, which divide what was chosen.
    rw [one other]
    have shares : delivered.flatMap Delivery.group = (delivered.map Delivery.provider).flatMap
        (Roster.share ((Roster.sortByName rosters.flatten).filter fun vm =>
          names.contains vm.name)) := by
      rw [List.flatMap_map]
      exact List.flatMap_congr fun delivery member => delivers.share delivery member
    rw [shares]
    refine (Roster.flatMap_share_perm _ distinct).trans (.of_eq ?_)
    rw [List.filter_filter]
    refine List.filter_congr fun vm listedVm => ?_
    by_cases asked : vm.name ∈ names
    · -- A provider of what was asked for gets a delivery exactly when it is registered.
      have known : vm.provider ∈ delivered.map Delivery.provider ↔
          registry.contains vm.provider = true := by
        rw [owner, registry.contains_iff]
        exact and_iff_left ⟨vm, (Roster.mem_sortByName _ vm).mp listedVm, asked, rfl⟩
      rw [Bool.eq_iff_iff, Bool.and_eq_true, Bool.and_eq_true, ← known, List.contains_iff_mem, and_comm]
    · -- What was not asked for is in no group.
      simp [asked]
  · -- What was delivered has one of the names, as nothing else was chosen.
    rw [group member] at given
    simp only [List.mem_filter, List.contains_iff_mem, Bool.and_eq_true] at given
    exact given.2.1

/-- Giving an order first lists every provider once. If a listing fails or a name is that of no virtual
machine, no provider is called to carry out the order. Otherwise each registered owner of a virtual
machine of the names is called once, with exactly its own of them. Nobody else is called, and watching
the calls changes neither the outcome nor the state. -/
theorem run_routes [Host σ] (registry : Registry (Provider σ)) (order : Order) (names : List String)
    (state : σ) :
    ∃ outcome after listed delivered,
      (Command.run registry (order.command names)).on state = (outcome, after) ∧
      (Command.run registry.watched (order.command names)).on ⟨state, []⟩ =
        (outcome, ⟨after, listed.map (fun entry => Call.list entry.1 entry.2) ++
          delivered.map order.deliver⟩) ∧
      Routed registry names listed delivered outcome := by
  -- Selecting comes first, and only what was selected is delivered.
  rw [Command.run_command, Command.run_command]
  obtain ⟨outcome, after, calls, plain, watched, routed⟩ :=
    ((Command.select_watches registry names).bind fun roster =>
      Watches.scheduled (order.deliver_watches registry roster)).fromStart state
  -- It is enough to tell the calls apart: those that list, and those that deliver.
  suffices ∃ listed delivered, calls = listed.map (fun entry => Call.list entry.1 entry.2) ++
      delivered.map order.deliver ∧ Routed registry names listed delivered outcome by
    obtain ⟨listed, delivered, rfl, fits⟩ := this
    exact ⟨outcome, after, listed, delivered, plain, watched, fits⟩
  obtain ⟨fault, ⟨listed, perm, rfl, same⟩, rfl⟩ |
    ⟨roster, _, _, ⟨listed, perm, rfl, same⟩, ⟨_, delivered, delivers, rfl⟩, rfl⟩ := routed
  · -- Nothing was selected, because a listing failed or a name is missing.
    refine ⟨listed, [], by simp, ?_⟩
    obtain ⟨rosters, returned⟩ | failed := returned_or_failed listed
    · rw [Command.gathered_eq_ok returned] at same
      refine .of_missing perm returned ?_ same.symm
      -- With every name present something would have been chosen.
      by_contra present
      rw [Except.bind, Command.chosen_eq_ok] at same
      · cases same
      · push Not at present
        simpa only [Roster.mem_sortByName] using present
    · -- A listing failed, and its failure is that of the whole.
      obtain ⟨_, _, _, _, _, _, told⟩ := Command.gathered_eq_error failed
      rw [told] at same
      cases same
      exact .of_failed names perm failed told
  · -- Something was selected, so every listing returned and no name is missing.
    refine ⟨listed, delivered, rfl, ?_⟩
    obtain ⟨rosters, returned⟩ | failed := returned_or_failed listed
    · rw [Command.gathered_eq_ok returned, Except.bind] at same
      by_cases present : ∀ name ∈ names, ∃ vm ∈ rosters.flatten, vm.name = name
      · rw [Command.chosen_eq_ok (by simpa only [Roster.mem_sortByName] using present)] at same
        cases same
        exact .of_delivered perm returned present delivers outcome
      · -- With a name missing nothing would have been selected.
        push Not at present
        have absent : ∃ name ∈ names, ∀ vm ∈ Roster.sortByName rosters.flatten, vm.name ≠ name := by
          simpa only [Roster.mem_sortByName] using present
        obtain ⟨missing, _, _, told⟩ := Command.chosen_eq_error absent
        rw [told] at same
        cases same
    · -- With a listing that failed nothing would have been selected.
      obtain ⟨_, _, _, _, _, _, told⟩ := Command.gathered_eq_error failed
      rw [told] at same
      cases same

end Order

end Fleet
