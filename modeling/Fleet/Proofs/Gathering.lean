import Fleet.Proofs.NameOrder
import Fleet.Proofs.Routing

/-! Gathering of rosters: what all providers list together does not depend on the order in which
they come to their ends, but for the order of virtual machines of one name that different providers
have. -/

namespace Fleet.Command

variable {σ : Type}

/-- What a provider listed, which is nothing if it failed. -/
def answered : Except Fault Roster → Roster
  | .ok roster => roster
  | .error _ => []

/-- Whoever was listed both times came to the same outcome. -/
def SameOutcomes (listed again : List (String × Except Fault Roster)) : Prop :=
  ∀ provider found other, (provider, found) ∈ listed → (provider, other) ∈ again → found = other

/-- No two providers listed virtual machines of one name. -/
def Apart (listed : List (String × Except Fault Roster)) : Prop :=
  ∀ entry ∈ listed, ∀ other ∈ listed, entry.1 ≠ other.1 →
    ∀ vm ∈ answered entry.2, ∀ alike ∈ answered other.2, vm.name ≠ alike.name

/-- The providers were listed at a state with these outcomes, in the order in which they came, and
the outcome is what was gathered from them. -/
structure Gathers [Host σ] (registry : Registry (Provider σ)) (state : σ)
    (listed : List (String × Except Fault Roster)) (outcome : Except Fault Roster) : Prop where
  /-- The calls of providers are these, and watching them changes neither the outcome nor the
  state. -/
  calls : ∃ after, (listAll registry).on state = (outcome, after) ∧
    (listAll registry.watched).on ⟨state, []⟩ =
      (outcome, ⟨after, listed.map fun entry => Call.list entry.1 entry.2⟩)
  /-- The providers came to their ends in the order of the schedule. -/
  order : listed.map Prod.fst = (Host.schedule state).arrange id registry.names
  /-- Every provider was listed once, whatever became of the others. -/
  once : (listed.map Prod.fst).Perm registry.names
  /-- Each outcome is that of the list of its own provider. -/
  own : ∀ entry ∈ listed, Lists registry entry.1 entry.2
  /-- If all returned, nothing of their rosters is lost or repeated, the names stand in order, and
  those of one name stand as in the rosters one after the other. -/
  merged : ∀ rosters : List Roster, listed.map Prod.snd = rosters.map .ok →
    ∃ roster : Roster, outcome = .ok roster ∧ roster.Perm rosters.flatten ∧ roster.Ordered ∧
      ∀ name, roster.named name = rosters.flatMap fun one => one.named name
  /-- If some failed, the first one to fail is told as the fault of its provider, unless the user
  broke off. -/
  failed : (∃ entry ∈ listed, ∃ cause, entry.2 = .error cause) →
    ∃ before provider cause later, listed = before ++ (provider, .error cause) :: later ∧
      (∀ entry ∈ before, ∃ roster, entry.2 = .ok roster) ∧
      outcome = .error (if cause.isInterrupt then cause
        else .because ⟨.providerFailed, s!"in provider: {provider}", some provider, some "list"⟩ cause)

/-- Listing all providers gathers what they list. -/
theorem exists_gathers [Host σ] (registry : Registry (Provider σ)) (state : σ) :
    ∃ listed outcome, Gathers registry state listed outcome := by
  -- The listing is watched from the state on, so that what each provider came to is known.
  obtain ⟨outcome, after, _, plain, watched, listed, order, own, rfl, gathers⟩ :=
    (gathering_watches registry (Host.schedule state)).fromStart state
  -- The schedule is that of the state that the providers are listed at.
  have once : (listed.map Prod.fst).Perm registry.names :=
    order ▸ (Host.schedule state).arrange_perm id registry.names
  refine ⟨listed, outcome, ⟨after, plain, ?_⟩, order, once, own, fun rosters returned => ?_, fun failed => ?_⟩
  · rw [listAll, Registry.names_watched]
    exact watched
  · -- All lists were returned, so that they are merged and put in order of names.
    refine ⟨_, gathers.trans (gathered_eq_ok returned), Roster.sortByName_perm _,
      Roster.ordered_sortByName _, fun name => ?_⟩
    rw [Roster.named_sortByName, Roster.named_flatten]
  · -- The first of them to end is the one that is told.
    obtain ⟨before, provider, cause, later, split, fine, told⟩ := gathered_eq_error failed
    exact ⟨before, provider, cause, later, split, fine, gathers.trans told⟩

/-- Lists may be put one after the other in any order, as long as at most one of them has any
element. -/
theorem flatMap_eq_of_perm {α β : Type} {f : α → List β} {first second : List α}
    (perm : first.Perm second) (alone : first.Pairwise fun a b => f a = [] ∨ f b = []) :
    first.flatMap f = second.flatMap f := by
  induction perm with
  | nil => rfl
  | cons head _ ih => rw [List.flatMap_cons, List.flatMap_cons, ih alone.of_cons]
  | swap head next rest =>
    -- Of two neighbours one has nothing, so they change places unnoticed.
    rcases List.rel_of_pairwise_cons alone (List.mem_cons_self ..) with empty | empty <;>
      simp [empty]
  | trans first _ ihFirst ihSecond =>
    rw [ihFirst alone, ihSecond ((first.pairwise_iff fun both => both.symm).mp alone)]

/-- Listings of the same providers with the same outcomes are the same in some order. -/
theorem perm_of_sameOutcomes {registry : Registry (Provider σ)}
    {listed again : List (String × Except Fault Roster)}
    (once : (listed.map Prod.fst).Perm registry.names)
    (onceAgain : (again.map Prod.fst).Perm registry.names) (same : SameOutcomes listed again) :
    listed.Perm again := by
  -- No provider stands twice in either, so it is enough that they have the same entries.
  have distinct : registry.names.Nodup := registry.members.nodup_keys
  refine (List.perm_ext_iff_of_nodup (.of_map _ (once.nodup_iff.mpr distinct))
    (.of_map _ (onceAgain.nodup_iff.mpr distinct))).mpr fun ⟨provider, found⟩ => ?_
  -- Either has all registered providers, so that one has who the other has.
  have named : provider ∈ listed.map Prod.fst ↔ provider ∈ again.map Prod.fst := by
    rw [once.mem_iff, onceAgain.mem_iff]
  constructor
  · -- Whoever was listed the first time was listed again, and with the same outcome.
    intro member
    obtain ⟨⟨_, other⟩, present, rfl⟩ :=
      List.mem_map.mp (named.mp (List.mem_map_of_mem (f := Prod.fst) member))
    exact same _ found other member present ▸ present
  · -- The other way round it is the same, as outcomes are compared both ways.
    intro member
    obtain ⟨⟨_, other⟩, present, rfl⟩ :=
      List.mem_map.mp (named.mpr (List.mem_map_of_mem (f := Prod.fst) member))
    exact same _ other found present member ▸ present

/-- Rosters that were returned are what the providers answered. -/
theorem rosters_eq {listed : List (String × Except Fault Roster)} {rosters : List Roster}
    (returned : listed.map Prod.snd = rosters.map .ok) :
    rosters = listed.map fun entry => answered entry.2 := by
  -- A list that was returned is what was answered, and the rosters are these lists in their order.
  have answers : (listed.map Prod.snd).map answered = (rosters.map .ok).map answered :=
    congrArg (List.map answered) returned
  rw [List.map_map, List.map_map] at answers
  exact (answers.trans (List.map_id' rosters)).symm

/-- Listings that are the same in some order return alike. -/
theorem returned_of_perm {listed again : List (String × Except Fault Roster)} {rosters : List Roster}
    (perm : listed.Perm again) (returned : listed.map Prod.snd = rosters.map .ok) :
    ∃ others : List Roster, again.map Prod.snd = others.map .ok ∧ others.Perm rosters := by
  -- A failure would be in the first listing, too, and there is none.
  rcases Order.returned_or_failed again with ⟨others, all⟩ | ⟨entry, member, failed⟩
  · refine ⟨others, all, ?_⟩
    rw [rosters_eq all, rosters_eq returned]
    exact (perm.map _).symm
  · exact absurd ⟨entry, perm.mem_iff.mpr member, failed⟩ (Order.not_failed_of_returned returned)

/-- When no two providers listed virtual machines of one name, at most one of them has any of a
name. -/
theorem alone_of_apart {registry : Registry (Provider σ)} {listed : List (String × Except Fault Roster)}
    (once : (listed.map Prod.fst).Perm registry.names) (apart : Apart listed) (name : String) :
    listed.Pairwise fun entry other =>
      (answered entry.2).named name = [] ∨ (answered other.2).named name = [] := by
  have distinct := once.nodup_iff.mpr registry.members.nodup_keys
  refine (List.pairwise_map.mp distinct).imp_of_mem fun {entry other} member present differ => ?_
  -- One of the name from each would be two of one name from different providers.
  by_contra both
  push Not at both
  obtain ⟨vm, own⟩ := List.exists_mem_of_ne_nil _ both.1
  obtain ⟨alike, others⟩ := List.exists_mem_of_ne_nil _ both.2
  simp only [Roster.named, List.mem_filter, beq_iff_eq] at own others
  exact apart entry member other present differ vm own.1 alike others.1 (own.2.trans others.2.symm)

/-- Listing all providers calls the list of each of them once, in the order of the schedule. If all
return, what they listed is merged: nothing is lost or repeated, names stand in order, and those of
one name that one provider has stand as it listed them. If some fail, the first of them to come to
its end is told. Two runs in which every provider comes to the same outcome merge to rosters that
have the same names in order and the same virtual machines, and they are one and the same roster
unless two providers have virtual machines of one name. -/
theorem listAll_regardless [Host σ] (registry : Registry (Provider σ)) (first second : σ) :
    ∃ listed outcome again outcomeAgain,
      Gathers registry first listed outcome ∧ Gathers registry second again outcomeAgain ∧
      (SameOutcomes listed again → ∀ roster, outcome = .ok roster →
        ∃ other, outcomeAgain = .ok other ∧ Roster.names other = Roster.names roster ∧
          other.Perm roster ∧ (Apart listed → other = roster)) := by
  -- What either run gathers is known from the state that it starts from.
  obtain ⟨listed, outcome, gathers⟩ := exists_gathers registry first
  obtain ⟨again, outcomeAgain, gathersAgain⟩ := exists_gathers registry second
  refine ⟨listed, outcome, again, outcomeAgain, gathers, gathersAgain, fun same roster reached => ?_⟩
  -- With the same outcomes either run has the same entries, in an order of its own.
  have perm := perm_of_sameOutcomes gathers.once gathersAgain.once same
  -- There is a roster, so no listing failed in the first run, and then none did in the second.
  rcases Order.returned_or_failed listed with ⟨rosters, returned⟩ | failed
  swap
  · obtain ⟨_, _, _, _, _, _, told⟩ := gathers.failed failed
    rw [told] at reached
    cases reached
  obtain ⟨others, returnedAgain, permRosters⟩ := returned_of_perm perm returned
  obtain ⟨_, merged, whole, ordered, named⟩ := gathers.merged rosters returned
  obtain ⟨other, mergedAgain, wholeAgain, orderedAgain, namedAgain⟩ :=
    gathersAgain.merged others returnedAgain
  cases merged.symm.trans reached
  -- Both are the same rosters, one after the other and then sorted.
  have alike : other.Perm roster := wholeAgain.trans (permRosters.flatten.trans whole.symm)
  refine ⟨other, mergedAgain, (alike.map Vm.name).eq_of_pairwise ?_ orderedAgain ordered, alike,
    fun apart => ?_⟩
  · -- Names in order can stand in one way only.
    exact fun _ _ _ _ before after => le_antisymm before after
  · -- Those of one name all come from one provider, so they do not wait for another.
    refine Roster.eq_of_named orderedAgain ordered fun name => ?_
    rw [named, namedAgain, rosters_eq returned, rosters_eq returnedAgain, List.flatMap_map,
      List.flatMap_map]
    exact (flatMap_eq_of_perm perm (alone_of_apart gathers.once apart name)).symm

end Fleet.Command
