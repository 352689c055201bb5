import Fleet.Proofs.NameOrder

/-! Sorting a roster, told by its positions: wherever two positions are compared no later name comes first, and
exchanging positions beforehand changes no name of the sorted roster. -/

namespace Fleet.Roster

/-- A list of the length has the position, counted from its start or, below zero, from its end. No list is so
long that one of its positions is beyond the limit. -/
structure Within (length : Nat) (position : Int) : Prop where
  fromEnd : -length ≤ position
  fromStart : position < length
  least : -positionLimit ≤ position
  most : position < positionLimit

instance (length : Nat) (position : Int) : Decidable (Within length position) :=
  decidable_of_iff (-length ≤ position ∧ position < length ∧ -positionLimit ≤ position ∧
      position < positionLimit)
    ⟨fun ⟨fromEnd, fromStart, least, most⟩ => ⟨fromEnd, fromStart, least, most⟩,
      fun ⟨fromEnd, fromStart, least, most⟩ => ⟨fromEnd, fromStart, least, most⟩⟩

/-- Every place of a list that is not beyond the limit is a position of it. -/
theorem within_of_lt {length place : Nat} (inside : place < length)
    (short : (place : Int) < positionLimit) : Within length place :=
  ⟨by omega, by omega, by omega, short⟩

/-- The place that a position of a list names. -/
def placeOf {length : Nat} {position : Int} (within : Within length position) : Fin length where
  val := (if position < 0 then position + length else position).toNat
  isLt := by
    obtain ⟨low, high, _, _⟩ := within
    split <;> omega

/-- A position that is not below zero is its own place. -/
@[simp]
theorem placeOf_natCast {length place : Nat} (within : Within length place) :
    (placeOf within : Nat) = place := by
  have low : ¬ (place : Int) < 0 := by omega
  simp [placeOf, low]

/-- A position of a list names its place. -/
theorem place_eq_ok {length : Nat} {position : Int} (within : Within length position) :
    place length position = .ok (placeOf within) := by
  obtain ⟨low, high, least, most⟩ := within
  -- The position is not beyond the limit, and what it names is inside of the list.
  have short : (decide (position < -positionLimit) || decide (positionLimit ≤ position)) = false := by
    rw [Bool.or_eq_false_iff, decide_eq_false_iff_not, decide_eq_false_iff_not]
    omega
  unfold place placeOf
  rw [short]
  simp only [Bool.false_eq_true, if_false]
  -- Below zero positions are counted from the end, and from zero on from the start.
  by_cases below : position < 0
  · have inside : 0 ≤ position + length ∧ position + length < length := by omega
    simp [below, inside]
  · have inside : 0 ≤ position ∧ position < length := by omega
    simp [below, inside]

/-- What is at a position of a roster is what is at its place. -/
theorem at?_eq_ok {roster : Roster} {position : Int} (within : Within roster.length position) :
    roster.at? position = .ok (roster.get (placeOf within)) := by
  rw [at?, place_eq_ok within]
  simp [Bind.bind, Except.bind]

/-- Comparing two positions of a roster compares the names at their places. -/
theorem less_eq_ok {roster : Roster} {i j : Int} (first : Within roster.length i)
    (second : Within roster.length j) :
    roster.less i j =
      .ok (decide ((roster.get (placeOf first)).name < (roster.get (placeOf second)).name)) := by
  rw [less, at?_eq_ok first, at?_eq_ok second]
  rfl

/-- Exchanging two positions of a roster answers, and keeps every virtual machine. -/
theorem exists_swap {roster : Roster} {i j : Int} (first : Within roster.length i)
    (second : Within roster.length j) : ∃ swapped, roster.swap i j = .ok swapped ∧ swapped.Perm roster := by
  -- What was at either place is put at the other one.
  have exchanged := List.set_set_perm (placeOf first).isLt (placeOf second).isLt
  refine ⟨_, ?_, exchanged⟩
  rw [swap, at?_eq_ok second, at?_eq_ok first, place_eq_ok first, place_eq_ok second]
  rfl

/-- The roster after pairs of positions were exchanged, one pair after the other. -/
def swapAll (roster : Roster) : List (Int × Int) → Except PositionError Roster
  | [] => .ok roster
  | (i, j) :: later => do swapAll (← roster.swap i j) later

/-- Exchanging positions of a roster as often as wanted answers, and keeps every virtual machine. -/
theorem exists_swapAll {roster : Roster} {swaps : List (Int × Int)}
    (within : ∀ swap ∈ swaps, Within roster.length swap.1 ∧ Within roster.length swap.2) :
    ∃ swapped, roster.swapAll swaps = .ok swapped ∧ swapped.Perm roster := by
  -- One exchange keeps the length, so the roster still has the positions that come later.
  induction swaps generalizing roster with
  | nil => exact ⟨roster, rfl, .refl _⟩
  | cons swap later ih =>
    -- The first exchange is between positions that there are.
    obtain ⟨⟨first, second⟩, others⟩ := List.forall_mem_cons.mp within
    obtain ⟨middle, once, kept⟩ := exists_swap first second
    rw [← kept.length_eq] at others
    obtain ⟨swapped, further, keptToo⟩ := ih others
    refine ⟨swapped, ?_, keptToo.trans kept⟩
    rw [swapAll, once]
    exact further

/-- The same virtual machines in any order have the same names once they are sorted. -/
theorem names_sortByName_of_perm {first second : Roster} (perm : first.Perm second) :
    first.sortByName.names = second.sortByName.names := by
  have same : first.sortByName.names.Perm second.sortByName.names :=
    (((sortByName_perm first).trans perm).trans (sortByName_perm second).symm).map Vm.name
  -- Names in order are determined by which names they are.
  exact same.eq_of_pairwise (fun a b _ _ => le_antisymm) (ordered_sortByName first)
    (ordered_sortByName second)

/-- The numbers of a name's characters. -/
def codePoints (name : String) : List Nat := name.toList.map Char.toNat

/-- Texts stand in the order of the numbers of their characters. -/
theorem map_toNat_lt_iff (first second : List Char) :
    first.map Char.toNat < second.map Char.toNat ↔ first < second := by
  -- The first characters to differ decide, and they differ in their numbers.
  induction first generalizing second with
  | nil => cases second <;> simp
  | cons c rest ih =>
    cases second with
    | nil => simp
    | cons d later =>
      rw [List.map_cons, List.map_cons, List.cons_lt_cons_iff, List.cons_lt_cons_iff, ih, Char.toNat_inj]
      rfl

/-- Of two names the one whose numbers come first comes first. -/
theorem codePoints_le_iff (a b : String) : codePoints a ≤ codePoints b ↔ a ≤ b := by
  rw [codePoints, codePoints, ← not_lt, ← not_lt, map_toNat_lt_iff, String.lt_iff_toList_lt]

/-- Where the names of a roster stand in order, no later one is found to be less. -/
theorem less_of_ordered {roster : Roster} (ordered : roster.Ordered) {i j : Nat} (before : i < j)
    (within : Within roster.length j) : roster.less j i = .ok false := by
  -- In order means that of two places the earlier one has no greater name.
  rw [Ordered, names, List.pairwise_map, List.pairwise_iff_getElem] at ordered
  have inside : j < roster.length := by exact_mod_cast within.fromStart
  have earlier : Within roster.length i := within_of_lt (by omega) (by have := within.most; omega)
  rw [less_eq_ok within earlier, Except.ok.injEq, decide_eq_false_iff_not, not_lt]
  simpa using ordered i j (by omega) inside before

/-- The names of a roster stand in order if no later one is found to be less. -/
theorem ordered_of_less {roster : Roster} (short : (roster.length : Int) ≤ positionLimit)
    (compared : ∀ i j : Nat, i < j → Within roster.length j → roster.less j i = .ok false) :
    roster.Ordered := by
  rw [Ordered, names, List.pairwise_map, List.pairwise_iff_getElem]
  -- Whatever two places are taken, the later one was compared with the earlier.
  intro i j inside insideToo before
  have earlier : Within roster.length i := within_of_lt inside (by omega)
  have later : Within roster.length j := within_of_lt insideToo (by omega)
  have found := compared i j before later
  rw [less_eq_ok later earlier, Except.ok.injEq, decide_eq_false_iff_not, not_lt] at found
  simpa using found

/-- A roster is another one in order of names. -/
structure Sorts (roster sorted : Roster) : Prop where
  /-- No virtual machine is lost or repeated. -/
  perm : sorted.Perm roster
  /-- The name at a later position is not found to be less than the one at an earlier position. -/
  ascending : ∀ i j : Nat, i < j → Within sorted.length j → sorted.less j i = .ok false
  /-- Virtual machines of one name stand as they stood. -/
  stable : ∀ name, sorted.named name = roster.named name

/-- Sorting by name gives the roster in order of names, which is that of their code points. No other roster that
a list could hold is in this order, so sorting again changes nothing, and exchanging positions beforehand changes
no name. -/
theorem sortByName_sorts (roster : Roster) :
    Sorts roster roster.sortByName ∧
    (roster.sortByName.names.map codePoints).Pairwise (· ≤ ·) ∧
    (∀ sorted, Sorts roster sorted → (sorted.length : Int) ≤ positionLimit → sorted = roster.sortByName) ∧
    roster.sortByName.sortByName = roster.sortByName ∧
    ∀ swaps : List (Int × Int),
      (∀ swap ∈ swaps, Within roster.length swap.1 ∧ Within roster.length swap.2) →
      ∃ swapped, roster.swapAll swaps = .ok swapped ∧ swapped.sortByName.names = roster.sortByName.names := by
  have ordered := ordered_sortByName roster
  refine ⟨⟨sortByName_perm roster, fun i j => less_of_ordered ordered, named_sortByName roster⟩, ?_,
    fun sorted sorts short => ?_, ?_, fun swaps within => ?_⟩
  · -- What is in order by names is in order by their code points.
    rw [List.pairwise_map]
    exact ordered.imp fun le => (codePoints_le_iff _ _).mpr le
  · -- Both have the same virtual machines of every name, and both stand in order.
    refine eq_of_named (ordered_of_less short sorts.ascending) ordered fun name => ?_
    rw [sorts.stable, named_sortByName]
  · -- Sorted once, a roster is in order, and another sorting keeps what it has of every name.
    exact eq_of_named (ordered_sortByName _) ordered fun name => named_sortByName _ name
  · -- Exchanges keep the virtual machines, and it is these that decide on the sorted names.
    obtain ⟨swapped, answered, perm⟩ := exists_swapAll within
    exact ⟨swapped, answered, names_sortByName_of_perm perm⟩

/-- A virtual machine of a name and a provider, made on the first noon of the calendar. -/
def early (name provider : String) : Vm :=
  { name := name, provider := provider, createdAt := ⟨43200 * microsPerSecond, none, by decide⟩ }

/-- Two virtual machines that share a name, and two between them. -/
def mixedRoster : Roster := [early "b" "p1", early "B" "p2", early "a" "p3", early "b" "p4"]

/-- The mixed roster in order: the two that share a name are last, as they stood. -/
def mixedInOrder : Roster := [early "B" "p2", early "a" "p3", early "b" "p1", early "b" "p4"]

/-- The mixed roster is sorted into its order, and after positions were exchanged, one of them counted from the
end, the sorted names are still the same. -/
theorem sortByName_sorts_mixedRoster :
    Sorts mixedRoster mixedInOrder ∧ (mixedInOrder.length : Int) ≤ positionLimit ∧
      mixedInOrder = mixedRoster.sortByName ∧
      (∀ swap ∈ [(0, -1), (2, 1)], Within mixedRoster.length swap.1 ∧ Within mixedRoster.length swap.2) ∧
      mixedRoster.swapAll [(0, -1), (2, 1)] =
        .ok [early "b" "p4", early "a" "p3", early "B" "p2", early "b" "p1"] ∧
      Roster.names (sortByName [early "b" "p4", early "a" "p3", early "B" "p2", early "b" "p1"]) =
        mixedInOrder.names := by
  obtain ⟨_, _, unique, _, exchanged⟩ := sortByName_sorts mixedRoster
  -- The three names stand in order, with the capital letter first.
  have ordered : mixedInOrder.Ordered := by
    unfold Ordered
    decide +kernel
  have sorts : Sorts mixedRoster mixedInOrder := by
    refine ⟨by decide +kernel, fun i j => less_of_ordered ordered, fun name => ?_⟩
    -- Only the two of one name could have changed places.
    by_cases own : name = "b"
    · subst own
      decide +kernel
    · have other : "b" ≠ name := Ne.symm own
      simp [named, mixedRoster, mixedInOrder, early, other, List.filter_cons]
  have short : (mixedInOrder.length : Int) ≤ positionLimit := by decide
  have within : ∀ swap ∈ [((0 : Int), (-1 : Int)), (2, 1)],
      Within mixedRoster.length swap.1 ∧ Within mixedRoster.length swap.2 := by decide
  -- So this is what sorting gives, and no other roster in order could be.
  have same := unique mixedInOrder sorts short
  obtain ⟨swapped, answered, names⟩ := exchanged _ within
  -- What the exchanges leave is found by carrying them out.
  have left : mixedRoster.swapAll [(0, -1), (2, 1)] =
      .ok [early "b" "p4", early "a" "p3", early "B" "p2", early "b" "p1"] := by decide +kernel
  rw [left] at answered
  cases answered
  exact ⟨sorts, short, same, within, left, same ▸ names⟩

end Fleet.Roster
