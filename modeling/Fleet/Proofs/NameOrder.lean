import Fleet.Proofs.Roster
import Mathlib.Data.List.Sort

/-! Laws of the order by names: sorting a roster keeps every virtual machine and the order of those
that share a name, and nothing else in order does the same. -/

namespace Fleet.Roster

/-- The virtual machines of one name, in order. -/
def named (roster : Roster) (name : String) : Roster :=
  roster.filter fun vm => vm.name == name

/-- The names stand in order. -/
def Ordered (roster : Roster) : Prop := roster.names.Pairwise (· ≤ ·)

/-- What has the name in some rosters one after the other is what has it in each of them. -/
theorem named_flatten (rosters : List Roster) (name : String) :
    named rosters.flatten name = rosters.flatMap fun roster => roster.named name := by
  rw [named, List.filter_flatten, List.flatMap_def]
  rfl

/-- Sorting loses and repeats no virtual machine. -/
theorem sortByName_perm (roster : Roster) : roster.sortByName.Perm roster :=
  List.mergeSort_perm _ _

/-- What may stand before another may stand before all that the other may stand before. -/
theorem nameOrder_trans (a b c : Vm) (first : nameOrder a b = true) (second : nameOrder b c = true) :
    nameOrder a c = true := by
  simp only [nameOrder, decide_eq_true_eq] at first second ⊢
  exact le_trans first second

/-- Of any two one may stand before the other. -/
theorem nameOrder_total (a b : Vm) : (nameOrder a b || nameOrder b a) = true := by
  simpa [nameOrder] using le_total a.name b.name

/-- Sorted names stand in order. -/
theorem ordered_sortByName (roster : Roster) : roster.sortByName.Ordered := by
  have sorted := List.pairwise_mergeSort nameOrder_trans nameOrder_total roster
  rw [Ordered, names, List.pairwise_map]
  exact sorted.imp fun before => by simpa [nameOrder] using before

/-- Where the same virtual machines stand in another way, but what stood in order stands so still, those of
one name stand as they did. -/
theorem named_of_stable {roster sorted : Roster} (perm : sorted.Perm roster)
    (stable : ∀ part : Roster, part.Pairwise (fun a b => a.name ≤ b.name) → part.Sublist roster →
      part.Sublist sorted) (name : String) : sorted.named name = roster.named name := by
  -- Those of one name may stand in any order, so they stand as they were.
  have alike : (roster.named name).Pairwise fun a b => a.name ≤ b.name := by
    refine List.pairwise_of_forall_mem_list fun a first b second => ?_
    have own := (List.mem_filter.mp first).2
    have other := (List.mem_filter.mp second).2
    simp only [beq_iff_eq] at own other
    simp [own, other]
  have within := (stable _ alike List.filter_sublist).filter fun vm => vm.name == name
  rw [named, List.filter_filter] at within
  simp only [Bool.and_self] at within
  -- There are as many of the name as before, so what is part of them is all of them.
  exact (within.eq_of_length (perm.filter _).length_eq.symm).symm

/-- Sorting keeps the order of virtual machines that share a name. -/
theorem named_sortByName (roster : Roster) (name : String) :
    roster.sortByName.named name = roster.named name :=
  named_of_stable roster.sortByName_perm (fun _ ordered part =>
    List.sublist_mergeSort nameOrder_trans nameOrder_total
      (ordered.imp fun before => by simpa [nameOrder] using before) part) name

/-- Two rosters in order are the same if they have the same virtual machines of every name. -/
theorem eq_of_named {first second : Roster} (ordered : first.Ordered) (others : second.Ordered)
    (same : ∀ name, first.named name = second.named name) : first = second := by
  -- The head of either roster has the least name of all, so it is the first of that name in both.
  induction first generalizing second with
  | nil =>
    -- Only an empty roster has nothing of any name.
    cases second with
    | nil => rfl
    | cons vm rest => simpa [named] using same vm.name
  | cons vm rest ih =>
    cases second with
    | nil => simpa [named] using same vm.name
    | cons other later =>
      -- The head of one roster is in the other, too, and so it is not before the head there.
      have least {a b : Vm} {as bs : Roster} (ordered : Ordered (a :: as))
          (same : named (a :: as) b.name = named (b :: bs) b.name) : a.name ≤ b.name := by
        have member : b ∈ named (a :: as) b.name := by
          rw [same]
          simp [named]
        -- It is the head itself, or it stands behind the head and has no lesser name.
        rcases List.mem_cons.mp (List.mem_filter.mp member).1 with rfl | behind
        · exact le_refl _
        · exact List.rel_of_pairwise_cons ordered (List.mem_map_of_mem behind)
      have equal : vm.name = other.name :=
        le_antisymm (least ordered (same _)) (least others (same _).symm)
      -- Both rosters begin with the first virtual machine of the least name, so that is the same one.
      have heads := same vm.name
      rw [named, named, List.filter_cons_of_pos (by simp), List.filter_cons_of_pos (by simp [equal])]
        at heads
      obtain ⟨rfl, _⟩ := List.cons.inj heads
      -- Without the head both still have the same of every name.
      congr 1
      refine ih ordered.of_cons others.of_cons fun name => ?_
      have both := same name
      rw [named, named, List.filter_cons, List.filter_cons] at both
      split at both
      · exact (List.cons.inj both).2
      · exact both

/-- Sorting comes to the same as inserting one virtual machine after the other, the last first, each before
all whose names are not less. -/
theorem sortByName_eq_insertionSort (roster : Roster) :
    roster.sortByName = roster.insertionSort fun a b => a.name ≤ b.name := by
  have total : Std.Total fun a b : Vm => a.name ≤ b.name := ⟨fun a b => le_total a.name b.name⟩
  have trans : IsTrans Vm fun a b => a.name ≤ b.name := ⟨fun _ _ _ => le_trans⟩
  -- Both are in order, and both keep the order of those that share a name.
  refine eq_of_named roster.ordered_sortByName ?_ fun name => ?_
  · exact List.pairwise_map.mpr (List.pairwise_insertionSort _ roster)
  · rw [named_sortByName]
    exact (named_of_stable (List.perm_insertionSort _ roster) (fun _ ordered part =>
      List.sublist_insertionSort ordered part) name).symm

end Fleet.Roster
