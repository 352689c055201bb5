import Mathlib.Data.List.Induction
import Mathlib.Data.String.Basic

/-! Laws of lists of names: each name once, and names in order. -/

namespace Fleet.Names

/-- A further name stays unless it was there before. -/
theorem eraseDups_concat (names : List String) (name : String) :
    (names ++ [name]).eraseDups =
      if name ∈ names then names.eraseDups else names.eraseDups ++ [name] := by
  rw [List.eraseDups_append]
  by_cases known : name ∈ names <;> simp [List.removeAll, known, List.eraseDups_cons]

/-- Leaving out repetitions leaves out no name. -/
@[simp]
theorem mem_eraseDups (names : List String) (name : String) :
    name ∈ names.eraseDups ↔ name ∈ names := by
  -- The induction is on the last name, as the first of a name stays and later ones are dropped.
  induction names using List.reverseRecOn with
  | nil => simp
  | append_singleton names last ih =>
    rw [eraseDups_concat]
    -- The last name is left out only where it stands already.
    by_cases known : last ∈ names
    · simp only [if_pos known, ih, List.mem_append, List.mem_singleton, iff_self_or]
      rintro rfl
      exact known
    · simp only [if_neg known, List.mem_append, ih]

/-- No name is left twice. -/
theorem nodup_eraseDups (names : List String) : names.eraseDups.Nodup := by
  -- The induction is on the last name, which is added only if it is new.
  induction names using List.reverseRecOn with
  | nil => simp
  | append_singleton names last ih =>
    rw [eraseDups_concat]
    by_cases known : last ∈ names
    · rwa [if_pos known]
    · rw [if_neg known, List.nodup_append]
      -- A new name is not among those that are left, as these are all names there were.
      refine ⟨ih, by simp, fun name member other same => ?_⟩
      rw [List.mem_singleton] at same
      rintro rfl
      exact known (same ▸ (mem_eraseDups names name).mp member)

/-- The names that are left stand in their order. -/
theorem eraseDups_sublist (names : List String) : names.eraseDups.Sublist names := by
  -- The induction is on the last name.
  induction names using List.reverseRecOn with
  | nil => simp
  | append_singleton names last ih =>
    rw [eraseDups_concat]
    by_cases known : last ∈ names
    · -- The last name is dropped, and what is left is part of what came before.
      rw [if_pos known]
      exact ih.trans (List.sublist_append_left names [last])
    · -- The last name stays behind what is left of the others.
      rw [if_neg known]
      exact ih.append (.refl _)

/-- As many names are left as there were exactly when none of them stood there twice. -/
theorem length_eraseDups_eq_iff {names : List String} :
    names.eraseDups.length = names.length ↔ names.Nodup := by
  constructor
  · -- A part that is as long as the whole is the whole, and in it nothing repeats.
    intro size
    exact (eraseDups_sublist names).eq_of_length size ▸ nodup_eraseDups names
  · -- The two lists have the same names, and no name twice, so they are as long as each other.
    intro distinct
    exact ((List.perm_ext_iff_of_nodup (nodup_eraseDups names) distinct).mpr
      fun name => mem_eraseDups names name).length_eq

/-- Names in order. -/
def sorted (names : List String) : List String :=
  names.mergeSort fun a b => a ≤ b

/-- Sorting keeps every name. -/
@[simp]
theorem mem_sorted (names : List String) (name : String) : name ∈ sorted names ↔ name ∈ names :=
  List.mem_mergeSort

/-- Sorting leaves as many names as there were. -/
@[simp]
theorem length_sorted (names : List String) : (sorted names).length = names.length :=
  List.length_mergeSort names

/-- Names that are sorted and do not repeat stand in strictly ascending order. -/
theorem sorted_ascending {names : List String} (distinct : names.Nodup) :
    (sorted names).Pairwise (· < ·) := by
  -- Sorting orders weakly, and no two neighbours can be the same.
  have weak : (sorted names).Pairwise fun a b => decide (a ≤ b) = true :=
    List.pairwise_mergeSort (fun a b c => by simpa using le_trans) (fun a b => by simpa using le_total a b) _
  have different : (sorted names).Pairwise (· ≠ ·) :=
    (List.mergeSort_perm names _).nodup_iff.mpr distinct
  exact (weak.and different).imp fun ⟨le, ne⟩ => lt_of_le_of_ne (by simpa using le) ne

/-- The same names stand in the same order, if none of them is there twice. -/
theorem sorted_eq {names others : List String} (distinct : names.Nodup) (distinctToo : others.Nodup)
    (same : ∀ name, name ∈ names ↔ name ∈ others) : sorted names = sorted others := by
  -- Sorting keeps the names, so both sides have the same ones.
  have perm : (sorted names).Perm (sorted others) :=
    (List.mergeSort_perm _ _).trans (((List.perm_ext_iff_of_nodup distinct distinctToo).mpr same).trans
      (List.mergeSort_perm _ _).symm)
  -- Two lists in strict order with the same names are equal, as no name is both before and behind
  -- another.
  refine perm.eq_of_pairwise (fun a b _ _ less greater => ?_) (sorted_ascending distinct)
    (sorted_ascending distinctToo)
  exact absurd (less.trans greater) (lt_irrefl a)

end Fleet.Names
