import Fleet.Roster
import Fleet.Proofs.Names
import Fleet.Proofs.OrderedMap

/-! Laws of rosters: grouping by provider gives each owner its share, and the shares together are the
roster. -/

namespace Fleet.Roster

/-- The names of the providers that have some of the virtual machines, in order of first
appearance. -/
def owners (roster : Roster) : List String := (roster.map Vm.provider).eraseDups

/-- The virtual machines of one provider, in order. -/
def share (roster : Roster) (owner : String) : Roster :=
  roster.filter fun vm => vm.provider == owner

/-- Sorting keeps every virtual machine. -/
@[simp]
theorem mem_sortByName (roster : Roster) (vm : Vm) : vm ∈ roster.sortByName ↔ vm ∈ roster :=
  List.mem_mergeSort

/-- A name is an owner's exactly when some virtual machine is of that provider. -/
theorem mem_owners (roster : Roster) (owner : String) :
    owner ∈ roster.owners ↔ ∃ vm ∈ roster, vm.provider = owner := by
  simp [owners]

/-- Each owner is named once. -/
theorem nodup_owners (roster : Roster) : roster.owners.Nodup :=
  Names.nodup_eraseDups _

/-- A further virtual machine adds its provider to the owners, unless it was one before. -/
theorem owners_concat (roster : Roster) (vm : Vm) :
    owners (roster ++ [vm]) =
      if vm.provider ∈ roster.owners then roster.owners else roster.owners ++ [vm.provider] := by
  -- Its provider goes last among the owners if it is new.
  simp only [owners, List.map_append, List.map_cons, List.map_nil, Names.eraseDups_concat,
    Names.mem_eraseDups]

/-- A further virtual machine adds to the share of its provider alone. -/
theorem share_concat (roster : Roster) (vm : Vm) (owner : String) :
    share (roster ++ [vm]) owner =
      if vm.provider = owner then roster.share owner ++ [vm] else roster.share owner := by
  by_cases same : vm.provider = owner <;> simp [share, same]

/-- Who owns nothing has no share. -/
theorem share_eq_nil {roster : Roster} {owner : String} (none : owner ∉ roster.owners) :
    roster.share owner = [] := by
  rw [share, List.filter_eq_nil_iff]
  intro vm member same
  exact none ((mem_owners roster owner).mpr ⟨vm, member, by simpa using same⟩)

/-- Grouping by provider gives each owner its share. -/
theorem entries_byProvider (roster : Roster) :
    roster.byProvider.entries = roster.owners.map fun owner => (owner, roster.share owner) := by
  -- The grouping takes in one virtual machine after another, so the induction is on the last one.
  induction roster using List.reverseRecOn with
  | nil => rfl
  | append_singleton roster vm ih =>
    have keys : (byProvider roster).keys = owners roster := by
      simp [OrderedMap.keys, ih, Function.comp_def]
    -- The group of its provider so far is the share so far.
    have held : ((byProvider roster).get? vm.provider).getD [] = share roster vm.provider := by
      -- A provider is among the owners exactly when it has a group already.
      by_cases known : vm.provider ∈ owners roster
      · have entry : (vm.provider, share roster vm.provider) ∈ (byProvider roster).entries := by
          rw [ih]
          exact List.mem_map.mpr ⟨_, known, rfl⟩
        rw [(OrderedMap.get?_eq_some_iff _ _ _).mpr entry, Option.getD_some]
      · -- A provider without a group has no share yet, so the new group begins with nothing.
        rw [(OrderedMap.get?_eq_none_iff _ _).mpr (keys ▸ known), Option.getD_none,
          share_eq_nil known]
    have grouped : byProvider (roster ++ [vm]) =
        (byProvider roster).insert vm.provider (share roster vm.provider ++ [vm]) := by
      simp only [byProvider, List.foldl_append, List.foldl_cons, List.foldl_nil, addToGroup]
      rw [← byProvider, held]
    rw [grouped, owners_concat]
    by_cases known : vm.provider ∈ owners roster
    · -- A group that was there grows in its place.
      rw [OrderedMap.entries_insert_of_mem (keys ▸ known), ih, if_pos known, List.map_map]
      refine List.map_congr_left fun owner _ => ?_
      -- Only the share of the new one's provider has grown.
      by_cases same : vm.provider = owner
      · simp [share_concat, same]
      · simp [share_concat, same, Ne.symm same]
    · -- A new group goes to the end, and the others stay.
      rw [OrderedMap.entries_insert_of_not_mem (keys ▸ known), ih, if_neg known, List.map_append]
      congr 1
      · -- The owners that were there are other providers, whose shares have not grown.
        refine List.map_congr_left fun owner member => ?_
        have other : vm.provider ≠ owner := fun same => known (same ▸ member)
        rw [share_concat, if_neg other]
      · simp [share_concat]

/-- The shares of distinct owners are the virtual machines of these owners. -/
theorem flatMap_share_perm (roster : Roster) {names : List String} (distinct : names.Nodup) :
    (names.flatMap roster.share).Perm (roster.filter fun vm => names.contains vm.provider) := by
  -- The induction is on the owners, who are distinct, so that no share is counted twice.
  induction names with
  | nil => simp
  | cons name rest ih =>
    obtain ⟨fresh, distinct⟩ := List.nodup_cons.mp distinct
    -- The first share and the others divide what all the owners have.
    have split := List.filter_append_perm (fun vm => vm.provider == name)
      (roster.filter fun vm => (name :: rest).contains vm.provider)
    refine List.Perm.trans ?_ split
    rw [List.flatMap_cons, List.filter_filter, List.filter_filter]
    -- Of the first owner are those that are of any of the owners and of the first.
    have first : roster.filter (fun vm => vm.provider == name &&
        (name :: rest).contains vm.provider) = roster.share name :=
      List.filter_congr fun vm _ => by
        by_cases same : vm.provider = name <;> simp [same]
    -- Of the others are those that are of any of the owners but not of the first, who does not come
    -- again.
    have others : roster.filter (fun vm => !(vm.provider == name) &&
        (name :: rest).contains vm.provider) = roster.filter fun vm => rest.contains vm.provider :=
      List.filter_congr fun vm _ => by
        by_cases same : vm.provider = name
        · simp [same, fresh]
        · simp [same]
    rw [first, others]
    exact (ih distinct).append_left _

end Fleet.Roster
