import Fleet.OrderedMap
import Mathlib.Data.List.Basic

/-! Laws of ordered maps: what is looked up is what is entered, where an insertion takes place, what is
left after many keys were erased or changed, and values made into others under their keys. -/

namespace Fleet.OrderedMap

variable {α β γ : Type} [DecidableEq α]

/-- A value is looked up under a key exactly when the two are an entry. -/
theorem get?_eq_some_iff (map : OrderedMap α β) (key : α) (value : β) :
    map.get? key = some value ↔ (key, value) ∈ map.entries := by
  -- The first entry of a key is its only one, as keys do not repeat.
  obtain ⟨entries, distinct⟩ := map
  simp only [get?]
  induction entries with
  | nil => simp
  | cons entry rest ih =>
    obtain ⟨fresh, distinct⟩ := List.nodup_cons.mp distinct
    by_cases same : entry.1 = key
    · -- This is the entry of the key, and none of the rest has it.
      subst same
      have absent : (entry.1, value) ∉ rest := fun member =>
        fresh (List.mem_map.mpr ⟨_, member, rfl⟩)
      simp [absent, Prod.ext_iff, eq_comm]
    · -- The entry of another key is passed over.
      have other : (key, value) ≠ entry := fun equal => same (equal ▸ rfl)
      simpa [same, other] using ih distinct

/-- Nothing is looked up under a key exactly when it is none of the keys. -/
theorem get?_eq_none_iff (map : OrderedMap α β) (key : α) :
    map.get? key = none ↔ key ∉ map.keys := by
  simp only [get?, Option.map_eq_none_iff, List.find?_eq_none, decide_eq_true_eq, keys,
    List.mem_map, not_exists, not_and]

/-- Something is looked up under a key exactly when it is one of the keys. -/
theorem isSome_get?_iff (map : OrderedMap α β) (key : α) :
    (map.get? key).isSome ↔ key ∈ map.keys := by
  rw [Option.isSome_iff_ne_none, ne_eq, get?_eq_none_iff, not_not]

/-- A new key goes to the end. -/
theorem entries_insert_of_not_mem {map : OrderedMap α β} {key : α} (fresh : key ∉ map.keys)
    (value : β) : (map.insert key value).entries = map.entries ++ [(key, value)] := by
  obtain ⟨entries, distinct⟩ := map
  simp only [insert, keys] at *
  clear distinct
  -- The key is passed over at every entry until the list ends.
  induction entries with
  | nil => rfl
  | cons entry rest ih =>
    simp only [List.map_cons, List.mem_cons, not_or] at fresh
    rw [insertEntry, if_neg (Ne.symm fresh.1), ih fresh.2, List.cons_append]

/-- A key that was there keeps its place. -/
theorem entries_insert_of_mem {map : OrderedMap α β} {key : α} (known : key ∈ map.keys)
    (value : β) : (map.insert key value).entries =
      map.entries.map fun entry => if entry.1 = key then (key, value) else entry := by
  obtain ⟨entries, distinct⟩ := map
  simp only [insert, keys] at *
  -- The induction goes on up to the entry of the key, which is there.
  induction entries with
  | nil => simp at known
  | cons entry rest ih =>
    obtain ⟨fresh, distinct⟩ := List.nodup_cons.mp distinct
    by_cases same : entry.1 = key
    · -- The entries behind the key's own have other keys and stay as they are.
      have others : ∀ other ∈ rest, (if other.1 = key then (key, value) else other) = other :=
        fun other member => if_neg fun equal =>
          fresh (List.mem_map.mpr ⟨other, member, equal.trans same.symm⟩)
      rw [insertEntry, if_pos same, List.map_cons, if_pos same, List.map_congr_left others,
        List.map_id']
    · -- The entry of another key stays, and the key is among the rest.
      have later : key ∈ rest.map Prod.fst := by simpa [Ne.symm same] using known
      rw [insertEntry, if_neg same, List.map_cons, if_neg same, ih distinct later]

/-- Of two values that are put under one key the later one stays. -/
theorem insert_insert (map : OrderedMap α β) (key : α) (first second : β) :
    (map.insert key first).insert key second = map.insert key second := by
  -- The key has its place after the first insertion, and the second one changes the value there.
  obtain ⟨entries, distinct⟩ := map
  simp only [insert, mk.injEq]
  clear distinct
  induction entries with
  | nil => simp [insertEntry]
  | cons entry rest ih =>
    -- At the entry of the key the later value replaces the earlier, and any other entry is passed over
    -- twice.
    by_cases same : entry.1 = key
    · simp [insertEntry, same]
    · simpa [insertEntry, same] using ih

/-- Changing the value under a key leaves the values under other keys alone. -/
theorem get?_modify (map : OrderedMap α β) (key other : α) (change : β → β) :
    (map.modify key change).get? other =
      if other = key then (map.get? other).map change else map.get? other := by
  -- A changed entry keeps its key, so it is still found where it was.
  obtain ⟨entries, distinct⟩ := map
  simp only [get?, modify]
  clear distinct
  induction entries with
  | nil => simp
  | cons entry rest ih =>
    by_cases here : entry.1 = other
    · -- This is the entry that is looked up, whether it is changed or not.
      subst here
      by_cases same : entry.1 = key <;> simp [same]
    · -- The entry is passed over, as a change does not reach its key.
      have kept : (if entry.1 = key then (entry.1, change entry.2) else entry).1 = entry.1 := by
        split <;> rfl
      simpa [here, kept] using ih

/-- After several keys were erased the entries of the others are left, in their order. -/
theorem entries_foldl_erase (map : OrderedMap α β) (keys : List α) :
    (keys.foldl erase map).entries = map.entries.filter fun entry => entry.1 ∉ keys := by
  -- What the first key leaves is what the others are erased from.
  induction keys generalizing map with
  | nil => simp
  | cons key later ih =>
    rw [List.foldl_cons, ih]
    simp only [erase, List.filter_filter]
    refine List.filter_congr fun entry _ => ?_
    by_cases same : entry.1 = key <;> simp [same]

/-- When values are set under several keys, each entry of one of the keys is changed in its place. A
change that is made again makes no difference. -/
theorem entries_foldl_modify (map : OrderedMap α β) (keys : List α) (change : β → β)
    (again : ∀ value, change (change value) = change value) :
    (keys.foldl (fun map key => map.modify key change) map).entries =
      map.entries.map fun entry => if entry.1 ∈ keys then (entry.1, change entry.2) else entry := by
  -- The induction is on the keys, with the map as it is after the first of them.
  induction keys generalizing map with
  | nil => simp
  | cons key later ih =>
    rw [List.foldl_cons, ih]
    simp only [modify, List.map_map]
    refine List.map_congr_left fun entry _ => ?_
    -- An entry that has the first key and is changed again is one that is changed twice, which comes to
    -- once.
    by_cases same : entry.1 = key <;> by_cases further : entry.1 ∈ later <;> simp_all

/-- A key is there after an insertion exactly when it was inserted or was there before. -/
@[simp]
theorem mem_keys_insert (map : OrderedMap α β) (key other : α) (value : β) :
    other ∈ (map.insert key value).keys ↔ other = key ∨ other ∈ map.keys := by
  -- A key is there when something is looked up under it.
  rw [← isSome_get?_iff, get?_insert, ← isSome_get?_iff]
  split <;> simp_all

/-- A value stands under some key. -/
theorem mem_values_iff (map : OrderedMap α β) (value : β) :
    value ∈ map.values ↔ ∃ key, map.get? key = some value := by
  simp [values, get?_eq_some_iff]

/-- Looking up all keys in their order finds all values in theirs. -/
theorem map_get?_keys (map : OrderedMap α β) : map.keys.map map.get? = map.values.map some := by
  rw [keys, values, List.map_map, List.map_map]
  exact List.map_congr_left fun entry member => (get?_eq_some_iff map entry.1 entry.2).mpr member

/-- The map with each value made into another under its key. -/
def mapValues (map : OrderedMap α β) (make : α → β → γ) : OrderedMap α γ where
  entries := map.entries.map fun entry => (entry.1, make entry.1 entry.2)
  distinct := by simpa [Function.comp_def] using map.distinct

omit [DecidableEq α] in
/-- The keys stay when values are made into others. -/
@[simp]
theorem keys_mapValues (map : OrderedMap α β) (make : α → β → γ) :
    (map.mapValues make).keys = map.keys := by
  simp [keys, mapValues, Function.comp_def]

/-- What is looked up is made from what was there. -/
@[simp]
theorem get?_mapValues (map : OrderedMap α β) (make : α → β → γ) (key : α) :
    (map.mapValues make).get? key = (map.get? key).map (make key) := by
  obtain ⟨entries, distinct⟩ := map
  simp only [get?, mapValues]
  clear distinct
  -- Entries keep their keys, so the first of the key is found where it was found before.
  induction entries with
  | nil => rfl
  | cons entry rest ih =>
    by_cases same : entry.1 = key
    · simp [same]
    · simpa [same] using ih

end Fleet.OrderedMap
