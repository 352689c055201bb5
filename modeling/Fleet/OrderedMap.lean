/-! Maps that keep their entries in the order in which their keys were first inserted. -/

namespace Fleet

/-- A map whose entries stand in order of first insertion, one for each key. -/
structure OrderedMap (α β : Type) where
  entries : List (α × β)
  distinct : (entries.map Prod.fst).Nodup
deriving DecidableEq

namespace OrderedMap

variable {α β : Type} [DecidableEq α]

/-- Puts a value under a key: in the key's place, or at the end if the key is new. -/
def insertEntry (key : α) (value : β) : List (α × β) → List (α × β)
  | [] => [(key, value)]
  | entry :: rest =>
    if entry.1 = key then (key, value) :: rest else entry :: insertEntry key value rest

/-- Inserting keeps the keys in place and appends a new one. -/
theorem keys_insertEntry (key : α) (value : β) (entries : List (α × β)) :
    (insertEntry key value entries).map Prod.fst =
      if key ∈ entries.map Prod.fst then entries.map Prod.fst
      else entries.map Prod.fst ++ [key] := by
  induction entries with
  | nil => simp [insertEntry]
  | cons entry rest ih =>
    by_cases same : entry.1 = key
    · simp [insertEntry, same]
    · have other : key ≠ entry.1 := fun h => same h.symm
      simp only [insertEntry, if_neg same, List.map_cons, ih, List.mem_cons, other, false_or]
      split <;> simp

/-- The map without entries. -/
def empty : OrderedMap α β := ⟨[], by simp⟩

instance : EmptyCollection (OrderedMap α β) := ⟨empty⟩

/-- The keys, in order of first insertion. -/
def keys (map : OrderedMap α β) : List α := map.entries.map Prod.fst

/-- The values, in the order of their keys. -/
def values (map : OrderedMap α β) : List β := map.entries.map Prod.snd

/-- The number of entries. -/
def size (map : OrderedMap α β) : Nat := map.entries.length

/-- The value under a key. -/
def get? (map : OrderedMap α β) (key : α) : Option β :=
  (map.entries.find? fun entry => entry.1 = key).map Prod.snd

/-- Whether a key has a value. -/
def contains (map : OrderedMap α β) (key : α) : Bool := (map.get? key).isSome

/-- The map with a value under a key. A new key goes to the end. -/
def insert (map : OrderedMap α β) (key : α) (value : β) : OrderedMap α β where
  entries := insertEntry key value map.entries
  distinct := by
    rw [keys_insertEntry]
    split
    · exact map.distinct
    · next absent =>
      rw [List.nodup_append]
      refine ⟨map.distinct, by simp, fun a present b new => ?_⟩
      rw [List.mem_singleton] at new
      exact fun same => absent (new ▸ same ▸ present)

/-- The map without a key. -/
def erase (map : OrderedMap α β) (key : α) : OrderedMap α β where
  entries := map.entries.filter fun entry => entry.1 ≠ key
  distinct := map.distinct.sublist (List.filter_sublist.map _)

/-- The map with a function applied to the value under a key. -/
def modify (map : OrderedMap α β) (key : α) (change : β → β) : OrderedMap α β where
  entries := map.entries.map fun entry =>
    if entry.1 = key then (entry.1, change entry.2) else entry
  distinct := by
    have same : Prod.fst ∘ (fun entry : α × β =>
        if entry.1 = key then (entry.1, change entry.2) else entry) = Prod.fst := by
      funext entry
      simp only [Function.comp_apply]
      split <;> rfl
    rw [List.map_map, same]
    exact map.distinct

/-- The map of a list of pairs. Of several values for one key the last one stays. -/
def ofList (pairs : List (α × β)) : OrderedMap α β :=
  pairs.foldl (fun map pair => map.insert pair.1 pair.2) empty

omit [DecidableEq α] in
/-- The keys do not repeat. -/
theorem nodup_keys (map : OrderedMap α β) : map.keys.Nodup := map.distinct

omit [DecidableEq α] in
/-- There are no keys in the map without entries. -/
@[simp]
theorem keys_empty : (empty : OrderedMap α β).keys = [] := rfl

/-- Inserting keeps the keys in place and appends a new one. -/
theorem keys_insert (map : OrderedMap α β) (key : α) (value : β) :
    (map.insert key value).keys = if key ∈ map.keys then map.keys else map.keys ++ [key] :=
  keys_insertEntry key value map.entries

/-- A key that was inserted has the inserted value, and the others keep theirs. -/
theorem get?_insert (map : OrderedMap α β) (key other : α) (value : β) :
    (map.insert key value).get? other = if other = key then some value else map.get? other := by
  obtain ⟨entries, distinct⟩ := map
  simp only [get?, insert]
  clear distinct
  induction entries with
  | nil => grind [insertEntry]
  | cons entry rest ih => grind [insertEntry]

/-- A key that was erased has no value, and the others keep theirs. -/
theorem get?_erase (map : OrderedMap α β) (key other : α) :
    (map.erase key).get? other = if other = key then none else map.get? other := by
  obtain ⟨entries, distinct⟩ := map
  simp only [get?, erase]
  clear distinct
  induction entries with
  | nil => grind
  | cons entry rest ih => grind

/-- Erasing removes the key and keeps the order of the others. -/
theorem keys_erase (map : OrderedMap α β) (key : α) :
    (map.erase key).keys = map.keys.filter fun other => other ≠ key := by
  simp [keys, erase, List.filter_map, Function.comp_def]

/-- Changing the value under a key leaves the keys as they are. -/
theorem keys_modify (map : OrderedMap α β) (key : α) (change : β → β) :
    (map.modify key change).keys = map.keys := by
  simp only [keys, modify, List.map_map]
  refine List.map_congr_left fun entry _ => ?_
  simp only [Function.comp_apply]
  split <;> rfl

end OrderedMap

end Fleet
