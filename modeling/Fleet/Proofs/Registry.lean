import Fleet.Proofs.OrderedMap
import Fleet.Registry
import Mathlib.Data.List.Induction

/-! Laws of registries: a member is found under its own name, whatever was registered before and after
it. -/

namespace Fleet.Registry

variable {π : Type} [Named π]

/-- The registry with members registered one after the other. -/
def ofList (members : List π) : Registry π := members.foldl register empty

/-- The last registration follows the earlier ones. -/
theorem ofList_concat (members : List π) (last : π) :
    ofList (members ++ [last]) = (ofList members).register last := by
  rw [ofList, List.foldl_append]
  rfl

/-- A member that is registered is found under its name, and all other names find what they did. -/
theorem get_register (registry : Registry π) (member : π) (name : String) :
    (registry.register member).get name =
      if name = Named.name member then .ok member else registry.get name := by
  -- Looking a name up looks its key up among the members.
  simp only [get, register, OrderedMap.get?_insert]
  by_cases own : name = Named.name member
  · simp only [if_pos own]
  · simp only [if_neg own]

/-- Whoever is found under a name after registering goes by that name. -/
theorem name_of_get_ofList {members : List π} {name : String} {member : π}
    (found : (ofList members).get name = .ok member) : Named.name member = name := by
  -- The last registration decides for its own name, and the earlier ones for all others.
  induction members using List.reverseRecOn with
  | nil => cases found
  | append_singleton earlier last ih =>
    rw [ofList_concat, get_register] at found
    -- Under its own name the last registration is found, and under any other what was found before.
    by_cases own : name = Named.name last
    · rw [if_pos own] at found
      cases found
      exact own.symm
    · rw [if_neg own] at found
      exact ih found

end Fleet.Registry
