import Fleet.OrderedMap
import Fleet.Program

/-! Registries: what goes by a name of its own, each under that name. -/

namespace Fleet

/-- What goes by a name of its own. -/
class Named (π : Type) where
  name : π → String

/-- Everything registered, under its own name and in order of first registration. -/
structure Registry (π : Type) where
  members : OrderedMap String π

namespace Registry

variable {π : Type}

/-- The registry with nothing in it. -/
def empty : Registry π := ⟨.empty⟩

/-- The registry with one more member, which takes the place of an earlier one of its name. -/
def register [Named π] (registry : Registry π) (member : π) : Registry π :=
  ⟨registry.members.insert (Named.name member) member⟩

/-- The names, in order of first registration. -/
def names (registry : Registry π) : List String := registry.members.keys

/-- Whether something goes by the name. -/
def contains (registry : Registry π) (name : String) : Bool := registry.members.contains name

/-- The number of members. -/
def size (registry : Registry π) : Nat := registry.members.size

/-- The members, in the order of their names. -/
def toList (registry : Registry π) : List π := registry.members.values

/-- The member of a name. -/
def get (registry : Registry π) (name : String) : Except Fault π :=
  match registry.members.get? name with
  | some member => .ok member
  | none => .error (.fleet ⟨.unknownProvider, s!"unknown vm provider: {name}", some name, none⟩)

/-- The registry with one more member. It is told when that takes the place of another. -/
def enroll {σ : Type} [Host σ] [Named π] (registry : Registry π) (member : π) :
    StateM σ (Registry π) := do
  if registry.contains (Named.name member) then
    tell σ .warning s!"Replacing registered provider: {Named.name member}"
  return registry.register member

end Registry

end Fleet
