import Fleet.OrderedMap
import Fleet.Vm

/-! Rosters: virtual machines in order. -/

namespace Fleet

/-- Virtual machines in order. -/
abbrev Roster := List Vm

namespace Roster

/-- The largest number of positions that a list could have. -/
def positionLimit : Int := 9223372036854775808

/-- The place that a position names in a list of the given length. Positions below zero count
from the end. -/
def place (length : Nat) (position : Int) : Except PositionError Nat :=
  if position < -positionLimit || positionLimit ≤ position then .error .tooLarge
  else
    let place := if position < 0 then position + length else position
    if 0 ≤ place && place < length then .ok place.toNat else .error .outside

/-- The virtual machine at a position. -/
def at? (roster : Roster) (position : Int) : Except PositionError Vm := do
  let place ← place roster.length position
  match roster[place]? with
  | some vm => .ok vm
  | none => .error .outside

/-- Whether the name at one position comes before the name at another. -/
def less (roster : Roster) (i j : Int) : Except PositionError Bool := do
  let first ← roster.at? i
  let second ← roster.at? j
  return first.name < second.name

/-- The roster with two positions exchanged. -/
def swap (roster : Roster) (i j : Int) : Except PositionError Roster := do
  let second ← roster.at? j
  let first ← roster.at? i
  let here ← place roster.length i
  let there ← place roster.length j
  return (roster.set here second).set there first

/-- Whether one name may stand before another in a sorted roster. -/
def nameOrder (a b : Vm) : Bool := a.name ≤ b.name

/-- The roster in order of names. Virtual machines of one name keep their order. -/
def sortByName (roster : Roster) : Roster :=
  roster.mergeSort nameOrder

/-- The names in order. -/
def names (roster : Roster) : List String := roster.map Vm.name

/-- The zones in order. -/
def zones (roster : Roster) : List String := roster.map Vm.zone

/-- Adds a virtual machine to the end of its provider's group. -/
def addToGroup (groups : OrderedMap String Roster) (vm : Vm) : OrderedMap String Roster :=
  groups.insert vm.provider ((groups.get? vm.provider).getD [] ++ [vm])

/-- The virtual machines of each provider, providers in order of first appearance. -/
def byProvider (roster : Roster) : OrderedMap String Roster :=
  roster.foldl addToGroup .empty

end Roster

end Fleet
