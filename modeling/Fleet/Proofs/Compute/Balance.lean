import Fleet.Proofs.Compute.Create
import Mathlib.Algebra.Order.Floor.Div
import Mathlib.Data.Int.CardIntervalMod

/-! Instances that are spread over zones: the zones take turns, so no position among them is used more than once
more often than another, and further instances leave the places of the first ones alone. -/

namespace Fleet.Compute

variable {zones : Nat}

/-- The positions of zones that take turns. After the last of them it is the first one's turn again. -/
def turns (some : 0 < zones) (count : Nat) : List (Fin zones) :=
  (List.range count).map fun place => ⟨place % zones, Nat.mod_lt place some⟩

/-- With each further instance the next position has its turn. -/
theorem turns_succ (some : 0 < zones) (count : Nat) :
    turns some (count + 1) = turns some count ++ [⟨count % zones, Nat.mod_lt count some⟩] := by
  rw [turns, List.range_succ, List.map_append]
  rfl

/-- The first turns are the same for however many instances. -/
theorem take_turns (some : 0 < zones) {fewer count : Nat} (within : fewer ≤ count) :
    (turns some count).take fewer = turns some fewer := by
  rw [turns, ← List.map_take, List.take_range, Nat.min_eq_left within, turns]

/-- A position has its turn once in each full round, and once more in the round that is not full if it is among
the positions that this one reaches. -/
theorem count_turns (some : 0 < zones) (count : Nat) (position : Fin zones) :
    (turns some count).count position =
      count / zones + if (position : Nat) < count % zones then 1 else 0 := by
  -- It has its turn at the places that leave it as their remainder.
  have reached : (turns some count).count position = count.count (· ≡ position [MOD zones]) := by
    induction count with
    | zero => rfl
    | succ count ih =>
      -- The next instance has the turn of the position exactly when its number leaves that remainder.
      have own : (⟨count % zones, Nat.mod_lt count some⟩ : Fin zones) = position ↔
          count ≡ position [MOD zones] := by
        rw [Fin.ext_iff, Nat.ModEq, Nat.mod_eq_of_lt position.isLt]
      rw [turns_succ, List.count_append, ih, Nat.count_succ, List.count_singleton]
      simp only [beq_iff_eq, own]
  rw [reached, Nat.count_modEq_card count some, Nat.mod_eq_of_lt position.isLt]

/-- The turns of positions are as even as their number allows. -/
theorem count_turns_even (some : 0 < zones) (count : Nat) (position : Fin zones) :
    (turns some count).count position = count / zones ∨ (turns some count).count position = count ⌈/⌉ zones := by
  rw [count_turns, Nat.ceilDiv_eq_add_pred_div]
  split
  · next reached =>
    -- A round that is not full has something in it, so rounding up counts it.
    right
    have divided := Nat.div_add_mod count zones
    have rounded : count + zones - 1 = (count % zones - 1) + zones * (count / zones + 1) := by
      rw [Nat.mul_succ]
      omega
    have rest : (count % zones - 1) / zones = 0 :=
      Nat.div_eq_of_lt (by have := Nat.mod_lt count some; omega)
    rw [rounded, Nat.add_mul_div_left _ _ some, rest, Nat.zero_add]
  · -- After full rounds alone every position had its turn as often as there were rounds.
    exact .inl rfl

/-- Instances that are spread are placed at the positions in turn. -/
theorem zonesFor_spread {settings : Settings} (some : 0 < settings.zones.toList.length) (count : Nat) :
    settings.zonesFor count true = (turns some count).map settings.zones.toList.get := by
  -- The zones of the settings are those to choose from, as there are some.
  have choice : settings.choice = settings.zones.toList := by
    unfold Settings.choice
    split
    · next none => simp [none] at some
    · rfl
  simp only [Settings.zonesFor, choice, if_true, turns, List.map_map]
  refine List.map_congr_left fun place _ => ?_
  simp [List.getD_eq_getElem?_getD, Nat.mod_lt place some]

/-- Instances are placed in zones at positions of a list, which are used as evenly as can be. -/
structure Balanced (zones : List String) (used : List (Fin zones.length)) (placed : List String) : Prop where
  /-- Each instance is in the zone at its position. -/
  located : placed = used.map zones.get
  /-- The positions follow each other, and the first one follows the last. -/
  inTurn : used.map Fin.val = (List.range placed.length).map (· % zones.length)
  even : ∀ position, used.count position = placed.length / zones.length ∨
    used.count position = placed.length ⌈/⌉ zones.length
  /-- The first positions are used once more than the others, as many of them as the remainder. -/
  extra : ∀ position, used.count position =
    placed.length / zones.length + if (position : Nat) < placed.length % zones.length then 1 else 0

/-- Any number of instances that are spread over zones of the settings are as many as that, all in these zones,
and use their positions as evenly as can be, the first positions once more where the number leaves a remainder.
Fewer instances are placed as the first of them are. -/
theorem zonesFor_balanced {settings : Settings} (configured : settings.zones.toList ≠ []) (count : Nat) :
    (settings.zonesFor count true).length = count ∧
      (∀ zone ∈ settings.zonesFor count true, zone ∈ settings.zones.toList) ∧
      (∃ used, Balanced settings.zones.toList used (settings.zonesFor count true)) ∧
      ∀ fewer ≤ count, settings.zonesFor fewer true = (settings.zonesFor count true).take fewer := by
  have some : 0 < settings.zones.toList.length := List.length_pos_iff.mpr configured
  have size := length_zonesFor settings count true
  refine ⟨size, fun zone member => ?_, ⟨turns some count, zonesFor_spread some count, ?_, ?_, ?_⟩,
    fun fewer within => ?_⟩
  · -- A zone is one of the positions in turn.
    rw [zonesFor_spread some] at member
    obtain ⟨position, _, rfl⟩ := List.mem_map.mp member
    exact List.get_mem _ position
  · -- Nobody sits out, so there are as many turns as instances.
    rw [size, turns, List.map_map]
    rfl
  · rw [size]
    -- That the turns are even, and which positions come first, was counted for positions.
    exact count_turns_even some count
  · rw [size]
    exact count_turns some count
  · -- The turns of fewer instances are the first of these turns.
    rw [zonesFor_spread some, zonesFor_spread some, ← List.map_take, take_turns some within]

/-- Settings with two zones. -/
def twoZones : Settings :=
  { project := .nothing, zones := .texts ["us-east1-b", "us-west1-b"] }

/-- Five instances are spread over two zones: the first zone gets three of them, the other one two, and the first
three are placed as they would be alone. -/
theorem zonesFor_balanced_twoZones :
    twoZones.zones.toList ≠ [] ∧ (∃ used, Balanced twoZones.zones.toList used (twoZones.zonesFor 5 true)) ∧
      (twoZones.zonesFor 5 true).count "us-east1-b" = 3 ∧ (twoZones.zonesFor 5 true).count "us-west1-b" = 2 ∧
      3 ≤ 5 ∧ twoZones.zonesFor 3 true = (twoZones.zonesFor 5 true).take 3 := by
  have configured : twoZones.zones.toList ≠ [] := by decide
  obtain ⟨_, _, balanced, first⟩ := zonesFor_balanced configured 5
  exact ⟨configured, balanced, by decide, by decide, by decide, first 3 (by decide)⟩

end Fleet.Compute
