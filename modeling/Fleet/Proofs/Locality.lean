import Fleet.Vm
import Mathlib.Data.List.Basic

/-! Localities: a zone has one region at most, which is told with it, and a zone without one is refused. -/

namespace Fleet

namespace Zone

/-- A zone is its region, then one hyphen or none, then a small letter. The region is not empty, and does
not end with a hyphen. -/
structure RegionOf (zone region : String) : Prop where
  closed : ∃ before last, region.toList = before ++ [last] ∧ last ≠ '-'
  named : ∃ letter, Label.isLetter letter = true ∧
    (zone.toList = region.toList ++ [letter] ∨ zone.toList = region.toList ++ ['-', letter])

/-- No region is another text with a hyphen behind it. -/
theorem RegionOf.ne_hyphened {zone region : String} (is : RegionOf zone region) (other : List Char) :
    region.toList ≠ other ++ ['-'] := by
  obtain ⟨before, last, ends, differs⟩ := is.closed
  rw [ends]
  exact fun same => differs (List.cons.inj (List.append_inj' same rfl).2).1

/-- A zone has one region at most. -/
theorem RegionOf.unique {zone first second : String} (one : RegionOf zone first)
    (other : RegionOf zone second) : first = second := by
  -- If only one of them stood before a hyphen, the other would end with it.
  obtain ⟨letter, _, reads⟩ := one.named
  obtain ⟨letter', _, again⟩ := other.named
  refine String.toList_injective ?_
  -- Each of the two readings has the hyphen or has none, which makes four cases.
  rcases reads with reads | reads <;> rw [reads] at again <;> rcases again with same | same
  · -- Both are the zone without its last letter.
    exact (List.append_inj' same rfl).1
  · have longer : first.toList ++ [letter] = (second.toList ++ ['-']) ++ [letter'] := by simpa using same
    -- The one of them would end in a hyphen, which no region does.
    exact absurd (List.append_inj' longer rfl).1 (one.ne_hyphened _)
  · have longer : (first.toList ++ ['-']) ++ [letter] = second.toList ++ [letter'] := by simpa using same
    exact absurd (List.append_inj' longer rfl).1.symm (other.ne_hyphened _)
  · -- Both are the zone without its last two letters.
    exact (List.append_inj' same rfl).1

/-- Backwards, the region is what follows the letter and one hyphen or none. It begins with something else
than a hyphen, and has no line break after that. -/
theorem regionBackwards_cons_eq_some_iff {letter : Char} {rest region : List Char} :
    regionBackwards (letter :: rest) = some region ↔ Label.isLetter letter = true ∧
      (rest = region ∨ rest = '-' :: region) ∧
      ∃ last before, region = last :: before ∧ last ≠ '-' ∧ '\n' ∉ before := by
  constructor
  · -- Every test that was passed is one of the conditions.
    intro read
    simp only [regionBackwards] at read
    split at read
    · next last before left =>
      split at read
      · next fits =>
        obtain rfl := Option.some.inj read
        simp only [Bool.and_eq_true, bne_iff_ne, ne_eq, Bool.not_eq_true', List.contains_eq_mem,
          decide_eq_false_iff_not] at fits
        refine ⟨fits.1.1, ?_, last, before, left, fits.1.2, fits.2⟩
        -- Whether there is a hyphen decides where the region begins.
        split
        · exact .inr rfl
        · exact .inl rfl
      · cases read
    · cases read
  · -- What fulfils the conditions passes every test.
    rintro ⟨lower, rfl | rfl, last, before, rfl, differs, unbroken⟩
    · simp [regionBackwards, lower, differs, unbroken]
    · simp [regionBackwards, lower, differs, unbroken]

/-- In a zone without line breaks exactly its region is found. -/
theorem region?_eq_some_iff {zone region : String} (unbroken : '\n' ∉ zone.toList) :
    region? zone = some region ↔ RegionOf zone region := by
  -- There is no line break to drop, so all of the zone is read backwards.
  have whole : Text.dropFinalBreak zone.toList = zone.toList :=
    if_neg fun ends => unbroken (List.mem_of_getLast? (by simpa using ends))
  rw [region?, whole, Option.map_eq_some_iff]
  constructor
  · -- What was read backwards begins with the letter.
    rintro ⟨backwards, read, rfl⟩
    rcases letters : zone.toList.reverse with _ | ⟨letter, rest⟩
    · rw [letters] at read
      cases read
    · rw [letters, regionBackwards_cons_eq_some_iff] at read
      obtain ⟨lower, begins, last, before, rfl, differs, _⟩ := read
      refine ⟨⟨before.reverse, last, by simp, differs⟩, letter, lower, ?_⟩
      -- The zone is turned round again.
      rw [← List.reverse_reverse (zone.toList), letters]
      rcases begins with rfl | rfl
      · exact .inl (by simp)
      · exact .inr (by simp)
  · -- The region is known, so the zone is put together from it and read backwards.
    rintro ⟨⟨before, last, ends, differs⟩, letter, lower, reads⟩
    refine ⟨region.toList.reverse, ?_, by simp⟩
    -- The region has no line break, as it is part of the zone.
    have clear : '\n' ∉ before := fun member => unbroken <| by
      rcases reads with reads | reads <;> simp [reads, ends, member]
    have begins : region.toList.reverse = last :: before.reverse := by simp [ends]
    -- The letter stands right behind the region, or behind a hyphen.
    rcases reads with reads | reads
    · rw [reads, List.reverse_append]
      exact regionBackwards_cons_eq_some_iff.mpr
        ⟨lower, .inl rfl, last, before.reverse, begins, differs, by simpa using clear⟩
    · rw [reads, List.reverse_append]
      exact regionBackwards_cons_eq_some_iff.mpr
        ⟨lower, .inr rfl, last, before.reverse, begins, differs, by simpa using clear⟩

end Zone

namespace Vm

/-- The locality of a virtual machine whose zone has no line break. The local zone is its own region. Any
other zone has one region at most, which is told with it, and a zone that has none is refused for its
provider. -/
theorem locality_parses (vm : Vm) (unbroken : '\n' ∉ vm.zone.toList) :
    (vm.zone = "local" → vm.locality = .ok "region=local,zone=local") ∧
    (vm.zone ≠ "local" →
      (∀ first second, Zone.RegionOf vm.zone first → Zone.RegionOf vm.zone second → first = second) ∧
      (∀ region, Zone.RegionOf vm.zone region →
        vm.locality = .ok s!"region={region},zone={vm.zone}") ∧
      ((¬ ∃ region, Zone.RegionOf vm.zone region) → vm.locality = .error (.fleet
        ⟨.malformedZone vm.zone, "unable to parse region from zone " ++ Text.quote vm.zone,
          some vm.provider, none⟩))) := by
  refine ⟨fun here => ?_, fun away => ?_⟩
  · -- Here no region is looked for.
    simp only [locality, isLocal, here]
    rfl
  · -- Away from here the region decides.
    have elsewhere : vm.isLocal = false := beq_eq_false_iff_ne.mpr away
    refine ⟨fun first second => Zone.RegionOf.unique, fun region is => ?_, fun none => ?_⟩
    · -- The region is found, and told with the zone.
      simp only [locality, elsewhere, (Zone.region?_eq_some_iff unbroken).mpr is]
      rfl
    · -- If one were found, it would be a region of the zone.
      have missing : Zone.region? vm.zone = Option.none :=
        Option.eq_none_iff_forall_ne_some.mpr fun region found =>
          none ⟨region, (Zone.region?_eq_some_iff unbroken).mp found⟩
      simp only [locality, elsewhere, missing]
      rfl

/-- A virtual machine in a zone of one letter after a hyphen. -/
def inEastB : Vm :=
  { name := "web", provider := "gce", createdAt := ⟨86400000000, none, by decide⟩, zone := "us-east1-b" }

/-- The region of the zone `us-east1-b` is all but its last two letters. -/
theorem locality_parses_inEastB :
    '\n' ∉ inEastB.zone.toList ∧ Zone.RegionOf inEastB.zone "us-east1" ∧
      inEastB.locality = .ok "region=us-east1,zone=us-east1-b" := by
  have unbroken : '\n' ∉ inEastB.zone.toList := by decide +kernel
  have region : Zone.RegionOf inEastB.zone "us-east1" :=
    ⟨⟨"us-east".toList, '1', by decide +kernel, by decide⟩, 'b', rfl, .inr (by decide +kernel)⟩
  exact ⟨unbroken, region, ((locality_parses inEastB unbroken).2 (by decide)).2.1 _ region⟩

end Vm

end Fleet
