import Fleet.Proofs.LocalHistory

/-! Names on the machine at hand: after any calls the machines that were created have names of their own,
and each of them can be deleted, unless one was created under the name of the machine at hand. That one can
never be deleted again. -/

namespace Fleet.LocalHost

open LocalFleet (machine without)

/-- A call creates a machine of the name: it asks for one, and the calendar has the time. -/
def Creates (name : String) (call : Site × Asking) : Prop :=
  ∃ names options now, call.2 = .create names options ∧ call.1.now = .ok now ∧ name ∈ names

/-- A call makes a name live exactly when it creates a machine of it. -/
theorem exists_made_iff {name : String} {call : Site × Asking} :
    (∃ touch ∈ call.2.touches call.1, touch.presence name = some true) ↔ Creates name call := by
  obtain ⟨site, asking⟩ := call
  -- Only creating makes names live, and it does so with each of its names if the time is known.
  cases asking with
  | create names options =>
    cases told : site.now with
    | error error => simp [Creates, Asking.touches, told]
    | ok now => simp [Creates, Asking.touches, told, Touch.presence]
  | delete roster =>
    -- To remove names makes none live, whether they are removed or not.
    simp only [Creates, Asking.touches, reduceCtorEq, false_and, exists_false, iff_false]
    split <;> simp [Touch.presence]
  | extend roster lifetime => simp [Creates, Asking.touches, Touch.presence]
  | list => simp [Creates, Asking.touches]

/-- No call takes the name of the machine at hand away, as nothing is removed along with that one. -/
theorem presence_host_ne (history : List (Site × Asking)) :
    ∀ touch ∈ touchesOf history, touch.presence LocalFleet.hostName ≠ some false := by
  intro touch member
  obtain ⟨⟨site, asking⟩, _, member⟩ := List.mem_flatMap.mp member
  -- Only a deletion takes names away.
  cases asking with
  | create names options =>
    simp only [Asking.touches] at member
    split at member
    · obtain ⟨name, _, rfl⟩ := List.mem_map.mp member
      exact presence_made_ne _ _ _ _ _
    · cases member
  | delete roster =>
    simp only [Asking.touches] at member
    split at member
    · cases member
    · next spared =>
      -- What is removed is none of the names that would have stopped it.
      obtain ⟨name, named, rfl⟩ := List.mem_map.mp member
      have other : name ≠ LocalFleet.hostName := fun same => spared (same ▸ named)
      simp [Touch.presence, other]
  | extend roster lifetime =>
    obtain ⟨name, _, rfl⟩ := List.mem_map.mp member
    simp [Touch.presence]
  | list => cases member

/-- A name that is never taken away is live exactly when a machine of it was made. -/
theorem live_iff_made {touches : List Touch} {name : String}
    (kept : ∀ touch ∈ touches, touch.presence name ≠ some false) :
    Live touches name ↔ ∃ touch ∈ touches, touch.presence name = some true := by
  -- The latest touch that decides on the name made it, as none removes it.
  constructor
  · intro live
    obtain ⟨touch, member, made⟩ := List.exists_of_findSome?_eq_some live
    exact ⟨touch, List.mem_reverse.mp member, made⟩
  · -- Nothing that came after took the name away again.
    rintro ⟨touch, member, made⟩
    obtain ⟨before, after, rfl⟩ := List.append_of_mem member
    exact live_of_made made fun later among => kept later (by simp [among])

/-- There is a machine under the name of the machine at hand exactly when some call created it. -/
theorem live_host_iff (history : List (Site × Asking)) :
    Live (touchesOf history) LocalFleet.hostName ↔ ∃ call ∈ history, Creates LocalFleet.hostName call := by
  -- As the name is never taken away, all that counts is whether it was made.
  rw [live_iff_made (presence_host_ne history)]
  simp only [touchesOf, List.mem_flatMap, ← exists_made_iff]
  constructor
  · rintro ⟨touch, ⟨call, called, member⟩, made⟩
    exact ⟨call, called, touch, member, made⟩
  · rintro ⟨call, called, touch, member, made⟩
    exact ⟨touch, ⟨call, called, member⟩, made⟩

/-- Where no two machines are of one name, all but one of them are the machines of other names. -/
theorem without_singleton {before later : Roster} {vm : Vm}
    (apart : (Roster.names (before ++ vm :: later)).Nodup) :
    without [vm.name] (before ++ vm :: later) = before ++ later := by
  -- Were another of its name, that name would be there twice.
  have others : ∀ other ∈ before ++ later, other.name ∉ [vm.name] := by
    have moved : (Roster.names (vm :: (before ++ later))).Nodup :=
      (List.perm_middle.map Vm.name).nodup_iff.mp apart
    intro other member same
    exact (List.nodup_cons.mp moved).1 (List.mem_map.mpr ⟨other, member, by simpa using same⟩)
  rw [without, List.filter_append, List.filter_cons_of_neg (by simp), ← List.filter_append,
    List.filter_eq_self]
  simpa using others

/-- The machines of a site have names of their own and can be deleted, unless one of those that were created
goes by the name of the machine at hand. -/
structure NamesApart (history : List (Site × Asking)) (host : Vm) (site : Site) (others : Roster) :
    Prop where
  lists : provider.list.on site = (.ok (host :: others), site)
  hostName : host.name = LocalFleet.hostName
  /-- No two machines that were created are of one name, -/
  apart : others.names.Nodup
  /-- and no two of all are, unless some call created one under the name of the machine at hand. -/
  distinct : (Roster.names (host :: others)).Nodup ↔
    ¬ ∃ call ∈ history, Creates LocalFleet.hostName call
  /-- A machine of another name can be deleted. Then it is gone, and it alone. -/
  removable : ∀ before vm later, others = before ++ vm :: later → vm.name ≠ LocalFleet.hostName →
    ∃ after fleet, (provider.delete [vm]).on site = (.ok (), after) ∧
      after = { site with localFleet := fleet } ∧
      provider.list.on after = (.ok (host :: (before ++ later)), after) ∧
      vm.name ∉ Roster.names (host :: (before ++ later))
  /-- A machine of that name cannot be deleted, alone or with others. -/
  stuck : ∀ vm ∈ others, vm.name = LocalFleet.hostName → ∀ roster : Roster, vm ∈ roster →
    (provider.delete roster).on site = (.error LocalFleet.hostStays, site)

/-- After any calls of the provider of the machine at hand, from its start on, the machines that were created
have names of their own, and all of them can be deleted but one that goes by the name of the machine at hand.
There is such a one exactly when some call created it. -/
theorem names_apart (now : Moment) (dns : String) (history : List (Site × Asking)) (site : Site) :
    ∃ others, NamesApart history (machine LocalFleet.hostName now dns .zero [])
      { site with localFleet := undergoAll provider (.start now dns) history } others := by
  have remembers := remembers_values (touchesOf history)
  have sound := sound_undergoAll (.start now dns) history
  have left := undergoAll_eq (.start now dns) history
  -- The machines that were created are those of the touches, and the machine at hand is as at the start.
  have created : (undergoAll provider (.start now dns) history).created =
      remembered (touchesOf history) := by
    rw [left]
    rfl
  have host : (undergoAll provider (.start now dns) history).host =
      machine LocalFleet.hostName now dns .zero [] := by
    rw [left]
    rfl
  refine ⟨(remembered (touchesOf history)).values, ?_, rfl, remembers.once, ?_,
    fun before vm later split other => ?_, fun vm _ same roster among => ?_⟩
  · -- The machine at hand is listed first, and those that were created behind it.
    rw [on_list, host, created]
  · -- Those of the others are apart, so what counts is whether that of the machine at hand is among them.
    rw [← live_host_iff]
    exact (List.nodup_cons.trans (and_iff_left remembers.once)).trans (not_congr (remembers.live _))
  · -- Nothing stands in the way of another name, and no other machine goes by it.
    have spared : LocalFleet.hostName ∉ Roster.names [vm] := by simpa [Roster.names] using other.symm
    have alone : without [vm.name] (before ++ vm :: later) = before ++ later :=
      without_singleton (split ▸ remembers.once)
    refine ⟨_, _, on_delete_of_not_mem _ spared, rfl, ?_, ?_⟩
    · rw [on_list, sound.values_remove, created, split, ← host]
      exact congrArg (fun rest => (Except.ok (_ :: rest), _)) alone
    · rw [← alone]
      simp [Roster.names, without, machine, other]
  · -- With the machine at hand in the roster nothing is deleted.
    exact on_delete_of_mem _ (List.mem_map.mpr ⟨vm, among, same⟩)

/-- One creation under the name of the machine at hand. -/
def clashing (site : Site) : List (Site × Asking) :=
  [(site, .create [LocalFleet.hostName] {})]

/-- After it two machines are of one name, and the one that was created cannot be deleted. -/
theorem names_clash :
    ∃ opened after host vm, Startup.openLocal.on Compute.quietSite = (.ok provider, opened) ∧
      after = { opened with localFleet := undergoAll provider opened.localFleet (clashing opened) } ∧
      provider.list.on after = (.ok [host, vm], after) ∧ host.name = vm.name ∧
      (provider.delete [vm]).on after = (.error LocalFleet.hostStays, after) :=
  ⟨_, _, _, _, rfl, rfl, rfl, rfl, rfl⟩

end Fleet.LocalHost
