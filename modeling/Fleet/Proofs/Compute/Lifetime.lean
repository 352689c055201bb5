import Fleet.Proofs.Compute.Create
import Fleet.Proofs.Compute.Listing
import Fleet.Proofs.Duration

/-! Lifetimes survive the cloud: what is created or extended with a lifetime is listed with exactly that
lifetime. -/

namespace Fleet.Compute

/-- An instance is as it was but for its fingerprint and a new text for its lifetime. -/
def Renewed (written : String) (before after : Instance) : Prop :=
  ∃ fingerprint, after = { before with
    labels := before.labels.insert lifetimeLabel written, fingerprint := fingerprint }

/-- What is renewed twice with one text is renewed with it. -/
theorem Renewed.trans {written : String} {first second third : Instance}
    (one : Renewed written first second) (other : Renewed written second third) :
    Renewed written first third := by
  obtain ⟨_, rfl⟩ := one
  obtain ⟨fingerprint, rfl⟩ := other
  exact ⟨fingerprint, by simp [OrderedMap.insert_insert]⟩

/-- A renewed instance has the text for its lifetime. -/
theorem Renewed.label {written : String} {before after : Instance}
    (renewed : Renewed written before after) :
    after.labels.get? lifetimeLabel = some written := by
  obtain ⟨_, rfl⟩ := renewed
  simp [OrderedMap.get?_insert]

/-- In a cloud the instance of a name in a zone was renewed. -/
def RenewedAt (written zone name : String) (before after : Cloud) : Prop :=
  ∃ machine renewed, before.find? zone name = some machine ∧
    after.find? zone name = some renewed ∧ Renewed written machine renewed

/-- Setting a lifetime renews the instance and no other. -/
theorem renewedAt_of_relabel {before start after : Cloud} {zone name written : String}
    {machine : Instance} (same : start.zones = before.zones)
    (held : start.find? zone name = some machine)
    (relabelled : start.relabel zone name (machine.labels.insert lifetimeLabel written) = .ok after) :
    RenewedAt written zone name before after ∧
      ∀ otherZone otherName, after.find? otherZone otherName = before.find? otherZone otherName ∨
        RenewedAt written otherZone otherName before after := by
  -- Only the instance that was looked up is touched.
  have here : RenewedAt written zone name before after := by
    have now := Cloud.find?_relabel relabelled zone name
    rw [if_pos ⟨rfl, rfl⟩, held] at now
    exact ⟨machine, _, by rw [← held, Cloud.find?_of_zones same], now, _, rfl⟩
  refine ⟨here, fun otherZone otherName => ?_⟩
  by_cases same' : otherZone = zone ∧ otherName = name
  · obtain ⟨rfl, rfl⟩ := same'
    exact .inr here
  · -- Under any other zone or name the same is found as before.
    rw [Cloud.find?_relabel relabelled, if_neg same', Cloud.find?_of_zones same]
    exact .inl rfl

/-- When the lifetimes of virtual machines were set, each of their instances was renewed, and any other is
as it was. -/
theorem exists_of_extensions {found : String} {lifetime : Duration} {vms : Roster} {site after : Site}
    (ran : (vms.forM fun vm => Client.persistently
      (Client.setLifetime found vm.zone vm.name lifetime)).on site = (.ok ⟨⟩, after))
    (well : site.cloud.WellZoned) :
    after.cloud.WellZoned ∧
      (∀ zone name, after.cloud.find? zone name = site.cloud.find? zone name ∨
        RenewedAt lifetime.text zone name site.cloud after.cloud) ∧
      ∀ vm ∈ vms, RenewedAt lifetime.text vm.zone vm.name site.cloud after.cloud := by
  -- What the first renews stays renewed, whether a later one is the same instance or not.
  induction vms generalizing site with
  | nil =>
    cases ran
    exact ⟨well, fun _ _ => .inl rfl, by simp⟩
  | cons vm rest ih =>
    rw [List.forM] at ran
    obtain ⟨_, middle, first, ran⟩ := Program.bind_ok ran
    obtain ⟨attempts, start, _, calls, ⟨fault, failed, _⟩ | ⟨_, cloud, ⟨machine, held, relabelled⟩, done⟩⟩ :=
      (Client.setLifetime_goes found vm.zone vm.name lifetime).persistently site
    · -- An update that failed would have been the end.
      rw [failed] at first
      cases first
    · rw [done] at first
      cases first
      obtain ⟨own, others⟩ := renewedAt_of_relabel calls.zones held relabelled
      obtain ⟨kept, later, each⟩ := ih ran ((well.of_zones calls.zones).relabel relabelled)
      -- What the first update renewed is left alone or renewed again.
      have onward (zone name : String)
          (renewed : RenewedAt lifetime.text zone name site.cloud cloud) :
          RenewedAt lifetime.text zone name site.cloud after.cloud := by
        obtain ⟨before, now, was, is, changed⟩ := renewed
        obtain same | ⟨still, last, found, then', again⟩ := later zone name
        · exact ⟨before, now, was, same.trans is, changed⟩
        · obtain rfl : now = still := Option.some.inj (is.symm.trans found)
          exact ⟨before, last, was, then', changed.trans again⟩
      -- What a later update renewed was as before, or renewed already.
      have back (zone name : String) (renewed : RenewedAt lifetime.text zone name cloud after.cloud) :
          RenewedAt lifetime.text zone name site.cloud after.cloud := by
        obtain same | earlier := others zone name
        · obtain ⟨before, now, was, is, changed⟩ := renewed
          exact ⟨before, now, same ▸ was, is, changed⟩
        · exact onward zone name earlier
      -- The first one's own instance was renewed by it, and those of the others by later updates.
      refine ⟨kept, fun zone name => ?_, List.forall_mem_cons.mpr ⟨onward _ _ own,
        fun other member => back _ _ (each other member)⟩⟩
      obtain same | renewed := later zone name
      · exact (others zone name).imp (same.trans ·) (onward zone name)
      · exact .inr (back zone name renewed)

end Fleet.Compute
