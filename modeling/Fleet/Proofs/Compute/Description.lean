import Fleet.Proofs.Compute.Create
import Fleet.Proofs.Compute.Listing
import Fleet.Proofs.Duration

/-! Describing instances: whatever stands in the name, the labels and the network of an instance, it
is listed as one virtual machine, and only a lifetime of more days than there can be keeps all of
them from being listed. -/

namespace Fleet

namespace Duration

/-- The text reads as amounts with units, none of them too long for a number, and together they have
more days than a length of time can have. -/
def Oversized (text : String) : Prop :=
  ∃ segments, readSegments [] (Text.trim text).toList = some segments ∧
    (∀ segment ∈ segments, segment.digits.length ≤ Text.maxNumberDigits) ∧
    maxDays < totalSeconds segments / secondsPerDay

/-- A text is refused for its days exactly when it is oversized. -/
theorem oversized_iff {text : String} :
    Oversized text ↔ ∃ days, parse text = .error (.outOfRange days) := by
  -- Without segments there are no days at all.
  dsimp only [Oversized, parse]
  cases readSegments [] (Text.trim text).toList with
  | none => simp
  | some segments =>
    cases segments with
    | nil => simp [totalSeconds]
    | cons first rest => simp [ofSegments_eq_outOfRange_iff, Short]

instance (text : String) : Decidable (Oversized text) :=
  match read : parse text with
  | .error (.outOfRange days) => .isTrue (oversized_iff.mpr ⟨days, read⟩)
  | .error (.malformed _) | .error (.tooManyDigits _) | .ok _ =>
    .isFalse fun oversized => by simp [oversized_iff, read] at oversized

end Duration

namespace Compute

/-- The labels of an instance tell an oversized lifetime. -/
def Overlong (machine : Instance) : Prop :=
  ∃ written ∈ machine.labels.get? lifetimeLabel, Duration.Oversized written

instance (machine : Instance) : Decidable (Overlong machine) :=
  inferInstanceAs (Decidable (∃ written ∈ machine.labels.get? lifetimeLabel, Duration.Oversized written))

/-- The moment of an instance's creation is well formed. -/
def Dated (machine : Instance) : Prop :=
  ∃ created, Moment.ofText machine.created = .ok created

instance (machine : Instance) : Decidable (Dated machine) :=
  match read : Moment.ofText machine.created with
  | .ok created => .isTrue ⟨created, read⟩
  | .error _ => .isFalse fun ⟨_, dated⟩ => by cases read.symm.trans dated

/-- The virtual machine shows an instance of a project in its zone. What cannot be told of the
instance is a flaw. -/
structure Shows (project : String) (entry : String × Instance) (vm : Vm) : Prop where
  name : vm.name = entry.2.name
  zone : vm.zone = entry.1
  provider : vm.provider = providerName
  dns : vm.dns = s!"{entry.2.name}.{entry.1}.{project}"
  created : Moment.ofText entry.2.created = .ok vm.createdAt
  addresses : vm.privateIp = insideAddress entry.2 ∧ vm.publicIp = outsideAddress entry.2
  /-- A lifetime that the labels tell is the lifetime. -/
  told : ∀ written lifetime, entry.2.labels.get? lifetimeLabel = some written →
    Duration.parse written = .ok lifetime →
    vm.lifetime = some lifetime ∧ VmFlaw.noExpiration ∉ vm.flaws
  /-- Without a label for it, or with one that is no lifetime, there is no time to live. -/
  untold : (∀ written lifetime, entry.2.labels.get? lifetimeLabel = some written →
      Duration.parse written ≠ .ok lifetime) →
    vm.lifetime = some .zero ∧ VmFlaw.noExpiration ∈ vm.flaws
  nameFlaw : VmFlaw.invalidName ∈ vm.flaws ↔ Label.accepts entry.2.name = false
  networkFlaw : VmFlaw.badNetwork ∈ vm.flaws ↔ insideAddress entry.2 = "" ∨ outsideAddress entry.2 = ""

/-- Only an oversized lifetime is an error, and any other that is no lifetime is none. -/
theorem labelledLifetime_eq_ok {machine : Instance} (fits : ¬ Overlong machine) :
    labelledLifetime machine.labels = .ok
      ((machine.labels.get? lifetimeLabel).bind fun written => (Duration.parse written).toOption) := by
  rw [labelledLifetime]
  -- Of all that is wrong with a lifetime only its days are not taken for a missing one.
  cases label : machine.labels.get? lifetimeLabel with
  | none => rfl
  | some written =>
    cases read : Duration.parse written with
    | ok lifetime => simp [read, Except.toOption]
    | error problem =>
      -- What is malformed or has too many digits is taken for a missing lifetime.
      cases problem with
      | outOfRange days => exact absurd ⟨written, label, Duration.oversized_iff.mpr ⟨days, read⟩⟩ fits
      | malformed text => simp [read, Except.toOption]
      | tooManyDigits count => simp [read, Except.toOption]

/-- An instance is shown unless its lifetime is oversized. -/
theorem exists_shows {machine : Instance} (dated : Dated machine) (fits : ¬ Overlong machine)
    (project zone : String) :
    ∃ vm, toVm project zone machine = .ok vm ∧ Shows project (zone, machine) vm := by
  obtain ⟨created, read⟩ := dated
  -- Nothing but the lifetime and the moment can keep it from being shown, and both are there.
  have lifetime := labelledLifetime_eq_ok fits
  simp only [toVm, lifetime, read, Bind.bind, Except.bind, Pure.pure, Except.pure]
  refine ⟨_, rfl, rfl, rfl, rfl, rfl, read, ⟨rfl, rfl⟩, ?_, ?_, ?_, ?_⟩
  · -- A lifetime that was read is no flaw.
    intro written lifetime label read
    simp only [label, read, Option.bind_some, Except.toOption, Option.getD_some, Option.isSome_some,
      if_true, List.append_nil, true_and, List.mem_append, not_or]
    constructor <;> split <;> simp
  · -- Otherwise nothing is read, whatever the reason.
    intro unread
    have none : ((machine.labels.get? lifetimeLabel).bind fun written =>
        (Duration.parse written).toOption) = none := by
      rw [Option.bind_eq_none_iff]
      intro written label
      cases parsed : Duration.parse written with
      | ok lifetime => exact absurd parsed (unread written lifetime label)
      | error problem => rfl
    simp [none]
  · -- The flaw of the name is told exactly when the name is not accepted.
    by_cases valid : Label.accepts machine.name = true <;> simp [valid]
  · -- The flaw of the network is told exactly when one of the addresses is missing.
    by_cases missing : insideAddress machine = "" ∨ outsideAddress machine = "" <;> simp [missing]

/-- An instance with an oversized lifetime is not shown at all, and its days are told. -/
theorem toVm_of_overlong {machine : Instance} (long : Overlong machine) (project zone : String) :
    ∃ written days, machine.labels.get? lifetimeLabel = some written ∧
      Duration.parse written = .error (.outOfRange days) ∧
      toVm project zone machine = .error (.problem (.duration (.outOfRange days))) := by
  obtain ⟨written, label, oversized⟩ := long
  obtain ⟨days, read⟩ := Duration.oversized_iff.mp oversized
  -- The labels are read before anything else.
  have lifetime : labelledLifetime machine.labels = .error (.problem (.duration (.outOfRange days))) := by
    rw [labelledLifetime, label]
    simp only [read]
  exact ⟨written, days, label, read, by rw [toVm, lifetime]; rfl⟩

/-- Once the cloud has answered, what is listed are the instances that it answered with, each
described. -/
theorem list_of_response {site resolved asked : Site} {found : String} {response : List (String × Instance)}
    (resolves : project.on site = (.ok found, resolved))
    (responds : (Client.persistently (Client.list found)).on resolved = (.ok response, asked)) :
    response = site.cloud.listing ∧
      list.on site = (response.mapM fun entry => toVm found entry.1 entry.2, asked) := by
  constructor
  · -- The instances are the same from the beginning to the answer.
    obtain ⟨_, middle, _, kept, ⟨_, failed, _⟩ | ⟨_, _, ⟨rfl, rfl⟩, answered⟩⟩ :=
      (Client.list_goes found).persistently resolved
    · cases failed.symm.trans responds
    · cases answered.symm.trans responds
      exact Cloud.listing_of_zones (kept.zones.trans (project_resolves resolves).zones)
  · -- Looking for the project and asking the cloud have answered, so what is left is to describe.
    rw [list, Program.on_bind_ok resolves, Program.on_bind_ok responds]
    rfl

/-- When the cloud has answered with instances that are all dated, and none of them has an oversized
lifetime, then one virtual machine is listed for each of them, in their order. Whatever else stands
in the labels, the name and the network of an instance is shown or told as a flaw. An oversized
lifetime keeps all of them from being listed. -/
theorem list_shows {site resolved asked : Site} {found : String} {response : List (String × Instance)}
    (resolves : project.on site = (.ok found, resolved))
    (responds : (Client.persistently (Client.list found)).on resolved = (.ok response, asked))
    (dated : ∀ entry ∈ site.cloud.listing, Dated entry.2) :
    response = site.cloud.listing ∧
      ((∀ entry ∈ response, ¬ Overlong entry.2) →
        ∃ roster, list.on site = (.ok roster, asked) ∧ List.Forall₂ (Shows found) response roster) ∧
      ((∃ entry ∈ response, Overlong entry.2) →
        ∃ before zone machine later written days, response = before ++ (zone, machine) :: later ∧
          (∀ entry ∈ before, ¬ Overlong entry.2) ∧
          machine.labels.get? lifetimeLabel = some written ∧
          Duration.parse written = .error (.outOfRange days) ∧
          list.on site = (.error (.problem (.duration (.outOfRange days))), asked)) := by
  -- What the cloud answered with is what was there from the beginning.
  obtain ⟨rfl, listed⟩ := list_of_response resolves responds
  refine ⟨rfl, fun fit => ?_, fun ⟨entry, member, long⟩ => ?_⟩
  · -- Each instance is described, so all of them are.
    have each (entry : String × Instance) (member : entry ∈ site.cloud.listing) :
        ∃ vm, toVm found entry.1 entry.2 = .ok vm ∧ Shows found entry vm :=
      exists_shows (dated entry member) (fit entry member) found entry.1
    obtain ⟨roster, all⟩ := exists_mapM_eq_ok_iff.mpr fun entry member =>
      (each entry member).imp fun _ => And.left
    refine ⟨roster, by rw [listed, all], ?_⟩
    refine ((List.forall₂_and_left _ _).mpr ⟨fun _ => id, mapM_eq_ok_iff.mp all⟩).imp ?_
    rintro entry vm ⟨member, described⟩
    obtain ⟨shown, same, shows⟩ := each entry member
    cases same.symm.trans described
    exact shows
  · -- The first instance that is not described is the first with an oversized lifetime.
    -- With an oversized lifetime among them they cannot all be described.
    cases reached : site.cloud.listing.mapM fun entry => toVm found entry.1 entry.2 with
    | ok roster =>
      obtain ⟨_, described⟩ := exists_mapM_eq_ok_iff.mp ⟨roster, reached⟩ entry member
      obtain ⟨_, _, _, _, failed⟩ := toVm_of_overlong long found entry.1
      cases failed.symm.trans described
    | error fault =>
      obtain ⟨before, ⟨zone, machine⟩, later, split, fine, failed⟩ := mapM_eq_error_iff.mp reached
      -- With any other lifetime it would have been described.
      have first : Overlong machine := by
        by_contra fits
        obtain ⟨_, described, _⟩ :=
          exists_shows (dated (zone, machine) (by simp [split])) fits found zone
        cases failed.symm.trans described
      obtain ⟨written, days, label, read, told⟩ := toVm_of_overlong first found zone
      cases failed.symm.trans told
      -- The fault is the one of that lifetime, and those before it were described.
      refine ⟨before, zone, machine, later, written, days, split, fun other among long => ?_, label,
        read, by rw [listed, reached]⟩
      obtain ⟨_, described⟩ := fine other among
      obtain ⟨_, _, _, _, failed⟩ := toVm_of_overlong long found other.1
      cases failed.symm.trans described

/-- An instance of a name with some labels, which has no address. -/
def labelledInstance (name : String) (labels : List (String × String)) : Instance where
  name := name
  created := "1970-01-01T00:00:00Z"
  labels := .ofList labels
  fingerprint := ""
  interfaces := []

/-- The quiet site with some instances in one zone. -/
def siteWith (instances : List Instance) : Site :=
  { quietSite with cloud := {
      zones := .ofList [(Cloud.zoneKey "us-east1-b", instances)]
      faults := .empty } }

/-- A site with an instance that has half a day to live, one without a lifetime, and one with a word
for it. -/
def mixedSite : Site :=
  siteWith [labelledInstance "web" [(lifetimeLabel, "12h")], labelledInstance "db" [],
    labelledInstance "Cache" [(lifetimeLabel, "soon")]]

/-- On the mixed site all three instances are shown. -/
theorem list_shows_mixedSite :
    (∀ entry ∈ mixedSite.cloud.listing, Dated entry.2) ∧
      ∃ resolved asked response roster, project.on mixedSite = (.ok "lab", resolved) ∧
        (Client.persistently (Client.list "lab")).on resolved = (.ok response, asked) ∧
        list.on mixedSite = (.ok roster, asked) ∧
        List.Forall₂ (Shows "lab") mixedSite.cloud.listing roster := by
  have dated : ∀ entry ∈ mixedSite.cloud.listing, Dated entry.2 := by decide +kernel
  have fit : ∀ entry ∈ mixedSite.cloud.listing, ¬ Overlong entry.2 := by decide +kernel
  have resolves : project.on mixedSite = (.ok "lab", mixedSite) := on_project_some rfl
  -- The cloud of the mixed site answers at once.
  have ends : ((Client.persistently (Client.list "lab")).on mixedSite).1.isOk = true := by decide +kernel
  obtain ⟨response, asked, responds⟩ := Program.exists_of_isOk ends
  obtain ⟨rfl, shown, _⟩ := list_shows resolves responds dated
  obtain ⟨roster, listed, all⟩ := shown fit
  exact ⟨dated, mixedSite, asked, _, roster, resolves, responds, listed, all⟩

/-- A site with an instance that has half a day to live, and one whose labels tell a billion
days. -/
def overlongSite : Site :=
  siteWith [labelledInstance "web" [(lifetimeLabel, "12h")],
    labelledInstance "db" [(lifetimeLabel, "24000000000h")]]

/-- On the overlong site the cloud answers with two instances that are dated, and none of them is
listed. -/
theorem not_listed_overlongSite :
    (∀ entry ∈ overlongSite.cloud.listing, Dated entry.2) ∧
      ((Client.persistently (Client.list "lab")).on overlongSite).1.isOk = true ∧
      (project.on overlongSite).1 = .ok "lab" ∧
      (list.on overlongSite).1 = .error (.problem (.duration (.outOfRange 1000000000))) :=
  ⟨by decide +kernel, by decide +kernel, rfl, rfl⟩

end Compute

end Fleet
