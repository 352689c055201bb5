import Fleet.Proofs.Label

/-! Flaws of instances: what is wrong with the name, the lifetime and the network of an instance is told of
the virtual machine that it is described as, each for itself and nothing else. -/

namespace Fleet.Compute

/-- The labels of an instance tell a lifetime: blanks at its ends aside, segments write it, and no number in
them is too long. -/
def Readable (machine : Instance) : Prop :=
  ∃ written segments, machine.labels.get? lifetimeLabel = some written ∧
    Writes segments (Text.trim written).toList ∧ Short segments

/-- An instance cannot be reached: it has no interface, or its first one has no address inside, or the first
way into that one is missing or has no address outside. -/
def Unreachable (machine : Instance) : Prop :=
  machine.interfaces = [] ∨ ∃ first others, machine.interfaces = first :: others ∧
    (first.inside = "" ∨ first.outside = [] ∨ ∃ ways, first.outside = "" :: ways)

/-- The first way into the first interface, with nothing behind either of them. -/
def foremost (interfaces : List Interface) : List Interface :=
  (interfaces.take 1).map fun interface => { interface with outside := interface.outside.take 1 }

variable {machine : Instance}

/-- The lifetime that the labels tell, if they tell one. -/
def toldLifetime (machine : Instance) : Option Duration :=
  (machine.labels.get? lifetimeLabel).bind fun written => (Duration.parse written).toOption

/-- The labels tell a lifetime exactly when short segments write it and their sum is in range. -/
theorem toldLifetime_eq_some_iff {d : Duration} :
    toldLifetime machine = some d ↔ ∃ written segments,
      machine.labels.get? lifetimeLabel = some written ∧ Writes segments (Text.trim written).toList ∧
      Short segments ∧ Duration.ofSeconds? (totalSeconds segments) = some d := by
  -- What can be read is told, and what cannot be read is as good as no label.
  have read (written : String) :
      (Duration.parse written).toOption = some d ↔ Duration.parse written = .ok d := by
    cases Duration.parse written <;> simp [Except.toOption]
  simp only [toldLifetime, Option.bind_eq_some_iff, read, Duration.parse_eq_ok_iff, exists_and_left]

/-- A lifetime that is told is in range unless it is oversized. -/
theorem exists_ofSeconds?_of_fits (fits : ¬ Overlong machine) {written : String} {segments : List Segment}
    (label : machine.labels.get? lifetimeLabel = some written)
    (writes : Writes segments (Text.trim written).toList) (short : Short segments) :
    ∃ d, Duration.ofSeconds? (totalSeconds segments) = some d := by
  -- A sum that is out of range is what an oversized lifetime is.
  rw [← Option.ne_none_iff_exists', ne_eq, Duration.ofSeconds?_eq_none_iff]
  intro long
  exact fits ⟨written, label, segments, readSegments_eq_some_iff.mpr ⟨writes.formed, writes.joined⟩,
    short, long⟩

/-- Unless it is oversized, a lifetime is told exactly when the labels can be read as one. -/
theorem isSome_toldLifetime_iff (fits : ¬ Overlong machine) :
    (toldLifetime machine).isSome = true ↔ Readable machine := by
  rw [Option.isSome_iff_exists]
  simp only [toldLifetime_eq_some_iff]
  constructor
  · rintro ⟨_, written, segments, label, writes, short, _⟩
    exact ⟨written, segments, label, writes, short⟩
  · rintro ⟨written, segments, label, writes, short⟩
    obtain ⟨d, sum⟩ := exists_ofSeconds?_of_fits fits label writes short
    exact ⟨d, written, segments, label, writes, short, sum⟩

/-- What is described is not oversized. -/
theorem fits_of_toVm {project zone : String} {vm : Vm} (described : toVm project zone machine = .ok vm) :
    ¬ Overlong machine := by
  intro long
  obtain ⟨_, _, _, _, failed⟩ := toVm_of_overlong long project zone
  cases failed.symm.trans described

/-- An address is missing exactly when the instance cannot be reached. -/
theorem unaddressed_iff :
    insideAddress machine = "" ∨ outsideAddress machine = "" ↔ Unreachable machine := by
  rw [insideAddress, outsideAddress, Unreachable]
  -- Without an interface there is no address at all, and otherwise the first one decides.
  cases machine.interfaces with
  | nil => simp
  | cons first others =>
    cases ways : first.outside <;> simp [ways]

/-- Addresses are those of the first way into the first interface. -/
theorem addresses_of_foremost {other : Instance}
    (same : foremost other.interfaces = foremost machine.interfaces) :
    insideAddress other = insideAddress machine ∧ outsideAddress other = outsideAddress machine := by
  -- Of the ways out of an interface only the first one counts.
  have head (ways others : List String) (same : ways.take 1 = others.take 1) :
      ways.headD "" = others.headD "" := by
    cases ways <;> cases others <;> simp_all
  rw [insideAddress, insideAddress, outsideAddress, outsideAddress]
  cases first : other.interfaces <;> cases second : machine.interfaces <;>
    rw [first, second] at same <;>
    simp only [foremost, List.take_nil, List.take_succ_cons, List.take_zero, List.map_nil, List.map_cons,
      List.cons.injEq, and_true, reduceCtorEq, Interface.mk.injEq] at same
  · exact ⟨rfl, rfl⟩
  · exact ⟨same.1, head _ _ same.2⟩

/-- What is described depends on nothing of the network but the addresses. -/
theorem toVm_of_foremost {interfaces : List Interface}
    (same : foremost interfaces = foremost machine.interfaces) (project zone : String) :
    toVm project zone { machine with interfaces := interfaces } = toVm project zone machine := by
  have addresses : insideAddress { machine with interfaces := interfaces } = insideAddress machine ∧
      outsideAddress { machine with interfaces := interfaces } = outsideAddress machine :=
    addresses_of_foremost same
  rw [toVm, toVm, addresses.1, addresses.2]

/-- The flaws of a name, a lifetime and a network, each of which may be there or not. -/
theorem flaws_exact (named read lost : Bool) :
    let flaws : List VmFlaw := (if named then [] else [.invalidName]) ++
      (if read then [] else [.noExpiration]) ++ (if lost then [.badNetwork] else [])
    flaws.Sublist [.invalidName, .noExpiration, .badNetwork] ∧
      (.invalidName ∈ flaws ↔ ¬ named = true) ∧ (.noExpiration ∈ flaws ↔ ¬ read = true) ∧
      (.badNetwork ∈ flaws ↔ lost = true) ∧
      (flaws.isEmpty = true ↔ named = true ∧ read = true ∧ ¬ lost = true) := by
  revert named read lost
  decide

/-- What is wrong with an instance is told of the virtual machine exactly. -/
structure TellsFlaws (project zone : String) (machine : Instance) (vm : Vm) : Prop where
  /-- No flaw is told twice, and those that are told come in one order. -/
  ordered : vm.flaws.Sublist [.invalidName, .noExpiration, .badNetwork]
  name : VmFlaw.invalidName ∈ vm.flaws ↔ ¬ Label.Matches machine.name
  expiration : VmFlaw.noExpiration ∈ vm.flaws ↔ ¬ Readable machine
  /-- Without a lifetime there is no time to live, -/
  unread : ¬ Readable machine → vm.lifetime = some .zero
  /-- and otherwise it is the sum of what the label tells. -/
  read : ∀ written segments, machine.labels.get? lifetimeLabel = some written →
    Writes segments (Text.trim written).toList → Short segments →
    ∃ d, vm.lifetime = some d ∧ d.micros = (((3600 * amountIn .hours segments +
      60 * amountIn .minutes segments + amountIn .seconds segments) * microsPerSecond : Nat) : Int)
  network : VmFlaw.badNetwork ∈ vm.flaws ↔ Unreachable machine
  unaddressed : Unreachable machine → vm.privateIp = "" ∨ vm.publicIp = ""
  /-- Nothing else of the network has to do with it. -/
  further : ∀ interfaces, foremost interfaces = foremost machine.interfaces →
    toVm project zone { machine with interfaces := interfaces } = .ok vm
  valid : vm.isValid = true ↔
    Label.Matches machine.name ∧ Readable machine ∧ ¬ Unreachable machine

/-- The flaws of every instance that is described are told exactly. -/
theorem toVm_flaws {project zone : String} {vm : Vm} (described : toVm project zone machine = .ok vm) :
    TellsFlaws project zone machine vm := by
  have fits := fits_of_toVm described
  obtain ⟨lifetime, created, labelled, rfl⟩ := toVm_eq_ok described
  obtain rfl : toldLifetime machine = lifetime :=
    Except.ok.inj ((labelledLifetime_eq_ok fits).symm.trans labelled)
  -- Each of the three flaws is decided by a condition of its own.
  obtain ⟨ordered, name, expiration, network, valid⟩ := flaws_exact (Label.accepts machine.name)
    (toldLifetime machine).isSome ((insideAddress machine).isEmpty || (outsideAddress machine).isEmpty)
  -- The conditions are those of the specification, in the words of the code.
  have taken : Label.accepts machine.name = true ↔ Label.Matches machine.name :=
    Label.accepts_iff_matches
  have told := isSome_toldLifetime_iff fits
  have lost : ((insideAddress machine).isEmpty || (outsideAddress machine).isEmpty) = true ↔
      Unreachable machine := by
    rw [← unaddressed_iff]
    simp
  refine ⟨ordered, name.trans (not_congr taken), expiration.trans (not_congr told), fun unread => ?_,
    fun written segments label writes short => ?_, network.trans lost, unaddressed_iff.mpr,
    fun interfaces same => ?_, valid.trans (and_congr taken (and_congr told (not_congr lost)))⟩
  · -- Nothing is told, so there is no time to live.
    rw [← told, Option.not_isSome_iff_eq_none] at unread
    simp only [unread, Option.getD_none]
  · -- The lifetime that is told is the sum of what is written, in microseconds.
    obtain ⟨d, sum⟩ := exists_ofSeconds?_of_fits fits label writes short
    refine ⟨d, ?_, ?_⟩
    · rw [toldLifetime_eq_some_iff.mpr ⟨written, segments, label, writes, short, sum⟩, Option.getD_some]
    · rw [← totalSeconds_eq]
      exact Duration.micros_of_ofMicros? sum
  · -- To another network that begins alike the same description belongs.
    rw [toVm_of_foremost same, described]

/-- An instance with a capital in its name and blanks around its lifetime. Only its second interface has a
way in from outside. -/
def oddInstance : Instance :=
  { labelledInstance "Web" [(lifetimeLabel, " 1h30m\n")] with
    interfaces := [⟨"10.0.0.1", []⟩, ⟨"10.0.0.2", ["34.1.2.3"]⟩] }

/-- Its name and its network are told as flaws, and its lifetime is an hour and a half. -/
theorem toVm_flaws_oddInstance :
    ∃ vm, toVm "lab" "us-east1-b" oddInstance = .ok vm ∧
      vm.flaws = [.invalidName, .badNetwork] ∧ vm.lifetime = some ⟨5400000000, by decide, by decide⟩ ∧
      TellsFlaws "lab" "us-east1-b" oddInstance vm ∧
      toVm "lab" "us-east1-b" { oddInstance with interfaces := [⟨"10.0.0.1", []⟩] } = .ok vm := by
  -- The description is computed once to see that there is one, and once for what it tells.
  have answers : (toVm "lab" "us-east1-b" oddInstance).isOk = true := by decide +kernel
  cases described : toVm "lab" "us-east1-b" oddInstance with
  | error fault =>
    rw [described] at answers
    cases answers
  | ok vm =>
    have tells := toVm_flaws described
    have shown : (toVm "lab" "us-east1-b" oddInstance).toOption.map (fun vm => (vm.flaws, vm.lifetime)) =
        some ([.invalidName, .badNetwork], some ⟨5400000000, by decide, by decide⟩) := by
      decide +kernel
    rw [described] at shown
    obtain ⟨flaws, lifetime⟩ := Prod.mk.inj (Option.some.inj shown)
    exact ⟨vm, rfl, flaws, lifetime, tells, tells.further _ rfl⟩

end Fleet.Compute
