import Fleet.Proofs.Compute.Failure

/-! Placement on Compute Engine: each virtual machine is asked for in the zone of its position, and nothing
that is asked for it, in however many attempts, belongs to another name or another zone. -/

namespace Fleet

/-- The project, the zone and the instance that something done to the outside asked for, if it asked for
one. -/
def Event.insertion? : Event → Option (String × String × Compute.InstanceRequest)
  | .inserted project zone request => some (project, zone, request)
  | _ => none

namespace Compute

/-- What was asked for, first to last. -/
def insertions (events : List Event) : List (String × String × InstanceRequest) :=
  events.filterMap Event.insertion?

/-- Between two attempts nothing is asked for. -/
theorem insertions_eventsOf (attempts : List (List Event)) :
    insertions (Client.eventsOf attempts) = attempts.flatMap insertions := by
  obtain rfl | ⟨earlier, final, rfl⟩ := attempts.eq_nil_or_concat
  · rfl
  · -- All pauses follow an attempt before the last.
    have silent : [Event.waited 4].filterMap Event.insertion? = [] := rfl
    simp only [List.concat_eq_append, Client.eventsOf_concat, insertions, List.filterMap_append,
      List.filterMap_flatMap, silent, List.append_nil, List.flatMap_append, List.flatMap_singleton]
    rfl

/-- Attempts at a request ask for the same instance each time, at most three times. They never ask only if no
client could be built. -/
theorem insertions_of_attempted {project zone : String} {request : InstanceRequest}
    {attempts : List (List Event)}
    (attempted : Client.Attempted (Client.CallEvents (.inserted project zone request)) attempts) :
    ∃ count ≤ 3, insertions (Client.eventsOf attempts) = List.replicate count (project, zone, request) ∧
      (count = 0 → ∀ events ∈ attempts, events = [.clientBuilt]) := by
  rw [insertions_eventsOf]
  obtain ⟨some, few, each⟩ := attempted
  -- No attempt asks more than once.
  have counted : ∃ count ≤ attempts.length,
      attempts.flatMap insertions = List.replicate count (project, zone, request) ∧
      (count = 0 → ∀ events ∈ attempts, events = [.clientBuilt]) := by
    clear some few
    induction attempts with
    | nil => exact ⟨0, Nat.le_refl 0, rfl, fun _ => List.forall_mem_nil _⟩
    | cons first rest ih =>
      obtain ⟨form, others⟩ := List.forall_mem_cons.mp each
      obtain ⟨count, within, same, unasked⟩ := ih others
      rw [List.flatMap_cons, same, List.length_cons]
      obtain rfl | rfl | rfl := form
      · exact ⟨count, by omega, rfl, fun none => List.forall_mem_cons.mpr ⟨rfl, unasked none⟩⟩
      · exact ⟨count + 1, by omega, rfl, nofun⟩
      · exact ⟨count + 1, by omega, rfl, nofun⟩
  obtain ⟨count, within, rest⟩ := counted
  exact ⟨count, by omega, rest⟩

/-- The zones that instances are placed in: those of the settings, or the standard ones where they have
none. -/
def zonesOf (settings : Settings) : List String :=
  if settings.zones.toList = [] then standardZones else settings.zones.toList

/-- The zone for a position: the first one, or each in turn where instances are spread. -/
def zoneAt (zones : List String) (spread : Bool) (position : Nat) : Option String :=
  if spread then zones[position % zones.length]? else zones.head?

/-- The zones to choose from are those that instances are placed in, and there is one. -/
theorem choice_eq_zonesOf (settings : Settings) :
    settings.choice = zonesOf settings ∧ zonesOf settings ≠ [] := by
  unfold Settings.choice zonesOf
  -- Without zones in the settings there is the one that is preset.
  cases settings.zones.toList with
  | nil => exact ⟨rfl, by decide⟩
  | cons zone others => exact ⟨rfl, nofun⟩

/-- Each position is given the zone for it, however many positions there are. -/
theorem zoneAt_of_zonesFor {settings : Settings} {count position : Nat} {spread : Bool} {zone : String}
    (placed : (settings.zonesFor count spread)[position]? = some zone) :
    zoneAt (zonesOf settings) spread position = some zone := by
  obtain ⟨same, some⟩ := choice_eq_zonesOf settings
  have positive : 0 < (zonesOf settings).length := List.length_pos_iff.mpr some
  simp only [Settings.zonesFor, same, List.getElem?_map, Option.map_eq_some_iff] at placed
  -- The zone was chosen by an index, which is the position.
  obtain ⟨index, here, chosen⟩ := placed
  obtain ⟨_, rfl⟩ := List.getElem?_eq_some_iff.mp here
  simp only [List.getElem_range] at chosen
  -- A remainder by the number of zones is a position among them, and so is the first.
  cases spread with
  | true =>
    have inside := Nat.mod_lt position positive
    simp only [if_true, List.getD_eq_getElem?_getD, List.getElem?_eq_getElem inside,
      Option.getD_some] at chosen
    rw [zoneAt, if_pos rfl, List.getElem?_eq_getElem inside, chosen]
  | false =>
    simp only [Bool.false_eq_true, if_false, List.getD_eq_getElem?_getD,
      List.getElem?_eq_getElem positive, Option.getD_some] at chosen
    rw [zoneAt, if_neg (by decide), List.head?_eq_getElem?, List.getElem?_eq_getElem positive, chosen]

/-- A request is for an instance of a name in a zone, with the options: all that names a zone in it names
that one. -/
structure Suits (settings : Settings) (options : CreateOptions) (name zone : String)
    (request : InstanceRequest) : Prop where
  name : request.name = name
  machineType : request.machineType = s!"zones/{zone}/machineTypes/{settings.machineType.written}"
  lifetime : request.labels.get? "lifetime" = some options.lifetime.text
  /-- A scratch disk, or a disk with a type, is there exactly where one is wanted, and there is only one
  such disk: a fast one in the zone, which is gone with the instance. -/
  scratch : ∀ disk : DiskRequest,
    disk ∈ request.disks ∧ (disk.kind = some "SCRATCH" ∨ disk.diskType.isSome = true) ↔
      options.localSsd = true ∧ disk =
        { boot := false, autoDelete := true, kind := some "SCRATCH", interface := some "NVME",
          image := none, diskType := some s!"zones/{zone}/diskTypes/local-ssd" }

/-- What is asked for suits the name and the zone that it is asked for with. -/
theorem suits_of_request {settings : Settings} {name zone : String} {options : CreateOptions}
    {request : InstanceRequest} (asked : settings.request name zone options = .ok request) :
    Suits settings options name zone request := by
  -- Once the image is known the request is put together from the options and the settings.
  unfold Settings.request at asked
  obtain ⟨image, _, same⟩ := exists_of_bind_ok asked
  cases same
  refine ⟨rfl, rfl, ?_, fun disk => ⟨?_, ?_⟩⟩
  · -- The lifetime is the second of two labels, which have different keys.
    simp [OrderedMap.ofList, OrderedMap.get?_insert, lifetimeLabel]
  · -- The disk that an instance starts from is no scratch disk and has no type, so it is the other one.
    rintro ⟨member, typed⟩
    rcases List.mem_cons.mp member with rfl | member
    · simp [Settings.bootDisk] at typed
    · split at member
      · next wanted => exact ⟨wanted, List.mem_singleton.mp member⟩
      · cases member
  · -- The other one stands behind the disk that an instance starts from.
    rintro ⟨wanted, rfl⟩
    refine ⟨List.mem_cons_of_mem _ ?_, .inl rfl⟩
    rw [if_pos wanted]
    exact List.mem_singleton_self _

/-- A task was for the name and the zone of its position, and each of its attempts, of which there were at most
three, asked for the same instance in the project that was found. -/
structure PlacedAt (site : Site) (names : List String) (options : CreateOptions) (found : String)
    (ended : InsertEnd) : Prop where
  name : names[ended.position]? = some ended.name
  zone : zoneAt (zonesOf (settingsAt site)) options.spread ended.position = some ended.zone
  suits : Suits (settingsAt site) options ended.name ended.zone ended.request
  /-- Only if no client could be built it was never asked for. -/
  asked : ∃ count ≤ 3, insertions ended.events =
      List.replicate count (found, ended.zone, ended.request) ∧
    (count = 0 → ∀ event ∈ ended.events, event = .clientBuilt ∨ event = .waited 4)

/-- A task of the batch is placed at its position. The look-up of the project leaves what it depends on. -/
theorem placedAt_of_fits {site resolved : Site} (kept : Resolves site resolved) {names : List String}
    {options : CreateOptions} {found : String} {ended : InsertEnd}
    (fits : ended.Fits (settingsAt resolved) names options) (attempted : ended.Attempted found) :
    PlacedAt site names options found ended := by
  have placed := fits.zone
  rw [kept.zonesFor] at placed
  obtain ⟨value, same⟩ := kept.settings
  -- What is asked for is asked for with the settings that the look-up left.
  have suits := suits_of_request fits.request
  obtain ⟨attempts, tried, events, _⟩ := attempted
  -- The attempts of the task ask for the one request, and count how often.
  obtain ⟨count, few, asked, unasked⟩ := insertions_of_attempted tried
  refine ⟨fits.name, zoneAt_of_zonesFor placed, ?_, count, few, events ▸ asked, fun none event member => ?_⟩
  · -- Of all settings a request tells only the machine type, which the look-up leaves.
    obtain ⟨name, machineType, lifetime, scratch⟩ := suits
    exact ⟨name, by rw [machineType, same], lifetime, scratch⟩
  · -- Nothing but a client was tried for in any attempt.
    rw [events] at member
    obtain pause | ⟨attempt, among, member⟩ := Client.mem_eventsOf member
    · exact .inr pause
    · rw [unasked none attempt among] at member
      exact .inl (List.mem_singleton.mp member)

/-- How far creating came: without a project, or for an image that is no text, it fails and no task is begun,
and otherwise each position has one task, which is placed there. -/
inductive Placed (site : Site) (names : List String) (options : CreateOptions) :
    List InsertEnd → Except Fault Unit → Prop where
  | homeless {fault : Fault} (failed : (project.on site).1 = .error fault) :
      Placed site names options [] (.error fault)
  | imageless {found : String} {problem : Problem} (resolves : (project.on site).1 = .ok found)
      (unusable : (settingsAt site).bootImage = .error problem) :
      Placed site names options [] (.error (.problem problem))
  | begun {found : String} {ends : List InsertEnd} {outcome : Except Fault Unit}
      (resolves : (project.on site).1 = .ok found)
      (complete : (ends.map InsertEnd.position).Perm (List.range names.length))
      (each : ∀ ended ∈ ends, PlacedAt site names options found ended) :
      Placed site names options ends outcome

/-- Whatever is asked for to create virtual machines is asked for by the task for some position, in the project
that was found and in the zone of that position: the first of the zones, or each in turn. All attempts of one
task ask for the same instance, at most three times, and this one has the name of the position, the lifetime,
and a machine type and disks of that zone alone. -/
theorem create_places {names : List String} (some : names ≠ []) (options : CreateOptions) (site : Site) :
    ∃ (before : List Event) (ends : List InsertEnd) (outcome : Except Fault Unit) (created : Site),
      (create names options).on site = (outcome, created) ∧
      created.trace = site.trace ++ before ++ ends.flatMap InsertEnd.events ∧ insertions before = [] ∧
      Placed site names options ends outcome := by
  rcases ran : project.on site with ⟨sought, resolved⟩
  obtain ⟨before, trace, commands⟩ := project_trace ran
  have kept := project_resolves ran
  -- Looking for the project asks for no instance.
  have none : insertions before = [] := by
    rw [insertions, List.filterMap_eq_nil_iff]
    intro event member
    rw [commands event member]
    rfl
  -- The look-up changes the project in the settings, and the image is another entry.
  have image : (settingsAt resolved).bootImage = (settingsAt site).bootImage := by
    obtain ⟨value, same⟩ := kept.settings
    rw [same]
    rfl
  -- As long as no task has begun, the events are those of the look-up.
  have alone : resolved.trace = site.trace ++ before ++ [].flatMap InsertEnd.events := by
    rw [trace, List.flatMap_nil, List.append_nil]
  cases sought with
  -- Without a project the batch ends where it began.
  | error fault =>
    have nonempty : names.isEmpty = false := by simpa using some
    refine ⟨before, [], .error fault, resolved, ?_, alone, none, .homeless (by rw [ran])⟩
    rw [create, nonempty]
    simp only [Bool.false_eq_true, if_false]
    exact Program.on_bind_error ran _
  | ok found =>
    have resolves : (project.on site).1 = .ok found := by rw [ran]
    -- With an image that is no text it ends here, and otherwise every name has its task.
    cases usable : (settingsAt resolved).bootImage with
    | error problem =>
      exact ⟨before, [], _, resolved, on_create_unusable some options ran usable, alone, none,
        .imageless resolves (image ▸ usable)⟩
    | ok picture =>
      obtain ⟨ends, created, positions, each, acts, _, same⟩ := on_create some options ran usable
      refine ⟨before, ends, _, created, same, by rw [acts.trace, trace], none, .begun resolves ?_ ?_⟩
      · exact positions ▸ (Host.schedule site).perm names
      · intro ended member
        exact placedAt_of_fits kept (each ended member).1 (each ended member).2

/-- A site with two zones where the first attempt for `db` fails. -/
def twoZonedSite : Site :=
  { quietSite with
    settings := .ofList [(providerName,
      { project := .text "lab", zones := .texts ["us-east1-b", "us-west1-b"] })]
    cloud := { zones := .empty, faults := .ofList [("insert:db", [some busy])] } }

/-- On the site with two zones three names are placed in turn, and the one that is tried again is asked for
where it was before. The type of each scratch disk names the zone. -/
theorem create_places_twoZonedSite :
    ["web", "db", "cache"] ≠ [] ∧
      ∃ (ends : List InsertEnd) (outcome : Except Fault Unit) (created : Site),
        (create ["web", "db", "cache"] { spread := true, localSsd := true }).on twoZonedSite =
          (outcome, created) ∧
        Placed twoZonedSite ["web", "db", "cache"] { spread := true, localSsd := true } ends outcome ∧
        (insertions (ends.flatMap InsertEnd.events)).map (fun (_, zone, request) =>
            (zone, request.name, request.disks.map DiskRequest.kind,
              request.disks.map DiskRequest.diskType)) =
          [("us-east1-b", "web", [none, some "SCRATCH"],
              [none, some "zones/us-east1-b/diskTypes/local-ssd"]),
            ("us-west1-b", "db", [none, some "SCRATCH"],
              [none, some "zones/us-west1-b/diskTypes/local-ssd"]),
            ("us-west1-b", "db", [none, some "SCRATCH"],
              [none, some "zones/us-west1-b/diskTypes/local-ssd"]),
            ("us-east1-b", "cache", [none, some "SCRATCH"],
              [none, some "zones/us-east1-b/diskTypes/local-ssd"])] := by
  have some : ["web", "db", "cache"] ≠ [] := by decide
  refine ⟨some, ?_⟩
  obtain ⟨before, ends, outcome, created, ran, trace, none, placed⟩ :=
    create_places some { spread := true, localSsd := true } twoZonedSite
  refine ⟨ends, outcome, created, ran, placed, ?_⟩
  -- All that was asked for was asked for by the tasks, so it is found by carrying all of it out.
  have begun : insertions created.trace = insertions (ends.flatMap InsertEnd.events) := by
    rw [trace, insertions, List.filterMap_append, List.filterMap_append, ← insertions, ← insertions,
      ← insertions, none]
    rfl
  obtain rfl : ((create ["web", "db", "cache"] { spread := true, localSsd := true }).on
      twoZonedSite).2 = created := by rw [ran]
  rw [← begun]
  decide +kernel

end Compute

end Fleet
