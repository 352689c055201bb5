import Fleet.Proofs.Compute.Description
import Fleet.Proofs.LocalHistory
import Fleet.Text.Pattern

/-! Labels: which texts they are letter by letter, which names the pattern for them matches, and that an
invalid name is told of exactly the virtual machines whose names it does not match. -/

namespace Fleet

namespace Text.Pattern

/-- Whether a match can go on from a place depends on the characters that follow alone: on whether they are
such as it allows. -/
def Allows (go : Onward) (text : List Char → Prop) : Prop :=
  ∀ cursor, (go cursor).isSome = true ↔ text (cursor.rest.map Letter.char)

variable {go : Onward} {text other : List Char → Prop}

/-- One letter is taken from the text. -/
theorem allows_one (fits : Char → Bool) (allows : Allows go text) :
    Allows ((one fun letter => fits letter.char).meet go) fun chars =>
      ∃ first rest, chars = first :: rest ∧ fits first = true ∧ text rest := by
  intro cursor
  simp only [meet, Cursor.step?]
  cases cursor.rest with
  | nil => simp
  -- There is a letter, and what counts is whether it fits.
  | cons letter rest =>
    by_cases fit : fits letter.char = true
    · simp [fit, allows _]
    · simp [fit]

/-- Of two patterns one is enough. -/
theorem allows_either (first second : Pattern) (one : Allows (first.meet go) text)
    (two : Allows (second.meet go) other) :
    Allows ((either first second).meet go) fun chars => text chars ∨ other chars := by
  -- The second pattern is tried only where the first one leads nowhere.
  intro cursor
  dsimp only
  rw [← one cursor, ← two cursor, meet]
  cases first.meet go cursor <;> simp

/-- At the end nothing follows. -/
theorem allows_end (allows : Allows go text) :
    Allows ((seam fun _ next => next.isNone).meet go) fun chars => chars = [] ∧ text chars := by
  intro cursor
  -- With a letter left this is not the end.
  dsimp only
  rw [← allows cursor, meet]
  cases cursor.rest <;> simp

/-- The places that fitting letters lead to are those from which the match can go on after some of them. -/
theorem exists_stop (fits : Char → Bool) (text : List Char → Prop) (cursor : Cursor)
    {letters : List Letter} (here : cursor.rest = letters) (passed : List Cursor) :
    (∃ stop ∈ stops (fun letter => fits letter.char) cursor passed letters,
        text (stop.rest.map Letter.char)) ↔
      (∃ stop ∈ passed, text (stop.rest.map Letter.char)) ∨
        ∃ taken rest, letters.map Letter.char = taken ++ rest ∧ (∀ c ∈ taken, fits c = true) ∧
          text rest := by
  -- Each letter that fits is passed, and the places before it join those that were passed already.
  induction letters generalizing cursor passed with
  | nil => simp [stops, here, or_comm]
  | cons letter rest ih =>
    -- Either nothing is taken, or the first letter is, and then it has to fit.
    have split : (∃ taken left, (letter :: rest).map Letter.char = taken ++ left ∧
          (∀ c ∈ taken, fits c = true) ∧ text left) ↔
        text ((letter :: rest).map Letter.char) ∨ fits letter.char = true ∧
          ∃ taken left, rest.map Letter.char = taken ++ left ∧ (∀ c ∈ taken, fits c = true) ∧ text left := by
      constructor
      · rintro ⟨_ | ⟨first, taken⟩, left, same, all, holds⟩
        · exact .inl (same ▸ holds)
        · obtain ⟨rfl, further⟩ := List.cons.inj same
          exact .inr ⟨all _ (by simp), taken, left, further, fun c member => all c (by simp [member]), holds⟩
      · rintro (holds | ⟨fit, taken, left, same, all, holds⟩)
        · exact ⟨[], _, rfl, by simp, holds⟩
        · exact ⟨letter.char :: taken, left, by simp [same], by simpa [fit] using all, holds⟩
    rw [stops, Cursor.step?, here, split]
    by_cases fit : fits letter.char = true
    · -- The letter is passed, so what is looked for may be at any place that was passed or further on.
      simp only [fit, if_true, true_and]
      rw [ih _ rfl]
      simp only [List.mem_cons, exists_eq_or_imp, here, or_assoc, or_left_comm]
    · -- At a letter that does not fit the row ends, with the place before it as the last.
      simp [fit, here, or_comm]

/-- As many letters as possible are taken, but fewer if the match can go on only then. -/
theorem allows_most (fits : Char → Bool) (allows : Allows go text) :
    Allows ((most fun letter => fits letter.char).meet go) fun chars =>
      ∃ taken rest, chars = taken ++ rest ∧ (∀ c ∈ taken, fits c = true) ∧ text rest := by
  intro cursor
  -- No place was passed before the first letter.
  have reached := exists_stop fits text cursor rfl []
  simp only [List.not_mem_nil, false_and, exists_false, false_or] at reached
  dsimp only
  rw [← reached, meet, List.findSome?_isSome_iff]
  simp only [allows _]

end Text.Pattern

namespace Label

open Text (Letter Cursor Pattern)
open Text.Pattern

/-- What a label may end with. -/
def closes (c : Char) : Bool :=
  isLetter c || ('0' ≤ c && c ≤ '9')

/-- The end of a text, or the place before one line break that closes it. -/
def finish : Pattern :=
  .either (.seam fun _ next => next.isNone)
    (.both (.one fun letter => letter.char == '\n') (.seam fun _ next => next.isNone))

/-- The pattern that names are matched with: `^[a-z]([-a-z0-9]*[a-z0-9])?$`. -/
def pattern : Pattern :=
  inOrder [.seam fun before _ => before.isNone, .one fun letter => isLetter letter.char,
    optional (.both (.most fun letter => isInner letter.char) (.one fun letter => closes letter.char)),
    finish]

/-- The pattern matches a name from its beginning. -/
def Matches (name : String) : Prop :=
  (pattern.meet some { place := 0, before := none, rest := name.toList.map Letter.ofChar }).isSome = true

/-- Labels, letter by letter: a small letter, and behind it nothing, or small letters, digits and hyphens of
which the last is no hyphen. -/
inductive Spelled : List Char → Prop where
  | single {first : Char} (small : isLetter first = true) : Spelled [first]
  | longer {first last : Char} {inner : List Char} (small : isLetter first = true)
      (inside : ∀ c ∈ inner, isInner c = true) (closed : closes last = true) :
      Spelled (first :: (inner ++ [last]))

/-- A text is a label, or a label with one line break behind it. -/
def SpelledUpToBreak (text : List Char) : Prop :=
  Spelled text ∨ ∃ label, Spelled label ∧ text = label ++ ['\n']

/-- A letter goes on with anything that is taken inside a label, and something that may end one. -/
theorem spelled_cons_iff {first : Char} {rest : List Char} :
    Spelled (first :: rest) ↔ isLetter first = true ∧
      (rest = [] ∨ ∃ inner last, rest = inner ++ [last] ∧ (∀ c ∈ inner, isInner c = true) ∧
        closes last = true) := by
  constructor
  · -- A label of one letter is all of it, and a longer one has something inside and an end.
    rintro (small | ⟨small, inside, closed⟩)
    · exact ⟨small, .inl rfl⟩
    · exact ⟨small, .inr ⟨_, _, rfl, inside, closed⟩⟩
  · rintro ⟨small, rfl | ⟨inner, last, rfl, inside, closed⟩⟩
    · exact .single small
    · exact .longer small inside closed

/-- Inside a label and at its end there is no line break, and at its end no hyphen. -/
theorem closes_iff {c : Char} : closes c = true ↔ isInner c = true ∧ c ≠ '-' := by
  rw [isInner]
  constructor
  · intro closed
    -- Whatever may close a label may also stand inside it.
    refine ⟨by rw [← closes, closed]; rfl, ?_⟩
    rintro rfl
    cases closed
  · -- Apart from the hyphen all that may stand inside a label may close it.
    rintro ⟨inner, other⟩
    rw [closes]
    simpa [other] using inner

/-- A label has no line break. -/
theorem Spelled.unbroken {text : List Char} (spelled : Spelled text) : '\n' ∉ text := by
  -- Neither a letter nor anything that may stand inside is a line break.
  have letter {c : Char} (small : isLetter c = true) : '\n' ≠ c := by
    rintro rfl
    cases small
  have inner {c : Char} (inside : isInner c = true) : '\n' ≠ c := by
    rintro rfl
    cases inside
  cases spelled with
  | single small => simpa using letter small
  | longer small inside closed =>
    simp only [List.mem_cons, List.mem_append, List.not_mem_nil, or_false, not_or]
    exact ⟨letter small, fun member => inner (inside _ member) rfl, inner (closes_iff.mp closed).1⟩

/-- Labels are recognised by their first letter, by what all others are, and by the last of them. -/
theorem isLabel_iff {text : List Char} : isLabel text = true ↔ Spelled text := by
  -- A label has a first letter, and the rest of it is looked at from its end.
  cases text with
  | nil => exact ⟨nofun, nofun⟩
  | cons first rest =>
    rw [spelled_cons_iff, isLabel, Bool.and_assoc, Bool.and_eq_true]
    refine and_congr_right fun _ => ?_
    obtain rfl | ⟨inner, last, rfl⟩ := rest.eq_nil_or_concat
    · simp
    · simp [closes_iff, and_assoc]

/-- What is taken for a label is one, up to one line break that closes it. -/
theorem accepts_iff {name : String} : accepts name = true ↔ SpelledUpToBreak name.toList := by
  rw [accepts, Text.dropFinalBreak, SpelledUpToBreak]
  by_cases broken : name.toList.getLast? = some '\n'
  · -- The break is dropped, and what is left of the name has to be a label.
    obtain ⟨stem, same⟩ := List.getLast?_eq_some_iff.mp broken
    rw [if_pos (by simpa using broken), isLabel_iff, same, List.dropLast_concat]
    constructor
    · exact fun spelled => .inr ⟨stem, spelled, rfl⟩
    · rintro (spelled | ⟨label, spelled, again⟩)
      · exact absurd (by simp) spelled.unbroken
      · rwa [(List.append_inj' again rfl).1]
  · -- All of the name has to be a label, and it cannot be one with a break behind it.
    rw [if_neg (by simpa using broken), isLabel_iff, or_iff_left]
    rintro ⟨label, _, same⟩
    exact broken (by simp [same])

/-- A match has come to its end when nothing follows but one line break at most. -/
theorem allows_finish {go : Onward} (always : Allows go fun _ => True) :
    Allows (finish.meet go) fun chars => chars = [] ∨ chars = ['\n'] := by
  -- A break that is followed by the end is one way to end, and the end itself is the other.
  have ended := allows_end always
  have either := allows_either (.seam fun _ next => next.isNone)
    (.both (.one fun letter => letter.char == '\n') (.seam fun _ next => next.isNone)) ended
    (allows_one (· == '\n') ended)
  -- Where either is allowed depends on the letters that are left alone.
  intro cursor
  refine (either cursor).trans ?_
  simp

/-- The pattern matches exactly the labels and the labels with one line break behind them. -/
theorem matches_iff {name : String} : Matches name ↔ SpelledUpToBreak name.toList := by
  -- Each part of the pattern takes what it stands for, in front of what the parts behind it allow.
  have ending : Allows (finish.meet (Pattern.empty.meet some)) fun chars => chars = [] ∨ chars = ['\n'] :=
    allows_finish fun cursor => by simp [Pattern.meet]
  have closing := allows_most isInner (allows_one closes ending)
  have further := allows_either
    (.both (.most fun letter => isInner letter.char) (.one fun letter => closes letter.char)) .empty
    closing ending
  have whole := allows_one isLetter further
  have text : (name.toList.map Letter.ofChar).map Letter.char = name.toList := by
    rw [List.map_map]
    exact List.map_id _
  refine (whole { place := 0, before := none, rest := name.toList.map Letter.ofChar }).trans ?_
  dsimp only
  rw [text, SpelledUpToBreak]
  -- What is taken is a letter, then the rest of a label or nothing, and then the break or nothing.
  constructor
  · rintro ⟨first, _, same, small, ⟨inner, _, rfl, inside, last, _, rfl, closed, rfl | rfl⟩ | rfl | rfl⟩
    · exact .inl (same ▸ .longer small inside closed)
    · exact .inr ⟨_, .longer small inside closed, by simp [same]⟩
    · exact .inl (same ▸ .single small)
    · exact .inr ⟨_, .single small, by simp [same]⟩
  · rintro (spelled | ⟨label, spelled, same⟩)
    · -- The whole name is a label, so nothing is left for the break.
      generalize name.toList = chars at spelled ⊢
      cases spelled with
      | single small => exact ⟨_, [], rfl, small, .inr (.inl rfl)⟩
      | longer small inside closed =>
        exact ⟨_, _, rfl, small, .inl ⟨_, _, rfl, inside, _, [], rfl, closed, .inl rfl⟩⟩
    · -- The last letter of the name is the break, and all before it is the label.
      rw [same]
      cases spelled with
      | single small => exact ⟨_, ['\n'], rfl, small, .inr (.inr rfl)⟩
      | longer small inside closed =>
        exact ⟨_, _, rfl, small,
          .inl ⟨_, _, List.append_assoc _ _ _, inside, _, ['\n'], rfl, closed, .inr rfl⟩⟩

/-- Whether a name is taken is whether the pattern matches it. -/
theorem accepts_iff_matches {name : String} : accepts name = true ↔ Matches name :=
  accepts_iff.trans matches_iff.symm

end Label

/-- A machine that is created tells an invalid name exactly when the name is not taken. -/
theorem LocalFleet.mem_nameFlaws {name : String} :
    VmFlaw.invalidName ∈ LocalFleet.nameFlaws name ↔ ¬ Label.accepts name = true := by
  rw [LocalFleet.nameFlaws]
  split <;> simp_all

/-- An instance tells an invalid name exactly when the name is not taken. -/
theorem Compute.mem_flaws_of_toVm {project zone : String} {machine : Instance} {vm : Vm}
    (described : toVm project zone machine = .ok vm) :
    VmFlaw.invalidName ∈ vm.flaws ↔ ¬ Label.accepts machine.name = true := by
  -- The other flaws are of other kinds.
  obtain ⟨lifetime, created, _, rfl⟩ := toVm_eq_ok described
  by_cases taken : Label.accepts machine.name = true <;> simp [taken]

namespace LocalHost

/-- After machines were made one after the other there is one of each name, as it was made. -/
theorem get?_foldl_made {names : List String} {name : String} (asked : name ∈ names) (now : Moment)
    (dns : String) (lifetime : Duration) (created : OrderedMap String Vm) :
    ((names.map fun name => Touch.made name now dns lifetime).foldl Touch.apply created).get? name =
      some (LocalFleet.machine name now dns lifetime (LocalFleet.nameFlaws name)) := by
  -- The last of the name stays, so the induction is on the end of the names.
  induction names using List.reverseRecOn with
  | nil => cases asked
  | append_singleton earlier last ih =>
    rw [List.map_append, List.foldl_append, List.map_singleton, List.foldl_cons, List.foldl_nil,
      Touch.apply, OrderedMap.get?_insert]
    -- The last machine has the name, and stays as it was made.
    split
    · next same => rw [same]
    · -- Another name was made last, so the one that was asked for is among the earlier ones.
      next other =>
      refine ih ((List.mem_append.mp asked).resolve_right fun member => other ?_)
      exact List.mem_singleton.mp member

/-- What was created is there, as a machine of its name. -/
theorem exists_created {names : List String} {options : CreateOptions} {site after : Site}
    (ran : (provider.create names options).on site = (.ok (), after)) {name : String}
    (asked : name ∈ names) :
    ∃ now, after.localFleet.created.get? name = some (LocalFleet.machine name now site.hostName
      options.lifetime (LocalFleet.nameFlaws name)) := by
  -- What creating leaves does not depend on how it ended, and here it ended well.
  have left := create_localFleet names options site
  rw [ran] at left
  cases told : site.now with
  | error error =>
    -- Without the time nothing is created.
    have nonempty : names.isEmpty = false := by
      cases names with
      | nil => cases asked
      | cons first others => rfl
    have clock : (Program.clock : Program Site Moment).on site =
        (.error (.problem (.moment error)), site) := by
      change (site.now.mapError _, site) = _
      rw [told]
      rfl
    change (create names options).on site = _ at ran
    rw [create, nonempty] at ran
    simp [Program.on_bind, clock] at ran
  | ok now =>
    refine ⟨now, ?_⟩
    -- At the time that the clock told, one machine was made of each name.
    rw [left]
    simp only [Asking.touches, told]
    exact get?_foldl_made asked now site.hostName options.lifetime site.localFleet.created

end LocalHost

/-- The flaw of an invalid name is told of exactly the virtual machines whose names are neither labels nor
labels with one line break behind them: of machines that are created here, each of which is there afterwards,
and of instances that are described. -/
theorem invalidName_told (name : String) :
    (∀ (names : List String) (options : CreateOptions) (site after : Site), name ∈ names →
      (LocalHost.provider.create names options).on site = (.ok (), after) →
      ∃ vm ∈ after.localFleet.list, after.localFleet.created.get? name = some vm ∧ vm.name = name ∧
        (VmFlaw.invalidName ∈ vm.flaws ↔ ¬ Label.SpelledUpToBreak name.toList)) ∧
    ∀ (project zone : String) (machine : Compute.Instance) (vm : Vm), machine.name = name →
      Compute.toVm project zone machine = .ok vm →
      (VmFlaw.invalidName ∈ vm.flaws ↔ ¬ Label.SpelledUpToBreak name.toList) := by
  rw [← Label.accepts_iff]
  constructor
  · -- A machine that is created is looked up by its name, and its flaws are those of the name.
    intro names options site after asked ran
    obtain ⟨now, held⟩ := LocalHost.exists_created ran asked
    have listed := (OrderedMap.mem_values_iff _ _).mpr ⟨name, held⟩
    exact ⟨_, List.mem_cons_of_mem _ listed, held, rfl, LocalFleet.mem_nameFlaws⟩
  · -- An instance that is described has its flaws decided by its own name.
    rintro project zone machine vm rfl described
    exact Compute.mem_flaws_of_toVm described

/-- A name that ends with a hyphen is told as a flaw, of the machine that is created under it beside another,
and of an instance. -/
theorem invalidName_told_hyphened :
    (∃ after vm, (LocalHost.provider.create ["web", "web-"] {}).on Compute.quietSite = (.ok (), after) ∧
      vm ∈ after.localFleet.list ∧ vm.name = "web-" ∧ VmFlaw.invalidName ∈ vm.flaws) ∧
    ∃ vm, Compute.toVm "lab" "us-east1-b" (Compute.labelledInstance "web-" []) = .ok vm ∧
      VmFlaw.invalidName ∈ vm.flaws := by
  have no : ¬ Label.SpelledUpToBreak "web-".toList := Label.accepts_iff.not.mp (by decide +kernel)
  obtain ⟨created, described⟩ := invalidName_told "web-"
  obtain ⟨vm, listed, _, named, told⟩ := created ["web", "web-"] {} Compute.quietSite _ (by simp) rfl
  -- Ending in a hyphen it is neither a label nor one with a break behind it.
  have dated : Compute.Dated (Compute.labelledInstance "web-" []) := by decide +kernel
  obtain ⟨shown, same, _⟩ := Compute.exists_shows dated (by decide +kernel) "lab" "us-east1-b"
  exact ⟨⟨_, vm, rfl, listed, named, told.mpr no⟩, shown, same, (described _ _ _ _ rfl same).mpr no⟩

/-- A label with a line break behind it is no label, but neither a machine that is created under it nor an
instance of that name has a flaw in its name. -/
theorem closingBreak_untold :
    ¬ Label.Spelled "web\n".toList ∧
    (∃ after vm, (LocalHost.provider.create ["web\n"] {}).on Compute.quietSite = (.ok (), after) ∧
      after.localFleet.created.get? "web\n" = some vm ∧ VmFlaw.invalidName ∉ vm.flaws) ∧
    ∃ vm, Compute.toVm "lab" "us-east1-b" (Compute.labelledInstance "web\n" []) = .ok vm ∧
      VmFlaw.invalidName ∉ vm.flaws := by
  have dated : Compute.Dated (Compute.labelledInstance "web\n" []) := by decide +kernel
  obtain ⟨shown, same, shows⟩ := Compute.exists_shows dated (by decide +kernel) "lab" "us-east1-b"
  refine ⟨fun spelled => spelled.unbroken (by decide +kernel), ⟨_, _, rfl, rfl, by decide +kernel⟩,
    shown, same, fun told => ?_⟩
  -- The name is accepted, although the break is no part of a label.
  exact absurd (shows.nameFlaw.mp told) (by decide +kernel)

end Fleet
