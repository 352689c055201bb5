import Fleet.Proofs.CommandLine.Commands

/-! The command line that creates: which of its arguments are names, and which its options are given. -/

namespace Fleet.CommandLine

/-- No flag has the spelling of another option. -/
theorem not_mem_of_repeatedOption {taken : List String} {flags : List Flag}
    (unrepeated : repeatedOption taken flags = none) : ∀ flag ∈ flags, flag.option ∉ taken := by
  -- The induction is on the flags, with the spellings of those before them taken too.
  induction flags generalizing taken with
  | nil => exact nofun
  | cons flag rest ih =>
    rw [repeatedOption] at unrepeated
    split at unrepeated
    · cases unrepeated
    · next fresh =>
      intro other member
      -- The first flag is fresh, or the list would end with it.
      rcases List.mem_cons.mp member with rfl | member
      · simpa using fresh
      · -- The others are fresh to even more spellings.
        exact fun spelled => ih unrepeated other member (List.mem_cons_of_mem _ spelled)

/-- What the command line depends on are the providers to create on, and flags with spellings of their own. -/
theorem catalogue_eq_ok {σ : Type} {registry : Registry (Provider σ)} {state : σ} {version : String}
    {known : Catalogue} (read : catalogue registry state version = .ok known) :
    known.targets = Command.createTargets registry ∧
      ∀ flag ∈ known.flags, flag.option ∉ (createOptions known).flatMap Opt.spellings := by
  dsimp only [catalogue] at read
  -- A spelling that is repeated ends the program before it reads anything.
  split at read
  · cases read
  · next unrepeated =>
    cases read
    refine ⟨rfl, fun flag member spelled => ?_⟩
    -- The spellings that are taken begin with those of help.
    refine not_mem_of_repeatedOption unrepeated flag member ?_
    rw [List.flatMap_cons]
    exact List.mem_append_right _ spelled

variable {known : Catalogue}

/-- What is found after an option is taken over on a command line to create: it leaves the names alone, and
what it is given for providers or a lifetime takes the place of what was there. -/
structure Sets (known : Catalogue) (opt : Opt CreateArguments) (values : List String)
    (found next : CreateArguments) : Prop where
  names : next.names = found.names
  providers : next.providers =
    if opt.spellings.contains "--providers" then values else found.providers
  lifetime : next.lifetime.isNone =
    if opt.spellings.contains "--lifetime" then values.isEmpty else found.lifetime.isNone
  targeted : (∀ name ∈ found.providers, name ∈ known.targets) →
    ∀ name ∈ next.providers, name ∈ known.targets

/-- The options to create are the one for help, those of every provider, and flags. -/
theorem mem_createGrammar {opt : Opt CreateArguments} (member : opt ∈ (createGrammar known).options) :
    (∃ answer, opt = helpOptionTo answer) ∨ opt ∈ createOptions known ∨
      ∃ flag ∈ known.flags, opt = flagOption flag := by
  rcases List.mem_cons.mp member with help | others
  · exact .inl ⟨_, help⟩
  · rcases List.mem_append.mp others with own | flags
    · exact .inr (.inl own)
    · obtain ⟨flag, known, same⟩ := List.mem_map.mp flags
      exact .inr (.inr ⟨flag, known, same.symm⟩)

/-- A name that is checked is among the choices. -/
theorem mem_of_checkChoice {choices : List String} {name : String}
    (checked : checkChoice choices name = .ok ()) : name ∈ choices := by
  rw [checkChoice] at checked
  split at checked
  · next chosen => simpa using chosen
  · cases checked

/-- Whatever option is taken over sets what it should. -/
theorem sets_of_take
    (distinct : ∀ flag ∈ known.flags, flag.option ∉ (createOptions known).flatMap Opt.spellings)
    {opt : Opt CreateArguments} (member : opt ∈ (createGrammar known).options) {values : List String}
    {found next : CreateArguments} (taken : opt.take values found = .ok next) :
    Sets known opt values found next := by
  rcases mem_createGrammar member with ⟨answer, rfl⟩ | own | ⟨flag, among, rfl⟩
  · -- Help ends the reading, so it takes nothing over.
    cases taken
  · -- Those of every provider are gone through one by one.
    simp only [createOptions, List.mem_cons, List.not_mem_nil, or_false] at own
    rcases own with rfl | rfl | rfl | rfl
    · obtain ⟨lifetimes, read, same⟩ := exists_of_bind_ok taken
      cases same
      -- There are as many lifetimes as values.
      have first : lifetimes.head?.isNone = values.isEmpty := by
        cases mapM_eq_ok_iff.mp read <;> rfl
      exact ⟨rfl, rfl, first, id⟩
    · cases taken
      exact ⟨rfl, rfl, rfl, id⟩
    · cases taken
      exact ⟨rfl, rfl, rfl, id⟩
    · obtain ⟨_, checked, same⟩ := exists_of_bind_ok taken
      cases same
      exact ⟨rfl, rfl, rfl, fun _ name member =>
        mem_of_checkChoice (forM_eq_ok_iff.mp checked name member)⟩
  · -- A flag of a provider has a spelling of its own, so it sets neither of them.
    cases taken
    have other := distinct flag among
    simp only [createOptions, lifetimeOption, switch, List.flatMap_cons, List.flatMap_nil,
      List.cons_append, List.nil_append, List.mem_cons, List.not_mem_nil, not_or] at other
    refine ⟨rfl, ?_, ?_, id⟩
    · rw [if_neg (by simpa [flagOption] using Ne.symm other.2.2.2.1)]
    · rw [if_neg (by simpa [flagOption] using Ne.symm other.1)]

/-- Only help is asked for by a short option without values. -/
theorem unchained_createGrammar : (createGrammar known).Unchained := by
  rintro opt member plain ⟨spelling, spelled, short⟩ values found
  rcases mem_createGrammar member with ⟨answer, rfl⟩ | own | ⟨flag, among, rfl⟩
  · exact ⟨_, rfl⟩
  · -- Those of every provider are spelled with two hyphens.
    simp only [createOptions, List.mem_cons, List.not_mem_nil, or_false] at own
    rcases own with rfl | rfl | rfl | rfl
    all_goals
      obtain rfl := List.mem_singleton.mp spelled
      exact absurd short (by decide)
  · -- A flag takes values.
    dsimp only [flagOption] at plain
    split at plain <;> cases plain

/-- The operand takes words, and sets the names and nothing else. -/
theorem operand_createGrammar (known : Catalogue) {operand : Operand CreateArguments}
    (waits : (createGrammar known).operand = some operand) :
    operand.reach = .words ∧ ∀ values found next, operand.take values found = .ok next →
      next = { found with names := values } := by
  cases waits
  refine ⟨rfl, fun values found next taken => ?_⟩
  cases taken
  rfl

/-- The names on a command line to create: what is no option and not given to one either, in order, without
the separator. -/
def namesIn (tokens : List (String × Reading CreateArguments)) : List String :=
  (plainAfter 0 tokens).erase "--"

/-- The providers on a command line to create: what the last option for them is given, without a separator. -/
def providersIn (tokens : List (String × Reading CreateArguments)) : List String :=
  ((lastGiven "--providers" tokens).getD []).erase "--"

/-- The last option for a lifetime is given nothing but a separator. -/
def Lapses (tokens : List (String × Reading CreateArguments)) : Prop :=
  ∃ values, lastGiven "--lifetime" tokens = some values ∧ values.erase "--" = []

/-- The arguments to create are those on the command line, and the providers can be created on. -/
structure Divides (known : Catalogue) (tokens : List (String × Reading CreateArguments))
    (arguments : CreateArguments) : Prop where
  names : arguments.names = namesIn tokens
  providers : arguments.providers = providersIn tokens
  lifetime : arguments.lifetime = none ↔ Lapses tokens
  targeted : ∀ name ∈ arguments.providers, name ∈ known.targets

/-- The arguments that create divide. -/
theorem divides_of_parseKnown
    (distinct : ∀ flag ∈ known.flags, flag.option ∉ (createOptions known).flatMap Opt.spellings)
    {own : List String} {arguments : CreateArguments}
    (parsed : (createGrammar known).parseKnown own (createStart known) = .ok (arguments, [])) :
    ∃ tokens, (createGrammar known).classifyAll own = .ok tokens ∧ Divides known tokens arguments := by
  obtain ⟨tokens, after, classified, reads, taken, rfl⟩ := Grammar.reads_of_parseKnown parsed
  have fits := (Grammar.fits_of_classifyAll classified).2
  have sets {opt : Opt CreateArguments} (member : opt ∈ (createGrammar known).options)
      {values : List String} {found next : CreateArguments} :
      opt.take values found = .ok next → Sets known opt values found next :=
    sets_of_take distinct member
  -- What is no name is set by options alone, and what the last of them is given counts.
  have last {γ : Type} (spelling : String) (field : CreateArguments → γ) (stored : List String → γ)
      (unnamed : ∀ found names, field { found with names := names } = field found)
      (set : ∀ opt ∈ (createGrammar known).options, ∀ values found next,
        opt.take values found = .ok next →
          field next = if opt.spellings.contains spelling then stored values else field found) :
      field after.found = ((lastGiven spelling tokens).map fun values =>
        stored (values.erase "--")).getD (field (createStart known)) := by
    refine Grammar.lastGiven_of_reads spelling field stored unchained_createGrammar set reads fits ?_
    intro operand waits
    obtain ⟨reach, named⟩ := operand_createGrammar known waits
    refine ⟨reach, fun values found next taken => ?_⟩
    rw [named values found next taken, unnamed]
  refine ⟨tokens, classified, ?_, ?_, ?_, ?_⟩
  · -- The operand has the names, which are all words that no option was given.
    refine (Grammar.plainAfter_of_reads (·.names) unchained_createGrammar
      (fun opt member values found next taken => (sets member taken).names) reads fits ?_ taken).2 rfl
    intro operand waits
    obtain ⟨reach, named⟩ := operand_createGrammar known waits
    refine ⟨reach, fun values found next taken => ?_⟩
    rw [named values found next taken]
  · -- Providers are what the last option for them was given.
    rw [last "--providers" (·.providers) id (fun _ _ => rfl)
      fun opt member values found next taken => (sets member taken).providers]
    unfold providersIn
    cases lastGiven "--providers" tokens <;> rfl
  · -- A lifetime is missing when the last option for it was left without a value.
    rw [← Option.isNone_iff_eq_none, last "--lifetime" (·.lifetime.isNone) List.isEmpty (fun _ _ => rfl)
      fun opt member values found next taken => (sets member taken).lifetime]
    unfold Lapses
    cases lastGiven "--lifetime" tokens <;> simp [createStart]
  · -- Each name of a provider was checked when it was taken over.
    refine Grammar.holds_of_reads (fun found => ∀ name ∈ found.providers, name ∈ known.targets)
      (fun opt member values found next taken => (sets member taken).targeted) reads fits ?_ nofun
    intro operand waits values found next taken targeted
    obtain ⟨_, named⟩ := operand_createGrammar known waits
    rw [named values found next taken]
    exact targeted

/-- A command line to create consists of options of the program, the word for it and its own arguments. -/
theorem create_of_parse {line : List String} {verbose : Bool} {arguments : CreateArguments}
    (parsed : parse known line = .ok (verbose, .create arguments)) :
    ∃ options own, line = options ++ "create" :: own ∧
      (∀ argument ∈ options, argument.toList.head? = some '-') ∧
      (createGrammar known).parseKnown own (createStart known) = .ok (arguments, []) := by
  obtain ⟨options, own, read, _, rfl, directs, _, reads⟩ := exists_directs_of_parse parsed
  refine ⟨options, own, rfl, fun argument member => ?_, ?_⟩
  · -- Whatever stands before the word for the command begins with a hyphen.
    obtain ⟨opt, joined, option⟩ := directs.option argument member
    exact (Grammar.fits_of_classify option).hyphen
  · -- The command of that word is the one that creates.
    cases directs.looked
    obtain ⟨⟨found, extras⟩, understood, same⟩ := exists_of_bind_ok reads
    cases same
    exact understood

end Fleet.CommandLine
