import Fleet.Proofs.Creation
import Fleet.Proofs.Duration.Grammar

/-! Lifetimes on a command line: what becomes of every text that is joined to the option for one, where the
command line is understood otherwise. -/

namespace Fleet.CommandLine

variable {ν α β : Type}

/-- The argument that joins a text to the option for a lifetime. -/
def lifetimeArgument (text : String) : String := "--lifetime=" ++ text

/-- The lifetime that texts come to: what the first of them writes. -/
def lifetimeOf (texts : List String) : Option Duration :=
  texts.head?.bind fun text => (Duration.parse text).toOption

/-- What the texts that an option for a lifetime is given come to: to none if there is nothing but a
separator, and else to the length of time that the first of the others writes, which is a whole one. -/
inductive ComesTo (texts : List String) : Option Duration → Prop where
  | none (dropped : texts.erase "--" = []) : ComesTo texts none
  | time {first : String} {more : List String} {time : Duration} (kept : texts.erase "--" = first :: more)
      (written : Duration.parse first = .ok time) (whole : time.IsWhole) : ComesTo texts (some time)

/-- What becomes of a command line with a text for the lifetime, before these other arguments. -/
inductive Verdict (grammar : Grammar ν) (after : List String) (text : String)
    (timed : Option Duration → α) : Except Halt α → Prop where
  /-- A separator or a length of time is taken, and the last option for a lifetime decides. -/
  | taken {tokens : List (String × Reading ν)} {lifetime : Option Duration}
      (readable : text = "--" ∨ ∃ time, Duration.parse text = .ok time)
      (later : grammar.classifyAll after = .ok tokens)
      (lasts : ComesTo ((lastGiven "--lifetime" tokens).getD [text]) lifetime) :
      Verdict grammar after text timed (.ok (timed lifetime))
  /-- What is neither is a misuse that is told with what is wrong with the text. -/
  | misused {error : DurationError} (kept : text ≠ "--") (refused : Duration.parse text = .error error)
      (caught : ∀ days, error ≠ .outOfRange days)
      (shown : Usage.dividesEvenly (usageOf grammar.options) = true) :
      Verdict grammar after text timed (.error (.misuse grammar.program
        (Text.trimEnd s!"argument --lifetime: {error.message}")))
  /-- No misuse can be told if the usage that is to be shown with it does not divide evenly. -/
  | untold {error : DurationError} (kept : text ≠ "--") (refused : Duration.parse text = .error error)
      (caught : ∀ days, error ≠ .outOfRange days)
      (uneven : Usage.dividesEvenly (usageOf grammar.options) = false) :
      Verdict grammar after text timed (.error (.fault (.problem .unevenUsage)))
  /-- A length of time that is too long is a fault that nobody catches. -/
  | uncaught {days : Nat} (long : Duration.parse text = .error (.outOfRange days)) :
      Verdict grammar after text timed (.error (.fault (.problem (.duration (.outOfRange days)))))

/-- What becomes of a command line stays so where what is understood is made more of. -/
theorem Verdict.bind {grammar : Grammar ν} {after : List String} {text : String}
    {timed : Option Duration → α} {outcome : Except Halt α} {next : α → Except Halt β}
    {done : Option Duration → β} (verdict : Verdict grammar after text timed outcome)
    (onward : ∀ lifetime, next (timed lifetime) = .ok (done lifetime)) :
    Verdict grammar after text done (outcome >>= next) := by
  -- What was refused before stays refused, so only a lifetime that was taken goes on.
  cases verdict with
  | taken readable later lasts =>
    change Verdict grammar after text done (next (timed _))
    rw [onward]
    exact .taken readable later lasts
  | misused kept refused caught shown => exact .misused kept refused caught shown
  | untold kept refused caught uneven => exact .untold kept refused caught uneven
  | uncaught long => exact .uncaught long

/-- A text is read as a lifetime exactly if it is a length of time. -/
theorem readLifetime_eq_ok_iff {text : String} {time : Duration} :
    readLifetime text = .ok time ↔ Duration.parse text = .ok time := by
  unfold readLifetime
  split <;> simp_all

/-- Texts that are read as lifetimes come to what the first of them writes, and to none only without any. -/
theorem lifetimeOf_of_mapM {texts : List String} {times : List Duration}
    (read : texts.mapM readLifetime = .ok times) :
    times.head? = lifetimeOf texts ∧ (lifetimeOf texts).isNone = texts.isEmpty := by
  -- There are as many lifetimes as texts.
  cases mapM_eq_ok_iff.mp read with
  | nil => exact ⟨rfl, rfl⟩
  | cons first more =>
    have written := readLifetime_eq_ok_iff.mp first
    simp [lifetimeOf, written, Except.toOption]

/-- Whatever is taken over leaves the lifetime alone, and takes no notice of it. -/
def Leaves (lifetime : ν → Option Duration) (store : Option Duration → ν → ν)
    (take : List String → ν → Except Refusal ν) : Prop :=
  ∀ values found next, take values found = .ok next →
    lifetime next = lifetime found ∧ ∀ time, take values (store time found) = .ok (store time next)

/-- A grammar keeps a lifetime: the option for it stores it, and whatever else there is leaves it alone. -/
structure KeepsLifetime (grammar : Grammar ν) (required : Bool) (lifetime : ν → Option Duration)
    (store : Option Duration → ν → ν) : Prop where
  option : grammar.find? "--lifetime" = some (lifetimeOption required store)
  stored : ∀ time found, lifetime (store time found) = time
  replaced : ∀ time other found, store time (store other found) = store time found
  options : ∀ opt ∈ grammar.options, opt = lifetimeOption required store ∨
    "--lifetime" ∉ opt.spellings ∧ Leaves lifetime store opt.take
  operand : ∀ operand, grammar.operand = some operand →
    operand.reach = .words ∧ Leaves lifetime store operand.take
  unchained : grammar.Unchained

/-- One is the other with some lifetime. -/
def Alike (store : Option Duration → ν → ν) (found other : ν) : Prop :=
  ∃ lifetime, other = store lifetime found

/-- What takes no notice of the lifetime makes no other difference either. -/
theorem Leaves.respects {lifetime : ν → Option Duration} {store : Option Duration → ν → ν}
    {take : List String → ν → Except Refusal ν} (leaves : Leaves lifetime store take) :
    Grammar.Respects (Alike store) take := by
  rintro values found next _ taken ⟨time, rfl⟩
  exact ⟨_, (leaves values found next taken).2 time, time, rfl⟩

/-- The argument begins with two hyphens and the name of the option, up to an equals sign. -/
theorem toList_lifetimeArgument (text : String) :
    (lifetimeArgument text).toList = "--lifetime".toList ++ '=' :: text.toList := by
  simp [lifetimeArgument, String.toList_append]

/-- The argument is none of those that begin otherwise. -/
theorem lifetimeArgument_ne {text other : String}
    (otherwise : "--lifetime=".toList.isPrefixOf other.toList = false) : other ≠ lifetimeArgument text := by
  rintro rfl
  simp [lifetimeArgument, String.toList_append] at otherwise

/-- So it is not among spellings that all begin otherwise. -/
theorem not_mem_spellings {text : String} {spellings : List String}
    (otherwise : ∀ spelling ∈ spellings, "--lifetime=".toList.isPrefixOf spelling.toList = false) :
    lifetimeArgument text ∉ spellings :=
  fun member => lifetimeArgument_ne (otherwise _ member) rfl

/-- What stands before and after the first equals sign of the argument. -/
theorem splitAtSign_lifetimeArgument (text : String) :
    Text.splitAtSign (lifetimeArgument text).toList = ("--lifetime".toList, some text.toList) := by
  rw [toList_lifetimeArgument]
  rfl

namespace KeepsLifetime

variable {grammar : Grammar ν} {required : Bool} {lifetime : ν → Option Duration}
  {store : Option Duration → ν → ν}

/-- What the option for a lifetime takes over comes to what the first text writes. -/
theorem stored_of_take {values : List String} {found next : ν}
    (taken : (lifetimeOption required store).take values found = .ok next) :
    next = store (lifetimeOf values) found ∧ (lifetimeOf values).isNone = values.isEmpty := by
  -- The texts were all read, and the first of them is stored.
  obtain ⟨times, read, same⟩ := exists_of_bind_ok taken
  cases same
  obtain ⟨head, none⟩ := lifetimeOf_of_mapM read
  exact ⟨by rw [head], none⟩

/-- Every option sets the lifetime if it is the one for it, and otherwise leaves it as it was. -/
theorem sets (keeps : KeepsLifetime grammar required lifetime store) {opt : Opt ν}
    (member : opt ∈ grammar.options) {values : List String} {found next : ν}
    (taken : opt.take values found = .ok next) :
    (lifetime next, (lifetime next).isNone) =
      if opt.spellings.contains "--lifetime" then (lifetimeOf values, values.isEmpty)
      else (lifetime found, (lifetime found).isNone) := by
  -- It is the option for the lifetime, or one that leaves it.
  rcases keeps.options opt member with rfl | ⟨other, leaves⟩
  · obtain ⟨rfl, none⟩ := stored_of_take taken
    rw [keeps.stored, none]
    rfl
  · rw [if_neg (by simpa using other), (leaves values found next taken).1]

/-- To every option lifetimes are alike. -/
theorem respects (keeps : KeepsLifetime grammar required lifetime store) {opt : Opt ν}
    (member : opt ∈ grammar.options) : Grammar.Respects (Alike store) opt.take := by
  rcases keeps.options opt member with rfl | ⟨_, leaves⟩
  · -- The one for the lifetime puts another in its place, whatever was there before.
    rintro values found next _ taken ⟨time, rfl⟩
    obtain ⟨times, read, same⟩ := exists_of_bind_ok taken
    cases same
    refine ⟨store times.head? (store time found), ?_, times.head?, ?_⟩
    · simp only [lifetimeOption, read, bind, Except.bind]
      rfl
    · rw [keeps.replaced, keeps.replaced]
  · exact leaves.respects

/-- The argument joins its text to the option for a lifetime, unless another option is spelled like that. -/
theorem joins (keeps : KeepsLifetime grammar required lifetime store) {text : String}
    (unspelled : grammar.find? (lifetimeArgument text) = none) :
    grammar.Joins (lifetimeOption required store) (lifetimeArgument text) text where
  other := Ne.symm (lifetimeArgument_ne (by decide))
  read := by
    -- It is no spelling in full, but what stands before its equals sign is one.
    have exact : grammar.exactly (lifetimeArgument text).toList =
        some (.option (lifetimeOption required store) (some ⟨false, text.toList⟩)) := by
      unfold Grammar.exactly
      rw [String.ofList_toList, unspelled, splitAtSign_lifetimeArgument]
      dsimp only
      rw [String.ofList_toList, keeps.option]
      rfl
    unfold Grammar.classify
    -- It begins with a hyphen, and is not the empty argument.
    split
    · next more hyphen =>
      rw [exact, if_neg]
      intro empty
      rw [toList_lifetimeArgument, List.isEmpty_iff.mp empty] at hyphen
      simp at hyphen
    · next other =>
      exact absurd (toList_lifetimeArgument text) (other _)

/-- A text that is taken is a separator or a length of time. -/
theorem readable_of_take {text : String} {found next : ν}
    (taken : (lifetimeOption required store).take ([text].erase "--") found = .ok next) :
    text = "--" ∨ ∃ time, Duration.parse text = .ok time := by
  obtain ⟨times, read, _⟩ := exists_of_bind_ok taken
  by_cases dropped : text = "--"
  · exact .inl dropped
  · rw [List.erase_cons_tail (by simpa using dropped), List.erase_nil] at read
    -- What is left of it without the separator is the text itself.
    cases mapM_eq_ok_iff.mp read with
    | cons first _ => exact .inr ⟨_, readLifetime_eq_ok_iff.mp first⟩

/-- A text that is refused is no separator, and no length of time either. If that is for its being too long
the reading ends there, and otherwise the text is told as wrong. -/
theorem refused_of_take {text : String} {found : ν} {refusal : Refusal}
    (taken : (lifetimeOption required store).take ([text].erase "--") found = .error refusal) :
    text ≠ "--" ∧ ∃ error, Duration.parse text = .error error ∧
      ((∃ days, error = .outOfRange days ∧
          refusal = .halt (.fault (.problem (.duration (.outOfRange days))))) ∨
        (∀ days, error ≠ .outOfRange days) ∧ refusal = .wrong error.message) := by
  -- A separator is dropped, and then there is nothing to refuse.
  have kept : text ≠ "--" := by
    rintro rfl
    cases taken
  refine ⟨kept, ?_⟩
  rw [List.erase_cons_tail (by simpa using kept), List.erase_nil] at taken
  -- The text is the only one, so it is the one that was refused.
  have refused : readLifetime text = .error refusal := by
    simp only [lifetimeOption, List.mapM_cons, List.mapM_nil] at taken
    cases read : readLifetime text with
    | ok time => rw [read] at taken; cases taken
    | error other => rw [read] at taken; cases taken; rfl
  -- There are two kinds of refusal, of which one ends the reading at once.
  unfold readLifetime at refused
  split at refused
  · cases refused
  · next days long =>
    cases refused
    exact ⟨_, long, .inl ⟨days, rfl, rfl⟩⟩
  · next error caught wrong =>
    cases refused
    exact ⟨error, wrong, .inr ⟨caught, rfl⟩⟩

/-- What is taken over in the end comes from what the last option for a lifetime is given. -/
theorem comesTo (keeps : KeepsLifetime grammar required lifetime store) {arguments : List String}
    {start found : ν} (parsed : grammar.parseKnown arguments start = .ok (found, [])) :
    ∃ tokens, grammar.classifyAll arguments = .ok tokens ∧
      ∀ texts, lastGiven "--lifetime" tokens = some texts → ComesTo texts (lifetime found) := by
  obtain ⟨tokens, after, classified, reads, _, rfl⟩ := Grammar.reads_of_parseKnown parsed
  refine ⟨tokens, classified, fun texts last => ?_⟩
  -- The last option for a lifetime decides both what it is and whether there is one.
  have set := Grammar.lastGiven_of_reads "--lifetime" (fun found => (lifetime found, (lifetime found).isNone))
    (fun values => (lifetimeOf values, values.isEmpty)) keeps.unchained
    (fun opt member values found next taken => keeps.sets member taken) reads
    (Grammar.fits_of_classifyAll classified).2 fun operand waits => by
      obtain ⟨reach, leaves⟩ := keeps.operand operand waits
      refine ⟨reach, fun values found next taken => ?_⟩
      rw [(leaves values found next taken).1]
  rw [last] at set
  obtain ⟨came, none⟩ := Prod.mk.inj set
  rw [came] at none ⊢
  -- There is a lifetime if anything is left without the separator, and then the first of it wrote it.
  cases kept : texts.erase "--" with
  | nil => exact .none kept
  | cons first more =>
    cases written : Duration.parse first with
    | error _ => simp [kept, lifetimeOf, written, Except.toOption] at none
    | ok time =>
      have same : lifetimeOf (first :: more) = some time := by
        simp [lifetimeOf, written, Except.toOption]
      exact same ▸ .time kept written (Duration.isWhole_of_parse written)

/-- What the last option for a lifetime is given, of the one with a text and those after it. -/
theorem lastGiven_joined {first others : List (String × Reading ν)} {argument : String} {text : String} :
    lastGiven "--lifetime"
        (first ++ (argument, .option (lifetimeOption required store) (some ⟨false, text.toList⟩)) :: others) =
      some ((lastGiven "--lifetime" others).getD [text]) := by
  refine lastGiven_append first ?_
  -- If there is no such option later, it is the one that the text is joined to.
  rw [lastGiven]
  cases lastGiven "--lifetime" others with
  | some texts => rfl
  | none => simp [lifetimeOption, given]

/-- What becomes of another text for the lifetime on a command line that is understood. -/
theorem verdict (keeps : KeepsLifetime grammar required lifetime store) {before after : List String}
    (early : "--" ∉ before) {fine text : String}
    (fineUnspelled : grammar.find? (lifetimeArgument fine) = none)
    (unspelled : grammar.find? (lifetimeArgument text) = none) {start found : ν}
    (parsed : grammar.parseKnown (before ++ lifetimeArgument fine :: after) start = .ok (found, [])) :
    Verdict grammar after text (fun time => (store time found, []))
      (grammar.parseKnown (before ++ lifetimeArgument text :: after) start) := by
  -- The operand takes words and leaves the lifetime, so it respects what is alike.
  have operands (operand : Operand ν) (waits : grammar.operand = some operand) :
      operand.reach = .words ∧ Grammar.Respects (Alike store) operand.take :=
    (keeps.operand operand waits).imp_right Leaves.respects
  obtain ⟨middle, next, accepted, exchange⟩ :=
    Grammar.exists_exchange (fun opt => keeps.respects) operands (by simp [lifetimeOption]) early
      (keeps.joins fineUnspelled) parsed
  obtain ⟨rfl, _⟩ := stored_of_take accepted
  obtain ⟨refuses, takes⟩ := exchange _ _ (keeps.joins unspelled)
  -- The option takes this text or refuses it, at the place where it took the other one.
  cases taken : (lifetimeOption required store).take ([text].erase "--") middle with
  | ok other =>
    obtain ⟨rfl, _⟩ := stored_of_take taken
    -- What follows goes as it went, but for the lifetime, and that is what the last option for it is given.
    obtain ⟨last, understood, time, rfl⟩ := takes _ taken ⟨_, (keeps.replaced ..).symm⟩
    obtain ⟨tokens, classified, comes⟩ := keeps.comesTo understood
    obtain ⟨first, _, others, _, alone, later, rfl⟩ :=
      (Grammar.classifyAll_eq_ok_iff early (keeps.joins unspelled).other).mp classified
    cases (keeps.joins unspelled).read.symm.trans alone
    have lasts := comes _ lastGiven_joined
    rw [keeps.stored] at lasts
    rw [understood]
    exact .taken (readable_of_take taken) later lasts
  | error refusal =>
    rw [refuses refusal taken]
    obtain ⟨kept, error, refused, ⟨days, rfl, rfl⟩ | ⟨caught, rfl⟩⟩ := refused_of_take taken
    · exact .uncaught refused
    · -- The title of the option is its only spelling.
      change Verdict grammar after text _ (grammar.misuse s!"argument --lifetime: {error.message}")
      unfold Grammar.misuse
      split
      · next shown => exact .misused kept refused caught shown
      · next uneven => exact .untold kept refused caught (by simpa using uneven)

end KeepsLifetime

variable {known : Catalogue}

/-- Only a flag can be spelled like the option for a lifetime with a text joined to it. -/
theorem find?_createGrammar {text : String}
    (unspelled : ∀ flag ∈ known.flags, flag.option ≠ lifetimeArgument text) :
    (createGrammar known).find? (lifetimeArgument text) = none := by
  -- Options are the one for help, those of the command and the flags of providers.
  refine Grammar.find?_eq_none fun opt member => ?_
  rcases mem_createGrammar member with ⟨answer, rfl⟩ | own | ⟨flag, among, rfl⟩
  · exact not_mem_spellings (by dsimp only [helpOptionTo]; decide)
  · simp only [createOptions, List.mem_cons, List.not_mem_nil, or_false] at own
    rcases own with rfl | rfl | rfl | rfl <;>
      exact not_mem_spellings (by dsimp only [lifetimeOption, switch]; decide)
  · exact fun spelled => unspelled flag among (List.mem_singleton.mp spelled).symm

/-- Nothing is spelled like that to extend. -/
theorem find?_extendGrammar (text : String) : extendGrammar.find? (lifetimeArgument text) = none := by
  refine Grammar.find?_eq_none fun opt member => ?_
  simp only [extendGrammar, List.mem_cons, List.not_mem_nil, or_false] at member
  rcases member with rfl | rfl <;>
    exact not_mem_spellings (by dsimp only [helpOption, helpOptionTo, lifetimeOption]; decide)

/-- Nothing is spelled like that among the options of the program. -/
theorem find?_programGrammar (text : String) :
    (programGrammar known).find? (lifetimeArgument text) = none := by
  refine Grammar.find?_eq_none fun opt member => ?_
  simp only [programGrammar, List.mem_cons, List.not_mem_nil, or_false] at member
  rcases member with rfl | rfl | rfl <;>
    exact not_mem_spellings (by dsimp only [helpOption, helpOptionTo, switch]; decide)

/-- A command line to create keeps a lifetime, where flags have spellings of their own. -/
theorem keepsLifetime_createGrammar
    (distinct : ∀ flag ∈ known.flags, flag.option ∉ (createOptions known).flatMap Opt.spellings) :
    KeepsLifetime (createGrammar known) false (·.lifetime)
      fun lifetime found => { found with lifetime := lifetime } where
  option := rfl
  stored _ _ := rfl
  replaced _ _ _ := rfl
  options opt member := by
    rcases mem_createGrammar member with ⟨answer, rfl⟩ | own | ⟨flag, among, rfl⟩
    · -- To ask for help ends the reading.
      exact .inr ⟨by simp [helpOptionTo], fun _ _ _ taken => by cases taken⟩
    · simp only [createOptions, List.mem_cons, List.not_mem_nil, or_false] at own
      rcases own with rfl | rfl | rfl | rfl
      · exact .inl rfl
      · -- The other options of the command set other fields.
        refine .inr ⟨by simp [switch], fun values found next taken => ?_⟩
        cases taken
        exact ⟨rfl, fun _ => rfl⟩
      · refine .inr ⟨by simp [switch], fun values found next taken => ?_⟩
        cases taken
        exact ⟨rfl, fun _ => rfl⟩
      · refine .inr ⟨by simp, fun values found next taken => ?_⟩
        obtain ⟨_, checked, same⟩ := exists_of_bind_ok taken
        cases same
        exact ⟨rfl, fun time => by simp only [checked]; rfl⟩
    · -- A flag of a provider has a spelling of its own.
      refine .inr ⟨fun spelled => distinct flag among ?_, fun values found next taken => ?_⟩
      · rw [← List.mem_singleton.mp spelled]
        exact List.mem_cons_self ..
      · cases taken
        exact ⟨rfl, fun _ => rfl⟩
  operand operand waits := by
    obtain ⟨reach, named⟩ := operand_createGrammar known waits
    -- The names are all that the operand sets.
    refine ⟨reach, fun values found next taken => ?_⟩
    cases waits
    cases taken
    exact ⟨rfl, fun _ => rfl⟩
  unchained := unchained_createGrammar

/-- So does one to extend. -/
theorem keepsLifetime_extendGrammar :
    KeepsLifetime extendGrammar true Prod.snd fun lifetime found => (found.1, lifetime) where
  option := rfl
  stored _ _ := rfl
  replaced _ _ _ := rfl
  options opt member := by
    -- There are two options, and the other one asks for help.
    simp only [extendGrammar, List.mem_cons, List.not_mem_nil, or_false] at member
    rcases member with rfl | rfl
    · exact .inr ⟨by simp [helpOption, helpOptionTo], fun _ _ _ taken => by cases taken⟩
    · exact .inl rfl
  operand operand waits := by
    cases waits
    refine ⟨rfl, fun values found next taken => ?_⟩
    cases taken
    exact ⟨rfl, fun _ => rfl⟩
  unchained := by
    rintro opt member plain ⟨spelling, spelled, short⟩ values found
    simp only [extendGrammar, List.mem_cons, List.not_mem_nil, or_false] at member
    rcases member with rfl | rfl
    · -- Help is taken over without a value and in a short form, but it ends the reading.
      exact ⟨_, rfl⟩
    · cases plain

/-- The program does not take the argument for one of its own options. -/
theorem exists_classify_lifetimeArgument (known : Catalogue) (text : String) :
    ∃ reading, (programGrammar known).classify (lifetimeArgument text) = .ok reading ∧
      ∀ opt joined, reading ≠ .option opt joined := by
  -- It is no spelling in full, nor is what stands before its equals sign.
  have exactly : (programGrammar known).exactly (lifetimeArgument text).toList = none := by
    unfold Grammar.exactly
    rw [String.ofList_toList, find?_programGrammar, splitAtSign_lifetimeArgument]
    rfl
  -- None of its options begins with the name of this one.
  have candidates : (programGrammar known).candidates (lifetimeArgument text).toList = [] := by
    have split := splitAtSign_lifetimeArgument text
    rw [toList_lifetimeArgument] at split ⊢
    rfl
  unfold Grammar.classify
  split
  · next more hyphen =>
    rw [exactly, candidates, if_neg]
    · dsimp only
      -- Without a candidate a blank within decides between a word and an unknown option.
      split
      · exact ⟨.word, rfl, nofun⟩
      · exact ⟨.unknown, rfl, nofun⟩
    · intro empty
      rw [toList_lifetimeArgument, List.isEmpty_iff.mp empty] at hyphen
      simp at hyphen
  · exact ⟨.word, rfl, nofun⟩

/-- The first place of an argument that does not stand before a word is after it. -/
theorem exists_of_append_eq {before after options own : List α} {argument word : α}
    (same : before ++ argument :: after = options ++ word :: own) (outside : argument ∉ options)
    (other : argument ≠ word) :
    ∃ between, before = options ++ word :: between ∧ own = between ++ argument :: after := by
  -- Either the first list ends within the other one, or it goes beyond.
  rcases List.append_eq_append_iff.mp same with ⟨between, rfl, later⟩ | ⟨between, rfl, later⟩
  · -- Then the argument stands before the word or is it, and neither can be.
    cases between with
    | nil => exact absurd (List.cons.inj later).1 other
    | cons first more =>
      obtain ⟨rfl, _⟩ := List.cons.inj later
      exact absurd (by simp) outside
  · -- Then the word stands before the argument or is it, and only the former can be.
    cases between with
    | nil => exact absurd (List.cons.inj later).1.symm other
    | cons first more =>
      obtain ⟨rfl, rfl⟩ := List.cons.inj later
      exact ⟨more, rfl, rfl⟩

/-- Another text for the lifetime leaves the command where it is, which decides what becomes of it. -/
theorem exists_parse_lifetime {before after : List String} {fine : String} {verbose : Bool}
    {command : Command} (early : "--" ∉ before)
    (accepted : parse known (before ++ lifetimeArgument fine :: after) = .ok (verbose, command)) :
    ∃ between read, "--" ∉ between ∧ (commands known).lookup command.name = some read ∧
      read (between ++ lifetimeArgument fine :: after) = .ok (command, []) ∧
      ∀ text, parse known (before ++ lifetimeArgument text :: after) = (do
        let (command, extras) ← read (between ++ lifetimeArgument text :: after)
        (programGrammar known).refuseExtras (verbose, command) extras) := by
  obtain ⟨options, own, read, tokens, line, directs, classified, reads⟩ := exists_directs_of_parse accepted
  -- The argument stands after the word for the command, as it is neither that nor an option before it.
  have outside : lifetimeArgument fine ∉ options := by
    intro member
    obtain ⟨opt, joined, option⟩ := directs.option _ member
    obtain ⟨reading, other, none⟩ := exists_classify_lifetimeArgument known fine
    cases option.symm.trans other
    exact none _ _ rfl
  have other : lifetimeArgument fine ≠ command.name :=
    Ne.symm (lifetimeArgument_ne (by cases command <;> dsimp only [Command.name] <;> decide))
  obtain ⟨between, rfl, rfl⟩ := exists_of_append_eq line outside other
  have early : "--" ∉ between := fun member => early (by simp [member])
  -- The program reads the line up to the command as before, and hands on the rest.
  refine ⟨between, read, early, directs.looked, reads, fun text => ?_⟩
  have separate (text : String) : lifetimeArgument text ≠ "--" := Ne.symm (lifetimeArgument_ne (by decide))
  obtain ⟨first, _, others, earlier, _, later, _⟩ :=
    (Grammar.classifyAll_eq_ok_iff early (separate fine)).mp classified
  obtain ⟨reading, alone, _⟩ := exists_classify_lifetimeArgument known text
  rw [List.append_assoc, List.cons_append]
  exact directs.decides _ _ ((Grammar.classifyAll_eq_ok_iff early (separate text)).mpr
    ⟨first, reading, others, earlier, alone, later, rfl⟩)

/-- The usage of the command line to extend divides evenly. -/
theorem dividesEvenly_extend : Usage.dividesEvenly (usageOf extendGrammar.options) = true := by
  decide +kernel

/-- What becomes of every text that is given for a lifetime to one of the commands that have it, where the
command line is understood with some other text in its place. -/
theorem lifetime_verdict {σ : Type} {registry : Registry (Provider σ)} {state : σ} {version : String}
    {known : Catalogue} (read : catalogue registry state version = .ok known)
    {before after : List String} {fine : String} {verbose : Bool} {command : Command}
    (early : "--" ∉ before)
    (accepted : parse known (before ++ ("--lifetime=" ++ fine) :: after) = .ok (verbose, command))
    (text : String) :
    (∀ arguments, command = .create arguments →
      (∀ flag ∈ known.flags, flag.option ≠ "--lifetime=" ++ fine ∧ flag.option ≠ "--lifetime=" ++ text) →
      Verdict (createGrammar known) after text
        (fun lifetime => (verbose, .create { arguments with lifetime := lifetime }))
        (parse known (before ++ ("--lifetime=" ++ text) :: after))) ∧
    ∀ names time, command = .extend names time →
      Verdict extendGrammar after text (fun lifetime => (verbose, .extend names lifetime))
        (parse known (before ++ ("--lifetime=" ++ text) :: after)) ∧
      parse known (before ++ ("--lifetime=" ++ text) :: after) ≠ .error (.fault (.problem .unevenUsage)) := by
  obtain ⟨between, reader, early, looked, reads, onward⟩ := exists_parse_lifetime early accepted
  -- The word for the command says which reader it is, and this one hands on what its grammar finds.
  constructor
  · rintro arguments rfl unspelled
    cases looked
    obtain ⟨⟨found, extras⟩, understood, same⟩ := exists_of_bind_ok reads
    cases same
    have distinct := (catalogue_eq_ok read).2
    have verdict := (keepsLifetime_createGrammar distinct).verdict early
      (find?_createGrammar fun flag member => (unspelled flag member).1)
      (find?_createGrammar fun flag member => (unspelled flag member).2) understood
    rw [← lifetimeArgument, onward text, bind_assoc]
    exact verdict.bind fun _ => rfl
  · -- To extend there are no flags, so nothing else can be spelled like that.
    rintro names time rfl
    cases looked
    obtain ⟨⟨⟨found, lifetime⟩, extras⟩, understood, same⟩ := exists_of_bind_ok reads
    cases same
    have verdict := keepsLifetime_extendGrammar.verdict early (find?_extendGrammar fine)
      (find?_extendGrammar text) understood
    have ends : Verdict extendGrammar after text (fun lifetime => (verbose, .extend names lifetime))
        (parse known (before ++ lifetimeArgument text :: after)) := by
      rw [onward text, bind_assoc]
      exact verdict.bind fun _ => rfl
    refine ⟨ends, fun untold => ?_⟩
    -- The usage to extend is the same for every registry, and it divides evenly.
    rw [lifetimeArgument, untold] at ends
    cases ends with
    | untold _ _ _ uneven =>
      rw [dividesEvenly_extend] at uneven
      cases uneven

/-- What a command line depends on where the machine at hand and a provider in memory are registered. -/
def labCatalogue : Catalogue :=
  ⟨["lab"], [Scripted.flag "lab"], "unknown"⟩

/-- That is what the registry of both makes of it. -/
theorem catalogue_hostAndLab :
    catalogue Command.hostAndLab Compute.quietSite "unknown" = .ok labCatalogue := by
  decide +kernel

/-- A day has no letter of its own, and to create with it as the lifetime is a misuse, which has the
status 2. -/
theorem lifetime_verdict_day :
    ∃ arguments, parse labCatalogue ["create", "web", "--lifetime=" ++ "1h"] = .ok (false, .create arguments) ∧
      Verdict (createGrammar labCatalogue) [] "1d"
        (fun lifetime => (false, .create { arguments with lifetime := lifetime }))
        (parse labCatalogue ["create", "web", "--lifetime=" ++ "1d"]) ∧
      ∃ halt, parse labCatalogue ["create", "web", "--lifetime=" ++ "1d"] = .error halt ∧
        halt = .misuse "vmfleet create" "argument --lifetime: invalid duration: '1d'" ∧
        (Startup.Ending.halted halt).status = some 2 := by
  have accepted : parse labCatalogue ["create", "web", "--lifetime=" ++ "1h"] = .ok (false, .create
      { createStart labCatalogue with
        names := ["web"], lifetime := some ⟨3600000000, by decide, by decide⟩ }) := by
    decide +kernel
  have unspelled : ∀ flag ∈ labCatalogue.flags,
      flag.option ≠ "--lifetime=" ++ "1h" ∧ flag.option ≠ "--lifetime=" ++ "1d" := by
    decide +kernel
  have early : "--" ∉ ["create", "web"] := by decide
  exact ⟨_, accepted, (lifetime_verdict catalogue_hostAndLab early accepted "1d").1 _ rfl unspelled, _,
    by decide +kernel, rfl, rfl⟩

/-- A length of time that is too long ends the program without any status, and a separator leaves a command
without a lifetime. -/
theorem lifetime_escapes :
    catalogue Command.hostAndLab Compute.quietSite "unknown" = .ok labCatalogue ∧
      parse labCatalogue ["extend", "web", "--lifetime=1h"] =
        .ok (false, .extend ["web"] (some ⟨3600000000, by decide, by decide⟩)) ∧
      (∃ halt, parse labCatalogue ["extend", "web", "--lifetime=24000000000h"] = .error halt ∧
        halt = .fault (.problem (.duration (.outOfRange 1000000000))) ∧
        (Startup.Ending.halted halt).status = none) ∧
      parse labCatalogue ["extend", "web", "--lifetime=--"] = .ok (false, .extend ["web"] none) :=
  ⟨by decide +kernel, by decide +kernel, ⟨_, by decide +kernel, rfl, rfl⟩, by decide +kernel⟩

end Fleet.CommandLine
