import Fleet.Proofs.CommandLine.Reading

/-! How a command line that is understood divides: into options, each with what it is given, and the
other arguments, which the operand takes. -/

namespace Fleet.CommandLine

variable {ν β : Type}

/-- What the last use of the option with a spelling is given, if it is used at all. -/
def lastGiven (spelling : String) : List (String × Reading ν) → Option (List String)
  | [] => none
  | (_, .option opt joined) :: rest =>
    match lastGiven spelling rest with
    | some values => some values
    | none => if opt.spellings.contains spelling then some (given opt joined rest) else none
  | _ :: rest => lastGiven spelling rest

/-- What the last option with a spelling is given does not depend on what stands before it. -/
theorem lastGiven_append {spelling : String} {values : List String} (before : List (String × Reading ν))
    {after : List (String × Reading ν)} (last : lastGiven spelling after = some values) :
    lastGiven spelling (before ++ after) = some values := by
  -- The last one is in what comes after, so it is not looked for before.
  induction before with
  | nil => exact last
  | cons token before ih =>
    obtain ⟨argument, reading⟩ := token
    rw [List.cons_append]
    cases reading with
    | option opt joined => rw [lastGiven, ih]
    | unknown => exact ih
    | word => exact ih
    | separator => exact ih

/-- The number of arguments after an option that are among what it is given. -/
def width (opt : Opt ν) (joined : Option Joined) (rest : List (String × Reading ν)) : Nat :=
  if joined.isSome then 0 else (given opt joined rest).length

/-- The arguments that are no options and not given to one either. A number of the first of them is still
given to the option before. -/
def plainAfter : Nat → List (String × Reading ν) → List String
  | _, [] => []
  | _, (_, .option opt joined) :: rest => plainAfter (width opt joined rest) rest
  | 0, (argument, _) :: rest => argument :: plainAfter 0 rest
  | still + 1, _ :: rest => plainAfter still rest

/-- An argument that is no option is a word or the separator. -/
theorem Reading.word_or_separator {reading : Reading ν} (plain : reading.isOption = false) :
    reading = .word ∨ reading = .separator := by
  cases reading with
  | word => exact .inl rfl
  | separator => exact .inr rfl
  | _ => cases plain

namespace Grammar

variable {grammar : Grammar ν}

/-- No short option without values is taken over, so none is chained to others. -/
def Unchained (grammar : Grammar ν) : Prop :=
  ∀ opt ∈ grammar.options, opt.arity = .none →
    (∃ spelling ∈ opt.spellings, ['-', '-'].isPrefixOf spelling.toList = false) →
      ∀ values found, ∃ refusal, opt.take values found = .error refusal

/-- An argument that is taken over without a chain stands for its own option with what this is given. -/
theorem stands_alone (unchained : grammar.Unchained) {argument : String} {opt : Opt ν}
    {joined : Option Joined} (fits : grammar.Fits argument opt joined)
    {rest : List (String × Reading ν)} {options : List (Opt ν × List String)} {count : Nat}
    (stands : grammar.standsFor opt joined rest = .ok (options, count)) {progress after : Progress ν}
    (takes : grammar.takeOptions progress options = .ok after) :
    options = [(opt, given opt joined rest)] ∧ count = width opt joined rest := by
  -- The option is unfolded into what it stands for, and the last of that may wait for words.
  obtain ⟨unfolded, unfolds, ends⟩ := exists_of_standsFor stands
  cases joined with
  | none =>
    -- The option itself waits for what is given to it.
    cases unfolds
    obtain ⟨missing, _⟩ | ⟨last, same, rfl, rfl⟩ := ends
    · cases missing
    · cases same
      exact ⟨rfl, rfl⟩
  | some joined =>
    obtain ⟨short, text⟩ := joined
    -- Where what is joined is its value, nothing is left to wait for.
    have single (joins : unfolded = ⟨[(opt, [String.ofList text])], none⟩) :
        options = [(opt, given opt (some ⟨short, text⟩) rest)] ∧
          count = width opt (some ⟨short, text⟩) rest := by
      subst joins
      obtain ⟨_, rfl, rfl⟩ | ⟨last, same, _⟩ := ends
      · exact ⟨rfl, rfl⟩
      · cases same
    unfold unfold at unfolds
    dsimp only at unfolds
    split at unfolds
    · -- Only a short option without values is chained to another one, and it is not taken over.
      next chained =>
      obtain ⟨rfl, filled⟩ : short = true ∧ text.isEmpty = false := by simpa using chained
      unfold unfoldShort at unfolds
      split at unfolds
      · cases filled
      · split at unfolds
        · next next plain _ =>
          obtain ⟨later, _, same⟩ := exists_of_bind_ok unfolds
          cases same
          have first : ∃ more, options = (opt, []) :: more := by
            obtain ⟨_, rfl, _⟩ | ⟨last, _, rfl, _⟩ := ends <;> exact ⟨_, rfl⟩
          obtain ⟨more, rfl⟩ := first
          obtain ⟨found, taken, _⟩ := exists_of_takeOptions takes
          obtain ⟨refusal, refused⟩ := unchained opt fits.known plain (fits.short _ rfl) _ progress.found
          cases refused.symm.trans taken
        · exact single (joinValue_eq_ok unfolds).2
    · exact single (joinValue_eq_ok unfolds).2

/-- The first items of a list have what all up to there have. -/
theorem holds_of_mem_take {α : Type} {holds : α → Bool} {items : List α} {count : Nat}
    (few : count ≤ (items.takeWhile holds).length) {item : α} (member : item ∈ items.take count) :
    holds item = true := by
  -- The list is its first items that have it, and the rest.
  have parts := List.takeWhile_append_dropWhile (p := holds) (l := items)
  have among : item ∈ items.takeWhile holds := by
    generalize items.takeWhile holds = first at parts few ⊢
    rw [← parts, List.take_append_of_le_length few] at member
    exact List.mem_of_mem_take member
  exact List.all_eq_true.mp List.all_takeWhile item among

/-- The arguments after an option that are among what it is given are no options. -/
theorem plain_of_width {opt : Opt ν} {joined : Option Joined} {rest : List (String × Reading ν)} :
    ∀ token ∈ rest.take (width opt joined rest), token.2.isOption = false := by
  intro token member
  have few : width opt joined rest ≤ (rest.takeWhile fun token => token.2.isWord).length := by
    cases joined with
    | some joined => exact Nat.zero_le _
    | none =>
      change (given opt none rest).length ≤ _
      unfold given firstWords
      -- An option takes no more than the words there are.
      cases opt.arity with
      | none => exact Nat.zero_le _
      | one => simpa only [List.length_take, List.length_map] using Nat.min_le_right _ _
      | many => exact Nat.le_of_eq (List.length_map ..)
  have word : token.2.isWord = true := holds_of_mem_take few member
  cases read : token.2 <;> simp_all [Reading.isWord, Reading.isOption]

/-- The arguments that an operand of words takes are no options. -/
theorem plain_of_extent {tokens : List (String × Reading ν)} {count : Nat}
    (reaches : extent .words tokens = some count) :
    ∀ token ∈ tokens.take count, token.2.isOption = false := by
  -- The operand reaches to the next option.
  intro token member
  dsimp only [extent] at reaches
  split at reaches
  · cases reaches
    simpa using holds_of_mem_take (Nat.le_refl _) member
  · cases reaches

/-- Arguments that are no options can be passed over when looking for what an option is given last. -/
theorem lastGiven_drop (spelling : String) {tokens : List (String × Reading ν)} {count : Nat}
    (plain : ∀ token ∈ tokens.take count, token.2.isOption = false) :
    lastGiven spelling (tokens.drop count) = lastGiven spelling tokens := by
  -- The induction is on how many are passed over, each of which is a word or the separator.
  induction count generalizing tokens with
  | zero => rfl
  | succ count ih =>
    match tokens with
    | [] => rfl
    | (_, reading) :: rest =>
      obtain ⟨first, others⟩ := List.forall_mem_cons.mp plain
      rcases Reading.word_or_separator first with rfl | rfl <;> exact ih others

/-- As many arguments as are given to the option before are no operand's. -/
theorem plainAfter_drop {tokens : List (String × Reading ν)} {count : Nat}
    (plain : ∀ token ∈ tokens.take count, token.2.isOption = false) :
    plainAfter count tokens = plainAfter 0 (tokens.drop count) := by
  -- The induction is on how many are given to the option, which count down.
  induction count generalizing tokens with
  | zero => rfl
  | succ count ih =>
    match tokens with
    | [] => rfl
    | (_, reading) :: rest =>
      obtain ⟨first, others⟩ := List.forall_mem_cons.mp plain
      rcases Reading.word_or_separator first with rfl | rfl <;> exact ih others

/-- The first arguments belong to an operand as long as they are no options. -/
theorem plainAfter_eq_append {tokens : List (String × Reading ν)} {count : Nat}
    (plain : ∀ token ∈ tokens.take count, token.2.isOption = false) :
    plainAfter 0 tokens = (tokens.take count).map Prod.fst ++ plainAfter 0 (tokens.drop count) := by
  -- The induction is on how many arguments there are up to there.
  induction count generalizing tokens with
  | zero => rfl
  | succ count ih =>
    match tokens with
    | [] => rfl
    | (argument, reading) :: rest =>
      obtain ⟨first, others⟩ := List.forall_mem_cons.mp plain
      rcases Reading.word_or_separator first with rfl | rfl <;>
        exact congrArg (List.cons argument) (ih others)

/-- An operand of words takes its first argument and the ones after it. -/
theorem drop_of_extent {argument : String} {reading : Reading ν} {rest : List (String × Reading ν)}
    {count : Nat} (plain : reading.isOption = false)
    (reaches : extent .words ((argument, reading) :: rest) = some count) :
    rest.drop (count - 1) = ((argument, reading) :: rest).drop count := by
  -- The first argument is no option, so at least one is taken.
  have positive : count = count - 1 + 1 := by
    dsimp only [extent] at reaches
    split at reaches
    · cases reaches
      simp [plain]
    · cases reaches
  conv_rhs => rw [positive]
  rfl

/-- What the last use of an option is given is what it sets in the end, where nothing else sets it. -/
theorem lastGiven_of_reads (spelling : String) (field : ν → β) (stored : List String → β)
    (unchained : grammar.Unchained)
    (sets : ∀ opt ∈ grammar.options, ∀ values found next, opt.take values found = .ok next →
      field next = if opt.spellings.contains spelling then stored values else field found)
    {tokens : List (String × Reading ν)} {progress after : Progress ν}
    (reads : grammar.Reads tokens progress after) (fits : grammar.AllFit tokens)
    (keeps : ∀ operand, progress.operand = some operand → operand.reach = .words ∧
      ∀ values found next, operand.take values found = .ok next → field next = field found) :
    field after.found = ((lastGiven spelling tokens).map fun values =>
      stored (values.erase "--")).getD (field progress.found) := by
  -- What is used after an argument is known by induction, and this one counts if nothing later does.
  induction reads with
  | done progress => rfl
  | @option argument opt joined rest options count progress middle after stands takes further ih =>
    have own := fits argument opt joined (List.mem_cons_self ..)
    obtain ⟨rfl, rfl⟩ := stands_alone unchained own stands takes
    obtain ⟨found, taken, same⟩ := exists_of_takeOptions takes
    cases same
    have later := ih (fits.of_cons.drop _) keeps
    rw [later, lastGiven_drop spelling plain_of_width, sets opt own.known _ _ _ taken, lastGiven]
    -- A later use takes the place of this one, and this one of what was there.
    cases lastGiven spelling rest with
    | some values => rfl
    | none => split <;> rfl
  | @operand argument reading rest operand count progress middle after plain waits reaches takes further ih =>
    obtain ⟨reach, kept⟩ := keeps operand waits
    rw [reach] at reaches
    obtain ⟨found, taken, rfl⟩ := exists_of_takeOperand takes
    rw [drop_of_extent plain reaches] at further ih
    -- The words that the operand takes are no options, and set nothing here.
    have later := ih (fits.drop count) nofun
    rw [later, lastGiven_drop spelling (plain_of_extent reaches)]
    exact congrArg _ (kept _ _ _ taken)

/-- An operand of words takes all arguments that are no options and not given to one either, where no
option sets what it does. -/
theorem plainAfter_of_reads (field : ν → List String) (unchained : grammar.Unchained)
    (keeps : ∀ opt ∈ grammar.options, ∀ values found next, opt.take values found = .ok next →
      field next = field found)
    {tokens : List (String × Reading ν)} {progress after : Progress ν}
    (reads : grammar.Reads tokens progress after) (fits : grammar.AllFit tokens)
    (stores : ∀ operand, progress.operand = some operand → operand.reach = .words ∧
      ∀ values found next, operand.take values found = .ok next → field next = values)
    (taken : after.operand = none) :
    (progress.operand = none → plainAfter 0 tokens = [] ∧ field after.found = field progress.found) ∧
      (progress.operand.isSome → field after.found = (plainAfter 0 tokens).erase "--") := by
  -- Once the operand is taken nothing may be left for it, and before that all of it is still to come.
  induction reads with
  | done progress => exact ⟨fun _ => ⟨rfl, rfl⟩, fun some => by simp [taken] at some⟩
  -- The option takes its words away from those that an operand could take.
  | @option argument opt joined rest options count progress middle after stands takes further ih =>
    have own := fits argument opt joined (List.mem_cons_self ..)
    obtain ⟨rfl, rfl⟩ := stands_alone unchained own stands takes
    obtain ⟨found, accepted, same⟩ := exists_of_takeOptions takes
    cases same
    have later := ih (fits.of_cons.drop _) stores taken
    rw [plainAfter, plainAfter_drop plain_of_width]
    exact ⟨fun none => ⟨(later.1 none).1, (later.1 none).2.trans (keeps opt own.known _ _ _ accepted)⟩,
      later.2⟩
  -- The operand takes its words at once, and nothing that comes later adds to them.
  | @operand argument reading rest operand count progress middle after plain waits reaches takes further ih =>
    obtain ⟨reach, stored⟩ := stores operand waits
    rw [reach] at reaches
    obtain ⟨found, accepted, rfl⟩ := exists_of_takeOperand takes
    rw [drop_of_extent plain reaches] at further ih
    obtain ⟨nothing, same⟩ := (ih (fits.drop count) nofun taken).1 rfl
    refine ⟨fun none => by simp [waits] at none, fun _ => ?_⟩
    rw [same, stored _ _ _ accepted, reach, plainAfter_eq_append (plain_of_extent reaches), nothing,
      List.append_nil]

end Grammar

end Fleet.CommandLine
