import Fleet.Proofs.CommandLine.Options

/-! How arguments are gone through: if none is left without a use, each is an option, is given to one or is
taken by the operand. -/

namespace Fleet.CommandLine

variable {ν : Type}

namespace Grammar

variable {grammar : Grammar ν}

/-- What is accepted was taken. -/
theorem accept_eq_ok {α : Type} {title : String} {taken : Except Refusal α} {value : α}
    (accepted : grammar.accept title taken = .ok value) : taken = .ok value := by
  unfold accept at accepted
  split at accepted
  · cases accepted
    rfl
  · exact absurd accepted misuse_ne_ok
  · cases accepted

/-- The first option is taken over before the others. -/
theorem exists_of_takeOptions {opt : Opt ν} {values : List String}
    {more : List (Opt ν × List String)} {progress after : Progress ν}
    (taken : grammar.takeOptions progress ((opt, values) :: more) = .ok after) :
    ∃ found, opt.take (values.erase "--") progress.found = .ok found ∧
      grammar.takeOptions { progress with found := found, given := opt.title :: progress.given } more =
        .ok after := by
  rw [takeOptions, List.foldlM_cons] at taken
  -- To take the options over one after the other is to take the first one over first.
  obtain ⟨middle, first, further⟩ := exists_of_bind_ok taken
  obtain ⟨found, accepted, same⟩ := exists_of_bind_ok first
  cases same
  exact ⟨found, accept_eq_ok accepted, further⟩

/-- What every option keeps true of what is found, options keep true together. They leave the operand and
the arguments without a use alone. -/
theorem takeOptions_holds {holds : ν → Prop} {options : List (Opt ν × List String)}
    (keeps : ∀ use ∈ options, ∀ values found next, use.1.take values found = .ok next →
      holds found → holds next)
    {progress after : Progress ν} (taken : grammar.takeOptions progress options = .ok after)
    (start : holds progress.found) :
    holds after.found ∧ after.operand = progress.operand ∧ after.extras = progress.extras := by
  -- Each option is taken over on what the ones before it left.
  induction options generalizing progress with
  | nil =>
    cases taken
    exact ⟨start, rfl, rfl⟩
  | cons use more ih =>
    obtain ⟨found, first, further⟩ := exists_of_takeOptions taken
    have kept := keeps use (List.mem_cons_self ..) _ _ _ first start
    obtain ⟨kept, operand, extras⟩ :=
      ih (fun other member => keeps other (List.mem_cons_of_mem _ member)) further kept
    exact ⟨kept, operand, extras⟩

/-- An argument that is an option is taken over with its values, which are used up with it. -/
theorem consume_option {argument : String} {opt : Opt ν} {joined : Option Joined}
    {rest : List (String × Reading ν)} {progress : Progress ν} :
    grammar.consume ((argument, .option opt joined) :: rest) progress = (do
      let (options, count) ← grammar.standsFor opt joined rest
      let progress ← grammar.takeOptions progress options
      grammar.consume (rest.drop count) progress) := by
  -- Either the option waits for words or it does not, and both ways come to the same.
  rw [consume, standsFor]
  cases grammar.unfold opt joined with
  | error halt => rfl
  | ok unfolded =>
    obtain ⟨complete, waiting⟩ := unfolded
    cases waiting with
    | none => rfl
    | some last =>
      dsimp only [Bind.bind, Except.bind]
      cases grammar.valuesFor last rest <;> rfl

/-- What it is to go through the arguments with a use for each: options are taken over where they
stand, and the operand takes its own where it comes first. -/
inductive Reads (grammar : Grammar ν) : List (String × Reading ν) → Progress ν → Progress ν → Prop where
  | done (progress : Progress ν) : Reads grammar [] progress progress
  | option {argument : String} {opt : Opt ν} {joined : Option Joined}
      {rest : List (String × Reading ν)} {options : List (Opt ν × List String)} {count : Nat}
      {progress middle after : Progress ν}
      (stands : grammar.standsFor opt joined rest = .ok (options, count))
      (takes : grammar.takeOptions progress options = .ok middle)
      (further : Reads grammar (rest.drop count) middle after) :
      Reads grammar ((argument, .option opt joined) :: rest) progress after
  | operand {argument : String} {reading : Reading ν} {rest : List (String × Reading ν)}
      {operand : Operand ν} {count : Nat} {progress middle after : Progress ν}
      (plain : reading.isOption = false) (waits : progress.operand = some operand)
      (reaches : extent operand.reach ((argument, reading) :: rest) = some count)
      (takes : grammar.takeOperand progress operand (((argument, reading) :: rest).take count) =
        .ok middle)
      (further : Reads grammar (rest.drop (count - 1)) middle after) :
      Reads grammar ((argument, reading) :: rest) progress after

/-- What an operand leaves: it has taken its arguments, and is not waited for any more. -/
theorem exists_of_takeOperand {operand : Operand ν} {tokens : List (String × Reading ν)}
    {progress after : Progress ν} (taken : grammar.takeOperand progress operand tokens = .ok after) :
    ∃ found, operand.take (match operand.reach with
        | .words => (tokens.map Prod.fst).erase "--"
        | .command => tokens.map Prod.fst) progress.found = .ok found ∧
      after = { progress with found := found, operand := none } := by
  obtain ⟨found, accepted, same⟩ := exists_of_bind_ok taken
  cases same
  exact ⟨found, accept_eq_ok accepted, rfl⟩

/-- An argument that is no option is the first of those that the operand takes, or has no use. -/
theorem consume_plain {argument : String} {reading : Reading ν} {rest : List (String × Reading ν)}
    {progress : Progress ν} (known : reading.isOption = false) :
    grammar.consume ((argument, reading) :: rest) progress =
      match progress.operand.bind fun operand =>
          (extent operand.reach ((argument, reading) :: rest)).map fun count => (operand, count) with
      | some (operand, count) => do
        let progress ← grammar.takeOperand progress operand (((argument, reading) :: rest).take count)
        grammar.consume (rest.drop (count - 1)) progress
      | none => grammar.consume rest { progress with extras := progress.extras ++ [argument] } := by
  -- Only a word or a separator is left.
  cases reading with
  | option opt joined => cases known
  | unknown => cases known
  | word => exact (consume.eq_def ..).trans rfl
  | separator => exact (consume.eq_def ..).trans rfl

/-- Arguments that have no use stay, and if there are none in the end every argument had its use. -/
theorem reads_of_consume {tokens : List (String × Reading ν)} {progress after : Progress ν}
    (consumed : grammar.consume tokens progress = .ok after) :
    progress.extras <+: after.extras ∧ (after.extras = [] → Reads grammar tokens progress after) := by
  -- The induction is on the number of arguments that are left.
  induction length : tokens.length using Nat.strongRecOn generalizing tokens progress with
  | ind _ ih =>
  have onward {left : List (String × Reading ν)} {middle : Progress ν}
      (consumed : grammar.consume left middle = .ok after) (shorter : left.length < tokens.length) :=
    ih left.length (length ▸ shorter) consumed rfl
  -- An argument without a use is there in the end, which leaves nothing to prove for it.
  have wasted {argument : String} {rest : List (String × Reading ν)} {others : Prop}
      (consumed : grammar.consume rest { progress with extras := progress.extras ++ [argument] } =
        .ok after) (shorter : rest.length < tokens.length) :
      progress.extras <+: after.extras ∧ (after.extras = [] → others) := by
    have stays := (onward consumed shorter).1
    refine ⟨(List.prefix_append _ _).trans stays, fun none => ?_⟩
    rw [none] at stays
    simp at stays
  match tokens with
  | [] =>
    -- Without arguments nothing is done, and nothing is left over.
    rw [consume] at consumed
    cases consumed
    exact ⟨List.prefix_rfl, fun _ => .done _⟩
  | (argument, .unknown) :: rest =>
    -- An argument that is taken for an unknown option has no use.
    rw [consume] at consumed
    exact wasted consumed (by simp)
  | (argument, .option opt joined) :: rest =>
    -- What stands for the option is taken over, and what is left is shorter.
    rw [consume_option] at consumed
    obtain ⟨⟨options, count⟩, stands, consumed⟩ := exists_of_bind_ok consumed
    obtain ⟨middle, takes, consumed⟩ := exists_of_bind_ok consumed
    obtain ⟨_, _, kept⟩ := takeOptions_holds (fun _ _ _ _ _ _ _ => trivial) takes trivial
    obtain ⟨stays, reads⟩ := onward consumed (by simp only [List.length_drop, List.length_cons]; omega)
    exact ⟨kept ▸ stays, fun none => .option stands takes (reads none)⟩
  | (argument, .word) :: rest | (argument, .separator) :: rest =>
    rw [consume_plain rfl] at consumed
    split at consumed
    · next operand count waits =>
      -- The operand takes this argument and some after it.
      obtain ⟨_, waiting, reaches⟩ := Option.bind_eq_some_iff.mp waits
      obtain ⟨_, reaches, same⟩ := Option.map_eq_some_iff.mp reaches
      cases same
      obtain ⟨middle, takes, consumed⟩ := exists_of_bind_ok consumed
      obtain ⟨found, _, rfl⟩ := exists_of_takeOperand takes
      obtain ⟨stays, reads⟩ := onward consumed (by simp only [List.length_drop, List.length_cons]; omega)
      exact ⟨stays, fun none => .operand rfl waiting reaches takes (reads none)⟩
    · exact wasted consumed (by simp)

/-- An operand that is waited for in the end was waited for all along. -/
theorem Reads.operand_eq_some {tokens : List (String × Reading ν)} {progress after : Progress ν}
    (reads : grammar.Reads tokens progress after) {operand : Operand ν}
    (waits : after.operand = some operand) : progress.operand = some operand := by
  induction reads with
  | done progress => exact waits
  | option stands takes further ih =>
    obtain ⟨_, same, _⟩ := takeOptions_holds (fun _ _ _ _ _ _ _ => trivial) takes trivial
    exact same ▸ ih waits
  | operand plain waiting reaches takes further ih =>
    -- What takes its arguments is not waited for any more.
    obtain ⟨found, _, rfl⟩ := exists_of_takeOperand takes
    cases ih waits

/-- A command line is understood when its arguments can be gone through and nothing that is required is
missing. -/
theorem parseKnown_eq_ok_iff {arguments extras : List String} {start found : ν} :
    grammar.parseKnown arguments start = .ok (found, extras) ↔
      ∃ tokens after, grammar.classifyAll arguments = .ok tokens ∧
        grammar.consume tokens ⟨start, grammar.operand, [], []⟩ = .ok after ∧
        grammar.missing after = [] ∧ after.found = found ∧ after.extras = extras := by
  constructor
  · intro parsed
    -- The steps of reading were all done, and at the end nothing was missing.
    obtain ⟨tokens, classified, parsed⟩ := exists_of_bind_ok parsed
    obtain ⟨after, consumed, parsed⟩ := exists_of_bind_ok parsed
    split at parsed
    · next complete =>
      cases parsed
      exact ⟨tokens, after, classified, consumed, complete, rfl, rfl⟩
    · exact absurd parsed misuse_ne_ok
  · rintro ⟨tokens, after, classified, consumed, complete, rfl, rfl⟩
    simp only [parseKnown, bind, Except.bind, classified, consumed, complete]
    rfl

/-- A command line that is understood is one that every argument has its use in. -/
theorem reads_of_parseKnown {arguments : List String} {start found : ν}
    (parsed : grammar.parseKnown arguments start = .ok (found, [])) :
    ∃ tokens after, grammar.classifyAll arguments = .ok tokens ∧
      grammar.Reads tokens ⟨start, grammar.operand, [], []⟩ after ∧
      after.operand = none ∧ after.found = found := by
  obtain ⟨tokens, after, classified, consumed, complete, same, unused⟩ := parseKnown_eq_ok_iff.mp parsed
  obtain ⟨operand, _⟩ := List.append_eq_nil_iff.mp complete
  exact ⟨tokens, after, classified, (reads_of_consume consumed).2 unused, by simpa using operand, same⟩

/-- What every option and the operand keep true of what is found stays true to the end. -/
theorem holds_of_reads (holds : ν → Prop)
    (options : ∀ opt ∈ grammar.options, ∀ values found next, opt.take values found = .ok next →
      holds found → holds next)
    {tokens : List (String × Reading ν)} {progress after : Progress ν}
    (reads : grammar.Reads tokens progress after) (fits : grammar.AllFit tokens)
    (operands : ∀ operand, progress.operand = some operand → ∀ values found next,
      operand.take values found = .ok next → holds found → holds next)
    (start : holds progress.found) : holds after.found := by
  -- The induction is on how the arguments are gone through; the operand is taken once at most.
  induction reads with
  | done progress => exact start
  | @option argument opt joined rest uses count progress middle after stands takes further ih =>
    -- Options that an argument stands for are options of the grammar.
    have known := (fits argument opt joined (List.mem_cons_self ..)).known
    obtain ⟨kept, operand, _⟩ := takeOptions_holds
      (fun use member => options use.1 ((mem_of_standsFor known stands).1 use member)) takes start
    exact ih (fits.of_cons.drop count) (fun other same => operands other (operand ▸ same)) kept
  | operand plain waits reaches takes further ih =>
    -- The operand is taken over once, and none is waited for later.
    obtain ⟨found, taken, rfl⟩ := exists_of_takeOperand takes
    exact ih (fits.of_cons.drop _) nofun (operands _ waits _ _ _ taken start)

/-- Where no option takes values, what an argument stands for does not depend on those after it. -/
theorem standsFor_of_plain (plain : ∀ opt ∈ grammar.options, opt.arity = .none) {opt : Opt ν}
    (known : opt ∈ grammar.options) {joined : Option Joined} (rest other : List (String × Reading ν)) :
    grammar.standsFor opt joined rest = grammar.standsFor opt joined other := by
  unfold standsFor
  -- What the argument stands for is settled before any word is looked at.
  cases unfolds : grammar.unfold opt joined with
  | error halt => rfl
  | ok unfolded =>
    have among := (knows_unfold known unfolds).waiting
    obtain ⟨complete, waiting⟩ := unfolded
    cases waiting with
    | none => rfl
    | some last => simp only [bind, Except.bind, valuesFor, plain last (among last rfl)]

/-- Options lead from one progress to another: whatever follows them is gone through from there. -/
structure Leads (grammar : Grammar ν) (options : List (String × Reading ν)) (progress middle : Progress ν) :
    Prop where
  option : ∀ token ∈ options, ∃ opt joined, token.2 = .option opt joined
  onward : ∀ later, grammar.consume (options ++ later) progress = grammar.consume later middle
  operand : middle.operand = progress.operand
  extras : middle.extras = progress.extras

/-- An operand that reaches to the end takes everything from a word on. -/
theorem consume_word {word : String} {rest : List (String × Reading ν)} {progress : Progress ν}
    {operand : Operand ν} (waits : progress.operand = some operand) (reach : operand.reach = .command) :
    grammar.consume ((word, .word) :: rest) progress =
      grammar.takeOperand progress operand ((word, .word) :: rest) := by
  -- It reaches over the word and everything behind it.
  have all : extent .command ((word, .word) :: rest) = some (rest.length + 1) := rfl
  rw [consume_plain rfl, waits, Option.bind_some, reach, all]
  simp only [Option.map_some, Nat.add_sub_cancel, List.take_succ_cons, List.take_length, List.drop_length]
  cases grammar.takeOperand progress operand ((word, .word) :: rest) <;> simp [bind, Except.bind, consume]

/-- Where no option takes values, a command line that is understood begins with options, and an operand that
reaches to the end takes everything from the first argument that is none. -/
theorem exists_leads_of_reads (holds : ν → Prop) (plain : ∀ opt ∈ grammar.options, opt.arity = .none)
    (keeps : ∀ opt ∈ grammar.options, ∀ values found next, opt.take values found = .ok next →
      holds found → holds next)
    {tokens : List (String × Reading ν)} {progress after : Progress ν}
    (reads : grammar.Reads tokens progress after) (fits : grammar.AllFit tokens)
    {operand : Operand ν} (waits : progress.operand = some operand) (reach : operand.reach = .command)
    (start : holds progress.found) (taken : after.operand = none) :
    ∃ options others middle, tokens = options ++ others ∧ grammar.Leads options progress middle ∧
      holds middle.found ∧ grammar.takeOperand middle operand others = .ok after := by
  -- The operand is still waited for, so the arguments before it are all options.
  induction reads with
  | done progress => cases waits.symm.trans taken
  | @option argument opt joined rest uses count progress middle after stands takes further ih =>
    -- An option stands for no other argument than its own.
    have own := fits argument opt joined (List.mem_cons_self ..)
    obtain ⟨members, alone⟩ := mem_of_standsFor own.known stands
    obtain rfl := alone plain
    obtain ⟨kept, operand, extras⟩ :=
      takeOptions_holds (fun use member => keeps use.1 (members use member)) takes start
    obtain ⟨options, others, last, rfl, leads, before, ends⟩ :=
      ih fits.of_cons (operand.trans waits) kept taken
    refine ⟨(argument, .option opt joined) :: options, others, last, rfl, ?_, before, ends⟩
    -- The first option is read in the same way whatever follows the options.
    refine ⟨List.forall_mem_cons.mpr ⟨⟨opt, joined, rfl⟩, leads.option⟩, fun later => ?_,
      leads.operand.trans operand, leads.extras.trans extras⟩
    rw [List.cons_append, consume_option, standsFor_of_plain plain own.known _ (options ++ others), stands]
    simp only [bind, Except.bind, takes]
    exact leads.onward later
  | @operand argument reading rest other count progress middle after _ waiting reaches takes further =>
    obtain rfl := Option.some.inj (waits.symm.trans waiting)
    -- It takes as many arguments as there are.
    have all : count = ((argument, reading) :: rest).length := by
      rw [reach] at reaches
      dsimp only [extent] at reaches
      split at reaches
      · split at reaches
        · cases reaches
          rfl
        · cases reaches
      · cases reaches
    subst all
    rw [List.take_length] at takes
    rw [List.length_cons, Nat.add_sub_cancel, List.drop_length] at further
    cases further
    exact ⟨[], _, progress, rfl, ⟨nofun, fun _ => rfl, rfl, rfl⟩, start, takes⟩

end Grammar

end Fleet.CommandLine
