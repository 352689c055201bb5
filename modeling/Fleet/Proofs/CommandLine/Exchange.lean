import Fleet.Proofs.CommandLine.Division

/-! Command lines that differ in one argument: what stands before an option is gone through without it, and
what stands after it is gone through alike where nothing looks at the difference. -/

namespace Fleet.CommandLine

variable {ν : Type}

namespace Grammar

variable {grammar : Grammar ν}

/-- What stands before any separator is read for itself, whatever follows. -/
theorem classifyAll_append {before after : List String} (early : "--" ∉ before) :
    grammar.classifyAll (before ++ after) = (do
      let first ← grammar.classifyAll before
      let others ← grammar.classifyAll after
      return first ++ others) := by
  -- The induction is on the arguments before it, none of which is the separator.
  induction before with
  | nil => rw [List.nil_append, classifyAll]; cases grammar.classifyAll after <;> rfl
  | cons argument rest ih =>
    obtain ⟨plain, later⟩ := List.ne_and_not_mem_of_not_mem_cons early
    have other : ¬ (argument == "--") = true := by simpa using Ne.symm plain
    rw [List.cons_append, classifyAll, if_neg other, ih later, classifyAll, if_neg other]
    simp only [bind_assoc, pure_bind, List.cons_append]

/-- An argument before any separator, and what stands around it, are read for themselves. -/
theorem classifyAll_eq_ok_iff {before after : List String} (early : "--" ∉ before) {argument : String}
    (other : argument ≠ "--") {tokens : List (String × Reading ν)} :
    grammar.classifyAll (before ++ argument :: after) = .ok tokens ↔
      ∃ first reading others, grammar.classifyAll before = .ok first ∧
        grammar.classify argument = .ok reading ∧ grammar.classifyAll after = .ok others ∧
        tokens = first ++ (argument, reading) :: others := by
  rw [classifyAll_append early, classifyAll, if_neg (by simpa using other)]
  -- Reading goes on only where the part before it could be read, so each part can.
  constructor
  · intro read
    obtain ⟨first, earlier, read⟩ := exists_of_bind_ok read
    obtain ⟨_, read, same⟩ := exists_of_bind_ok read
    obtain ⟨reading, alone, read⟩ := exists_of_bind_ok read
    obtain ⟨others, later, joined⟩ := exists_of_bind_ok read
    cases joined
    cases same
    exact ⟨first, reading, others, earlier, alone, later, rfl⟩
  · rintro ⟨first, reading, others, earlier, alone, later, rfl⟩
    rw [earlier, alone, later]
    rfl

/-- What an argument before any separator is taken for is among what all are taken for. -/
theorem exists_classify_of_mem {arguments : List String} (early : "--" ∉ arguments)
    {tokens : List (String × Reading ν)} (read : grammar.classifyAll arguments = .ok tokens)
    {argument : String} (member : argument ∈ arguments) :
    ∃ reading, grammar.classify argument = .ok reading ∧ (argument, reading) ∈ tokens := by
  -- The induction is on the arguments, none of which is the separator.
  induction arguments generalizing tokens with
  | nil => cases member
  | cons first rest ih =>
    obtain ⟨plain, later⟩ := List.ne_and_not_mem_of_not_mem_cons early
    rw [classifyAll, if_neg (by simpa using Ne.symm plain)] at read
    obtain ⟨reading, alone, read⟩ := exists_of_bind_ok read
    obtain ⟨readings, others, same⟩ := exists_of_bind_ok read
    cases same
    rcases List.mem_cons.mp member with rfl | further
    · -- It is the first argument, and the first that it was taken for.
      exact ⟨reading, alone, List.mem_cons_self ..⟩
    · obtain ⟨other, known, among⟩ := ih later others further
      exact ⟨other, known, List.mem_cons_of_mem _ among⟩

/-- Options that come first are read for themselves, and so is what follows them. -/
theorem exists_of_classifyAll_append {arguments : List String} {first others : List (String × Reading ν)}
    (read : grammar.classifyAll arguments = .ok (first ++ others))
    (options : ∀ token ∈ first, ∃ opt joined, token.2 = .option opt joined) :
    ∃ before after, arguments = before ++ after ∧ "--" ∉ before ∧
      grammar.classifyAll before = .ok first ∧ grammar.classifyAll after = .ok others := by
  -- The separator is no option.
  induction first generalizing arguments with
  | nil => exact ⟨[], arguments, rfl, nofun, rfl, read⟩
  | cons token first ih =>
    obtain ⟨⟨opt, joined, option⟩, further⟩ := List.forall_mem_cons.mp options
    match arguments with
    | [] => cases read
    | argument :: rest =>
      rw [classifyAll] at read
      split at read
      · -- The separator comes first, and is taken for no option.
        obtain ⟨rfl, _⟩ := List.cons.inj (Except.ok.inj read)
        cases option
      · next plain =>
        obtain ⟨reading, alone, read⟩ := exists_of_bind_ok read
        obtain ⟨readings, later, same⟩ := exists_of_bind_ok read
        cases same
        obtain ⟨before, after, rfl, early, earlier, onward⟩ := ih later further
        have other : argument ≠ "--" := by simpa using plain
        refine ⟨argument :: before, after, rfl, by simp [Ne.symm other, early], ?_, onward⟩
        rw [classifyAll, if_neg plain, alone, earlier]
        rfl

/-- The first items up to one that does not have what they have are the same without it. -/
theorem takeWhile_append_cons {α : Type} {holds : α → Bool} {items later : List α} {item : α}
    (stops : holds item = false) :
    (items ++ item :: later).takeWhile holds = items.takeWhile holds := by
  induction items with
  | nil => rw [List.nil_append, List.takeWhile_cons_of_neg (by simp [stops]), List.takeWhile_nil]
  | cons first rest ih => rw [List.cons_append, List.takeWhile_cons, List.takeWhile_cons, ih]

section Append

variable {before after : List (String × Reading ν)} {argument : String} {opt : Opt ν}
  {joined : Option Joined}

/-- No option before another one is given what stands after that. -/
theorem standsFor_append {other : Opt ν} {value : Option Joined} :
    grammar.standsFor other value (before ++ (argument, .option opt joined) :: after) =
      grammar.standsFor other value before := by
  have words : (before ++ (argument, .option opt joined) :: after).takeWhile (fun token => token.2.isWord) =
      before.takeWhile fun token => token.2.isWord := takeWhile_append_cons rfl
  simp only [standsFor, valuesFor, words]

/-- What stands for an option and its values are some of the arguments there are. -/
theorem le_length_of_standsFor {other : Opt ν} {value : Option Joined}
    {options : List (Opt ν × List String)} {count : Nat}
    (stands : grammar.standsFor other value before = .ok (options, count)) : count ≤ before.length := by
  -- What is joined to an option counts for nothing, and what waits takes the words that follow.
  obtain ⟨_, _, ⟨_, _, rfl⟩ | ⟨last, _, _, rfl⟩⟩ := exists_of_standsFor stands
  · exact Nat.zero_le _
  · have few : (firstWords before).length ≤ before.length := by
      rw [firstWords, List.length_map]
      exact (List.takeWhile_sublist _).length_le
    -- An option takes no more than the words there are.
    unfold given
    cases last.arity with
    | none => exact Nat.zero_le _
    | one => exact Nat.le_trans (List.length_take_le' ..) few
    | many => exact few

/-- An operand of words does not reach over an option. -/
theorem extent_append :
    extent .words (before ++ (argument, .option opt joined) :: after) = extent .words before := by
  have plain : (before ++ (argument, .option opt joined) :: after).takeWhile
      (fun token => !token.2.isOption) = before.takeWhile fun token => !token.2.isOption :=
    takeWhile_append_cons rfl
  simp only [extent, plain]

/-- An operand of words takes some of the arguments there are. -/
theorem le_length_of_extent {count : Nat} (reaches : extent .words before = some count) :
    count ≤ before.length := by
  -- The operand reaches to the next option, if it reaches anything.
  dsimp only [extent] at reaches
  split at reaches
  · cases reaches
    exact (List.takeWhile_sublist _).length_le
  · cases reaches

/-- What stands before an option is gone through without it, where the operand takes words. -/
theorem consume_append {progress : Progress ν}
    (words : ∀ operand, progress.operand = some operand → operand.reach = .words) :
    grammar.consume (before ++ (argument, .option opt joined) :: after) progress = (do
      let progress ← grammar.consume before progress
      grammar.consume ((argument, .option opt joined) :: after) progress) := by
  -- The induction is on the number of arguments before it.
  induction length : before.length using Nat.strongRecOn generalizing before progress with
  | ind _ ih =>
  match before with
  | [] => simp only [List.nil_append, consume.eq_1, bind, Except.bind]
  | (first, .unknown) :: rest =>
    rw [List.cons_append, consume, consume]
    exact ih rest.length (by simp [← length]) words rfl
  | (first, .option other value) :: rest =>
    -- Whatever this option is given stands before the later one.
    rw [List.cons_append, consume_option, consume_option, standsFor_append]
    cases stands : grammar.standsFor other value rest with
    | error halt => rfl
    | ok uses =>
      obtain ⟨options, count⟩ := uses
      change (do
        let progress ← grammar.takeOptions progress options
        grammar.consume ((rest ++ _).drop count) progress) = (do
          let progress ← (do
            let progress ← grammar.takeOptions progress options
            grammar.consume (rest.drop count) progress)
          _)
      cases takes : grammar.takeOptions progress options with
      | error halt => rfl
      | ok middle =>
        obtain ⟨_, same, _⟩ := takeOptions_holds (fun _ _ _ _ _ _ _ => trivial) takes trivial
        rw [List.drop_append_of_le_length (le_length_of_standsFor stands)]
        exact ih (rest.drop count).length (by rw [← length, List.length_drop, List.length_cons]; omega)
          (fun operand waits => words operand (same ▸ waits)) rfl
  | (first, .word) :: rest | (first, .separator) :: rest =>
    -- So does all that the operand takes, if it takes any.
    rw [List.cons_append, consume_plain rfl, consume_plain rfl]
    cases waits : progress.operand with
    | none =>
      simp only [Option.bind_none]
      exact ih rest.length (by simp [← length]) (fun _ same => by cases same) rfl
    | some operand =>
      simp only [Option.bind_some, words operand waits]
      rw [← List.cons_append, extent_append]
      cases reaches : extent .words ((first, _) :: rest) with
      | none =>
        simp only [Option.map_none]
        exact ih rest.length (by simp [← length]) (fun _ same => words _ (waits.trans same)) rfl
      | some count =>
        have few := le_length_of_extent reaches
        simp only [Option.map_some]
        rw [List.take_append_of_le_length few]
        cases takes : grammar.takeOperand progress operand (((first, _) :: rest).take count) with
        | error halt => rfl
        | ok middle =>
          obtain ⟨found, _, rfl⟩ := exists_of_takeOperand takes
          rw [List.length_cons] at few
          rw [List.drop_append_of_le_length (by omega)]
          exact ih (rest.drop (count - 1)).length
            (by rw [← length, List.length_drop, List.length_cons]; omega) (fun _ same => by cases same) rfl

end Append

/-- An operand that takes its arguments is not waited for any more. -/
theorem takeOperand_of_take {operand : Operand ν} {tokens : List (String × Reading ν)}
    {progress : Progress ν} {found : ν}
    (taken : operand.take (match operand.reach with
        | .words => (tokens.map Prod.fst).erase "--"
        | .command => tokens.map Prod.fst) progress.found = .ok found) :
    grammar.takeOperand progress operand tokens =
      .ok { progress with found := found, operand := none } := by
  rw [takeOperand]
  exact congrArg (fun taken => (grammar.accept operand.title taken).bind fun found =>
    .ok { progress with found := found, operand := none }) taken

/-- After an option that is taken over come the others. -/
theorem takeOptions_of_take {opt : Opt ν} {values : List String} {more : List (Opt ν × List String)}
    {progress : Progress ν} {found : ν}
    (taken : opt.take (values.erase "--") progress.found = .ok found) :
    grammar.takeOptions progress ((opt, values) :: more) =
      grammar.takeOptions { progress with found := found, given := opt.title :: progress.given } more := by
  simp only [takeOptions, List.foldlM_cons, taken, accept, bind, Except.bind, pure, Except.pure]

/-- What every argument has its use in is gone through to the end. -/
theorem consume_of_reads {tokens : List (String × Reading ν)} {progress after : Progress ν}
    (reads : grammar.Reads tokens progress after) : grammar.consume tokens progress = .ok after := by
  -- The induction is on the uses of the arguments, which are gone through in the same order.
  induction reads with
  | done progress => rw [consume]
  | option stands takes further ih =>
    rw [consume_option, stands]
    simp only [bind, Except.bind, takes]
    exact ih
  | operand plain waits reaches takes further ih =>
    rw [consume_plain plain, waits, Option.bind_some, reaches]
    simp only [Option.map_some, bind, Except.bind, takes]
    exact ih

/-- What is taken over from alike beginnings is alike. -/
def Respects (alike : ν → ν → Prop) (take : List String → ν → Except Refusal ν) : Prop :=
  ∀ values found next other, take values found = .ok next → alike found other →
    ∃ last, take values other = .ok last ∧ alike next last

variable {alike : ν → ν → Prop} {progress after : Progress ν} {other : ν}

/-- Options that are taken over from alike beginnings leave what is alike. -/
theorem exists_takeOptions_of_alike {options : List (Opt ν × List String)}
    (respects : ∀ use ∈ options, Respects alike use.1.take)
    (taken : grammar.takeOptions progress options = .ok after) (start : alike progress.found other) :
    ∃ last, grammar.takeOptions { progress with found := other } options =
      .ok { after with found := last } ∧ alike after.found last := by
  induction options generalizing progress other with
  | nil =>
    -- Without options the two beginnings are the ends.
    cases taken
    exact ⟨other, rfl, start⟩
  | cons use more ih =>
    obtain ⟨found, first, further⟩ := exists_of_takeOptions taken
    -- The first option leaves what is alike, and the others go on from there.
    obtain ⟨next, taken, still⟩ := respects use (List.mem_cons_self ..) _ _ _ _ first start
    obtain ⟨last, onward, ends⟩ :=
      ih (fun use member => respects use (List.mem_cons_of_mem _ member)) further still
    exact ⟨last, (takeOptions_of_take taken).trans onward, ends⟩

/-- Arguments that have their use are gone through from alike beginnings to alike ends. -/
theorem exists_reads_of_alike (options : ∀ opt ∈ grammar.options, Respects alike opt.take)
    {tokens : List (String × Reading ν)} (reads : grammar.Reads tokens progress after)
    (fits : grammar.AllFit tokens)
    (operands : ∀ operand, progress.operand = some operand → Respects alike operand.take)
    (start : alike progress.found other) :
    ∃ last, grammar.Reads tokens { progress with found := other } { after with found := last } ∧
      alike after.found last := by
  -- What each argument stands for and how far the operand reaches does not depend on what is found.
  induction reads generalizing other with
  | done progress => exact ⟨other, .done _, start⟩
  | @option argument opt joined rest uses count progress middle after stands takes further ih =>
    -- An option stands for options of the grammar, all of which respect what is alike.
    have known := (fits argument opt joined (List.mem_cons_self ..)).known
    have among := (mem_of_standsFor known stands).1
    obtain ⟨_, same, _⟩ := takeOptions_holds (fun _ _ _ _ _ _ _ => trivial) takes trivial
    obtain ⟨next, onward, still⟩ :=
      exists_takeOptions_of_alike (fun use member => options use.1 (among use member)) takes start
    obtain ⟨last, reads, ends⟩ :=
      ih (fits.of_cons.drop count) (fun operand waits => operands operand (same ▸ waits)) still
    exact ⟨last, .option stands onward reads, ends⟩
  | @operand argument reading rest operand count progress middle after plain waits reaches takes further ih =>
    -- The operand is taken once, and respects it too.
    obtain ⟨found, taken, rfl⟩ := exists_of_takeOperand takes
    obtain ⟨next, taken, still⟩ := operands operand waits _ _ _ _ taken start
    obtain ⟨last, reads, ends⟩ := ih (fits.of_cons.drop _) nofun still
    exact ⟨last, .operand plain waits reaches (takeOperand_of_take taken) reads, ends⟩

/-- An option that a value is joined to stands between what is gone through before it and after it. -/
theorem consume_append_joined {before later : List (String × Reading ν)} {argument : String} {opt : Opt ν}
    (takes : opt.arity ≠ .none) {value : List Char}
    (words : ∀ operand, progress.operand = some operand → operand.reach = .words) :
    grammar.consume (before ++ (argument, .option opt (some ⟨false, value⟩)) :: later) progress = (do
      let middle ← grammar.consume before progress
      let found ← grammar.accept opt.title (opt.take ([String.ofList value].erase "--") middle.found)
      grammar.consume later { middle with found := found, given := opt.title :: middle.given }) := by
  -- As the value is joined to it, the option waits for no word.
  have alone : grammar.standsFor opt (some ⟨false, value⟩) later = .ok ([(opt, [String.ofList value])], 0) := by
    cases arity : opt.arity with
    | none => exact absurd arity takes
    | one => simp [standsFor, unfold, joinValue, arity, bind, Except.bind]
    | many => simp [standsFor, unfold, joinValue, arity, bind, Except.bind]
  rw [consume_append words]
  congr 1
  funext middle
  rw [consume_option, alone]
  cases accepted : grammar.accept opt.title (opt.take ([String.ofList value].erase "--") middle.found) <;>
    simp only [bind, Except.bind, takeOptions, List.foldlM_cons, List.foldlM_nil, accepted, pure,
      Except.pure, List.drop_zero]

/-- A refusal ends the reading, and how it does so does not depend on what was to be taken over. -/
theorem exists_accept_error (grammar : Grammar ν) (title : String) (refusal : Refusal) :
    ∃ halt, ∀ α : Type, (grammar.accept title (.error refusal) : Except Halt α) = .error halt := by
  cases refusal with
  | wrong message => exact ⟨_, fun _ => rfl⟩
  | halt halt => exact ⟨halt, fun _ => rfl⟩

/-- The argument is this option with the value joined to it. -/
structure Joins (grammar : Grammar ν) (opt : Opt ν) (argument value : String) : Prop where
  other : argument ≠ "--"
  read : grammar.classify argument = .ok (.option opt (some ⟨false, value.toList⟩))

/-- Another value for an option on a command line that is understood is refused by the option, or leads to
what is alike. -/
theorem exists_exchange (options : ∀ opt ∈ grammar.options, Respects alike opt.take)
    (operands : ∀ operand, grammar.operand = some operand →
      operand.reach = .words ∧ Respects alike operand.take)
    {opt : Opt ν} (takes : opt.arity ≠ .none) {before later : List String} (early : "--" ∉ before)
    {argument value : String} (joins : grammar.Joins opt argument value) {start found : ν}
    (parsed : grammar.parseKnown (before ++ argument :: later) start = .ok (found, [])) :
    ∃ middle next, opt.take ([value].erase "--") middle = .ok next ∧
      ∀ argument value, grammar.Joins opt argument value →
        (∀ refusal, opt.take ([value].erase "--") middle = .error refusal →
          grammar.parseKnown (before ++ argument :: later) start =
            grammar.accept opt.title (.error refusal)) ∧
        ∀ other, opt.take ([value].erase "--") middle = .ok other → alike next other →
          ∃ last, grammar.parseKnown (before ++ argument :: later) start = .ok (last, []) ∧
            alike found last := by
  have words (operand : Operand ν) (waits : grammar.operand = some operand) : operand.reach = .words :=
    (operands operand waits).1
  -- The line was understood, so each of its parts was.
  obtain ⟨tokens, after, classified, consumed, complete, rfl, unused⟩ := parseKnown_eq_ok_iff.mp parsed
  obtain ⟨first, _, others, earlier, read, rest, rfl⟩ :=
    (classifyAll_eq_ok_iff early joins.other).mp classified
  cases joins.read.symm.trans read
  rw [consume_append_joined takes words] at consumed
  obtain ⟨middle, led, consumed⟩ := exists_of_bind_ok consumed
  obtain ⟨next, accepted, consumed⟩ := exists_of_bind_ok consumed
  rw [String.ofList_toList] at accepted
  refine ⟨middle.found, next, accept_eq_ok accepted, fun argument value joins => ?_⟩
  -- The arguments are the same but for this one, which is gone through from the same middle.
  have classified := (classifyAll_eq_ok_iff early joins.other).mpr
    ⟨first, _, others, earlier, joins.read, rest, rfl⟩
  have consuming : grammar.consume (first ++ (argument, .option opt (some ⟨false, value.toList⟩)) :: others)
      ⟨start, grammar.operand, [], []⟩ = _ := consume_append_joined takes words
  rw [led, String.ofList_toList] at consuming
  refine ⟨fun refusal refused => ?_, fun other taken alike => ?_⟩
  · -- What was refused ends the line in the words for this option.
    obtain ⟨halt, ends⟩ := grammar.exists_accept_error opt.title refusal
    simp only [parseKnown, bind, Except.bind, classified, consuming, refused, ends]
  · -- All that follows has its use, and what went before too, or else it would be left over now.
    obtain ⟨stays, reads⟩ := reads_of_consume consumed
    have before := (reads_of_consume led).2 (List.prefix_nil.mp (unused ▸ stays))
    obtain ⟨last, reads, ends⟩ :=
      exists_reads_of_alike options (reads unused) (fits_of_classifyAll rest).2
        (fun operand waits => (operands operand (before.operand_eq_some waits)).2) alike
    refine ⟨last, parseKnown_eq_ok_iff.mpr
      ⟨_, { after with found := last }, classified, ?_, complete, rfl, unused⟩, ends⟩
    rw [consuming]
    simp only [bind, Except.bind, taken, accept]
    exact consume_of_reads reads

end Grammar

end Fleet.CommandLine
