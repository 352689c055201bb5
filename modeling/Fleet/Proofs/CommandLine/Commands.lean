import Fleet.CommandLine.Commands
import Fleet.Proofs.CommandLine.Exchange

/-! Command lines of the program: options of its own, the word for a command, and the arguments of this
command, which alone decide from there on. -/

namespace Fleet.CommandLine

variable {known : Catalogue}

/-- No option of the program takes values, and none is a command. -/
theorem mem_programGrammar {opt : Opt Invocation} (member : opt ∈ (programGrammar known).options) :
    opt.arity = .none ∧ ∀ values found next, opt.take values found = .ok next →
      found.command = none → next.command = none := by
  simp only [programGrammar, List.mem_cons, List.not_mem_nil, or_false] at member
  -- They are the ones for help, for the version and for telling more.
  rcases member with rfl | rfl | rfl
  · exact ⟨rfl, fun _ _ _ taken => by cases taken⟩
  · exact ⟨rfl, fun _ _ _ taken => by cases taken⟩
  · exact ⟨rfl, fun _ _ _ taken fresh => by cases taken; exact fresh⟩

/-- What is looked up by its word is one of the commands. -/
theorem mem_commands_of_lookup {word : String} {read : List String → Except Halt (Command × List String)}
    (looked : (commands known).lookup word = some read) : (word, read) ∈ commands known := by
  obtain ⟨before, later, same, _⟩ := List.lookup_eq_some_iff.mp looked
  rw [same]
  exact List.mem_append_right _ (List.mem_cons_self ..)

/-- Only the reader of a command's own word reads it. -/
theorem name_of_lookup {word : String} {read : List String → Except Halt (Command × List String)}
    (looked : (commands known).lookup word = some read) {own extras : List String} {command : Command}
    (reads : read own = .ok (command, extras)) : word = command.name := by
  have member := mem_commands_of_lookup looked
  simp only [commands, List.mem_cons, Prod.mk.injEq, List.not_mem_nil, or_false] at member
  -- Each of them wraps what it reads in a command of its own.
  rcases member with ⟨rfl, rfl⟩ | ⟨rfl, rfl⟩ | ⟨rfl, rfl⟩ | ⟨rfl, rfl⟩ | ⟨rfl, rfl⟩ | ⟨rfl, rfl⟩
  all_goals
    obtain ⟨_, _, same⟩ := exists_of_bind_ok reads
    cases same
    rfl

/-- The word for a command is taken for a word by the program, and is no separator. -/
theorem classify_of_lookup {word : String} {read : List String → Except Halt (Command × List String)}
    (looked : (commands known).lookup word = some read) :
    (programGrammar known).classify word = .ok .word ∧ word ≠ "--" := by
  have member := mem_commands_of_lookup looked
  -- There are six words for commands, none of which begins with a hyphen.
  simp only [commands, List.mem_cons, Prod.mk.injEq, List.not_mem_nil, or_false] at member
  rcases member with ⟨rfl, _⟩ | ⟨rfl, _⟩ | ⟨rfl, _⟩ | ⟨rfl, _⟩ | ⟨rfl, _⟩ | ⟨rfl, _⟩ <;>
    exact ⟨rfl, by decide⟩

/-- With the word for a command, what this reads decides. -/
theorem takeCommand_of_lookup {word : String} {read : List String → Except Halt (Command × List String)}
    (looked : (commands known).lookup word = some read) (own : List String) (found : Invocation) :
    takeCommand known (word :: own) found = match read own with
      | .ok (command, extras) => .ok { found with command := some command, extras := extras }
      | .error halt => .error (.halt halt) := by
  simp only [takeCommand, List.headD_cons, List.tail_cons, looked]
  rfl

/-- What is taken over as a command was read by the one of that word. -/
theorem exists_lookup_of_takeCommand {values : List String} {found next : Invocation} {command : Command}
    (fresh : found.command = none) (taken : takeCommand known values found = .ok next)
    (asked : next.command = some command) :
    ∃ word own read, values = word :: own ∧ (commands known).lookup word = some read ∧
      read own = .ok (command, next.extras) ∧ next.verbose = found.verbose := by
  dsimp only [takeCommand] at taken
  split at taken
  · next read looked =>
    split at taken
    · next other extras reads =>
      cases taken
      cases asked
      cases values with
      | nil => cases looked
      -- It is the first value that is looked up, and the command reads those after it.
      | cons word own => exact ⟨word, own, read, rfl, looked, reads, rfl⟩
    · cases taken
  · -- Without a word for it there is no command.
    obtain ⟨_, _, same⟩ := exists_of_bind_ok taken
    cases same
    rw [fresh] at asked
    cases asked

/-- Options of the program and the word after them direct to a command: what this reads decides, whatever its
own arguments are. -/
structure Directs (known : Catalogue) (verbose : Bool) (options : List String) (word : String)
    (read : List String → Except Halt (Command × List String)) : Prop where
  option : ∀ argument ∈ options, ∃ opt joined,
    (programGrammar known).classify argument = .ok (.option opt joined)
  looked : (commands known).lookup word = some read
  decides : ∀ own tokens, (programGrammar known).classifyAll own = .ok tokens →
    parse known (options ++ word :: own) = (do
      let (command, extras) ← read own
      (programGrammar known).refuseExtras (verbose, command) extras)

/-- Options of the program that lead somewhere lead to the command of the word after them. -/
theorem directs_of_leads {options : List String} {first : List (String × Reading Invocation)}
    {middle : Progress Invocation} (early : "--" ∉ options)
    (classified : (programGrammar known).classifyAll options = .ok first)
    (leads : (programGrammar known).Leads first ⟨{}, (programGrammar known).operand, [], []⟩ middle)
    {word : String} {readOwn : List String → Except Halt (Command × List String)}
    (looked : (commands known).lookup word = some readOwn) :
    Directs known middle.found.verbose options word readOwn where
  option argument member := by
    -- Arguments before any separator are read for themselves.
    obtain ⟨reading, alone, among⟩ := Grammar.exists_classify_of_mem early classified member
    obtain ⟨opt, joined, same⟩ := leads.option _ among
    exact ⟨opt, joined, alone.trans (congrArg _ same)⟩
  looked := looked
  decides own tokens read := by
    obtain ⟨alone, plain⟩ := classify_of_lookup looked
    have whole := (Grammar.classifyAll_eq_ok_iff early plain).mpr
      ⟨first, .word, tokens, classified, alone, read, rfl⟩
    have names : tokens.map Prod.fst = own := (Grammar.fits_of_classifyAll read).1
    -- The operand takes the word and all that follows, and then nothing is missing.
    have consumed := (leads.onward ((word, .word) :: tokens)).trans (Grammar.consume_word leads.operand rfl)
    have taken : (programGrammar known).takeOperand middle ⟨"command", .command, takeCommand known⟩
        ((word, .word) :: tokens) = match readOwn own with
          | .ok (command, extras) => .ok { middle with
              found := { middle.found with command := some command, extras := extras }, operand := none }
          | .error halt => .error halt := by
      unfold Grammar.takeOperand
      simp only [List.map_cons, names, takeCommand_of_lookup looked]
      cases readOwn own <;> rfl
    unfold parse Grammar.parseKnown
    simp only [whole, bind, Except.bind, consumed, taken]
    -- Either the command refuses its arguments, or what it leaves over decides.
    cases readOwn own with
    | error halt => rfl
    | ok answer =>
      obtain ⟨command, extras⟩ := answer
      have unused : middle.extras = [] := leads.extras
      simp only [unused]
      cases extras <;> rfl

/-- A command line that is understood is directed to its command, which has a use for all of its own
arguments. -/
theorem exists_directs_of_parse {line : List String} {verbose : Bool} {command : Command}
    (parsed : parse known line = .ok (verbose, command)) :
    ∃ options own read tokens, line = options ++ command.name :: own ∧
      Directs known verbose options command.name read ∧
      (programGrammar known).classifyAll own = .ok tokens ∧ read own = .ok (command, []) := by
  obtain ⟨⟨found, extras⟩, read, refused⟩ := exists_of_bind_ok parsed
  obtain ⟨same, used, named⟩ := exists_of_bind_ok refused
  -- No argument is left without a use, neither by the program nor by the command.
  obtain ⟨rfl, rfl, unused⟩ : found = same ∧ extras = [] ∧ found.extras = [] := by
    dsimp only [Grammar.refuseExtras] at used
    split at used
    · next none =>
      cases used
      simpa using none
    · exact absurd used Grammar.misuse_ne_ok
  -- The line named a command, as it would have been refused without one.
  obtain ⟨asked, rfl⟩ : found.command = some command ∧ found.verbose = verbose := by
    split at named
    · next command asked =>
      cases named
      exact ⟨asked, rfl⟩
    · exact absurd named Grammar.misuse_ne_ok
  obtain ⟨tokens, after, classified, reads, taken, rfl⟩ := Grammar.reads_of_parseKnown read
  obtain ⟨first, others, middle, rfl, leads, fresh, last⟩ :=
    Grammar.exists_leads_of_reads (fun found => found.command = none)
      (fun opt member => (mem_programGrammar member).1) (fun opt member => (mem_programGrammar member).2)
      reads (Grammar.fits_of_classifyAll classified).2 rfl rfl rfl taken
  -- The options of the program stand before any separator, and so does the word for the command.
  obtain ⟨options, line, rfl, early, before, later⟩ :=
    Grammar.exists_of_classifyAll_append classified leads.option
  obtain ⟨found, ended, rfl⟩ := Grammar.exists_of_takeOperand last
  obtain ⟨word, own, read, divided, looked, reads, verbose⟩ :=
    exists_lookup_of_takeCommand fresh ended asked
  -- The arguments of the command are what follows the word for it.
  obtain rfl : line = word :: own := (Grammar.fits_of_classifyAll later).1.symm.trans divided
  rw [← List.nil_append (word :: own)] at later
  obtain ⟨_, _, tokens, _, _, alone, _⟩ :=
    (Grammar.classifyAll_eq_ok_iff List.not_mem_nil (classify_of_lookup looked).2).mp later
  obtain rfl := name_of_lookup looked reads
  exact ⟨options, own, _, tokens, rfl, verbose ▸ directs_of_leads early before leads looked, alone,
    unused ▸ reads⟩

end Fleet.CommandLine
