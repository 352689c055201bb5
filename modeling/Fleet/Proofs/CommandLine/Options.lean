import Fleet.CommandLine.Parser
import Fleet.Proofs.Program

/-! The options that arguments are taken for and stand for: all of them are options of the grammar, spelled as
they should be. -/

namespace Fleet.CommandLine

variable {ν : Type}

/-- The words that stand first among arguments. -/
def firstWords (tokens : List (String × Reading ν)) : List String :=
  (tokens.takeWhile fun token => token.2.isWord).map Prod.fst

/-- What an option is given: what is joined to it, or else as many of the words after it as it takes. -/
def given (opt : Opt ν) (joined : Option Joined) (rest : List (String × Reading ν)) : List String :=
  match joined with
  | some joined => [String.ofList joined.text]
  | none =>
    match opt.arity with
    | .none => []
    | .one => (firstWords rest).take 1
    | .many => firstWords rest

namespace Grammar

variable {grammar : Grammar ν}

/-- Nothing comes of a misuse. -/
theorem misuse_ne_ok {α : Type} {message : String} {value : α} :
    grammar.misuse message ≠ .ok value :=
  nofun

/-- The spellings are those of the options, each with its own. -/
theorem mem_spellings {spelling : String} {opt : Opt ν} :
    (spelling, opt) ∈ grammar.spellings ↔ opt ∈ grammar.options ∧ spelling ∈ opt.spellings := by
  simp [spellings]

/-- An option that is found has the spelling that it was looked up by. -/
theorem mem_of_find? {spelling : String} {opt : Opt ν} (found : grammar.find? spelling = some opt) :
    opt ∈ grammar.options ∧ spelling ∈ opt.spellings := by
  obtain ⟨⟨own, _⟩, entry, rfl⟩ := Option.map_eq_some_iff.mp found
  have same : own = spelling := by simpa using List.find?_some entry
  exact same ▸ mem_spellings.mp (List.mem_of_find?_eq_some entry)

/-- No option of a grammar is found by what none of them is spelled. -/
theorem find?_eq_none {spelling : String}
    (unspelled : ∀ opt ∈ grammar.options, spelling ∉ opt.spellings) : grammar.find? spelling = none := by
  cases found : grammar.find? spelling with
  | none => rfl
  | some opt => exact absurd (mem_of_find? found).2 (unspelled opt (mem_of_find? found).1)

/-- The reading of an argument fits the grammar: an option is one of the grammar's, its argument begins
with a hyphen, and what is joined to it as to a short one is joined to a spelling with one hyphen. -/
structure Fits (grammar : Grammar ν) (argument : String) (opt : Opt ν) (joined : Option Joined) :
    Prop where
  known : opt ∈ grammar.options
  hyphen : argument.toList.head? = some '-'
  short : ∀ text, joined = some ⟨true, text⟩ →
    ∃ spelling ∈ opt.spellings, ['-', '-'].isPrefixOf spelling.toList = false

/-- A candidate is an option of the grammar, and only a spelling with one hyphen has something joined to
it as to a short one. -/
theorem fits_of_mem_candidates {text : List Char} {spelling : String} {opt : Opt ν}
    {joined : Option Joined} (candidate : (spelling, opt, joined) ∈ grammar.candidates text) :
    opt ∈ grammar.options ∧ ∀ text, joined = some ⟨true, text⟩ →
      ∃ spelling ∈ opt.spellings, ['-', '-'].isPrefixOf spelling.toList = false := by
  unfold candidates at candidate
  split at candidate
  · -- After two hyphens the argument begins a spelling, and nothing is joined as to a short one.
    obtain ⟨⟨own, other⟩, member, same⟩ := List.mem_filterMap.mp candidate
    dsimp only at same
    split at same
    · cases same
      refine ⟨(mem_spellings.mp member).1, fun text same => ?_⟩
      obtain ⟨value, _, same⟩ := Option.map_eq_some_iff.mp same
      cases same
    · cases same
  · -- After one hyphen there is a letter, and what follows may be joined to it.
    next letter rest single =>
    obtain ⟨⟨own, other⟩, member, same⟩ := List.mem_filterMap.mp candidate
    obtain ⟨known, spelled⟩ := mem_spellings.mp member
    dsimp only at same
    split at same
    · -- The spelling is a hyphen and the letter, which is no other hyphen.
      next exact =>
      cases same
      refine ⟨known, fun _ _ => ⟨spelling, spelled, ?_⟩⟩
      rw [beq_iff_eq.mp exact]
      simpa [List.isPrefixOf] using Ne.symm single
    · -- Otherwise the whole argument begins a spelling, and is joined to nothing.
      split at same
      · cases same
        exact ⟨known, nofun⟩
      · cases same
  · cases candidate

/-- An argument is taken for an option only where that fits. -/
theorem fits_of_classify {argument : String} {opt : Opt ν} {joined : Option Joined}
    (read : grammar.classify argument = .ok (.option opt joined)) :
    grammar.Fits argument opt joined := by
  unfold classify at read
  split at read
  · next more hyphen =>
    -- Only what begins with a hyphen can be an option.
    have first : argument.toList.head? = some '-' := by rw [hyphen]; rfl
    split at read
    · cases read
    · split at read
      · -- The option is written out, at least up to an equals sign.
        next reading written =>
        cases read
        unfold exactly at written
        split at written
        · -- It is a spelling in full.
          next found =>
          cases written
          exact ⟨(mem_of_find? found).1, first, nofun⟩
        · split at written
          · -- What stands before the equals sign is a spelling, and what stands behind it is joined.
            next stem value divided =>
            obtain ⟨_, found, same⟩ := Option.map_eq_some_iff.mp written
            cases same
            refine ⟨(mem_of_find? found).1, first, fun text same => ?_⟩
            simp only [Option.some.injEq, Joined.mk.injEq] at same
            exact ⟨_, (mem_of_find? found).2, by simpa using same.1⟩
          · cases written
      · -- It is the only candidate.
        split at read
        · next spelling option text only =>
          cases read
          obtain ⟨known, short⟩ := fits_of_mem_candidates (only ▸ List.mem_singleton_self _)
          exact ⟨known, first, short⟩
        · split at read <;> cases read
        · exact absurd read misuse_ne_ok
  · cases read

/-- All arguments that are taken for options fit. -/
def AllFit (grammar : Grammar ν) (tokens : List (String × Reading ν)) : Prop :=
  ∀ argument opt joined, (argument, .option opt joined) ∈ tokens → grammar.Fits argument opt joined

/-- Without the first argument the others still fit. -/
theorem AllFit.of_cons {token : String × Reading ν} {rest : List (String × Reading ν)}
    (fits : grammar.AllFit (token :: rest)) : grammar.AllFit rest :=
  fun argument opt joined member => fits argument opt joined (List.mem_cons_of_mem _ member)

/-- Without some of the first arguments the others still fit. -/
theorem AllFit.drop {tokens : List (String × Reading ν)} (fits : grammar.AllFit tokens) (count : Nat) :
    grammar.AllFit (tokens.drop count) :=
  fun argument opt joined member => fits argument opt joined (List.mem_of_mem_drop member)

/-- What arguments are taken for, one by one: those that are taken for options fit the grammar. -/
theorem fits_of_classifyAll {arguments : List String} {tokens : List (String × Reading ν)}
    (read : grammar.classifyAll arguments = .ok tokens) :
    tokens.map Prod.fst = arguments ∧ grammar.AllFit tokens := by
  -- After a separator there are no more options.
  induction arguments generalizing tokens with
  | nil =>
    cases read
    exact ⟨rfl, nofun⟩
  | cons argument rest ih =>
    rw [classifyAll] at read
    split at read
    · -- The separator comes first, so all that follows are words.
      cases read
      simp [Function.comp_def, AllFit]
    · -- The first argument is read for itself, and then the others.
      obtain ⟨reading, first, read⟩ := exists_of_bind_ok read
      obtain ⟨readings, later, same⟩ := exists_of_bind_ok read
      cases same
      obtain ⟨names, fits⟩ := ih later
      refine ⟨by rw [List.map_cons, names], fun other opt joined member => ?_⟩
      rcases List.mem_cons.mp member with same | further
      · cases same
        exact fits_of_classify first
      · exact fits other opt joined further

/-- An option with a value joined to it stands for itself, and takes values. -/
theorem joinValue_eq_ok {opt : Opt ν} {value : List Char} {unfolded : Unfolded ν}
    (joins : grammar.joinValue opt value = .ok unfolded) :
    opt.arity ≠ .none ∧ unfolded = ⟨[(opt, [String.ofList value])], none⟩ := by
  unfold joinValue at joins
  -- An option that takes values is content with one, be it for one or for many.
  split at joins
  · next takes =>
    cases joins
    exact ⟨by rw [takes]; decide, rfl⟩
  · next takes =>
    cases joins
    exact ⟨by rw [takes]; decide, rfl⟩
  · exact absurd joins misuse_ne_ok

/-- Every option that an argument stands for is one of the grammar's. -/
structure Knows (grammar : Grammar ν) (unfolded : Unfolded ν) : Prop where
  complete : ∀ use ∈ unfolded.complete, use.1 ∈ grammar.options
  waiting : ∀ last, unfolded.waiting = some last → last ∈ grammar.options

/-- An option that waits for its values is known if it is one of the grammar's. -/
theorem knows_waiting {opt : Opt ν} (known : opt ∈ grammar.options) : grammar.Knows ⟨[], some opt⟩ :=
  ⟨nofun, fun _ same => Option.some.inj same ▸ known⟩

/-- So is one that a value is joined to. -/
theorem knows_joinValue {opt : Opt ν} (known : opt ∈ grammar.options) {value : List Char}
    {unfolded : Unfolded ν} (joins : grammar.joinValue opt value = .ok unfolded) :
    grammar.Knows unfolded := by
  obtain ⟨_, rfl⟩ := joinValue_eq_ok joins
  refine ⟨fun use member => ?_, nofun⟩
  obtain rfl := List.mem_singleton.mp member
  exact known

/-- Short options after one hyphen are known. -/
theorem knows_unfoldShort {opt : Opt ν} {text : List Char} {unfolded : Unfolded ν}
    (known : opt ∈ grammar.options) (unfolds : grammar.unfoldShort opt text = .ok unfolded) :
    grammar.Knows unfolded := by
  -- Each letter is looked up among the options, and the last option may be joined to a value.
  induction text generalizing opt unfolded with
  | nil =>
    cases unfolds
    exact knows_waiting known
  | cons letter rest ih =>
    rw [unfoldShort] at unfolds
    -- A letter that is an option without values leaves the rest to others.
    split at unfolds
    · next next _ found =>
      obtain ⟨later, further, same⟩ := exists_of_bind_ok unfolds
      cases same
      obtain ⟨complete, waiting⟩ := ih (mem_of_find? found).1 further
      exact ⟨List.forall_mem_cons.mpr ⟨known, complete⟩, waiting⟩
    · -- To another option the rest is joined.
      exact knows_joinValue known unfolds

/-- Whatever an argument stands for is known. -/
theorem knows_unfold {opt : Opt ν} (known : opt ∈ grammar.options) {joined : Option Joined}
    {unfolded : Unfolded ν} (unfolds : grammar.unfold opt joined = .ok unfolded) :
    grammar.Knows unfolded := by
  unfold unfold at unfolds
  -- Nothing may be joined to it, or something as to a short option, or with an equals sign.
  split at unfolds
  · cases unfolds
    exact knows_waiting known
  · split at unfolds
    · exact knows_unfoldShort known unfolds
    · exact knows_joinValue known unfolds

/-- The values that an option takes from the arguments after it are what it is given. -/
theorem valuesFor_eq_ok {opt : Opt ν} {rest : List (String × Reading ν)} {values : List String}
    (valued : grammar.valuesFor opt rest = .ok values) : values = given opt none rest := by
  unfold valuesFor at valued
  unfold given firstWords
  generalize (rest.takeWhile fun token => token.2.isWord).map Prod.fst = words at valued ⊢
  -- Who takes values takes those that stand there, and misses them where there are none.
  cases arity : opt.arity with
  | none =>
    rw [arity] at valued
    cases valued
    rfl
  | one =>
    rw [arity] at valued
    cases words with
    | nil => exact absurd valued misuse_ne_ok
    | cons value more =>
      cases valued
      rfl
  | many =>
    rw [arity] at valued
    cases words with
    | nil => exact absurd valued misuse_ne_ok
    | cons value more =>
      cases valued
      rfl

/-- The options that an argument stands for with their values, and the number of arguments after it that
are among these. -/
def standsFor (grammar : Grammar ν) (opt : Opt ν) (joined : Option Joined)
    (rest : List (String × Reading ν)) : Except Halt (List (Opt ν × List String) × Nat) := do
  let unfolded ← grammar.unfold opt joined
  match unfolded.waiting with
  | none => .ok (unfolded.complete, 0)
  | some last => do
    let values ← grammar.valuesFor last rest
    .ok (unfolded.complete ++ [(last, values)], values.length)

/-- What an argument stands for: the options that are complete, and after them the one that waits for its
values, with what it is given. -/
theorem exists_of_standsFor {opt : Opt ν} {joined : Option Joined} {rest : List (String × Reading ν)}
    {options : List (Opt ν × List String)} {count : Nat}
    (stands : grammar.standsFor opt joined rest = .ok (options, count)) :
    ∃ unfolded, grammar.unfold opt joined = .ok unfolded ∧
      ((unfolded.waiting = none ∧ options = unfolded.complete ∧ count = 0) ∨
        ∃ last, unfolded.waiting = some last ∧
          options = unfolded.complete ++ [(last, given last none rest)] ∧
          count = (given last none rest).length) := by
  obtain ⟨unfolded, unfolds, stands⟩ := exists_of_bind_ok stands
  refine ⟨unfolded, unfolds, ?_⟩
  -- Either nothing waits for words, or the last option does and takes them.
  split at stands
  · next ready =>
    cases stands
    exact .inl ⟨ready, rfl, rfl⟩
  · next last waits =>
    obtain ⟨values, valued, same⟩ := exists_of_bind_ok stands
    cases same
    rw [valuesFor_eq_ok valued]
    exact .inr ⟨last, waits, rfl, rfl⟩

/-- An argument stands for options of the grammar, and for no more arguments if none of these takes values. -/
theorem mem_of_standsFor {opt : Opt ν} {joined : Option Joined} {rest : List (String × Reading ν)}
    {options : List (Opt ν × List String)} {count : Nat} (known : opt ∈ grammar.options)
    (stands : grammar.standsFor opt joined rest = .ok (options, count)) :
    (∀ use ∈ options, use.1 ∈ grammar.options) ∧
      ((∀ other ∈ grammar.options, other.arity = .none) → count = 0) := by
  obtain ⟨unfolded, unfolds, ⟨_, rfl, rfl⟩ | ⟨last, waits, rfl, rfl⟩⟩ := exists_of_standsFor stands
  · exact ⟨(knows_unfold known unfolds).complete, fun _ => rfl⟩
  · obtain ⟨complete, waiting⟩ := knows_unfold known unfolds
    have among := waiting last waits
    refine ⟨List.forall_mem_append.mpr ⟨complete, List.forall_mem_singleton.mpr among⟩, fun plain => ?_⟩
    -- An option without values is given none.
    rw [given, plain last among]
    rfl

end Grammar

end Fleet.CommandLine
