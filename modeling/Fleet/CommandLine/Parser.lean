import Fleet.CommandLine.Reading
import Fleet.Text.Quoted

/-! Parsing: from the arguments of a command line to what a program is to do. -/

namespace Fleet.CommandLine

/-- An option spelled out together with others or with a value: the options with their values, and
the option that takes its values from the arguments after it. -/
structure Unfolded (ν : Type) where
  complete : List (Opt ν × List String)
  waiting : Option (Opt ν)

/-- How far parsing has come: what was found, the operand that is still to come, the options that
were given and the arguments that have no use. -/
structure Progress (ν : Type) where
  found : ν
  operand : Option (Operand ν)
  given : List String
  extras : List String

namespace Grammar

variable {ν : Type}

/-- An option with a value joined to it, which it has to take. -/
def joinValue (grammar : Grammar ν) (opt : Opt ν) (value : List Char) :
    Except Halt (Unfolded ν) :=
  match opt.arity with
  | .one | .many => .ok ⟨[(opt, [String.ofList value])], none⟩
  | .none =>
    grammar.misuseOf opt.title ("ignored explicit argument " ++ Text.quote (String.ofList value))

/-- A short option and what follows it in the same argument. Short options without values may
follow each other after one hyphen, and the last of them may have a value. -/
def unfoldShort (grammar : Grammar ν) (opt : Opt ν) : List Char → Except Halt (Unfolded ν)
  | [] => .ok ⟨[], some opt⟩
  | letter :: rest =>
    match opt.arity, grammar.find? (String.ofList ['-', letter]) with
    | .none, some next => do
      let unfolded ← grammar.unfoldShort next rest
      return { unfolded with complete := (opt, []) :: unfolded.complete }
    -- What cannot be another short option is taken for a value joined to this one.
    | _, _ => grammar.joinValue opt (letter :: rest)

/-- The options that an argument stands for. -/
def unfold (grammar : Grammar ν) (opt : Opt ν) : Option Joined → Except Halt (Unfolded ν)
  | none => .ok ⟨[], some opt⟩
  | some joined =>
    if joined.short && !joined.text.isEmpty then grammar.unfoldShort opt joined.text
    else grammar.joinValue opt joined.text

/-- The values that an option takes from the arguments after it. -/
def valuesFor (grammar : Grammar ν) (opt : Opt ν) (rest : List (String × Reading ν)) :
    Except Halt (List String) :=
  let words := (rest.takeWhile fun token => token.2.isWord).map Prod.fst
  match opt.arity, words with
  | .none, _ => .ok []
  | .one, value :: _ => .ok [value]
  | .one, [] => grammar.misuseOf opt.title "expected one argument"
  | .many, [] => grammar.misuseOf opt.title "expected at least one argument"
  | .many, values => .ok values

/-- Takes over options with their values. A separator among the values is left out. -/
def takeOptions (grammar : Grammar ν) (progress : Progress ν)
    (options : List (Opt ν × List String)) : Except Halt (Progress ν) :=
  options.foldlM (fun progress (opt, values) => do
    let found ← grammar.accept opt.title (opt.take (values.erase "--") progress.found)
    return { progress with found := found, given := opt.title :: progress.given }) progress

/-- The number of arguments that an operand takes, if it takes any. -/
def extent (reach : Reach) (tokens : List (String × Reading ν)) : Option Nat :=
  match reach with
  | .words =>
    let span := tokens.takeWhile fun token => !token.2.isOption
    if span.any fun token => token.2.isWord then some span.length else none
  | .command =>
    match tokens.dropWhile fun token => token.2.isSeparator with
    | first :: _ => if first.2.isWord then some tokens.length else none
    | [] => none

/-- Takes over an operand. A separator among words is left out. -/
def takeOperand (grammar : Grammar ν) (progress : Progress ν) (operand : Operand ν)
    (tokens : List (String × Reading ν)) : Except Halt (Progress ν) := do
  let arguments := tokens.map Prod.fst
  let values := match operand.reach with
    -- A command keeps the separator, as it reads its arguments for itself.
    | .words => arguments.erase "--"
    | .command => arguments
  let found ← grammar.accept operand.title (operand.take values progress.found)
  return { progress with found := found, operand := none }

/-- Goes through the arguments. Each option takes its values, the operand takes the first values
that no option takes, and the rest is left over. -/
def consume (grammar : Grammar ν) (tokens : List (String × Reading ν)) (progress : Progress ν) :
    Except Halt (Progress ν) :=
  match tokens with
  | [] => .ok progress
  | (argument, reading) :: rest =>
    match reading with
    | .unknown =>
      grammar.consume rest { progress with extras := progress.extras ++ [argument] }
    | .option opt joined => do
      -- The values that the last option takes are those right behind it.
      let unfolded ← grammar.unfold opt joined
      let (options, count) ← match unfolded.waiting with
        | none => .ok (unfolded.complete, 0)
        | some last => do
          let values ← grammar.valuesFor last rest
          .ok (unfolded.complete ++ [(last, values)], values.length)
      let progress ← grammar.takeOptions progress options
      grammar.consume (rest.drop count) progress
    | .word | .separator =>
      let words := (argument, reading) :: rest
      match progress.operand.bind fun operand =>
          (extent operand.reach words).map fun count => (operand, count) with
      | some (operand, count) => do
        let taken := words.take count
        let progress ← grammar.takeOperand progress operand taken
        -- The first of the words is gone already.
        grammar.consume (rest.drop (count - 1)) progress
      | none =>
        grammar.consume rest { progress with extras := progress.extras ++ [argument] }
termination_by tokens.length
decreasing_by all_goals simp only [List.length_cons, List.length_drop]; omega

/-- What is required but was not given. -/
def missing (grammar : Grammar ν) (progress : Progress ν) : List String :=
  progress.operand.toList.map Operand.title ++
    (grammar.options.filter fun opt => opt.required && !progress.given.contains opt.title).map
      Opt.title

/-- What a command line asks for, and the arguments that have no use. -/
def parseKnown (grammar : Grammar ν) (arguments : List String) (start : ν) :
    Except Halt (ν × List String) := do
  let tokens ← grammar.classifyAll arguments
  let progress ← grammar.consume tokens ⟨start, grammar.operand, [], []⟩
  match grammar.missing progress with
  | [] => return (progress.found, progress.extras)
  | titles =>
    grammar.misuse ("the following arguments are required: " ++ ", ".intercalate titles)

/-- The end of reading when arguments have no use. -/
def refuseExtras {α : Type} (grammar : Grammar ν) (value : α) (extras : List String) :
    Except Halt α :=
  if extras.isEmpty then .ok value
  else grammar.misuse ("unrecognized arguments: " ++ " ".intercalate extras)

end Grammar

end Fleet.CommandLine
