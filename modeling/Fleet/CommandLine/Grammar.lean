import Fleet.CommandLine.Usage
import Fleet.Fault

/-! Grammars of command lines: the options and operands that a program takes. -/

namespace Fleet.CommandLine

/-- What ends the reading of a command line early. -/
inductive Halt where
  /-- The command line is not understood. -/
  | misuse (program message : String)
  /-- The user asked how to use the program. -/
  | help
  /-- The user asked for the version. -/
  | version (text : String)
  /-- A value could not be read for a reason that is no misuse. -/
  | fault (fault : Fault)
deriving DecidableEq

/-- Why a value is not taken. -/
inductive Refusal where
  /-- The value is wrong. -/
  | wrong (message : String)
  /-- Nothing more is to be read. -/
  | halt (halt : Halt)

/-- How many values an option takes. -/
inductive Arity where
  | none
  | one
  | many
deriving DecidableEq

/-- An option: its spellings, how many values it takes, what stands for a value in a usage, and what
the option does with its values. -/
structure Opt (ν : Type) where
  spellings : List String
  arity : Arity
  placeholder : String := ""
  required : Bool := false
  take : List String → ν → Except Refusal ν

/-- All spellings of an option, which is how messages call it. -/
def Opt.title {ν : Type} (opt : Opt ν) : String :=
  "/".intercalate opt.spellings

/-- How a usage shows an option: by its first spelling, and in a bracket if it may be left out. -/
def Opt.usage {ν : Type} (opt : Opt ν) : String :=
  let spelling := opt.spellings.headD ""
  let shown := match opt.arity with
    | .none => spelling
    | .one => s!"{spelling} {opt.placeholder}"
    | .many => s!"{spelling} {opt.placeholder} [{opt.placeholder} ...]"
  if opt.required then shown else s!"[{shown}]"

/-- The part of a usage that shows options. -/
def usageOf {ν : Type} (options : List (Opt ν)) : String :=
  " ".intercalate (options.map Opt.usage)

/-- How far an operand reaches. -/
inductive Reach where
  /-- Over the words up to the next option, of which there must be one. -/
  | words
  /-- Over a word and all that follows it, options too. -/
  | command
deriving DecidableEq

/-- What stands on a command line beside its options. -/
structure Operand (ν : Type) where
  title : String
  reach : Reach
  take : List String → ν → Except Refusal ν

/-- What a program takes on its command line. -/
structure Grammar (ν : Type) where
  program : String
  options : List (Opt ν)
  operand : Option (Operand ν)

namespace Grammar

variable {ν : Type}

/-- The spellings of all options, in order. -/
def spellings (grammar : Grammar ν) : List (String × Opt ν) :=
  grammar.options.flatMap fun opt => opt.spellings.map fun spelling => (spelling, opt)

/-- The option with a spelling. -/
def find? (grammar : Grammar ν) (spelling : String) : Option (Opt ν) :=
  (grammar.spellings.find? fun entry => entry.1 == spelling).map Prod.snd

/-- The end of reading when the command line is not understood. The usage is shown with it. Blanks
at the end of the message are not kept. -/
def misuse {α : Type} (grammar : Grammar ν) (message : String) : Except Halt α :=
  .error <|
    if Usage.dividesEvenly (usageOf grammar.options) then
      .misuse grammar.program (Text.trimEnd message)
    else .fault (.problem .unevenUsage)

/-- The end of reading when an option or operand is not used as it should be. -/
def misuseOf {α : Type} (grammar : Grammar ν) (title message : String) : Except Halt α :=
  grammar.misuse s!"argument {title}: {message}"

/-- What is taken over, or the end of reading when it is refused. -/
def accept {α : Type} (grammar : Grammar ν) (title : String) :
    Except Refusal α → Except Halt α
  | .ok value => .ok value
  | .error (.wrong message) => grammar.misuseOf title message
  | .error (.halt halt) => .error halt

end Grammar

end Fleet.CommandLine
