import Fleet.CommandLine.Grammar
import Fleet.Text.Assignment
import Fleet.Text.Digit

/-! Readings: what each argument of a command line is taken for. -/

namespace Fleet.CommandLine

/-- What is joined to an option within one argument, with or without an equals sign, and whether
the option is spelled with a single hyphen. -/
structure Joined where
  short : Bool
  text : List Char
deriving DecidableEq

/-- What an argument is taken for. -/
inductive Reading (ν : Type) where
  /-- An option, with what is joined to it. -/
  | option (opt : Opt ν) (joined : Option Joined)
  /-- Something like an option that the program does not have. -/
  | unknown
  /-- A value. -/
  | word
  /-- The mark after which everything is a value. -/
  | separator

namespace Reading

variable {ν : Type}

/-- Whether the argument is an option, known or not. -/
def isOption : Reading ν → Bool
  | option _ _ | unknown => true
  | word | separator => false

/-- Whether the argument is a value. -/
def isWord : Reading ν → Bool
  | word => true
  | _ => false

/-- Whether the argument is the mark after which everything is a value. -/
def isSeparator : Reading ν → Bool
  | separator => true
  | _ => false

end Reading

/-- Whether a text is written like a negative number. One line break that closes it is not looked
at. -/
def looksNegative (text : List Char) : Bool :=
  match Text.dropFinalBreak text with
  | '-' :: number =>
    match number.dropWhile Text.isDigit with
    | [] => !number.isEmpty
    | '.' :: places => !places.isEmpty && places.all Text.isDigit
    | _ => false
  | _ => false

namespace Grammar

variable {ν : Type}

/-- The options that an argument may stand for, when it is not written out in full: options that
it begins, and short options that it begins with. -/
def candidates (grammar : Grammar ν) (text : List Char) : List (String × Opt ν × Option Joined) :=
  match text with
  | '-' :: '-' :: _ =>
    -- A long option may be shortened, with its value behind an equals sign.
    let (stem, value) := Text.splitAtSign text
    grammar.spellings.filterMap fun (spelling, opt) =>
      if stem.isPrefixOf spelling.toList then
        some (spelling, opt, value.map fun value => ⟨false, value⟩)
      else none
  | '-' :: letter :: rest =>
    grammar.spellings.filterMap fun (spelling, opt) =>
      -- A short option may have its value joined to it, or the whole may begin a long one.
      if spelling.toList == ['-', letter] then some (spelling, opt, some ⟨true, rest⟩)
      else if text.isPrefixOf spelling.toList then some (spelling, opt, none)
      else none
  | _ => []

/-- The option that an argument is in full, possibly with a value after an equals sign. -/
def exactly (grammar : Grammar ν) (text : List Char) : Option (Reading ν) :=
  match grammar.find? (String.ofList text) with
  | some opt => some (.option opt none)
  | none =>
    match Text.splitAtSign text with
    | (stem, some value) =>
      (grammar.find? (String.ofList stem)).map fun opt =>
        .option opt (some ⟨!(['-', '-'].isPrefixOf stem), value⟩)
    | (_, none) => none

/-- What an argument before the separator is taken for. -/
def classify (grammar : Grammar ν) (argument : String) : Except Halt (Reading ν) :=
  match argument.toList with
  | '-' :: more =>
    -- A hyphen by itself is a word.
    if more.isEmpty then .ok .word
    else match grammar.exactly argument.toList with
      | some reading => .ok reading
      | none =>
        match grammar.candidates argument.toList with
        | [(_, opt, joined)] => .ok (.option opt joined)
        | [] =>
          -- A negative number and anything with a blank in it are words, too.
          if looksNegative argument.toList || argument.toList.contains ' ' then .ok .word
          else .ok .unknown
        | several =>
          let matching := ", ".intercalate (several.map Prod.fst)
          grammar.misuse s!"ambiguous option: {argument} could match {matching}"
  | _ => .ok .word

/-- What the arguments of a command line are taken for. -/
def classifyAll (grammar : Grammar ν) : List String → Except Halt (List (String × Reading ν))
  | [] => .ok []
  | argument :: rest =>
    if argument == "--" then
      -- Whatever stands behind a separator is a word.
      .ok ((argument, .separator) :: rest.map fun value => (value, .word))
    else do
      let reading ← grammar.classify argument
      let readings ← grammar.classifyAll rest
      return (argument, reading) :: readings

end Grammar

end Fleet.CommandLine
