import Fleet.OrderedMap
import Fleet.Text.Quoted

/-! Flags: the options of its own that a provider adds to the command that creates. -/

namespace Fleet

/-- What a flag was set to. -/
inductive FlagValue where
  /-- Nothing. -/
  | nothing
  /-- A text. -/
  | text (value : String)
  /-- A list of texts. It is empty when an option was given with a separator for its value. -/
  | texts (values : List String)
deriving DecidableEq

namespace FlagValue

/-- The value as part of a text. -/
def written : FlagValue → String
  | nothing => "None"
  | text value => value
  | texts values => Text.quoteList values

/-- The text, unless it is empty. -/
def text? : FlagValue → Option String
  | text value => if value.isEmpty then none else some value
  | nothing | texts _ => none

/-- The texts of a list. A lone text counts as the list of its characters. -/
def toList : FlagValue → List String
  | nothing => []
  | text value => value.toList.map String.singleton
  | texts values => values

end FlagValue

/-- An option that takes one text, or one or more of them, its value when it is not given, and the
template for what is told of it when the user asks for help. -/
structure Flag where
  option : String
  many : Bool
  standard : FlagValue
  help : String := ""
deriving DecidableEq

/-- The key that a flag's value is found under: the option without the hyphens before it, and with
those inside turned into underscores. -/
def Flag.key (flag : Flag) : String :=
  String.ofList ((flag.option.toList.dropWhile (· == '-')).map fun c => if c == '-' then '_' else c)

/-- What flags were set to, by their keys. -/
abbrev FlagValues := OrderedMap String FlagValue

end Fleet
