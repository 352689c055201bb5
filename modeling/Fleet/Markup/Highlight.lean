import Fleet.Markup.Styled
import Fleet.Text.Digit
import Fleet.Text.Pattern

/-! Highlights: stretches of a text that the console sets in styles of its own, such as numbers, paths
and quoted texts. -/

namespace Fleet.Markup.Highlight

open Text (Letter Pattern)
open Text.Pattern

/-- Whether a letter is one of some characters. -/
def isOf (chars : String) (letter : Letter) : Bool := chars.toList.contains letter.char

/-- Whether a letter belongs to a word or is one of some characters. -/
def isWordOr (chars : String) (letter : Letter) : Bool := letter.isWord || isOf chars letter

/-- Whether a letter is a digit from 0 to 9. -/
def isPlainDigit (letter : Letter) : Bool := letter.char.isDigit

/-- Whether a letter is a decimal digit of any script. -/
def isAnyDigit (letter : Letter) : Bool := Text.isDigit letter.char

/-- Whether a letter is a digit of a number to the base sixteen. -/
def isHex (letter : Letter) : Bool := isPlainDigit letter || isOf "abcdefABCDEF" letter

/-- A tag in angle brackets, up to the last bracket that closes one. -/
def angled : Pattern :=
  inOrder [.marked (text "<"), .marked (.all (isWordOr "-.:|")), .marked (.most fun _ => true),
    .marked (text ">")]

/-- A name with an equals sign and perhaps a value, which may stand in quotes. -/
def assignment : Pattern :=
  let quote := optional (text "\"")
  inOrder [.marked (onceUpTo 50 (.one Letter.isWord)), text "=",
    optional (.marked (inOrder [quote, oneAndAll Letter.isWord, quote]))]

/-- A bracket. -/
def bracket : Pattern := .marked (oneOf "][\x7b\x7d()")

/-- An address of four numbers. -/
def shortAddress : Pattern :=
  let group := onceUpTo 3 (.one isPlainDigit)
  .both (times 3 (.both group (text "."))) group

/-- An address of up to eight numbers to the base sixteen, with colons between them. -/
def longAddress : Pattern :=
  let group := onceUpTo 4 (.one isHex)
  .both (onceUpTo 7 (inOrder [group, text ":", optional (text ":")])) group

/-- Groups with a mark between them, as many as a number tells. -/
def groups (count : Nat) (group : Pattern) (mark : String) : Pattern :=
  .both (times (count - 1) (.both group (text mark))) group

/-- The address of a device, which is some number of bytes long. -/
def deviceAddress (bytes : Nat) : Pattern :=
  let byte := onceUpTo 2 (.one isHex)
  anyOf [groups bytes byte "-", groups bytes byte ":",
    groups (bytes / 2) (times 4 (.one isHex)) "."]

/-- An identifier: five groups of digits to the base sixteen. -/
def identifier : Pattern :=
  let group (count : Nat) : Pattern := times count (.one isHex)
  inOrder [group 8, text "-", group 4, text "-", group 4, text "-", group 4, text "-", group 12]

/-- The name before a bracket that opens. -/
def called : Pattern := .both (.marked (.all (isWordOr "."))) (text "(")

/-- A word that stands alone. -/
def alone (word : String) : Pattern := inOrder [edge, .marked (text word), edge]

/-- The digits of a number, perhaps with a point after some of them. -/
def decimal : Pattern :=
  .both (oneAndAll isPlainDigit) (optional (.both (text ".") (.most isPlainDigit)))

/-- The exponent of a number, whose digits are as given. -/
def exponent (digits : Pattern) : Pattern :=
  inOrder [text "e", optional (oneOf "-+"), .one isAnyDigit, digits]

/-- A number in two parts, the second of which a letter ends. -/
def complexNumber : Pattern :=
  inOrder [notAfter Letter.isWord, optional (text "-"), decimal,
    optional (exponent (.least isAnyDigit)),
    optional (inOrder [oneOf "-+", decimal, optional (exponent (.most isAnyDigit))]), text "j"]

/-- A number, or one to the base sixteen. -/
def number : Pattern :=
  .either
    (inOrder [notAfter Letter.isWord, optional (text "-"), decimal,
      optional (exponent (.least isAnyDigit)), edge])
    (.both (text "0x") (.all isHex))

/-- A path and the name of the file in it. -/
def path : Pattern :=
  let isNamePart := isWordOr "-._+"
  .both
    (.marked (inOrder [noEdge, .rounds (.both (text "/") (oneAndAll isNamePart)), text "/"]))
    (.marked (.all isNamePart))

/-- A text in quotes on one line. A quote after a backslash does not end it. -/
def quoted (quote : String) : Pattern :=
  inOrder [optional (text "b"), text quote, .least fun letter => letter.char != '\n',
    notAfter (isOf "\\"), text quote]

/-- A text in quotes of any kind. -/
def anyQuoted : Pattern :=
  .both (notAfter (isWordOr "\\"))
    (.marked (anyOf (["'''", "'", "\"\"\"", "\""].map quoted)))

/-- Whether a letter can stand in the address of a page. -/
def isPagePart (letter : Letter) : Bool :=
  letter.char.isAlphanum || isOf "-$_+!`(),.?/;:&=%#~" letter

/-- The address of a page. -/
def pageAddress : Pattern :=
  inOrder [anyOf (["file", "https", "http", "ws", "wss"].map text), text "://", .all isPagePart]

/-- Addresses, names, numbers and texts. -/
def value : Pattern :=
  anyOf [.marked shortAddress, .marked longAddress, .marked (deviceAddress 8),
    .marked (deviceAddress 6), .marked identifier, called, alone "True", alone "False",
    alone "None", .marked (text "..."), .marked complexNumber, .marked number, path, anyQuoted,
    .marked pageAddress]

/-- What the console looks for, each in the whole text. -/
def patterns : List Pattern := [angled, assignment, bracket, value]

/-- The highlights of a text. -/
def spans (chars : List Char) : List Span :=
  let letters := chars.map Letter.ofChar
  patterns.flatMap fun pattern => (pattern.marks letters).map fun (first, after) =>
    ⟨first, after, ""⟩

end Highlight

/-- A styled text with its highlights. -/
def Styled.highlight (styled : Styled) : Styled :=
  { styled with spans := Highlight.spans styled.text ++ styled.spans }

end Fleet.Markup
