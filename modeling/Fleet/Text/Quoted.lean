import Fleet.Text.Printable

/-! Quoted texts: one line of visible characters that shows where a text begins and ends. -/

namespace Fleet.Text

/-- A number in lower-case hexadecimal digits, with zeros in front up to a width. -/
def hexDigits (width n : Nat) : List Char :=
  let digits := Nat.toDigits 16 n
  List.replicate (width - digits.length) '0' ++ digits

/-- How a character is written between quotation marks. -/
def quotedChar (mark c : Char) : List Char :=
  if c == mark || c == '\\' then ['\\', c]
  else if c == '\n' then ['\\', 'n']
  else if c == '\r' then ['\\', 'r']
  else if c == '\t' then ['\\', 't']
  else if isPrintable c then [c]
  else if c.toNat < 0x100 then '\\' :: 'x' :: hexDigits 2 c.toNat
  else if c.toNat < 0x10000 then '\\' :: 'u' :: hexDigits 4 c.toNat
  else '\\' :: 'U' :: hexDigits 8 c.toNat

/-- A text with single quotes is set in double ones, unless it has both. -/
def quoteMark (text : List Char) : Char :=
  if text.contains '\'' && !text.contains '"' then '"' else '\''

/-- A text between quotation marks. -/
def quote (text : String) : String :=
  let mark := quoteMark text.toList
  String.ofList (mark :: text.toList.flatMap (quotedChar mark) ++ [mark])

/-- A list of texts, each quoted. -/
def quoteList (texts : List String) : String :=
  "[" ++ ", ".intercalate (texts.map quote) ++ "]"

/-- Pairs of texts, each quoted, as a table from the first to the second. -/
def quotePairs (pairs : List (String × String)) : String :=
  "\x7b" ++ ", ".intercalate (pairs.map fun (key, value) => quote key ++ ": " ++ quote value) ++
    "\x7d"

end Fleet.Text
