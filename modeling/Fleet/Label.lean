import Fleet.Text.Blank

/-! Labels: the names that every provider takes for a virtual machine. -/

namespace Fleet.Label

/-- The letters a to z. -/
def isLetter (c : Char) : Bool :=
  'a' ≤ c && c ≤ 'z'

/-- The characters inside a label. -/
def isInner (c : Char) : Bool :=
  isLetter c || ('0' ≤ c && c ≤ '9') || c == '-'

/-- A label begins with a letter, goes on with letters, digits and hyphens, and does not end with
a hyphen. -/
def isLabel : List Char → Bool
  | [] => false
  | first :: rest => isLetter first && rest.all isInner && rest.getLast? != some '-'

/-- Whether a name is taken for a label. One line break that closes the name is not looked at. -/
def accepts (name : String) : Bool :=
  isLabel (Text.dropFinalBreak name.toList)

end Fleet.Label
