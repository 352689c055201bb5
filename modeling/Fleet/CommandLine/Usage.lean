import Fleet.Text.Blank

/-! Usages: lines that sum up what a program takes. A usage that is too long for one line is divided
into parts: a new line may begin with any of them. -/

namespace Fleet.CommandLine.Usage

/-- Whether a character opens a bracket. -/
def isOpening (c : Char) : Bool := c == '[' || c == '('

/-- Whether a character closes a bracket. -/
def isClosing (c : Char) : Bool := c == ']' || c == ')'

/-- A usage without the first space in every bracket. -/
def dropAfterOpening (opened : Bool) : List Char → List Char
  | [] => []
  | c :: rest =>
    if opened && c == ' ' then dropAfterOpening false rest
    else c :: dropAfterOpening (isOpening c) rest

/-- A usage without the last space in every bracket. -/
def dropBeforeClosing : List Char → List Char
  | [] => []
  | c :: rest =>
    if c == ' ' && rest.head?.any isClosing then dropBeforeClosing rest
    else c :: dropBeforeClosing rest

/-- A usage without brackets that hold nothing but spaces. What is held back stands last to first:
an opening bracket and the spaces after it. -/
def dropEmptyBrackets (held : List Char) : List Char → List Char
  | [] => held.reverse
  | c :: rest =>
    if isOpening c then held.reverse ++ dropEmptyBrackets [c] rest
    else if held.isEmpty then c :: dropEmptyBrackets [] rest
    else if isClosing c then dropEmptyBrackets [] rest
    else if c == ' ' then dropEmptyBrackets (c :: held) rest
    else held.reverse ++ c :: dropEmptyBrackets [] rest

/-- The number of characters before the last closing parenthesis that no bar precedes. -/
def lastClosing? (usage : List Char) : Option Nat :=
  let held := usage.takeWhile (· != '|')
  let after := held.reverse.takeWhile (· != ')')
  if after.length < held.length then some (held.length - after.length - 1) else none

/-- A usage without the parentheses that hold no choice, which bars would divide. Where such a
parenthesis is open, the number tells how many characters stand before its closing one, and they
stay as they are. -/
def dropParentheses (left : Option Nat) : List Char → List Char
  | [] => []
  | c :: rest =>
    match left with
    | some 0 => dropParentheses none rest
    | some (further + 1) => c :: dropParentheses (some further) rest
    | none =>
      let opened := if c == '(' then lastClosing? rest else none
      if opened.isSome then dropParentheses opened rest else c :: dropParentheses none rest

/-- A usage without the spaces at the ends of its brackets, without empty brackets, and without
parentheses that hold no choice. -/
def tidy (usage : List Char) : List Char :=
  dropParentheses none
    (dropEmptyBrackets [] (dropBeforeClosing (dropAfterOpening false usage)))

/-- Where in a part a character stands. -/
inductive Place where
  /-- At its start. -/
  | start
  /-- In a bracket, up to the character that closes it. -/
  | within (closing : Char)
  /-- Anywhere else: the part ends at the next blank. -/
  | loose
deriving DecidableEq

/-- Whether a bracket is closed right before a blank or the end, and on the same line. -/
def isClosedBy (closing : Char) : List Char → Bool
  | [] => false
  | c :: rest =>
    c != '\n' && (c == closing && rest.head?.all Text.isBlank || isClosedBy closing rest)

/-- Where in its part the character after an opening one stands. -/
def Place.afterOpening (closing : Char) (rest : List Char) : Place :=
  if isClosedBy closing rest then .within closing else .loose

/-- Whether the parts of a usage from some place on stand one space apart. -/
def dividesEvenlyFrom : Place → List Char → Bool
  | _, [] => true
  | .start, c :: rest =>
    match c with
    | '[' => dividesEvenlyFrom (.afterOpening ']' rest) rest
    | '(' => dividesEvenlyFrom (.afterOpening ')' rest) rest
    | _ => dividesEvenlyFrom .loose rest
  | .within closing, c :: rest =>
    -- A group ends at its closing mark, if nothing but a blank or the end follows.
    if c == closing && rest.head?.all Text.isBlank then dividesEvenlyFrom .loose rest
    else dividesEvenlyFrom (.within closing) rest
  | .loose, c :: rest =>
    if Text.isBlank c then
      c == ' ' && !rest.head?.any Text.isBlank && dividesEvenlyFrom .start rest
    else dividesEvenlyFrom .loose rest

/-- Whether the parts of a usage stand one space apart, so that nothing is lost when new lines begin
between them. -/
def dividesEvenly (usage : String) : Bool :=
  dividesEvenlyFrom .start (tidy usage.toList)

end Fleet.CommandLine.Usage
