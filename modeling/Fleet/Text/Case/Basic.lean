import Fleet.Text.Case.Tables
import Fleet.Text.Ranges

/-! Lower case: texts with small letters in place of capital ones. -/

namespace Fleet.Text

/-- The small letters for a character, which are the character itself unless it is a capital letter.
An i with a dot keeps the dot as a mark of its own. -/
def smallLetters (c : Char) : List Char :=
  let point := c.toNat
  let run := capitalRuns.find? fun (first, last, step, _) =>
    first ≤ point && point ≤ last && (point - first) % step == 0
  match run with
  | some (first, _, _, small) => [Char.ofNat (small + (point - first))]
  | none => if c == 'İ' then ['i', '\u0307'] else [c]

/-- Whether a text begins with a letter that has a case, apart from characters that do not part the
letters of a word. -/
def beginsCased (text : List Char) : Bool :=
  let beyond := text.dropWhile fun c => inRanges joiningRanges c.toNat
  beyond.head?.any fun c => inRanges casedRanges c.toNat

/-- The small sigma between the characters before it, last to first, and those after it. It has a
form of its own at the end of a word. -/
def smallSigma (before after : List Char) : Char :=
  if beginsCased before && !beginsCased after then 'ς' else 'σ'

/-- The rest of a text in lower case, after some characters, which stand last to first. -/
def lowerCaseAfter (before : List Char) : List Char → List Char
  | [] => []
  | c :: rest =>
    (if c == 'Σ' then [smallSigma before rest] else smallLetters c) ++
      lowerCaseAfter (c :: before) rest

/-- A text in lower case. -/
def lowerCase (text : String) : String :=
  String.ofList (lowerCaseAfter [] text.toList)

end Fleet.Text
