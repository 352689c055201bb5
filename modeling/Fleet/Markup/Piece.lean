import Fleet.Text.Assignment

/-! Pieces of markup: tags in brackets, and the texts between them. Backslashes before a bracket keep
it from beginning a tag. -/

namespace Fleet.Markup

/-- A tag: its name, which a slash begins if it closes a style, and what it is given. -/
structure Tag where
  name : String
  given : Option String
deriving DecidableEq

/-- The tag of what stands between brackets. -/
def Tag.ofBody (body : List Char) : Tag :=
  let (name, given) := Text.splitAtSign body
  ⟨String.ofList name, given.map String.ofList⟩

/-- The tag as it is written. -/
def Tag.written (tag : Tag) : String :=
  match tag.given with
  | some given => s!"[{tag.name}={given}]"
  | none => s!"[{tag.name}]"

/-- A piece of markup. -/
inductive Piece where
  /-- A text without tags. -/
  | text (text : List Char)
  /-- A tag and its position. -/
  | tag (tag : Tag) (position : Nat)
deriving DecidableEq

/-- Whether a character can be the first of a tag. -/
def beginsTag (c : Char) : Bool :=
  ('a' ≤ c && c ≤ 'z') || ['#', '/', '@'].contains c

/-- The tag that a text begins with, as what stands between its brackets, and the number of
backslashes before it. -/
def tagAt? (text : List Char) : Option (Nat × List Char) :=
  let slashes := (text.takeWhile (· == '\\')).length
  match text.drop slashes with
  | '[' :: first :: rest =>
    let more := rest.takeWhile fun c => c != '[' && c != ']'
    -- A tag ends at the first closing bracket, with no other bracket before it.
    if beginsTag first && (rest.drop more.length).head? = some ']' then
      some (slashes, first :: more)
    else none
  | _ => none

/-- The pieces that a tag with backslashes before it makes. Two backslashes stand for one, and an
odd one keeps the tag from being one. -/
def tagPieces (position slashes : Nat) (body : List Char) : List Piece :=
  let kept := slashes / 2
  (if kept == 0 then [] else [.text (List.replicate kept '\\')]) ++
    [if slashes % 2 == 1 then .text ('[' :: body ++ [']'])
      else .tag (.ofBody body) (position + slashes)]

/-- A piece of text, whose characters stand last to first, unless it is empty. -/
def textPiece (begun : List Char) : List Piece :=
  if begun.isEmpty then [] else [.text begun.reverse]

/-- The pieces of markup from a position on, after a number of characters that are left out and a
text that has been begun, whose characters stand last to first. -/
def piecesAfter (position : Nat) (begun : List Char) : Nat → List Char → List Piece
  | _, [] => textPiece begun
  | further + 1, _ :: rest => piecesAfter (position + 1) begun further rest
  | 0, c :: rest =>
    match tagAt? (c :: rest) with
    | none => piecesAfter (position + 1) (c :: begun) 0 rest
    | some (slashes, body) =>
      -- The letters of the tag are left out of the search for the next one.
      textPiece begun ++ tagPieces position slashes body ++
        piecesAfter (position + 1) [] (slashes + body.length + 1) rest

/-- The pieces of markup. -/
def pieces (markup : List Char) : List Piece := piecesAfter 0 [] 0 markup

end Fleet.Markup
