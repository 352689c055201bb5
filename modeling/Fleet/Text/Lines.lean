import Fleet.Text.Blank
import Fleet.Text.Cells.Basic

/-! Lines: where a text is divided so that its lines fit a width, between words where they can. -/

namespace Fleet.Text

/-- The stretches of the rest of a text that line breaks divide, after the first character of the
one in hand and the place reached. A stretch is told by the counts of characters before it and up to
its end. -/
def lineStretchesAfter (first place : Nat) : List Char → List (Nat × Nat)
  | [] => [(first, place)]
  | c :: rest =>
    if c == '\n' then (first, place) :: lineStretchesAfter (place + 1) (place + 1) rest
    else lineStretchesAfter first (place + 1) rest

/-- The stretches of a text that line breaks divide. -/
def lineStretches (text : List Char) : List (Nat × Nat) := lineStretchesAfter 0 0 text

/-- The words of a line after one that has been begun, whose characters stand last to first. A word
keeps the blanks after it, and the first word also those before it. -/
def wordsAfter (begun : List Char) (solid ended : Bool) : List Char → List (List Char)
  | [] => if solid then [begun.reverse] else []
  | c :: rest =>
    if isBlank c then wordsAfter (c :: begun) solid solid rest
    else if ended then begun.reverse :: wordsAfter [c] true false rest
    else wordsAfter (c :: begun) true false rest

/-- The words of a line, with the blanks between them. -/
def words (line : List Char) : List (List Char) := wordsAfter [] false false line

/-- Where a line has been broken so far, last to first, and the places used since then. -/
structure Breaks where
  places : List Nat := []
  used : Nat := 0
deriving DecidableEq

namespace Breaks

/-- Breaks the line at a place, unless that is its beginning. -/
def breakAt (breaks : Breaks) (place : Nat) : Breaks :=
  if place == 0 then breaks else { breaks with places := place :: breaks.places }

/-- Puts the parts of a word, which begins at a place, each in a line of its own. -/
def addParts (breaks : Breaks) (place : Nat) : List (List Char) → Breaks
  | [] => breaks
  | [last] => { breaks.breakAt place with used := cells last }
  | part :: rest => (breaks.breakAt place).addParts (place + part.length) rest

/-- Adds a word that begins at a place: to the line in hand if it fits there, or else to a line of
its own, or to several when it is too long for one. Blanks at the end of a word need not fit. -/
def addWord (width : Nat) (breaks : Breaks) (place : Nat) (word : List Char) : Breaks :=
  let solid := cells (word.reverse.dropWhile isBlank).reverse
  if breaks.used + solid ≤ width then { breaks with used := breaks.used + cells word }
  else if solid ≤ width then { breaks.breakAt place with used := cells word }
  else breaks.addParts place (chop width word)

/-- Adds words, the first of which begins at a place. -/
def addWords (width : Nat) (breaks : Breaks) (place : Nat) : List (List Char) → Breaks
  | [] => breaks
  | word :: rest =>
    (breaks.addWord width place word).addWords width (place + word.length) rest

end Breaks

/-- Where a line is broken so that its parts fit a width. A line of blanks alone stays whole. -/
def breakPlaces (width : Nat) (line : List Char) : List Nat :=
  (({} : Breaks).addWords width 0 (words line)).places.reverse

/-- The number of blanks that a line loses at its end: no more than it has, nor than it has
characters beyond a width. -/
def excessBlanks (width : Nat) (line : List Char) : Nat :=
  min (line.reverse.takeWhile isBlank).length (line.length - width)

end Fleet.Text
