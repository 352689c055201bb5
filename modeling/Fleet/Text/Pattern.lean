import Fleet.Text.Word

/-! Patterns: what stretches of a text look like. Of all ways to match a pattern the first one counts,
and parts of what it matches can be marked. -/

namespace Fleet.Text

/-- A character of a text, and whether it belongs to a word. -/
structure Letter where
  char : Char
  isWord : Bool
deriving DecidableEq

/-- The letter of a character. -/
def Letter.ofChar (c : Char) : Letter := ⟨c, isWordChar c⟩

/-- A place in a text: the count of letters before it, the last of them, and those that follow it.
The stretches marked on the way there come with it, the last one first. -/
structure Cursor where
  place : Nat
  before : Option Letter
  rest : List Letter
  marked : List (Nat × Nat) := []
deriving DecidableEq

namespace Cursor

/-- The next place, if the letter between fits. -/
def step? (fits : Letter → Bool) (cursor : Cursor) : Option Cursor :=
  match cursor.rest with
  | [] => none
  | letter :: rest =>
    if fits letter then
      some { cursor with place := cursor.place + 1, before := some letter, rest := rest }
    else none

/-- The place after all letters that fit, of those that follow the cursor. -/
def pass (fits : Letter → Bool) (cursor : Cursor) : List Letter → Cursor
  | [] => { cursor with rest := [] }
  | letter :: rest =>
    if fits letter then
      { cursor with place := cursor.place + 1, before := some letter }.pass fits rest
    else { cursor with rest := letter :: rest }

/-- Marks the stretch from an earlier place on, unless it is empty. -/
def mark (first : Nat) (cursor : Cursor) : Cursor :=
  if first < cursor.place then { cursor with marked := (first, cursor.place) :: cursor.marked }
  else cursor

end Cursor

/-- What a stretch of a text looks like. -/
inductive Pattern where
  /-- Nothing at all. -/
  | empty
  /-- One letter. -/
  | one (fits : Letter → Bool)
  /-- All letters up to one that does not fit. -/
  | all (fits : Letter → Bool)
  /-- Some letters, as many as possible. -/
  | most (fits : Letter → Bool)
  /-- Some letters, as few as possible. -/
  | least (fits : Letter → Bool)
  /-- A place between the letter before it and the one after it. -/
  | seam (fits : Option Letter → Option Letter → Bool)
  /-- One pattern and then another. -/
  | both (first next : Pattern)
  /-- One pattern, or else another. -/
  | either (first other : Pattern)
  /-- A pattern again and again, as often as possible. -/
  | rounds (once : Pattern)
  /-- A pattern whose stretch is marked. -/
  | marked (inner : Pattern)

namespace Pattern

/-- How a match goes on from the place that it has reached. -/
abbrev Onward := Cursor → Option Cursor

/-- The places that fitting letters lead to, of those that follow the cursor. The last place comes
first, and after those that have been passed already. -/
def stops (fits : Letter → Bool) (cursor : Cursor) (passed : List Cursor) :
    List Letter → List Cursor
  | [] => cursor :: passed
  | _ :: rest =>
    match cursor.step? fits with
    | some next => stops fits next (cursor :: passed) rest
    | none => cursor :: passed

/-- Goes on from the first place that allows it, after as few of the letters that follow the cursor
as possible. -/
def goSoon (fits : Letter → Bool) (go : Onward) (cursor : Cursor) : List Letter → Option Cursor
  | [] => go cursor
  | _ :: rest =>
    match go cursor, cursor.step? fits with
    | some reached, _ => some reached
    | none, some next => goSoon fits go next rest
    | none, none => none

/-- Goes on after as many rounds as possible. Each one takes a letter at least, of those that
follow. -/
def goRounds (once : Onward → Onward) (go : Onward) : List Letter → Onward
  | [], cursor => go cursor
  | _ :: rest, cursor => once (goRounds once go rest) cursor <|> go cursor

/-- Goes on after the first way to match the pattern that allows it. -/
def meet : Pattern → Onward → Onward
  | .empty, go, cursor => go cursor
  | .one fits, go, cursor => (cursor.step? fits).bind go
  | .all fits, go, cursor => go (cursor.pass fits cursor.rest)
  | .most fits, go, cursor => (stops fits cursor [] cursor.rest).findSome? go
  | .least fits, go, cursor => goSoon fits go cursor cursor.rest
  | .seam fits, go, cursor => if fits cursor.before cursor.rest.head? then go cursor else none
  | .both first next, go, cursor => first.meet (next.meet go) cursor
  | .either first other, go, cursor => first.meet go cursor <|> other.meet go cursor
  | .rounds once, go, cursor => goRounds once.meet go cursor.rest cursor
  | .marked inner, go, cursor => inner.meet (fun reached => go (reached.mark cursor.place)) cursor

/-- Patterns one after another. -/
def inOrder (patterns : List Pattern) : Pattern := patterns.foldr both empty

/-- The first of some patterns that matches. -/
def anyOf : List Pattern → Pattern
  | [] => .seam fun _ _ => false
  | [last] => last
  | first :: rest => .either first (anyOf rest)

/-- A pattern, or else nothing. -/
def optional (pattern : Pattern) : Pattern := .either pattern .empty

/-- A pattern some number of times. -/
def times (count : Nat) (pattern : Pattern) : Pattern := inOrder (List.replicate count pattern)

/-- A pattern as often as possible, but no more than some number of times. -/
def upTo : Nat → Pattern → Pattern
  | 0, _ => .empty
  | count + 1, pattern => optional (.both pattern (upTo count pattern))

/-- A pattern at least once, and no more than some number of times. -/
def onceUpTo (count : Nat) (pattern : Pattern) : Pattern :=
  .both pattern (upTo (count - 1) pattern)

/-- One of some characters. -/
def oneOf (chars : String) : Pattern := .one fun letter => chars.toList.contains letter.char

/-- A text itself. -/
def text (chars : String) : Pattern :=
  inOrder (chars.toList.map fun c => .one fun letter => letter.char == c)

/-- One letter, and all further ones up to one that does not fit. -/
def oneAndAll (fits : Letter → Bool) : Pattern := .both (.one fits) (.all fits)

/-- Where a word begins or ends. -/
def edge : Pattern :=
  .seam fun before next => before.any Letter.isWord != next.any Letter.isWord

/-- Where no word begins or ends. -/
def noEdge : Pattern :=
  .seam fun before next => before.any Letter.isWord == next.any Letter.isWord

/-- Where the letter before is none of a kind. -/
def notAfter (fits : Letter → Bool) : Pattern := .seam fun before _ => !before.any fits

/-- What is marked in the matches that follow a place and the letter before it, after a number of
letters that are left out. A match begins where the one before it has ended, or later. -/
def marksAfter (pattern : Pattern) (place : Nat) (before : Option Letter) :
    Nat → List Letter → List (Nat × Nat)
  | _, [] => []
  | further + 1, letter :: rest => pattern.marksAfter (place + 1) (some letter) further rest
  | 0, letter :: rest =>
    match pattern.meet some { place, before, rest := letter :: rest } with
    -- A match that takes nothing still uses up the letter it stands at.
    | some reached =>
      reached.marked ++
        pattern.marksAfter (place + 1) (some letter) (reached.place - place - 1) rest
    | none => pattern.marksAfter (place + 1) (some letter) 0 rest

/-- What is marked in the matches in a text. A stretch is told by the counts of letters before it and
up to its end. -/
def marks (pattern : Pattern) (letters : List Letter) : List (Nat × Nat) :=
  pattern.marksAfter 0 none 0 letters

end Pattern

end Fleet.Text
