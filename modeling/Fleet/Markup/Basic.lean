import Fleet.Markup.Highlight
import Fleet.Markup.Piece
import Fleet.Markup.Style
import Fleet.Markup.Styled
import Fleet.Text.Emoji.Basic

/-! Markup: texts with tags in brackets, which open and close styles, and with codes for emoji. -/

namespace Fleet.Markup

/-- Why markup cannot be shown. A position counts the characters before the tag. -/
inductive Flaw where
  /-- A tag closes a style that is not open. -/
  | notOpen (tag : Tag) (position : Nat)
  /-- A tag closes the last style, and none is open. -/
  | nothingOpen (position : Nat)
  /-- A shade of a style is no number. -/
  | number (flaw : Text.NumberFlaw)
  /-- A line cannot be cut off. -/
  | cut (flaw : Text.CutFlaw)
deriving DecidableEq

/-- What is wrong, in words. -/
def Flaw.message : Flaw → String
  | notOpen tag position =>
    s!"closing tag '{tag.written}' at position {position} doesn't match any open tag"
  | nothingOpen position => s!"closing tag '[/]' at position {position} has nothing to close"
  | number flaw => flaw.message
  | cut flaw => flaw.message

/-- A text whose brackets have lost the backslash before them. -/
def unescape : List Char → List Char
  | '\\' :: '[' :: rest => '[' :: unescape rest
  | c :: rest => c :: unescape rest
  | [] => []

/-- The characters that are never shown: the bell, the backspace, and the breaks other than the one
between lines. -/
def hiddenChars : List Char := ['\x07', '\x08', '\x0B', '\x0C', '\r']

/-- How a text without tags is shown. -/
def shownText (text : List Char) : List Char :=
  (Text.Emoji.replace (unescape text)).filter fun c => !hiddenChars.contains c

/-- A style that is open: its normal form, what its tag was given, and the place in the text where
it begins. -/
structure Opened where
  name : String
  given : Option String
  first : Nat
deriving DecidableEq

/-- The words for the style. A tag is also told what it was given, unless it names an action. -/
def Opened.style (opened : Opened) : String :=
  match opened.given with
  | some given => if opened.name.startsWith "@" then "" else s!"{opened.name} {given}"
  | none => opened.name

/-- The stretch that the style is for when it is closed at a place. -/
def Opened.span (opened : Opened) (place : Nat) : Span := ⟨opened.first, place, opened.style⟩

/-- Markup that has been shown so far: its text with the styles that are closed, the last one first,
and the styles that are open, the last one first. -/
structure Shown where
  text : List Char := []
  spans : List Span := []
  styles : List Opened := []
deriving DecidableEq

/-- The normal form of the name in a tag. -/
def nameOf (name : List Char) : Except Flaw String :=
  (normalForm name).mapError .number

namespace Shown

/-- Closes a style. -/
def close (shown : Shown) (opened : Opened) : Shown :=
  { shown with
    spans := opened.span shown.text.length :: shown.spans, styles := shown.styles.erase opened }

/-- Opens or closes a style. A tag that names no style closes the last one. -/
def turn (shown : Shown) (tag : Tag) (position : Nat) : Except Flaw Shown :=
  match tag.name.toList with
  | '/' :: closed =>
    if closed.all Text.isBlank then
      match shown.styles with
      | opened :: _ => .ok (shown.close opened)
      | [] => .error (.nothingOpen position)
    else do
      let name ← nameOf (Text.trimChars closed)
      match shown.styles.find? fun opened => opened.name == name with
      | some opened => return shown.close opened
      | none => throw (.notOpen tag position)
  | opened => do
    let name ← nameOf opened
    return { shown with styles := ⟨name, tag.given, shown.text.length⟩ :: shown.styles }

/-- Shows one more piece. -/
def add (shown : Shown) : Piece → Except Flaw Shown
  | .text text => .ok { shown with text := shown.text ++ shownText text }
  | .tag tag position => shown.turn tag position

/-- The text with all its styles, in order of where they begin. Those that are still open are closed
in the end, and of two that begin at one place the last to be closed comes first. -/
def toStyled (shown : Shown) : Styled :=
  let closed := shown.styles.foldl close shown
  ⟨closed.text, closed.spans.mergeSort fun a b => a.first ≤ b.first⟩

end Shown

/-- What markup shows. -/
def render (markup : List Char) : Except Flaw Styled := do
  let shown ← (pieces markup).foldlM Shown.add {}
  return shown.toStyled

/-- Looks at the styles of a text in turn. -/
def checkSpans (styled : Styled) : Except Flaw Unit :=
  styled.spans.forM fun span => (checkStyle span.style).mapError .number

/-- The lines of some markup within a width, where styles are not seen. -/
def plainLines (width : Nat) (markup : List Char) : Except Flaw (List (List Char)) := do
  let lines ← ((← render markup).highlight.layOut width).mapError .cut
  lines.forM checkSpans
  lines.mapM fun line => (line.seen width).mapError .cut

end Fleet.Markup
