import Fleet.Text.Lines

/-! Styled texts: texts with styles on stretches of them, and how they are laid out in lines. The
styles are not seen, but no cluster of characters reaches over the ends of a stretch. -/

namespace Fleet.Markup

/-- A stretch of a text and the words for its style: the counts of characters before it and up to
its end. -/
structure Span where
  first : Nat
  after : Nat
  style : String
deriving DecidableEq

namespace Span

/-- The span further to the right. -/
def shift (span : Span) (count : Nat) : Span :=
  { span with first := span.first + count, after := span.after + count }

/-- What is left of the span in a stretch of the text, counted from there, if anything is. -/
def within? (first after : Nat) (span : Span) : Option Span :=
  let left := max first span.first
  let right := min after span.after
  if left < right then some ⟨left - first, right - first, span.style⟩ else none

/-- What is left of the span in a text of some length. A span that begins there is left, even if it
is empty. -/
def take? (length : Nat) (span : Span) : Option Span :=
  if span.first < length then some { span with after := min length span.after } else none

end Span

/-- A text with styles on stretches of it. -/
structure Styled where
  text : List Char := []
  spans : List Span := []
deriving DecidableEq

namespace Styled

/-- A stretch of the text. -/
def slice (styled : Styled) (stretch : Nat × Nat) : Styled :=
  let (first, after) := stretch
  ⟨(styled.text.drop first).take (after - first), styled.spans.filterMap (Span.within? first after)⟩

/-- The text divided at some places. -/
def divide (styled : Styled) (places : List Nat) : List Styled :=
  if places.isEmpty then [styled]
  else ((0 :: places).zip (places ++ [styled.text.length])).map styled.slice

/-- The stretches that line breaks divide. -/
def lines (styled : Styled) : List Styled :=
  match Text.lineStretches styled.text with
  | [_] => [styled]
  | stretches => stretches.map styled.slice

/-- One text after another. -/
def append (styled next : Styled) : Styled :=
  ⟨styled.text ++ next.text, styled.spans ++ next.spans.map (Span.shift · styled.text.length)⟩

/-- The text with a number of blanks after it, in the styles that it ends in. -/
def extend (styled : Styled) (count : Nat) : Styled :=
  ⟨styled.text ++ List.replicate count ' ', styled.spans.map fun span =>
    if styled.text.length ≤ span.after then { span with after := span.after + count } else span⟩

/-- The places from one tabulator stop to the next. -/
def tabWidth : Nat := 8

/-- Parts, each of which a tabulator ends except the last, one after another from some place on. A
tabulator is a blank, and further ones up to the next stop. -/
def joinTabbed (place : Nat) : List Styled → Styled
  | [] => {}
  | part :: rest =>
    if part.text.getLast? == some '\t' then
      let part := { part with text := part.text.dropLast ++ [' '] }
      let reached := place + Text.cells part.text
      let further := (tabWidth - reached % tabWidth) % tabWidth
      (part.extend further).append (joinTabbed (reached + further) rest)
    else part.append (joinTabbed (place + Text.cells part.text) rest)

/-- A line with blanks in place of its tabulators. -/
def expandTabs (line : Styled) : Styled :=
  if line.text.contains '\t' then
    let tabs := line.text.zipIdx.filter fun (c, _) => c == '\t'
    joinTabbed 0 (line.divide (tabs.map fun (_, place) => place + 1))
  else line

/-- The first characters of the text, as many as a number tells. -/
def take (styled : Styled) (length : Nat) : Styled :=
  if styled.text.length ≤ length then styled
  else ⟨styled.text.take length, styled.spans.filterMap (Span.take? length)⟩

/-- A line cut off at a width, and before that the blanks at its end. -/
def trim (width : Nat) (line : Styled) : Except Text.CutFlaw Styled := do
  let line := line.take (line.text.length - Text.excessBlanks width line.text)
  let fitting ← Text.fit width line.text
  return { line.take fitting.length with text := fitting }

/-- The text laid out in lines within a width. -/
def layOut (width : Nat) (styled : Styled) : Except Text.CutFlaw (List Styled) :=
  let lines := styled.lines.flatMap fun line =>
    let line := line.expandTabs
    line.divide (Text.breakPlaces width line.text)
  lines.mapM (trim width)

/-- The segments of a line, which the ends of its spans divide. -/
def segments (line : Styled) : List (List Char) :=
  let ends := line.spans.flatMap fun span => [span.first, span.after]
  (line.text.zipIdx.splitBy fun _ (_, place) => !ends.contains place).map fun segment =>
    segment.map Prod.fst

/-- As much of some segments as fits a width. The segment that reaches it is the last. -/
def cropSegments (width : Nat) : List (List Char) → Except Text.CutFlaw (List Char)
  | [] => .ok []
  | segment :: rest =>
    let used := Text.cells segment
    if used < width then do
      let cropped ← cropSegments (width - used) rest
      return segment ++ cropped
    else Text.fit width segment

/-- What is seen of a line within a width. All of it is, unless its segments take more places one by
one than together. -/
def seen (width : Nat) (line : Styled) : Except Text.CutFlaw (List Char) :=
  let segments := line.segments
  if (segments.map Text.cells).foldl (· + ·) 0 ≤ width then .ok line.text
  else cropSegments width segments

end Styled

end Fleet.Markup
