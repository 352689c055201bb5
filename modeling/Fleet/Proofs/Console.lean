import Fleet.Command
import Fleet.Console
import Fleet.Proofs.Duration
import Fleet.Proofs.Program
import Mathlib.Data.List.SplitBy

/-! The console shows every line of success: legible characters make no markup of their own, each of them
takes one place, and a line of them can be cut anywhere. -/

namespace Fleet

/-- Whether a character is a printable one of ASCII that neither a tag nor the code of an emoji has use for. -/
def isLegible (c : Char) : Bool :=
  32 ≤ c.toNat && c.toNat ≤ 126 && !(['[', '\\', ':'].contains c)

/-- A text of legible characters. -/
def Legible (text : List Char) : Prop := ∀ c ∈ text, isLegible c = true

/-- Legibility is decided character by character. -/
instance (text : List Char) : Decidable (Legible text) :=
  decidable_of_iff (text.all isLegible = true) List.all_eq_true

/-- A legible character is none that is not legible. -/
theorem ne_of_isLegible {c other : Char} (legible : isLegible c = true)
    (illegible : isLegible other = false) : c ≠ other := by
  rintro rfl
  rw [legible] at illegible
  cases illegible

/-- A legible character takes one place. -/
theorem charCells_of_isLegible {c : Char} (legible : isLegible c = true) : Text.charCells c = 1 := by
  -- There are few enough legible characters to try each of them.
  have all : ∀ n < 127, isLegible (Char.ofNat n) = true → Text.charCells (Char.ofNat n) = 1 := by
    decide +kernel
  have bound : c.toNat < 127 := by
    simp only [isLegible, Bool.and_eq_true, decide_eq_true_eq] at legible
    omega
  have same : Char.ofNat c.toNat = c := Char.ofNat_toNat c
  rw [← same] at legible ⊢
  exact all c.toNat bound legible

namespace Legible

variable {text more : List Char}

/-- A part of a legible text is legible. -/
theorem subset (legible : Legible text) (among : more ⊆ text) : Legible more :=
  fun c member => legible c (among member)

/-- Two legible texts make one. -/
theorem append (legible : Legible text) (further : Legible more) : Legible (text ++ more) := by
  -- Each character of the whole is one of the first or one of the further.
  intro c member
  rcases List.mem_append.mp member with first | second
  · exact legible c first
  · exact further c second

/-- The first character of a legible text is legible, and so are the others. -/
theorem of_cons {c : Char} (legible : Legible (c :: text)) : isLegible c = true ∧ Legible text :=
  List.forall_mem_cons.mp legible

/-- A number is written in legible digits. -/
theorem number (n : Nat) : Legible (toString n).toList := by
  intro c member
  -- The digits of a number are those that it has to base ten, so there are ten cases.
  rw [show (toString n).toList = Nat.toDigits 10 n from Nat.toList_repr] at member
  obtain ⟨digit, small, rfl⟩ := Text.mem_toDigits member
  match digit, small with
  | 0, _ | 1, _ | 2, _ | 3, _ | 4, _ | 5, _ | 6, _ | 7, _ | 8, _ | 9, _ => rfl

/-- A whole number is written in legible digits, perhaps after a sign. -/
theorem integer (n : Int) : Legible (toString n).toList := by
  cases n with
  | ofNat n => exact number n
  | negSucc n =>
    -- A negative number has its sign before the digits of a natural one.
    have sign : Legible "-".toList := by decide
    have written : (toString (Int.negSucc n)).toList = "-".toList ++ (toString (n + 1)).toList := by
      rw [← String.toList_append]
      rfl
    rw [written]
    exact sign.append (number (n + 1))

/-- A length of time is written legibly. -/
theorem duration (d : Duration) : Legible d.text.toList := by
  -- Three whole numbers are written, each with a letter after it.
  have unit (name : String) (known : name ∈ ["h", "m", "s"]) : Legible name.toList := by
    simp only [List.mem_cons, List.not_mem_nil, or_false] at known
    rcases known with rfl | rfl | rfl <;> decide
  simp only [Duration.text, String.toList_append]
  exact (((((integer _).append (unit "h" (by simp))).append (integer _)).append
    (unit "m" (by simp))).append (integer _)).append (unit "s" (by simp))

end Legible

namespace Text

variable {text : List Char}

/-- Legible characters take as many places as there are. -/
theorem cells_of_legible (legible : Legible text) : cells text = text.length := by
  -- Nothing is joined or widened, whatever the last character was.
  have after (last : Option Char) : cellsAfter last false text = text.length := by
    induction text generalizing last with
    | nil => rfl
    | cons c rest ih =>
      obtain ⟨first, others⟩ := legible.of_cons
      have joins : c ≠ joiner := ne_of_isLegible first (by decide)
      have colours : c ≠ colourMark := ne_of_isLegible first (by decide)
      simp [cellsAfter, joins, colours, charCells_of_isLegible first, ih others, Nat.add_comm]
  exact after none

/-- Every legible character is a cluster of its own. -/
theorem clusters_of_legible (legible : Legible text) :
    clusters text = text.map fun c => ⟨[c], 1⟩ := by
  -- A character that takes a place ends the cluster before it.
  have after {text : List Char} (legible : Legible text) (begun : Cluster) (last : Option Char) :
      clustersAfter begun last false text = begun :: text.map fun c => ⟨[c], 1⟩ := by
    induction text generalizing begun last with
    | nil => rfl
    | cons c rest ih =>
      obtain ⟨first, others⟩ := legible.of_cons
      have joins : c ≠ joiner := ne_of_isLegible first (by decide)
      have colours : c ≠ colourMark := ne_of_isLegible first (by decide)
      simp [clustersAfter, joins, colours, charCells_of_isLegible first, ih others]
  cases text with
  -- The first character is never joined to one before, so the cluster that is begun with it is its own.
  | nil => rfl
  | cons c rest =>
    obtain ⟨first, others⟩ := legible.of_cons
    rw [clusters, after others, charCells_of_isLegible first, List.map_cons]

/-- Clusters of one character in one place fill every width that they reach. -/
theorem fill_of_singles {width : Nat} (enough : width ≤ text.length) :
    fill width (text.map fun c => ⟨[c], 1⟩) = .ok (text.take width) := by
  -- Each cluster uses up one place of the width, so that both come to an end together.
  induction text generalizing width with
  | nil =>
    obtain rfl := Nat.le_zero.mp enough
    rfl
  | cons c rest ih =>
    cases width with
    | zero => rfl
    | succ width =>
      rw [List.map_cons, fill, if_pos (by simp), Nat.add_sub_cancel, ih (by simpa using enough)]
      · rfl
      · simp

/-- A legible text is cut off after as many characters as there are places. -/
theorem fit_of_legible (legible : Legible text) (width : Nat) :
    fit width text = .ok (text.take width) := by
  rw [fit, cells_of_legible legible]
  split
  · next fits => rw [List.take_of_length_le fits]
  · next short =>
    rw [clusters_of_legible legible, if_neg, fill_of_singles (by omega)]
    -- There is a character, and it takes a place.
    cases text with
    | nil => simp at short
    | cons c rest => simp

end Text

namespace Markup

variable {text : List Char}

/-- No tag begins with a legible character. -/
theorem tagAt?_of_isLegible {c : Char} (legible : isLegible c = true) (rest : List Char) :
    tagAt? (c :: rest) = none := by
  have escapes : c ≠ '\\' := ne_of_isLegible legible (by decide)
  have opens : c ≠ '[' := ne_of_isLegible legible (by decide)
  simp [tagAt?, escapes, opens]

/-- A tag that nothing stands before is told as what stands between its brackets. -/
theorem tagAt?_tag {first : Char} {more : List Char} (begins : beginsTag first = true)
    (closed : more.all (fun c => c != '[' && c != ']') = true) (rest : List Char) :
    tagAt? ('[' :: first :: more ++ ']' :: rest) = some (0, first :: more) := by
  -- What is taken while there is no bracket ends at the one that closes the tag.
  have inside : (more ++ ']' :: rest).takeWhile (fun c => c != '[' && c != ']') = more := by
    rw [List.takeWhile_append_of_pos (List.all_eq_true.mp closed)]
    simp
  simp [tagAt?, begins, inside]

/-- Characters that are left out are only counted. -/
theorem piecesAfter_drop (position : Nat) (begun left rest : List Char) :
    piecesAfter position begun left.length (left ++ rest) =
      piecesAfter (position + left.length) begun 0 rest := by
  -- Each character that is left out takes one off the count and moves the position one place on.
  induction left generalizing position with
  | nil => rfl
  | cons c others ih =>
    rw [List.length_cons, List.cons_append, piecesAfter, ih]
    congr 1
    omega

/-- A tag is a piece by itself, and ends the text before it. -/
theorem piecesAfter_tag (position : Nat) (begun : List Char) (first : Char) (more : List Char)
    (begins : beginsTag first = true) (closed : more.all (fun c => c != '[' && c != ']') = true)
    (rest : List Char) :
    piecesAfter position begun 0 ('[' :: first :: more ++ ']' :: rest) =
      textPiece begun ++ .tag (.ofBody (first :: more)) position ::
        piecesAfter (position + more.length + 3) [] 0 rest := by
  -- No bracket ends the body early, so the whole of it is one tag.
  have alone : tagPieces position 0 (first :: more) = [.tag (.ofBody (first :: more)) position] := rfl
  have found := tagAt?_tag begins closed rest
  -- The name and the bracket after it are left out of the text that follows.
  have passed : 0 + (first :: more).length + 1 = (first :: more ++ [']']).length := by simp
  have follows : first :: more ++ ']' :: rest = (first :: more ++ [']']) ++ rest := by simp
  rw [List.cons_append] at found ⊢
  rw [piecesAfter, found]
  simp only [alone]
  rw [passed, follows, piecesAfter_drop, List.append_assoc, List.singleton_append]
  congr 3
  simp only [List.length_append, List.length_cons, List.length_nil]
  omega

/-- Legible characters belong to the text that has been begun. -/
theorem piecesAfter_of_legible (legible : Legible text) (position : Nat) (begun rest : List Char) :
    piecesAfter position begun 0 (text ++ rest) =
      piecesAfter (position + text.length) (text.reverse ++ begun) 0 rest := by
  -- The text that has been begun stands last to first, so each character goes before it.
  induction text generalizing position begun with
  | nil => rfl
  | cons c others ih =>
    obtain ⟨first, later⟩ := legible.of_cons
    rw [List.cons_append, piecesAfter, tagAt?_of_isLegible first]
    simp only [ih later, List.length_cons, List.reverse_cons, List.append_assoc,
      List.singleton_append]
    congr 1
    omega

/-- Legible characters are shown as they are. -/
theorem shownText_of_legible (legible : Legible text) : shownText text = text := by
  -- Neither a backslash nor a colon is there to be replaced, and nothing is hidden.
  have plain {text : List Char} (legible : Legible text) : unescape text = text := by
    induction text with
    | nil => rfl
    | cons c rest ih =>
      obtain ⟨first, others⟩ := legible.of_cons
      have escapes : c ≠ '\\' := ne_of_isLegible first (by decide)
      rw [unescape, ih others]
      simp [escapes]
  have uncoded {text : List Char} (legible : Legible text) :
      Text.Emoji.replaceAfter 0 text = text := by
    -- A code stands between two colons, so without a colon there is nothing to replace.
    induction text with
    | nil => rfl
    | cons c rest ih =>
      obtain ⟨first, others⟩ := legible.of_cons
      have codes : c ≠ ':' := ne_of_isLegible first (by decide)
      rw [Text.Emoji.replaceAfter]
      simp [Text.Emoji.codeAt?, codes, ih others]
  rw [shownText, plain legible, Text.Emoji.replace, uncoded legible, List.filter_eq_self]
  -- None of the characters that are hidden is legible.
  intro c member
  have hidden : hiddenChars.all (fun other => !isLegible other) = true := by decide
  have shown (among : c ∈ hiddenChars) : False := by
    have illegible := List.all_eq_true.mp hidden c among
    rw [legible c member] at illegible
    cases illegible
  simpa using shown

/-- Text that has been begun is shown after what has been shown so far. -/
theorem foldlM_textPiece (shown : Shown) (begun : List Char) :
    (textPiece begun).foldlM Shown.add shown =
      .ok { shown with text := shown.text ++ shownText begun.reverse } := by
  cases begun with
  | nil => simp [textPiece, shownText, unescape, Text.Emoji.replace, Text.Emoji.replaceAfter]; rfl
  | cons c rest => rfl

/-- A tag without a slash opens the style that it names. -/
theorem Shown.turn_open (shown : Shown) (tag : Tag) {name : String} (position : Nat)
    (opens : tag.name.toList.head? ≠ some '/') (named : nameOf tag.name.toList = .ok name) :
    shown.turn tag position =
      .ok { shown with styles := ⟨name, tag.given, shown.text.length⟩ :: shown.styles } := by
  -- Only a slash at the head makes a tag a closing one.
  rw [turn]
  split
  · next closes => simp [closes] at opens
  · rw [named]
    rfl

/-- A tag with a slash closes the last style of its name that is open. -/
theorem Shown.turn_close (shown : Shown) (tag : Tag) {closed : List Char} {name : String}
    {opened : Opened} (position : Nat) (closes : tag.name.toList = '/' :: closed)
    (solid : closed.all Text.isBlank = false) (named : nameOf (Text.trimChars closed) = .ok name)
    (last : shown.styles.find? (fun opened => opened.name == name) = some opened) :
    shown.turn tag position = .ok (shown.close opened) := by
  rw [turn]
  split
  · next closing =>
    obtain rfl : _ = closed := (List.cons.inj (closing.symm.trans closes)).2
    -- What follows the slash is not blank, so it names the style that is to be closed.
    rw [if_neg (by simp [solid]), named]
    simp only [Bind.bind, Except.bind, last]
    rfl
  · next other => exact absurd closes (other closed)

/-- Legible text without marks is shown as it is. -/
theorem render_plain (legible : Legible text) : render text = .ok ⟨text, []⟩ := by
  -- The whole text is one piece, which nothing ends before the text does.
  have parts : pieces text = textPiece text.reverse := by
    have whole := piecesAfter_of_legible legible 0 [] []
    rwa [List.append_nil, List.append_nil, piecesAfter] at whole
  -- Adding that piece to nothing shows the text, and no style is left open.
  have written := foldlM_textPiece {} text.reverse
  rw [List.reverse_reverse, shownText_of_legible legible, ← parts] at written
  rw [render, written]
  change Except.ok (Shown.toStyled ⟨text, [], []⟩) = _
  simp [Shown.toStyled]

/-- Legible text between the marks for success is a piece between two tags. -/
theorem pieces_green (legible : Legible text) :
    pieces ("[green]".toList ++ text ++ "[/green]".toList) =
      .tag ⟨"green", none⟩ 0 :: (textPiece text.reverse ++
        [.tag ⟨"/green", none⟩ (7 + text.length)]) := by
  -- What stands between the brackets is read as a name without a slash, and as one with a slash.
  have opened : Tag.ofBody "green".toList = ⟨"green", none⟩ := by decide
  have closed : Tag.ofBody "/green".toList = ⟨"/green", none⟩ := by decide
  -- The first tag is left behind, the text is begun, and the second tag ends it.
  have opening := piecesAfter_tag 0 [] 'g' "reen".toList (by decide) (by decide)
    (text ++ "[/green]".toList)
  have between := piecesAfter_of_legible legible 7 [] "[/green]".toList
  rw [List.append_nil] at between
  have closing := piecesAfter_tag (7 + text.length) text.reverse '/' "green".toList (by decide)
    (by decide) []
  rw [← opened, ← closed]
  exact opening.trans (congrArg (_ :: ·) (between.trans closing))

/-- Legible text between the marks for success is shown in that colour, and as it is. -/
theorem render_green (legible : Legible text) :
    render ("[green]".toList ++ text ++ "[/green]".toList) =
      .ok ⟨text, [⟨0, text.length, "green"⟩]⟩ := by
  -- The three pieces are added in turn: the first one opens the style at the beginning.
  have opened : Shown.turn {} ⟨"green", none⟩ 0 = .ok ⟨[], [], [⟨"green", none, 0⟩]⟩ :=
    Shown.turn_open {} ⟨"green", none⟩ 0 (by decide) (by decide +kernel)
  -- The second one shows the text.
  have written := foldlM_textPiece ⟨[], [], [⟨"green", none, 0⟩]⟩ text.reverse
  rw [List.reverse_reverse, shownText_of_legible legible] at written
  -- The third one closes the style where the text ends, and the span reaches over all of it.
  have closed : Shown.turn ⟨text, [], [⟨"green", none, 0⟩]⟩ ⟨"/green", none⟩ (7 + text.length) =
      .ok ⟨text, [⟨0, text.length, "green"⟩], []⟩ := by
    have name : nameOf (Text.trimChars "green".toList) = .ok "green" := by decide +kernel
    rw [Shown.turn_close ⟨text, [], [⟨"green", none, 0⟩]⟩ ⟨"/green", none⟩ (7 + text.length) rfl
      (by decide) name rfl]
    simp [Shown.close, Opened.span, Opened.style]
  -- One piece after the other leaves the text with a single span, and no style open.
  have folded : (pieces ("[green]".toList ++ text ++ "[/green]".toList)).foldlM Shown.add {} =
      .ok ⟨text, [⟨0, text.length, "green"⟩], []⟩ := by
    simp only [pieces_green legible, List.foldlM_cons, List.foldlM_append, List.foldlM_nil, Shown.add,
      opened, written, closed, Bind.bind, Except.bind, Pure.pure, Except.pure, List.nil_append]
  rw [render, folded]
  change Except.ok (Shown.toStyled ⟨text, [⟨0, text.length, "green"⟩], []⟩) = _
  simp [Shown.toStyled]

/-- A styled text that is legible, in the colour of success or highlighted or neither. -/
structure Styled.Clear (styled : Styled) : Prop where
  text : Legible styled.text
  styles : ∀ span ∈ styled.spans, span.style = "" ∨ span.style = "green"

namespace Styled.Clear

variable {styled : Styled}

/-- Highlights have no style of their own. -/
theorem highlight (clear : styled.Clear) : styled.highlight.Clear := by
  -- A span of the whole is one that a highlight found, or one that was there.
  refine ⟨clear.text, fun span member => ?_⟩
  rcases List.mem_append.mp member with found | given
  · simp only [Highlight.spans, List.mem_flatMap, List.mem_map] at found
    obtain ⟨_, _, _, _, rfl⟩ := found
    exact .inl rfl
  · exact clear.styles span given

/-- What is left of a span has its style. -/
theorem styles_filterMap {spans : List Span} {change : Span → Option Span}
    (styles : ∀ span ∈ spans, span.style = "" ∨ span.style = "green")
    (same : ∀ span left, change span = some left → left.style = span.style) :
    ∀ left ∈ spans.filterMap change, left.style = "" ∨ left.style = "green" := by
  intro left member
  -- What is left of a span was left of some span that was clear.
  obtain ⟨span, among, changed⟩ := List.mem_filterMap.mp member
  rw [same span left changed]
  exact styles span among

/-- A stretch of a clear text is clear. -/
theorem slice (clear : styled.Clear) (stretch : Nat × Nat) : (styled.slice stretch).Clear where
  text := clear.text.subset fun _ member => List.mem_of_mem_drop (List.mem_of_mem_take member)
  styles := by
    -- A span that reaches into the stretch is cut to it, and any other is dropped.
    refine styles_filterMap clear.styles fun span left changed => ?_
    rw [Span.within?] at changed
    split at changed <;> cases changed
    rfl

/-- The first characters of a clear text are clear. -/
theorem take (clear : styled.Clear) (length : Nat) : (styled.take length).Clear := by
  rw [Styled.take]
  split
  · -- A text that is short enough stays whole.
    exact clear
  · -- A span that begins within the length is cut there, and any other is dropped.
    refine ⟨clear.text.subset (List.take_subset _ _), ?_⟩
    refine styles_filterMap clear.styles fun span left changed => ?_
    rw [Span.take?] at changed
    split at changed <;> cases changed
    rfl

/-- A clear text is divided into clear parts. -/
theorem divide (clear : styled.Clear) (places : List Nat) :
    ∀ part ∈ styled.divide places, part.Clear := by
  rw [Styled.divide]
  split
  · -- Without places to divide at, the text is its only part.
    simpa using clear
  · -- Every part is a stretch of the text.
    intro part member
    obtain ⟨stretch, _, rfl⟩ := List.mem_map.mp member
    exact clear.slice stretch

/-- The lines of a clear text are clear. -/
theorem lines (clear : styled.Clear) : ∀ line ∈ styled.lines, line.Clear := by
  rw [Styled.lines]
  split
  · -- Without a line break the text is its only line.
    simpa using clear
  · -- Every line is a stretch of the text.
    intro part member
    obtain ⟨stretch, _, rfl⟩ := List.mem_map.mp member
    exact clear.slice stretch

/-- A clear text has no tabulators. -/
theorem expandTabs (clear : styled.Clear) : styled.expandTabs = styled := by
  -- A tabulator is not legible.
  rw [Styled.expandTabs, if_neg]
  intro tabbed
  exact ne_of_isLegible (clear.text _ (List.contains_iff_mem.mp tabbed)) (by decide) rfl

/-- A clear line can be cut off, and what is left of it is clear. -/
theorem trim (clear : styled.Clear) (width : Nat) :
    ∃ left, styled.trim width = .ok left ∧ left.Clear := by
  -- The blanks that are lost at the end leave a clear line, which is cut between its characters.
  have shorter := clear.take (styled.text.length - Text.excessBlanks width styled.text)
  rw [Styled.trim]
  dsimp only
  rw [Text.fit_of_legible shorter.text]
  exact ⟨_, rfl, shorter.text.subset (List.take_subset _ _), (shorter.take _).styles⟩

/-- A clear text is laid out in clear lines. -/
theorem layOut (clear : styled.Clear) (width : Nat) :
    ∃ lines, styled.layOut width = .ok lines ∧ ∀ line ∈ lines, line.Clear := by
  -- What is to be trimmed are parts of lines, and they are clear.
  have parts : ∀ part ∈ styled.lines.flatMap fun line =>
      line.expandTabs.divide (Text.breakPlaces width line.expandTabs.text), part.Clear := by
    intro part member
    obtain ⟨line, among, member⟩ := List.mem_flatMap.mp member
    have clear := clear.lines line among
    rw [clear.expandTabs] at member
    exact clear.divide _ part member
  obtain ⟨lines, trimmed⟩ := exists_mapM_eq_ok_iff.mpr fun part member =>
    let ⟨left, cut, _⟩ := (parts part member).trim width
    ⟨left, cut⟩
  refine ⟨lines, trimmed, fun line member => ?_⟩
  -- Every line is what is left of a part.
  obtain ⟨part, among, cut⟩ := exists_of_mem_forall₂ (mapM_eq_ok_iff.mp trimmed).flip member
  obtain ⟨left, same, clear⟩ := (parts part among).trim width
  rw [cut] at same
  cases same
  exact clear

/-- Nothing is wrong with the styles of a clear text. -/
theorem checkSpans (clear : styled.Clear) : checkSpans styled = .ok () := by
  -- Only two styles occur.
  have plain : checkStyle "" = .ok () := by decide +kernel
  have green : checkStyle "green" = .ok () := by decide +kernel
  refine forM_eq_ok_iff.mpr fun span member => ?_
  rcases clear.styles span member with same | same
  · rw [same, plain]
    rfl
  · rw [same, green]
    rfl

/-- Legible segments can be cropped anywhere. -/
theorem cropSegments {segments : List (List Char)} (legible : ∀ segment ∈ segments, Legible segment)
    (width : Nat) : ∃ shown, Styled.cropSegments width segments = .ok shown := by
  -- The segment that reaches the width is cut off there, and those before it stay whole.
  induction segments generalizing width with
  | nil => exact ⟨_, rfl⟩
  | cons segment rest ih =>
    obtain ⟨first, others⟩ := List.forall_mem_cons.mp legible
    rw [Styled.cropSegments]
    split
    · -- The segment stays whole, and the places it leaves are for the others.
      obtain ⟨shown, cropped⟩ := ih others (width - Text.cells segment)
      rw [cropped]
      exact ⟨_, rfl⟩
    · -- The segment reaches the width, and legible text can be cut anywhere.
      exact ⟨_, Text.fit_of_legible first width⟩

/-- All of a clear line can be seen, or as much as fits. -/
theorem seen (clear : styled.Clear) (width : Nat) : ∃ shown, styled.seen width = .ok shown := by
  have legible : ∀ segment ∈ styled.segments, Legible segment := by
    intro segment member c within
    simp only [segments, List.mem_map] at member
    obtain ⟨placed, among, rfl⟩ := member
    obtain ⟨⟨c, place⟩, held, rfl⟩ := List.mem_map.mp within
    -- The segments hold nothing but the characters of the line.
    have placed : (c, place) ∈ styled.text.zipIdx := by
      have whole := List.mem_flatten.mpr ⟨_, among, held⟩
      rwa [List.flatten_splitBy] at whole
    exact clear.text c (List.fst_mem_of_mem_zipIdx placed)
  rw [Styled.seen]
  split
  · -- A line that fits is seen as a whole.
    exact ⟨_, rfl⟩
  · -- A line that does not fit is cropped segment by segment.
    exact cropSegments legible width

end Styled.Clear

/-- Markup that shows a clear text can be told in lines within every width. -/
theorem plainLines_of_clear {markup : List Char} {styled : Styled} (renders : render markup = .ok styled)
    (clear : styled.Clear) (width : Nat) : ∃ lines, plainLines width markup = .ok lines := by
  -- The highlights leave the text clear, so nothing fails on the way to its lines.
  obtain ⟨lines, laidOut, each⟩ := clear.highlight.layOut width
  -- Every span of the lines has a style that there is.
  have checked : lines.forM checkSpans = .ok () :=
    forM_eq_ok_iff.mpr fun line member => (each line member).checkSpans
  -- Every line can be seen, so all of them can.
  obtain ⟨shown, seen⟩ : ∃ shown, lines.mapM (fun line =>
      (Styled.seen width line).mapError Flaw.cut) = .ok shown := by
    refine exists_mapM_eq_ok_iff.mpr fun line member => ?_
    obtain ⟨shown, seen⟩ := (each line member).seen width
    exact ⟨shown, by rw [seen]; rfl⟩
  refine ⟨shown, ?_⟩
  rw [plainLines, renders]
  simp only [Bind.bind, Except.bind, laidOut, Except.mapError, checked]
  exact seen

end Markup

namespace Report

/-- The console shows every legible line in no colour. -/
theorem shows_plain {text : String} (legible : Legible text.toList) :
    ∃ shown, (line (.plain text)).plainText = .ok shown := by
  -- Without marks there are no spans whose styles might be unknown.
  have clear : Markup.Styled.Clear ⟨text.toList, []⟩ := ⟨legible, fun _ => nofun⟩
  obtain ⟨lines, told⟩ :=
    Markup.plainLines_of_clear (Markup.render_plain legible) clear consoleWidth
  have marked : (Line.plain text).marked = text := rfl
  exact ⟨_, by rw [plainText, Line.laidOut, marked, told]; rfl⟩

/-- The console shows every legible line of success. -/
theorem shows_success {text : String} (legible : Legible text.toList) :
    ∃ shown, (Command.success text).plainText = .ok shown := by
  -- The only span has the colour of success, which is one of the two that are known.
  have clear : Markup.Styled.Clear ⟨text.toList, [⟨0, text.toList.length, "green"⟩]⟩ :=
    ⟨legible, fun span member => .inr (by rw [List.mem_singleton.mp member])⟩
  obtain ⟨lines, told⟩ :=
    Markup.plainLines_of_clear (Markup.render_green legible) clear consoleWidth
  -- The marks stand around the text as they would be written by hand.
  have marked : (Line.marked ⟨some "green", text⟩).toList =
      "[green]".toList ++ text.toList ++ "[/green]".toList := by
    simp only [Line.marked, toString, String.toList_append, List.append_assoc]
    rfl
  exact ⟨_, by rw [Command.success, plainText, Line.laidOut, marked, told]; rfl⟩

/-- The console shows how many virtual machines something was done with. -/
theorem shows_count {before after : String} (first : Legible before.toList)
    (last : Legible after.toList) (count : Nat) :
    ∃ shown, (Command.success (before ++ toString count ++ after)).plainText = .ok shown := by
  refine shows_success ?_
  rw [String.toList_append, String.toList_append]
  exact (first.append (Legible.number count)).append last

end Report

end Fleet
