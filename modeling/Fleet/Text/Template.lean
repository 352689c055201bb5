import Fleet.Text.Quoted

/-! Templates: texts in which places that begin with a percent sign stand for values. A place may
name its value between parentheses, and ends with a letter for the form that the value takes. A
place without a name stands for the record of all values. -/

namespace Fleet.Text.Template

/-- What is known of a value that a place may stand for. -/
inductive Filler where
  /-- The record of all values. -/
  | record
  /-- A text. -/
  | text (value : String)
  /-- A list of texts. -/
  | texts
  /-- No value. -/
  | nothing
  /-- Yes or no, which also count as numbers. -/
  | truth
  /-- The group that an option belongs to. -/
  | group
deriving DecidableEq

/-- The word for the kind of value. -/
def Filler.kind : Filler → String
  | record => "dict"
  | text _ => "str"
  | texts => "list"
  | nothing => "NoneType"
  | truth => "bool"
  | group => "_ArgumentGroup"

/-- A measure of a place: how wide it is, or how many places it gives a value. -/
inductive Measure where
  | width
  | precision
deriving DecidableEq

/-- The word for the measure. -/
def Measure.name : Measure → String
  | width => "width"
  | precision => "precision"

/-- Why a template cannot be filled. -/
inductive Flaw where
  /-- The template ends within a place. -/
  | openPlace
  /-- The template ends within a name. -/
  | openName
  /-- There is no value of that name. -/
  | nameless (name : String)
  /-- No form has that letter. -/
  | noForm (letter : Char) (position : Nat)
  /-- The value has been used up. -/
  | usedUp
  /-- The form takes a number, and the value is none. -/
  | notNumber (letter : Char) (kind : String)
  /-- The form takes a whole number, and the value is none. -/
  | notWhole (letter : Char) (kind : String)
  /-- The form takes a fraction, and the value is none. -/
  | notFraction (kind : String)
  /-- The form takes a single character, and the value is none. -/
  | notCharacter
  /-- A measure is to be taken from a value that is no number. -/
  | notMeasure
  /-- A measure is beyond all bounds. -/
  | boundless (measure : Measure)
  /-- A whole number is to have more places than it can be given. -/
  | overlong
  /-- The place is wider than any memory. -/
  | overwide
deriving DecidableEq

/-- The character as it stands in a message, or a question mark when it is not plain. -/
def plainChar (c : Char) : Char :=
  if 31 ≤ c.toNat && c.toNat ≤ 126 then c else '?'

/-- What is wrong, in words. -/
def Flaw.message : Flaw → String
  | openPlace => "incomplete format"
  | openName => "incomplete format key"
  | nameless name => quote name
  | noForm letter position =>
    s!"unsupported format character '{plainChar letter}' " ++
      s!"(0x{String.ofList (Nat.toDigits 16 letter.toNat)}) at index {position}"
  | usedUp => "not enough arguments for format string"
  | notNumber letter kind => s!"%{letter} format: a real number is required, not {kind}"
  | notWhole letter kind => s!"%{letter} format: an integer is required, not {kind}"
  | notFraction kind => s!"must be real number, not {kind}"
  | notCharacter => "%c requires int or char"
  | notMeasure => "* wants int"
  | boundless measure => s!"{measure.name} too big"
  | overlong => "precision too large"
  | overwide => ""

/-- How far a place has been read. -/
inductive Stage where
  /-- Between places. -/
  | outside
  /-- After the percent sign. -/
  | opened
  /-- Within a name, with parentheses open inside it; its characters so far, last to first. -/
  | name (depth : Nat) (read : List Char)
  /-- After the name, if there is one, and some marks. -/
  | marks
  /-- Within a measure. -/
  | measure (measure : Measure) (size : Nat)
  /-- After the point that stands before the precision. -/
  | point
  /-- After a measure that is complete. -/
  | measured (measure : Measure)
  /-- Before the letter of the form. -/
  | form
deriving DecidableEq

/-- How far a template has been read: the value that the place stands for, whether it is still to be
used, and the measures of the place. -/
structure Reading where
  position : Nat
  filler : Filler
  unused : Bool
  stage : Stage
  width : Nat := 0
  precision : Nat := 0
deriving DecidableEq

namespace Reading

/-- Before the first character. A place stands for the record unless it names another value. -/
def start : Reading := { position := 0, filler := .record, unused := true, stage := .outside }

/-- At another stage. -/
def enter (reading : Reading) (stage : Stage) : Reading := { reading with stage := stage }

/-- Within a measure, of which some size has been read. -/
def enlarge (reading : Reading) (measure : Measure) (size : Nat) : Reading :=
  match measure with
  | .width => { reading with stage := .measure .width size, width := size }
  | .precision => { reading with stage := .measure .precision size, precision := size }

/-- After a place, whose measures do not matter any more. -/
def leave (reading : Reading) : Reading :=
  { reading with stage := .outside, width := 0, precision := 0 }

/-- The value, which can be used once, and what is left. -/
def use (reading : Reading) : Except Flaw (Filler × Reading) :=
  if reading.unused then .ok (reading.filler, { reading with unused := false })
  else .error .usedUp

/-- Takes a measure from the value, which has to be a number. -/
def useMeasure (reading : Reading) (measure : Measure) : Except Flaw Reading := do
  let (filler, reading) ← reading.use
  match filler with
  | .truth => return reading.enter (.measured measure)
  | _ => .error .notMeasure

end Reading

/-- The letters of the forms that take any number and make it whole. -/
def numberForms : List Char := ['d', 'i', 'u']

/-- The letters of the forms that take a whole number. -/
def wholeForms : List Char := ['o', 'x', 'X']

/-- Whether a value can take the form of a letter. -/
def checkForm (position : Nat) (letter : Char) (filler : Filler) : Except Flaw Unit :=
  if ['s', 'r', 'a'].contains letter then .ok ()
  else if numberForms.contains letter then
    if filler = .truth then .ok () else .error (.notNumber letter filler.kind)
  else if wholeForms.contains letter then
    if filler = .truth then .ok () else .error (.notWhole letter filler.kind)
  else if ['e', 'E', 'f', 'F', 'g', 'G'].contains letter then
    if filler = .truth then .ok () else .error (.notFraction filler.kind)
  else if letter == 'c' then
    match filler with
    | .truth => .ok ()
    | .text value => if value.length == 1 then .ok () else .error .notCharacter
    | _ => .error .notCharacter
  else .error (.noForm letter position)

/-- The most places that a whole number can be given. -/
def maxWholePrecision : Nat := 2147483644

/-- The least width that no memory holds. -/
def memoryWidth : Nat := 1099511627776

/-- Whether a form can have the measures of its place. -/
def checkMeasures (reading : Reading) (letter : Char) : Except Flaw Unit :=
  if (numberForms ++ wholeForms).contains letter && maxWholePrecision < reading.precision then
    .error .overlong
  else if memoryWidth ≤ reading.width then .error .overwide
  else .ok ()

/-- Reads the letter of a form, which ends the place. -/
def readForm (reading : Reading) (c : Char) : Except Flaw Reading := do
  let (filler, reading) ← reading.use
  checkForm reading.position c filler
  checkMeasures reading c
  return reading.leave

/-- Reads what may follow the measures: a mark of size, which means nothing, and the form. -/
def readSized (reading : Reading) (c : Char) : Except Flaw Reading :=
  if ['h', 'l', 'L'].contains c then .ok (reading.enter .form) else readForm reading c

/-- Reads what may follow the width: a point before the precision, or what follows that. -/
def readWide (reading : Reading) (c : Char) : Except Flaw Reading :=
  if c == '.' then .ok (reading.enter .point) else readSized reading c

/-- The least measure that is beyond all bounds. Those of a precision are narrower. -/
def Measure.limit : Measure → Nat
  | width => 9223372036854775808
  | precision => 2147483648

/-- Reads a digit of a measure, or what may follow it. -/
def readMeasure (reading : Reading) (measure : Measure) (size : Nat) (c : Char) :
    Except Flaw Reading :=
  if c.isDigit then
    let size := 10 * size + (c.toNat - '0'.toNat)
    -- The limit is that of the measure, and is looked at after every digit.
    if measure.limit ≤ size then .error (.boundless measure)
    else .ok (reading.enlarge measure size)
  else match measure with
    | .width => readWide reading c
    | .precision => readSized reading c

/-- Reads a mark of how a value is set, or what may follow the marks. -/
def readMarks (reading : Reading) (c : Char) : Except Flaw Reading :=
  if ['-', '+', ' ', '#', '0'].contains c then .ok (reading.enter .marks)
  else if c == '*' then reading.useMeasure .width
  else readMeasure reading .width 0 c

/-- Reads a character of a name. The parenthesis that closes it gives the place its value. -/
def readName (known : List (String × Filler)) (reading : Reading) (depth : Nat)
    (read : List Char) (c : Char) : Except Flaw Reading :=
  match c, depth with
  | ')', 0 =>
    let name := String.ofList read.reverse
    match known.lookup name with
    | some filler => .ok { reading with filler := filler, unused := true, stage := .marks }
    | none => .error (.nameless name)
  -- Parentheses within a name must be closed in it.
  | ')', depth + 1 => .ok (reading.enter (.name depth (c :: read)))
  | '(', depth => .ok (reading.enter (.name (depth + 1) (c :: read)))
  | c, depth => .ok (reading.enter (.name depth (c :: read)))

/-- Reads a character, wherever it stands. A percent sign right after another stands for itself. -/
def readChar (known : List (String × Filler)) (reading : Reading) (c : Char) :
    Except Flaw Reading :=
  match reading.stage with
  | .outside => .ok (reading.enter (if c == '%' then .opened else .outside))
  | .opened =>
    if c == '%' then .ok (reading.enter .outside)
    else if c == '(' then .ok (reading.enter (.name 0 []))
    else readMarks reading c
  | .name depth read => readName known reading depth read c
  | .marks => readMarks reading c
  | .measure measure size => readMeasure reading measure size c
  | .point =>
    if c == '*' then reading.useMeasure .precision else readMeasure reading .precision 0 c
  | .measured .width => readWide reading c
  | .measured .precision => readSized reading c
  | .form => readForm reading c

/-- Reads the next character. -/
def readNext (known : List (String × Filler)) (reading : Reading) (c : Char) :
    Except Flaw Reading := do
  let reading ← readChar known reading c
  return { reading with position := reading.position + 1 }

/-- Whether a template can be filled from named values. -/
def check (known : List (String × Filler)) (template : String) : Except Flaw Unit := do
  let reading ← template.toList.foldlM (readNext known) .start
  match reading.stage with
  | .outside => return ()
  | .name _ _ => .error .openName
  | _ => .error .openPlace

end Fleet.Text.Template
