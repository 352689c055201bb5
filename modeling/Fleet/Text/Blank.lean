/-! Blank characters, and the text that is left without them at either end. -/

namespace Fleet.Text

/-- The spaces, separators, line breaks and field breaks that trimming removes. -/
def isBlank (c : Char) : Bool :=
  let n := c.toNat
  (0x09 ≤ n && n ≤ 0x0D) || (0x1C ≤ n && n ≤ 0x20) || n == 0x85 || n == 0xA0 || n == 0x1680 ||
    (0x2000 ≤ n && n ≤ 0x200A) || n == 0x2028 || n == 0x2029 || n == 0x202F || n == 0x205F ||
    n == 0x3000

/-- The characters between the first and the last that are not blank. -/
def trimChars (text : List Char) : List Char :=
  ((text.dropWhile isBlank).reverse.dropWhile isBlank).reverse

/-- A text without the blanks at its two ends. -/
def trim (text : String) : String :=
  String.ofList (trimChars text.toList)

/-- The text before one closing line break, or all of it when there is none. -/
def dropFinalBreak (text : List Char) : List Char :=
  if text.getLast? == some '\n' then text.dropLast else text

/-- A text without the blanks at its end. -/
def trimEnd (text : String) : String :=
  String.ofList (text.toList.reverse.dropWhile isBlank).reverse

/-- A text without blanks keeps every character. -/
theorem trimChars_eq_self (text : List Char) (solid : ∀ c ∈ text, isBlank c = false) :
    trimChars text = text := by
  have keep (cs : List Char) (clear : ∀ c ∈ cs, isBlank c = false) :
      cs.dropWhile isBlank = cs := by
    cases cs with
    | nil => rfl
    | cons c rest => simp [clear c (by simp)]
  unfold trimChars
  rw [keep text solid, keep text.reverse (by simpa using solid), List.reverse_reverse]

end Fleet.Text
