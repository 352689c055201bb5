/-! Marks: characters that are not seen themselves and change how those beside them are shown. -/

namespace Fleet.Text

/-- The mark that joins the character after it to the one before it. -/
def joiner : Char := '\u200D'

/-- The mark that asks for an emoji in colour. -/
def colourMark : Char := '\uFE0F'

/-- The mark that asks for an emoji in plain text. -/
def plainMark : Char := '\uFE0E'

end Fleet.Text
