import Fleet.Text.Blank
import Fleet.Text.Case.Basic
import Fleet.Text.Emoji.Names
import Fleet.Text.Marks

/-! Emoji codes: short names between colons, which are shown as emoji. -/

namespace Fleet.Text.Emoji

/-- The words of some lines, which blanks divide. -/
def wordsOf (lines : List String) : List String :=
  lines.flatMap fun line => line.splitOn " "

/-- The first of each two words with the second. -/
def pairUp : List String → List (String × String)
  | name :: emoji :: rest => (name, emoji) :: pairUp rest
  | _ => []

/-- The emoji by their short names. -/
def named : List (String × String) := pairUp (wordsOf nameTable)

/-- The short names of the emoji that can be shown in a skin tone. -/
def tonedNames : List String := wordsOf tonedTable

/-- The ends of short names that tell a skin tone, each with its mark. -/
def tones : List (String × Char) :=
  [("_light_skin_tone", .ofNat 0x1F3FB), ("_medium-light_skin_tone", .ofNat 0x1F3FC),
   ("_medium_skin_tone", .ofNat 0x1F3FD), ("_medium-dark_skin_tone", .ofNat 0x1F3FE),
   ("_dark_skin_tone", .ofNat 0x1F3FF)]

/-- The marks that ask for an emoji in colour or in plain text, each by the end of a code. -/
def variants : List (String × Char) := [("-emoji", colourMark), ("-text", plainMark)]

/-- A text without a given end, if it ends so. -/
def dropEnd? (ending text : List Char) : Option (List Char) :=
  if ending.isSuffixOf text then some (text.take (text.length - ending.length)) else none

/-- An emoji in a skin tone, whose mark follows the first character in place of a colour mark. -/
def inTone (tone : Char) : List Char → List Char
  | [] => []
  | first :: rest => first :: tone :: if rest.head? = some colourMark then rest.tail else rest

/-- The emoji of a short name that tells a skin tone. -/
def toned? (name : String) : Option (List Char) :=
  tones.findSome? fun (ending, tone) => do
    let bare := String.ofList (← dropEnd? ending.toList name.toList)
    if tonedNames.contains bare then (named.lookup bare).map fun emoji => inTone tone emoji.toList
    else none

/-- The emoji of a short name. -/
def find? (name : String) : Option (List Char) :=
  match named.lookup name with
  | some emoji => some emoji.toList
  | none => toned? name

/-- What a code between colons is shown as, if it is known. -/
def ofCode? (code : List Char) : Option (List Char) :=
  let split := variants.findSome? fun (ending, mark) =>
    (dropEnd? ending.toList code).map fun name => (name, [mark])
  let (name, mark) := split.getD (code, [])
  (find? (lowerCase (String.ofList name))).map fun emoji => emoji ++ mark

/-- The code that a text begins with: characters other than blanks between two colons. -/
def codeAt? : List Char → Option (List Char)
  | ':' :: rest =>
    let code := rest.takeWhile fun c => c != ':' && !isBlank c
    if (rest.drop code.length).head? = some ':' then some code else none
  | _ => none

/-- Shows the codes of a text as emoji, after a number of characters that are left out. -/
def replaceAfter : Nat → List Char → List Char
  | _, [] => []
  | further + 1, _ :: rest => replaceAfter further rest
  | 0, c :: rest =>
    match codeAt? (c :: rest) with
    | none => c :: replaceAfter 0 rest
    | some code =>
      (ofCode? code).getD (':' :: code ++ [':']) ++ replaceAfter (code.length + 1) rest

/-- Shows the codes of a text as emoji. Codes that are not known stay as they are. -/
def replace (text : List Char) : List Char := replaceAfter 0 text

end Fleet.Text.Emoji
