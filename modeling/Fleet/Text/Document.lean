import Fleet.Text.Quoted

/-! Documents of records and lists in plain ASCII, one item a line and indented by two. -/

namespace Fleet.Text.Document

/-- The escape of a 16-bit unit. -/
def unitEscape (unit : Nat) : List Char :=
  '\\' :: 'u' :: hexDigits 4 unit

/-- How a character is written in a document. Characters beyond the first plane take two units. -/
def encodeChar (c : Char) : List Char :=
  let n := c.toNat
  if c == '"' || c == '\\' then ['\\', c]
  else if c == '\n' then ['\\', 'n']
  else if c == '\r' then ['\\', 'r']
  else if c == '\t' then ['\\', 't']
  else if n == 0x8 then ['\\', 'b']
  else if n == 0xC then ['\\', 'f']
  else if 0x20 ≤ n && n ≤ 0x7E then [c]
  else if n < 0x10000 then unitEscape n
  else
    let rest := n - 0x10000
    unitEscape (0xD800 + rest / 0x400) ++ unitEscape (0xDC00 + rest % 0x400)

/-- A text as an item. -/
def ofText (text : String) : String :=
  String.ofList ('"' :: text.toList.flatMap encodeChar ++ ['"'])

/-- Items between brackets, each on its own line at the next depth of indentation. -/
def enclose (opening closing : String) (depth : Nat) (items : List String) : String :=
  let indent (depth : Nat) := String.ofList (List.replicate (2 * depth) ' ')
  if items.isEmpty then opening ++ closing
  else opening ++ "\n" ++ indent (depth + 1) ++
    (",\n" ++ indent (depth + 1)).intercalate items ++ "\n" ++ indent depth ++ closing

/-- A list of items. -/
def ofList (depth : Nat) (items : List String) : String :=
  enclose "[" "]" depth items

/-- A record of named items. -/
def ofFields (depth : Nat) (fields : List (String × String)) : String :=
  enclose "\x7b" "\x7d" depth (fields.map fun (name, item) => ofText name ++ ": " ++ item)

/-- What a field of a record holds. -/
inductive Item where
  /-- A text. -/
  | text (text : String)
  /-- A list of texts. -/
  | texts (texts : List String)
deriving DecidableEq

/-- The item at a depth of indentation. -/
def Item.written (depth : Nat) : Item → String
  | text value => ofText value
  | texts values => ofList depth (values.map ofText)

end Fleet.Text.Document
