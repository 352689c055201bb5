/-! Decimal digits of every script, and the numbers that runs of them write. -/

namespace Fleet.Text

/-- Where each script's ten digits begin: the code point of its zero. -/
def digitZeros : List Nat :=
  [0x30, 0x660, 0x6F0, 0x7C0, 0x966, 0x9E6, 0xA66, 0xAE6, 0xB66, 0xBE6, 0xC66, 0xCE6, 0xD66,
   0xDE6, 0xE50, 0xED0, 0xF20, 0x1040, 0x1090, 0x17E0, 0x1810, 0x1946, 0x19D0, 0x1A80, 0x1A90,
   0x1B50, 0x1BB0, 0x1C40, 0x1C50, 0xA620, 0xA8D0, 0xA900, 0xA9D0, 0xA9F0, 0xAA50, 0xABF0,
   0xFF10, 0x104A0, 0x10D30, 0x11066, 0x110F0, 0x11136, 0x111D0, 0x112F0, 0x11450, 0x114D0,
   0x11650, 0x116C0, 0x11730, 0x118E0, 0x11950, 0x11C50, 0x11D50, 0x11DA0, 0x16A60, 0x16AC0,
   0x16B50, 0x1D7CE, 0x1D7D8, 0x1D7E2, 0x1D7EC, 0x1D7F6, 0x1E140, 0x1E2F0, 0x1E950, 0x1FBF0]

/-- The value of a decimal digit of any script. -/
def digitValue? (c : Char) : Option Nat :=
  (digitZeros.find? fun first => first ≤ c.toNat && c.toNat < first + 10).map (c.toNat - ·)

/-- The decimal digits of every script. -/
def isDigit (c : Char) : Bool :=
  (digitValue? c).isSome

/-- The number that a run of digits writes, most significant first. -/
def digitsValue (digits : List Char) : Nat :=
  digits.foldl (fun total c => 10 * total + (digitValue? c).getD 0) 0

/-- The longest run of digits that is taken for a number. -/
def maxNumberDigits : Nat := 4300

/-- Why a run of digits is not taken for a number. -/
inductive NumberFlaw where
  /-- There are no digits. -/
  | missing
  /-- There are more digits than are taken for a number. -/
  | tooLong (count : Nat)
deriving DecidableEq

/-- What is wrong with the run, in words. -/
def NumberFlaw.message : NumberFlaw → String
  | missing => "invalid literal for int() with base 10: ''"
  | tooLong count =>
    s!"Exceeds the limit ({maxNumberDigits} digits) for integer string conversion: value has " ++
      s!"{count} digits; use sys.set_int_max_str_digits() to increase the limit"

/-- The number that a run of digits writes, unless there are none or too many. -/
def readNumber (digits : List Char) : Except NumberFlaw Nat :=
  if digits.isEmpty then .error .missing
  else if maxNumberDigits < digits.length then .error (.tooLong digits.length)
  else .ok (digitsValue digits)

/-- A further digit moves the number one place up. -/
theorem digitsValue_append (digits : List Char) (c : Char) :
    digitsValue (digits ++ [c]) = 10 * digitsValue digits + (digitValue? c).getD 0 := by
  simp [digitsValue]

end Fleet.Text
