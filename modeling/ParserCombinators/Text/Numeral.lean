import ParserCombinators.Text.Category

/-!
# Decimal numerals

A numeral is a run of decimal digits of any script, with single low lines allowed between two
digits and white space allowed at its end.

## Main definitions

* `Numeral.digitValue?` — the value of a decimal digit.
* `Numeral.read?` — the number that a numeral denotes in base ten.
-/

set_option autoImplicit false

namespace ParserCombinators

namespace Text

namespace Numeral

/-- The zeros of the scripts with decimal digits; the digits 1 to 9 follow each of them
(Unicode 14.0). -/
def zeros : List Nat :=
  [0x30, 0x660, 0x6F0, 0x7C0, 0x966, 0x9E6, 0xA66, 0xAE6, 0xB66, 0xBE6, 0xC66, 0xCE6, 0xD66, 0xDE6,
   0xE50, 0xED0, 0xF20, 0x1040, 0x1090, 0x17E0, 0x1810, 0x1946, 0x19D0, 0x1A80, 0x1A90, 0x1B50,
   0x1BB0, 0x1C40, 0x1C50, 0xA620, 0xA8D0, 0xA900, 0xA9D0, 0xA9F0, 0xAA50, 0xABF0, 0xFF10, 0x104A0,
   0x10D30, 0x11066, 0x110F0, 0x11136, 0x111D0, 0x112F0, 0x11450, 0x114D0, 0x11650, 0x116C0,
   0x11730, 0x118E0, 0x11950, 0x11C50, 0x11D50, 0x11DA0, 0x16A60, 0x16AC0, 0x16B50, 0x1D7CE,
   0x1D7D8, 0x1D7E2, 0x1D7EC, 0x1D7F6, 0x1E140, 0x1E2F0, 0x1E950, 0x1FBF0]
/-- The value of a decimal digit of any script. -/
def digitValue? (c : Char) : Option Nat :=
  (zeros.find? fun first => first ≤ c.toNat && c.toNat < first + 10).map (c.toNat - ·)

/-- The number that digits denote after some that denote `acc`; a low line must have a digit on
either side. -/
def readAfter (acc : Nat) : List Char → Option Nat
  | [] => some acc
  | '_' :: c :: rest => (digitValue? c).bind fun d => readAfter (10 * acc + d) rest
  | c :: rest => (digitValue? c).bind fun d => readAfter (10 * acc + d) rest

/-- A text without the white space at its end. -/
def trimmed (cs : List Char) : List Char :=
  (cs.reverse.dropWhile isWhiteSpace).reverse

/-- The number that a numeral denotes in base ten. -/
def read? (cs : List Char) : Option Nat :=
  match trimmed cs with
  | [] => none
  | c :: rest => (digitValue? c).bind fun d => readAfter d rest

end Numeral

end Text

end ParserCombinators
