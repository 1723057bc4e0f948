import ParserCombinators.CharacterClass
import ParserCombinators.Parser.Repetition
import ParserCombinators.Parser.Token
import ParserCombinators.Text.Numeral

/-!
# Characters and numerals

Parsers for single characters, for runs of characters as one text, and for decimal integers.

## Main definitions

* `Parser.ofClass`, `Parser.char` — one character.
* `Parser.spaces`, `Parser.endOfLine` — blanks and line ends.
* `Parser.manyChars`, `Parser.many1Chars` — runs of characters as one text.
* `Parser.natural`, `Parser.signedInt` — decimal integers.
-/

set_option autoImplicit false

namespace ParserCombinators

namespace Parser

/-! ## Single characters -/

/-- One character of a class, with the name of the class in the error. -/
def ofClass (k : CharacterClass) : Parser Value :=
  token k.test (.str k.name)

/-- A character equal to a given one. -/
def char (c : Char) : Parser Value := symbol (Value.ofChar c)

/-- A blank. -/
def space : Parser Value := ofClass .space

/-- Any number of blanks. -/
def spaces : Parser Unit := skipMany space

/-- A line feed. -/
def newline : Parser Value := char '\n'

/-- A carriage return and a line feed; a carriage return alone is consumed all the same. -/
def crlf : Parser Value := (char '\r').andThen (char '\n')

/-- The end of a line, with or without a carriage return; the value is the line feed. -/
def endOfLine : Parser Value := newline.orElse crlf

/-! ## Runs of characters -/

/-- Any number of characters as one text. -/
def manyChars (p : Parser Value) : Parser String :=
  (many p).transform Value.joinTexts

/-- One or more characters as one text. -/
def many1Chars (p : Parser Value) : Parser String :=
  (many1 p).transform Value.joinTexts

/-! ## Decimal integers -/

/-- The number that collected digits denote; texts that are no numeral are a fault. -/
def readDigits (digits : List Value) : Except Fault Int := do
  let text ← Value.joinTexts digits
  match Text.Numeral.read? text.toList with
  | some n => .ok n
  | none => .error (.badNumeral text)

/-- One or more digits, with the number that they denote. -/
def natural : Parser Int :=
  (many1 (ofClass .digit)).transform readDigits

/-- A sign, with the factor that it stands for; no sign stands for one. -/
def sign : Parser Int :=
  option 1 (((char '-').andThen (succeed (-1))).orElse ((char '+').andThen (succeed 1)))

/-- A number with an optional sign before it. -/
def signedInt : Parser Int :=
  sign.bind fun factor => natural.map (factor * ·)

end Parser

end ParserCombinators
