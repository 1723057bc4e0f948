import ParserCombinators.Grammar.Basic
import ParserCombinators.Parser.Character

/-!
# Grammars of characters and numerals

Single symbols, characters of a class or a set, runs of characters as one text, and decimal
integers, as grammars.

## Main definitions

* `Grammar.anyToken`, `Grammar.symbol` — one symbol.
* `Grammar.ofClass`, `Grammar.oneOf`, `Grammar.noneOf` — one character.
* `Grammar.manyChars`, `Grammar.many1Chars` — runs of characters as one text.
* `Grammar.natural`, `Grammar.signedInt` — decimal integers.
-/

set_option autoImplicit false

namespace ParserCombinators

namespace Grammar

/-! ## Single characters -/

/-- Any symbol. -/
def anyToken : Grammar :=
  token (fun _ => .ok true) (.str "any token")

/-- One symbol that is equal to a given one. -/
def symbol (expected : Value) : Grammar :=
  token (fun found => .ok (found.same expected)) expected

/-- A character equal to a given one. -/
def char (c : Char) : Grammar :=
  symbol (Value.ofChar c)

/-- One character of a class. -/
def ofClass (k : CharacterClass) : Grammar :=
  token k.test (.str k.name)

/-- One symbol of a set. -/
def oneOf (set : CharacterSet) : Grammar :=
  token set.contains (.str ("<one of " ++ set.joined ++ ">"))

/-- One symbol that is not in a set. -/
def noneOf (set : CharacterSet) : Grammar :=
  token set.lacks (.str ("<none of " ++ set.joined ++ ">"))

/-! ## Blanks and line ends -/

/-- Any number of blanks. -/
def spaces : Grammar :=
  many .nothing (ofClass .space)

/-- One or more blanks. -/
def spaces1 : Grammar :=
  many1 .nothing (ofClass .space)

/-- A line feed. -/
def newline : Grammar :=
  char '\n'

/-- A carriage return and a line feed; a carriage return alone is consumed all the same. -/
def crlf : Grammar :=
  (char '\r').andThen (char '\n')

/-- The end of a line, with or without a carriage return; the value is the line feed. -/
def endOfLine : Grammar :=
  newline.orElse crlf

/-! ## Runs of characters -/

/-- The texts of a list, one after the other. -/
def joinList : Value → Except Fault Value
  | .list items => return .str (← Value.joinTexts items)
  | _ => .error .mismatchedKind

/-- A list of texts is joined to one text. -/
theorem joinList_map_str (ts : List String) :
    joinList (.list (ts.map .str)) = .ok (.str (String.join ts)) := by
  rw [joinList, Value.joinTexts_map_str]
  rfl

/-- Any number of characters as one text. -/
def manyChars (p : Grammar) : Grammar :=
  (many .list p).transform joinList

/-- One or more characters as one text. -/
def many1Chars (p : Grammar) : Grammar :=
  (many1 .list p).transform joinList

/-! ## Decimal integers -/

/-- The number that a list of digits denotes. -/
def readDigits : Value → Except Fault Value
  | .list digits => return .int (← Parser.readDigits digits)
  | _ => .error .mismatchedKind

/-- One or more digits, with the number that they denote. -/
def natural : Grammar :=
  (many1 .list (ofClass .digit)).transform readDigits

/-- A sign, with the factor that it stands for; no sign stands for one. -/
def sign : Grammar :=
  option (.int 1)
    (((char '-').andThen (succeed (.int (-1)))).orElse ((char '+').andThen (succeed (.int 1))))

/-- A number with an optional sign before it. -/
def signedInt : Grammar :=
  sign.bind (combineWith .mul natural)

end Grammar

end ParserCombinators
