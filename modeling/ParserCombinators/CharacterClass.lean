import ParserCombinators.Text.Category
import ParserCombinators.Value.Operations

/-!
# Classes and sets of characters

A class of characters has a name, which stands in diagnostics. A symbol of a list input may be a
text of any length, so a class is a class of texts; a symbol that is no text is a fault.

## Main definitions

* `CharacterClass` — a named class of texts, with `CharacterClass.test` for values.
* `CharacterClass.letter`, `CharacterClass.digit`, … — the classes.
* `CharacterSet` — the texts of a sequence, each once and in order.
-/

set_option autoImplicit false

namespace ParserCombinators

/-! ## Tests of texts -/

namespace Text

/-- Texts of one or more characters, all of which pass a test. -/
def isAll (test : Char → Bool) (cs : List Char) : Bool :=
  !cs.isEmpty && cs.all test

/-- Texts between `0` and `9` in the order of code points: the digits, and longer texts that
begin with one of the digits up to `8`. -/
def isDigit : List Char → Bool
  | [] => false
  | [c] => '0' ≤ c && c ≤ '9'
  | c :: _ :: _ => '0' ≤ c && c < '9'

/-- Whether a text occurs in another one without a gap. -/
def occursIn (cs : List Char) : List Char → Bool
  | [] => cs.isEmpty
  | c :: rest => cs.isPrefixOf (c :: rest) || occursIn cs rest

end Text

/-! ## Classes -/

/-- A named class of texts. -/
structure CharacterClass where
  /-- Which texts are in the class. -/
  holds : List Char → Bool
  /-- The name of the class in diagnostics. -/
  name : String

namespace CharacterClass

/-- Whether a value is in the class; a value that is no text is a fault. -/
def test (k : CharacterClass) : Value → Except Fault Bool
  | .str s => .ok (k.holds s.toList)
  | _ => .error .mismatchedKind

/-- Letters. -/
def letter : CharacterClass := ⟨Text.isAll Text.isLetter, "<letter>"⟩

/-- The decimal digits from `0` to `9`. -/
def digit : CharacterClass := ⟨Text.isDigit, "<digit>"⟩

/-- Runs of hexadecimal digits, in the order in which they are listed here. -/
def hexDigit : CharacterClass :=
  ⟨fun cs => Text.occursIn cs "0123456789abcdefABCDEF".toList, "<hexadecimal digit>"⟩

/-- Runs of octal digits in order. -/
def octDigit : CharacterClass :=
  ⟨fun cs => Text.occursIn cs "01234567".toList, "<octal digit>"⟩

/-- Letters and characters with a numeric value. -/
def letterOrNumeral : CharacterClass :=
  ⟨Text.isAll Text.isLetterOrNumeral, "<letter or digit>"⟩

/-- Upper-case texts. -/
def upper : CharacterClass := ⟨Text.isUpperText, "<uppercase>"⟩

/-- Lower-case texts. -/
def lower : CharacterClass := ⟨Text.isLowerText, "<lowercase>"⟩

/-- Blanks. -/
def space : CharacterClass := ⟨Text.isAll Text.isBlank, "<space>"⟩

end CharacterClass

/-! ## Sets -/

/-- A set of texts, listed in the order in which diagnostics show them. -/
structure CharacterSet where
  /-- The texts of the set. -/
  texts : List String

namespace CharacterSet

/-- The set of the items of a sequence, each listed once and in the order of code points; all of
them must be texts. -/
def ofValue (v : Value) : Except Fault CharacterSet :=
  match v.items? with
  | some items =>
    return ⟨(← Value.toTexts items).eraseDups.mergeSort fun s t => decide (s ≤ t)⟩
  | none => .error .mismatchedKind

/-- The texts of the set, one after the other. -/
def joined (set : CharacterSet) : String :=
  String.join set.texts

/-- Whether a value is in the set; a value that cannot be looked up is a fault. -/
def contains (set : CharacterSet) (v : Value) : Except Fault Bool :=
  match v with
  | .str s => .ok (set.texts.contains s)
  | v => if v.isHashable then .ok false else .error .mismatchedKind

/-- Whether a value is not in the set; a value that cannot be looked up is a fault. -/
def lacks (set : CharacterSet) (v : Value) : Except Fault Bool :=
  return !(← set.contains v)

end CharacterSet

end ParserCombinators
