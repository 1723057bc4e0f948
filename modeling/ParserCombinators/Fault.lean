import ParserCombinators.ParseError

/-!
# Faults

A failed parse is an answer. A fault is something else: a callback refused to go on, or the
grammar or its input was put together wrongly. It ends a run at once, whatever was being tried.

## Main definitions

* `Fault` — what can end a run without an answer.
* `Fault.message?` — a fault in words, for the faults that are reported in words.
-/

set_option autoImplicit false

namespace ParserCombinators

/-- What ends a run, or the building of a parser, without an answer. -/
inductive Fault where
  /-- A callback of the grammar raised a message of its own. -/
  | raised (message : String)
  /-- The value of a failed parse was asked for; `place` says where it failed. -/
  | unparsed (place : Option String) (error : ParseError)
  /-- An error was put together from no frames. -/
  | noFrames
  /-- An arithmetic expression divides by zero. -/
  | divisionByZero
  /-- The collected digits are no decimal numeral. -/
  | badNumeral (text : String)
  /-- A value is not of a kind that the operation takes. -/
  | mismatchedKind
  /-- An operator divides by zero, or raises zero to a power that is negative or complex, or a power
  turns by an infinite angle. -/
  | zeroDivisor
  /-- A number lies beyond the range of binary64. -/
  | overflow
  /-- There is no item at the index. -/
  | outOfRange
  /-- The value has no such operation. -/
  | noSuchOperation
  /-- A grammar refers to a parser that it does not define. -/
  | undefined (name : String)
  deriving Inhabited

namespace Fault

/-- The characters of a quoted numeral that a report shows. -/
def numeralLimit : Nat := 200

/-- A fault in words; `none` where the kind of fault says all. -/
def message? : Fault → Option String
  | .raised message => some message
  | .unparsed place error => some (error.report place)
  | .noFrames => some "ParseError needs at least one error content"
  | .divisionByZero => some "Division by zero"
  | .badNumeral text =>
    some ("invalid literal for int() with base 10: " ++
      String.ofList ((Text.Quoted.text text).toList.take numeralLimit))
  | .mismatchedKind | .zeroDivisor | .overflow | .outOfRange | .noSuchOperation
  | .undefined _ => none

end Fault

end ParserCombinators
