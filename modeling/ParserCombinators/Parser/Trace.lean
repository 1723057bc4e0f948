import ParserCombinators.Parser.Token

/-!
# Tracing

A trace logs the symbols that come next. Nothing is logged, and the input is not looked at,
unless the run is traced.

## Main definitions

* `Parser.trace` — logs that it was reached.
* `Parser.traced` — logs that a parser was reached, and again if it failed.

## Main results

* `Parser.ending_trace`, `Parser.ending_traceFailure` — what a trace does apart from the log.
-/

set_option autoImplicit false

namespace ParserCombinators

namespace Parser

variable {α : Type}

/-- The number of symbols that a trace shows. -/
def previewSize : Nat := 30

/-- Logs the next symbols and succeeds. The event holds the symbols themselves, and they are written
out only with its line, by `Event.text`. So a run does not depend on how a symbol is written out,
and to write one out is taken to return. -/
def trace (label : String) : Parser Unit where
  run s c := do
    if s.tracing then
      look c
      let window := c.peek (previewSize + 1)
      Run.record
        (.entered label (window.extract 0 previewSize) (previewSize < window.size) c.place)
    pure (.ok () c)

/-- A trace looks at the input if the run is traced, and does nothing else that matters. -/
theorem ending_trace (label : String) (s : Settings) (c : Cursor) :
    ((trace label).run s c).ending =
      if s.tracing = true ∧ c.input.isReadable = false then .raised .mismatchedKind
      else .done (.ok () c) := by
  cases traced : s.tracing with
  | true =>
    cases readable : c.input.isReadable <;>
      simp only [trace, look, traced, readable, if_true, and_self, Bool.true_eq_false,
        Bool.false_eq_true, and_false, if_false] <;> rfl
  | false =>
    simp only [trace, traced, Bool.false_eq_true, false_and, if_false]
    rfl

/-- The error of a traced parser. -/
def tracedError (label : String) : ParseError :=
  .ofMessage (label ++ " backtracked and parser failed")

/-- Logs that a parser failed, and fails. -/
def traceFailure (label : String) : Parser α where
  run s c := do
    if s.tracing then Run.record (.backtracked label c.place)
    pure (.error c (tracedError label))

/-- The failure of a traced parser is where it began. -/
theorem ending_traceFailure (label : String) (s : Settings) (c : Cursor) :
    ((traceFailure label : Parser α).run s c).ending = .done (.error c (tracedError label)) := by
  cases traced : s.tracing with
  | true =>
    simp only [traceFailure, traced, if_true]
    rfl
  | false =>
    simp only [traceFailure, traced, Bool.false_eq_true, if_false]
    rfl

/-- Logs the next symbols and runs a parser; if that fails, logs so, goes back to where it began
and says nothing but that. -/
def traced (label : String) (p : Parser α) : Parser α :=
  (trace label).andThen (p.attempt.orElse (traceFailure label))

end Parser

end ParserCombinators
