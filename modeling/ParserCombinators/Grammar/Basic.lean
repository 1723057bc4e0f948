import ParserCombinators.Parser.Basic
import ParserCombinators.Value.Operations

/-!
# Grammars

A grammar is a parser as data: the leaf parsers and combinators, with callbacks where a parser
depends on a value, and references to named grammars. What holds of every parser that can be put
together is proved by induction on it.

## Main definitions

* `Grammar` — the leaf parsers and the combinators.
* `Collector` — what a repetition collects its values into.
* `Grammar.isJoined` — the grammars whose tuples `Grammar.both` takes apart.
* `Definitions` — named grammars.
* `Grammar.succeedWith`, `Grammar.countBy`, `Grammar.combineWith`, `Grammar.select` — what a grammar
  can go on with once it has a value.
-/

set_option autoImplicit false

namespace ParserCombinators

/-- What a repetition collects its values into. -/
inductive Collector where
  /-- A list of the values. -/
  | list
  /-- A double-ended queue of the values. -/
  | deque
  /-- The number of the values. -/
  | counter
  /-- Nothing: the values are dropped. -/
  | nothing
  /-- A collection of the caller's own: how it begins, and how a value is added to it. Both may
  raise a fault. -/
  | own (empty : Except Fault Value) (push : Value → Value → Except Fault Value)
  deriving Inhabited

/-- A parser as data. -/
inductive Grammar where
  /-- Ends every run with a fault. -/
  | raise (fault : Fault)
  /-- Succeeds with a value and consumes nothing. -/
  | succeed (v : Value)
  /-- Fails with an error and consumes nothing. -/
  | fail (e : ParseError)
  /-- Succeeds only at the end of the input. -/
  | endOfInput
  /-- One symbol that passes a test. -/
  | token (test : Value → Except Fault Bool) (expected : Value)
  /-- The items of a sequence one by one. -/
  | literal (expected : Value)
  /-- One parser and then another, with the value of the second. -/
  | andThen (p q : Grammar)
  /-- One parser and then another, with the value of the first. -/
  | followedBy (p q : Grammar)
  /-- One parser and then another, with the pair of their values. -/
  | pairWith (p q : Grammar)
  /-- One parser and then another, with one tuple; the tuple of a side that is itself joined is
  taken apart. -/
  | both (p q : Grammar)
  /-- The parsers of a list in order, with the tuple of their values. -/
  | sequence (n : Nat) (parts : Fin n → Grammar)
  /-- One parser and then the parser that depends on its value. -/
  | bind (p : Grammar) (f : Value → Grammar)
  /-- A parser whose value must pass a test. -/
  | satisfying (p : Grammar) (test : Value → Except Fault Bool)
  /-- A parser with its value changed. -/
  | transform (p : Grammar) (f : Value → Except Fault Value)
  /-- Another parser where the first fails without consuming. -/
  | orElse (p q : Grammar)
  /-- On failure back to the beginning. -/
  | attempt (p : Grammar)
  /-- Back to the beginning. -/
  | lookAhead (p : Grammar)
  /-- Succeeds where a parser fails. -/
  | notFollowedBy (p : Grammar)
  /-- On failure one more outermost message. -/
  | withContext (p : Grammar) (text : String)
  /-- On failure nothing but a message. -/
  | withMessage (p : Grammar) (text : String)
  /-- A parser that is put together only when it is run. -/
  | delayed (p : Grammar)
  /-- A parser any number of times. -/
  | many (into : Collector) (p : Grammar)
  /-- A parser at least once. -/
  | many1 (into : Collector) (p : Grammar)
  /-- A parser a fixed number of times. -/
  | count (n : Nat) (p : Grammar)
  /-- One or more items with separators between them. -/
  | sepBy1 (p sep : Grammar)
  /-- One or more items with separators between them, and possibly one after the last. -/
  | sepEndBy1 (p sep : Grammar)
  /-- Any number of items up to an end. -/
  | manyTill (p stop : Grammar)
  /-- One or more items up to an end. -/
  | many1Till (p stop : Grammar)
  /-- Operands with operators between them, folded from the left; `apply` says what an operator
  makes of two operands. -/
  | chainl1By (apply : Value → Value → Value → Except Fault Value) (p op : Grammar)
  /-- Operands with operators between them, folded from the right; `apply` says what an operator
  makes of two operands. -/
  | chainr1By (apply : Value → Value → Value → Except Fault Value) (p op : Grammar)
  /-- Logs the next symbols. -/
  | trace (label : String)
  /-- Logs the next symbols, and whether a parser failed. -/
  | traced (label : String) (p : Grammar)
  /-- The grammar of a name. -/
  | reference (name : String)
  deriving Inhabited

/-- Named grammars; of two with one name the first counts. -/
abbrev Definitions := List (String × Grammar)

namespace Grammar

/-! ## Joined grammars -/

/-- Whether a grammar was put together by `both` or `sequence`. -/
def isJoined : Grammar → Bool
  | both _ _ | sequence _ _ => true
  | _ => false

/-! ## Grammars put together from others -/

/-- Fails with a message, the display of a value. -/
def failWith (v : Value) : Grammar :=
  fail (.ofMessage v.displayed)

/-- The grammar that was built, or one that raises the fault met in building it. -/
def ofExcept : Except Fault Grammar → Grammar
  | .ok p => p
  | .error fault => raise fault

/-- The parsers of a list in order, with the tuple of their values. -/
def sequenceOf (ps : List Grammar) : Grammar :=
  sequence ps.length fun i => ps[i]

/-- The parsers of a list in order, each tried if all before it fail without consuming; a single
one is that parser itself. -/
def choice : List Grammar → Grammar
  | [] => fail Parser.noChoice
  | p :: ps => ps.foldl orElse p

/-- A parser between two others, with its own value. -/
def between (p opening closing : Grammar) : Grammar :=
  (opening.andThen p).followedBy closing

/-- A parser without its value. -/
def ignore (p : Grammar) : Grammar :=
  p.andThen (succeed .none)

/-- A value in the stead of a parser that fails without consuming. -/
def option (v : Value) (p : Grammar) : Grammar :=
  p.orElse (succeed v)

/-- Any number of items with separators between them. -/
def sepBy (p sep : Grammar) : Grammar :=
  option (.list []) (sepBy1 p sep)

/-- Any number of items with separators between them, and possibly one after the last. -/
def sepEndBy (p sep : Grammar) : Grammar :=
  option (.list []) (sepEndBy1 p sep)

/-- Any number of items, each with a separator after it. -/
def endBy (p sep : Grammar) : Grammar :=
  many .list (p.followedBy sep)

/-- One or more items, each with a separator after it. -/
def endBy1 (p sep : Grammar) : Grammar :=
  many1 .list (p.followedBy sep)

/-- Operands with operator values between them, folded from the left. -/
def chainl1 (p op : Grammar) : Grammar :=
  chainl1By Value.apply p op

/-- Operands with operator values between them, folded from the right. -/
def chainr1 (p op : Grammar) : Grammar :=
  chainr1By Value.apply p op

/-! ## Continuations

`Grammar.bind` takes any function from values to grammars, and these are the functions that a
grammar is put together with. -/

/-- Succeeds with a value that a callback has changed. -/
def succeedWith (f : Value → Except Fault Value) (v : Value) : Grammar :=
  ofExcept (return succeed (← f v))

/-- A parser as many times as an integer says; for none below one it is not run at all. -/
def countBy (p : Grammar) (v : Value) : Grammar :=
  ofExcept (return count (← v.toInt).toNat p)

/-- A parser whose value is the second argument of an operator, an earlier value the first. -/
def combineWith (op : Operator) (p : Grammar) (v : Value) : Grammar :=
  p.transform (op.apply v)

/-- The first parser whose key is equal to a value, or another one if there is none. -/
def select (cases : List (Value × Grammar)) (otherwise : Grammar) (v : Value) : Grammar :=
  match cases.find? fun entry => entry.1.same v with
  | some entry => entry.2
  | none => otherwise

end Grammar

end ParserCombinators
