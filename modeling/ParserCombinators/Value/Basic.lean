import ParserCombinators.Binary64

/-!
# Values

Symbols, results and the parts of diagnostics are values of one dynamic type: a grammar is
handed over as data, so what its parsers produce is known only when it runs. This file holds the
type and what the parsers themselves ask of a value.

## Main definitions

* `Value` — scalars, texts, sequences, tokens of a lexer, operators.
* `Value.same` — equality across kinds: the truth values count as 0 and 1, and numbers are equal
  when their exact values are.
* `Value.isTruthy` — which values count as true.
* `Value.isHashable` — which values can be looked up in a set.
* `Value.items?` — the items of a value that is a sequence.
-/

set_option autoImplicit false

namespace ParserCombinators

/-- The two-argument functions that an operator parser can yield. -/
inductive Operator where
  /-- The pair of both arguments. -/
  | pair
  /-- The first argument. -/
  | left
  /-- The second argument. -/
  | right
  /-- Raises a fault whatever it is given. -/
  | failing
  /-- The sum of two integers, or two texts one after the other. -/
  | add
  /-- The difference of two integers. -/
  | sub
  /-- The product of two integers. -/
  | mul
  /-- The first integer to the power of the second. -/
  | pow
  /-- The quotient of two integers, rounded toward minus infinity. -/
  | floorDiv
  deriving DecidableEq, Repr, Inhabited

/-- A symbol of the input, a result of a parser, or a part of a diagnostic. -/
inductive Value where
  /-- The absent value. -/
  | none
  /-- A truth value. -/
  | bool (flag : Bool)
  /-- An integer of any size. -/
  | int (number : Int)
  /-- A binary64 number, as its bits; a value that is no number keeps them too. -/
  | float (bits : UInt64)
  /-- A text; a symbol of a text input is a text of one character. -/
  | str (text : String)
  /-- A run of bytes. -/
  | bytes (octets : List UInt8)
  /-- A list. -/
  | list (items : List Value)
  /-- A tuple. -/
  | tuple (items : List Value)
  /-- A token of a lexer: its type and the value it carries. -/
  | token (type : String) (value : Value)
  /-- What stands in a diagnostic where a symbol is missing. -/
  | endOfInput
  /-- A function of two arguments. -/
  | operator (op : Operator)
  /-- A double-ended queue of collected items. -/
  | deque (items : List Value)
  /-- A number of collected items. -/
  | counter (count : Nat)
  deriving Inhabited

namespace Value

/-! ## Equality -/

/-- A truth value as a number. -/
def ofFlag (flag : Bool) : Int :=
  if flag then 1 else 0

mutual

/-- Equality of values. Truth values, integers and binary64 numbers are equal when their exact
values are; all other values are equal only to values of their own kind, item by item.

To compare two symbols is taken to return: a symbol whose own comparison raises a fault is none of
these values. -/
def same : Value → Value → Bool
  | .none, .none => true
  | .bool a, .bool b => a == b
  | .bool a, .int n => ofFlag a == n
  | .bool a, .float x => Binary64.isInteger (.ofBits x) (ofFlag a)
  | .int m, .bool b => m == ofFlag b
  | .int m, .int n => m == n
  | .int m, .float x => Binary64.isInteger (.ofBits x) m
  | .float x, .bool b => Binary64.isInteger (.ofBits x) (ofFlag b)
  | .float x, .int n => Binary64.isInteger (.ofBits x) n
  | .float x, .float y => Float.ofBits x == Float.ofBits y
  | .str s, .str t => s == t
  | .bytes s, .bytes t => s == t
  | .list xs, .list ys => sameItems xs ys
  | .tuple xs, .tuple ys => sameItems xs ys
  | .token a x, .token b y => a == b && same x y
  | .endOfInput, .endOfInput => true
  | .operator f, .operator g => f == g
  | .deque xs, .deque ys => sameItems xs ys
  | .counter m, .counter n => m == n
  | _, _ => false

/-- Equality of two runs of values: as long as each other, and equal item by item. -/
def sameItems : List Value → List Value → Bool
  | [], [] => true
  | x :: xs, y :: ys => same x y && sameItems xs ys
  | _, _ => false

end

/-- Whether a list of values holds one that is equal to `v`. -/
def memberOf (v : Value) (values : List Value) : Bool :=
  values.any (v.same ·)

/-! ## Truth -/

/-- Absence, falsehood, zero and everything empty count as false, all else as true. -/
def isTruthy : Value → Bool
  | .none => false
  | .bool flag => flag
  | .int n => n != 0
  | .float x => Float.ofBits x != 0
  | .str s => !s.isEmpty
  | .bytes octets => !octets.isEmpty
  | .list items => !items.isEmpty
  | .tuple items => !items.isEmpty
  | .deque items => !items.isEmpty
  | .token _ _ | .endOfInput | .operator _ | .counter _ => true

/-! ## Look-up in a set -/

mutual

/-- Lists and double-ended queues can be changed by whoever holds them, so neither they nor what
holds one can be looked up in a set. -/
def isHashable : Value → Bool
  | .list _ | .deque _ => false
  | .tuple items => allHashable items
  | .token _ value => isHashable value
  | _ => true

/-- Whether every one of some values can be looked up in a set. -/
def allHashable : List Value → Bool
  | [] => true
  | v :: vs => isHashable v && allHashable vs

end

/-! ## Sequences -/

/-- The symbol that a character of a text is. -/
def ofChar (c : Char) : Value :=
  .str (String.singleton c)

/-- The symbol that a byte is. -/
def ofByte (b : UInt8) : Value :=
  .int b.toNat

/-- The items of a sequence in order: the characters of a text, the numbers of a run of bytes,
the items of a list, tuple or queue. Other values are no sequences. -/
def items? : Value → Option (List Value)
  | .str s => some (s.toList.map ofChar)
  | .bytes octets => some (octets.map ofByte)
  | .list items | .tuple items | .deque items => some items
  | _ => Option.none

end Value

end ParserCombinators
