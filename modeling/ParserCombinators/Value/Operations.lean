import ParserCombinators.Number.Basic

/-!
# Operations on values

The callbacks of a grammar: tests of a value, changes of a value, and operators on two values.
Each takes values of certain kinds and raises `Fault.mismatchedKind` on all others; a truth value
does not pass for an integer.

## Main definitions

* `Value.isEven`, `Value.isAtLeast`, `Value.isToken`, … — tests.
* `Value.joinTexts`, `Value.reverse`, `Value.sum`, `Value.item`, … — changes.
* `Operator.apply`, `Value.apply` — operators on two values.
-/

set_option autoImplicit false

namespace ParserCombinators

namespace Value

/-! ## Integers -/

/-- The integer that a value is. -/
def toInt : Value → Except Fault Int
  | .int n => .ok n
  | _ => .error .mismatchedKind

/-- Whether an integer is even. -/
def isEven (v : Value) : Except Fault Bool :=
  return (← v.toInt) % 2 == 0

/-- Whether an integer is at least a bound. -/
def isAtLeast (bound : Int) (v : Value) : Except Fault Bool :=
  return bound ≤ (← v.toInt)

/-- The negative of an integer. -/
def negate (v : Value) : Except Fault Value :=
  return .int (-(← v.toInt))

/-- An integer with another one added to it. -/
def plus (n : Int) (v : Value) : Except Fault Value :=
  return .int ((← v.toInt) + n)

/-- An integer multiplied by another one. -/
def times (n : Int) (v : Value) : Except Fault Value :=
  return .int ((← v.toInt) * n)

/-! ## Kinds -/

/-- Whether a value is an integer; a truth value is none. -/
def isInt : Value → Bool
  | .int _ => true
  | _ => false

/-- Whether a value is a text. -/
def isText : Value → Bool
  | .str _ => true
  | _ => false

/-- Whether a value is a token of a type. -/
def isToken (type : String) : Value → Bool
  | .token kind _ => kind == type
  | _ => false

/-- The value that a token carries. -/
def tokenValue : Value → Except Fault Value
  | .token _ v => .ok v
  | _ => .error .mismatchedKind

/-! ## Texts -/

/-- The texts that some values are. -/
def toTexts : List Value → Except Fault (List String)
  | [] => .ok []
  | .str s :: vs => return s :: (← toTexts vs)
  | _ => .error .mismatchedKind

/-- Some texts, one after the other. -/
def joinTexts (vs : List Value) : Except Fault String :=
  return String.join (← toTexts vs)

/-- Texts can be joined. -/
theorem joinTexts_map_str (ts : List String) :
    joinTexts (ts.map .str) = .ok (String.join ts) := by
  have texts : toTexts (ts.map .str) = .ok ts := by
    induction ts with
    | nil => rfl
    | cons t ts ih =>
      rw [List.map_cons, toTexts, ih]
      rfl
  rw [joinTexts, texts]
  rfl

/-- The items of a list or tuple of texts, or of a text, one after the other. -/
def join : Value → Except Fault Value
  | .str s => .ok (.str s)
  | .list items | .tuple items => return .str (← joinTexts items)
  | _ => .error .mismatchedKind

/-- The number that a text of decimal digits denotes. -/
def parseDigits : Value → Except Fault Value
  | .str s =>
    let digits := s.toList
    if !digits.isEmpty && digits.all Char.isDigit then
      .ok (.int (digits.foldl (fun n c => 10 * n + (c.toNat - '0'.toNat)) 0 : Nat))
    else .error (.raised "bad int")
  | _ => .error .mismatchedKind

/-! ## Sequences -/

/-- The number of items of a text, run of bytes, list or tuple. -/
def length : Value → Except Fault Nat
  | .str s => .ok s.length
  | .bytes octets => .ok octets.length
  | .list items | .tuple items => .ok items.length
  | _ => .error .mismatchedKind

/-- Whether a sequence has at least so many items. -/
def isAsLongAs (bound : Int) (v : Value) : Except Fault Bool :=
  return bound ≤ (← v.length)

/-- A text, list or tuple from its end to its beginning. -/
def reverse : Value → Except Fault Value
  | .str s => .ok (.str (String.ofList s.toList.reverse))
  | .list items => .ok (.list items.reverse)
  | .tuple items => .ok (.tuple items.reverse)
  | _ => .error .mismatchedKind

/-- The sum of some integers, added to a first. -/
def sumFrom (total : Int) : List Value → Except Fault Int
  | [] => .ok total
  | v :: vs => do sumFrom (total + (← v.toInt)) vs

/-- The sum of a list or tuple of integers. -/
def sum : Value → Except Fault Value
  | .list items | .tuple items => return .int (← sumFrom 0 items)
  | _ => .error .mismatchedKind

/-- The item at an index of some items; a negative index counts from the end. -/
def itemAt (items : List Value) (i : Int) : Except Fault Value :=
  let index := if i < 0 then i + items.length else i
  match if index < 0 then Option.none else items[index.toNat]? with
  | some v => .ok v
  | Option.none => .error .outOfRange

/-- The item at an index of a list, tuple or text. -/
def item (i : Int) : Value → Except Fault Value
  | .list items | .tuple items => itemAt items i
  | .str s => itemAt (s.toList.map ofChar) i
  | _ => .error .mismatchedKind

end Value

/-! ## Operators -/

namespace Operator

/-- An operator that takes two integers. -/
def onInts (f : Int → Int → Except Fault Int) (x y : Value) : Except Fault Value :=
  return .int (← f (← x.toInt) (← y.toInt))

/-- A power of integers: an integer for an exponent that is not negative, and a binary64 number
otherwise. -/
def power (m n : Int) : Except Fault Value :=
  if 0 ≤ n then .ok (.int (Number.wholePower m n.toNat))
  else return .float (← Number.negativePower m n).toBits

/-- An operator applied to two values. -/
def apply : Operator → Value → Value → Except Fault Value
  | .pair, x, y => .ok (.tuple [x, y])
  | .left, x, _ => .ok x
  | .right, _, y => .ok y
  | .failing, _, _ => .error (.raised "operator raised")
  | .add, .str s, .str t => .ok (.str (s ++ t))
  | .add, x, y => onInts (fun m n => .ok (m + n)) x y
  | .sub, x, y => onInts (fun m n => .ok (m - n)) x y
  | .mul, x, y => onInts (fun m n => .ok (m * n)) x y
  | .pow, x, y => do power (← x.toInt) (← y.toInt)
  | .floorDiv, x, y =>
    onInts (fun m n => if n = 0 then .error .zeroDivisor else .ok (m.fdiv n)) x y

end Operator

/-- A value applied to two values: only an operator can be. -/
def Value.apply (f x y : Value) : Except Fault Value :=
  match f with
  | .operator op => op.apply x y
  | _ => .error .mismatchedKind

end ParserCombinators
