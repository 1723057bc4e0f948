import ParserCombinators.Number.Complex

/-!
# Numbers

Integers stay exact as long as the result of an operation is an integer: under addition,
subtraction, multiplication, and powers with an exponent that is not negative. Division, negative
exponents and operations with a binary64 number give binary64 numbers, and powers of negative
numbers between the whole exponents, and all operations with such a power, give complex numbers;
an integer that meets either is first rounded to the nearest.

The powers that are real numbers are whole powers of integers, which are exact, and powers of
binary64 numbers, which are rounded.

## Main definitions

* `Number` — an integer, a binary64 number or a complex number.
* `Number.wholePower`, `Number.negativePower` — a power of an integer with a natural exponent, and
  one with a negative exponent.
* `Number.realPower` — a power of binary64 numbers.
* `Number.add`, `Number.sub`, `Number.mul`, `Number.div`, `Number.pow` — the operations.

## Main results

* `Number.wholePower_eq_pow` — `Number.wholePower m n` is the power, although large exponents of
  small integers are shortened.
-/

set_option autoImplicit false

namespace ParserCombinators

/-- An integer, a binary64 number or a complex number. -/
inductive Number where
  /-- An integer. -/
  | int (n : Int)
  /-- A binary64 number. -/
  | float (x : Float)
  /-- A complex number with binary64 parts. -/
  | complex (a : Complex)
  deriving Inhabited

namespace Number

/-! ## Real powers -/

/-- A power of an integer with a natural exponent. The powers of zero and of plus and minus one
repeat with period two, so however great the exponent is the first or the second is the answer. -/
def wholePower (m : Int) (n : Nat) : Int :=
  Int.pow m (if m.natAbs ≤ 1 ∧ n ≠ 0 then 2 - n % 2 else n)

/-- Shortening the exponent does not change the power. -/
theorem wholePower_eq_pow (m : Int) (n : Nat) : wholePower m n = Int.pow m n := by
  unfold wholePower
  split
  next h =>
    obtain ⟨small, positive⟩ := h
    have zero := Nat.zero_pow (Nat.pos_of_ne_zero positive)
    have cases : m = 0 ∨ m = 1 ∨ m = Int.negSucc 0 := by omega
    rcases Nat.mod_two_eq_zero_or_one n with parity | parity
      <;> rcases cases with rfl | rfl | rfl <;> simp [Int.pow, parity, zero]
  next => rfl

/-- A power of binary64 numbers that is real. Zero has no powers with a finite negative exponent,
and a power of finite numbers that is not finite is beyond the range. -/
def realPower (x y : Float) : Except Fault Float :=
  if x == 0 && y < 0 && y.isFinite then .error .zeroDivisor
  else
    let power := x.pow y
    if x.isFinite && y.isFinite && power.isInf then .error .overflow else .ok power

/-- The nearest binary64 number; an integer beyond their range is a fault. -/
def rounded (n : Int) : Except Fault Float :=
  match Binary64.ofInt n with
  | some x => .ok x
  | none => .error .overflow

/-- A power of integers whose exponent is negative, as a binary64 number. -/
def negativePower (m n : Int) : Except Fault Float := do
  realPower (← rounded m) (← rounded n)

/-! ## Kinds -/

/-- The nearest complex number; an integer beyond the range of binary64 is a fault. -/
def toComplex : Number → Except Fault Complex
  | .int n => return .ofReal (← rounded n)
  | .float x => .ok (.ofReal x)
  | .complex a => .ok a

/-- An operation on two numbers of different kinds: on complex numbers if one of them is complex,
and otherwise on binary64 numbers. -/
def mixed (onFloats : Float → Float → Except Fault Number)
    (onComplexes : Complex → Complex → Except Fault Complex) :
    Number → Number → Except Fault Number
  | .int m, .int n => do onFloats (← rounded m) (← rounded n)
  | .int m, .float y => do onFloats (← rounded m) y
  | .float x, .int n => do onFloats x (← rounded n)
  | .float x, .float y => onFloats x y
  | a, b => return .complex (← onComplexes (← a.toComplex) (← b.toComplex))

/-- An operation on integers where both numbers are. -/
def lift (onInts : Int → Int → Int) (onFloats : Float → Float → Float)
    (onComplexes : Complex → Complex → Complex) : Number → Number → Except Fault Number
  | .int m, .int n => .ok (.int (onInts m n))
  | a, b =>
    mixed (fun x y => .ok (.float (onFloats x y))) (fun a b => .ok (onComplexes a b)) a b

/-! ## Operations -/

/-- The sum. -/
def add : Number → Number → Except Fault Number :=
  lift (· + ·) (· + ·) Complex.add

/-- The difference. -/
def sub : Number → Number → Except Fault Number :=
  lift (· - ·) (· - ·) Complex.sub

/-- The product. -/
def mul : Number → Number → Except Fault Number :=
  lift (· * ·) (· * ·) Complex.mul

/-- Whether a number is zero, of either sign. -/
def isZero : Number → Bool
  | .int n => n == 0
  | .float x => x == 0
  | .complex a => a.isZero

/-- The quotient of two integers, the second not zero, rounded once. -/
def ratio (m n : Int) : Except Fault Number :=
  match Binary64.ofRatio ((m < 0) != (n < 0)) m.natAbs n.natAbs with
  | some x => .ok (.float x)
  | none => .error .overflow

/-- The quotient. -/
def div (a b : Number) : Except Fault Number :=
  if b.isZero then .error .divisionByZero
  else
    match a, b with
    | .int m, .int n => ratio m n
    | a, b => mixed (fun x y => .ok (.float (x / y))) (fun a b => .ok (a.div b)) a b

/-- A power of binary64 numbers: complex if a finite negative number is raised to a finite exponent
that is not whole, and real otherwise. -/
def powFloat (x y : Float) : Except Fault Number :=
  if x < 0 && x.isFinite && y.isFinite && y.floor != y then
    return .complex (← (Complex.ofReal x).pow (.ofReal y))
  else return .float (← realPower x y)

/-- The power. -/
def pow (a b : Number) : Except Fault Number :=
  match a, b with
  | .int m, .int n =>
    if 0 ≤ n then .ok (.int (wholePower m n.toNat)) else return .float (← negativePower m n)
  | a, b => mixed powFloat Complex.pow a b

/-! ## In words -/

/-- A number in words: an integer without a point, a binary64 number with a point or an exponent. -/
def text : Number → String
  | .int n => toString n
  | .float x => Binary64.text x
  | .complex a => a.text

end Number

end ParserCombinators
