import ParserCombinators.Binary64
import ParserCombinators.Fault

/-!
# Complex numbers

Complex numbers whose parts are binary64 numbers. A root of a negative number is one; what is
computed with it further on is complex too, even where the imaginary part has become zero.

## Main definitions

* `Complex` — a real and an imaginary part.
* `Complex.add`, `Complex.sub`, `Complex.mul`, `Complex.div` — the operations.
* `Complex.pow` — powers: by repeated squaring for small whole exponents, and in polar form
  otherwise.
-/

set_option autoImplicit false

namespace ParserCombinators

/-- A complex number with binary64 parts. -/
structure Complex where
  /-- The real part. -/
  re : Float
  /-- The imaginary part. -/
  im : Float
  deriving Inhabited

namespace Complex

/-- A real number as a complex one. -/
def ofReal (x : Float) : Complex :=
  ⟨x, 0⟩

/-- Whether both parts are zero, of either sign. -/
def isZero (a : Complex) : Bool :=
  a.re == 0 && a.im == 0

/-! ## Sums, products and quotients -/

/-- The sum. -/
def add (a b : Complex) : Complex :=
  ⟨a.re + b.re, a.im + b.im⟩

/-- The difference. -/
def sub (a b : Complex) : Complex :=
  ⟨a.re - b.re, a.im - b.im⟩

/-- The product. -/
def mul (a b : Complex) : Complex :=
  ⟨a.re * b.re - a.im * b.im, a.re * b.im + a.im * b.re⟩

/-- The quotient by a divisor that is not zero. Both numbers are first divided by the greater part
of the divisor, so that no square leaves the range. -/
def div (a b : Complex) : Complex :=
  if b.im.abs ≤ b.re.abs then
    let ratio := b.im / b.re
    let scale := b.re + b.im * ratio
    ⟨(a.re + a.im * ratio) / scale, (a.im - a.re * ratio) / scale⟩
  else if b.re.abs ≤ b.im.abs then
    let ratio := b.re / b.im
    let scale := b.re * ratio + b.im
    ⟨(a.re * ratio + a.im) / scale, (a.im * ratio - a.re) / scale⟩
  else ⟨Binary64.invalid, Binary64.invalid⟩

/-! ## Powers -/

/-- The product of `acc` and the power of `a` with a whole exponent, by repeated squaring from the
last bit of the exponent to its first. -/
def powMul (acc a : Complex) (n : Nat) : Complex :=
  if n = 0 then acc
  else powMul (if n % 2 = 1 then acc.mul a else acc) (a.mul a) (n / 2)
termination_by n

/-- The power with a whole exponent. -/
def powNat (a : Complex) (n : Nat) : Complex :=
  powMul (ofReal 1) a n

/-- The greatest exponent for which squaring is repeated. -/
def squaringLimit : Float := 100

/-- The power with a whole exponent that may be negative; zero has no negative powers. -/
def powWhole (a : Complex) (exponent : Float) : Except Fault Complex :=
  let power := a.powNat exponent.abs.toUInt64.toNat
  if 0 ≤ exponent then .ok power
  else if power.isZero then .error .zeroDivisor
  else .ok ((ofReal 1).div power)

/-- The power in polar form: the length is raised to the real part of the exponent and the angle
multiplied by it, and an imaginary part of the exponent turns the one into the other. Of zero there
are only powers with exponents that are real and not negative, and an infinite angle has no
direction. -/
def powPolar (a b : Complex) : Except Fault Complex :=
  if b.isZero then .ok (ofReal 1)
  else if a.isZero then
    if b.im != 0 || b.re < 0 then .error .zeroDivisor else .ok (ofReal 0)
  else
    let length := Binary64.hypotenuse a.re a.im
    let angle := Float.atan2 a.im a.re
    let scaled := length.pow b.re
    let turned := angle * b.re
    let (scaled, turned) :=
      if b.im != 0 then (scaled / (angle * b.im).exp, turned + b.im * length.log)
      else (scaled, turned)
    if turned.isInf then .error .zeroDivisor
    else .ok ⟨scaled * turned.cos, scaled * turned.sin⟩

/-- The power; one with an infinite part is beyond the range. -/
def pow (a b : Complex) : Except Fault Complex := do
  let power ←
    if b.im == 0 && b.re.floor == b.re && b.re.abs ≤ squaringLimit then a.powWhole b.re
    else a.powPolar b
  if power.re.isInf || power.im.isInf then .error .overflow else return power

/-- A complex number in words. -/
def text (a : Complex) : String :=
  Binary64.text a.re ++ " + " ++ Binary64.text a.im ++ "i"

end Complex

end ParserCombinators
