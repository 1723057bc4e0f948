/-!
# Binary64 numbers as exact ratios

A finite binary64 number is a whole number times a power of two. This file reads that pair off
the bits of a `Float`, and rounds an exact ratio of whole numbers to the nearest binary64 number.
The root of the sum of two squares is computed exactly and rounded once, so that it neither leaves
the range nor loses its last place on the way.

## Main definitions

* `Binary64.decode?` — the pair `(m, e)` with `x = m · 2 ^ e`, for finite `x`.
* `Binary64.ofRatio` — the binary64 number nearest to `± num / den`, ties to the even mantissa.
* `Binary64.floorSqrt` — the root of a whole number, rounded down.
* `Binary64.hypotenuse` — the hypotenuse of two binary64 numbers.
-/

set_option autoImplicit false

namespace ParserCombinators

namespace Binary64

/-- The power of two with a given exponent. -/
def twoPow (n : Nat) : Nat :=
  Nat.pow 2 n

/-! ## Reading the bits -/

/-- The exponent of the last place of the smallest binary64 numbers. -/
def leastExponent : Int := -1074

/-- Whether the sign bit is set; negative zero has it too. -/
def isNegative (x : Float) : Bool :=
  x.toBits.toNat / twoPow 63 == 1

/-- The pair `(m, e)` with `x = m · 2 ^ e`; `none` for the infinities and NaN. -/
def decode? (x : Float) : Option (Int × Int) :=
  let bits : Nat := x.toBits.toNat
  let fraction : Nat := bits % twoPow 52
  let exponent : Nat := bits / twoPow 52 % twoPow 11
  let sign : Int := if isNegative x then -1 else 1
  if exponent = 2047 then none
  else if exponent = 0 then some (sign * fraction, leastExponent)
  else some (sign * (twoPow 52 + fraction), leastExponent + exponent - 1)

/-- Whether the number `x` is the integer `n`. -/
def isInteger (x : Float) (n : Int) : Bool :=
  match decode? x with
  | none => false
  | some (m, e) => m * twoPow e.toNat == n * twoPow (-e).toNat

/-! ## Rounding a ratio -/

/-- The whole number nearest to `num / den`; a tie goes to the even neighbour. -/
def roundHalfEven (num den : Nat) : Nat :=
  let floor := num / den
  let rest := 2 * (num % den)
  if rest < den then floor
  else if den < rest then floor + 1
  else floor + floor % 2

/-- Numerator and denominator of `num / den / 2 ^ e`. -/
def scale (num den : Nat) (e : Int) : Nat × Nat :=
  (num * twoPow (-e).toNat, den * twoPow e.toNat)

/-- The exponent of the last place of the binary64 numbers around `num / den`: with it the
mantissa has 53 bits, or fewer where the exponent cannot fall further. -/
def lastPlace (num den : Nat) : Int :=
  let e := max (num.log2 - den.log2 - 53 : Int) leastExponent
  let scaled := scale num den e
  if scaled.1 / scaled.2 < twoPow 53 then e else e + 1

/-- The binary64 number nearest to `num / den`, or to its negative; a tie goes to the even
mantissa. `none` when the nearest number would lie beyond the finite range. -/
def ofRatio (negative : Bool) (num den : Nat) : Option Float :=
  let signBits : Nat := if negative then twoPow 63 else 0
  if num = 0 then some (Float.ofBits (UInt64.ofNat signBits))
  else
    let e := lastPlace num den
    let scaled := scale num den e
    -- a mantissa without its leading bit continues the exponent field below it
    let bits := (e - leastExponent).toNat * twoPow 52 + roundHalfEven scaled.1 scaled.2
    if bits < 2047 * twoPow 52 then some (Float.ofBits (UInt64.ofNat (signBits + bits))) else none

/-- The binary64 number nearest to an integer; `none` beyond the finite range. -/
def ofInt (n : Int) : Option Float :=
  ofRatio (n < 0) n.natAbs 1

/-! ## Roots of whole numbers -/

/-- The root of `n` rounded down, approached from a bound above it: the mean of the bound and of
what it divides `n` into is a better bound, until the root is reached. -/
def floorSqrtBelow (n bound : Nat) : Nat :=
  let next := (bound + n / bound) / 2
  if next < bound then floorSqrtBelow n next else bound
termination_by bound

/-- The root of `n`, rounded down. -/
def floorSqrt (n : Nat) : Nat :=
  floorSqrtBelow n (twoPow (n.log2 / 2 + 1))

/-! ## Hypotenuses -/

/-- The number above all finite ones. -/
def infinity : Float := Float.ofBits 0x7ff0000000000000

/-- The result of an operation that has none. -/
def invalid : Float := Float.ofBits 0x7ff8000000000000

/-- The number of bits by which a sum of squares is widened before its root is rounded down. -/
def guardBits : Nat := 64

/-- The binary64 number nearest to `2 ^ e` times the root of `square`, which is not zero. The root
that is rounded down has more bits than a mantissa, so of what it leaves out only matters whether
there is anything, and that is the last bit of `root`. -/
def scaledSqrt (square : Nat) (e : Int) : Float :=
  let wide := square * twoPow (2 * guardBits)
  let floor := floorSqrt wide
  let root := 2 * floor + (if floor * floor = wide then 0 else 1)
  let ratio := scale root (twoPow (guardBits + 1)) (-e)
  (ofRatio false ratio.1 ratio.2).getD infinity

/-- The hypotenuse over two legs. Over an infinite leg it is infinite, whatever the other is. -/
def hypotenuse (x y : Float) : Float :=
  match decode? x, decode? y with
  | some (m, e), some (n, f) =>
    let least := min e f
    let a := m.natAbs * twoPow (e - least).toNat
    let b := n.natAbs * twoPow (f - least).toNat
    scaledSqrt (a * a + b * b) least
  | _, _ => if x.isInf || y.isInf then infinity else invalid

end Binary64

end ParserCombinators
