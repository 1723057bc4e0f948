import ParserCombinators.Binary64

/-!
# The shortest text of a binary64 number

A binary64 number is written with the fewest decimal digits that read back as the same number,
and of those with the digits nearest to it. The search goes through the numbers of digits from one
to seventeen; for each, only the two decimals on either side of the number can read back, because
a decimal between two that do reads back as well.

## Main definitions

* `Binary64.Decimal` — a whole number of digits times a power of ten.
* `Binary64.Decimal.nearest?` — the binary64 number that a decimal reads back as.
* `Binary64.shortest` — the shortest decimal that reads back.
* `Binary64.text` — the number in words: positional for exponents from -4 to 15, and with an
  exponent otherwise.
-/

set_option autoImplicit false

namespace ParserCombinators

namespace Binary64

/-! ## Decimals -/

/-- The number `digits · 10 ^ exponent`. -/
structure Decimal where
  /-- The digits as one whole number. -/
  digits : Nat
  /-- The exponent of ten of the last digit. -/
  exponent : Int
  deriving DecidableEq, Repr, Inhabited

/-- The power of ten with a given exponent. -/
def tenPow (n : Nat) : Nat :=
  Nat.pow 10 n

/-- The binary64 number nearest to a decimal; `none` beyond the finite range. -/
def Decimal.nearest? (d : Decimal) : Option Float :=
  ofRatio false (d.digits * tenPow d.exponent.toNat) (tenPow (-d.exponent).toNat)

/-- Whether a decimal reads back as the number `x`, whose sign bit is not set. -/
def Decimal.readsBack (d : Decimal) (x : Float) : Bool :=
  match d.nearest? with
  | some y => y.toBits == x.toBits
  | none => false

/-- The exact value of `m · 2 ^ e`: whole for `0 ≤ e`, and `m · 5 ^ (-e) / 10 ^ (-e)` otherwise. -/
def exactDecimal (m : Nat) (e : Int) : Decimal :=
  ⟨m * twoPow e.toNat * Nat.pow 5 (-e).toNat, min e 0⟩

/-- The number of decimal digits of a whole number. -/
def digitCount (n : Nat) : Nat :=
  (Nat.toDigits 10 n).length

/-! ## The shortest decimal -/

/-- The two decimals with a given last place between which a decimal lies, the nearer one first; of
two that are equally near, the one with an even last digit comes first. -/
def Decimal.neighbours (d : Decimal) (place : Int) : List Decimal :=
  let num := d.digits * tenPow (d.exponent - place).toNat
  let den := tenPow (place - d.exponent).toNat
  let below : Decimal := ⟨num / den, place⟩
  let above : Decimal := ⟨num / den + 1, place⟩
  if roundHalfEven num den = num / den then [below, above] else [above, below]

/-- The most digits that a binary64 number needs to be read back. -/
def sufficientDigits : Nat := 17

/-- The shortest decimal that reads back as the number `x`, whose sign bit is not set and whose
exact value is `d`. -/
def shortest (x : Float) (d : Decimal) : Decimal :=
  let top := d.exponent + digitCount d.digits
  let found := (List.range sufficientDigits).findSome? fun (n : Nat) =>
    (d.neighbours (top - n - 1)).find? (·.readsBack x)
  found.getD d

/-! ## Layout -/

/-- The digits of a decimal without the zeros at their end; at least one digit is left. -/
def Decimal.significant (d : Decimal) : List Char :=
  match ((Nat.toDigits 10 d.digits).reverse.dropWhile (· == '0')).reverse with
  | [] => ['0']
  | digits => digits

/-- The number of digits before the point; negative where zeros follow the point. -/
def Decimal.pointPlace (d : Decimal) : Int :=
  digitCount d.digits + d.exponent

/-- Digits with a point after so many of them, and zeros in the places between the point and the
digits; at least one digit stands on either side of the point. -/
def positional (digits : List Char) (place : Int) : List Char :=
  if place ≤ 0 then '0' :: '.' :: (List.replicate (-place).toNat '0' ++ digits)
  else
    let fraction := digits.drop place.toNat
    digits.take place.toNat ++ List.replicate (place.toNat - digits.length) '0' ++
      '.' :: (if fraction.isEmpty then ['0'] else fraction)

/-- An exponent with its sign and at least two digits. -/
def exponentText (e : Int) : List Char :=
  let digits := Nat.toDigits 10 e.natAbs
  'e' :: (if e < 0 then '-' else '+') :: (List.replicate (2 - digits.length) '0' ++ digits)

/-- Digits with a point after the first of them, unless it is the only one, and an exponent. -/
def scientific (digits : List Char) (place : Int) : List Char :=
  match digits with
  | [] => []
  | [digit] => digit :: exponentText (place - 1)
  | digit :: rest => digit :: '.' :: rest ++ exponentText (place - 1)

/-- A decimal in words: positional where the point stands at most 3 places before the digits or 16
places after the first of them. -/
def Decimal.text (d : Decimal) : String :=
  let place := d.pointPlace
  String.ofList
    (if -4 < place ∧ place ≤ 16 then positional d.significant place
    else scientific d.significant place)

/-- A binary64 number in words. -/
def text (x : Float) : String :=
  match decode? x with
  | none => if x.isNaN then "nan" else if x < 0 then "-inf" else "inf"
  | some (m, e) =>
    let magnitude := if isNegative x then -x else x
    let written :=
      if m = 0 then "0.0" else (shortest magnitude (exactDecimal m.natAbs e)).text
    if isNegative x then "-" ++ written else written

end Binary64

end ParserCombinators
