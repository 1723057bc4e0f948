import Mathlib.Algebra.Ring.Int.Defs
import ParserCombinators.Arithmetic.Table
import ParserCombinators.Proofs.Text.Decimal

/-!
# The grammar of expressions

Expression trees, the integers that they denote, and the ways to write them. There are four levels
of binding: an atom is a number or an expression in parentheses, a power is an atom that may be
raised to a power, a product is a chain of powers, and a sum is a chain of products. Blanks may
follow every number and every mark.

## Main definitions

* `Arithmetic.Tree`, `Arithmetic.Tree.value?` — trees and their values.
* `Arithmetic.Written` — how a tree is written at a level of binding.
* `Arithmetic.TextForm` — how a tree is written as a whole text.

## Main results

* `Arithmetic.Tree.apply_of_value?` — the operations on numbers give the value of a tree.
* `Arithmetic.Written.head_cases` — an expression begins with a digit or a parenthesis.
-/

set_option autoImplicit false

namespace ParserCombinators

namespace Arithmetic

/-! ## Trees -/

/-- An expression of natural numbers. -/
inductive Tree where
  /-- A number. -/
  | literal (n : Nat)
  /-- An operation on two expressions. -/
  | node (op : Operation) (left right : Tree)
  deriving DecidableEq, Repr

/-- The result of an operation on two integers if it is an integer whatever they are: a quotient is
left out, and so is a power whose exponent is negative. -/
def Operation.onInts? : Operation → Int → Int → Option Int
  | .add, m, n => some (m + n)
  | .sub, m, n => some (m - n)
  | .mul, m, n => some (m * n)
  | .div, _, _ => none
  | .pow, m, n => if 0 ≤ n then some (m ^ n.toNat) else none

/-- The integer that a tree denotes, if it holds no division and every exponent in it denotes an
integer that is not negative. -/
def Tree.value? : Tree → Option Int
  | .literal n => some n
  | .node op left right => left.value?.bind fun m => right.value?.bind fun n => op.onInts? m n

/-- An operation whose result on integers is an integer gives that integer. -/
lemma Operation.apply_of_onInts? {op : Operation} {m n v : Int} (h : op.onInts? m n = some v) :
    op.apply (.int m) (.int n) = .ok (.int v) := by
  cases op with
  | add | sub | mul =>
    cases h
    rfl
  | div => cases h
  | pow =>
    simp only [onInts?, Option.ite_none_right_eq_some, Option.some.injEq] at h
    obtain ⟨whole, rfl⟩ := h
    change Number.pow (.int m) (.int n) = _
    rw [Number.pow, if_pos whole, Number.wholePower_eq_pow]
    rfl

/-- The value of a tree is that of its operation on the values of its parts. -/
lemma Tree.apply_of_value? {op : Operation} {left right : Tree} {v : Int}
    (h : (Tree.node op left right).value? = some v) :
    ∃ m n, left.value? = some m ∧ right.value? = some n ∧
      op.apply (.int m) (.int n) = .ok (.int v) := by
  obtain ⟨m, hm, h⟩ := Option.bind_eq_some_iff.1 h
  obtain ⟨n, hn, h⟩ := Option.bind_eq_some_iff.1 h
  exact ⟨m, n, hm, hn, Operation.apply_of_onInts? h⟩

/-! ## Written forms -/

/-- Nothing but blanks. -/
def Blanks (w : List Char) : Prop :=
  ∀ x ∈ w, Text.isBlank x = true

/-- How a mark is written: the character and any number of blanks. -/
def MarkForm (c : Char) (w : List Char) : Prop :=
  ∃ blanks, Blanks blanks ∧ w = c :: blanks

/-- What is left some time after a mark is shorter than what was ahead before it. -/
lemma MarkForm.length_lt {c : Char} {m mid rest : List Char} (h : MarkForm c m)
    (suffix : rest <:+ mid) : rest.length < (m ++ mid).length := by
  obtain ⟨blanks, -, rfl⟩ := h
  have shorter := suffix.length_le
  simp only [List.cons_append, List.length_cons, List.length_append]
  omega

/-- What is left some time after a mark is not what was ahead before it. -/
lemma MarkForm.ne {c : Char} {m mid rest : List Char} (h : MarkForm c m)
    (suffix : rest <:+ mid) : rest ≠ m ++ mid := by
  intro same
  have shorter := h.length_lt suffix
  rw [same] at shorter
  exact lt_irrefl _ shorter

/-- The character that names an operation. -/
def Operation.mark : Operation → Char
  | .add => '+'
  | .sub => '-'
  | .mul => '*'
  | .div => '/'
  | .pow => '^'

/-- How tightly an expression binds, from the loosest to the tightest. -/
inductive Level where
  /-- Sums and differences. -/
  | sum
  /-- Products and quotients. -/
  | product
  /-- Powers. -/
  | power
  /-- Numbers and expressions in parentheses. -/
  | atom
  deriving DecidableEq, Repr

/-- How a tree is written at a level. Sums, differences, products and quotients go on to the right
of a first operand, and powers to the left of a last one. -/
inductive Written : Level → Tree → List Char → Prop where
  /-- A number, in digits. -/
  | number {n : Nat} {ds blanks : List Char} (digits : Text.Decimal n ds) (after : Blanks blanks) :
      Written .atom (.literal n) (ds ++ blanks)
  /-- An expression in parentheses. -/
  | parentheses {t : Tree} {opening w closing : List Char} (opens : MarkForm '(' opening)
      (inner : Written .sum t w) (closes : MarkForm ')' closing) :
      Written .atom t (opening ++ (w ++ closing))
  /-- An atom is a power. -/
  | ofAtom {t : Tree} {w : List Char} (only : Written .atom t w) : Written .power t w
  /-- An atom to a power. -/
  | power {left right : Tree} {u m v : List Char} (base : Written .atom left u)
      (sign : MarkForm '^' m) (exponent : Written .power right v) :
      Written .power (.node .pow left right) (u ++ (m ++ v))
  /-- A power is a product. -/
  | ofPower {t : Tree} {w : List Char} (only : Written .power t w) : Written .product t w
  /-- A product or quotient of a product and a power. -/
  | product {op : Operation} {left right : Tree} {u m v : List Char} (isOp : op = .mul ∨ op = .div)
      (first : Written .product left u) (sign : MarkForm op.mark m)
      (second : Written .power right v) : Written .product (.node op left right) (u ++ (m ++ v))
  /-- A product is a sum. -/
  | ofProduct {t : Tree} {w : List Char} (only : Written .product t w) : Written .sum t w
  /-- A sum or difference of a sum and a product. -/
  | sum {op : Operation} {left right : Tree} {u m v : List Char} (isOp : op = .add ∨ op = .sub)
      (first : Written .sum left u) (sign : MarkForm op.mark m)
      (second : Written .product right v) : Written .sum (.node op left right) (u ++ (m ++ v))

/-- How a tree is written as a whole text: blanks, and a sum. -/
def TextForm (t : Tree) (text : List Char) : Prop :=
  ∃ blanks w, Blanks blanks ∧ Written .sum t w ∧ text = blanks ++ w

/-- An expression begins with a digit or a parenthesis. -/
lemma Written.head_cases {l : Level} {t : Tree} {w : List Char} (h : Written l t w) :
    ∃ x tail, w = x :: tail ∧ (x.isDigit = true ∨ x = '(') := by
  induction h with
  | number digits _ =>
    obtain ⟨d, ds, rfl⟩ := List.exists_cons_of_ne_nil digits.nonempty
    exact ⟨d, _, rfl, .inl (digits.digits d List.mem_cons_self)⟩
  | parentheses opens _ _ _ =>
    obtain ⟨blanks, -, rfl⟩ := opens
    exact ⟨'(', _, rfl, .inr rfl⟩
  | ofAtom _ ih | ofPower _ ih | ofProduct _ ih => exact ih
  | power _ _ _ ih | product _ _ _ _ ih | sum _ _ _ _ ih =>
    obtain ⟨x, tail, rfl, h⟩ := ih
    exact ⟨x, _, rfl, h⟩

/-- An expression does not begin with a blank. -/
lemma Written.not_isBlank {l : Level} {t : Tree} {w : List Char} (h : Written l t w)
    (rest : List Char) : ∀ x ∈ (w ++ rest).head?, Text.isBlank x = false := by
  obtain ⟨x, tail, rfl, digit | rfl⟩ := h.head_cases
  · simpa using Text.isBlank_of_isDigit digit
  · simp only [List.cons_append, List.head?_cons, Option.mem_some_iff, forall_eq']
    decide

end Arithmetic

end ParserCombinators
