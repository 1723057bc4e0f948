import Mathlib.Data.List.DropRight
import ParserCombinators.Text.Numeral

/-!
# Decimal numbers

A run of ASCII digits is a numeral, and denotes the number that it has in base ten. Zeros at its
beginning do not matter. A numeral with a sign before it denotes an integer.

## Main definitions

* `Text.Decimal` — a run of ASCII digits denotes an integer.
* `Text.SignedDecimal` — so does one with a sign before it.

## Main results

* `Text.Decimal.read?_eq` — such a run is read as that integer.
* `Text.noDigitFirst_or_decimal` — the digits at the beginning of a text are a numeral.
* `Text.signedDecimal_toString` — an integer is printed as a numeral that denotes it.
-/

set_option autoImplicit false

namespace ParserCombinators

namespace Text

/-- The number that ASCII digits denote after some that denote `acc`. -/
def decimalAfter (acc : Nat) (ds : List Char) : Nat :=
  ds.foldl (fun n d => 10 * n + (d.toNat - '0'.toNat)) acc

/-- `ds` is a run of ASCII digits, at least one, and denotes `n` in base ten. -/
structure Decimal (n : Int) (ds : List Char) : Prop where
  /-- There is a digit. -/
  nonempty : ds ≠ []
  /-- All characters are digits. -/
  digits : ∀ d ∈ ds, d.isDigit = true
  /-- The number in base ten. -/
  value : n = decimalAfter 0 ds

/-- No ASCII digit comes first. -/
def NoDigitFirst (cs : List Char) : Prop :=
  ∀ x ∈ cs.head?, x.isDigit = false

/-- A sign before a number, which may be missing, and the factor that it stands for. -/
inductive Sign : Int → List Char → Prop
  /-- No sign stands for one. -/
  | none : Sign 1 []
  | plus : Sign 1 ['+']
  | minus : Sign (-1) ['-']

/-- A run of ASCII digits with an optional sign before it, and the integer that it denotes. -/
def SignedDecimal (n : Int) (ws : List Char) : Prop :=
  ∃ factor sign m ds, Sign factor sign ∧ Decimal m ds ∧ n = factor * m ∧ ws = sign ++ ds

variable {d : Char} {ds : List Char}

/-- The code points of the digits. -/
lemma toNat_of_isDigit (h : d.isDigit = true) : 48 ≤ d.toNat ∧ d.toNat ≤ 57 := by
  simp only [Char.isDigit, Bool.and_eq_true, decide_eq_true_eq, ge_iff_le] at h
  exact ⟨UInt32.le_iff_toNat_le.1 h.1, UInt32.le_iff_toNat_le.1 h.2⟩

/-- A digit is no blank. -/
lemma isBlank_of_isDigit (h : d.isDigit = true) : isBlank d = false := by
  obtain ⟨least, greatest⟩ := toNat_of_isDigit h
  have outside : ∀ code < 58, 48 ≤ code → blanks.any (·.contains code) = false := by decide
  exact outside d.toNat (by omega) least

/-- A blank is no digit. -/
lemma isDigit_of_isBlank (h : isBlank d = true) : d.isDigit = false := by
  by_contra digit
  simp [isBlank_of_isDigit (Bool.not_eq_false _ ▸ digit)] at h

namespace Numeral

/-- A digit has its value. -/
lemma digitValue?_of_isDigit (h : d.isDigit = true) :
    digitValue? d = some (d.toNat - '0'.toNat) := by
  obtain ⟨least, greatest⟩ := toNat_of_isDigit h
  have first : (48 ≤ d.toNat && d.toNat < 48 + 10) = true := by
    simp only [Bool.and_eq_true, decide_eq_true_eq]
    omega
  simp only [digitValue?, zeros, List.find?_cons_of_pos (p := fun first =>
    decide (first ≤ d.toNat) && decide (d.toNat < first + 10)) first, Option.map_some]
  rfl

/-- A digit is no white space. -/
lemma isWhiteSpace_of_isDigit (h : d.isDigit = true) : isWhiteSpace d = false := by
  simp [isWhiteSpace, isBlank_of_isDigit h]

/-- Digits are read one after the other. -/
lemma readAfter_of_digits (h : ∀ d ∈ ds, d.isDigit = true) (acc : Nat) :
    readAfter acc ds = some (decimalAfter acc ds) := by
  induction ds generalizing acc with
  | nil => rfl
  | cons d ds ih =>
    have digit : d.isDigit = true := h d List.mem_cons_self
    have plain : d ≠ '_' := by
      rintro rfl
      exact absurd digit (by decide)
    rw [readAfter]
    · simp only [digitValue?_of_isDigit digit, Option.bind_some]
      exact ih (fun x hx => h x (List.mem_cons_of_mem d hx)) _
    · exact fun _ _ eq => absurd eq plain

/-- Digits have no white space at their end. -/
lemma trimmed_of_digits (h : ∀ d ∈ ds, d.isDigit = true) : trimmed ds = ds := by
  refine List.rdropWhile_eq_self_iff.2 fun nonempty => ?_
  simp [isWhiteSpace_of_isDigit (h _ (List.getLast_mem nonempty))]

end Numeral

/-- A run of digits is read as the number that it denotes. -/
lemma Decimal.read?_eq {n : Int} (h : Decimal n ds) :
    (Numeral.read? ds).map Int.ofNat = some n := by
  obtain ⟨nonempty, digits, rfl⟩ := h
  obtain ⟨d, ds, rfl⟩ := List.exists_cons_of_ne_nil nonempty
  have digit : d.isDigit = true := digits d List.mem_cons_self
  have others := Numeral.readAfter_of_digits fun x hx => digits x (List.mem_cons_of_mem d hx)
  simp only [Numeral.read?, Numeral.trimmed_of_digits digits, Numeral.digitValue?_of_isDigit digit,
    Option.bind_some, others, Option.map_some]
  simp [decimalAfter]

/-! ## Where a numeral ends -/

/-- A numeral begins with a digit, and so with no sign. -/
lemma Decimal.noSignFirst {n : Int} (h : Decimal n ds) (rest : List Char) :
    '-' ∉ (ds ++ rest).head? ∧ '+' ∉ (ds ++ rest).head? := by
  obtain ⟨d, ds, rfl⟩ := List.exists_cons_of_ne_nil h.nonempty
  have digit : d.isDigit = true := h.digits d List.mem_cons_self
  rw [List.cons_append, List.head?_cons, Option.mem_some_iff, Option.mem_some_iff]
  constructor <;> rintro rfl <;> cases digit

/-- A numeral goes on up to the first character that is no digit. -/
lemma Decimal.exists_extend {n : Int} (h : Decimal n ds) (cs : List Char) :
    ∃ m es rest, cs = es ++ rest ∧ Decimal m (ds ++ es) ∧ NoDigitFirst rest := by
  refine ⟨_, cs.takeWhile Char.isDigit, cs.dropWhile Char.isDigit,
    List.takeWhile_append_dropWhile.symm, ⟨?_, fun d hd => ?_, rfl⟩, fun x hx => ?_⟩
  · simp [h.nonempty]
  · obtain there | there := List.mem_append.1 hd
    · exact h.digits d there
    · exact List.mem_takeWhile_imp there
  · simpa [Option.mem_def.1 hx] using List.head?_dropWhile_not Char.isDigit cs

/-- Characters begin with a numeral exactly if a digit comes first. -/
lemma noDigitFirst_or_decimal (cs : List Char) :
    NoDigitFirst cs ∨ ∃ n ds rest, cs = ds ++ rest ∧ Decimal n ds ∧ NoDigitFirst rest := by
  by_cases none : NoDigitFirst cs
  · exact .inl none
  simp only [NoDigitFirst, not_forall, Bool.not_eq_false] at none
  obtain ⟨d, first, digit⟩ := none
  obtain ⟨others, rfl⟩ := List.head?_eq_some_iff.1 first
  have alone : Decimal _ [d] := ⟨by simp, by simpa using digit, rfl⟩
  obtain ⟨n, es, rest, rfl, decimal, stop⟩ := alone.exists_extend others
  exact .inr ⟨n, d :: es, rest, rfl, decimal, stop⟩

/-- Characters begin with a sign, or with something else. -/
lemma exists_sign (cs : List Char) : ∃ factor ws rest, Sign factor ws ∧ cs = ws ++ rest ∧
    (ws = [] → '-' ∉ rest.head? ∧ '+' ∉ rest.head?) := by
  by_cases minus : '-' ∈ cs.head?
  · obtain ⟨rest, rfl⟩ := List.head?_eq_some_iff.1 minus
    exact ⟨-1, ['-'], rest, .minus, rfl, by simp⟩
  by_cases plus : '+' ∈ cs.head?
  · obtain ⟨rest, rfl⟩ := List.head?_eq_some_iff.1 plus
    exact ⟨1, ['+'], rest, .plus, rfl, by simp⟩
  · exact ⟨1, [], cs, .none, rfl, fun _ => ⟨minus, plus⟩⟩

/-! ## Numbers in print -/

/-- A natural number is printed as digits that denote it. -/
lemma decimal_repr (n : Nat) : Decimal n n.repr.toList := by
  rw [Nat.toList_repr]
  exact ⟨Nat.toDigits_ne_nil, fun d => Nat.isDigit_of_mem_toDigits (by decide) (by decide),
    congrArg Int.ofNat (Nat.ofDigitChars_toDigits (by decide) (by decide)).symm⟩

/-- An integer is printed as a signed numeral that denotes it. -/
lemma signedDecimal_toString (n : Int) : SignedDecimal n (toString n).toList := by
  cases n with
  | ofNat n => exact ⟨1, [], n, _, .none, decimal_repr n, by simp, rfl⟩
  | negSucc n =>
    refine ⟨-1, ['-'], (n + 1 : Nat), _, .minus, decimal_repr (n + 1), by omega, ?_⟩
    change ("-" ++ (n + 1).repr).toList = _
    simp

end Text

end ParserCombinators
