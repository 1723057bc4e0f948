import Mathlib.Data.List.Infix
import ParserCombinators.Proofs.Cursor.Reach

/-!
# The characters ahead of a cursor

A cursor over a text is known by the characters that follow it: every cursor that it reaches has
a suffix of them ahead, and has moved exactly if that suffix is shorter.

## Main definitions

* `Cursor.OverText`, `Cursor.OnText` — a cursor over a text, and one that is not past its end.
* `Cursor.ahead` — the characters that follow a cursor.

## Main results

* `Cursor.OverText.head?_eq` — the next symbol, also of a cursor past the end.
* `Cursor.OnText.ahead_advance_one` — the characters after the next one.
* `Cursor.Reaches.onText`, `Cursor.Reaches.ahead_suffix` — what a cursor reaches.
* `Cursor.Reaches.offset_eq_iff`, `Cursor.Reaches.ite_offset` — a cursor has not moved exactly if
  the same characters follow it.
-/

set_option autoImplicit false

namespace ParserCombinators

namespace Cursor

/-- The input of the cursor is a text. -/
def OverText (c : Cursor) : Prop :=
  ∃ chars, c.input = .text chars

/-- A cursor over a text, not past its end. -/
def OnText (c : Cursor) : Prop :=
  ∃ chars, c.input = .text chars ∧ c.offset ≤ chars.size

/-- The characters that follow a cursor; none if its input is no text. -/
def ahead (c : Cursor) : List Char :=
  match c.input with
  | .text chars => chars.toList.drop c.offset
  | _ => []

variable {c d : Cursor}

/-- The cursor at the beginning of a text is on it. -/
lemma onText_plain (text : String) : (plain (.ofValue (.str text))).OnText :=
  ⟨text.toList.toArray, rfl, Nat.zero_le _⟩

/-- All characters follow the cursor at the beginning of a text. -/
@[simp]
lemma ahead_plain (text : String) : (plain (.ofValue (.str text))).ahead = text.toList := rfl

/-! ## Over a text -/

section OverText

variable (h : c.OverText)

include h

/-- A text is a sequence. -/
lemma OverText.isReadable : c.input.isReadable = true := by
  obtain ⟨chars, hinput⟩ := h
  rw [hinput]
  rfl

/-- A text is not an input that is no sequence. -/
lemma OverText.not_unreadable : ¬ c.input.isReadable = false := by
  simp [h.isReadable]

/-- As many symbols are left as characters follow. -/
lemma OverText.remaining_eq : c.remaining = c.ahead.length := by
  obtain ⟨chars, hinput⟩ := h
  simp [remaining, ahead, hinput, Input.size]

/-- The symbol some places further on is the character there. -/
lemma OverText.get?_eq (i : Nat) :
    c.input.get? (c.offset + i) = (c.ahead.drop i).head?.map Value.ofChar := by
  obtain ⟨chars, hinput⟩ := h
  simp [ahead, hinput, Input.get?, List.head?_drop]

/-- The next symbol is the next character; past the end there is none. -/
lemma OverText.head?_eq : c.head? = c.ahead.head?.map Value.ofChar :=
  h.get?_eq 0

/-- The symbols of a text are characters. -/
lemma OverText.head?_eq_some {v : Value} (there : c.head? = some v) :
    ∃ x : Char, v = .ofChar x := by
  rw [h.head?_eq] at there
  obtain ⟨x, -, rfl⟩ := Option.map_eq_some_iff.1 there
  exact ⟨x, rfl⟩

/-- A cursor that is reached is over the same text. -/
lemma OverText.of_reaches (reach : c.Reaches d) : d.OverText := by
  obtain ⟨chars, hinput⟩ := h
  exact ⟨chars, reach.input_eq.trans hinput⟩

end OverText

/-- A cursor on a text is over it. -/
lemma OnText.overText (h : c.OnText) : c.OverText := by
  obtain ⟨chars, hinput, -⟩ := h
  exact ⟨chars, hinput⟩

section OfInputEq

variable {t : String} (text : c.input = .ofValue (.str t))

include text

/-- A cursor over a given text. -/
lemma overText_of_input_eq : c.OverText := ⟨_, text⟩

/-- A cursor that is not past the end of a text is on it. -/
lemma onText_of_input_eq (within : c.offset ≤ t.length) : c.OnText :=
  ⟨t.toList.toArray, text, by rwa [List.size_toArray, String.length_toList]⟩

/-- The characters ahead are those of the text from the offset on. -/
lemma ahead_of_input_eq : c.ahead = t.toList.drop c.offset := by
  simp [ahead, text, Input.ofValue]

/-- There are as many characters ahead as from the offset to the end. -/
lemma length_ahead_of_input_eq : c.ahead.length = t.length - c.offset := by
  rw [ahead_of_input_eq text, List.length_drop, String.length_toList]

end OfInputEq

/-- What a cursor on a text reaches is on the text. -/
lemma Reaches.onText (h : c.Reaches d) (hc : c.OnText) : d.OnText := by
  obtain ⟨chars, hinput, within⟩ := hc
  refine ⟨chars, h.input_eq.trans hinput, ?_⟩
  have bound := h.offset_le_max
  rw [hinput] at bound
  simp only [Input.size] at bound
  omega

/-- The characters ahead of a cursor that is reached are those after the ones that were passed. -/
lemma Reaches.ahead_eq (h : c.Reaches d) : d.ahead = c.ahead.drop (d.offset - c.offset) := by
  have forward := h.offset_le
  unfold ahead
  rw [h.input_eq]
  cases c.input with
  | text chars =>
    simp only [List.drop_drop]
    congr 1
    omega
  | _ => simp

/-- The characters ahead of a cursor that is reached are a suffix of those ahead before. -/
lemma Reaches.ahead_suffix (h : c.Reaches d) : d.ahead <:+ c.ahead := by
  rw [h.ahead_eq]
  exact List.drop_suffix _ _

/-- Some steps further on, so many characters fewer are ahead. -/
lemma ahead_advance {n : Nat} (h : n ≤ c.remaining) : (c.advance n).ahead = c.ahead.drop n := by
  rw [(reaches_advance h).ahead_eq, offset_advance_of_le h]
  simp

/-- After the next character its followers are ahead. -/
lemma OnText.ahead_advance_one (h : c.OnText) {x : Char} {cs : List Char} (hc : c.ahead = x :: cs) :
    (c.advance 1).ahead = cs := by
  have one : 1 ≤ c.remaining := by simp [h.overText.remaining_eq, hc]
  rw [ahead_advance one, hc]
  rfl

/-- A cursor that is reached has not moved exactly if the same characters are ahead of it. -/
lemma Reaches.offset_eq_iff (h : c.Reaches d) (hc : c.OnText) :
    d.offset = c.offset ↔ d.ahead = c.ahead := by
  have forward := h.offset_le
  have left := hc.overText.remaining_eq
  have left' := (h.onText hc).overText.remaining_eq
  constructor
  · intro same
    rw [h.ahead_eq, same]
    simp
  · intro same
    have input := h.input_eq
    obtain ⟨chars, hinput, within⟩ := h.onText hc
    obtain ⟨chars', hinput', within'⟩ := hc
    rw [same, ← left] at left'
    simp only [remaining, hinput', input, Input.size] at left'
    simp only [input, hinput', Input.text.injEq] at hinput
    subst hinput
    omega

/-- What holds where a cursor that is reached has not moved, and what holds where it has, told apart
by the characters ahead. -/
lemma Reaches.ite_offset {P Q : Prop} (h : c.Reaches d) (hc : c.OnText)
    (same : d.ahead = c.ahead → P) (moved : d.ahead ≠ c.ahead → Q) :
    if d.offset = c.offset then P else Q := by
  split
  · next eq => exact same ((h.offset_eq_iff hc).1 eq)
  · next ne => exact moved (mt (h.offset_eq_iff hc).2 ne)

end Cursor

end ParserCombinators
