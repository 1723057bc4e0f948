import Mathlib.Logic.Relation
import Mathlib.Tactic.Common
import ParserCombinators.Cursor

/-!
# Cursors that can be reached

Every move of a parser is a step over symbols that are there, or goes back to a cursor from which
it came. So what holds along such steps holds between the cursor where a parser begins and the
cursor of its reply.

## Main definitions

* `Cursor.Moves` — one step over symbols that are there.
* `Cursor.Reaches` — any number of such steps.
* `Cursor.Precedes` — only what all steps have in common: neither back nor past the end.

## Main results

* `Cursor.Reaches.input_eq`, `Cursor.Reaches.isSome_position` — the input and the kind of cursor
  stay.
* `Cursor.Reaches.offset_le`, `Cursor.Reaches.offset_le_max` — no step goes back, and none past
  the end of the input.
-/

set_option autoImplicit false

namespace ParserCombinators

namespace Cursor

/-- `d` is the cursor after some symbols that follow `c` in the input. -/
def Moves (c d : Cursor) : Prop :=
  ∃ n ≤ c.remaining, d = c.advance n

/-- `d` is reached from `c` by steps over symbols that are there. -/
def Reaches : Cursor → Cursor → Prop :=
  Relation.ReflTransGen Moves

variable {c d e : Cursor}

/-- Every cursor is reached from itself. -/
@[refl]
lemma Reaches.refl (c : Cursor) : c.Reaches c := Relation.ReflTransGen.refl

/-- What is reached from a cursor that is reached is reached. -/
lemma Reaches.trans (h : c.Reaches d) (h' : d.Reaches e) : c.Reaches e :=
  Relation.ReflTransGen.trans h h'

/-- A step over symbols that are there reaches the cursor after them. -/
lemma reaches_advance {n : Nat} (h : n ≤ c.remaining) : c.Reaches (c.advance n) :=
  Relation.ReflTransGen.single ⟨n, h, rfl⟩

/-- Where there is a next symbol, at least one is left. -/
lemma one_le_remaining {v : Value} (h : c.head? = some v) : 1 ≤ c.remaining := by
  have h' : ¬ c.isEmpty = true := by
    rw [← head?_eq_none_iff, h]
    simp
  simp only [isEmpty, decide_eq_true_eq] at h'
  simp only [remaining]
  omega

/-- A cursor with a next symbol reaches the cursor after that symbol. -/
lemma reaches_advance_one {v : Value} (h : c.head? = some v) : c.Reaches (c.advance 1) :=
  reaches_advance (one_le_remaining h)

/-- A step keeps the kind of cursor. -/
@[simp]
lemma isSome_position_advance (c : Cursor) (n : Nat) :
    (c.advance n).position.isSome = c.position.isSome := by
  unfold advance
  split
  · rfl
  · simp

/-- All cursors that are reached are over the same input. -/
lemma Reaches.input_eq (h : c.Reaches d) : d.input = c.input := by
  induction h with
  | refl => rfl
  | tail _ move ih =>
    obtain ⟨n, -, rfl⟩ := move
    rw [input_advance, ih]

/-- All cursors that are reached are of the same kind. -/
lemma Reaches.isSome_position (h : c.Reaches d) : d.position.isSome = c.position.isSome := by
  induction h with
  | refl => rfl
  | tail _ move ih =>
    obtain ⟨n, -, rfl⟩ := move
    rw [isSome_position_advance, ih]

/-- A step over symbols that are there moves the offset by their number. -/
lemma offset_advance_of_le {n : Nat} (h : n ≤ c.remaining) :
    (c.advance n).offset = c.offset + n := by
  by_cases hn : n = 0
  · simp [hn]
  · rw [offset_advance c hn]
    simp only [remaining] at h
    omega

/-- No step goes back. -/
lemma Reaches.offset_le (h : c.Reaches d) : c.offset ≤ d.offset := by
  induction h with
  | refl => exact Nat.le_refl _
  | tail _ move ih =>
    obtain ⟨n, within, rfl⟩ := move
    rw [offset_advance_of_le within]
    omega

/-- No step goes past the end of the input; a cursor that is past it stays where it is. -/
lemma Reaches.offset_le_max (h : c.Reaches d) : d.offset ≤ max c.offset c.input.size := by
  induction h with
  | refl => exact Nat.le_max_left _ _
  | @tail d _ before move ih =>
    obtain ⟨n, within, rfl⟩ := move
    have same : d.input = c.input := Reaches.input_eq before
    rw [offset_advance_of_le within]
    simp only [remaining, same] at within
    omega

/-! ## Neither back nor past the end -/

/-- `d` is over the same input as `c`, not before it, and not past the end of the input; if `c` is
itself past the end, `d` is where `c` is. -/
structure Precedes (c d : Cursor) : Prop where
  /-- The input is the same. -/
  input_eq : d.input = c.input
  /-- The offset does not go back. -/
  offset_le : c.offset ≤ d.offset
  /-- The offset does not go past the end of the input. -/
  offset_le_max : d.offset ≤ max c.offset c.input.size

/-- What is reached is further on, or it is the same cursor. -/
lemma Reaches.eq_or_offset_lt (h : c.Reaches d) : d = c ∨ c.offset < d.offset := by
  induction h with
  | refl => exact .inl rfl
  | tail before move ih =>
    obtain ⟨n, within, rfl⟩ := move
    by_cases none : n = 0
    · rwa [none, advance_zero]
    · have onward := Reaches.offset_le before
      rw [offset_advance_of_le within]
      exact .inr (by omega)

/-- Steps over symbols that are there lead neither back nor past the end. -/
lemma Reaches.precedes (h : c.Reaches d) : c.Precedes d where
  input_eq := h.input_eq
  offset_le := h.offset_le
  offset_le_max := h.offset_le_max

/-- A cursor precedes itself. -/
@[refl]
lemma Precedes.refl (c : Cursor) : c.Precedes c := (Reaches.refl c).precedes

/-- Of three cursors that precede one another, the first precedes the last. -/
lemma Precedes.trans (h : c.Precedes d) (h' : d.Precedes e) : c.Precedes e where
  input_eq := h'.input_eq.trans h.input_eq
  offset_le := Nat.le_trans h.offset_le h'.offset_le
  offset_le_max := by
    have first := h.offset_le_max
    have second := h'.offset_le_max
    rw [h.input_eq] at second
    omega

/-- What is left does not grow. -/
lemma Precedes.remaining_le (h : c.Precedes d) : d.remaining ≤ c.remaining := by
  have := h.offset_le
  simp only [remaining, h.input_eq]
  omega

/-- A cursor that has moved has less left, by as many symbols as it moved. -/
lemma Precedes.remaining_add (h : c.Precedes d) :
    d.remaining + (d.offset - c.offset) = c.remaining := by
  have back := h.offset_le
  have past := h.offset_le_max
  simp only [remaining, h.input_eq]
  omega

/-- A cursor that has moved has less left. -/
lemma Precedes.remaining_lt (h : c.Precedes d) (moved : d.offset ≠ c.offset) :
    d.remaining < c.remaining := by
  have left := h.remaining_add
  have back := h.offset_le
  omega

end Cursor

end ParserCombinators
