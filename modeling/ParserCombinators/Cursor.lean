import ParserCombinators.Position

/-!
# Cursors

A cursor is an offset into an input. It can also carry the position of that offset, which then
moves with it; parsers never look at the position, so they run alike over both kinds of cursor.

## Main definitions

* `Cursor` — an input, an offset into it and, for a line cursor, a position.
* `Cursor.peek`, `Cursor.rest`, `Cursor.sliceFrom` — parts of the input around the offset.
* `Cursor.advance` — a cursor further on, never past the end of the input.
* `Place` — how a cursor says where it is.
-/

set_option autoImplicit false

namespace ParserCombinators

/-- Where a cursor is: at an offset, or at a position. -/
inductive Place where
  /-- An offset into the input. -/
  | offset (offset : Nat)
  /-- A line and a column. -/
  | position (position : Position)
  deriving DecidableEq, Repr, Inhabited

/-- A place in words. -/
def Place.text : Place → String
  | .offset n => toString n
  | .position p => p.text

/-- An offset into an input, with the position of that offset if lines are counted. -/
structure Cursor where
  /-- The whole input. -/
  input : Input
  /-- The number of symbols before the cursor. -/
  offset : Nat
  /-- The position of the cursor; `none` when lines are not counted. -/
  position : Option Position
  deriving Inhabited

namespace Cursor

/-! ## Starting -/

/-- The cursor at the beginning of an input, without a position. -/
def plain (input : Input) : Cursor :=
  ⟨input, 0, none⟩

/-- The cursor at the beginning of an input, on line 1 and column 1 of a named source. -/
def lined (input : Input) (name : String) : Cursor :=
  ⟨input, 0, some ⟨1, 1, name⟩⟩

/-! ## Looking -/

/-- Whether no symbol is left. -/
def isEmpty (c : Cursor) : Bool :=
  c.input.size ≤ c.offset

/-- The next symbol; `none` at the end of the input. -/
def head? (c : Cursor) : Option Value :=
  c.input.get? c.offset

/-- There is no next symbol exactly at the end of the input. -/
theorem head?_eq_none_iff (c : Cursor) : c.head? = none ↔ c.isEmpty = true := by
  simp [head?, isEmpty, ← Input.getElem?_symbols]

/-- The next symbols, at most `n` of them; for negative `n`, all but the last `-n - offset`
symbols of the input if the offset is smaller than `-n`, and otherwise none. -/
def peek (c : Cursor) (n : Int) : Input :=
  c.input.slice c.offset (c.offset + n)

/-- The next `n` symbols are those between the offset and the offset `n` further on. -/
theorem peek_natCast (c : Cursor) (n : Nat) :
    c.peek n = c.input.extract c.offset (c.offset + n) := by
  rw [← Input.slice_natCast, peek, Int.natCast_add]

/-- The part of the input between an offset and the cursor. -/
def sliceFrom (c : Cursor) (offset : Nat) : Input :=
  c.input.extract offset c.offset

/-- What is left of the input. -/
def rest (c : Cursor) : Input :=
  c.input.extract c.offset c.input.size

/-- Where the cursor is: its position if it has one, otherwise its offset. -/
def place (c : Cursor) : Place :=
  match c.position with
  | some p => .position p
  | none => .offset c.offset

/-- The number of symbols that are left. -/
def remaining (c : Cursor) : Nat :=
  c.input.size - c.offset

/-! ## Moving -/

/-- The cursor `n` symbols further on, or at the end of the input if fewer are left. -/
def advance (c : Cursor) (n : Nat) : Cursor :=
  if n = 0 then c
  else
    let stop := min (c.offset + n) c.input.size
    ⟨c.input, stop, c.position.map (·.updateMany (c.input.extract c.offset stop))⟩

/-- A step over no symbols leaves the cursor where it is. -/
@[simp]
theorem advance_zero (c : Cursor) : c.advance 0 = c := rfl

/-- A step does not change the input. -/
@[simp]
theorem input_advance (c : Cursor) (n : Nat) : (c.advance n).input = c.input := by
  unfold advance
  split <;> rfl

/-- A step stops at the end of the input at the latest. -/
theorem offset_advance (c : Cursor) {n : Nat} (h : n ≠ 0) :
    (c.advance n).offset = min (c.offset + n) c.input.size := by
  simp [advance, h]

/-! ## In words -/

/-- A cursor as a record of its offset and the next twenty symbols. -/
def written (c : Cursor) : String :=
  (if c.position.isSome then "LineCursor" else "Cursor") ++
    "(offset=" ++ toString c.offset ++ ", rest=" ++ (c.rest.extract 0 20).toValue.written ++ ")"

end Cursor

end ParserCombinators
