import ParserCombinators.Proofs.Cursor.Position

/-!
# Steps of a cursor

A step of any length is clamped to the end of the input, and from a cursor past the end it leads
back to the end. Nothing of that shows in the parts of the input: what is read in a step and what is
left after it are the symbols up to and from the place where the step would end if the input went
on. So steps compose, and the parts that they pass tile the input.

## Main results

* `Cursor.min_offset_advance` — the offset after a step, clamped or not.
* `Cursor.extract_advance`, `Cursor.peek_advance`, `Cursor.rest_advance` — what follows a step.
* `Cursor.sliceFrom_advance` — what a step has passed.
* `Cursor.offset_advance_eq_iff` — where a step does not move.
* `Cursor.advance_advance` — one step after another.
* `Cursor.steps_compose_and_tile` — all of this at once.
-/

set_option autoImplicit false

namespace ParserCombinators

/-- Two parts that meet, put together; one that ends before it begins is empty and adds nothing. -/
lemma Input.append?_extract {input : Input} (readable : input.isReadable = true) (i j k : Nat) :
    (input.extract i j).append? (input.extract j k) =
      some (input.extract (min i j) (max j k)) := by
  cases input with
  | unreadable => cases readable
  | _ => simp only [extract, append?, Array.extract_append_extract]

namespace Cursor

/-! ## Parts of the input around a step -/

/-- Up to the end of the input, the offset after a step is where the step would end if the input
went on. -/
lemma min_offset_advance (c : Cursor) (n : Nat) :
    min (c.advance n).offset c.input.size = min (c.offset + n) c.input.size := by
  by_cases still : n = 0
  · simp [still]
  · rw [offset_advance c still]
    omega

/-- A part that begins at the end of a step begins where the step would end if the input went on:
past the end of the input, both parts are empty. -/
lemma extract_advance (c : Cursor) (n stop : Nat) :
    c.input.extract (c.advance n).offset stop = c.input.extract (c.offset + n) stop := by
  rw [← Input.extract_min_start, min_offset_advance, Input.extract_min_start]

/-- The symbols after a step are those that follow the symbols of the step. -/
lemma peek_advance (c : Cursor) (m n : Nat) :
    (c.advance m).peek n = c.input.extract (c.offset + m) (c.offset + m + n) := by
  have ends : min ((c.advance m).offset + n) c.input.size =
      min (c.offset + m + n) c.input.size := by
    have := min_offset_advance c m
    omega
  rw [peek_natCast, input_advance, extract_advance, ← Input.extract_min_stop, ends,
    Input.extract_min_stop]

/-- What is left after a step is what follows its symbols. -/
lemma rest_advance (c : Cursor) (n : Nat) :
    (c.advance n).rest = c.input.extract (c.offset + n) c.input.size := by
  rw [rest, input_advance, extract_advance]

/-- A step passes the symbols that were next. -/
lemma sliceFrom_advance (c : Cursor) (n : Nat) : (c.advance n).sliceFrom c.offset = c.peek n := by
  rw [sliceFrom, input_advance, peek_natCast, ← Input.extract_min_stop, min_offset_advance,
    Input.extract_min_stop]

/-- The next symbols and what is left after them, put together, are what was left. -/
lemma peek_append?_rest {c : Cursor} (readable : c.input.isReadable = true) (n : Nat) :
    (c.peek n).append? (c.advance n).rest = some c.rest := by
  have begins : min c.offset (c.offset + n) = c.offset := by omega
  have ends : min (max (c.offset + n) c.input.size) c.input.size = c.input.size := by omega
  rw [peek_natCast, rest_advance, Input.append?_extract readable, begins,
    ← Input.extract_min_stop, ends, rest]

/-! ## Moving -/

/-- Only a step over no symbols, or one at the end of the input, leads nowhere. A cursor past the
end is not at the end, and goes back there. -/
lemma offset_advance_eq_iff {c : Cursor} (within : c.offset ≤ c.input.size) (n : Nat) :
    (c.advance n).offset = c.offset ↔ n = 0 ∨ c.isEmpty = true := by
  by_cases still : n = 0
  · simp [still]
  · simp only [offset_advance c still, still, isEmpty, decide_eq_true_eq, false_or]
    omega

/-- One step after another is one step over the symbols of both. -/
lemma advance_advance (c : Cursor) (m n : Nat) : (c.advance m).advance n = c.advance (m + n) := by
  have input : ((c.advance m).advance n).input = (c.advance (m + n)).input := by simp
  have offset : ((c.advance m).advance n).offset = (c.advance (m + n)).offset := by
    by_cases first : m = 0
    · simp [first]
    by_cases second : n = 0
    · simp [second]
    have both : m + n ≠ 0 := by omega
    rw [offset_advance _ second, offset_advance c first, offset_advance c both, input_advance]
    omega
  have position : ((c.advance m).advance n).position = (c.advance (m + n)).position := by
    have passed := c.input.symbols_extract_append (Nat.le_add_right c.offset m)
      (Nat.le_add_right (c.offset + m) n)
    rw [position_advance, ← peek_natCast, peek_advance, position_advance, position_advance,
      ← Nat.add_assoc, ← passed]
    simp [Function.comp_def]
  exact Cursor.ext input offset position

/-- **Steps compose, and the parts of the input that they pass tile it.** Wherever a cursor is over
a sequence, also past its end, and whether or not it counts lines, one step after another leads to
the same offset and position as one step over the symbols of both; the next symbols and what is left
after a step over them are together what was left before; and the part between the two ends of a
step is the next symbols. Unless the cursor is past the end, a step keeps the offset exactly if it
is one over no symbols or no symbol is left.

**Proof sketch.** The offset after a step is clamped to the end, but a part of the input that begins
or ends past the end is the part that begins or ends at the end. So the parts are those between
offsets that are not clamped (`Cursor.min_offset_advance`), which meet. -/
theorem steps_compose_and_tile (c : Cursor) (readable : c.input.isReadable = true) (a b : Nat) :
    (c.advance a).advance b = c.advance (a + b) ∧
      (c.peek a).append? (c.advance a).rest = some c.rest ∧
      (c.advance a).sliceFrom c.offset = c.peek a ∧
      (c.offset ≤ c.input.size →
        ((c.advance a).offset = c.offset ↔ a = 0 ∨ c.isEmpty = true)) :=
  ⟨advance_advance c a b, peek_append?_rest readable a, sliceFrom_advance c a,
    fun within => offset_advance_eq_iff within a⟩

/-- Two steps over newlines, of which the second would end past the end of the input. -/
theorem steps_compose_and_tile_newlines :
    let c : Cursor := ⟨.bytes #[97, 10, 10, 98], 1, some ⟨4, 2, "source"⟩⟩
    c.input.isReadable = true ∧ c.offset ≤ c.input.size ∧
      (c.advance 1).advance 7 = c.advance 8 ∧
      c.advance 8 = ⟨c.input, 4, some ⟨6, 2, "source"⟩⟩ ∧
      (c.peek 1).append? (c.advance 1).rest = some c.rest ∧
      (c.advance 1).sliceFrom c.offset = c.peek 1 ∧
      ((c.advance 1).offset = c.offset ↔ 1 = 0 ∨ c.isEmpty = true) := by
  intro c
  have readable : c.input.isReadable = true := rfl
  have within : c.offset ≤ c.input.size := by decide
  obtain ⟨compose, tile, slice, moves⟩ := steps_compose_and_tile c readable 1 7
  exact ⟨readable, within, compose, rfl, tile, slice, moves within⟩

end Cursor

end ParserCombinators
