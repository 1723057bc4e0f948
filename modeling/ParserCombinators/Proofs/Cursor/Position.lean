import Mathlib.Data.List.DropRight
import Mathlib.Data.List.Find
import ParserCombinators.Proofs.Cursor.Reach

/-!
# Positions along the way

A position can be moved over a run of symbols one symbol after the other, and over a text or a run
of bytes also at once, by counting newlines. Both ways lead to the same position. So the position of
a cursor that is reached is that of the cursor where the way began, moved over the symbols between
the two offsets, in whatever steps the way was taken.

## Main definitions

* `Input.append?` — two inputs of one kind, put together.
* `Position.countAfterLast` — how many items follow the last occurrence of one.

## Main results

* `Position.length_sub_lastIndex` — what follows the last newline, by its index.
* `Position.updateMany_eq_foldl` — a jump over a run of symbols is one step for each of them.
* `Position.updateMany_stepwise` — jumps by steps, and jumps over runs that are put together.
* `Position.foldl_update_chars` — line and column, read off the characters that were passed.
* `Cursor.Reaches.position_eq` — the position of a cursor that is reached.
* `Cursor.Reaches.eq_advance` — a cursor that is reached, by its offset.
-/

set_option autoImplicit false

namespace ParserCombinators

/-! ## Inputs put together -/

namespace Input

/-- Two inputs of one kind, the second behind the first; inputs of two kinds, and values that are no
sequences, cannot be put together. -/
def append? : Input → Input → Option Input
  | .text s, .text t => some (.text (s ++ t))
  | .bytes s, .bytes t => some (.bytes (s ++ t))
  | .list s, .list t => some (.list (s ++ t))
  | .tuple s, .tuple t => some (.tuple (s ++ t))
  | _, _ => none

/-- The symbols of inputs that are put together are those of both in order. -/
lemma symbols_of_append? {s t whole : Input} (h : s.append? t = some whole) :
    whole.symbols = s.symbols ++ t.symbols := by
  unfold append? at h
  split at h <;> cases h <;> simp [symbols]

end Input

namespace Position

/-! ## Newlines -/

/-- Of all characters only the line feed is a newline. -/
lemma isNewline_ofChar (c : Char) : isNewline (.ofChar c) = (c == '\n') := by
  have same : (Value.ofChar c).same (.str "\n") = (c == '\n') := by
    rw [Bool.eq_iff_iff]
    have newline : "\n" = String.singleton '\n' := rfl
    rw [Value.ofChar, Value.same, newline, beq_iff_eq, beq_iff_eq, String.singleton_inj]
  rw [isNewline, same]
  simp [Value.ofChar, Value.same]

/-- Of all bytes only the one of number ten is a newline. -/
lemma isNewline_ofByte (b : UInt8) : isNewline (.ofByte b) = (b == 10) := by
  rw [Bool.eq_iff_iff]
  simp only [isNewline, Value.ofByte, Value.same, Bool.false_or, Bool.or_false, beq_iff_eq]
  rw [← UInt8.toNat_inj]
  exact Int.ofNat_inj

/-! ## The last newline -/

/-- The number of items after the last occurrence of an item. -/
def countAfterLast {α : Type} [BEq α] (item : α) (items : List α) : Nat :=
  (items.reverse.takeWhile (· != item)).length

section LastNewline

variable {α : Type} [BEq α] {newline x : α}

/-- One item more is the last occurrence itself, or leaves it where it was. -/
lemma lastIndex_push (items : Array α) :
    lastIndex newline (items.push x) =
      if x == newline then (items.size : Int) else lastIndex newline items := by
  have before :
      (List.range items.size).reverse.find? (fun i => (items.push x)[i]? == some newline) =
        (List.range items.size).reverse.find? fun i => items[i]? == some newline := by
    refine List.find?_congr fun i mem => ?_
    rw [List.mem_reverse, List.mem_range] at mem
    rw [Array.getElem?_push, if_neg (Nat.ne_of_lt mem)]
  rw [lastIndex, Array.size_push, List.range_succ, List.reverse_append, List.reverse_singleton,
    List.singleton_append, List.find?_cons, before, Array.getElem?_push_size]
  cases same : x == newline <;> simp [same, lastIndex]

variable [LawfulBEq α] {items : List α}

/-- After one item more, none or one item more follows the last newline. -/
lemma countAfterLast_concat :
    countAfterLast newline (items ++ [x]) =
      if x == newline then 0 else countAfterLast newline items + 1 := by
  by_cases h : x = newline <;> simp [countAfterLast, h]

/-- Where there is no newline, all items follow the last one. -/
lemma countAfterLast_of_count_eq_zero (h : items.count newline = 0) :
    countAfterLast newline items = items.length := by
  have other : ∀ y ∈ items.reverse, (y != newline) = true := by
    intro y mem
    rw [bne_iff_ne]
    rintro rfl
    exact List.count_eq_zero.1 h (List.mem_reverse.1 mem)
  rw [countAfterLast, List.takeWhile_eq_self_iff.2 other, List.length_reverse]

/-- From the last newline on there is that newline and what follows it. Without a newline the index
is `-1`, and all items follow. -/
lemma length_sub_lastIndex (items : List α) :
    (items.length : Int) - lastIndex newline items.toArray = countAfterLast newline items + 1 := by
  induction items using List.reverseRecOn with
  | nil => rfl
  | append_singleton items x ih =>
    have pushed : (items ++ [x]).toArray = items.toArray.push x := by simp
    rw [pushed, lastIndex_push, countAfterLast_concat, List.size_toArray, List.length_append,
      List.length_singleton]
    cases x == newline with
    | true =>
      rw [if_pos rfl, if_pos rfl]
      omega
    | false =>
      rw [if_neg Bool.false_ne_true, if_neg Bool.false_ne_true]
      omega

end LastNewline

/-! ## Jumps -/

section Jump

variable {α : Type} [BEq α] [LawfulBEq α] {newline : α}

/-- A jump by the index of the last newline is one by what follows that newline. -/
lemma jump_lastIndex (p : Position) (newlines : Nat) (items : List α) :
    p.jump newlines items.length (lastIndex newline items.toArray) =
      if newlines = 0 then ⟨p.line, p.column + items.length, p.name⟩
      else ⟨p.line + newlines, countAfterLast newline items + 1, p.name⟩ := by
  rw [jump, length_sub_lastIndex]

/-- **A jump is one step for each symbol**, if just the symbols of one item are newlines.

**Proof sketch.** Induction on the items from the end: an item at the end that is no newline moves
the jump one column on, and a newline moves it to the first column of the next line, whatever
newlines came before. -/
lemma jump_eq_foldl {symbol : α → Value} (h : ∀ y, isNewline (symbol y) = (y == newline))
    (p : Position) (items : List α) :
    p.jump (items.count newline) items.length (lastIndex newline items.toArray) =
      (items.map symbol).foldl update p := by
  induction items using List.reverseRecOn with
  | nil => simp [jump]
  | append_singleton items x ih =>
    rw [List.map_append, List.foldl_append, ← ih, List.map_singleton, List.foldl_cons,
      List.foldl_nil, update, h, jump_lastIndex, jump_lastIndex, countAfterLast_concat,
      List.count_append, List.count_singleton, List.length_append, List.length_singleton]
    by_cases same : x = newline
    -- The newline at the end is the last one, wherever those before it are.
    · by_cases first : items.count newline = 0
      · simp [same, first]
      · simp [same, first, Int.add_assoc]
    · by_cases first : items.count newline = 0
      · simp [same, first, Int.add_assoc]
      · simp [same, first]

end Jump

/-- A jump over a run of symbols is one step for each of them. -/
lemma updateMany_eq_foldl (p : Position) (run : Input) :
    p.updateMany run = run.symbols.foldl update p := by
  cases run with
  | text chars =>
    rw [updateMany, ← Array.count_toList, ← Array.length_toList]
    exact jump_eq_foldl isNewline_ofChar p chars.toList
  | bytes octets =>
    rw [updateMany, ← Array.count_toList, ← Array.length_toList]
    exact jump_eq_foldl isNewline_ofByte p octets.toList
  | list items => simp [updateMany, Input.symbols]
  | tuple items => simp [updateMany, Input.symbols]
  | unreadable => rfl

/-- **A jump over a run of symbols is as good as all the steps.** From any position, a jump over a
run of symbols leads where one step for each of them in order leads, be the run a text or a run of
bytes, whose newlines are counted, or a list or tuple. So a jump over two runs of one kind that are
put together is a jump over the first and then one over the second.

**Proof sketch.** Texts and runs of bytes are taken apart from the end (`Position.jump_eq_foldl`),
where one symbol more either moves the column or begins a line. -/
theorem updateMany_stepwise (p : Position) :
    (∀ run : Input, p.updateMany run = run.symbols.foldl update p) ∧
    ∀ s t whole : Input, s.append? t = some whole →
      p.updateMany whole = (p.updateMany s).updateMany t := by
  refine ⟨updateMany_eq_foldl p, fun s t whole together => ?_⟩
  have symbols := Input.symbols_of_append? together
  rw [updateMany_eq_foldl, updateMany_eq_foldl, updateMany_eq_foldl, symbols, List.foldl_append]

/-- Two runs of bytes that meet between two newlines, and the last column is counted from the second
of them. -/
theorem updateMany_stepwise_newlines :
    let p : Position := ⟨7, 3, "source"⟩
    let s : Input := .bytes #[97, 10]
    let t : Input := .bytes #[10, 98, 99]
    let whole : Input := .bytes #[97, 10, 10, 98, 99]
    s.append? t = some whole ∧ p.updateMany whole = ⟨9, 3, "source"⟩ ∧
      p.updateMany whole = whole.symbols.foldl update p ∧
      p.updateMany whole = (p.updateMany s).updateMany t := by
  intro p s t whole
  have together : s.append? t = some whole := rfl
  exact ⟨together, by decide, (updateMany_stepwise p).1 whole,
    (updateMany_stepwise p).2 s t whole together⟩

/-- From the beginning of a source, the line is one more than the newlines that were passed, and the
column one more than the characters after the last of them. -/
lemma foldl_update_chars (name : String) (chars : List Char) :
    (chars.map Value.ofChar).foldl update ⟨1, 1, name⟩ =
      ⟨1 + chars.count '\n', 1 + (chars.rtakeWhile (· ≠ '\n')).length, name⟩ := by
  have after : countAfterLast '\n' chars = (chars.rtakeWhile (· ≠ '\n')).length := by
    simp only [countAfterLast, List.rtakeWhile, List.length_reverse, bne, beq_eq_decide,
      decide_not]
  rw [← jump_eq_foldl isNewline_ofChar, jump_lastIndex, ← after]
  by_cases none : chars.count '\n' = 0
  · simp [none, countAfterLast_of_count_eq_zero none]
  · simp [none, Int.add_comm]

end Position

attribute [ext] Cursor

namespace Cursor

variable {c d : Cursor}

/-- A step moves the position over the symbols that it passes, however few of them are there. -/
lemma position_advance (c : Cursor) (n : Nat) :
    (c.advance n).position = c.position.map fun p =>
      (c.input.extract c.offset (c.offset + n)).symbols.foldl Position.update p := by
  by_cases still : n = 0
  · simp [still]
  · simp only [advance, still, if_false, Position.updateMany_eq_foldl, Input.extract_min_stop]

/-- **The position of a cursor that is reached** is that of the cursor where the way began, moved
over the symbols between the two, one after the other.

**Proof sketch.** Induction on the steps of the way: those before the last lead over the symbols up
to the cursor where the last step begins, and that step over the symbols that follow them. -/
lemma Reaches.position_eq (h : c.Reaches d) :
    d.position = c.position.map fun p =>
      (c.input.extract c.offset d.offset).symbols.foldl Position.update p := by
  induction h with
  | refl => simp
  | @tail d _ before move ih =>
    obtain ⟨n, within, rfl⟩ := move
    have forward : c.offset ≤ d.offset := Reaches.offset_le before
    have input : d.input = c.input := Reaches.input_eq before
    rw [position_advance, offset_advance_of_le within, ih, input,
      ← Input.symbols_extract_append c.input forward (Nat.le_add_right d.offset n)]
    simp [Function.comp_def]

/-- A cursor that is reached is known by its offset: it is so many symbols further on. -/
lemma Reaches.eq_advance (h : c.Reaches d) : d = c.advance (d.offset - c.offset) := by
  have left := h.precedes.remaining_add
  have forward := h.offset_le
  have within : d.offset - c.offset ≤ c.remaining := by omega
  have there : c.offset + (d.offset - c.offset) = d.offset := by omega
  have position := h.position_eq
  rw [← there, ← position_advance] at position
  have offset := offset_advance_of_le within
  rw [there] at offset
  have input := h.input_eq.trans (input_advance c (d.offset - c.offset)).symm
  exact Cursor.ext input offset.symm position

end Cursor

end ParserCombinators
