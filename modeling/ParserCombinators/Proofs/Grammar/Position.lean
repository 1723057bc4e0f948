import ParserCombinators.Grammar.Character
import ParserCombinators.Proofs.Cursor.Position
import ParserCombinators.Proofs.Grammar.Correspondence
import ParserCombinators.Proofs.Grammar.Onward

/-!
# Positions are carried along and never looked at

A cursor that counts lines moves in the same way as one that does not, and no parser looks at its
position. So a grammar runs alike over both kinds of cursor. And since every move is one over
symbols that are there or one back to an earlier cursor, the position of a reply is the position
where the grammar began, moved over the symbols between the two offsets, whatever was tried in
between.

## Main results

* `Grammar.plain_alike_lined` — a grammar runs alike with and without a position.
* `Grammar.position_of_reply` — the position of a reply.
-/

set_option autoImplicit false

namespace ParserCombinators

/-- Cursors at the same offset of the same input, whatever their positions are. -/
def Cursor.SameOffset (c d : Cursor) : Prop :=
  c.input = d.input ∧ c.offset = d.offset

/-- At the same offset of the same input the same symbols are ahead. -/
lemma sameView_sameOffset : SameView Cursor.SameOffset where
  isReadable_eq h := congrArg Input.isReadable h.1
  get?_eq h i := by rw [h.1, h.2]
  advance := by
    rintro c d n ⟨input, offset⟩ within
    have within' : n ≤ d.remaining := by rwa [Cursor.remaining, ← input, ← offset]
    rw [Cursor.SameOffset, Cursor.input_advance, Cursor.input_advance,
      Cursor.offset_advance_of_le within, Cursor.offset_advance_of_le within', offset]
    exact ⟨input, rfl⟩
  offset_eq_iff h h' := by rw [h.2, h'.2]

/-- The same slices are ahead, so the same errors are reported. -/
lemma sameReports_sameOffset : SameReports Cursor.SameOffset Eq :=
  sameReports_eq fun c d h n => by rw [Cursor.peek, Cursor.peek, h.1, h.2]

/-- Cursors at the same offset of the same input belong together. -/
def Correspondence.sameOffset : Correspondence :=
  .ofView sameView_sameOffset sameReports_sameOffset

/-- **Positions are never looked at.** From the same offset of the same input, a grammar runs alike
with a cursor that has no position and with one that has any: with the same fault, or with the same
value or the same error, at the same offset. -/
theorem Grammar.plain_alike_lined (naming : Naming) (g : Grammar) (s : Settings) (input : Input)
    (offset : Nat) (p : Position) :
    ((g.parserUnder naming).run s ⟨input, offset, none⟩).ending.Alike
      (fun plain lined =>
        plain.toExcept = lined.toExcept ∧ plain.cursor.offset = lined.cursor.offset)
      ((g.parserUnder naming).run s ⟨input, offset, some p⟩).ending := by
  have all : g.Everywhere naming Correspondence.sameOffset.Admits :=
    Correspondence.everywhere_admits fun _ => rfl
  have alike := g.corresponds_parserUnder all s s ⟨input, offset, none⟩ ⟨input, offset, some p⟩
    rfl ⟨rfl, rfl⟩
  refine alike.mono ?_
  rintro _ _ (⟨rfl, cursors⟩ | ⟨cursors, rfl⟩) <;> exact ⟨rfl, cursors.2⟩

/-- **Positions of replies are true.** Whenever a grammar replies, be it with a success or a
failure, the position of the reply is the position where the grammar began, moved over the symbols
between the two offsets one after the other. From the beginning of a text, the line is one more than
the newlines that were passed, and the column one more than the characters after the last of them.

**Proof sketch.** The cursor of the reply is reached from the cursor where the grammar began
(`Grammar.onward_parserUnder`), and `Cursor.Reaches.position_eq` gives its position. -/
theorem Grammar.position_of_reply (naming : Naming) (g : Grammar) (s : Settings) :
    (∀ (input : Input) (offset : Nat) (p : Position) (reply : Reply Value),
      ((g.parserUnder naming).run s ⟨input, offset, some p⟩).ending = .done reply →
      reply.cursor.position =
        some ((input.extract offset reply.cursor.offset).symbols.foldl Position.update p)) ∧
    ∀ (text name : String) (reply : Reply Value),
      ((g.parserUnder naming).run s (.lined (.ofValue (.str text)) name)).ending = .done reply →
      reply.cursor.position = some
        ⟨1 + (text.toList.take reply.cursor.offset).count '\n',
          1 + ((text.toList.take reply.cursor.offset).rtakeWhile (· ≠ '\n')).length, name⟩ := by
  have moved {c : Cursor} {reply : Reply Value}
      (h : ((g.parserUnder naming).run s c).ending = .done reply) :
      reply.cursor.position = c.position.map fun p =>
        (c.input.extract c.offset reply.cursor.offset).symbols.foldl Position.update p :=
    Cursor.Reaches.position_eq ((Run.meets_of_ending_eq h).1 (g.onward_parserUnder naming s c))
  constructor
  · intro input offset p reply h
    exact moved h
  · intro text name reply h
    have passed : (Input.extract (.ofValue (.str text)) 0 reply.cursor.offset).symbols =
        (text.toList.take reply.cursor.offset).map Value.ofChar := by
      simp [Input.ofValue, Input.symbols, Input.extract]
    rw [moved h]
    simp only [Cursor.lined, Option.map_some, passed, Position.foldl_update_chars]

/-- Two lines are read after a longer literal has been given up, and then a third letter is wanted
where there is another. -/
theorem Grammar.position_of_reply_lines :
    let longer : Grammar := (Grammar.literal (.str "a\nb\n")).andThen (.char 'x')
    let lines : Grammar := longer.attempt.orElse (.literal (.str "a\nb\n"))
    let g : Grammar := lines.andThen (.char 'd')
    let text : String := "a\nb\nc"
    let c : Cursor := .lined (.ofValue (.str text)) "source"
    let reply : Reply Value :=
      .error ⟨c.input, 4, some ⟨3, 1, "source"⟩⟩ (.ofAtom (.str "d") (.str "c"))
    ((g.parserUnder fun _ => none).run ⟨0, false⟩ c).ending = .done reply ∧
      reply.cursor.position = some
        ((c.input.extract 0 reply.cursor.offset).symbols.foldl Position.update ⟨1, 1, "source"⟩) ∧
      reply.cursor.position = some
        ⟨1 + (text.toList.take reply.cursor.offset).count '\n',
          1 + ((text.toList.take reply.cursor.offset).rtakeWhile (· ≠ '\n')).length, "source"⟩ := by
  intro longer lines g text c reply
  have h : ((g.parserUnder fun _ => none).run ⟨0, false⟩ c).ending = .done reply := by
    unfold c text
    rfl
  exact ⟨h, (position_of_reply _ g _).1 c.input 0 ⟨1, 1, "source"⟩ reply h,
    (position_of_reply _ g _).2 text "source" reply h⟩

end ParserCombinators
