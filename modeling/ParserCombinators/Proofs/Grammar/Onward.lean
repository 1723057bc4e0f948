import Mathlib.Data.List.OfFn
import ParserCombinators.Grammar.Meaning
import ParserCombinators.Proofs.Parser.Onward

/-!
# Grammars move onward

Whatever a grammar is put together from, and whatever its callbacks and references are, the cursor
of its reply is reached from the cursor where it began by steps over symbols that are there. So the
reply is over the same input, with the same kind of cursor, not before the beginning and not past
the end of the input; only a cursor that was past the end already stays there.

## Main results

* `Grammar.onward_toParser` — one level of references: by induction on the grammar.
* `Naming.onward_parserOf`, `Grammar.onward_parserUnder` — all levels: by induction on their number.
* `Grammar.cursor_within` — where the cursor of a reply can be.
-/

set_option autoImplicit false

namespace ParserCombinators

namespace Collector

variable {p : Parser Value}

/-- Whatever a repetition collects its values into, it moves onward. -/
lemma onward_many (into : Collector) (hp : p.Onward) : (into.many p).Onward := by
  cases into with
  | list => exact hp.many.map _
  | deque => exact hp.many.map _
  | counter => exact (hp.manyInto _ _).map _
  | nothing => exact (hp.manyInto _ _).map _
  | own empty push => exact hp.manyBy empty push

/-- Whatever a repetition collects its values into, it moves onward. -/
lemma onward_many1 (into : Collector) (hp : p.Onward) : (into.many1 p).Onward := by
  cases into with
  | list => exact hp.many1.map _
  | deque => exact hp.many1.map _
  | counter => exact (hp.many1Into _ _).map _
  | nothing => exact (hp.many1Into _ _).map _
  | own empty push => exact hp.many1By empty push

end Collector

/-- A grammar moves onward if all the parsers do that its names stand for.

**Proof sketch.** Induction on the grammar, with one case for each way of putting a grammar
together. The grammars that a callback of `bind` returns are parts of it, too. -/
lemma Grammar.onward_toParser {deref : String → Parser Value}
    (hderef : ∀ name, (deref name).Onward) (g : Grammar) : (g.toParser deref).Onward := by
  induction g with
  | raise fault => exact Parser.onward_raise fault
  | succeed v => exact Parser.onward_succeed v
  | fail e => exact Parser.onward_fail e
  | endOfInput => exact Parser.onward_endOfInput.map _
  | token test expected => exact Parser.onward_token test expected
  | literal expected => exact Parser.onward_literal expected
  | andThen p q hp hq => exact hp.andThen hq
  | followedBy p q hp hq => exact hp.followedBy hq
  | pairWith p q hp hq => exact (hp.pairWith hq).map _
  | both p q hp hq => exact (hp.pairWith hq).map _
  | sequence n parts ih =>
    refine (Parser.onward_sequence fun p mem => ?_).map _
    obtain ⟨i, rfl⟩ := List.mem_ofFn.1 mem
    exact ih i
  | bind p f hp hf => exact hp.bind hf
  | satisfying p test hp => exact hp.satisfying test
  | transform p f hp => exact hp.transform f
  | orElse p q hp hq => exact hp.orElse hq
  | attempt p hp => exact hp.attempt
  | lookAhead p hp => exact hp.lookAhead
  | notFollowedBy p hp => exact (hp.notFollowedBy _).map _
  | withContext p text hp => exact hp.withContext text
  | withMessage p text hp => exact hp.withMessage text
  | delayed p hp => exact hp
  | many into p hp => exact into.onward_many hp
  | many1 into p hp => exact into.onward_many1 hp
  | count n p hp => exact (hp.count n).map _
  | sepBy1 p sep hp hsep => exact (hp.sepBy1 hsep).map _
  | sepEndBy1 p sep hp hsep => exact (hp.sepEndBy1 hsep).map _
  | manyTill p stop hp hstop => exact (hp.manyTill hstop).map _
  | many1Till p stop hp hstop => exact (hp.many1Till hstop).map _
  | chainl1By apply p op hp hop => exact hp.chainl1 apply hop
  | chainr1By apply p op hp hop => exact hp.chainr1 apply hop
  | trace label => exact (Parser.onward_trace label).map _
  | traced label p hp => exact hp.traced label
  | reference name => exact hderef name

/-- The parser of a name moves onward, however deep its references are nested. -/
lemma Naming.onward_parserOf (naming : Naming) (depth : Nat) (name : String) :
    (naming.parserOf depth name).Onward := by
  induction depth generalizing name with
  | zero => exact fun _ _ => trivial
  | succ depth ih =>
    intro s c
    simp only [parserOf]
    split
    · next g _ => exact g.onward_toParser ih s c
    · trivial

/-- Every grammar moves onward, whatever its names stand for. -/
lemma Grammar.onward_parserUnder (naming : Naming) (g : Grammar) :
    (g.parserUnder naming).Onward :=
  fun s c => g.onward_toParser (naming.onward_parserOf s.fuel) s c

/-- **The cursor of a reply.** Whenever a grammar replies at a cursor, be it with a success or a
failure, the cursor of the reply is over the same input and of the same kind, it is not before the
cursor where the grammar began, and it is not past the end of the input unless that cursor was. -/
theorem Grammar.cursor_within (naming : Naming) (g : Grammar) (s : Settings) (c : Cursor)
    (reply : Reply Value) (h : ((g.parserUnder naming).run s c).ending = .done reply) :
    reply.cursor.input = c.input ∧
      reply.cursor.position.isSome = c.position.isSome ∧
      c.offset ≤ reply.cursor.offset ∧
      reply.cursor.offset ≤ max c.offset c.input.size := by
  have reach : c.Reaches reply.cursor :=
    (Run.meets_of_ending_eq h).1 (g.onward_parserUnder naming s c)
  exact ⟨reach.input_eq, reach.isSome_position, reach.offset_le, reach.offset_le_max⟩

/-- A grammar that refers to itself reads pairs from the second symbol of a list on, over two
newlines, and leaves the last symbol because a pair is wanted. -/
theorem Grammar.cursor_within_pairs :
    let pair : Grammar := .literal (.list [.int 1, .int 10])
    let pairs : Grammar := .orElse (.andThen pair (.reference "pairs")) (.succeed .none)
    let naming : Naming := fun _ => some pairs
    let input : Input := .list #[.int 7, .int 1, .int 10, .int 1, .int 10, .int 1]
    let c : Cursor := ⟨input, 1, some ⟨1, 2, "source"⟩⟩
    let reply : Reply Value := .ok .none ⟨input, 5, some ⟨3, 1, "source"⟩⟩
    (((Grammar.reference "pairs").parserUnder naming).run ⟨4, false⟩ c).ending = .done reply ∧
      reply.cursor.input = c.input ∧
      reply.cursor.position.isSome = c.position.isSome ∧
      c.offset ≤ reply.cursor.offset ∧
      reply.cursor.offset ≤ max c.offset c.input.size := by
  intro pair pairs naming input c reply
  have h : (((Grammar.reference "pairs").parserUnder naming).run ⟨4, false⟩ c).ending =
      .done reply := by rfl
  exact ⟨h, cursor_within naming (.reference "pairs") ⟨4, false⟩ c reply h⟩

end ParserCombinators
