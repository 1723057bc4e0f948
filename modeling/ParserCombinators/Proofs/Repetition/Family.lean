import ParserCombinators.Proofs.Parser.Reply

/-!
# The family of repetitions

Twelve combinators repeat an item, alone, with a separator, or up to an end. For each of them: what
it collects, where its loop begins, and what one round of its loop is.

## Main definitions

* `Repetition` — the twelve members of the family.
* `Repetition.Collected`, `Repetition.parser` — what a member collects, and the member itself.
* `Repetition.Begins` — the cursor from which the first round of its loop is run.
* `Repetition.Round` — a round that succeeds, from one cursor to another.
-/

set_option autoImplicit false

namespace ParserCombinators

/-- The repetitions of an item: any number of times, or, with a `1` in its name, at least once. -/
inductive Repetition where
  /-- Items. -/
  | many
  | many1
  /-- Items, without their values. -/
  | skipMany
  | skipMany1
  /-- Items, each with a separator after it. -/
  | endBy
  | endBy1
  /-- Items with separators between them. -/
  | sepBy
  | sepBy1
  /-- Items with separators between them, and possibly one after the last. -/
  | sepEndBy
  | sepEndBy1
  /-- Items up to an end. -/
  | manyTill
  | many1Till

namespace Repetition

variable {α β : Type}

/-- What a repetition collects: the list of the items, or nothing. -/
def Collected (α : Type) : Repetition → Type
  | skipMany | skipMany1 => Unit
  | many | many1 | endBy | endBy1 | sepBy | sepBy1 | sepEndBy | sepEndBy1 | manyTill
  | many1Till => List α

/-- The repetition of the item `p`, in which `q` is the separator or the end; without either, `q`
is not used. -/
def parser (p : Parser α) (q : Parser β) : (k : Repetition) → Parser (k.Collected α)
  | many => Parser.many p
  | many1 => Parser.many1 p
  | skipMany => Parser.skipMany p
  | skipMany1 => Parser.skipMany1 p
  | endBy => Parser.endBy p q
  | endBy1 => Parser.endBy1 p q
  | sepBy => Parser.sepBy p q
  | sepBy1 => Parser.sepBy1 p q
  | sepEndBy => Parser.sepEndBy p q
  | sepEndBy1 => Parser.sepEndBy1 p q
  | manyTill => Parser.manyTill p q
  | many1Till => Parser.many1Till p q

/-- The loop of the repetition that starts at `c` begins its first round at `b`. Some repetitions
read a first item before the loop. -/
def Begins (p : Parser α) (q : Parser β) (s : Settings) (c b : Cursor) : Repetition → Prop
  | many | skipMany | endBy | manyTill => b = c
  | endBy1 => (p.followedBy q).Steps s c b
  | many1 | skipMany1 | sepBy | sepBy1 | sepEndBy | sepEndBy1 | many1Till => p.Steps s c b

/-- A round of the loop from `m` succeeds at `d`: an item; an item and a separator; a separator and
an item; or, where the end fails without consuming, an item. -/
def Round (p : Parser α) (q : Parser β) (s : Settings) (m d : Cursor) : Repetition → Prop
  | many | many1 | skipMany | skipMany1 => p.Steps s m d
  | endBy | endBy1 => (p.followedBy q).Steps s m d
  | sepBy | sepBy1 | sepEndBy | sepEndBy1 => (q.andThen p).Steps s m d
  | manyTill | many1Till => q.Misses s m ∧ p.Steps s m d

end Repetition

end ParserCombinators
