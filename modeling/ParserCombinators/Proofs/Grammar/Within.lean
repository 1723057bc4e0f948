import Mathlib.Data.Set.Insert
import ParserCombinators.Grammar.Meaning

/-!
# What a grammar is put together from

A grammar is put together from its parts, these from theirs, and so on; a callback that depends on a
value contributes all grammars that it can return, and a reference the grammar that it names. A
condition on the leaves of a grammar is a condition on everything within it.

## Main definitions

* `Grammar.parts` — the grammars that a grammar is directly put together from.
* `Grammar.Within` — the grammars that it is put together from, itself among them.
* `Grammar.Everywhere` — a condition on all of these.
-/

set_option autoImplicit false

namespace ParserCombinators

namespace Grammar

/-- The grammars that a grammar is directly put together from. All grammars that a callback of
`bind` can return are among them. -/
def parts : Grammar → Set Grammar
  | raise _ | succeed _ | fail _ | endOfInput | token _ _ | literal _ | trace _ | reference _ => ∅
  | andThen p q | followedBy p q | pairWith p q | both p q | orElse p q | sepBy1 p q
  | sepEndBy1 p q | manyTill p q | many1Till p q | chainl1By _ p q | chainr1By _ p q => {p, q}
  | sequence _ parts => Set.range parts
  | bind p f => insert p (Set.range f)
  | satisfying p _ | transform p _ | attempt p | lookAhead p | notFollowedBy p
  | withContext p _ | withMessage p _ | delayed p | many _ p | many1 _ p | count _ p
  | traced _ p => {p}

/-- `q.Within naming g` says that `g` is put together from `q` and others, where references are to
the grammars that `naming` gives. -/
inductive Within (naming : Naming) (q : Grammar) : Grammar → Prop
  /-- A grammar is within itself. -/
  | self : Within naming q q
  /-- What is within a part is within the whole. -/
  | part {p g : Grammar} (mem : p ∈ g.parts) (inside : Within naming q p) : Within naming q g
  /-- What is within a named grammar is within a reference to it. -/
  | named {name : String} {g : Grammar} (there : naming name = some g)
    (inside : Within naming q g) : Within naming q (.reference name)

variable {naming : Naming} {p q g : Grammar} {P : Grammar → Prop}

/-- What is within a grammar that is within another one is within that. -/
lemma Within.trans (h : p.Within naming q) (h' : q.Within naming g) : p.Within naming g := by
  induction h' with
  | self => exact h
  | part mem _ ih => exact .part mem ih
  | named there _ ih => exact .named there ih

/-- A condition on all grammars within a grammar. -/
def Everywhere (naming : Naming) (P : Grammar → Prop) (g : Grammar) : Prop :=
  ∀ q : Grammar, q.Within naming g → P q

/-- The condition holds of the grammar itself. -/
lemma Everywhere.self (h : g.Everywhere naming P) : P g := h g .self

/-- It holds everywhere in what is within the grammar. -/
lemma Everywhere.within (h : g.Everywhere naming P) (inside : q.Within naming g) :
    q.Everywhere naming P :=
  fun r inside' => h r (inside'.trans inside)

/-- It holds everywhere in a part of the grammar. -/
lemma Everywhere.part (h : g.Everywhere naming P) (mem : p ∈ g.parts) : p.Everywhere naming P :=
  h.within (.part mem .self)

/-- If it holds everywhere in a reference, it does so in the named grammar. -/
lemma Everywhere.named {name : String} (h : (reference name).Everywhere naming P)
    (there : naming name = some g) : g.Everywhere naming P :=
  h.within (.named there .self)

/-- A condition holds everywhere in a grammar that is no reference if it holds of the grammar and
everywhere in its parts. -/
lemma everywhere_of_parts (self : P g) (parts : ∀ p ∈ g.parts, p.Everywhere naming P)
    (plain : ∀ name, g ≠ reference name) : g.Everywhere naming P := by
  intro q inside
  cases inside with
  | self => exact self
  | part mem inside => exact parts _ mem q inside
  | named there inside => exact absurd rfl (plain _)

/-- A condition holds everywhere in a reference if it holds of it and everywhere in the named
grammar. -/
lemma everywhere_reference {name : String} (self : P (reference name))
    (named : ∀ g, naming name = some g → g.Everywhere naming P) :
    (reference name).Everywhere naming P := by
  intro q inside
  cases inside with
  | self => exact self
  | part mem inside => exact mem.elim
  | named there inside => exact named _ there q inside

end Grammar

end ParserCombinators
