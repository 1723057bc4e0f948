import Mathlib.Tactic.Common
import ParserCombinators.Grammar.Meaning

/-!
# Rewriting grammars

A rewriting says what becomes of one grammar. It is carried out everywhere in a grammar, from the
inside outward: the parts are rewritten first, then the grammar that is put together from them. The
grammars that a callback returns are rewritten when it returns them, and those that names stand for
when they are looked up.

## Main definitions

* `Grammar.rewrite` — a grammar with a rewriting carried out everywhere in it.
* `Naming.rewrite` — names that stand for the rewritten grammars.

## Main results

* `Grammar.rewrite_id` — the rewriting that changes nothing.
* `Grammar.isJoined_rewrite` — what is taken apart stays so.
-/

set_option autoImplicit false

namespace ParserCombinators

namespace Grammar

/-- The grammar in which every grammar that it is put together from is replaced, from the inside
outward, by what `f` makes of it. -/
def rewrite (f : Grammar → Grammar) : Grammar → Grammar
  | raise fault => f (raise fault)
  | succeed v => f (succeed v)
  | fail e => f (fail e)
  | endOfInput => f endOfInput
  | token test expected => f (token test expected)
  | literal expected => f (literal expected)
  | andThen p q => f (andThen (p.rewrite f) (q.rewrite f))
  | followedBy p q => f (followedBy (p.rewrite f) (q.rewrite f))
  | pairWith p q => f (pairWith (p.rewrite f) (q.rewrite f))
  | both p q => f (both (p.rewrite f) (q.rewrite f))
  | sequence n parts => f (sequence n fun i => (parts i).rewrite f)
  | bind p next => f (bind (p.rewrite f) fun v => (next v).rewrite f)
  | satisfying p test => f (satisfying (p.rewrite f) test)
  | transform p change => f (transform (p.rewrite f) change)
  | orElse p q => f (orElse (p.rewrite f) (q.rewrite f))
  | attempt p => f (attempt (p.rewrite f))
  | lookAhead p => f (lookAhead (p.rewrite f))
  | notFollowedBy p => f (notFollowedBy (p.rewrite f))
  | withContext p text => f (withContext (p.rewrite f) text)
  | withMessage p text => f (withMessage (p.rewrite f) text)
  | delayed p => f (delayed (p.rewrite f))
  | many into p => f (many into (p.rewrite f))
  | many1 into p => f (many1 into (p.rewrite f))
  | count n p => f (count n (p.rewrite f))
  | sepBy1 p sep => f (sepBy1 (p.rewrite f) (sep.rewrite f))
  | sepEndBy1 p sep => f (sepEndBy1 (p.rewrite f) (sep.rewrite f))
  | manyTill p stop => f (manyTill (p.rewrite f) (stop.rewrite f))
  | many1Till p stop => f (many1Till (p.rewrite f) (stop.rewrite f))
  | chainl1By apply p op => f (chainl1By apply (p.rewrite f) (op.rewrite f))
  | chainr1By apply p op => f (chainr1By apply (p.rewrite f) (op.rewrite f))
  | trace label => f (trace label)
  | traced label p => f (traced label (p.rewrite f))
  | reference name => f (reference name)

/-- A rewriting that changes nothing leaves every grammar as it is. -/
@[simp]
lemma rewrite_id (g : Grammar) : g.rewrite id = g := by
  induction g <;> simp_all [rewrite]

/-- If a rewriting keeps what is taken apart and what is not, so does carrying it out
everywhere. -/
lemma isJoined_rewrite {f : Grammar → Grammar} (h : ∀ q, (f q).isJoined = q.isJoined)
    (g : Grammar) : (g.rewrite f).isJoined = g.isJoined := by
  cases g <;> exact h _

end Grammar

/-- The names stand for the rewritten grammars. -/
def Naming.rewrite (f : Grammar → Grammar) (naming : Naming) : Naming :=
  fun name => (naming name).map (Grammar.rewrite f)

/-- To rewrite nothing leaves the names as they are. -/
@[simp]
lemma Naming.rewrite_id (naming : Naming) : naming.rewrite id = naming := by
  funext name
  cases h : naming name <;> simp [rewrite, h]

end ParserCombinators
