import ParserCombinators.Parser.Basic

/-!
# Operator chains

Operands with operators between them, folded from the left or from the right. Both chains read
alike: an operator that fails without consuming ends the chain, and an operator must be followed
by an operand. There is no check that a round consumes.

## Main definitions

* `Parser.chainl1`, `Parser.chainr1` — the chains.
* `Parser.foldRight` — operands folded from the right.

## Main results

* `Parser.foldRight_eq_foldlM` — to fold from the right is one loop over two reversed lists.
-/

set_option autoImplicit false

namespace ParserCombinators

namespace Parser

variable {α ο : Type}

/-- One round of a chain from the left: an operator and an operand, applied to what has been
folded. -/
def chainlRound (apply : ο → α → α → Except Fault α) (p : Parser α) (op : Parser ο)
    (s : Settings) : Cursor × α → Run (Run.Round (Cursor × α) (Reply α))
  | (c, folded) => do
    match ← op.run s c with
    | .error next e =>
      if next.offset = c.offset then return .stop (.ok folded c)
      else return .stop (.error next e)
    | .ok f operator =>
      match ← p.run s operator with
      | .error next e => return .stop (.error next e)
      | .ok a next => return .again (next, ← Run.ofExcept (apply f folded a))

/-- One or more operands with operators between them, folded from the left while they are
read. -/
def chainl1 (apply : ο → α → α → Except Fault α) (p : Parser α) (op : Parser ο) : Parser α where
  run s c := do
    match ← p.run s c with
    | .ok a c => Run.iterate (chainlRound apply p op s) s.fuel (c, a)
    | .error c e => pure (.error c e)

/-- The operators and operands after a first operand, folded from the right. -/
def foldRight (apply : ο → α → α → Except Fault α) : α → List (ο × α) → Except Fault α
  | a, [] => .ok a
  | a, (f, b) :: rest => do apply f a (← foldRight apply b rest)

/-- To fold from the right is one loop from the end: over the operators and the operands before
them, both in reverse, beginning with the last operand. -/
theorem foldRight_eq_foldlM (apply : ο → α → α → Except Fault α) (a : α) (steps : List (ο × α)) :
    foldRight apply a steps =
      ((steps.map Prod.fst).reverse.zip (a :: steps.map Prod.snd).dropLast.reverse).foldlM
        (fun folded (f, left) => apply f left folded)
        ((a :: steps.map Prod.snd).getLast (List.cons_ne_nil _ _)) := by
  induction steps generalizing a with
  | nil => rfl
  | cons step steps ih =>
    obtain ⟨f, b⟩ := step
    -- The first operator and operand come last in the reversed lists, which are equally long.
    have same : (steps.map Prod.fst).reverse.length =
        (b :: steps.map Prod.snd).dropLast.reverse.length := by simp
    simp only [foldRight, ih, List.map_cons, List.dropLast_cons_cons, List.reverse_cons,
      List.zip_append same, List.foldlM_append, List.getLast_cons_cons]
    simp

/-- One round of a chain from the right: an operator and an operand, kept for later. -/
def chainrRound (p : Parser α) (op : Parser ο) (s : Settings) :
    Cursor × Array (ο × α) →
      Run (Run.Round (Cursor × Array (ο × α)) (Reply (List (ο × α))))
  | (c, scanned) => do
    match ← op.run s c with
    | .error next e =>
      if next.offset = c.offset then return .stop (.ok scanned.toList c)
      else return .stop (.error next e)
    | .ok f operator =>
      match ← p.run s operator with
      | .error next e => return .stop (.error next e)
      | .ok a next => return .again (next, scanned.push (f, a))

/-- One or more operands with operators between them, folded from the right once all are
read. -/
def chainr1 (apply : ο → α → α → Except Fault α) (p : Parser α) (op : Parser ο) : Parser α where
  run s c := do
    match ← p.run s c with
    | .ok a c =>
      match ← Run.iterate (chainrRound p op s) s.fuel (c, #[]) with
      | .ok scanned c => return .ok (← Run.ofExcept (foldRight apply a scanned)) c
      | .error c e => pure (.error c e)
    | .error c e => pure (.error c e)

end Parser

end ParserCombinators
