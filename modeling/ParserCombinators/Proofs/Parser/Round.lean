import ParserCombinators.Parser.Chain
import ParserCombinators.Parser.Repetition
import ParserCombinators.Proofs.Postcondition

/-!
# Postconditions of one round

Five loops read all that is repeated. For each of them one round is described by what must hold
after its parsers: whether the reply of a round is the last one, what it is then, and otherwise
from which state the next round goes on.

## Main results

* `Parser.meets_manyByRound`, `Parser.meets_manyRound`, `Parser.meets_sepEndByRound`,
  `Parser.meets_tillRound` — a round of a repetition.
* `Parser.meets_chainlRound`, `Parser.meets_chainrRound` — a round of a chain.
-/

set_option autoImplicit false

namespace ParserCombinators

namespace Parser

variable {α β ο : Type} {F : Fault → Prop} {E : Prop}

/-- Two postconditions that agree are met by the same runs. -/
private lemma meets_congr {x : Run α} {P Q : α → Prop} (h : ∀ a, P a ↔ Q a) :
    x.Meets P F E ↔ x.Meets Q F E := by
  rw [funext fun a => propext (h a)]

/-- A round of `manyBy`: progress goes on with what the collection makes of the value, no progress
fails at the beginning, a failure that consumed nothing ends the repetition, and any other failure
is the reply. -/
lemma meets_manyByRound (push : β → α → Except Fault β) (p : Parser α) (start : Cursor)
    (s : Settings) (c : Cursor) (collected : β)
    {P : Run.Round (Cursor × β) (Reply β) → Prop} :
    (manyByRound push p start s (c, collected)).Meets P F E ↔
      (p.run s c).Meets (fun
        | .ok a next =>
          if next.offset = c.offset then P (.stop (.error start noProgress))
          else (∀ b, push collected a = .ok b → P (.again (next, b))) ∧
            ∀ fault, push collected a = .error fault → F fault
        | .error next e =>
          if next.offset = c.offset then P (.stop (.ok collected c))
          else P (.stop (.error next e))) F E := by
  rw [manyByRound, Run.meets_bind]
  refine meets_congr ?_
  intro reply
  cases reply with
  | ok a next =>
    by_cases h : next.offset = c.offset
    · simp [h]
    · simp only [h, if_false, Run.meets_bind, Run.meets_ofExcept]
      rfl
  | error next e => by_cases h : next.offset = c.offset <;> simp [h]

/-- A round of `many`: progress goes on, no progress fails at the beginning, a failure that
consumed nothing ends the repetition, and any other failure is the reply. -/
lemma meets_manyRound (push : β → α → β) (p : Parser α) (start : Cursor) (s : Settings) (c : Cursor)
    (collected : β) {P : Run.Round (Cursor × β) (Reply β) → Prop} :
    (manyRound push p start s (c, collected)).Meets P F E ↔
      (p.run s c).Meets (fun
        | .ok a next =>
          if next.offset = c.offset then P (.stop (.error start noProgress))
          else P (.again (next, push collected a))
        | .error next e =>
          if next.offset = c.offset then P (.stop (.ok collected c))
          else P (.stop (.error next e))) F E := by
  rw [manyRound, meets_manyByRound]
  refine meets_congr ?_
  intro reply
  cases reply with
  | ok a next => simp
  | error next e => rfl

/-- A round of `sepEndBy1`: a separator that fails without consuming ends the repetition before
it, and an item that does so after it. -/
lemma meets_sepEndByRound (p : Parser α) (sep : Parser β) (start : Cursor) (s : Settings)
    (c : Cursor) (items : Array α) {P : Run.Round (Cursor × Array α) (Reply (List α)) → Prop} :
    (sepEndByRound p sep start s (c, items)).Meets P F E ↔
      (sep.run s c).Meets (fun
        | .ok _ separated => (p.run s separated).Meets (fun
          | .ok a next =>
            if next.offset = c.offset then P (.stop (.error start noProgress))
            else P (.again (next, items.push a))
          | .error next e =>
            if next.offset = separated.offset then P (.stop (.ok items.toList separated))
            else P (.stop (.error next e))) F E
        | .error next e =>
          if next.offset = c.offset then P (.stop (.ok items.toList c))
          else P (.stop (.error next e))) F E := by
  rw [sepEndByRound, Run.meets_bind]
  refine meets_congr ?_
  intro reply
  cases reply with
  | ok b separated =>
    rw [Run.meets_bind]
    refine meets_congr ?_
    intro reply
    cases reply with
    | ok a next => by_cases h : next.offset = c.offset <;> simp [h]
    | error next e => by_cases h : next.offset = separated.offset <;> simp [h]
  | error next e => by_cases h : next.offset = c.offset <;> simp [h]

/-- A round of `manyTill`: the end is the reply, and an item is tried only where the end failed
without consuming. -/
lemma meets_tillRound (p : Parser α) (stop : Parser β) (start : Cursor) (s : Settings) (c : Cursor)
    (items : Array α) {P : Run.Round (Cursor × Array α) (Reply (List α)) → Prop} :
    (tillRound p stop start s (c, items)).Meets P F E ↔
      (stop.run s c).Meets (fun
        | .ok _ next => P (.stop (.ok items.toList next))
        | .error next e =>
          if next.offset ≠ c.offset then P (.stop (.error next e))
          else (p.run s c).Meets (fun
            | .ok a next =>
              if next.offset = c.offset then P (.stop (.error start noProgress))
              else P (.again (next, items.push a))
            | .error next e => P (.stop (.error next (e.withContext neitherMatched)))) F E)
        F E := by
  rw [tillRound, Run.meets_bind]
  refine meets_congr ?_
  intro reply
  cases reply with
  | ok b next => rfl
  | error next e =>
    by_cases h : next.offset = c.offset
    · simp only [h, ne_eq, not_true_eq_false, if_false, Run.meets_bind]
      refine meets_congr ?_
      intro reply
      cases reply with
      | ok a next => by_cases h : next.offset = c.offset <;> simp [h]
      | error next e => rfl
    · simp [h]

/-- A round of a chain from the left: an operator must be followed by an operand, and what the
operator makes of the operands goes on. -/
lemma meets_chainlRound (apply : ο → α → α → Except Fault α) (p : Parser α) (op : Parser ο)
    (s : Settings) (c : Cursor) (folded : α) {P : Run.Round (Cursor × α) (Reply α) → Prop} :
    (chainlRound apply p op s (c, folded)).Meets P F E ↔
      (op.run s c).Meets (fun
        | .ok f operator => (p.run s operator).Meets (fun
          | .ok a next =>
            (∀ b, apply f folded a = .ok b → P (.again (next, b))) ∧
              ∀ fault, apply f folded a = .error fault → F fault
          | .error next e => P (.stop (.error next e))) F E
        | .error next e =>
          if next.offset = c.offset then P (.stop (.ok folded c))
          else P (.stop (.error next e))) F E := by
  rw [chainlRound, Run.meets_bind]
  refine meets_congr ?_
  intro reply
  cases reply with
  | ok f operator =>
    rw [Run.meets_bind]
    refine meets_congr ?_
    intro reply
    cases reply with
    | ok a next =>
      rw [Run.meets_bind, Run.meets_ofExcept]
      rfl
    | error next e => rfl
  | error next e => by_cases h : next.offset = c.offset <;> simp [h]

/-- A round of a chain from the right: an operator must be followed by an operand, and both are
kept. -/
lemma meets_chainrRound (p : Parser α) (op : Parser ο) (s : Settings) (c : Cursor)
    (scanned : Array (ο × α))
    {P : Run.Round (Cursor × Array (ο × α)) (Reply (List (ο × α))) → Prop} :
    (chainrRound p op s (c, scanned)).Meets P F E ↔
      (op.run s c).Meets (fun
        | .ok f operator => (p.run s operator).Meets (fun
          | .ok a next => P (.again (next, scanned.push (f, a)))
          | .error next e => P (.stop (.error next e))) F E
        | .error next e =>
          if next.offset = c.offset then P (.stop (.ok scanned.toList c))
          else P (.stop (.error next e))) F E := by
  rw [chainrRound, Run.meets_bind]
  refine meets_congr ?_
  intro reply
  cases reply with
  | ok f operator =>
    rw [Run.meets_bind]
    refine meets_congr ?_
    rintro (⟨a, next⟩ | ⟨next, e⟩) <;> rfl
  | error next e => by_cases h : next.offset = c.offset <;> simp [h]

end Parser

end ParserCombinators
