import Mathlib.Data.List.Forall2
import ParserCombinators.Proofs.Parser.Answer.Repetition

/-!
# Written forms

A written form says which characters write a value. A parser that reads a form accepts a value only
after one of the ways to write it, and accepts each of them if a suitable text follows. A path of
rounds that read a form is a list of values written one after the other.

## Main definitions

* `Parser.Reads` — the characters that go before the rest write the value.

## Main results

* `Parser.iterated_of_forms`, `Parser.Iterated.forms` — paths of rounds and lists of written values.
* `Parser.forms_map` — values whose written forms are all changed alike.
* `Parser.intercalate_cons` — items with a separator between them are a first item and the others,
  each after a separator.
-/

set_option autoImplicit false

namespace ParserCombinators

namespace Parser

variable {α : Type} {p : Parser α} {form : α → List Char → Prop} {cs rest : List Char} {as : List α}
  {ws : List (List Char)}

/-- The characters of `cs` that go before `rest` write the value. -/
def Reads (form : α → List Char → Prop) (cs : List Char) (a : α) (rest : List Char) : Prop :=
  ∃ w, form a w ∧ cs = w ++ rest

/-- A path of rounds that read a form passes over written values, one after the other. -/
lemma Iterated.forms (h : Iterated (Reads form) cs as rest) :
    ∃ ws, List.Forall₂ form as ws ∧ cs = ws.flatten ++ rest := by
  induction h with
  | nil cs => exact ⟨[], .nil, rfl⟩
  | cons first others ih =>
    obtain ⟨w, written, rfl⟩ := first
    obtain ⟨ws, more, rfl⟩ := ih
    exact ⟨w :: ws, .cons written more, by simp⟩

/-- Over written values one after the other there is a path of rounds, if there is a round over
every written value before a text that may follow, and what is written may follow as well. -/
lemma iterated_of_forms (R : List Char → α → List Char → Prop) (follow : List Char → Prop)
    (h : List.Forall₂ form as ws)
    (round : ∀ a w rest, form a w → follow rest → R (w ++ rest) a rest)
    (starts : ∀ a w rest, form a w → follow (w ++ rest)) (ends : follow rest) :
    Iterated R (ws.flatten ++ rest) as rest := by
  induction h with
  | nil => exact .nil rest
  | @cons a w as ws written others ih =>
    have follows : follow (ws.flatten ++ rest) := by
      cases others with
      | nil => exact ends
      | cons next others =>
        rw [List.flatten_cons, List.append_assoc]
        exact starts _ _ _ next
    rw [List.flatten_cons, List.append_assoc]
    exact .cons (round a w _ written follows) ih

/-- A parser that accepts what is written goes a round over it. -/
lemma Accepts.round {a : α} {w : List Char} (h : p.Accepts (w ++ rest) a rest) (nonempty : w ≠ []) :
    Round p (w ++ rest) a rest :=
  ⟨h, fun same => nonempty (List.self_eq_append_left.1 same)⟩

/-- Values whose written forms are those of a form, each changed in the same way. -/
lemma forms_map (change : List Char → List Char) :
    List.Forall₂ (fun a w => ∃ v, form a v ∧ w = change v) as ws ↔
      ∃ vs, List.Forall₂ form as vs ∧ ws = vs.map change := by
  constructor
  · intro h
    induction h with
    | nil => exact ⟨[], .nil, rfl⟩
    | cons first _ ih =>
      obtain ⟨v, written, rfl⟩ := first
      obtain ⟨vs, others, rfl⟩ := ih
      exact ⟨v :: vs, .cons written others, rfl⟩
  · rintro ⟨vs, h, rfl⟩
    exact List.forall₂_map_right_iff.2 (h.imp fun a v written => ⟨v, written, rfl⟩)

/-- Items with a separator between them: a first item, and the others with a separator before
each. -/
lemma intercalate_cons (sep w : List Char) (ws : List (List Char)) :
    sep.intercalate (w :: ws) = w ++ (ws.map (sep ++ ·)).flatten := by
  induction ws generalizing w with
  | nil => simp
  | cons next ws ih => simp [List.intercalate_cons_cons, ih]

end Parser

end ParserCombinators
