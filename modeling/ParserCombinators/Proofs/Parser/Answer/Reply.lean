import ParserCombinators.Proofs.Cursor.Position
import ParserCombinators.Proofs.Parser.Answer
import ParserCombinators.Proofs.Parser.Reply
import ParserCombinators.Proofs.Rounds

/-!
# The reply of an answer

What a parser answers to a text is said of the characters ahead; the run itself replies at a cursor.
An accepted text is consumed, so the cursor is as many characters further on, and a refused text is
not: the cursor is the one where the parser began.

## Main results

* `Parser.Accepts.gets_advance`, `Parser.Refuses.exists_fails` — the reply, at its very cursor.
* `Parser.Accepts.exists_gets`, `Parser.Refuses.misses` — the reply, by the offset.
-/

set_option autoImplicit false

namespace ParserCombinators

namespace Parser

variable {α : Type} {p : Parser α} {s : Settings} {c : Cursor} {rest : List Char} {a : α}

section OnText

variable (onText : c.OnText) (enough : c.ahead.length < s.fuel)

include onText enough

/-- What is accepted is got, and the offset moves by the characters that were passed. -/
lemma Accepts.exists_gets (h : p.Accepts c.ahead a rest) :
    ∃ d, p.Gets s c a d ∧ c.Reaches d ∧ d.ahead = rest ∧
      d.offset + rest.length = c.offset + c.ahead.length := by
  obtain ⟨reply, ending, reach, outcome⟩ :=
    (Run.exists_done_iff_meets _ _).2 (h s c onText rfl enough)
  cases reply with
  | error d e => cases outcome
  | ok b d =>
    obtain ⟨rfl, rfl⟩ := Outcome.ok.inj outcome
    have left := reach.precedes.remaining_add
    have forward := reach.offset_le
    rw [onText.overText.remaining_eq,
      (reach.onText onText).overText.remaining_eq] at left
    simp only [Reply.cursor] at left forward
    exact ⟨d, ending, reach, rfl, by omega⟩

/-- What is accepted is got, at the cursor after the characters that were passed. -/
lemma Accepts.gets_advance {ws : List Char} (h : p.Accepts c.ahead a rest)
    (split : c.ahead = ws ++ rest) : p.Gets s c a (c.advance ws.length) := by
  obtain ⟨d, got, reach, -, passed⟩ := h.exists_gets onText enough
  rw [split, List.length_append] at passed
  have there : d.offset - c.offset = ws.length := by omega
  rw [← there, ← reach.eq_advance]
  exact got

/-- What is refused fails at the cursor where the parser began. -/
lemma Refuses.exists_fails (h : p.Refuses c.ahead) : ∃ e, p.Fails s c c e := by
  obtain ⟨reply, ending, reach, e, outcome⟩ :=
    (Run.exists_done_iff_meets _ _).2 (h s c onText rfl enough)
  cases reply with
  | ok b d => cases outcome
  | error d e' =>
    obtain ⟨same, rfl⟩ := Outcome.error.inj outcome
    have here := reach.eq_advance
    rw [(reach.offset_eq_iff onText).2 same, Nat.sub_self, Cursor.advance_zero] at here
    exact ⟨e', here ▸ ending⟩

/-- What is refused is missed. -/
lemma Refuses.misses (h : p.Refuses c.ahead) : p.Misses s c :=
  (h.exists_fails onText enough).elim fun e failed => ⟨c, e, failed, rfl⟩

end OnText

end Parser

end ParserCombinators
