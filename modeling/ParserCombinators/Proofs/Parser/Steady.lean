import Mathlib.Tactic.Common
import ParserCombinators.Proofs.Parser.Onward
import ParserCombinators.Proofs.Parser.Reply

/-!
# Steady parsers

A parser is steady on an input if it returns a reply at every cursor over this input, raises
nothing, and never leads back or past the end. That is all that a loop needs to know of the parsers
in its rounds in order to end: what is left of the input bounds the rounds that move, and a round
that does not move is the last one.

## Main definitions

* `Parser.SteadyAt`, `Parser.Steady` — the property, at one cursor and on a whole input.

## Main results

* `Parser.Onward.steadyAt` — a parser that moves onward is steady where it replies.
* `Parser.meets_iterate_of_remaining` — a loop ends if a round that goes on leaves less of the
  input.
* `Parser.Steady.manyFrom`, `Parser.Steady.sepEndByFrom`, `Parser.Steady.tillFrom` — the loops of
  the repetitions.
-/

set_option autoImplicit false

namespace ParserCombinators

namespace Parser

variable {α β σ : Type}

/-- The parser returns a reply from `c`, and the cursor of the reply is neither before `c` nor past
the end of the input. -/
def SteadyAt (p : Parser α) (s : Settings) (c : Cursor) : Prop :=
  (p.run s c).Meets (fun reply => c.Precedes reply.cursor) (fun _ => False) False

/-- The parser returns a reply from every cursor over an input, and never leads back or past the
end. -/
def Steady (p : Parser α) (s : Settings) (input : Input) : Prop :=
  ∀ c, c.input = input → p.SteadyAt s c

variable {p : Parser α} {q : Parser β} {s : Settings} {c : Cursor} {input : Input}

/-! ## Replies -/

/-- A steady parser returns a reply. -/
lemma SteadyAt.exists_reply (h : p.SteadyAt s c) :
    ∃ reply, (p.run s c).ending = .done reply ∧ c.Precedes reply.cursor := by
  unfold SteadyAt Run.Meets at h
  split at h
  · next reply ending => exact ⟨reply, ending, h⟩
  · exact h.elim
  · exact h.elim

/-- A parser that moves onward is steady wherever it returns a reply. -/
lemma Onward.steadyAt {reply : Reply α} (h : p.Onward)
    (ending : (p.run s c).ending = .done reply) : p.SteadyAt s c := by
  have reached := (Run.meets_of_ending_eq ending).1 (h s c)
  exact (Run.meets_of_ending_eq ending).2 reached.precedes

/-- The cursor after a step is over the same input, not back and not past the end. -/
lemma Steady.precedes {d : Cursor} (hp : p.Steady s input) (within : c.input = input)
    (step : p.Steps s c d) : c.Precedes d := by
  obtain ⟨a, got⟩ := step
  exact (Run.meets_of_ending_eq got).1 (hp c within)

/-- A parser that is steady on an input is so on that of every cursor further on. -/
lemma Steady.onward {d : Cursor} (hp : p.Steady s c.input) (before : c.Precedes d) :
    p.Steady s d.input :=
  before.input_eq.symm ▸ hp

/-- A test that raises nothing makes a steady parser on an input that is a sequence. -/
lemma steady_token {test : Value → Except Fault Bool} (expected : Value)
    (total : ∀ v, ∃ passed, test v = .ok passed) (readable : input.isReadable = true) :
    (token test expected).Steady s input := by
  intro c within
  subst within
  have replies : ∃ reply, ((token test expected).run s c).ending = .done reply := by
    simp only [token, look_of_readable readable, Run.pure_bind']
    cases c.head? with
    | none => exact ⟨_, rfl⟩
    | some found =>
      obtain ⟨passed, tested⟩ := total found
      simp only [tested, Run.ofExcept_ok, Run.pure_bind']
      cases passed with
      | true => exact ⟨_, rfl⟩
      | false => exact ⟨_, rfl⟩
  obtain ⟨reply, ending⟩ := replies
  exact (onward_token test expected).steadyAt ending

/-- A symbol that is read is consumed. -/
lemma offset_lt_of_steps_token {test : Value → Except Fault Bool} {expected : Value} {d : Cursor}
    (h : (token test expected).Steps s c d) : c.offset < d.offset := by
  obtain ⟨v, got⟩ := h
  obtain ⟨there, -, rfl⟩ := gets_token got
  rw [Cursor.offset_advance_of_le (Cursor.one_le_remaining there)]
  exact Nat.lt_succ_self _

/-! ## One after another -/

/-- Success without consuming stays where it is. -/
lemma steadyAt_succeed (a : α) : (succeed a).SteadyAt s c := Cursor.Precedes.refl c

/-- One parser after another is steady if the second is so where the first can stop. -/
lemma SteadyAt.bind {f : α → Parser β} (hp : p.SteadyAt s c)
    (hf : ∀ a d, c.Precedes d → (f a).SteadyAt s d) : (p.bind f).SteadyAt s c := by
  simp only [SteadyAt, Parser.bind, Run.meets_bind]
  refine hp.mono ?_ fun _ h => h
  intro reply before
  cases reply with
  | ok a d => exact (hf a d before).mono (fun _ after => before.trans after) fun _ h => h
  | error d e => exact before

/-- A changed value does not move the reply. -/
lemma SteadyAt.map (hp : p.SteadyAt s c) (f : α → β) : (p.map f).SteadyAt s c := by
  rw [map_eq_bind]
  exact hp.bind fun a d _ => steadyAt_succeed (f a)

/-- Either of two steady parsers is steady. -/
lemma SteadyAt.orElse {p q : Parser α} (hp : p.SteadyAt s c) (hq : q.SteadyAt s c) :
    (p.orElse q).SteadyAt s c := by
  simp only [SteadyAt, Parser.orElse, Run.meets_bind]
  refine hp.mono (fun reply before => ?_) fun _ h => h
  split
  · exact before
  · exact hq

/-- A steady parser stays so with a value in its stead. -/
lemma Steady.option {p : Parser α} (hp : p.Steady s input) (a : α) :
    (p.option a).Steady s input :=
  fun c within => (hp c within).orElse (steadyAt_succeed a)

/-- One steady parser after another is steady. -/
lemma Steady.andThen (hp : p.Steady s input) (hq : q.Steady s input) :
    (p.andThen q).Steady s input := by
  intro c within
  rw [andThen_eq_bind]
  exact (hp c within).bind fun _ d before => hq d (before.input_eq.trans within)

/-- So it is with the value of the first. -/
lemma Steady.followedBy (hp : p.Steady s input) (hq : q.Steady s input) :
    (p.followedBy q).Steady s input := by
  intro c within
  rw [followedBy_eq_bind]
  exact (hp c within).bind fun a d before => (hq d (before.input_eq.trans within)).map _

/-! ## Loops -/

/-- **A loop ends if a round that goes on leaves less of the input:** fuel for one round more than
there are symbols left is enough. `J` is what else the rounds keep.

**Proof sketch.** The invariant of the loop is `J` together with the bound: fewer symbols are left
than the fuel that is left. -/
lemma meets_iterate_of_remaining {J : Cursor → σ → Prop} {F : Fault → Prop} {P : β → Prop}
    {round : Cursor × σ → Run (Run.Round (Cursor × σ) β)}
    (step : ∀ d x, J d x → (round (d, x)).Meets
      (fun
        | .again (next, y) => J next y ∧ next.remaining < d.remaining
        | .stop result => P result) F False)
    {fuel : Nat} {x : σ} (start : J c x) (enough : c.remaining < fuel) :
    (Run.iterate round fuel (c, x)).Meets P F False := by
  refine Run.meets_iterate (I := fun n state => J state.1 state.2 ∧ state.1.remaining < n)
    (fun state inv => absurd inv.2 (Nat.not_lt_zero _)) ?_ ⟨start, enough⟩
  rintro n ⟨d, x⟩ ⟨kept, bound⟩
  refine (step d x kept).mono ?_ fun _ h => h
  rintro (⟨next, y⟩ | result) after
  · exact ⟨after.1, Nat.lt_of_lt_of_le after.2 (Nat.lt_succ_iff.1 bound)⟩
  · exact after

variable {start : Cursor}

/-- The loop of the repetitions of one parser, from a cursor that is not before its beginning. -/
lemma Steady.manyFrom (hp : p.Steady s start.input) (push : β → α → β) (collected : β)
    (begun : start.Precedes c) (enough : c.remaining < s.fuel) :
    (manyFrom push p start s c collected).Meets (fun reply => start.Precedes reply.cursor)
      (fun _ => False) False := by
  refine meets_iterate_of_remaining (J := fun d _ => start.Precedes d) (fun d x before => ?_) begun
    enough
  rw [meets_manyRound]
  refine (hp d before.input_eq).mono ?_ fun _ h => h
  intro reply after
  cases reply with
  | ok a next =>
    by_cases moved : next.offset = d.offset
    · simp only [moved, if_true]
      exact Cursor.Precedes.refl start
    · simp only [moved, if_false]
      exact ⟨before.trans after, after.remaining_lt moved⟩
  | error next e =>
    by_cases moved : next.offset = d.offset
    · simp only [moved, if_true]
      exact before
    · simp only [moved, if_false]
      exact before.trans after

/-- The loop of separators and items, from a cursor that is not before its beginning. -/
lemma Steady.sepEndByFrom (hp : p.Steady s start.input) (hq : q.Steady s start.input)
    (items : Array α) (begun : start.Precedes c) (enough : c.remaining < s.fuel) :
    (Run.iterate (sepEndByRound p q start s) s.fuel (c, items)).Meets
      (fun reply => start.Precedes reply.cursor) (fun _ => False) False := by
  refine meets_iterate_of_remaining (J := fun d _ => start.Precedes d) (fun d items before => ?_)
    begun enough
  rw [meets_sepEndByRound]
  refine (hq d before.input_eq).mono ?_ fun _ h => h
  intro reply after
  have through := before.trans after
  cases reply with
  | ok b separated =>
    change (p.run s separated).Meets _ _ _
    refine (hp separated through.input_eq).mono ?_ fun _ h => h
    intro reply after'
    cases reply with
    | ok a next =>
      by_cases moved : next.offset = d.offset
      · simp only [moved, if_true]
        exact Cursor.Precedes.refl start
      · simp only [moved, if_false]
        exact ⟨through.trans after', (after.trans after').remaining_lt moved⟩
    | error next e =>
      by_cases moved : next.offset = separated.offset
      · simp only [moved, if_true]
        exact through
      · simp only [moved, if_false]
        exact through.trans after'
  | error next e =>
    by_cases moved : next.offset = d.offset
    · simp only [moved, if_true]
      exact before
    · simp only [moved, if_false]
      exact through

/-- The loop of items up to an end, from a cursor that is not before its beginning. -/
lemma Steady.tillFrom (hp : p.Steady s start.input) (hq : q.Steady s start.input)
    (items : Array α) (begun : start.Precedes c) (enough : c.remaining < s.fuel) :
    (Run.iterate (tillRound p q start s) s.fuel (c, items)).Meets
      (fun reply => start.Precedes reply.cursor) (fun _ => False) False := by
  refine meets_iterate_of_remaining (J := fun d _ => start.Precedes d) (fun d items before => ?_)
    begun enough
  rw [meets_tillRound]
  refine (hq d before.input_eq).mono ?_ fun _ h => h
  intro reply after
  cases reply with
  | ok b next => exact before.trans after
  | error next e =>
    by_cases moved : next.offset = d.offset
    · simp only [moved, ne_eq, not_true_eq_false, if_false]
      refine (hp d before.input_eq).mono ?_ fun _ h => h
      intro reply after'
      cases reply with
      | ok a next =>
        by_cases moved : next.offset = d.offset
        · simp only [moved, if_true]
          exact Cursor.Precedes.refl start
        · simp only [moved, if_false]
          exact ⟨before.trans after', after'.remaining_lt moved⟩
      | error next e => exact before.trans after'
    · simp only [ne_eq, moved, not_false_eq_true, if_true]
      exact before.trans after

end Parser

end ParserCombinators
