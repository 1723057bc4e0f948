import Mathlib.Tactic.Common
import ParserCombinators.Proofs.Postcondition

/-!
# The rounds of a loop

The path that a loop takes, round by round. A loop that goes on for some rounds and then stops ends
with the result of the round that stopped it, if there is fuel for one round more than it went on.
A loop in which every round goes on spends all fuel, however much there is.

## Main definitions

* `InRounds` — so many steps of a relation lead from one state to another.
* `Run.GoesOn`, `Run.Stops` — what one round does: it leads to another state, or has the result.
* `Run.Round.map` — a round with its state and its result changed.

## Main results

* `Run.ending_iterate_of_inRounds` — a loop ends as it does from a state to which rounds lead.
* `Run.ending_iterate_eq_done_iff` — a loop ends with the result of the round that stops.
* `Run.ending_iterate_eq_exhausted` — a loop of which no round stops does not end.
* `Run.iterate_map` — a loop over changed states has the result changed.
-/

set_option autoImplicit false

namespace ParserCombinators

variable {α β σ τ : Type}

/-! ## Counted steps -/

/-- So many steps of a relation lead from one state to another. -/
inductive InRounds (R : σ → σ → Prop) : Nat → σ → σ → Prop
  /-- No step has been taken. -/
  | none (x : σ) : InRounds R 0 x x
  /-- A first step, and then the others. -/
  | more {n : Nat} {x y z : σ} (first : R x y) (others : InRounds R n y z) :
    InRounds R (n + 1) x z

/-- A last step comes after the others. -/
lemma InRounds.snoc {R : σ → σ → Prop} {n : Nat} {x y z : σ} (h : InRounds R n x y)
    (last : R y z) : InRounds R (n + 1) x z := by
  induction h with
  | none x => exact .more last (.none z)
  | more first others ih => exact .more first (ih last)

/-- Steps of a relation are accompanied by steps of another on states that carry more, if every
single step is. -/
lemma InRounds.lift {R : σ → σ → Prop} {S : σ × τ → σ × τ → Prop} {n : Nat} {x y : σ}
    (step : ∀ x y, R x y → ∀ a, ∃ b, S (x, a) (y, b)) (h : InRounds R n x y) (a : τ) :
    ∃ b, InRounds S n (x, a) (y, b) := by
  induction h generalizing a with
  | none x => exact ⟨a, .none _⟩
  | more first others ih =>
    obtain ⟨b, stepped⟩ := step _ _ first a
    obtain ⟨c, arrived⟩ := ih b
    exact ⟨c, .more stepped arrived⟩

namespace Run

/-! ## One round -/

/-- The round from `x` asks for another round, from `y`. -/
def GoesOn (round : σ → Run (Round σ α)) (x y : σ) : Prop :=
  (round x).ending = .done (.again y)

/-- The round from `x` has the result of the loop. -/
def Stops (round : σ → Run (Round σ α)) (x : σ) (a : α) : Prop :=
  (round x).ending = .done (.stop a)

/-- A run ends with a result exactly if it meets the postcondition to be that result. -/
lemma ending_eq_done_iff_meets (x : Run α) (a : α) :
    x.ending = .done a ↔ x.Meets (· = a) (fun _ => False) False := by
  unfold Meets
  cases x.ending with
  | done b => simp
  | raised fault => simp
  | exhausted => simp

/-- A run ends with a result that is in a postcondition exactly if it meets the postcondition. -/
lemma exists_done_iff_meets (x : Run α) (P : α → Prop) :
    (∃ a, x.ending = .done a ∧ P a) ↔ x.Meets P (fun _ => False) False := by
  unfold Meets
  cases x.ending with
  | done a => simp
  | raised fault => simp
  | exhausted => simp

variable {round : σ → Run (Round σ α)} {x y : σ} {n : Nat}

/-- A round that goes on, as a postcondition of the round. -/
lemma goesOn_iff_meets :
    GoesOn round x y ↔ (round x).Meets (· = .again y) (fun _ => False) False :=
  ending_eq_done_iff_meets _ _

/-- A round that stops, as a postcondition of the round. -/
lemma stops_iff_meets {a : α} :
    Stops round x a ↔ (round x).Meets (· = .stop a) (fun _ => False) False :=
  ending_eq_done_iff_meets _ _

/-! ## All rounds -/

/-- After a round that goes on, a loop is one with less fuel. -/
lemma GoesOn.ending_iterate (h : GoesOn round x y) (fuel : Nat) :
    (iterate round (fuel + 1) x).ending = (iterate round fuel y).ending := by
  rw [iterate_succ]
  exact ending_bind_of_done h _

/-- A loop ends with the result of a round that stops. -/
lemma Stops.ending_iterate {a : α} (h : Stops round x a) (fuel : Nat) :
    (iterate round (fuel + 1) x).ending = .done a := by
  rw [iterate_succ]
  exact ending_bind_of_done h _

/-- A loop ends as it does from any state to which its rounds lead. -/
lemma ending_iterate_of_inRounds (h : InRounds (GoesOn round) n x y) (fuel : Nat) :
    (iterate round (n + fuel) x).ending = (iterate round fuel y).ending := by
  induction h with
  | none x => rw [Nat.zero_add]
  | @more n x y z first others ih =>
    rw [Nat.add_right_comm, first.ending_iterate, ih]

/-- A loop that stops after some rounds has the result of the round that stopped, if there is fuel
for that round too. -/
lemma ending_iterate_eq_done {a : α} {fuel : Nat} (path : InRounds (GoesOn round) n x y)
    (last : Stops round y a) (enough : n < fuel) : (iterate round fuel x).ending = .done a := by
  obtain ⟨more, rfl⟩ := Nat.exists_eq_add_of_lt enough
  rw [Nat.add_assoc, ending_iterate_of_inRounds path, last.ending_iterate]

/-- A loop ends with a result exactly if it goes on for some rounds, a round then stops it with that
result, and there is fuel for all of them.

**Proof sketch.** From left to right, induction on the fuel. -/
lemma ending_iterate_eq_done_iff {a : α} {fuel : Nat} :
    (iterate round fuel x).ending = .done a ↔
      ∃ n y, InRounds (GoesOn round) n x y ∧ Stops round y a ∧ n < fuel := by
  constructor
  · intro ends
    induction fuel generalizing x with
    | zero => cases ends
    | succ fuel ih =>
      rw [iterate_succ, ending_bind_eq_done_iff] at ends
      obtain ⟨next | result, ran, ends⟩ := ends
      · obtain ⟨n, y, path, last, enough⟩ := ih ends
        exact ⟨n + 1, y, .more ran path, last, Nat.succ_lt_succ enough⟩
      · cases ends
        exact ⟨0, x, .none x, ran, Nat.zero_lt_succ fuel⟩
  · rintro ⟨n, y, path, last, enough⟩
    exact ending_iterate_eq_done path last enough

/-- A loop with no fuel for another round after those it has gone on spends all its fuel. -/
lemma ending_iterate_eq_exhausted_of_inRounds (path : InRounds (GoesOn round) n x y) {fuel : Nat}
    (few : fuel ≤ n) : (iterate round fuel x).ending = .exhausted := by
  induction path generalizing fuel with
  | none x =>
    obtain rfl := Nat.le_zero.1 few
    rfl
  | more first others ih =>
    cases fuel with
    | zero => rfl
    | succ fuel => rw [first.ending_iterate, ih (Nat.le_of_succ_le_succ few)]

/-- **A loop that always goes on does not end:** if every state with a property is followed by
another one with it, all fuel is spent.

**Proof sketch.** Induction on the fuel. -/
lemma ending_iterate_eq_exhausted {I : σ → Prop} (step : ∀ x, I x → ∃ y, GoesOn round x y ∧ I y)
    (start : I x) (fuel : Nat) : (iterate round fuel x).ending = .exhausted := by
  induction fuel generalizing x with
  | zero => rfl
  | succ fuel ih =>
    obtain ⟨y, first, others⟩ := step x start
    rw [first.ending_iterate, ih others]

/-! ## Changed states -/

/-- A round with its state and its result changed. -/
def Round.map (f : σ → τ) (g : α → β) : Round σ α → Round τ β
  | .again x => .again (f x)
  | .stop a => .stop (g a)

/-- **A loop over changed states has the result changed**, if each round does with a changed state
what another does with the state, and changes what that ends with.

**Proof sketch.** Induction on the fuel, with one round of each loop unfolded by
`Run.iterate_succ`. -/
lemma iterate_map {round' : τ → Run (Round τ β)} {f : σ → τ} {g : α → β}
    (same : ∀ x, round' (f x) = round x >>= fun next => pure (next.map f g)) (fuel : Nat) (x : σ) :
    iterate round' fuel (f x) = iterate round fuel x >>= fun a => pure (g a) := by
  induction fuel generalizing x with
  | zero => rfl
  | succ fuel ih =>
    rw [iterate_succ, iterate_succ, same, bind_assoc', bind_assoc']
    refine congrArg _ (funext fun next => ?_)
    rw [pure_bind']
    cases next with
    | again y => exact ih y
    | stop a => exact (pure_bind' a fun a => pure (g a)).symm

end Run

end ParserCombinators
