import Mathlib.Tactic.Common
import ParserCombinators.Run

/-!
# Two runs that end alike

Two runs end alike if both end with results, and these are related as is asked, if both end with
the same fault, or if the fuel of both is spent. The logs play no part. Runs that end alike can be
followed by others that do, and two loops end alike if a relation between their states is kept by
every round.

## Main definitions

* `Ending.Alike`, `Run.Alike` — endings of one kind, with related results.
* `Run.Round.Alike` — two rounds that both go on, or both stop.

## Main results

* `Run.Alike.bind`, `Run.Alike.ite` — one run after another, and one of two runs.
* `Run.Alike.iterate` — loops: it is enough that every round keeps a relation between the states.
-/

set_option autoImplicit false

namespace ParserCombinators

variable {α β γ δ σ τ : Type}

/-- Two endings of one kind: with results that are related, with the same fault, or with spent
fuel. -/
inductive Ending.Alike (R : α → β → Prop) : Ending α → Ending β → Prop
  /-- Both with a result. -/
  | done {a : α} {b : β} (related : R a b) : Alike R (.done a) (.done b)
  /-- Both with the same fault. -/
  | raised (fault : Fault) : Alike R (.raised fault) (.raised fault)
  /-- Both with spent fuel. -/
  | exhausted : Alike R .exhausted .exhausted

/-- Endings that are alike are so under a weaker relation. -/
lemma Ending.Alike.mono {R S : α → β → Prop} {x : Ending α} {y : Ending β} (h : x.Alike R y)
    (weaker : ∀ a b, R a b → S a b) : x.Alike S y := by
  cases h with
  | done related => exact .done (weaker _ _ related)
  | raised fault => exact .raised fault
  | exhausted => exact .exhausted

/-- Endings that are alike are so in the other order. -/
lemma Ending.Alike.symm {R : α → β → Prop} {x : Ending α} {y : Ending β} (h : x.Alike R y) :
    y.Alike (fun b a => R a b) x := by
  cases h with
  | done related => exact .done related
  | raised fault => exact .raised fault
  | exhausted => exact .exhausted

/-- Endings that are alike to one between them are alike, with results related to the one that it
has. -/
lemma Ending.Alike.trans {R : α → β → Prop} {S : β → γ → Prop} {x : Ending α} {y : Ending β}
    {z : Ending γ} (h : x.Alike R y) (h' : y.Alike S z) :
    x.Alike (fun a c => ∃ b, R a b ∧ S b c) z := by
  cases h with
  | done related =>
    cases h' with
    | done related' => exact .done ⟨_, related, related'⟩
  | raised fault =>
    cases h'
    exact .raised fault
  | exhausted =>
    cases h'
    exact .exhausted

namespace Run

/-- Two runs with endings that are alike. -/
def Alike (R : α → β → Prop) (x : Run α) (y : Run β) : Prop :=
  x.ending.Alike R y.ending

variable {R : α → β → Prop} {S : γ → δ → Prop}

/-! ## Single runs -/

/-- Runs that are only related results end alike. -/
lemma alike_pure {a : α} {b : β} (h : R a b) : (pure a : Run α).Alike R (pure b) := .done h

/-- Runs that are only the same fault end alike. -/
lemma alike_raise (fault : Fault) : (raise fault : Run α).Alike R (raise fault : Run β) :=
  .raised fault

/-- Runs whose fuel is spent at once end alike. -/
lemma alike_outOfFuel : (outOfFuel : Run α).Alike R (outOfFuel : Run β) := .exhausted

/-- A run ends like itself, with the result that it has. -/
lemma alike_along (x : Run α) : x.Alike (fun a b => a = b ∧ x.ending = .done a) x := by
  obtain ⟨log, a | fault | _⟩ := x
  · exact .done ⟨rfl, rfl⟩
  · exact .raised fault
  · exact .exhausted

/-- A run ends like itself. -/
lemma alike_refl (x : Run α) : x.Alike Eq x :=
  (alike_along x).mono fun _ _ h => h.1

/-- A run that ends like one with a result has a related result. -/
lemma Alike.exists_of_done {x : Run α} {y : Run β} {b : β} (h : x.Alike R y)
    (ending : y.ending = .done b) : ∃ a, x.ending = .done a ∧ R a b := by
  obtain ⟨log, ending'⟩ := x
  rw [Alike, ending] at h
  cases h with
  | done related => exact ⟨_, rfl, related⟩

/-- A run that ends like one with a fault has that fault. -/
lemma Alike.of_raised {x : Run α} {y : Run β} {fault : Fault} (h : x.Alike R y)
    (ending : y.ending = .raised fault) : x.ending = .raised fault := by
  obtain ⟨log, ending'⟩ := x
  rw [Alike, ending] at h
  cases h with
  | raised fault => rfl

/-! ## One run after another -/

/-- Runs that end alike, followed by runs that end alike for related results, end alike. -/
lemma Alike.bind {x : Run α} {y : Run β} {f : α → Run γ} {g : β → Run δ} (h : x.Alike R y)
    (next : ∀ a b, R a b → (f a).Alike S (g b)) : (x >>= f).Alike S (y >>= g) := by
  obtain ⟨log, ending⟩ := x
  obtain ⟨log', ending'⟩ := y
  cases h with
  | done related => exact next _ _ related
  | raised fault => exact .raised fault
  | exhausted => exact .exhausted

/-- Two runs of which each takes one of two ways, by conditions that agree. -/
lemma Alike.ite {P Q : Prop} [Decidable P] [Decidable Q] {x x' : Run α} {y y' : Run β}
    (agree : P ↔ Q) (yes : P → x.Alike R y) (no : ¬ P → x'.Alike R y') :
    (if P then x else x').Alike R (if Q then y else y') := by
  by_cases h : P
  · rw [if_pos h, if_pos (agree.1 h)]
    exact yes h
  · rw [if_neg h, if_neg (mt agree.2 h)]
    exact no h

/-! ## Loops -/

/-- Two rounds that both go on, from related states, or both stop, with related results. -/
inductive Round.Alike (I : σ → τ → Prop) (R : α → β → Prop) : Round σ α → Round τ β → Prop
  /-- Both loops go on. -/
  | again {state : σ} {state' : τ} (related : I state state') :
    Alike I R (.again state) (.again state')
  /-- Both loops stop. -/
  | stop {a : α} {b : β} (related : R a b) : Alike I R (.stop a) (.stop b)

/-- **Two loops end alike** if they have the same fuel and related states have rounds that end
alike.

**Proof sketch.** Induction on the fuel, with one round of each loop unfolded by
`Run.iterate_succ`. -/
lemma Alike.iterate {I : σ → τ → Prop} {round : σ → Run (Round σ α)} {round' : τ → Run (Round τ β)}
    {fuel fuel' : Nat} (same : fuel = fuel')
    (step : ∀ state state', I state state' →
      (round state).Alike (Round.Alike I R) (round' state'))
    {state : σ} {state' : τ} (start : I state state') :
    (Run.iterate round fuel state).Alike R (Run.iterate round' fuel' state') := by
  subst same
  induction fuel generalizing state state' with
  | zero => exact alike_outOfFuel
  | succ fuel ih =>
    rw [iterate_succ, iterate_succ]
    refine (step state state' start).bind ?_
    intro next next' alike
    cases alike with
    | again related => exact ih related
    | stop related => exact alike_pure related

end Run

end ParserCombinators
