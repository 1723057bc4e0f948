import Mathlib.Tactic.Common
import ParserCombinators.Run

/-!
# Postconditions of runs

A postcondition says of each of the three endings of a run what must hold there. The log plays no
part. A postcondition that holds where the fuel is spent speaks only of the runs that come to an
end; one that does not hold there says that the run comes to an end.

## Main definitions

* `Run.Meets` — a run ends as a postcondition says.

## Main results

* `Run.meets_bind` — one run after another meets a postcondition if the first ends where the
  second meets it.
* `Run.meets_iterate` — the rule of loops: an invariant that every round keeps, and that says how
  many rounds may follow.
-/

set_option autoImplicit false

namespace ParserCombinators

namespace Run

variable {α β σ : Type}

/-- The run ends with a result in `P`, with a fault in `F`, or, if `E` holds, because its fuel is
spent. -/
def Meets (x : Run α) (P : α → Prop) (F : Fault → Prop) (E : Prop) : Prop :=
  match x.ending with
  | .done a => P a
  | .raised fault => F fault
  | .exhausted => E

variable {P Q : α → Prop} {F G : Fault → Prop} {E : Prop}

/-! ## One ending -/

/-- A run that is only a result meets what holds of the result. -/
@[simp]
lemma meets_pure (a : α) : (pure a : Run α).Meets P F E ↔ P a := Iff.rfl

/-- A run that is only a fault meets what holds of the fault. -/
@[simp]
lemma meets_raise (fault : Fault) : (raise fault : Run α).Meets P F E ↔ F fault := Iff.rfl

/-- A run whose fuel is spent at once meets what holds there. -/
@[simp]
lemma meets_outOfFuel : (outOfFuel : Run α).Meets P F E ↔ E := Iff.rfl

/-- A run that logs an event meets what holds of its result. -/
@[simp]
lemma meets_record (event : Event) {P : Unit → Prop} : (record event).Meets P F E ↔ P () := Iff.rfl

/-- What a callback returned is the result, and what it raised is the fault. -/
lemma meets_ofExcept (x : Except Fault α) :
    (ofExcept x).Meets P F E ↔ (∀ a, x = .ok a → P a) ∧ ∀ fault, x = .error fault → F fault := by
  cases x with
  | ok a => simp
  | error fault => simp

/-- A run with a result meets a postcondition exactly if the result is in it. -/
lemma meets_of_ending_eq {x : Run α} {a : α} (h : x.ending = .done a) :
    x.Meets P F E ↔ P a := by
  simp [Meets, h]

/-- A weaker postcondition is met too. -/
lemma Meets.mono {x : Run α} (h : x.Meets P F E) (done : ∀ a, P a → Q a)
    (raised : ∀ fault, F fault → G fault) : x.Meets Q G E := by
  unfold Meets at *
  cases hx : x.ending with
  | done a => rw [hx] at h; exact done a h
  | raised fault => rw [hx] at h; exact raised fault h
  | exhausted => rw [hx] at h; exact h

/-- Every run ends as it ends. -/
lemma meets_ending (x : Run α) :
    x.Meets (fun a => x.ending = .done a) (fun fault => x.ending = .raised fault) True := by
  unfold Meets
  split
  · assumption
  · assumption
  · trivial

/-- A run that meets a postcondition ends with a result that is in it. -/
lemma Meets.along {x : Run α} (h : x.Meets P F E) :
    x.Meets (fun a => P a ∧ x.ending = .done a) F E := by
  unfold Meets at *
  cases hx : x.ending with
  | done a => rw [hx] at h; exact ⟨h, rfl⟩
  | raised fault => rw [hx] at h; exact h
  | exhausted => rw [hx] at h; exact h

/-! ## One run after another -/

/-- One run after another ends with a result exactly if the first ends with one after which the
second does. -/
lemma ending_bind_eq_done_iff (x : Run α) (f : α → Run β) (b : β) :
    (x >>= f).ending = .done b ↔ ∃ a, x.ending = .done a ∧ (f a).ending = .done b := by
  change (Run.bind x f).ending = _ ↔ _
  obtain ⟨log, a | fault | _⟩ := x <;> simp [Run.bind]

/-- After a run with a result, the ending is that of the run that follows for this result. -/
lemma ending_bind_of_done {x : Run α} {a : α} (h : x.ending = .done a) (f : α → Run β) :
    (x >>= f).ending = (f a).ending := by
  obtain ⟨log, ending⟩ := x
  obtain rfl : ending = .done a := h
  rfl

/-- Runs that end in the same way do so with the same run after them. -/
lemma ending_bind_congr {x y : Run α} (h : x.ending = y.ending) (f : α → Run β) :
    (x >>= f).ending = (y >>= f).ending := by
  obtain ⟨log, ending⟩ := x
  obtain ⟨log', ending'⟩ := y
  obtain rfl : ending = ending' := h
  cases ending <;> rfl

/-- One run after another meets a postcondition exactly if the first ends with a result after which
the second meets it, or with a fault or spent fuel as the postcondition allows. -/
lemma meets_bind (x : Run α) (f : α → Run β) {P : β → Prop} :
    (x >>= f).Meets P F E ↔ x.Meets (fun a => (f a).Meets P F E) F E := by
  change (Run.bind x f).Meets P F E ↔ _
  obtain ⟨log, a | fault | _⟩ := x <;> exact Iff.rfl

/-- The result of a run that meets a postcondition after a change of its result. -/
@[simp]
lemma meets_map (x : Run α) (f : α → β) {P : β → Prop} :
    (f <$> x).Meets P F E ↔ x.Meets (fun a => P (f a)) F E := by
  rw [← bind_pure_comp, meets_bind]
  rfl

/-! ## Loops -/

/-- **The rule of loops.** `I n state` says that the loop is in `state` with fuel for `n` rounds
more. If the invariant allows no spent fuel except where the postcondition does, and every round
keeps it or stops as the postcondition says, then the loop meets the postcondition.

**Proof sketch.** Induction on the fuel, with one round unfolded by `Run.iterate_succ`. -/
lemma meets_iterate {round : σ → Run (Round σ α)} {I : Nat → σ → Prop}
    (spent : ∀ state, I 0 state → E)
    (step : ∀ n state, I (n + 1) state → (round state).Meets
      (fun
        | .again state => I n state
        | .stop result => P result) F E)
    {fuel : Nat} {state : σ} (start : I fuel state) : (iterate round fuel state).Meets P F E := by
  induction fuel generalizing state with
  | zero => exact spent state start
  | succ fuel ih =>
    rw [iterate_succ, meets_bind]
    refine (step fuel state start).mono ?_ fun _ h => h
    rintro (next | result) h
    · exact ih h
    · exact h

end Run

end ParserCombinators
