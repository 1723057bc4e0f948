import ParserCombinators.Cursor
import ParserCombinators.Fault

/-!
# Runs

A run of a parser logs events, in the order in which they happen, and ends in one of three ways:
with a result, with a fault, or because its fuel is spent. What was logged before a fault stays.
Every loop is an iteration of one round, with fuel for so many rounds.

## Main definitions

* `Event` — what a traced parser logs, with `Event.text` for its line.
* `Run` — a log and an ending; a monad, in which logs are put one after the other.
* `Run.iterate` — a loop: one round after the other until a round stops.

## Main results

* `Run.instLawfulMonad` — runs satisfy the monad laws, logs included.
* `Run.iterate_succ` — a loop is its first round followed by the loop of the other rounds.
-/

set_option autoImplicit false

namespace ParserCombinators

/-! ## Events -/

/-- What a traced parser logs. -/
inductive Event where
  /-- A trace was reached at a place; `preview` are the next symbols, and `more` says whether
  there are others after them. -/
  | entered (label : String) (preview : Input) (more : Bool) (place : Place)
  /-- A traced parser failed and its cursor was taken back to a place. -/
  | backtracked (label : String) (place : Place)

/-- The line that an event is logged as. The line is written after the run; to write out a symbol is
taken to return. -/
def Event.text : Event → String
  | .entered label preview more place =>
    label ++ ": " ++ preview.toValue.written ++ (if more then "..." else "") ++ " at " ++ place.text
  | .backtracked label place => label ++ " backtracked at " ++ place.text

/-! ## Runs -/

/-- How a run ends. -/
inductive Ending (α : Type) where
  /-- With a result. -/
  | done (result : α)
  /-- With a fault. -/
  | raised (fault : Fault)
  /-- Without a result, because the fuel for its loops and references was spent. -/
  | exhausted

/-- What a run logs, and how it ends. -/
@[ext]
structure Run (α : Type) where
  /-- The events in the order in which they happened. -/
  log : Array Event
  /-- How the run ends. -/
  ending : Ending α

namespace Run

variable {α β σ : Type}

/-- The run that logs nothing and ends with a result. -/
@[inline]
protected def pure (a : α) : Run α :=
  ⟨#[], .done a⟩

/-- One run, and with its result another; the second log follows the first. -/
@[inline]
protected def bind (x : Run α) (f : α → Run β) : Run β :=
  match x with
  | ⟨log, .done a⟩ =>
    let y := f a
    ⟨log ++ y.log, y.ending⟩
  | ⟨log, .raised fault⟩ => ⟨log, .raised fault⟩
  | ⟨log, .exhausted⟩ => ⟨log, .exhausted⟩

/-- Runs one after the other, with their logs put together. -/
instance : Monad Run where
  pure := Run.pure
  bind := Run.bind

/-- The run that ends with a fault at once. -/
def raise (fault : Fault) : Run α :=
  ⟨#[], .raised fault⟩

/-- The run whose fuel is spent at once. -/
def outOfFuel : Run α :=
  ⟨#[], .exhausted⟩

/-- The run that logs one event. -/
def record (event : Event) : Run Unit :=
  ⟨#[event], .done ()⟩

/-- The run with the result of a callback, or with the fault that it raised. -/
def ofExcept : Except Fault α → Run α
  | .ok a => Run.pure a
  | .error fault => raise fault

/-- What a callback returned is a result. -/
@[simp]
theorem ofExcept_ok (a : α) : ofExcept (.ok a) = (pure a : Run α) := rfl

/-- What a callback raised is a fault. -/
@[simp]
theorem ofExcept_error (fault : Fault) : (ofExcept (.error fault) : Run α) = raise fault := rfl

/-! ### Laws -/

/-- A result is handed to the run that follows. -/
@[simp]
theorem pure_bind' (a : α) (f : α → Run β) : (pure a >>= f : Run β) = f a := by
  change Run.bind (Run.pure a) f = f a
  simp [Run.bind, Run.pure]

/-- Nothing follows a fault. -/
@[simp]
theorem raise_bind (fault : Fault) (f : α → Run β) : (raise fault >>= f) = raise fault := rfl

/-- Nothing follows where the fuel is spent. -/
@[simp]
theorem outOfFuel_bind (f : α → Run β) : (outOfFuel >>= f) = outOfFuel := rfl

/-- Of three runs the first two or the last two may be taken together, and the log is the same. -/
theorem bind_assoc' {γ : Type} (x : Run α) (f : α → Run β) (g : β → Run γ) :
    x >>= f >>= g = x >>= fun a => f a >>= g := by
  change Run.bind (Run.bind x f) g = Run.bind x fun a => Run.bind (f a) g
  rcases x with ⟨log, a | _ | _⟩
  · simp only [Run.bind]
    rcases f a with ⟨log', _ | _ | _⟩ <;> simp [Array.append_assoc]
  · rfl
  · rfl

/-- To hand the result on changes nothing. -/
theorem bind_pure' (x : Run α) : (x >>= pure) = x := by
  change Run.bind x Run.pure = x
  rcases x with ⟨log, _ | _ | _⟩ <;> simp [Run.bind, Run.pure]

/-- Runs satisfy the laws of a monad, logs included. -/
instance instLawfulMonad : LawfulMonad Run :=
  LawfulMonad.mk' Run (fun x => bind_pure' x) (fun a f => pure_bind' a f)
    (fun x f g => bind_assoc' x f g)

/-! ## Loops -/

/-- What a round of a loop ends with. -/
inductive Round (σ : Type) (α : Type) where
  /-- Another round is to follow, from a new state. -/
  | again (state : σ)
  /-- The loop has its result. -/
  | stop (result : α)

/-- A loop that has logged `log` and has fuel for so many rounds more. -/
def iterateAfter (round : σ → Run (Round σ α)) : Nat → Array Event → σ → Run α
  | 0, log, _ => ⟨log, .exhausted⟩
  | fuel + 1, log, state =>
    match round state with
    | ⟨logged, .done (.again state)⟩ => iterateAfter round fuel (log ++ logged) state
    | ⟨logged, .done (.stop result)⟩ => ⟨log ++ logged, .done result⟩
    | ⟨logged, .raised fault⟩ => ⟨log ++ logged, .raised fault⟩
    | ⟨logged, .exhausted⟩ => ⟨log ++ logged, .exhausted⟩

/-- One round after the other until a round stops, with fuel for so many rounds. -/
def iterate (round : σ → Run (Round σ α)) (fuel : Nat) (state : σ) : Run α :=
  iterateAfter round fuel #[] state

/-- What was logged before a loop stands before what the loop logs. -/
theorem iterateAfter_eq (round : σ → Run (Round σ α)) (fuel : Nat) (log : Array Event)
    (state : σ) :
    iterateAfter round fuel log state =
      ⟨log ++ (iterate round fuel state).log, (iterate round fuel state).ending⟩ := by
  induction fuel generalizing log state with
  | zero => simp [iterate, iterateAfter]
  | succ fuel ih =>
    simp only [iterate, iterateAfter]
    split
    · rw [ih (log ++ _), ih (#[] ++ _)]
      simp [Array.append_assoc]
    all_goals simp

/-- A loop without fuel takes no round. -/
@[simp]
theorem iterate_zero (round : σ → Run (Round σ α)) (state : σ) :
    iterate round 0 state = outOfFuel := rfl

/-- A loop is its first round, followed by the loop of the other rounds if there are to be any. -/
theorem iterate_succ (round : σ → Run (Round σ α)) (fuel : Nat) (state : σ) :
    iterate round (fuel + 1) state =
      (round state >>= fun
        | .again state => iterate round fuel state
        | .stop result => pure result) := by
  change _ = Run.bind _ _
  rw [iterate, iterateAfter]
  obtain ⟨logged, (_ | _) | _ | _⟩ := round state
  · simp only [Run.bind]
    rw [iterateAfter_eq]
    simp
  all_goals simp [Run.bind, pure, Run.pure]

end Run

end ParserCombinators
