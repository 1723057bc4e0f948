import Mathlib.Tactic.Common
import ParserCombinators.Parser.Trace
import ParserCombinators.Proofs.Parser.Change
import ParserCombinators.Proofs.Parser.Sequencing

/-!
# What a parser logs

The log of a run is made of the logs of the runs inside it, in the order in which they take place.
Which runs take place can be told from the endings alone: the second parser runs where the first
succeeded, an alternative where the first parser failed without consuming, another round where a
round did not stop. What is gathered along the way in this manner can be anything; of what is
gathered, a part can be picked before or after.

## Main definitions

* `Ending.after`, `Ending.ifOk`, `Ending.ifMissed`, `Ending.ifFailed` — what is gathered after a
  run, after a success, after a failure without consuming, or after any failure.
* `Run.along`, `Parser.inOrder` — what is gathered in the rounds of a loop, and in parsers one
  after the other.
* `Parser.events` — what a parser logs.

## Main results

* `Run.log_bind`, `Run.log_iterate` — the log of one run after another, and of a loop.
* `Parser.events_bind`, `Parser.events_mapReply`, `Parser.events_orElse`, `Parser.events_manyBy` —
  what combinators log.
-/

set_option autoImplicit false

namespace ParserCombinators

variable {α β γ ε δ σ τ ο : Type}

/-! ## Gathering -/

/-- What is gathered after a run: what `f` says of its result, and nothing without one. -/
def Ending.after (x : Ending α) (f : α → List ε) : List ε :=
  match x with
  | .done a => f a
  | .raised _ | .exhausted => []

/-- What is gathered after a success. -/
def Ending.ifOk (x : Ending (Reply α)) (f : α → Cursor → List ε) : List ε :=
  x.after fun
    | .ok a d => f a d
    | .error _ _ => []

/-- What is gathered after a failure that did not move from `c`. -/
def Ending.ifMissed (x : Ending (Reply α)) (c : Cursor) (others : List ε) : List ε :=
  x.after fun
    | .ok _ _ => []
    | .error d _ => if d.offset = c.offset then others else []

/-- What is gathered after a failure, wherever it is. -/
def Ending.ifFailed (x : Ending (Reply α)) (others : List ε) : List ε :=
  x.after fun
    | .ok _ _ => []
    | .error _ _ => others

/-- What is gathered in the rounds of a loop: what `f` says of each state from which a round is
run. -/
def Run.along (round : σ → Run (Run.Round σ α)) (f : σ → List ε) : Nat → σ → List ε
  | 0, _ => []
  | fuel + 1, state =>
    f state ++ (round state).ending.after fun
      | .again next => along round f fuel next
      | .stop _ => []

/-- What is gathered in parsers that are run one after the other, as long as they succeed. -/
def Parser.inOrder (s : Settings) : List (Parser α × (Cursor → List ε)) → Cursor → List ε
  | [], _ => []
  | (p, f) :: others, c =>
    f c ++ (p.run s c).ending.ifOk fun _ d => inOrder s others d

/-! ### Picking -/

variable {pick : ε → Option δ}

/-- What is gathered after a run is picked from what is gathered of its result. -/
@[simp]
lemma Ending.filterMap_after (x : Ending α) (f : α → List ε) :
    (x.after f).filterMap pick = x.after fun a => (f a).filterMap pick := by
  cases x <;> rfl

/-- What is gathered after a success is picked from what is gathered of it. -/
@[simp]
lemma Ending.filterMap_ifOk (x : Ending (Reply α)) (f : α → Cursor → List ε) :
    (x.ifOk f).filterMap pick = x.ifOk fun a d => (f a d).filterMap pick := by
  rcases x with (⟨a, d⟩ | ⟨d, e⟩) | _ | _ <;> rfl

/-- What is gathered after a failure that did not move is picked from it. -/
@[simp]
lemma Ending.filterMap_ifMissed (x : Ending (Reply α)) (c : Cursor) (others : List ε) :
    (x.ifMissed c others).filterMap pick = x.ifMissed c (others.filterMap pick) := by
  rcases x with (⟨a, d⟩ | ⟨d, e⟩) | _ | _
  · rfl
  · simp only [ifMissed, after]
    split <;> rfl
  · rfl
  · rfl

/-- What is gathered in a loop is picked from what is gathered in its rounds. -/
@[simp]
lemma Run.filterMap_along (round : σ → Run (Run.Round σ α)) (f : σ → List ε) (fuel : Nat)
    (state : σ) :
    (along round f fuel state).filterMap pick =
      along round (fun state => (f state).filterMap pick) fuel state := by
  induction fuel generalizing state with
  | zero => rfl
  | succ fuel ih =>
    simp only [along, List.filterMap_append, Ending.filterMap_after]
    congr
    funext outcome
    cases outcome with
    | again next => exact ih next
    | stop result => rfl

/-- What is gathered in parsers one after the other is picked from each of them. -/
@[simp]
lemma Parser.filterMap_inOrder (s : Settings) (ps : List (Parser α × (Cursor → List ε)))
    (c : Cursor) :
    (inOrder s ps c).filterMap pick =
      inOrder s (ps.map fun (p, f) => (p, fun d => (f d).filterMap pick)) c := by
  induction ps generalizing c with
  | nil => rfl
  | cons p ps ih => simp only [inOrder, List.filterMap_append, Ending.filterMap_ifOk, ih, List.map]

/-! ### Two loops -/

/-- In two loops with rounds that end alike, the same is gathered if it is so in every round. -/
lemma Run.along_congr {I : σ → τ → Prop} {R : α → β → Prop} {round : σ → Run (Run.Round σ α)}
    {round' : τ → Run (Run.Round τ β)} {f : σ → List ε} {f' : τ → List ε}
    (step : ∀ x y, I x y → (round x).Alike (Run.Round.Alike I R) (round' y))
    (same : ∀ x y, I x y → f x = f' y) (fuel : Nat) {x : σ} {y : τ} (start : I x y) :
    along round f fuel x = along round' f' fuel y := by
  induction fuel generalizing x y with
  | zero => rfl
  | succ fuel ih =>
    simp only [along, same x y start]
    congr 1
    have ends := step x y start
    unfold Run.Alike at ends
    generalize (round x).ending = ending at ends ⊢
    generalize (round' y).ending = ending' at ends ⊢
    cases ends with
    | done related =>
      cases related with
      | again related => exact ih related
      | stop related => rfl
    | raised fault => rfl
    | exhausted => rfl

/-! ### Nothing to gather -/

/-- Where nothing is gathered of any result, nothing is. -/
@[simp]
lemma Ending.after_nil (x : Ending α) : x.after (fun _ => ([] : List ε)) = [] := by
  cases x <;> rfl

/-- Where nothing is gathered of any success, nothing is. -/
@[simp]
lemma Ending.ifOk_nil (x : Ending (Reply α)) : x.ifOk (fun _ _ => ([] : List ε)) = [] := by
  rcases x with (⟨a, d⟩ | ⟨d, e⟩) | _ | _ <;> rfl

/-! ## The log of a run -/

namespace Run

/-- The log of one run after another. -/
lemma log_bind (x : Run α) (f : α → Run β) :
    (x >>= f).log.toList = x.log.toList ++ x.ending.after fun a => (f a).log.toList := by
  change (Run.bind x f).log.toList = _
  obtain ⟨log, a | fault | _⟩ := x <;> simp [Run.bind, Ending.after]

/-- The log of one run after another, if what the second logs is known for every result. -/
lemma log_bind_eq {x : Run α} {f : α → Run β} {g : α → List Event}
    (h : ∀ a, (f a).log.toList = g a) :
    (x >>= f).log.toList = x.log.toList ++ x.ending.after g := by
  rw [log_bind, funext h]

/-- A run after which nothing is logged logs all there is. -/
lemma log_bind_quiet {x : Run α} {f : α → Run β} (quiet : ∀ a, (f a).log = #[]) :
    (x >>= f).log.toList = x.log.toList := by
  simp only [log_bind, quiet, Array.toList_empty, Ending.after_nil, List.append_nil]

/-- A callback logs nothing. -/
@[simp]
lemma log_ofExcept (x : Except Fault α) : (ofExcept x).log = #[] := by
  cases x <;> rfl

/-- The log of a loop is that of its rounds. -/
lemma log_iterate (round : σ → Run (Run.Round σ α)) (fuel : Nat) (state : σ) :
    (iterate round fuel state).log.toList =
      along round (fun state => (round state).log.toList) fuel state := by
  induction fuel generalizing state with
  | zero => rfl
  | succ fuel ih =>
    rw [iterate_succ]
    refine log_bind_eq fun outcome => ?_
    cases outcome with
    | again next => exact ih next
    | stop result => rfl

end Run

/-! ## What parsers log -/

namespace Parser

/-- What a parser logs in a run from a cursor, in order. -/
def events (p : Parser α) (s : Settings) (c : Cursor) : List Event :=
  (p.run s c).log.toList

variable {p : Parser α} {q : Parser β} {s : Settings} {c : Cursor}

/-- Success without reading logs nothing. -/
@[simp]
lemma events_succeed (a : α) : (succeed a).events s c = [] := rfl

/-- Failure without reading logs nothing. -/
@[simp]
lemma events_fail (e : ParseError) : (fail e : Parser α).events s c = [] := rfl

/-- A fault logs nothing. -/
@[simp]
lemma events_raise (fault : Fault) : (raise fault : Parser α).events s c = [] := rfl

/-- Looking at the input logs nothing. -/
private lemma log_look (c : Cursor) : (look c).log = #[] := by
  unfold look
  split <;> rfl

/-- The end of the input logs nothing. -/
@[simp]
lemma events_endOfInput : endOfInput.events s c = [] := by
  simp only [events, endOfInput, Run.log_bind, log_look, Array.toList_empty, List.nil_append]
  cases c.head? <;> exact Ending.after_nil _

/-- A symbol logs nothing. -/
@[simp]
lemma events_token (test : Value → Except Fault Bool) (expected : Value) :
    (token test expected).events s c = [] := by
  simp only [events, token, Run.log_bind, log_look, List.nil_append]
  cases c.head? with
  | none => exact Ending.after_nil _
  | some found =>
    have quiet (passed : Bool) : (if passed = true then pure (.ok found (c.advance 1))
        else pure (.error c (.ofAtom expected found)) : Run (Reply Value)).log.toList = [] := by
      cases passed <;> rfl
    simp only [Run.log_bind, Run.log_ofExcept, List.nil_append, quiet, Ending.after_nil]

/-- A literal logs nothing. -/
@[simp]
lemma events_literal (expected : Value) : (literal expected).events s c = [] := by
  unfold literal
  split
  · simp only [events, symbols, Run.log_bind, log_look, List.nil_append]
    split <;> exact Ending.after_nil _
  · rfl

/-! ### One after another -/

/-- The second parser logs after the first, if that succeeds. -/
lemma events_bind (p : Parser α) (f : α → Parser β) :
    (p.bind f).events s c =
      p.events s c ++ (p.run s c).ending.ifOk fun a d => (f a).events s d := by
  refine Run.log_bind_eq fun reply => ?_
  cases reply <;> rfl

/-- A changed value logs nothing. -/
@[simp]
lemma events_map (f : α → β) : (p.map f).events s c = p.events s c := by
  simp [map_eq_bind, events_bind]

/-- The second parser logs after the first, if that succeeds. -/
lemma events_andThen : (p.andThen q).events s c =
    p.events s c ++ (p.run s c).ending.ifOk fun _ d => q.events s d := by
  rw [andThen_eq_bind, events_bind]

/-- The second parser logs after the first, if that succeeds. -/
lemma events_followedBy : (p.followedBy q).events s c =
    p.events s c ++ (p.run s c).ending.ifOk fun _ d => q.events s d := by
  simp only [followedBy_eq_bind, events_bind, events_map]

/-- The second parser logs after the first, if that succeeds. -/
lemma events_pairWith : (p.pairWith q).events s c =
    p.events s c ++ (p.run s c).ending.ifOk fun _ d => q.events s d := by
  simp only [pairWith_eq_bind, events_bind, events_map]

/-- What a callback makes of a value logs nothing if the parsers for the values do not. -/
private lemma events_ofExcept_map (x : Except Fault α) {f : α → Parser β}
    (quiet : ∀ a, (f a).events s c = []) : (ofExcept (x.map f)).events s c = [] := by
  cases x with
  | ok a => exact quiet a
  | error fault => rfl

/-- A callback for the value logs nothing. -/
@[simp]
lemma events_transform (f : α → Except Fault β) :
    (p.transform f).events s c = p.events s c := by
  have quiet (a : α) (d : Cursor) : (ofExcept ((f a).map succeed)).events s d = [] :=
    events_ofExcept_map (f a) fun _ => rfl
  simp only [transform_eq_bind, events_bind, quiet, Ending.ifOk_nil, List.append_nil]

/-- A test of the value logs nothing. -/
@[simp]
lemma events_satisfying (test : α → Except Fault Bool) :
    (p.satisfying test).events s c = p.events s c := by
  have quiet (a : α) (d : Cursor) : (ofExcept ((test a).map fun passed =>
      if passed then succeed a else fail rejected)).events s d = [] :=
    events_ofExcept_map (test a) fun passed => by cases passed <;> rfl
  simp only [satisfying_eq_bind, events_bind, quiet, Ending.ifOk_nil, List.append_nil]

/-- The parsers of a list log one after the other. -/
lemma events_sequence (ps : List (Parser α)) :
    (sequence ps).events s c = inOrder s (ps.map fun p => (p, p.events s)) c := by
  have rounds (done : Array α) : (sequenceFrom s ps done c).log.toList =
      inOrder s (ps.map fun p => (p, p.events s)) c := by
    induction ps generalizing done c with
    | nil => rfl
    | cons p ps ih =>
      refine Run.log_bind_eq fun reply => ?_
      cases reply with
      | ok a d => exact ih _
      | error d e => rfl
  exact rounds #[]

/-- The rounds log one after the other. -/
lemma events_count (n : Nat) :
    (count n p).events s c = inOrder s (List.replicate n (p, p.events s)) c := by
  rw [count_eq_sequence, events_sequence, List.map_replicate]

/-! ### Alternatives and looking ahead -/

/-- The alternative logs after the first parser, if that fails without consuming. -/
lemma events_orElse {p q : Parser α} : (p.orElse q).events s c =
    p.events s c ++ (p.run s c).ending.ifMissed c (q.events s c) := by
  refine Run.log_bind_eq fun reply => ?_
  cases reply with
  | ok a d => rfl
  | error d e =>
    by_cases same : d.offset = c.offset
    · simp [Reply.isOk, Reply.consumedSince, Reply.cursor, same, events]
    · simp only [Reply.isOk, Reply.consumedSince, Reply.cursor, same, Bool.false_or, bne_iff_ne,
        ne_eq, not_false_eq_true, if_true, if_false]
      rfl

/-- A changed reply logs nothing. -/
@[simp]
lemma events_mapReply (f : Cursor → Reply α → Reply β) :
    (p.mapReply f).events s c = p.events s c :=
  Run.log_bind_quiet fun _ => rfl

/-- An attempt logs what its parser does. -/
@[simp]
lemma events_attempt : p.attempt.events s c = p.events s c := by
  rw [attempt_eq_mapReply, events_mapReply]

/-- Looking ahead logs what the parser does. -/
@[simp]
lemma events_lookAhead : p.lookAhead.events s c = p.events s c := by
  rw [lookAhead_eq_mapReply, events_mapReply]

/-- To ask that a parser does not follow logs what the parser does. -/
@[simp]
lemma events_notFollowedBy (showing : α → String) :
    (notFollowedBy showing p).events s c = p.events s c := by
  rw [notFollowedBy_eq_mapReply, events_mapReply]

/-- What a failure says is not logged. -/
@[simp]
lemma events_withContext (text : String) : (p.withContext text).events s c = p.events s c := by
  rw [withContext_eq_mapReply, events_mapReply]

/-- Nor is a message in the stead of all others. -/
@[simp]
lemma events_withMessage (text : String) : (p.withMessage text).events s c = p.events s c := by
  rw [withMessage_eq_mapReply, events_mapReply]

/-! ### Tracing -/

/-- The entry line of a trace: the symbols that come next, whether there are others after them, and
the place. -/
def entry (label : String) (c : Cursor) : Event :=
  .entered label (c.peek previewSize) (previewSize < c.remaining) c.place

/-- A trace looks at one symbol more than it shows, to tell whether there are others. -/
private lemma entered_window (label : String) (c : Cursor) :
    Event.entered label ((c.peek (previewSize + 1)).extract 0 previewSize)
      (previewSize < (c.peek (previewSize + 1)).size) c.place = entry label c := by
  have window : c.peek (previewSize + 1) =
      c.input.extract c.offset (c.offset + (previewSize + 1)) := c.peek_natCast (previewSize + 1)
  have shown : (c.input.extract c.offset (c.offset + (previewSize + 1))).extract 0 previewSize =
      c.input.extract c.offset (c.offset + previewSize) := by
    cases c.input <;> simp [Input.extract]
  have others : (previewSize < min (c.offset + (previewSize + 1)) c.input.size - c.offset) =
      (previewSize < c.remaining) := by
    simp only [Cursor.remaining, eq_iff_iff]
    omega
  simp only [entry, window, shown, c.peek_natCast, Input.size_extract, others]

/-- A trace logs its entry line if the run is traced and it can look at the input. -/
lemma events_trace (label : String) : (trace label).events s c =
    if s.tracing = true ∧ c.input.isReadable = true then [entry label c] else [] := by
  rw [← entered_window]
  cases traced : s.tracing <;> cases readable : c.input.isReadable <;>
    simp only [events, trace, look, traced, readable] <;> rfl

/-- A failed trace logs so if the run is traced. -/
lemma events_traceFailure (label : String) : (traceFailure label : Parser α).events s c =
    if s.tracing = true then [.backtracked label c.place] else [] := by
  cases traced : s.tracing <;> simp only [events, traceFailure, traced] <;> rfl

/-- Where a trace can look at the input, a traced parser ends as its body does, with every failure
taken back and told by a message. -/
lemma ending_traced (label : String) (p : Parser α) (s : Settings) (c : Cursor) :
    ((traced label p).run s c).ending =
      if s.tracing = true ∧ c.input.isReadable = false then .raised .mismatchedKind
      else
        ((p.attempt.withMessage (label ++ " backtracked and parser failed")).run s c).ending := by
  have reached := ending_trace label s c
  rw [traced, andThen_eq_bind]
  split at reached
  · next unreadable =>
    rw [if_pos unreadable]
    exact Run.ending_bind_congr (y := Run.raise .mismatchedKind) reached _
  · next readable =>
    rw [if_neg readable]
    refine (Run.ending_bind_of_done reached _).trans ?_
    simp only [Parser.orElse, withMessage, attempt]
    obtain ⟨log, (⟨a, d⟩ | ⟨d, e⟩) | fault | _⟩ := p.run s c
    · rfl
    · have same : (Reply.error c e : Reply α).consumedSince c = false := by
        simp [Reply.consumedSince, Reply.cursor]
      refine (Run.ending_bind_of_done (a := Reply.error c e) rfl _).trans ?_
      simp only [same, Reply.isOk, Bool.or_self, Bool.false_eq_true, if_false]
      exact ending_traceFailure label s c
    · rfl
    · rfl

/-- With its cursor taken back, every failure is one that did not move. -/
private lemma ifMissed_attempt (p : Parser α) (others : List ε) :
    (p.attempt.run s c).ending.ifMissed c others = (p.run s c).ending.ifFailed others := by
  simp only [attempt]
  obtain ⟨log, (⟨a, d⟩ | ⟨d, e⟩) | fault | _⟩ := p.run s c
  · rfl
  · exact if_pos rfl
  · rfl
  · rfl

/-- Where its cursor is and what it says, a failure is one. -/
private lemma ifFailed_attempt_withMessage (p : Parser α) (text : String) (others : List ε) :
    ((p.attempt.withMessage text).run s c).ending.ifFailed others =
      (p.run s c).ending.ifFailed others := by
  simp only [withMessage, attempt]
  obtain ⟨log, (⟨a, d⟩ | ⟨d, e⟩) | fault | _⟩ := p.run s c <;> rfl

/-- A traced parser logs as a trace does, then what its body logs if that is run, and then that it
failed, if it did. -/
lemma events_traced (label : String) (p : Parser α) : (traced label p).events s c =
    (trace label).events s c ++ ((((trace label).run s c).ending.ifOk fun _ _ => p.events s c) ++
      ((traced label p).run s c).ending.ifFailed
        ((traceFailure label : Parser α).events s c)) := by
  rw [ending_traced, traced, events_andThen, ending_trace]
  by_cases unreadable : s.tracing = true ∧ c.input.isReadable = false
  · simp only [unreadable, and_self, if_true]
    rfl
  · simp only [unreadable, if_false, ifFailed_attempt_withMessage]
    simp only [Ending.ifOk, Ending.after, events_orElse, events_attempt, ifMissed_attempt]

/-! ### Rounds -/

/-- A callback after which nothing is logged. -/
private lemma log_ofExcept_bind (x : Except Fault α) {f : α → Run β}
    (quiet : ∀ a, (f a).log = #[]) : (Run.ofExcept x >>= f).log = #[] := by
  cases x with
  | ok a => rw [Run.ofExcept_ok, Run.pure_bind', quiet]
  | error fault => rfl

/-- A round of a repetition logs what the item does. -/
lemma log_manyByRound (push : β → α → Except Fault β) (p : Parser α) (start : Cursor)
    (s : Settings) (state : Cursor × β) :
    (manyByRound push p start s state).log.toList = p.events s state.1 := by
  refine Run.log_bind_quiet fun reply => ?_
  cases reply with
  | ok a next =>
    dsimp only
    split
    · rfl
    · exact log_ofExcept_bind _ fun _ => rfl
  | error next e =>
    dsimp only
    split <;> rfl

/-- Of a separator and an item, the item logs after the separator, if that succeeds. -/
lemma log_sepEndByRound (p : Parser α) (sep : Parser β) (start : Cursor) (s : Settings)
    (state : Cursor × Array α) :
    (sepEndByRound p sep start s state).log.toList =
      sep.events s state.1 ++ (sep.run s state.1).ending.ifOk fun _ d => p.events s d := by
  obtain ⟨c, items⟩ := state
  refine Run.log_bind_eq fun reply => ?_
  cases reply with
  | ok b separated =>
    refine Run.log_bind_quiet fun reply => ?_
    cases reply <;> dsimp only <;> split <;> rfl
  | error next e =>
    dsimp only
    split <;> rfl

/-- Of an end and an item, the item logs after the end, if that fails without consuming. -/
lemma log_tillRound (p : Parser α) (stop : Parser β) (start : Cursor) (s : Settings)
    (state : Cursor × Array α) :
    (tillRound p stop start s state).log.toList =
      stop.events s state.1 ++
        (stop.run s state.1).ending.ifMissed state.1 (p.events s state.1) := by
  obtain ⟨c, items⟩ := state
  refine Run.log_bind_eq fun reply => ?_
  cases reply with
  | ok b next => rfl
  | error next e =>
    by_cases same : next.offset = c.offset
    · simp only [same, ne_eq, not_true_eq_false, if_true, if_false]
      refine Run.log_bind_quiet fun reply => ?_
      cases reply with
      | ok a next =>
        dsimp only
        split <;> rfl
      | error next e => rfl
    · simp only [same, ne_eq, not_false_eq_true, if_true, if_false]
      rfl

/-- Of an operator and an operand, the operand logs after the operator, if that succeeds. -/
lemma log_chainlRound (apply : ο → α → α → Except Fault α) (p : Parser α) (op : Parser ο)
    (s : Settings) (state : Cursor × α) :
    (chainlRound apply p op s state).log.toList =
      op.events s state.1 ++ (op.run s state.1).ending.ifOk fun _ d => p.events s d := by
  obtain ⟨c, folded⟩ := state
  refine Run.log_bind_eq fun reply => ?_
  cases reply with
  | ok f operator =>
    refine Run.log_bind_quiet fun reply => ?_
    cases reply with
    | ok a next => exact log_ofExcept_bind _ fun _ => rfl
    | error next e => rfl
  | error next e =>
    dsimp only
    split <;> rfl

/-- Of an operator and an operand, the operand logs after the operator, if that succeeds. -/
lemma log_chainrRound (p : Parser α) (op : Parser ο) (s : Settings)
    (state : Cursor × Array (ο × α)) :
    (chainrRound p op s state).log.toList =
      op.events s state.1 ++ (op.run s state.1).ending.ifOk fun _ d => p.events s d := by
  obtain ⟨c, scanned⟩ := state
  refine Run.log_bind_eq fun reply => ?_
  cases reply with
  | ok f operator => exact Run.log_bind_quiet fun reply => by cases reply <;> rfl
  | error next e =>
    dsimp only
    split <;> rfl

/-! ### Repetition -/

/-- What a repetition logs that began at `start` and goes on from a cursor. -/
lemma log_manyByFrom (push : β → α → Except Fault β) (p : Parser α) (start : Cursor) (s : Settings)
    (c : Cursor) (collected : β) :
    (manyByFrom push p start s c collected).log.toList =
      Run.along (manyByRound push p start s) (fun state => p.events s state.1) s.fuel
        (c, collected) := by
  simp only [manyByFrom, Run.log_iterate, log_manyByRound]

/-- What is gathered in a repetition does not depend on what it collects, if no value is
refused. -/
lemma along_manyByRound_congr (push : β → α → β) (push' : γ → α → γ) (p : Parser α)
    (start : Cursor) (s : Settings) (f : Cursor → List ε) (fuel : Nat) (c : Cursor) (b : β)
    (b' : γ) :
    Run.along (manyByRound (fun b a => .ok (push b a)) p start s) (fun state => f state.1) fuel
        (c, b) =
      Run.along (manyByRound (fun b a => .ok (push' b a)) p start s) (fun state => f state.1) fuel
        (c, b') := by
  refine Run.along_congr (I := fun x y => x.1 = y.1) (R := fun _ _ => True) ?_ ?_ fuel rfl
  · rintro ⟨c, b⟩ ⟨_, b'⟩ rfl
    refine (Run.alike_refl (p.run s c)).bind ?_
    rintro (⟨a, next⟩ | ⟨next, e⟩) _ rfl
    · refine Run.Alike.ite Iff.rfl (fun _ => ?_) fun _ => ?_
      · exact Run.alike_pure (.stop trivial)
      · exact Run.alike_pure (.again rfl)
    · refine Run.Alike.ite Iff.rfl (fun _ => ?_) fun _ => ?_
      · exact Run.alike_pure (.stop trivial)
      · exact Run.alike_pure (.stop trivial)
  · rintro ⟨c, b⟩ ⟨_, b'⟩ rfl
    rfl

/-- What a repetition logs: nothing if its collection cannot begin. -/
lemma events_manyBy (empty : Except Fault β) (push : β → α → Except Fault β) :
    (manyBy empty push p).events s c = (Run.ofExcept empty).ending.after fun b =>
      Run.along (manyByRound push p c s) (fun state => p.events s state.1) s.fuel (c, b) := by
  simp only [events, manyBy, Run.log_bind, Run.log_ofExcept, List.nil_append, log_manyByFrom]

/-- What a repetition logs whose first value must not be refused. -/
lemma events_many1By (empty : Except Fault β) (push : β → α → Except Fault β) :
    (many1By empty push p).events s c = p.events s c ++
      (p.run s c).ending.ifOk fun a d => (Run.ofExcept (empty >>= (push · a))).ending.after fun b =>
        Run.along (manyByRound push p c s) (fun state => p.events s state.1) s.fuel (d, b) := by
  refine Run.log_bind_eq fun reply => ?_
  cases reply with
  | ok a next => simp only [Run.log_bind, Run.log_ofExcept, List.nil_append, log_manyByFrom]
  | error next e => rfl

/-- What a repetition logs whose collection takes every value. -/
lemma events_manyInto (empty : β) (push : β → α → β) :
    (manyInto empty push p).events s c =
      Run.along (manyByRound (fun _ _ => .ok ()) p c s) (fun state => p.events s state.1) s.fuel
        (c, ()) :=
  (log_manyByFrom _ p c s c empty).trans
    (along_manyByRound_congr push (fun _ _ => ()) p c s (p.events s) s.fuel c empty ())

/-- A first item logs before the rounds. -/
lemma events_many1Into (empty : β) (push : β → α → β) :
    (many1Into empty push p).events s c = p.events s c ++ (p.run s c).ending.ifOk fun _ d =>
      Run.along (manyByRound (fun _ _ => .ok ()) p c s) (fun state => p.events s state.1) s.fuel
        (d, ()) := by
  refine Run.log_bind_eq fun reply => ?_
  cases reply with
  | ok a d =>
    exact (log_manyByFrom _ p c s d _).trans
      (along_manyByRound_congr push (fun _ _ => ()) p c s (p.events s) s.fuel d _ ())
  | error d e => rfl

/-- What a repetition into a list logs. -/
lemma events_many : (many p).events s c =
    Run.along (manyByRound (fun _ _ => .ok ()) p c s) (fun state => p.events s state.1) s.fuel
      (c, ()) :=
  (events_map _).trans (events_manyInto _ _)

/-! ### Separators, ends and chains -/

/-- A first item logs before the rounds. -/
lemma events_sepBy1 : (sepBy1 p q).events s c = p.events s c ++
    (p.run s c).ending.ifOk fun _ d =>
      Run.along (manyByRound (fun _ _ => .ok ()) (q.andThen p) d s)
        (fun state => q.events s state.1 ++
          (q.run s state.1).ending.ifOk fun _ d => p.events s d) s.fuel (d, ()) := by
  simp only [sepBy1_eq_bind, events_bind, events_map, events_many, events_andThen]

/-- A first item logs before the rounds. -/
lemma events_sepEndBy1 : (sepEndBy1 p q).events s c = p.events s c ++
    (p.run s c).ending.ifOk fun a d =>
      Run.along (sepEndByRound p q c s)
        (fun state => q.events s state.1 ++
          (q.run s state.1).ending.ifOk fun _ d => p.events s d) s.fuel (d, #[a]) := by
  refine Run.log_bind_eq fun reply => ?_
  cases reply with
  | ok a d => simp only [Run.log_iterate, log_sepEndByRound]
  | error d e => rfl

/-- The rounds up to an end log one after the other. -/
lemma events_manyTill : (manyTill p q).events s c =
    Run.along (tillRound p q c s)
      (fun state => q.events s state.1 ++
        (q.run s state.1).ending.ifMissed state.1 (p.events s state.1)) s.fuel (c, #[]) := by
  simp only [events, manyTill, Run.log_iterate, log_tillRound]

/-- A first item logs before the rounds up to an end. -/
lemma events_many1Till : (many1Till p q).events s c = p.events s c ++
    (p.run s c).ending.ifOk fun a d =>
      Run.along (tillRound p q c s)
        (fun state => q.events s state.1 ++
          (q.run s state.1).ending.ifMissed state.1 (p.events s state.1)) s.fuel (d, #[a]) := by
  refine Run.log_bind_eq fun reply => ?_
  cases reply with
  | ok a d => simp only [Run.log_iterate, log_tillRound]
  | error d e => rfl

/-- A first operand logs before the rounds. -/
lemma events_chainl1 (apply : ο → α → α → Except Fault α) (op : Parser ο) :
    (chainl1 apply p op).events s c = p.events s c ++ (p.run s c).ending.ifOk fun a d =>
      Run.along (chainlRound apply p op s)
        (fun state => op.events s state.1 ++
          (op.run s state.1).ending.ifOk fun _ d => p.events s d) s.fuel (d, a) := by
  simp only [chainl1_eq_bind, events_bind]
  simp only [events, chainlFrom, Run.log_iterate, log_chainlRound]

/-- A first operand logs before the rounds, and folding logs nothing. -/
lemma events_chainr1 (apply : ο → α → α → Except Fault α) (op : Parser ο) :
    (chainr1 apply p op).events s c = p.events s c ++ (p.run s c).ending.ifOk fun _ d =>
      Run.along (chainrRound p op s)
        (fun state => op.events s state.1 ++
          (op.run s state.1).ending.ifOk fun _ d => p.events s d) s.fuel (d, #[]) := by
  simp only [chainr1_eq_bind, events_bind, events_transform]
  simp only [events, chainrRest, Run.log_iterate, log_chainrRound]

end Parser

end ParserCombinators
