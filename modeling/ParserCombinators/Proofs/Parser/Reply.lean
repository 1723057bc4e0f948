import Mathlib.Logic.Relation
import ParserCombinators.Parser.Trace
import ParserCombinators.Proofs.Parser.Change
import ParserCombinators.Proofs.Parser.Round
import ParserCombinators.Proofs.Parser.Sequencing

/-!
# The reply of one run

What a run of a parser from one cursor replies, as relations between cursors. A parser that is put
together from others gives a value only if they did, and what they gave can be told from it.

## Main definitions

* `Parser.Gets`, `Parser.Fails` — the reply of a run is a success, or a failure.
* `Parser.Steps`, `Parser.Progresses`, `Parser.Misses` — a run that succeeds, that succeeds and
  consumes, or that fails without consuming.
* `Parser.Through` — runs one after the other.

## Main results

* `Parser.gets_bind_iff` — one parser after another.
* `Parser.gets_attempt_iff`, `Parser.gets_withContext_iff`, `Parser.gets_withMessage_iff` — parsers
  that change nothing but failures.
* `Parser.fails_attempt_iff`, `Parser.gets_notFollowedBy_iff` — where going back leaves a parser.
* `Parser.gets_many`, `Parser.gets_many1` — all values of a repetition come from its rounds.
-/

set_option autoImplicit false

namespace ParserCombinators

open Relation (ReflTransGen)

namespace Parser

variable {α β : Type}

/-- From `c` the parser succeeds at `d` with the value `a`. -/
def Gets (p : Parser α) (s : Settings) (c : Cursor) (a : α) (d : Cursor) : Prop :=
  (p.run s c).ending = .done (.ok a d)

/-- From `c` the parser fails at `d` with the error `e`. -/
def Fails (p : Parser α) (s : Settings) (c d : Cursor) (e : ParseError) : Prop :=
  (p.run s c).ending = .done (.error d e)

/-- From `c` the parser succeeds at `d`. -/
def Steps (p : Parser α) (s : Settings) (c d : Cursor) : Prop :=
  ∃ a, p.Gets s c a d

/-- From `c` the parser succeeds at `d` and has consumed. -/
def Progresses (p : Parser α) (s : Settings) (c d : Cursor) : Prop :=
  p.Steps s c d ∧ d.offset ≠ c.offset

/-- From `c` the parser fails without consuming. -/
def Misses (p : Parser α) (s : Settings) (c : Cursor) : Prop :=
  ∃ d e, p.Fails s c d e ∧ d.offset = c.offset

/-- The parsers of a list succeed one after the other, the first from `c` and the last at `d`. -/
inductive Through (s : Settings) : List (Parser α) → Cursor → Cursor → Prop
  /-- There is no parser. -/
  | nil (c : Cursor) : Through s [] c c
  /-- The first parser succeeds, and then the others do. -/
  | cons {p : Parser α} {ps : List (Parser α)} {c m d : Cursor} (first : p.Steps s c m)
    (others : Through s ps m d) : Through s (p :: ps) c d

variable {p : Parser α} {q : Parser β} {s : Settings} {c d : Cursor}

/-- A run has one reply. -/
lemma Gets.unique {a b : α} {m : Cursor} (h : p.Gets s c a d) (h' : p.Gets s c b m) :
    a = b ∧ d = m := by
  cases h.symm.trans h'
  exact ⟨rfl, rfl⟩

/-! ## Single symbols -/

/-- A value that was not read is the one that was given. -/
lemma gets_succeed_iff (a b : α) : (succeed a).Gets s c b d ↔ b = a ∧ d = c := by
  constructor
  · intro h
    cases h
    exact ⟨rfl, rfl⟩
  · rintro ⟨rfl, rfl⟩
    rfl

/-- The value of a token is the next symbol, and passes the test; the token is consumed. -/
lemma gets_token {test : Value → Except Fault Bool} {expected v : Value}
    (h : (token test expected).Gets s c v d) :
    c.head? = some v ∧ test v = .ok true ∧ d = c.advance 1 := by
  simp only [Gets, token, Run.ending_bind_eq_done_iff] at h
  obtain ⟨_, _, h⟩ := h
  cases there : c.head? with
  | none =>
    rw [there] at h
    cases h
  | some symbol =>
    rw [there] at h
    obtain ⟨passed, tested, h⟩ := (Run.ending_bind_eq_done_iff _ _ _).1 h
    cases passed with
    | true =>
      cases h
      cases result : test v with
      | ok passed =>
        rw [result] at tested
        cases tested
        exact ⟨rfl, rfl, rfl⟩
      | error fault =>
        rw [result] at tested
        cases tested
    | false => cases h

/-! ## One after another -/

/-- One parser after another gives what the second gives after the first. -/
lemma gets_bind_iff (p : Parser α) (f : α → Parser β) (b : β) :
    (p.bind f).Gets s c b d ↔ ∃ a m, p.Gets s c a m ∧ (f a).Gets s m b d := by
  simp only [Gets, Parser.bind, Run.ending_bind_eq_done_iff]
  constructor
  · rintro ⟨⟨a, m⟩ | ⟨m, e⟩, first, second⟩
    · exact ⟨a, m, first, second⟩
    · cases second
  · rintro ⟨a, m, first, second⟩
    exact ⟨.ok a m, first, second⟩

/-- A changed value is the change of a value. -/
lemma gets_map_iff (p : Parser α) (f : α → β) (b : β) :
    (p.map f).Gets s c b d ↔ ∃ a, p.Gets s c a d ∧ b = f a := by
  rw [map_eq_bind, gets_bind_iff]
  simp only [gets_succeed_iff]
  constructor
  · rintro ⟨a, m, got, rfl, rfl⟩
    exact ⟨a, got, rfl⟩
  · rintro ⟨a, got, rfl⟩
    exact ⟨a, d, got, rfl, rfl⟩

/-- A value that a callback changed is what the callback returned for a value. -/
lemma gets_transform_iff (p : Parser α) (f : α → Except Fault β) (b : β) :
    (p.transform f).Gets s c b d ↔ ∃ a, p.Gets s c a d ∧ f a = .ok b := by
  rw [transform_eq_bind, gets_bind_iff]
  constructor
  · rintro ⟨a, m, got, returned⟩
    cases changed : f a with
    | ok b' =>
      rw [changed] at returned
      obtain ⟨rfl, rfl⟩ := (gets_succeed_iff b' b).1 returned
      exact ⟨a, got, changed⟩
    | error fault =>
      rw [changed] at returned
      cases returned
  · rintro ⟨a, got, changed⟩
    refine ⟨a, d, got, ?_⟩
    rw [changed]
    exact (gets_succeed_iff b b).2 ⟨rfl, rfl⟩

/-- One parser after another, without the value of the first. -/
lemma gets_andThen_iff (p : Parser α) (q : Parser β) (b : β) :
    (p.andThen q).Gets s c b d ↔ ∃ m, p.Steps s c m ∧ q.Gets s m b d := by
  rw [andThen_eq_bind, gets_bind_iff]
  constructor
  · rintro ⟨a, m, first, second⟩
    exact ⟨m, ⟨a, first⟩, second⟩
  · rintro ⟨m, ⟨a, first⟩, second⟩
    exact ⟨a, m, first, second⟩

/-- One parser after another, without the value of the second. -/
lemma gets_followedBy_iff (p : Parser α) (q : Parser β) (a : α) :
    (p.followedBy q).Gets s c a d ↔ ∃ m, p.Gets s c a m ∧ q.Steps s m d := by
  simp only [followedBy_eq_bind, gets_bind_iff, gets_map_iff]
  constructor
  · rintro ⟨a, m, first, b, second, rfl⟩
    exact ⟨m, first, b, second⟩
  · rintro ⟨m, first, b, second⟩
    exact ⟨a, m, first, b, second, rfl⟩

/-- One parser after another steps to where the second stops. -/
lemma Steps.andThen {m : Cursor} (hp : p.Steps s c m) (hq : q.Steps s m d) :
    (p.andThen q).Steps s c d := by
  obtain ⟨b, hq⟩ := hq
  exact ⟨b, (gets_andThen_iff p q b).2 ⟨m, hp, hq⟩⟩

/-- The value of an alternative is that of one of the two. -/
lemma Gets.of_orElse {p q : Parser α} {a : α} (h : (p.orElse q).Gets s c a d) :
    p.Gets s c a d ∨ q.Gets s c a d := by
  simp only [Gets, Parser.orElse, Run.ending_bind_eq_done_iff] at h
  obtain ⟨reply, first, h⟩ := h
  split at h
  · cases h
    exact .inl first
  · exact .inr h

/-- An attempt succeeds as its parser does. -/
lemma gets_attempt_iff {a : α} : p.attempt.Gets s c a d ↔ p.Gets s c a d := by
  simp only [Gets, attempt_eq_mapReply, ending_mapReply_eq_done_iff, Reply.retract_eq_ok_iff,
    exists_eq_right]

/-- An attempt fails where it began, with the error of its parser. -/
lemma fails_attempt_iff {e : ParseError} :
    p.attempt.Fails s c d e ↔ d = c ∧ ∃ m, p.Fails s c m e := by
  simp only [Fails, attempt_eq_mapReply, ending_mapReply_eq_done_iff, Reply.retract_eq_error_iff]
  constructor
  · rintro ⟨_, ending, rfl, m, rfl⟩
    exact ⟨rfl, m, ending⟩
  · rintro ⟨rfl, m, ending⟩
    exact ⟨_, ending, rfl, m, rfl⟩

/-- A negative lookahead succeeds where its parser fails. -/
lemma gets_notFollowedBy_iff {showing : α → String} :
    (notFollowedBy showing p).Gets s c () d ↔ d = c ∧ ∃ m e, p.Fails s c m e := by
  simp only [Gets, Fails, notFollowedBy_eq_mapReply, ending_mapReply_eq_done_iff,
    Reply.negate_eq_ok_iff]
  constructor
  · rintro ⟨_, ending, rfl, m, e, rfl⟩
    exact ⟨rfl, m, e, ending⟩
  · rintro ⟨rfl, m, e, ending⟩
    exact ⟨_, ending, rfl, m, e, rfl⟩

/-- What a failure says makes no difference to a success. -/
lemma gets_mapError_iff {f : ParseError → ParseError} {a : α} :
    (p.mapReply fun _ => Reply.mapError f).Gets s c a d ↔ p.Gets s c a d := by
  simp only [Gets, ending_mapReply_eq_done_iff, Reply.mapError_eq_ok_iff, exists_eq_right]

/-- A message more makes no difference to a success. -/
lemma gets_withContext_iff {a : α} (text : String) :
    (p.withContext text).Gets s c a d ↔ p.Gets s c a d := by
  rw [withContext_eq_mapReply, gets_mapError_iff]

/-- Nor does a message in the stead of all others. -/
lemma gets_withMessage_iff {a : α} (text : String) :
    (p.withMessage text).Gets s c a d ↔ p.Gets s c a d := by
  rw [withMessage_eq_mapReply, gets_mapError_iff]

/-- After a value, the ending of one parser after another is that of the second. -/
lemma Gets.ending_bind {a : α} {m : Cursor} (h : p.Gets s c a m) (f : α → Parser β) :
    ((p.bind f).run s c).ending = ((f a).run s m).ending :=
  Run.ending_bind_of_done h _

/-! ## Failures -/

/-- What follows a failure is not run. -/
lemma Fails.bind {e : ParseError} (h : p.Fails s c d e) (f : α → Parser β) :
    (p.bind f).Fails s c d e :=
  Run.ending_bind_of_done h _

/-- A failure has no value to change. -/
lemma Fails.map {e : ParseError} (h : p.Fails s c d e) (f : α → β) : (p.map f).Fails s c d e := by
  rw [map_eq_bind]
  exact h.bind _

/-- One parser after another fails as the first does, or as the second does after it. -/
lemma fails_bind_iff (p : Parser α) (f : α → Parser β) {e : ParseError} :
    (p.bind f).Fails s c d e ↔
      p.Fails s c d e ∨ ∃ a m, p.Gets s c a m ∧ (f a).Fails s m d e := by
  constructor
  · intro failed
    obtain ⟨⟨a, m⟩ | ⟨m, e'⟩, first, second⟩ := (Run.ending_bind_eq_done_iff _ _ _).1 failed
    · exact .inr ⟨a, m, first, second⟩
    · cases second
      exact .inl first
  · rintro (failed | ⟨a, m, got, failed⟩)
    · exact failed.bind f
    · exact (got.ending_bind f).trans failed

/-- A changed value does not change the failures. -/
lemma fails_map_iff (p : Parser α) (f : α → β) {e : ParseError} :
    (p.map f).Fails s c d e ↔ p.Fails s c d e := by
  refine ⟨fun failed => ?_, fun failed => failed.map f⟩
  rw [map_eq_bind] at failed
  obtain failed | ⟨a, m, -, failed⟩ := (fails_bind_iff _ _).1 failed
  · exact failed
  · cases failed

/-- One parser after another fails as the first does, or as the second does after it. -/
lemma fails_andThen_iff (p : Parser α) (q : Parser β) {e : ParseError} :
    (p.andThen q).Fails s c d e ↔ p.Fails s c d e ∨ ∃ m, p.Steps s c m ∧ q.Fails s m d e := by
  rw [andThen_eq_bind, fails_bind_iff]
  constructor
  · rintro (failed | ⟨a, m, got, failed⟩)
    · exact .inl failed
    · exact .inr ⟨m, ⟨a, got⟩, failed⟩
  · rintro (failed | ⟨m, ⟨a, got⟩, failed⟩)
    · exact .inl failed
    · exact .inr ⟨a, m, got, failed⟩

/-- One parser before another fails as it does itself, or as the other does after it. -/
lemma fails_followedBy_iff (p : Parser α) (q : Parser β) {e : ParseError} :
    (p.followedBy q).Fails s c d e ↔ p.Fails s c d e ∨ ∃ m, p.Steps s c m ∧ q.Fails s m d e := by
  rw [← fails_andThen_iff, followedBy_eq_bind, andThen_eq_bind, fails_bind_iff, fails_bind_iff]
  simp only [fails_map_iff]

/-- A failure that consumed is not followed by the alternative. -/
lemma Fails.orElse {p : Parser α} {e : ParseError} (h : p.Fails s c d e)
    (consumed : d.offset ≠ c.offset) (q : Parser α) : (p.orElse q).Fails s c d e := by
  have kept : (Reply.error d e : Reply α).consumedSince c = true := by
    simpa [Reply.consumedSince, Reply.cursor] using consumed
  refine (Run.ending_bind_of_done h _).trans ?_
  simp only [kept, Bool.or_true, if_true]
  rfl

/-- A parser that fails without consuming is not followed by another one. -/
lemma Misses.andThen (h : p.Misses s c) (q : Parser β) : (p.andThen q).Misses s c := by
  obtain ⟨d, e, failed, same⟩ := h
  exact ⟨d, e, (fails_andThen_iff p q).2 (.inl failed), same⟩

/-- After a success the alternative is not run. -/
lemma Gets.orElse {p : Parser α} {a : α} (h : p.Gets s c a d) (q : Parser α) :
    (p.orElse q).Gets s c a d := by
  refine (Run.ending_bind_of_done h _).trans ?_
  simp only [Reply.isOk, Bool.true_or, if_true]
  rfl

/-- After a failure that did not consume, the ending is that of the alternative. -/
lemma Fails.ending_orElse {p : Parser α} {e : ParseError} (h : p.Fails s c d e)
    (same : d.offset = c.offset) (q : Parser α) :
    ((p.orElse q).run s c).ending = (q.run s c).ending := by
  have dropped : (Reply.error d e : Reply α).consumedSince c = false := by
    simp [Reply.consumedSince, Reply.cursor, same]
  refine (Run.ending_bind_of_done h _).trans ?_
  simp only [dropped, Reply.isOk, Bool.or_self, Bool.false_eq_true, if_false]

/-! ## Repetition -/

/-- A failure of the first item is that of `many1`. -/
lemma Fails.many1 {e : ParseError} (h : p.Fails s c d e) : (many1 p).Fails s c d e :=
  Fails.map (p := many1Into #[] Array.push p) (Run.ending_bind_of_done h _) _

/-- A repetition adds values to those it has collected, and each of them is that of a round. -/
lemma meets_manyFrom_push {start : Cursor} (collected : Array α) :
    (manyFrom Array.push p start s c collected).Meets (fun
      | .ok items _ => ∃ more, items.toList = collected.toList ++ more ∧
        ∀ a ∈ more, ∃ m m', ReflTransGen (p.Progresses s) c m ∧ p.Gets s m a m'
      | .error _ _ => True) (fun _ => True) True := by
  refine Run.meets_iterate (I := fun _ state => ReflTransGen (p.Progresses s) c state.1 ∧
    ∃ more, state.2.toList = collected.toList ++ more ∧
      ∀ a ∈ more, ∃ m m', ReflTransGen (p.Progresses s) c m ∧ p.Gets s m a m')
    (fun _ _ => trivial) (fun _ state inv => ?_) ⟨.refl, [], by simp, by simp⟩
  obtain ⟨m, items⟩ := state
  obtain ⟨before, more, all, given⟩ := inv
  rw [meets_manyRound]
  refine (Run.meets_ending (p.run s m)).mono ?_ fun _ _ => trivial
  rintro (⟨a, d⟩ | ⟨d, e⟩) ending
  · by_cases same : d.offset = m.offset
    · simp only [same, if_true]
    · simp only [same, if_false]
      refine ⟨before.tail ⟨⟨a, ending⟩, same⟩, more ++ [a], ?_, fun b mem => ?_⟩
      · rw [Array.toList_push, all, List.append_assoc]
      · rcases List.mem_append.1 mem with mem | mem
        · exact given b mem
        · obtain rfl := List.mem_singleton.1 mem
          exact ⟨m, d, before, ending⟩
  · by_cases same : d.offset = m.offset
    · simp only [same, if_true]
      exact ⟨more, all, given⟩
    · simp only [same, if_false]

/-- All values of a repetition are values of its rounds. -/
lemma gets_many {as : List α} (h : (many p).Gets s c as d) :
    ∀ a ∈ as, ∃ m m', ReflTransGen (p.Progresses s) c m ∧ p.Gets s m a m' := by
  obtain ⟨items, got, rfl⟩ := (gets_map_iff _ _ _).1 h
  obtain ⟨more, all, given⟩ := (Run.meets_of_ending_eq got).1 (meets_manyFrom_push #[])
  rw [all]
  exact given

/-- The values of a repetition that takes place at least once: a first one, and those of the
rounds after it. -/
lemma gets_many1 {as : List α} (h : (many1 p).Gets s c as d) :
    ∃ a k more, as = a :: more ∧ p.Gets s c a k ∧
      ∀ b ∈ more, ∃ m m', ReflTransGen (p.Progresses s) k m ∧ p.Gets s m b m' := by
  obtain ⟨items, got, rfl⟩ := (gets_map_iff _ _ _).1 h
  obtain ⟨⟨a, k⟩ | ⟨k, e⟩, first, others⟩ := (Run.ending_bind_eq_done_iff _ _ _).1 got
  · obtain ⟨more, all, given⟩ := (Run.meets_of_ending_eq others).1 (meets_manyFrom_push _)
    exact ⟨a, k, more, by simpa using all, first, given⟩
  · cases others

end Parser

end ParserCombinators
