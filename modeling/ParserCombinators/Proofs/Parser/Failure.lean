import ParserCombinators.Grammar.Meaning
import ParserCombinators.Proofs.Parser.Change
import ParserCombinators.Proofs.Parser.Reply

/-!
# How parsers fail

A run that does not succeed fails with an error or ends with a fault. For each combinator one rule
says what its failures and faults are, given those of its parsers at the cursors where they are run.
Which cursors these are depends on what succeeded before: the rules say that a parser before got
there, or that a loop came there round by round.

## Main definitions

* `Parser.FailsAs` — all failures and faults of a parser from a cursor.
* `Parser.RoundsFailAs`, `Parser.TillFailsAs`, `Parser.ChainFailsAs` — those of a loop's rounds.
* `Collector.Refuses` — the faults of a collection.

## Main results

* `Parser.FailsAs.bind`, `Parser.FailsAs.orElse` — one parser after another, or in its stead.
* `Parser.FailsAs.mapReply` — a parser with its reply changed.
* `Parser.FailsAs.iterate` — loops: the rounds before a round each went on.
-/

set_option autoImplicit false

namespace ParserCombinators

open Relation (ReflTransGen)

/-- A reply is a success, or a failure whose cursor and error are in `Q`. -/
def Reply.OkOr {α : Type} (Q : Cursor → ParseError → Prop) : Reply α → Prop
  | .ok _ _ => True
  | .error d e => Q d e

namespace Parser

variable {α β γ ο σ : Type}

/-! ## All failures and faults -/

/-- Every failure of the parser from `c` is in `Q`, and every fault is in `F`. -/
def FailsAs (p : Parser α) (s : Settings) (c : Cursor) (Q : Cursor → ParseError → Prop)
    (F : Fault → Prop) : Prop :=
  (p.run s c).Meets (Reply.OkOr Q) F True

variable {p : Parser α} {q : Parser β} {s : Settings} {c : Cursor}
  {Q Q' : Cursor → ParseError → Prop} {F : Fault → Prop}

/-- Every failure is among those that are shown. -/
lemma FailsAs.fails (h : p.FailsAs s c Q F) {d : Cursor} {e : ParseError}
    (fails : p.Fails s c d e) : Q d e :=
  (Run.meets_of_ending_eq fails).1 h

/-- What is shown of the successes and failures of a parser is shown of all its replies. -/
lemma FailsAs.meets {P : Reply α → Prop} (h : p.FailsAs s c Q F)
    (ok : ∀ a d, p.Gets s c a d → P (.ok a d))
    (error : ∀ d e, p.Fails s c d e → Q d e → P (.error d e)) : (p.run s c).Meets P F True := by
  refine (Run.Meets.along h).mono ?_ fun _ h => h
  rintro (⟨a, d⟩ | ⟨d, e⟩) ⟨h, ending⟩
  · exact ok a d ending
  · exact error d e ending h

/-- Every fault is among those that are shown. -/
lemma FailsAs.raises (h : p.FailsAs s c Q F) {fault : Fault}
    (raised : (p.run s c).ending = .raised fault) : F fault := by
  simpa [FailsAs, Run.Meets, raised] using h

/-- Failures may be said to be more than they are. -/
lemma FailsAs.mono (h : p.FailsAs s c Q F) (weaker : ∀ d e, p.Fails s c d e → Q d e → Q' d e) :
    p.FailsAs s c Q' F :=
  h.meets (fun _ _ _ => trivial) weaker

/-! ## Parsers that read nothing -/

/-- Success is no failure. -/
lemma failsAs_succeed (a : α) : (succeed a).FailsAs s c Q F := trivial

/-- The only failure is the one that is given. -/
lemma failsAs_fail {e : ParseError} (h : Q c e) : (fail e : Parser α).FailsAs s c Q F := h

/-- The only fault is the one that is given. -/
lemma failsAs_raise {fault : Fault} (h : F fault) : (raise fault : Parser α).FailsAs s c Q F := h

/-- What follows a callback fails as it does for what the callback returned. -/
lemma failsAs_ofExcept_map {x : Except Fault α} {f : α → Parser β}
    (returned : ∀ a, x = .ok a → (f a).FailsAs s c Q F)
    (raised : ∀ fault, x = .error fault → F fault) : (ofExcept (x.map f)).FailsAs s c Q F := by
  cases x with
  | ok a => exact returned a rfl
  | error fault => exact raised fault rfl

/-! ## The input -/

/-- Looking at an input that is no sequence is a fault. -/
private lemma meets_look_of {c : Cursor} {P : Unit → Prop}
    (unreadable : c.input.isReadable = false → F .mismatchedKind) (h : P ()) :
    (look c).Meets P F True := by
  unfold look
  split
  · exact h
  · next unread => exact unreadable (by simpa using unread)

/-- There is a symbol where the end of the input is wanted. -/
lemma failsAs_endOfInput (unreadable : c.input.isReadable = false → F .mismatchedKind)
    (there : ∀ v, c.head? = some v → Q c (.ofAtom .endOfInput v)) :
    endOfInput.FailsAs s c Q F := by
  simp only [FailsAs, endOfInput, Run.meets_bind]
  refine meets_look_of unreadable ?_
  cases h : c.head? with
  | none => trivial
  | some found => exact there found h

/-- There is no symbol, or one that does not pass the test. -/
lemma failsAs_token {test : Value → Except Fault Bool} {expected : Value}
    (unreadable : c.input.isReadable = false → F .mismatchedKind)
    (ended : c.head? = none → Q c (.ofAtom expected .endOfInput))
    (rejects : ∀ v, c.head? = some v → test v = .ok false → Q c (.ofAtom expected v))
    (raises : ∀ v fault, c.head? = some v → test v = .error fault → F fault) :
    (token test expected).FailsAs s c Q F := by
  simp only [FailsAs, token, Run.meets_bind]
  refine meets_look_of unreadable ?_
  cases h : c.head? with
  | none => exact ended h
  | some symbol =>
    simp only [Run.meets_bind, Run.meets_ofExcept]
    refine ⟨fun passed tested => ?_, fun fault => raises symbol fault h⟩
    cases passed with
    | true => trivial
    | false => exact rejects symbol h tested

/-- The input stops agreeing with the symbols. -/
lemma failsAs_literal {expected : Value}
    (unreadable : c.input.isReadable = false → F .mismatchedKind)
    (noSequence : expected.items? = none → F .mismatchedKind)
    (differs : ∀ items i atom found, expected.items? = some items →
      firstMismatch c 0 items = some (i, atom, found) →
      Q c (literalError expected (c.peek (i + 1 : Nat)) atom found)) :
    (literal expected).FailsAs s c Q F := by
  unfold literal
  split
  · next items items_eq =>
    simp only [FailsAs, symbols, Run.meets_bind]
    refine meets_look_of unreadable ?_
    split
    · trivial
    · next i atom found mismatch => exact differs items i atom found items_eq mismatch
  · next none_eq => exact noSequence none_eq

/-! ## One after another -/

/-- The first parser fails, or it succeeds and the one after it fails from there. -/
lemma FailsAs.bind {f : α → Parser β} (hp : p.FailsAs s c Q F)
    (hf : ∀ a d, p.Gets s c a d → (f a).FailsAs s d Q F) : (p.bind f).FailsAs s c Q F := by
  simp only [FailsAs, Parser.bind, Run.meets_bind]
  refine hp.meets (fun a d got => ?_) fun d e _ h => ?_
  · exact hf a d got
  · exact h

/-- A changed value adds no failure. -/
lemma FailsAs.map (hp : p.FailsAs s c Q F) (f : α → β) : (p.map f).FailsAs s c Q F := by
  rw [map_eq_bind]
  exact hp.bind fun a _ _ => failsAs_succeed (f a)

/-- The first parser fails, or the second one does after it. -/
lemma FailsAs.andThen (hp : p.FailsAs s c Q F) (hq : ∀ d, p.Steps s c d → q.FailsAs s d Q F) :
    (p.andThen q).FailsAs s c Q F := by
  rw [andThen_eq_bind]
  exact hp.bind fun a d got => hq d ⟨a, got⟩

/-- The first parser fails, or the second one does after it. -/
lemma FailsAs.followedBy (hp : p.FailsAs s c Q F) (hq : ∀ d, p.Steps s c d → q.FailsAs s d Q F) :
    (p.followedBy q).FailsAs s c Q F := by
  rw [followedBy_eq_bind]
  exact hp.bind fun a d got => (hq d ⟨a, got⟩).map _

/-- The first parser fails, or the second one does after it. -/
lemma FailsAs.pairWith (hp : p.FailsAs s c Q F) (hq : ∀ d, p.Steps s c d → q.FailsAs s d Q F) :
    (p.pairWith q).FailsAs s c Q F := by
  rw [pairWith_eq_bind]
  exact hp.bind fun a d got => (hq d ⟨a, got⟩).map _

/-- A change of the value adds the faults of the callback. -/
lemma FailsAs.transform {f : α → Except Fault β} (hp : p.FailsAs s c Q F)
    (raises : ∀ a d fault, p.Gets s c a d → f a = .error fault → F fault) :
    (p.transform f).FailsAs s c Q F := by
  rw [transform_eq_bind]
  exact hp.bind fun a d got =>
    failsAs_ofExcept_map (fun b _ => failsAs_succeed b) fun fault => raises a d fault got

/-- A test of the value adds a failure where the parser stopped. -/
lemma FailsAs.satisfying {test : α → Except Fault Bool} (hp : p.FailsAs s c Q F)
    (rejects : ∀ a d, p.Gets s c a d → test a = .ok false → Q d rejected)
    (raises : ∀ a d fault, p.Gets s c a d → test a = .error fault → F fault) :
    (p.satisfying test).FailsAs s c Q F := by
  rw [satisfying_eq_bind]
  refine hp.bind fun a d got =>
    failsAs_ofExcept_map (fun passed tested => ?_) fun fault => raises a d fault got
  cases passed with
  | true => exact failsAs_succeed a
  | false => exact failsAs_fail (rejects a d got tested)

/-- One of the parsers of a list fails, after those before it have succeeded. -/
lemma failsAs_sequence {ps : List (Parser α)}
    (h : ∀ i (inside : i < ps.length) d, Through s (ps.take i) c d → ps[i].FailsAs s d Q F) :
    (sequence ps).FailsAs s c Q F := by
  suffices from_ : ∀ done, (sequenceFrom s ps done c).Meets (Reply.OkOr Q) F True from from_ #[]
  intro done
  induction ps generalizing c done with
  | nil => trivial
  | cons p ps ih =>
    simp only [sequenceFrom, Run.meets_bind]
    have first : p.FailsAs s c Q F := h 0 (Nat.zero_lt_succ _) c (.nil c)
    refine first.meets (fun a d got => ?_) fun d e _ failed => ?_
    · refine ih (fun i inside m through => ?_) _
      exact h (i + 1) (Nat.succ_lt_succ inside) m (.cons ⟨a, got⟩ through)
    · exact failed

/-- One of the rounds fails, after those before it have succeeded. -/
lemma FailsAs.count {n : Nat}
    (h : ∀ i < n, ∀ d, Through s (List.replicate i p) c d → p.FailsAs s d Q F) :
    (count n p).FailsAs s c Q F := by
  rw [count_eq_sequence]
  refine failsAs_sequence fun i inside d through => ?_
  rw [List.length_replicate] at inside
  rw [List.take_replicate, Nat.min_eq_left (Nat.le_of_lt inside)] at through
  rw [List.getElem_replicate]
  exact h i inside d through

/-! ## Alternatives and looking ahead -/

/-- The first parser fails after consuming, or it fails without consuming and then the second one
fails. -/
lemma FailsAs.orElse {p q : Parser α}
    (hp : p.FailsAs s c (fun d e => d.offset ≠ c.offset → Q d e) F)
    (hq : p.Misses s c → q.FailsAs s c Q F) : (p.orElse q).FailsAs s c Q F := by
  simp only [FailsAs, Parser.orElse, Run.meets_bind]
  refine hp.meets (fun a d got => ?_) fun d e fails h => ?_
  · trivial
  · by_cases same : d.offset = c.offset
    · have unmoved : (Reply.error (α := α) d e).consumedSince c = false := by
        simp [Reply.consumedSince, Reply.cursor, same]
      rw [unmoved]
      exact hq ⟨d, e, fails, same⟩
    · have moved : (Reply.error (α := α) d e).consumedSince c = true := by
        simp [Reply.consumedSince, Reply.cursor, same]
      rw [moved]
      exact h same

/-- A changed reply fails as the change of a success or of a failure does. -/
lemma FailsAs.mapReply {f : Cursor → Reply α → Reply β} (hp : p.FailsAs s c Q' F)
    (ok : ∀ a d, p.Gets s c a d → (f c (.ok a d)).OkOr Q)
    (error : ∀ d e, Q' d e → (f c (.error d e)).OkOr Q) : (p.mapReply f).FailsAs s c Q F :=
  meets_mapReply.2 (hp.meets ok fun d e _ => error d e)

/-- The failure is that of the parser, where it began. -/
lemma FailsAs.attempt (hp : p.FailsAs s c (fun _ e => Q c e) F) : p.attempt.FailsAs s c Q F := by
  rw [attempt_eq_mapReply]
  exact hp.mapReply (fun _ _ _ => trivial) fun _ _ failed => failed

/-- The failure is that of the parser, where it began. -/
lemma FailsAs.lookAhead (hp : p.FailsAs s c (fun _ e => Q c e) F) :
    p.lookAhead.FailsAs s c Q F := by
  rw [lookAhead_eq_mapReply]
  exact hp.mapReply (fun _ _ _ => trivial) fun _ _ failed => failed

/-- The failure is the success of the parser. -/
lemma FailsAs.notFollowedBy {showing : α → String} (hp : p.FailsAs s c (fun _ _ => True) F)
    (there : ∀ a d, p.Gets s c a d → Q c (unexpected showing a)) :
    (notFollowedBy showing p).FailsAs s c Q F := by
  rw [notFollowedBy_eq_mapReply]
  exact hp.mapReply there fun _ _ _ => trivial

/-! ## What a failure says -/

/-- The failure is that of the parser, with a message more. -/
lemma FailsAs.withContext {text : String}
    (hp : p.FailsAs s c (fun d e => Q d (e.withContext (.message text))) F) :
    (p.withContext text).FailsAs s c Q F := by
  rw [withContext_eq_mapReply]
  exact hp.mapReply (fun _ _ _ => trivial) fun _ _ failed => failed

/-- The failure is where that of the parser is, and says nothing but the message. -/
lemma FailsAs.withMessage {text : String}
    (hp : p.FailsAs s c (fun d _ => Q d (.ofMessage text)) F) :
    (p.withMessage text).FailsAs s c Q F := by
  rw [withMessage_eq_mapReply]
  exact hp.mapReply (fun _ _ _ => trivial) fun _ _ failed => failed

/-! ## Tracing -/

/-- A trace does not fail, but it looks at the input. -/
lemma failsAs_trace {label : String}
    (unreadable : c.input.isReadable = false → F .mismatchedKind) :
    (trace label).FailsAs s c Q F := by
  by_cases looks : s.tracing = true ∧ c.input.isReadable = false
  · simpa only [FailsAs, Run.Meets, ending_trace, looks, and_self, if_true] using unreadable looks.2
  · simp only [FailsAs, Run.Meets, ending_trace, looks, if_false, Reply.OkOr]

/-- A trace stays where it is. -/
lemma eq_of_steps_trace {label : String} {d : Cursor} (h : (trace label).Steps s c d) : d = c := by
  obtain ⟨a, h⟩ := h
  rw [Gets, ending_trace] at h
  split at h
  · cases h
  · cases h
    rfl

/-- The failure of a traced parser is told where it began and without what it said. -/
lemma FailsAs.traced {label : String}
    (unreadable : c.input.isReadable = false → F .mismatchedKind)
    (hp : p.FailsAs s c (fun _ _ => Q c (tracedError label)) F) :
    (traced label p).FailsAs s c Q F := by
  have attempted : p.attempt.FailsAs s c (fun d _ => d = c ∧ Q c (tracedError label)) F :=
    (hp.mono fun _ _ _ told => ⟨rfl, told⟩).attempt
  have failure {m : Cursor} (told : Q m (tracedError label)) :
      (traceFailure label : Parser α).FailsAs s m Q F := by
    rw [FailsAs, Run.Meets, ending_traceFailure]
    exact told
  refine FailsAs.andThen (failsAs_trace unreadable) fun d stepped => ?_
  obtain rfl : d = c := eq_of_steps_trace stepped
  refine FailsAs.orElse (attempted.mono fun d e _ there moved => ?_) fun missed => ?_
  · exact absurd (congrArg Cursor.offset there.1) moved
  · obtain ⟨d, e, fails, -⟩ := missed
    exact failure (attempted.fails fails).2

/-! ## Repetition -/

/-- A loop fails as its rounds do. A round goes on from one cursor to another as `R` says, so each
round begins at a cursor that such rounds lead to. -/
lemma FailsAs.iterate {round : Cursor × σ → Run (Run.Round (Cursor × σ) (Reply β))}
    {R : Cursor → Cursor → Prop} {start : Cursor} (fuel : Nat) (state : σ)
    (step : ∀ c state, ReflTransGen R start c → (round (c, state)).Meets
      (fun
        | .again (next, _) => R c next
        | .stop reply => reply.OkOr Q) F True) :
    (Run.iterate round fuel (start, state)).Meets (Reply.OkOr Q) F True := by
  refine Run.meets_iterate (I := fun _ state => ReflTransGen R start state.1)
    (fun _ _ => trivial) (fun _ state before => ?_) .refl
  refine (step state.1 state.2 before).mono ?_ fun _ h => h
  rintro (⟨next, state⟩ | reply) h
  · exact before.tail h
  · exact h

section Rounds

/-- The rounds of a repetition that began at `start`, from `c` on: an item that fails after
consuming does so as `Q` and `F` say, and so does a round that does not consume. -/
structure RoundsFailAs (p : Parser α) (s : Settings) (start c : Cursor)
    (Q : Cursor → ParseError → Prop) (F : Fault → Prop) : Prop where
  /-- The failure of an item. -/
  item : ∀ m, ReflTransGen (p.Progresses s) c m →
    p.FailsAs s m (fun d e => d.offset ≠ m.offset → Q d e) F
  /-- A round that does not consume. -/
  stalls : ∀ m d, ReflTransGen (p.Progresses s) c m → p.Steps s m d → d.offset = m.offset →
    Q start noProgress

variable {push : β → α → Except Fault β} {start : Cursor}

/-- A repetition fails as its rounds do, or its collection refuses a value. -/
lemma RoundsFailAs.manyByFrom {collected : β} (rounds : p.RoundsFailAs s start c Q F)
    (refuses : ∀ b a fault, push b a = .error fault → F fault) :
    (manyByFrom push p start s c collected).Meets (Reply.OkOr Q) F True := by
  refine FailsAs.iterate (R := p.Progresses s) s.fuel collected fun m collected before => ?_
  rw [meets_manyByRound]
  refine (rounds.item m before).meets (fun a d got => ?_) fun d e _ h => ?_
  · by_cases same : d.offset = m.offset
    · simp only [same, if_true]
      exact rounds.stalls m d before ⟨a, got⟩ same
    · simp only [same, if_false]
      exact ⟨fun _ _ => ⟨⟨a, got⟩, same⟩, fun fault => refuses collected a fault⟩
  · by_cases same : d.offset = m.offset
    · simp only [same, if_true]
      trivial
    · simp only [same, if_false]
      exact h same

/-- A repetition fails as its rounds do, or its collection cannot begin or refuses a value. -/
lemma RoundsFailAs.manyBy {empty : Except Fault β} (rounds : p.RoundsFailAs s c c Q F)
    (begins : ∀ fault, empty = .error fault → F fault)
    (refuses : ∀ b a fault, push b a = .error fault → F fault) :
    (manyBy empty push p).FailsAs s c Q F := by
  simp only [FailsAs, Parser.manyBy, Run.meets_bind, Run.meets_ofExcept]
  exact ⟨fun b _ => rounds.manyByFrom refuses, begins⟩

/-- The first round need not consume, and the collection is begun after it. -/
lemma FailsAs.many1By {empty : Except Fault β} (first : p.FailsAs s c Q F)
    (rounds : ∀ k, p.Steps s c k → p.RoundsFailAs s c k Q F)
    (begins : ∀ fault, empty = .error fault → F fault)
    (refuses : ∀ b a fault, push b a = .error fault → F fault) :
    (many1By empty push p).FailsAs s c Q F := by
  simp only [FailsAs, Parser.many1By, Run.meets_bind]
  refine first.meets (fun a k got => ?_) fun d e _ h => ?_
  · simp only [Run.meets_bind, Run.meets_ofExcept]
    refine ⟨fun b _ => (rounds k ⟨a, got⟩).manyByFrom refuses, fun fault raised => ?_⟩
    cases begun : empty with
    | ok b =>
      rw [begun] at raised
      exact refuses b a fault raised
    | error fault' =>
      rw [begun] at raised
      cases raised
      exact begins fault begun
  · exact h

/-- A collection that takes every value adds no fault. -/
lemma RoundsFailAs.manyInto {empty : β} {push : β → α → β} (rounds : p.RoundsFailAs s c c Q F) :
    (manyInto empty push p).FailsAs s c Q F :=
  rounds.manyByFrom fun _ _ _ raised => nomatch raised

/-- The first item fails, or the rounds after it do. -/
lemma FailsAs.many1Into {empty : β} {push : β → α → β} (first : p.FailsAs s c Q F)
    (rounds : ∀ k, p.Steps s c k → p.RoundsFailAs s c k Q F) :
    (many1Into empty push p).FailsAs s c Q F := by
  simp only [FailsAs, Parser.many1Into, Run.meets_bind]
  refine first.meets (fun a k got => ?_) fun d e _ h => ?_
  · exact (rounds k ⟨a, got⟩).manyByFrom fun _ _ _ raised => nomatch raised
  · exact h

/-- A repetition into a list fails as its rounds do. -/
lemma RoundsFailAs.many (rounds : p.RoundsFailAs s c c Q F) : (many p).FailsAs s c Q F :=
  rounds.manyInto.map _

/-- The first item fails, or the rounds after it do. -/
lemma FailsAs.many1 (first : p.FailsAs s c Q F)
    (rounds : ∀ k, p.Steps s c k → p.RoundsFailAs s c k Q F) : (many1 p).FailsAs s c Q F :=
  (first.many1Into rounds).map _

end Rounds

/-! ### Separators -/

section Separators

variable {p : Parser α} {sep : Parser β}

/-- A lack of progress is reported where the first item stopped. -/
lemma FailsAs.sepBy1 (first : p.FailsAs s c Q F)
    (separator : ∀ k m, p.Steps s c k → ReflTransGen ((sep.andThen p).Progresses s) k m →
      sep.FailsAs s m (fun d e => d.offset ≠ m.offset → Q d e) F)
    (item : ∀ k m m', p.Steps s c k → ReflTransGen ((sep.andThen p).Progresses s) k m →
      sep.Steps s m m' → p.FailsAs s m' (fun d e => d.offset ≠ m.offset → Q d e) F)
    (stalls : ∀ k m d, p.Steps s c k → ReflTransGen ((sep.andThen p).Progresses s) k m →
      (sep.andThen p).Steps s m d → d.offset = m.offset → Q k noProgress) :
    (sepBy1 p sep).FailsAs s c Q F := by
  rw [sepBy1_eq_bind]
  refine first.bind fun a k got => ?_
  refine (RoundsFailAs.many ⟨fun m before => ?_, fun m d before => ?_⟩).map _
  · exact (separator k m ⟨a, got⟩ before).andThen fun m' stepped =>
      item k m m' ⟨a, got⟩ before stepped
  · exact stalls k m d ⟨a, got⟩ before

/-- A lack of progress is reported at the beginning. An item that fails without consuming after a
separator is none. -/
lemma FailsAs.sepEndBy1 (first : p.FailsAs s c Q F)
    (separator : ∀ k m, p.Steps s c k → ReflTransGen ((sep.andThen p).Progresses s) k m →
      sep.FailsAs s m (fun d e => d.offset ≠ m.offset → Q d e) F)
    (item : ∀ k m m', p.Steps s c k → ReflTransGen ((sep.andThen p).Progresses s) k m →
      sep.Steps s m m' → p.FailsAs s m' (fun d e => d.offset ≠ m'.offset → Q d e) F)
    (stalls : ∀ k m d, p.Steps s c k → ReflTransGen ((sep.andThen p).Progresses s) k m →
      (sep.andThen p).Steps s m d → d.offset = m.offset → Q c noProgress) :
    (sepEndBy1 p sep).FailsAs s c Q F := by
  simp only [FailsAs, Parser.sepEndBy1, Run.meets_bind]
  refine first.meets (fun a k got => ?_) fun d e _ h => ?_
  · refine FailsAs.iterate (R := (sep.andThen p).Progresses s) s.fuel #[a] fun m items before => ?_
    rw [meets_sepEndByRound]
    refine (separator k m ⟨a, got⟩ before).meets (fun b m' separated => ?_) fun d e _ h => ?_
    · have item := item k m m' ⟨a, got⟩ before ⟨b, separated⟩
      refine item.meets (fun a' d read => ?_) fun d e _ h => ?_
      · have round : (sep.andThen p).Steps s m d := Steps.andThen ⟨b, separated⟩ ⟨a', read⟩
        by_cases same : d.offset = m.offset
        · simp only [same, if_true]
          exact stalls k m d ⟨a, got⟩ before round same
        · simp only [same, if_false]
          exact ⟨round, same⟩
      · by_cases same : d.offset = m'.offset
        · simp only [same, if_true]
          trivial
        · simp only [same, if_false]
          exact h same
    · by_cases same : d.offset = m.offset
      · simp only [same, if_true]
        trivial
      · simp only [same, if_false]
        exact h same
  · exact h

end Separators

/-! ### Up to an end -/

section Till

variable {p : Parser α} {stop : Parser β}

/-- A round up to an end goes on: the end fails without consuming, and an item is consumed. -/
def TillRound (p : Parser α) (stop : Parser β) (s : Settings) (c d : Cursor) : Prop :=
  stop.Misses s c ∧ p.Progresses s c d

/-- The rounds up to an end that began at `start`, from `c` on: an end that fails after consuming,
an item that fails where the end has failed, and a round that does not consume do so as `Q` and
`F` say. -/
structure TillFailsAs (p : Parser α) (stop : Parser β) (s : Settings) (start c : Cursor)
    (Q : Cursor → ParseError → Prop) (F : Fault → Prop) : Prop where
  /-- The failure of the end. -/
  ending : ∀ m, ReflTransGen (TillRound p stop s) c m →
    stop.FailsAs s m (fun d e => d.offset ≠ m.offset → Q d e) F
  /-- The failure of an item. -/
  item : ∀ m, ReflTransGen (TillRound p stop s) c m → stop.Misses s m →
    p.FailsAs s m (fun d e => Q d (e.withContext neitherMatched)) F
  /-- A round that does not consume. -/
  stalls : ∀ m d, ReflTransGen (TillRound p stop s) c m → stop.Misses s m → p.Steps s m d →
    d.offset = m.offset → Q start noProgress

/-- A loop up to an end fails as its rounds do. -/
lemma TillFailsAs.iterate {start : Cursor} {items : Array α}
    (rounds : TillFailsAs p stop s start c Q F) :
    (Run.iterate (tillRound p stop start s) s.fuel (c, items)).Meets (Reply.OkOr Q) F True := by
  refine FailsAs.iterate (R := TillRound p stop s) s.fuel items fun m items before => ?_
  rw [meets_tillRound]
  refine (rounds.ending m before).meets (fun _ _ _ => ?_) fun d e failed h => ?_
  · trivial
  · by_cases same : d.offset = m.offset
    · have misses : stop.Misses s m := ⟨d, e, failed, same⟩
      simp only [same, ne_eq, not_true_eq_false, if_false]
      refine (rounds.item m before misses).meets (fun a d read => ?_) fun d e _ h => ?_
      · by_cases same : d.offset = m.offset
        · simp only [same, if_true]
          exact rounds.stalls m d before misses ⟨a, read⟩ same
        · simp only [same, if_false]
          exact ⟨misses, ⟨a, read⟩, same⟩
      · exact h
    · simp only [ne_eq, same, not_false_eq_true, if_true]
      exact h same

/-- Without a first item there are only the rounds. -/
lemma TillFailsAs.manyTill (rounds : TillFailsAs p stop s c c Q F) :
    (manyTill p stop).FailsAs s c Q F :=
  rounds.iterate

/-- The first item is read before the end is tried. -/
lemma FailsAs.many1Till (first : p.FailsAs s c Q F)
    (rounds : ∀ k, p.Steps s c k → TillFailsAs p stop s c k Q F) :
    (many1Till p stop).FailsAs s c Q F := by
  simp only [FailsAs, Parser.many1Till, Run.meets_bind]
  refine first.meets (fun a k read => ?_) fun d e _ h => ?_
  · exact (rounds k ⟨a, read⟩).iterate
  · exact h

end Till

/-! ## Chains -/

section Chains

variable {apply : ο → α → α → Except Fault α} {op : Parser ο}

/-- The rounds of a chain from `c` on: an operator that fails after consuming and an operand that
fails after an operator do so as `Q` and `F` say. -/
structure ChainFailsAs (p : Parser α) (op : Parser ο) (s : Settings) (c : Cursor)
    (Q : Cursor → ParseError → Prop) (F : Fault → Prop) : Prop where
  /-- The failure of an operator. -/
  operator : ∀ m, ReflTransGen ((op.andThen p).Steps s) c m →
    op.FailsAs s m (fun d e => d.offset ≠ m.offset → Q d e) F
  /-- The failure of an operand. -/
  operand : ∀ m m', ReflTransGen ((op.andThen p).Steps s) c m → op.Steps s m m' →
    p.FailsAs s m' Q F

/-- The operators and operands after a first operand, folded while they are read. -/
lemma ChainFailsAs.chainlFrom {a : α} (rounds : ChainFailsAs p op s c Q F)
    (applies : ∀ m m' f a b fault, ReflTransGen ((op.andThen p).Steps s) c m → op.Gets s m f m' →
      apply f a b = .error fault → F fault) :
    (chainlFrom apply p op a).FailsAs s c Q F := by
  refine FailsAs.iterate (R := (op.andThen p).Steps s) s.fuel a fun m folded before => ?_
  rw [meets_chainlRound]
  refine (rounds.operator m before).meets (fun f m' operated => ?_) fun d e _ h => ?_
  · have operand := rounds.operand m m' before ⟨f, operated⟩
    refine operand.meets (fun b d read => ?_) fun d e _ h => ?_
    · exact ⟨fun _ _ => Steps.andThen ⟨f, operated⟩ ⟨b, read⟩,
        fun fault => applies m m' f folded b fault before operated⟩
    · exact h
  · by_cases same : d.offset = m.offset
    · simp only [same, if_true]
      trivial
    · simp only [same, if_false]
      exact h same

/-- The first operand fails, the rounds after it do, or an operator raises a fault. -/
lemma FailsAs.chainl1 (first : p.FailsAs s c Q F)
    (rounds : ∀ k, p.Steps s c k → ChainFailsAs p op s k Q F)
    (applies : ∀ k m m' f a b fault, p.Steps s c k → ReflTransGen ((op.andThen p).Steps s) k m →
      op.Gets s m f m' → apply f a b = .error fault → F fault) :
    (chainl1 apply p op).FailsAs s c Q F := by
  rw [chainl1_eq_bind]
  refine first.bind fun a k got => ?_
  exact (rounds k ⟨a, got⟩).chainlFrom (applies k · · · · · · ⟨a, got⟩)

/-- The operators and operands after a first operand. Each operator that was kept is one that the
operator parser gave in a round. -/
lemma ChainFailsAs.meets_chainrRest (rounds : ChainFailsAs p op s c Q F) :
    ((chainrRest p op).run s c).Meets (fun
      | .ok scanned _ => ∀ entry ∈ scanned, ∃ m m',
        ReflTransGen ((op.andThen p).Steps s) c m ∧ op.Gets s m entry.1 m'
      | .error d e => Q d e) F True := by
  refine Run.meets_iterate (I := fun _ state => ReflTransGen ((op.andThen p).Steps s) c state.1 ∧
    ∀ entry ∈ state.2.toList, ∃ m m',
      ReflTransGen ((op.andThen p).Steps s) c m ∧ op.Gets s m entry.1 m')
    (fun _ _ => trivial) (fun _ state inv => ?_) ⟨.refl, by simp⟩
  obtain ⟨m, scanned⟩ := state
  obtain ⟨before, given⟩ := inv
  rw [meets_chainrRound]
  refine (rounds.operator m before).meets (fun f m' operated => ?_) fun d e _ h => ?_
  · have operand := rounds.operand m m' before ⟨f, operated⟩
    refine operand.meets (fun b d read => ?_) fun d e _ h => ?_
    · refine ⟨before.tail (Steps.andThen ⟨f, operated⟩ ⟨b, read⟩), fun entry mem => ?_⟩
      rw [Array.toList_push, List.mem_append, List.mem_singleton] at mem
      rcases mem with mem | rfl
      · exact given entry mem
      · exact ⟨m, m', before, operated⟩
    · exact h
  · by_cases same : d.offset = m.offset
    · simp only [same, if_true]
      exact given
    · simp only [same, if_false]
      exact h same

/-- The first operand fails, the rounds after it do, or an operator raises a fault. -/
lemma FailsAs.chainr1 (first : p.FailsAs s c Q F)
    (rounds : ∀ k, p.Steps s c k → ChainFailsAs p op s k Q F)
    (applies : ∀ k m m' f a b fault, p.Steps s c k → ReflTransGen ((op.andThen p).Steps s) k m →
      op.Gets s m f m' → apply f a b = .error fault → F fault) :
    (chainr1 apply p op).FailsAs s c Q F := by
  rw [chainr1_eq_bind]
  refine first.bind fun a k got => ?_
  have rest := (rounds k ⟨a, got⟩).meets_chainrRest
  have fails : (chainrRest p op).FailsAs s k Q F := rest.mono
    (fun reply h => by
      cases reply with
      | ok scanned d => trivial
      | error d e => exact h) fun _ h => h
  refine fails.transform fun scanned d fault read raised => ?_
  obtain ⟨entry, mem, x, y, raised⟩ := foldRight_error raised
  obtain ⟨m, m', before, operated⟩ := (Run.meets_of_ending_eq read).1 rest entry mem
  exact applies k m m' entry.1 x y fault ⟨a, got⟩ before operated raised

end Chains

end Parser

/-! ## Collections -/

namespace Collector

/-- A collection of the caller's own raises a fault, when it is begun or when a value is added. -/
def Refuses (into : Collector) (fault : Fault) : Prop :=
  match into with
  | own empty push => empty = .error fault ∨ ∃ collected v, push collected v = .error fault
  | _ => False

variable {into : Collector} {p : Parser Value} {s : Settings} {c : Cursor}
  {Q : Cursor → ParseError → Prop} {F : Fault → Prop}

/-- Whatever a repetition collects into, it fails as its rounds do, or a value is refused. -/
lemma failsAs_many (rounds : p.RoundsFailAs s c c Q F)
    (refuses : ∀ fault, into.Refuses fault → F fault) : (into.many p).FailsAs s c Q F := by
  cases into with
  | list => exact rounds.many.map _
  | deque => exact rounds.many.map _
  | counter => exact rounds.manyInto.map _
  | nothing => exact rounds.manyInto.map _
  | own empty push =>
    exact rounds.manyBy (fun fault raised => refuses fault (.inl raised))
      fun b a fault raised => refuses fault (.inr ⟨b, a, raised⟩)

/-- The first item fails, or the rounds after it do, or a value is refused. -/
lemma failsAs_many1 (first : p.FailsAs s c Q F)
    (rounds : ∀ k, p.Steps s c k → p.RoundsFailAs s c k Q F)
    (refuses : ∀ fault, into.Refuses fault → F fault) : (into.many1 p).FailsAs s c Q F := by
  cases into with
  | list => exact (first.many1 rounds).map _
  | deque => exact (first.many1 rounds).map _
  | counter => exact (first.many1Into rounds).map _
  | nothing => exact (first.many1Into rounds).map _
  | own empty push =>
    exact first.many1By rounds (fun fault raised => refuses fault (.inl raised))
      fun b a fault raised => refuses fault (.inr ⟨b, a, raised⟩)

end Collector

end ParserCombinators
