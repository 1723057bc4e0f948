import ParserCombinators.Parser.Trace
import ParserCombinators.Proofs.Cursor.Reach
import ParserCombinators.Proofs.Parser.Change
import ParserCombinators.Proofs.Parser.Round
import ParserCombinators.Proofs.Parser.Sequencing

/-!
# Parsers move onward

A parser moves onward if the cursor of each of its replies, success or failure, is reached from the
cursor where it began by steps over symbols that are there. Single symbols and literals move
onward, and every combinator keeps the property: a parser that goes on goes on from a cursor that
was reached, and one that goes back goes back to where it began.

## Main definitions

* `Parser.Onward` — the property.

## Main results

* `Parser.Onward.bind`, `Parser.Onward.mapReply` — one parser after another, and a changed reply.
* `Parser.Onward.iterate` — loops: it is enough that every round moves onward.
* `Parser.onward_token`, `Parser.onward_symbols` — the parsers that look at the input.
-/

set_option autoImplicit false

namespace ParserCombinators

namespace Parser

variable {α β γ ο σ : Type}

/-- The cursor of every reply is reached from the cursor where the parser began. -/
def Onward (p : Parser α) : Prop :=
  ∀ s c, (p.run s c).Meets (fun reply => c.Reaches reply.cursor) (fun _ => True) True

/-! ## Parsers that read nothing -/

/-- Success without consuming stays where it is. -/
lemma onward_succeed (a : α) : (succeed a).Onward := fun _ c => Cursor.Reaches.refl c

/-- Failure without consuming stays where it is. -/
lemma onward_fail (e : ParseError) : (fail e : Parser α).Onward := fun _ c => Cursor.Reaches.refl c

/-- A fault is no reply. -/
lemma onward_raise (fault : Fault) : (raise fault : Parser α).Onward := fun _ _ => trivial

/-- What follows a callback moves onward if it does so for all that the callback can return. -/
lemma onward_ofExcept_map (x : Except Fault α) {f : α → Parser β} (hf : ∀ a, (f a).Onward) :
    (ofExcept (x.map f)).Onward := by
  cases x with
  | ok a => exact hf a
  | error fault => exact onward_raise fault

/-! ## The input -/

/-- Looking at the input is no reply. -/
private lemma meets_look {c : Cursor} {P : Unit → Prop} (h : P ()) :
    (look c).Meets P (fun _ => True) True := by
  unfold look
  split
  · exact h
  · trivial

/-- The end of the input is not consumed. -/
lemma onward_endOfInput : endOfInput.Onward := by
  intro s c
  simp only [endOfInput, Run.meets_bind]
  refine meets_look ?_
  cases c.head? with
  | none => exact Cursor.Reaches.refl c
  | some found => exact Cursor.Reaches.refl c

/-- A symbol is consumed only if there is one. -/
lemma onward_token (test : Value → Except Fault Bool) (expected : Value) :
    (token test expected).Onward := by
  intro s c
  simp only [token, Run.meets_bind]
  refine meets_look ?_
  cases h : c.head? with
  | none => exact Cursor.Reaches.refl c
  | some symbol =>
    simp only [Run.meets_bind, Run.meets_ofExcept]
    refine ⟨fun passed _ => ?_, fun _ _ => trivial⟩
    cases passed with
    | true => exact Cursor.reaches_advance_one h
    | false => exact Cursor.Reaches.refl c

/-- The input agrees only with symbols that it has. -/
lemma length_le_of_firstMismatch_eq_none {c : Cursor} {items : List Value} {i : Nat}
    (h : firstMismatch c i items = none) : items = [] ∨ i + items.length ≤ c.remaining := by
  induction items generalizing i with
  | nil => exact .inl rfl
  | cons expected rest ih =>
    right
    rw [firstMismatch] at h
    split at h
    · simp at h
    · next found there =>
      have bound : c.offset + i < c.input.size := by
        rw [← Input.getElem?_symbols] at there
        have := (List.getElem?_eq_some_iff.1 there).1
        simpa using this
      split at h
      · rcases ih h with rfl | ih
        · simp only [Cursor.remaining, List.length_cons, List.length_nil]
          omega
        · simp only [List.length_cons]
          omega
      · simp at h

/-- Symbols with which the input agrees are all there. -/
lemma length_le_remaining {c : Cursor} {items : List Value} (h : firstMismatch c 0 items = none) :
    items.length ≤ c.remaining := by
  rcases length_le_of_firstMismatch_eq_none h with rfl | h
  · exact Nat.zero_le _
  · omega

/-- The symbols of a literal are consumed only if all of them are there. -/
lemma onward_symbols (expected : Value) (items : List Value) : (symbols expected items).Onward := by
  intro s c
  simp only [symbols, Run.meets_bind]
  refine meets_look ?_
  split
  · next h => exact Cursor.reaches_advance (length_le_remaining h)
  · exact Cursor.Reaches.refl c

/-- A value that is no sequence is no literal. -/
lemma onward_literal (expected : Value) : (literal expected).Onward := by
  unfold literal
  split
  · exact onward_symbols _ _
  · exact fun _ _ => trivial

/-! ## One after another -/

variable {p : Parser α} {q : Parser β}

/-- The second parser begins where the first stopped. -/
lemma Onward.bind {f : α → Parser β} (hp : p.Onward) (hf : ∀ a, (f a).Onward) :
    (p.bind f).Onward := by
  intro s c
  simp only [Parser.bind, Run.meets_bind]
  refine (hp s c).mono ?_ fun _ _ => trivial
  intro reply reach
  cases reply with
  | ok a d => exact (hf a s d).mono (fun _ reach' => reach.trans reach') fun _ _ => trivial
  | error d e => exact reach

/-- A change of the value does not move the cursor. -/
lemma Onward.map (hp : p.Onward) (f : α → β) : (p.map f).Onward := by
  rw [map_eq_bind]
  exact hp.bind fun a => onward_succeed (f a)

/-- The value of the first parser is dropped, its cursor is not. -/
lemma Onward.andThen (hp : p.Onward) (hq : q.Onward) : (p.andThen q).Onward := by
  rw [andThen_eq_bind]
  exact hp.bind fun _ => hq

/-- The value of the second parser is dropped, its cursor is not. -/
lemma Onward.followedBy (hp : p.Onward) (hq : q.Onward) : (p.followedBy q).Onward := by
  rw [followedBy_eq_bind]
  exact hp.bind fun _ => hq.map _

/-- Both values are kept, and the cursor of the second parser. -/
lemma Onward.pairWith (hp : p.Onward) (hq : q.Onward) : (p.pairWith q).Onward := by
  rw [pairWith_eq_bind]
  exact hp.bind fun _ => hq.map _

/-- What a callback makes of the value does not move the cursor. -/
lemma Onward.transform (hp : p.Onward) (f : α → Except Fault β) : (p.transform f).Onward := by
  rw [transform_eq_bind]
  exact hp.bind fun a => onward_ofExcept_map (f a) onward_succeed

/-- A rejected value fails where the parser stopped. -/
lemma Onward.satisfying (hp : p.Onward) (test : α → Except Fault Bool) :
    (p.satisfying test).Onward := by
  rw [satisfying_eq_bind]
  refine hp.bind fun a => onward_ofExcept_map (test a) fun passed => ?_
  cases passed with
  | true => exact onward_succeed a
  | false => exact onward_fail rejected

/-! ## Alternatives and looking ahead -/

/-- The alternative begins where the first parser began. -/
lemma Onward.orElse {p q : Parser α} (hp : p.Onward) (hq : q.Onward) : (p.orElse q).Onward := by
  intro s c
  simp only [Parser.orElse, Run.meets_bind]
  refine (hp s c).mono (fun reply reach => ?_) fun _ _ => trivial
  split
  · exact reach
  · exact hq s c

/-- A changed reply is onward if the change keeps to the cursors that are reached. -/
lemma Onward.mapReply (hp : p.Onward) {f : Cursor → Reply α → Reply β}
    (keeps : ∀ (c : Cursor) reply, c.Reaches reply.cursor → c.Reaches (f c reply).cursor) :
    (p.mapReply f).Onward :=
  fun s c => meets_mapReply.2 ((hp s c).mono (keeps c) fun _ _ => trivial)

/-- On failure the cursor is back where it began. -/
lemma Onward.attempt (hp : p.Onward) : p.attempt.Onward := by
  rw [attempt_eq_mapReply]
  refine hp.mapReply fun c reply reach => ?_
  cases reply with
  | ok a d => exact reach
  | error d e => exact Cursor.Reaches.refl c

/-- The cursor is back where it began. -/
lemma Onward.lookAhead (hp : p.Onward) : p.lookAhead.Onward := by
  rw [lookAhead_eq_mapReply]
  refine hp.mapReply fun c reply _ => ?_
  rw [Reply.cursor_rewind]

/-- The cursor is back where it began. -/
lemma Onward.notFollowedBy (showing : α → String) (hp : p.Onward) :
    (notFollowedBy showing p).Onward := by
  rw [notFollowedBy_eq_mapReply]
  refine hp.mapReply fun c reply _ => ?_
  rw [Reply.cursor_negate]

/-! ## What a failure says -/

/-- A failure that says something else is where it was. -/
lemma Onward.mapError (hp : p.Onward) (f : ParseError → ParseError) :
    (p.mapReply fun _ => Reply.mapError f).Onward := by
  refine hp.mapReply fun c reply reach => ?_
  rwa [Reply.cursor_mapError]

/-- A failure with a message more is where it was. -/
lemma Onward.withContext (hp : p.Onward) (text : String) : (p.withContext text).Onward := by
  rw [withContext_eq_mapReply]
  exact hp.mapError _

/-- A failure with another message is where it was. -/
lemma Onward.withMessage (hp : p.Onward) (text : String) : (p.withMessage text).Onward := by
  rw [withMessage_eq_mapReply]
  exact hp.mapError _

/-! ## Tracing -/

/-- A trace stays where it is. -/
lemma onward_trace (label : String) : (trace label).Onward := by
  intro s c
  simp only [trace]
  split
  · rw [Run.meets_bind]
    exact meets_look (Cursor.Reaches.refl c)
  · exact Cursor.Reaches.refl c

/-- The failure of a traced parser is where it began. -/
lemma onward_traceFailure (label : String) : (traceFailure label : Parser α).Onward := by
  intro s c
  simp only [traceFailure]
  split <;> exact Cursor.Reaches.refl c

/-- A traced parser fails where it began. -/
lemma Onward.traced {p : Parser α} (label : String) (hp : p.Onward) : (traced label p).Onward :=
  (onward_trace label).andThen (hp.attempt.orElse (onward_traceFailure label))

/-! ## Repetition -/

/-- A loop moves onward if every round does, from any cursor that is reached. -/
lemma Onward.iterate {round : Cursor × σ → Run (Run.Round (Cursor × σ) (Reply β))}
    {start c : Cursor} (fuel : Nat) (state : σ) (reach : start.Reaches c)
    (step : ∀ c state, start.Reaches c → (round (c, state)).Meets
      (fun
        | .again (next, _) => start.Reaches next
        | .stop reply => start.Reaches reply.cursor) (fun _ => True) True) :
    (Run.iterate round fuel (c, state)).Meets (fun reply => start.Reaches reply.cursor)
      (fun _ => True) True := by
  refine Run.meets_iterate (I := fun _ state => start.Reaches state.1) (fun _ _ => trivial)
    (fun _ state reach => ?_) reach
  refine (step state.1 state.2 reach).mono ?_ fun _ _ => trivial
  rintro (⟨next, state⟩ | reply) h <;> exact h

/-- A repetition that began earlier goes on onward, and fails at its beginning. -/
lemma Onward.manyByFrom (hp : p.Onward) (push : β → α → Except Fault β) {start c : Cursor}
    (s : Settings) (collected : β) (reach : start.Reaches c) :
    (manyByFrom push p start s c collected).Meets (fun reply => start.Reaches reply.cursor)
      (fun _ => True) True := by
  refine Onward.iterate s.fuel collected reach fun c collected reach => ?_
  rw [meets_manyByRound]
  refine (hp s c).mono ?_ fun _ _ => trivial
  intro reply reach'
  cases reply with
  | ok a next =>
    dsimp only
    split
    · exact Cursor.Reaches.refl start
    · exact ⟨fun _ _ => reach.trans reach', fun _ _ => trivial⟩
  | error next e =>
    dsimp only
    split
    · exact reach
    · exact reach.trans reach'

/-- Whatever a repetition collects into, and whether or not that takes every value, it moves
onward. -/
lemma Onward.manyBy (hp : p.Onward) (empty : Except Fault β) (push : β → α → Except Fault β) :
    (manyBy empty push p).Onward := by
  intro s c
  simp only [Parser.manyBy, Run.meets_bind, Run.meets_ofExcept]
  exact ⟨fun b _ => hp.manyByFrom push s b (Cursor.Reaches.refl c), fun _ _ => trivial⟩

/-- A repetition with a first value goes on onward from behind it. -/
lemma Onward.many1By (hp : p.Onward) (empty : Except Fault β) (push : β → α → Except Fault β) :
    (many1By empty push p).Onward := by
  intro s c
  simp only [Parser.many1By, Run.meets_bind]
  refine (hp s c).mono ?_ fun _ _ => trivial
  intro reply reach
  cases reply with
  | ok a next =>
    simp only [Run.meets_bind, Run.meets_ofExcept]
    exact ⟨fun b _ => hp.manyByFrom push s b reach, fun _ _ => trivial⟩
  | error next e => exact reach

/-- A repetition whose collection takes every value moves onward. -/
lemma Onward.manyInto (hp : p.Onward) (empty : β) (push : β → α → β) :
    (manyInto empty push p).Onward :=
  fun s c => hp.manyByFrom _ s empty (Cursor.Reaches.refl c)

/-- So does one with a first value. -/
lemma Onward.many1Into (hp : p.Onward) (empty : β) (push : β → α → β) :
    (many1Into empty push p).Onward := by
  intro s c
  simp only [Parser.many1Into, Run.meets_bind]
  refine (hp s c).mono ?_ fun _ _ => trivial
  intro reply reach
  cases reply with
  | ok a next => exact hp.manyByFrom _ s (push empty a) reach
  | error next e => exact reach

/-- A repetition into a list moves onward. -/
lemma Onward.many (hp : p.Onward) : (many p).Onward :=
  (hp.manyInto _ _).map _

/-- So does one with a first value. -/
lemma Onward.many1 (hp : p.Onward) : (many1 p).Onward :=
  (hp.many1Into _ _).map _

/-- A sequence that began earlier goes on onward. -/
lemma Onward.sequenceFrom {ps : List (Parser α)} (hps : ∀ p ∈ ps, p.Onward) (s : Settings)
    (done : Array α) {start c : Cursor} (reach : start.Reaches c) :
    (sequenceFrom s ps done c).Meets (fun reply => start.Reaches reply.cursor) (fun _ => True)
      True := by
  induction ps generalizing done c with
  | nil => exact reach
  | cons p ps ih =>
    simp only [Parser.sequenceFrom, Run.meets_bind]
    refine (hps p List.mem_cons_self s c).mono ?_ fun _ _ => trivial
    intro reply reach'
    cases reply with
    | ok a d => exact ih (fun p hp => hps p (List.mem_cons_of_mem _ hp)) _ (reach.trans reach')
    | error d e => exact reach.trans reach'

/-- Every parser of a sequence begins where the one before stopped. -/
lemma onward_sequence {ps : List (Parser α)} (hps : ∀ p ∈ ps, p.Onward) : (sequence ps).Onward :=
  fun s c => Onward.sequenceFrom hps s #[] (Cursor.Reaches.refl c)

/-- A fixed number of rounds moves onward. -/
lemma Onward.count (hp : p.Onward) (n : Nat) : (count n p).Onward := by
  rw [count_eq_sequence]
  refine onward_sequence fun q mem => ?_
  obtain rfl := List.eq_of_mem_replicate mem
  exact hp

/-- Items with separators between them move onward. -/
lemma Onward.sepBy1 (hp : p.Onward) (hq : q.Onward) : (sepBy1 p q).Onward := by
  rw [sepBy1_eq_bind]
  exact hp.bind fun _ => ((hq.andThen hp).many).map _

/-- The last separator of `sepEndBy1` may be consumed, and a lack of progress is reported at the
beginning. -/
lemma Onward.sepEndBy1 (hp : p.Onward) (hq : q.Onward) : (sepEndBy1 p q).Onward := by
  intro s c
  simp only [Parser.sepEndBy1, Run.meets_bind]
  refine (hp s c).mono ?_ fun _ _ => trivial
  intro reply reach
  cases reply with
  | ok a next =>
    refine Onward.iterate s.fuel #[a] reach fun d items reach => ?_
    rw [meets_sepEndByRound]
    refine (hq s d).mono ?_ fun _ _ => trivial
    intro reply reach'
    cases reply with
    | ok b separated =>
      change (p.run s separated).Meets _ _ _
      refine (hp s separated).mono ?_ fun _ _ => trivial
      have between := reach.trans reach'
      intro reply reach''
      cases reply with
      | ok a next =>
        dsimp only
        split
        · exact Cursor.Reaches.refl c
        · exact between.trans reach''
      | error next e =>
        dsimp only
        split
        · exact between
        · exact between.trans reach''
    | error next e =>
      dsimp only
      split
      · exact reach
      · exact reach.trans reach'
  | error next e => exact reach

/-- The rounds of `manyTill`, from a cursor that is reached. -/
lemma Onward.till (hp : p.Onward) (hq : q.Onward) {start c : Cursor} (s : Settings)
    (items : Array α) (reach : start.Reaches c) :
    (Run.iterate (tillRound p q start s) s.fuel (c, items)).Meets
      (fun reply => start.Reaches reply.cursor) (fun _ => True) True := by
  refine Onward.iterate s.fuel items reach fun d items reach => ?_
  rw [meets_tillRound]
  refine (hq s d).mono ?_ fun _ _ => trivial
  intro reply reach'
  cases reply with
  | ok b next => exact reach.trans reach'
  | error next e =>
    dsimp only
    split
    · exact reach.trans reach'
    · refine (hp s d).mono ?_ fun _ _ => trivial
      intro reply reach''
      cases reply with
      | ok a next =>
        dsimp only
        split
        · exact Cursor.Reaches.refl start
        · exact reach.trans reach''
      | error next e => exact reach.trans reach''

/-- Items up to an end move onward. -/
lemma Onward.manyTill (hp : p.Onward) (hq : q.Onward) : (manyTill p q).Onward :=
  fun s c => hp.till hq s #[] (Cursor.Reaches.refl c)

/-- So do items up to an end, after a first one. -/
lemma Onward.many1Till (hp : p.Onward) (hq : q.Onward) : (many1Till p q).Onward := by
  intro s c
  simp only [Parser.many1Till, Run.meets_bind]
  refine (hp s c).mono ?_ fun _ _ => trivial
  intro reply reach
  cases reply with
  | ok a next => exact hp.till hq s #[a] reach
  | error next e => exact reach

/-! ## Chains -/

/-- The operators and operands after a first operand move onward while they are folded. -/
lemma Onward.chainlFrom (apply : ο → α → α → Except Fault α) {op : Parser ο} (hp : p.Onward)
    (ho : op.Onward) (a : α) : (chainlFrom apply p op a).Onward := by
  intro s c
  refine Onward.iterate s.fuel a (Cursor.Reaches.refl c) fun d folded reach => ?_
  rw [meets_chainlRound]
  refine (ho s d).mono ?_ fun _ _ => trivial
  intro reply reach'
  cases reply with
  | ok f operator =>
    change (p.run s operator).Meets _ _ _
    refine (hp s operator).mono ?_ fun _ _ => trivial
    intro reply reach''
    cases reply with
    | ok b next => exact ⟨fun _ _ => (reach.trans reach').trans reach'', fun _ _ => trivial⟩
    | error next e => exact (reach.trans reach').trans reach''
  | error next e =>
    dsimp only
    split
    · exact reach
    · exact reach.trans reach'

/-- A chain that is folded from the left moves onward. -/
lemma Onward.chainl1 (apply : ο → α → α → Except Fault α) {op : Parser ο} (hp : p.Onward)
    (ho : op.Onward) : (chainl1 apply p op).Onward := by
  rw [chainl1_eq_bind]
  exact hp.bind (hp.chainlFrom apply ho)

/-- The operators and operands after a first operand move onward if they are folded later. -/
lemma Onward.chainrRest {op : Parser ο} (hp : p.Onward) (ho : op.Onward) :
    (chainrRest p op).Onward := by
  intro s c
  refine Onward.iterate s.fuel #[] (Cursor.Reaches.refl c) fun d scanned reach => ?_
  rw [meets_chainrRound]
  refine (ho s d).mono ?_ fun _ _ => trivial
  intro reply reach'
  cases reply with
  | ok f operator =>
    change (p.run s operator).Meets _ _ _
    refine (hp s operator).mono ?_ fun _ _ => trivial
    rintro (⟨b, next⟩ | ⟨next, e⟩) reach'' <;> exact (reach.trans reach').trans reach''
  | error next e =>
    dsimp only
    split
    · exact reach
    · exact reach.trans reach'

/-- A chain that is folded from the right moves onward. -/
lemma Onward.chainr1 (apply : ο → α → α → Except Fault α) {op : Parser ο} (hp : p.Onward)
    (ho : op.Onward) : (chainr1 apply p op).Onward := by
  rw [chainr1_eq_bind]
  exact hp.bind fun _ => (hp.chainrRest ho).transform _

end Parser

end ParserCombinators
