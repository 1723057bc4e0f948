import ParserCombinators.Parser.Character
import ParserCombinators.Proofs.Cursor.Ahead
import ParserCombinators.Proofs.Parser.Sequencing
import ParserCombinators.Proofs.Postcondition

/-!
# Answers to a text

What a parser does over a text depends on the characters ahead alone. Its answer is an outcome: a
value or an error, together with the characters that are ahead then. A statement about the answer
says that the run comes to an end whenever there is more fuel than there are characters ahead, that
it moves onward, and that its outcome is in a given set; faults are in a set of their own.

Whether a failure consumed anything can be read off the characters ahead: it did not exactly if
they are those that were ahead at the beginning.

## Main definitions

* `Outcome` — a reply in which the characters ahead stand for the cursor.
* `Parser.Answers` — on a text ahead, a parser comes to an end with an outcome in a set.
* `Parser.Accepts`, `Parser.Refuses` — the outcome is a certain success, or a failure that consumed
  nothing.
* `Outcome.OkIn` — an outcome that is in a set if it is a success.

## Main results

* `Parser.Answers.bind` and its kin — one parser after another.
* `Parser.Answers.orElse` — alternatives.
* `Parser.token_accepts`, `Parser.token_refuses` — single characters.
* `Parser.Answers.ending`, `Parser.ending_iff` — how the run over a whole text ends.
-/

set_option autoImplicit false

namespace ParserCombinators

/-- What a parser answers, as the text sees it: the characters ahead stand for the cursor. -/
inductive Outcome (α : Type) where
  /-- Success: the value, and the characters ahead after what was consumed. -/
  | ok (value : α) (rest : List Char)
  /-- Failure: the characters ahead where it is reported, and the error. -/
  | error (rest : List Char) (error : ParseError)

variable {α β γ : Type}

/-- A reply as the text sees it. -/
def Reply.outcome : Reply α → Outcome α
  | .ok a c => .ok a c.ahead
  | .error c e => .error c.ahead e

namespace Outcome

/-- The outcome with its value changed. -/
def map (f : α → β) : Outcome α → Outcome β
  | .ok a rest => .ok (f a) rest
  | .error rest e => .error rest e

/-- The value of a success, the error of a failure. -/
def toExcept : Outcome α → Except ParseError α
  | .ok a _ => .ok a
  | .error _ e => .error e

/-- The outcome is in a set if it is a success. -/
def OkIn (R : α → List Char → Prop) : Outcome α → Prop
  | .ok a rest => R a rest
  | .error _ _ => True

/-- A smaller set of successes is part of a greater one. -/
lemma OkIn.mono {R S : α → List Char → Prop} (h : ∀ a rest, R a rest → S a rest) {o : Outcome α}
    (ho : o.OkIn R) : o.OkIn S := by
  cases o with
  | ok a rest => exact h a rest ho
  | error rest e => trivial

/-- A changed value is in a set if the value is in the set of those that are changed into it. -/
lemma okIn_map {f : α → β} {S : β → List Char → Prop} {o : Outcome α}
    (h : o.OkIn fun a rest => S (f a) rest) : (o.map f).OkIn S := by
  cases o with
  | ok a rest => exact h
  | error rest e => trivial

end Outcome

namespace Parser

/-- With the characters `cs` ahead and more fuel than there are of them, the parser comes to an end
with an outcome in `Q` after moving onward, or with a fault in `F`. -/
def Answers (p : Parser α) (cs : List Char) (Q : Outcome α → Prop) (F : Fault → Prop) : Prop :=
  ∀ s c, c.OnText → c.ahead = cs → cs.length < s.fuel →
    (p.run s c).Meets (fun reply => c.Reaches reply.cursor ∧ Q reply.outcome) F False

/-- The parser succeeds with `a` and has the characters `rest` ahead then. -/
def Accepts (p : Parser α) (cs : List Char) (a : α) (rest : List Char) : Prop :=
  p.Answers cs (· = .ok a rest) fun _ => False

/-- The parser fails without consuming. -/
def Refuses (p : Parser α) (cs : List Char) : Prop :=
  p.Answers cs (fun o => ∃ e, o = .error cs e) fun _ => False

variable {p : Parser α} {q : Parser β} {cs mid rest : List Char} {a : α} {b : β}
  {P : Outcome α → Prop} {Q : Outcome β → Prop} {F : Fault → Prop}

/-- More outcomes and more faults are answered, too. -/
lemma Answers.mono {P Q : Outcome α → Prop} {F G : Fault → Prop} (h : p.Answers cs P F)
    (outcome : ∀ o, P o → Q o) (fault : ∀ f, F f → G f) : p.Answers cs Q G := by
  intro s c hc ahead fuel
  exact (h s c hc ahead fuel).mono (fun reply h => ⟨h.1, outcome _ h.2⟩) fault

/-- A parser that accepts answers with that success. -/
lemma Accepts.answers (h : p.Accepts cs a rest) (hP : P (.ok a rest)) : p.Answers cs P F := by
  refine h.mono (fun o ho => ?_) fun _ => False.elim
  rw [ho]
  exact hP

/-- A parser that refuses answers with a failure that consumed nothing. -/
lemma Refuses.answers (h : p.Refuses cs) (hP : ∀ e, P (.error cs e)) : p.Answers cs P F := by
  refine h.mono ?_ fun _ => False.elim
  rintro o ⟨e, rfl⟩
  exact hP e

/-- What is left ahead is a suffix of what was ahead. -/
lemma Accepts.suffix (h : p.Accepts cs a rest) : rest <:+ cs := by
  have meets := h ⟨cs.length + 1, false⟩ (.plain (.ofValue (.str (String.ofList cs))))
    (Cursor.onText_plain _) (by simp) (by simp)
  unfold Run.Meets at meets
  split at meets
  next reply _ =>
    obtain ⟨reach, outcome⟩ := meets
    have suffix := reach.ahead_suffix
    rw [Cursor.ahead_plain, String.toList_ofList] at suffix
    cases reply with
    | ok b d =>
      cases outcome
      exact suffix
    | error d e => cases outcome
  next => exact meets.elim
  next => exact meets.elim

/-! ## Parsers that read nothing -/

/-- Success without consuming leaves all characters ahead. -/
lemma succeed_accepts (a : α) (cs : List Char) : (succeed a).Accepts cs a cs := by
  intro s c hc ahead fuel
  subst ahead
  exact ⟨Cursor.Reaches.refl c, rfl⟩

/-! ## One after another -/

/-- The second parser answers to the characters that the first has left ahead. -/
lemma Answers.bind {f : α → Parser β} (hp : p.Answers cs P F)
    (ok : ∀ a rest, rest <:+ cs → P (.ok a rest) → (f a).Answers rest Q F)
    (error : ∀ rest e, rest <:+ cs → P (.error rest e) → Q (.error rest e)) :
    (p.bind f).Answers cs Q F := by
  intro s c hc ahead fuel
  subst ahead
  simp only [Parser.bind, Run.meets_bind]
  refine (hp s c hc rfl fuel).mono ?_ fun _ h => h
  intro reply ⟨reach, h⟩
  cases reply with
  | ok a d =>
    have suffix := reach.ahead_suffix
    refine (ok a d.ahead suffix h s d (reach.onText hc) rfl ?_).mono (fun reply h => ?_)
      fun _ h => h
    · exact lt_of_le_of_lt suffix.length_le fuel
    · exact ⟨reach.trans h.1, h.2⟩
  | error d e => exact ⟨reach, error d.ahead e reach.ahead_suffix h⟩

/-- A changed value is answered where the value was. -/
lemma Answers.map {f : α → β} (hp : p.Answers cs (fun o => Q (o.map f)) F) :
    (p.map f).Answers cs Q F := by
  rw [map_eq_bind]
  exact hp.bind (fun a rest _ h => (succeed_accepts (f a) rest).answers h) fun _ _ _ h => h

/-- The second parser answers to the characters that the first has left ahead. -/
lemma Answers.andThen (hp : p.Answers cs P F)
    (ok : ∀ a rest, rest <:+ cs → P (.ok a rest) → q.Answers rest Q F)
    (error : ∀ rest e, rest <:+ cs → P (.error rest e) → Q (.error rest e)) :
    (p.andThen q).Answers cs Q F := by
  rw [andThen_eq_bind]
  exact hp.bind ok error

/-- What a callback makes of the value is answered where the value was. -/
lemma Answers.transform {f : α → Except Fault β} (hp : p.Answers cs P F)
    (ok : ∀ a rest b, rest <:+ cs → P (.ok a rest) → f a = .ok b → Q (.ok b rest))
    (raised : ∀ a rest fault, P (.ok a rest) → f a = .error fault → F fault)
    (error : ∀ rest e, rest <:+ cs → P (.error rest e) → Q (.error rest e)) :
    (p.transform f).Answers cs Q F := by
  rw [transform_eq_bind]
  refine hp.bind (fun a rest suffix h => ?_) error
  cases hf : f a with
  | ok b => exact (succeed_accepts b rest).answers (ok a rest b suffix h hf)
  | error fault => exact fun _ _ _ _ _ => raised a rest fault h hf

/-! ### Successes -/

/-- After a success the second parser answers. -/
lemma Accepts.bind {f : α → Parser β} (hp : p.Accepts cs a mid) (hf : (f a).Answers mid Q F) :
    (p.bind f).Answers cs Q F := by
  refine Answers.bind (P := (· = .ok a mid)) (hp.answers rfl) (fun a' rest _ h => ?_)
    fun rest e _ h => ?_
  · cases h
    exact hf
  · cases h

/-- A changed value is accepted where the value was. -/
lemma Accepts.map (hp : p.Accepts cs a rest) (f : α → β) : (p.map f).Accepts cs (f a) rest :=
  Answers.map (hp.answers rfl)

/-- After a success the second parser answers. -/
lemma Accepts.andThen (hp : p.Accepts cs a mid) (hq : q.Answers mid Q F) :
    (p.andThen q).Answers cs Q F := by
  rw [andThen_eq_bind]
  exact hp.bind hq

/-- Two successes one after the other, with the value of the first. -/
lemma Accepts.followedBy (hp : p.Accepts cs a mid) (hq : q.Accepts mid b rest) :
    (p.followedBy q).Accepts cs a rest := by
  rw [followedBy_eq_bind]
  exact hp.bind (hq.map _)

/-- Two successes one after the other, with both values. -/
lemma Accepts.pairWith (hp : p.Accepts cs a mid) (hq : q.Accepts mid b rest) :
    (p.pairWith q).Accepts cs (a, b) rest := by
  rw [pairWith_eq_bind]
  exact hp.bind (hq.map _)

/-- What a callback returned is accepted where the value was. -/
lemma Accepts.transform {f : α → Except Fault β} (hp : p.Accepts cs a rest) (hf : f a = .ok b) :
    (p.transform f).Accepts cs b rest := by
  rw [transform_eq_bind]
  refine hp.bind ?_
  rw [hf]
  exact succeed_accepts b rest

/-! ### Failures that consumed nothing -/

/-- After a refusal nothing is tried. -/
lemma Refuses.bind (hp : p.Refuses cs) (f : α → Parser β) : (p.bind f).Refuses cs := by
  refine Answers.bind hp (fun a rest _ h => ?_) fun rest e _ h => ?_
  · obtain ⟨e, h⟩ := h
    cases h
  · obtain ⟨e', h⟩ := h
    cases h
    exact ⟨e, rfl⟩

/-- Where there is no value, none is changed. -/
lemma Refuses.map (hp : p.Refuses cs) (f : α → β) : (p.map f).Refuses cs := by
  rw [map_eq_bind]
  exact hp.bind _

/-- After a refusal the second parser is not run. -/
lemma Refuses.andThen (hp : p.Refuses cs) (q : Parser β) : (p.andThen q).Refuses cs := by
  rw [andThen_eq_bind]
  exact hp.bind _

/-- After a refusal the second parser is not run. -/
lemma Refuses.followedBy (hp : p.Refuses cs) (q : Parser β) : (p.followedBy q).Refuses cs := by
  rw [followedBy_eq_bind]
  exact hp.bind _

/-- A success without consuming, and then a refusal. -/
lemma Accepts.followedBy_refuses (hp : p.Accepts cs a cs) (hq : q.Refuses cs) :
    (p.followedBy q).Refuses cs := by
  rw [followedBy_eq_bind]
  exact hp.bind (hq.map _)

/-- After a refusal the second parser is not run. -/
lemma Refuses.pairWith (hp : p.Refuses cs) (q : Parser β) : (p.pairWith q).Refuses cs := by
  rw [pairWith_eq_bind]
  exact hp.bind _

/-- Where there is no value, no callback is called. -/
lemma Refuses.transform (hp : p.Refuses cs) (f : α → Except Fault β) :
    (p.transform f).Refuses cs := by
  rw [transform_eq_bind]
  exact hp.bind _

/-! ## Alternatives -/

/-- The alternative answers where the first parser failed without consuming. -/
lemma Answers.orElse {p q : Parser α} {Q : Outcome α → Prop} (hp : p.Answers cs P F)
    (ok : ∀ a rest, P (.ok a rest) → Q (.ok a rest))
    (error : ∀ rest e, rest ≠ cs → P (.error rest e) → Q (.error rest e))
    (other : ∀ e, P (.error cs e) → q.Answers cs Q F) : (p.orElse q).Answers cs Q F := by
  intro s c hc ahead fuel
  subst ahead
  simp only [Parser.orElse, Run.meets_bind]
  refine (hp s c hc rfl fuel).mono ?_ fun _ h => h
  intro reply ⟨reach, h⟩
  cases reply with
  | ok a d => exact ⟨reach, ok a d.ahead h⟩
  | error d e =>
    have moved : d.offset = c.offset ↔ d.ahead = c.ahead := reach.offset_eq_iff hc
    simp only [Reply.isOk, Reply.consumedSince, Reply.cursor, Bool.false_or, bne_iff_ne]
    by_cases same : d.offset = c.offset
    · simp only [same, ne_eq, not_true_eq_false, if_false]
      simp only [Reply.outcome, moved.1 same] at h
      exact other e h s c hc rfl fuel
    · simp only [same, ne_eq, not_false_eq_true, if_true]
      exact ⟨reach, error d.ahead e (fun eq => same (moved.2 eq)) h⟩

/-- The first success counts. -/
lemma Accepts.orElse {p : Parser α} (hp : p.Accepts cs a rest) (q : Parser α) :
    (p.orElse q).Accepts cs a rest := by
  refine Answers.orElse hp (fun _ _ h => h) (fun _ _ _ h => h) fun e h => ?_
  cases h

/-- Where the first parser refuses, the alternative answers. -/
lemma Refuses.orElse {p q : Parser α} (hp : p.Refuses cs) (hq : q.Answers cs P F) :
    (p.orElse q).Answers cs P F := by
  refine Answers.orElse (P := fun o => ∃ e, o = .error cs e) (hp.answers fun e => ⟨e, rfl⟩)
    (fun a rest h => ?_) (fun rest e moved h => ?_) fun _ _ => hq
  · obtain ⟨e, h⟩ := h
    cases h
  · obtain ⟨e', h⟩ := h
    cases h
    exact absurd rfl moved

/-! ## Sets of successes -/

section Successes

variable {R S : α → List Char → Prop} {T : β → List Char → Prop}

/-- More successes are answered, too. -/
lemma Answers.mono_okIn (h : p.Answers cs (Outcome.OkIn R) F)
    (success : ∀ a rest, R a rest → S a rest) : p.Answers cs (Outcome.OkIn S) F :=
  h.mono (fun _ ho => ho.mono success) fun _ hf => hf

/-- A changed value is in a set if the value is in the set of those that are changed into it. -/
lemma Answers.map_okIn {f : α → β}
    (hp : p.Answers cs (Outcome.OkIn fun a rest => T (f a) rest) F) :
    (p.map f).Answers cs (Outcome.OkIn T) F :=
  (hp.mono (fun _ ho => Outcome.okIn_map ho) fun _ hf => hf).map

/-- Successes are those of the second parser, where the first has succeeded. -/
lemma Answers.bind_okIn {f : α → Parser β} (hp : p.Answers cs (Outcome.OkIn R) F)
    (hf : ∀ a mid, mid <:+ cs → R a mid → (f a).Answers mid (Outcome.OkIn T) F) :
    (p.bind f).Answers cs (Outcome.OkIn T) F :=
  hp.bind hf fun _ _ _ _ => trivial

/-- Successes are those of the second parser, where the first has succeeded. -/
lemma Answers.andThen_okIn (hp : p.Answers cs (Outcome.OkIn R) F)
    (hq : ∀ a mid, mid <:+ cs → R a mid → q.Answers mid (Outcome.OkIn T) F) :
    (p.andThen q).Answers cs (Outcome.OkIn T) F :=
  hp.andThen hq fun _ _ _ _ => trivial

/-- Successes have the value of the first parser and what the second has left. -/
lemma Answers.followedBy_okIn (hp : p.Answers cs (Outcome.OkIn R) F)
    (hq : ∀ a mid, mid <:+ cs → R a mid → q.Answers mid (Outcome.OkIn fun _ rest => S a rest) F) :
    (p.followedBy q).Answers cs (Outcome.OkIn S) F := by
  rw [followedBy_eq_bind]
  exact hp.bind_okIn fun a mid suffix h => (hq a mid suffix h).map_okIn

/-- Successes have both values and what the second parser has left. -/
lemma Answers.pairWith_okIn {T : α × β → List Char → Prop} (hp : p.Answers cs (Outcome.OkIn R) F)
    (hq : ∀ a mid, mid <:+ cs → R a mid →
      q.Answers mid (Outcome.OkIn fun b rest => T (a, b) rest) F) :
    (p.pairWith q).Answers cs (Outcome.OkIn T) F := by
  rw [pairWith_eq_bind]
  exact hp.bind_okIn fun a mid suffix h => (hq a mid suffix h).map_okIn

/-- Successes of a callback are in a set if it is kept to it, and its faults are answered. -/
lemma Answers.transform_okIn {f : α → Except Fault β} (hp : p.Answers cs (Outcome.OkIn R) F)
    (ok : ∀ a rest b, R a rest → f a = .ok b → T b rest)
    (raised : ∀ a rest fault, R a rest → f a = .error fault → F fault) :
    (p.transform f).Answers cs (Outcome.OkIn T) F :=
  hp.transform (fun a rest b _ => ok a rest b) raised fun _ _ _ _ => trivial

/-- What both alternatives accept is all that is accepted. -/
lemma Answers.orElse_okIn {p q : Parser α} (hp : p.Answers cs (Outcome.OkIn R) F)
    (hq : q.Answers cs (Outcome.OkIn R) F) : (p.orElse q).Answers cs (Outcome.OkIn R) F :=
  hp.orElse (fun _ _ h => h) (fun _ _ _ h => h) fun _ _ => hq

end Successes

/-! ## The end of the text and single characters -/

/-- The end of the text. -/
lemma endOfInput_accepts : endOfInput.Accepts [] () [] := by
  intro s c hc ahead fuel
  simp only [endOfInput, look_of_readable hc.overText.isReadable, hc.overText.head?_eq, ahead,
    Run.pure_bind']
  exact ⟨Cursor.Reaches.refl c, congrArg _ ahead⟩

/-- Not the end of the text. -/
lemma endOfInput_refuses (h : cs ≠ []) : endOfInput.Refuses cs := by
  intro s c hc ahead fuel
  subst ahead
  obtain ⟨x, rest, ahead⟩ := List.exists_cons_of_ne_nil h
  simp only [endOfInput, look_of_readable hc.overText.isReadable, hc.overText.head?_eq, ahead,
    Run.pure_bind']
  exact ⟨Cursor.Reaches.refl c, _, congrArg (Outcome.error · _) ahead⟩

/-- The end of the text is accepted only there. -/
lemma endOfInput_okIn :
    endOfInput.Answers cs (Outcome.OkIn fun _ rest => cs = [] ∧ rest = []) F := by
  cases cs with
  | nil => exact endOfInput_accepts.answers ⟨rfl, rfl⟩
  | cons x rest => exact (endOfInput_refuses (by simp)).answers fun _ => trivial

variable {test : Value → Except Fault Bool} {expected : Value} {x : Char}

/-- A character that passes the test. -/
lemma token_accepts (h : test (.ofChar x) = .ok true) :
    (token test expected).Accepts (x :: rest) (.ofChar x) rest := by
  intro s c hc ahead fuel
  have head : c.head? = some (.ofChar x) := by
    rw [hc.overText.head?_eq, ahead]
    rfl
  simp only [token, look_of_readable hc.overText.isReadable, head, Run.pure_bind', h,
    Run.ofExcept_ok]
  exact ⟨Cursor.reaches_advance_one head, congrArg _ (hc.ahead_advance_one ahead)⟩

/-- The end of the text, or a character that does not pass the test. -/
lemma token_refuses (h : ∀ x ∈ cs.head?, test (.ofChar x) = .ok false) :
    (token test expected).Refuses cs := by
  intro s c hc ahead fuel
  subst ahead
  have head := hc.overText.head?_eq
  cases hcs : c.ahead with
  | nil =>
    rw [hcs] at head
    simp only [token, look_of_readable hc.overText.isReadable, head, Run.pure_bind']
    exact ⟨Cursor.Reaches.refl c, _, congrArg (Outcome.error · _) hcs⟩
  | cons x rest =>
    rw [hcs] at head
    have failed : test (.ofChar x) = .ok false := h x (by simp [hcs])
    simp only [token, look_of_readable hc.overText.isReadable, head, List.head?_cons,
      Option.map_some, Run.pure_bind', failed, Run.ofExcept_ok]
    exact ⟨Cursor.Reaches.refl c, _, congrArg (Outcome.error · _) hcs⟩

/-! ## Whole texts -/

/-- Sufficient settings have more fuel than the text has characters. -/
lemma length_lt_sufficient (names : Nat) (text : String) (tracing : Bool) :
    text.toList.length <
      (Settings.sufficient names (.plain (.ofValue (.str text))) tracing).fuel := by
  have remaining : (Cursor.plain (.ofValue (.str text))).remaining = text.toList.length :=
    (Cursor.onText_plain text).overText.remaining_eq
  have rounds : text.toList.length + 2 ≤ (names + 1) * (text.toList.length + 2) :=
    Nat.le_mul_of_pos_left _ names.succ_pos
  simp only [Settings.sufficient, remaining]
  omega

/-- Over a whole text, the run of a parser that answers ends with the value or error of an outcome
in `Q`, or with a fault in `F`. -/
lemma Answers.ending {text : String} {Q : Outcome α → Prop} {s : Settings}
    (h : p.Answers text.toList Q F) (enough : text.toList.length < s.fuel) :
    let ending := (p.run s (.plain (.ofValue (.str text))) >>= fun reply =>
      pure reply.toExcept).ending
    (∃ o, Q o ∧ ending = .done o.toExcept) ∨ ∃ fault, F fault ∧ ending = .raised fault := by
  intro ending
  have meets : (p.run s (.plain (.ofValue (.str text))) >>= fun reply =>
      pure reply.toExcept).Meets (fun result => ∃ o, Q o ∧ result = o.toExcept) F False := by
    rw [Run.meets_bind]
    refine (h s _ (Cursor.onText_plain text) rfl enough).mono ?_ fun _ h => h
    intro reply ⟨_, h⟩
    cases reply with
    | ok a c => exact ⟨_, h, rfl⟩
    | error c e => exact ⟨_, h, rfl⟩
  unfold Run.Meets at meets
  split at meets
  next result done =>
    obtain ⟨o, ho, rfl⟩ := meets
    exact .inl ⟨o, ho, done⟩
  next fault raised => exact .inr ⟨fault, meets, raised⟩
  next => exact meets.elim

/-- A parser that accepts the written values of a form to the end of the text, and no others, gives
exactly the values that the text writes, and an error if it writes none. -/
lemma ending_iff {text : String} {Form : α → Prop} {s : Settings}
    (sound : p.Answers text.toList (Outcome.OkIn fun a _ => Form a) fun _ => False)
    (complete : ∀ a, Form a → p.Accepts text.toList a []) (enough : text.toList.length < s.fuel) :
    let ending := (p.run s (.plain (.ofValue (.str text))) >>= fun reply =>
      pure reply.toExcept).ending
    (∀ a, ending = .done (.ok a) ↔ Form a) ∧
      ((∃ a, Form a) ∨ ∃ e, ending = .done (.error e)) := by
  intro ending
  obtain ⟨o, success, eq⟩ := (sound.ending enough).resolve_right fun ⟨_, h, _⟩ => h
  change ending = _ at eq
  refine ⟨fun a => ⟨fun done => ?_, fun written => ?_⟩, ?_⟩
  · rw [eq] at done
    cases o with
    | ok value rest =>
      cases done
      exact success
    | error rest e => cases done
  · obtain ⟨_, rfl, done⟩ := ((complete a written).ending enough).resolve_right
      fun ⟨_, h, _⟩ => h
    exact done
  · cases o with
    | ok value rest => exact .inl ⟨value, success⟩
    | error rest e => exact .inr ⟨e, eq⟩

end Parser

end ParserCombinators
