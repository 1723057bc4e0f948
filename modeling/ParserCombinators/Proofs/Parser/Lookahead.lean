import ParserCombinators.Parser.Character
import ParserCombinators.Proofs.Parser.Change
import ParserCombinators.Proofs.Parser.Reply

/-!
# Looking ahead and going back

Trying a parser, looking ahead with it and asking that it does not follow are changes of its reply.
So a law of these combinators is an equation between changes, and holds of the runs with their
faults and logs.

## Main results

* `Parser.attempt_attempt`, `Parser.lookAhead_lookAhead`, `Parser.lookAhead_attempt`,
  `Parser.attempt_lookAhead` — going back twice is going back once.
* `Parser.ending_lookAhead_andThen` — a parser that has been looked ahead with.
* `Parser.lookahead_laws` — where they reply, which of them succeeds, and how they combine.
-/

set_option autoImplicit false

namespace ParserCombinators

/-- No symbol is left exactly where there is no next one. -/
lemma Cursor.isEmpty_eq_isNone (c : Cursor) : c.isEmpty = c.head?.isNone := by
  rw [Bool.eq_iff_iff, Option.isNone_iff_eq_none, c.head?_eq_none_iff]

namespace Parser

variable {α : Type} {s : Settings} {c : Cursor}

/-! ## Going back twice -/

/-- To try a parser twice is to try it once. -/
lemma attempt_attempt (p : Parser α) : p.attempt.attempt = p.attempt := by
  simp only [attempt_eq_mapReply, mapReply_mapReply, Reply.retract_retract]

/-- To look ahead twice is to look ahead once. -/
lemma lookAhead_lookAhead (p : Parser α) : p.lookAhead.lookAhead = p.lookAhead := by
  simp only [lookAhead_eq_mapReply, mapReply_mapReply, Reply.rewind_rewind]

/-- What an attempt goes back from, looking ahead goes back from anyway. -/
lemma lookAhead_attempt (p : Parser α) : p.attempt.lookAhead = p.lookAhead := by
  simp only [attempt_eq_mapReply, lookAhead_eq_mapReply, mapReply_mapReply, Reply.rewind_retract]

/-- After looking ahead there is nothing to go back from. -/
lemma attempt_lookAhead (p : Parser α) : p.lookAhead.attempt = p.lookAhead := by
  simp only [attempt_eq_mapReply, lookAhead_eq_mapReply, mapReply_mapReply, Reply.retract_rewind]

/-! ## Looking ahead and then reading -/

/-- **A parser that has been looked ahead with** is run again from the same cursor, and ends as it
did before. So it is tried: a failure is reported where it began.

**Proof sketch.** Case distinction on how the first run ends; only after a success there is a second
one. -/
lemma ending_lookAhead_andThen (p : Parser α) (s : Settings) (c : Cursor) :
    ((p.lookAhead.andThen p).run s c).ending = (p.attempt.run s c).ending := by
  simp only [lookAhead_eq_mapReply, attempt_eq_mapReply, andThen, mapReply]
  rcases first : p.run s c with ⟨log, (⟨a, d⟩ | ⟨d, e⟩) | fault | _⟩
  · change (p.run s c).ending = _
    rw [first]
    rfl
  · rfl
  · rfl
  · rfl

/-! ## The end of the input -/

section EndOfInput

variable (readable : c.input.isReadable = true)

include readable

/-- At the end of a sequence, and past it, the end is found; anywhere else the next symbol is. -/
lemma exists_ending_endOfInput (s : Settings) :
    ∃ reply, (endOfInput.run s c).ending = .done reply ∧ reply.cursor = c ∧
      reply.isOk = c.isEmpty := by
  simp only [endOfInput, look_of_readable readable, Run.pure_bind', Cursor.isEmpty_eq_isNone]
  cases c.head? with
  | none => exact ⟨_, rfl, rfl, rfl⟩
  | some symbol => exact ⟨_, rfl, rfl, rfl⟩

/-- Any symbol is read exactly where the sequence is not at its end. -/
lemma exists_ending_anyToken (s : Settings) :
    ∃ reply, (anyToken.run s c).ending = .done reply ∧ reply.isOk = !c.isEmpty := by
  simp only [anyToken, token, look_of_readable readable, Run.pure_bind', Cursor.isEmpty_eq_isNone]
  cases c.head? with
  | none => exact ⟨_, rfl, rfl⟩
  | some symbol => exact ⟨_, rfl, rfl⟩

/-- The end is where no symbol follows. -/
lemma exists_ending_notFollowedBy_anyToken (showing : Value → String) (s : Settings) :
    ∃ reply, ((notFollowedBy showing anyToken).run s c).ending = .done reply ∧
      reply.cursor = c ∧ reply.isOk = c.isEmpty := by
  obtain ⟨symbol, ending, found⟩ := exists_ending_anyToken readable s
  rw [notFollowedBy_eq_mapReply]
  refine ⟨symbol.negate showing c, Run.ending_bind_of_done ending _, symbol.cursor_negate _ _, ?_⟩
  rw [Reply.isOk_negate, found, Bool.not_not]

end EndOfInput

/-! ## The laws -/

/-- **Laws of looking ahead.** Looking ahead with a parser and asking that it does not follow end as
the parser does, with the same fault if it ends with one; whenever it replies, both reply where they
began, whatever the parser consumed, and exactly one of them succeeds. To ask twice that it does not
follow is to look ahead without the value. Looking ahead and then reading ends like an attempt, in
value, cursor, error and fault. Attempts and looking ahead are idempotent and absorb each other. The
end of a sequence is where no symbol follows, also for cursors that are past it.

**Proof sketch.** The combinators change the reply of one run of the parser, so all but one of the
laws are equations between changes of a reply (`Parser.mapReply_mapReply`, `Parser.alike_mapReply`).
Only where the parser is run again after looking ahead there are two runs; they are from one cursor
and end in the same way (`Parser.ending_lookAhead_andThen`). -/
theorem lookahead_laws (p : Parser α) (showing : α → String) (showingUnit : Unit → String)
    (showingSymbol : Value → String) (s : Settings) (c : Cursor) :
    (p.lookAhead.run s c).Alike
      (fun ahead reply => ahead.cursor = c ∧ ahead.toExcept = reply.toExcept) (p.run s c) ∧
    ((notFollowedBy showing p).run s c).Alike
      (fun absent reply => absent.cursor = c ∧ absent.isOk = !reply.isOk) (p.run s c) ∧
    (∀ reply, (p.run s c).ending = .done reply → ∃ ahead absent,
      (p.lookAhead.run s c).ending = .done ahead ∧
      ((notFollowedBy showing p).run s c).ending = .done absent ∧
      ahead.cursor = c ∧ absent.cursor = c ∧ ahead.isOk = !absent.isOk) ∧
    ((notFollowedBy showingUnit (notFollowedBy showing p)).run s c).Alike
      (fun twice ahead => twice.isOk = ahead.isOk ∧ twice.cursor = ahead.cursor)
      (p.lookAhead.ignore.run s c) ∧
    ((p.lookAhead.andThen p).run s c).ending = (p.attempt.run s c).ending ∧
    p.attempt.attempt = p.attempt ∧ p.lookAhead.lookAhead = p.lookAhead ∧
    p.attempt.lookAhead = p.lookAhead ∧ p.lookAhead.attempt = p.lookAhead ∧
    (c.input.isReadable = true → ∃ ending absent, (endOfInput.run s c).ending = .done ending ∧
      ((notFollowedBy showingSymbol anyToken).run s c).ending = .done absent ∧
      ending.cursor = c ∧ absent.cursor = c ∧ ending.isOk = c.isEmpty ∧
      absent.isOk = c.isEmpty) := by
  refine ⟨?_, ?_, fun reply ending => ?_, ?_, p.ending_lookAhead_andThen s c, p.attempt_attempt,
    p.lookAhead_lookAhead, p.lookAhead_attempt, p.attempt_lookAhead, fun readable => ?_⟩
  · rw [lookAhead_eq_mapReply]
    exact p.alike_mapReply_self s fun reply => by simp
  · rw [notFollowedBy_eq_mapReply]
    exact p.alike_mapReply_self s fun reply => by simp
  · rw [lookAhead_eq_mapReply, notFollowedBy_eq_mapReply]
    exact ⟨reply.rewind c, reply.negate showing c, Run.ending_bind_of_done ending _,
      Run.ending_bind_of_done ending _, by simp⟩
  · simp only [notFollowedBy_eq_mapReply, lookAhead_eq_mapReply, ignore_eq_mapReply,
      mapReply_mapReply]
    refine alike_mapReply (Run.alike_refl _) ?_
    rintro reply _ rfl
    simp
  · obtain ⟨found, ended, here, isOk⟩ := exists_ending_endOfInput readable s
    obtain ⟨absent, missing, here', isOk'⟩ :=
      exists_ending_notFollowedBy_anyToken readable showingSymbol s
    exact ⟨found, absent, ended, missing, here, here', isOk, isOk'⟩

/-- Two letters of which only the first is there. The failure is behind it, but looking ahead fails
and its opposite succeeds where they began. Past the end of the same text no symbol follows. -/
theorem lookahead_laws_letters :
    let p : Parser Value := (char 'a').andThen (char 'b')
    let s : Settings := ⟨0, false⟩
    let c : Cursor := .plain (.ofValue (.str "ac"))
    let past : Cursor := ⟨c.input, 5, none⟩
    let reply : Reply Value := .error ⟨c.input, 1, none⟩ (.ofAtom (.ofChar 'b') (.ofChar 'c'))
    (p.run s c).ending = .done reply ∧
      (∃ ahead absent, (p.lookAhead.run s c).ending = .done ahead ∧
        ((notFollowedBy Value.written p).run s c).ending = .done absent ∧
        ahead.cursor = c ∧ absent.cursor = c ∧ ahead.isOk = !absent.isOk) ∧
      past.input.isReadable = true ∧
      ∃ ending absent, (endOfInput.run s past).ending = .done ending ∧
        ((notFollowedBy Value.written anyToken).run s past).ending = .done absent ∧
        ending.cursor = past ∧ absent.cursor = past ∧ ending.isOk = past.isEmpty ∧
        absent.isOk = past.isEmpty := by
  intro p s c past reply
  have ending : (p.run s c).ending = .done reply := rfl
  have laws := lookahead_laws p Value.written (fun _ => "nothing") Value.written s
  obtain ⟨-, -, opposites, -⟩ := laws c
  obtain ⟨-, -, -, -, -, -, -, -, -, atEnd⟩ := laws past
  exact ⟨ending, opposites reply ending, rfl, atEnd rfl⟩

end Parser

end ParserCombinators
