import ParserCombinators.Parser.Character
import ParserCombinators.Proofs.Parser.Log
import ParserCombinators.Proofs.Parser.Reply

/-!
# Alternatives

An alternative is tried only where all before it failed without consuming. So one parser decides:
the first that does anything else, or the last one if there is none. The choice ends as that parser
does; what comes after it is not run, and what came before it has left nothing but its log.

## Main definitions

* `Parser.Decides` — a parser that decides between alternatives.

## Main results

* `Parser.orElse_assoc`, `Parser.choice_append` — how alternatives are grouped makes no difference.
* `Parser.Decides.choice` — the reply and the log of a choice, by the parser that decides.
* `Parser.gets_choice_iff` — a choice succeeds with a parser before which all others have failed
  without consuming.
* `Parser.choice_commits` — the parser that decides, both groupings, and the choice of attempts.
-/

set_option autoImplicit false

namespace ParserCombinators

/-- Two runs agree that go on in the same way with the result of the same first run. -/
lemma Run.bind_congr_of_done {α β : Type} {x : Run α} {f g : α → Run β}
    (h : ∀ a, x.ending = .done a → f a = g a) : x >>= f = x >>= g := by
  obtain ⟨log, a | fault | _⟩ := x
  · change Run.bind _ f = Run.bind _ g
    simp only [Run.bind, h a rfl]
  · rfl
  · rfl

namespace Parser

variable {α : Type} {p q : Parser α} {s : Settings} {c d : Cursor}

/-! ## Two alternatives -/

/-- A reply is not kept exactly if it is a failure that has not moved. -/
private lemma not_kept_iff (reply : Reply α) (c : Cursor) :
    ¬ (reply.isOk || reply.consumedSince c) = true ↔
      ∃ d e, reply = .error d e ∧ d.offset = c.offset := by
  cases reply with
  | ok a d => simp [Reply.isOk]
  | error d e => simp [Reply.isOk, Reply.consumedSince, Reply.cursor]

/-- Unless the first parser fails without consuming, it alone is run. -/
lemma run_orElse_of_not_misses (h : ¬ p.Misses s c) (q : Parser α) :
    (p.orElse q).run s c = p.run s c := by
  refine Eq.trans (Run.bind_congr_of_done fun reply ending => ?_) (Run.bind_pure' _)
  split
  · rfl
  · next dropped =>
    obtain ⟨d, e, rfl, same⟩ := (not_kept_iff reply c).1 dropped
    exact absurd ⟨d, e, ending, same⟩ h

/-- After a failure that did not consume, the alternative is run. -/
lemma Misses.run_orElse (h : p.Misses s c) (q : Parser α) :
    (p.orElse q).run s c = p.run s c >>= fun _ => q.run s c := by
  obtain ⟨d, e, failed, same⟩ := h
  refine Run.bind_congr_of_done fun reply ending => ?_
  cases failed.symm.trans ending
  exact if_neg ((not_kept_iff _ c).2 ⟨d, e, rfl, same⟩)

/-- A failure that did not consume and an alternative after it end as the alternative does. -/
lemma Misses.ending_orElse (h : p.Misses s c) (q : Parser α) :
    ((p.orElse q).run s c).ending = (q.run s c).ending := by
  obtain ⟨d, e, failed, same⟩ := h
  exact failed.ending_orElse same q

/-- The log of a failure that did not consume comes before that of the alternative. -/
lemma Misses.events_orElse (h : p.Misses s c) (q : Parser α) :
    (p.orElse q).events s c = p.events s c ++ q.events s c := by
  obtain ⟨d, e, failed, -⟩ := id h
  simp only [events, h.run_orElse, Run.log_bind]
  rw [show (p.run s c).ending = _ from failed]
  rfl

/-- **Alternatives are associative:** in the reply, the fault and the log, at every cursor.

**Proof sketch.** What the first parser replies is kept in both groupings, or dropped in both; in
the latter case what follows is the second parser with the third as its alternative. -/
lemma orElse_assoc (p q r : Parser α) : (p.orElse q).orElse r = p.orElse (q.orElse r) := by
  refine Parser.ext (funext fun s => funext fun c => ?_)
  refine (Run.bind_assoc' _ _ _).trans (Run.bind_congr_of_done fun reply _ => ?_)
  by_cases kept : (reply.isOk || reply.consumedSince c) = true
  · simp only [kept, if_true, Run.pure_bind']
  · simp only [kept]
    rfl

/-! ## Any number of alternatives -/

/-- The first alternative of several, and then the choice of the others. -/
lemma choice_cons {ps : List (Parser α)} (others : ps ≠ []) (p : Parser α) :
    choice (p :: ps) = p.orElse (choice ps) := by
  cases ps with
  | nil => exact absurd rfl others
  | cons q ps =>
    have : Std.Associative (orElse (α := α)) := ⟨orElse_assoc⟩
    exact List.foldl_assoc

/-- A choice of some alternatives, and of others where all of these have failed. -/
lemma choice_append {ps qs : List (Parser α)} (nonempty : ps ≠ []) (others : qs ≠ []) :
    choice (ps ++ qs) = (choice ps).orElse (choice qs) := by
  induction ps with
  | nil => exact absurd rfl nonempty
  | cons p ps ih =>
    by_cases single : ps = []
    · subst single
      exact choice_cons others p
    · rw [choice_cons single, orElse_assoc, ← ih single, ← choice_cons (by simp [single])]
      rfl

/-- The parser `p` decides at `c` between alternatives: all before it fail without consuming, and it
does anything else, or no other comes after it. -/
structure Decides (s : Settings) (c : Cursor) (before : List (Parser α)) (p : Parser α)
    (after : List (Parser α)) : Prop where
  /-- All alternatives before fail without consuming. -/
  missed : ∀ q ∈ before, q.Misses s c
  /-- It does not, or it is the last. -/
  last : after = [] ∨ ¬ p.Misses s c

/-- Between alternatives there is one that decides. -/
lemma exists_decides (s : Settings) (c : Cursor) {ps : List (Parser α)} (nonempty : ps ≠ []) :
    ∃ before p after, ps = before ++ p :: after ∧ Decides s c before p after := by
  induction ps with
  | nil => exact absurd rfl nonempty
  | cons p ps ih =>
    by_cases single : ps = []
    · exact ⟨[], p, [], by rw [single]; rfl, by simp, .inl rfl⟩
    by_cases missed : p.Misses s c
    · obtain ⟨before, q, after, rfl, decides⟩ := ih single
      exact ⟨p :: before, q, after, rfl, List.forall_mem_cons.2 ⟨missed, decides.missed⟩,
        decides.last⟩
    · exact ⟨[], p, ps, rfl, by simp, .inr missed⟩

/-- **A choice is decided by one parser.** It ends as that parser does, and it logs what the parsers
before it and that parser log.

**Proof sketch.** Induction on the parsers before it: each of them is followed by the choice of the
others. -/
lemma Decides.choice {before after : List (Parser α)} (h : Decides s c before p after) :
    ((choice (before ++ p :: after)).run s c).ending = (p.run s c).ending ∧
      (choice (before ++ p :: after)).events s c =
        (before ++ [p]).flatMap fun q => q.events s c := by
  obtain ⟨missed, last⟩ := h
  induction before with
  | nil =>
    have alone : (Parser.choice (p :: after)).run s c = p.run s c := by
      rcases last with rfl | decides
      · rfl
      · by_cases single : after = []
        · rw [single]
          rfl
        · rw [choice_cons single, run_orElse_of_not_misses decides]
    simp [events, alone]
  | cons q before ih =>
    obtain ⟨first, others⟩ := List.forall_mem_cons.1 missed
    obtain ⟨ending, log⟩ := ih others
    rw [List.cons_append, choice_cons (by simp)]
    rw [first.ending_orElse, first.events_orElse, ending, log]
    exact ⟨rfl, rfl⟩

/-- A choice succeeds exactly with a parser before which all others fail without consuming. -/
lemma gets_choice_iff {ps : List (Parser α)} {a : α} :
    (choice ps).Gets s c a d ↔
      ∃ before p after, ps = before ++ p :: after ∧ (∀ q ∈ before, q.Misses s c) ∧
        p.Gets s c a d := by
  constructor
  · intro got
    by_cases empty : ps = []
    · subst empty
      cases got
    · obtain ⟨before, p, after, rfl, decides⟩ := exists_decides s c empty
      exact ⟨before, p, after, rfl, decides.missed, decides.choice.1.symm.trans got⟩
  · rintro ⟨before, p, after, rfl, missed, got⟩
    have decides : Decides s c before p after :=
      ⟨missed, .inr fun ⟨d, e, failed, _⟩ => by cases failed.symm.trans got⟩
    exact decides.choice.1.trans got

/-! ## Attempts -/

/-- An attempt fails without consuming wherever its parser fails. -/
lemma misses_attempt_iff : p.attempt.Misses s c ↔ ∃ d e, p.Fails s c d e := by
  simp only [Misses, fails_attempt_iff]
  constructor
  · rintro ⟨d, e, ⟨-, m, failed⟩, -⟩
    exact ⟨m, e, failed⟩
  · rintro ⟨m, e, failed⟩
    exact ⟨c, e, ⟨rfl, m, failed⟩, rfl⟩

/-- A choice of attempts succeeds exactly with the first parser that does, if all before it
fail. -/
lemma gets_choice_attempt_iff {ps : List (Parser α)} {a : α} :
    (choice (ps.map attempt)).Gets s c a d ↔
      ∃ before p after, ps = before ++ p :: after ∧ (∀ q ∈ before, ∃ d e, q.Fails s c d e) ∧
        p.Gets s c a d := by
  rw [gets_choice_iff]
  constructor
  · rintro ⟨before, p, after, split, missed, got⟩
    obtain ⟨before, rest, rfl, rfl, others⟩ := List.map_eq_append_iff.1 split
    obtain ⟨p, after, rfl, rfl, rfl⟩ := List.map_eq_cons_iff.1 others
    exact ⟨before, p, after, rfl, by simpa [misses_attempt_iff] using missed,
      gets_attempt_iff.1 got⟩
  · rintro ⟨before, p, after, rfl, failed, got⟩
    exact ⟨before.map attempt, p.attempt, after.map attempt, by simp,
      by simpa [misses_attempt_iff] using failed, gets_attempt_iff.2 got⟩

/-- Of parsers that all reply, one succeeds only if there is a first one that does. -/
lemma exists_first_gets {ps : List (Parser α)}
    (replies : ∀ p ∈ ps, ∃ reply, (p.run s c).ending = .done reply)
    (succeeds : ∃ p ∈ ps, ∃ a d, p.Gets s c a d) :
    ∃ before p after, ps = before ++ p :: after ∧ (∀ q ∈ before, ∃ d e, q.Fails s c d e) ∧
      ∃ a d, p.Gets s c a d := by
  induction ps with
  | nil => simp at succeeds
  | cons p ps ih =>
    obtain ⟨first, others⟩ := List.forall_mem_cons.1 replies
    obtain ⟨⟨a, d⟩ | ⟨d, e⟩, ending⟩ := first
    · exact ⟨[], p, ps, rfl, by simp, a, d, ending⟩
    · have later : ∃ q ∈ ps, ∃ a d, q.Gets s c a d := by
        obtain ⟨q, mem, a, d', got⟩ := succeeds
        rcases List.mem_cons.1 mem with rfl | mem
        · cases ending.symm.trans got
        · exact ⟨q, mem, a, d', got⟩
      obtain ⟨before, q, after, rfl, failed, got⟩ := ih others later
      exact ⟨p :: before, q, after, rfl, List.forall_mem_cons.2 ⟨⟨d, e, ending⟩, failed⟩, got⟩

/-! ## What decides -/

/-- **Alternatives commit to the parser that decides.** Of any alternatives one decides at a cursor:
the first that succeeds there, fails after consuming, or ends with a fault, and the last one if all
fail without consuming. The choice ends as that parser does, and logs what it and the parsers before
it log; those after it are not run. So it makes no difference, to the reply, to the fault or to the
log, how alternatives are grouped. If every alternative is an attempt and none of them ends with a
fault, the choice succeeds exactly if one of the parsers does, and then as the first of these.

**Proof sketch.** A parser that fails without consuming is followed by the other alternatives, and
any other reply is kept (`Parser.Decides.choice`). Alternatives are associative
(`Parser.orElse_assoc`), so folding them from the left is choosing between the first and the choice
of the others (`Parser.choice_cons`). An attempt never fails after consuming
(`Parser.misses_attempt_iff`). -/
theorem choice_commits (s : Settings) (c : Cursor) :
    (∀ ps : List (Parser α), ps ≠ [] → ∃ before p after,
      ps = before ++ p :: after ∧ Decides s c before p after ∧
        ((choice ps).run s c).ending = (p.run s c).ending ∧
        (choice ps).events s c = (before ++ [p]).flatMap fun q => q.events s c) ∧
    (∀ p q r : Parser α, p.orElse (q.orElse r) = (p.orElse q).orElse r) ∧
    (∀ ps qs : List (Parser α), ps ≠ [] → qs ≠ [] →
      choice (ps ++ qs) = (choice ps).orElse (choice qs)) ∧
    ∀ ps : List (Parser α), (∀ p ∈ ps, ∃ reply, (p.run s c).ending = .done reply) →
      ((∃ a d, (choice (ps.map attempt)).Gets s c a d) ↔ ∃ p ∈ ps, ∃ a d, p.Gets s c a d) ∧
      ∀ a d, (choice (ps.map attempt)).Gets s c a d → ∃ before p after,
        ps = before ++ p :: after ∧ (∀ q ∈ before, ∃ d e, q.Fails s c d e) ∧
          p.Gets s c a d := by
  refine ⟨fun ps nonempty => ?_, fun p q r => (orElse_assoc p q r).symm,
    fun ps qs => choice_append, fun ps replies => ⟨⟨?_, fun succeeds => ?_⟩, fun a d got => ?_⟩⟩
  · obtain ⟨before, p, after, rfl, decides⟩ := exists_decides s c nonempty
    exact ⟨before, p, after, rfl, decides, decides.choice⟩
  · rintro ⟨a, d, got⟩
    obtain ⟨before, p, after, rfl, -, got⟩ := gets_choice_attempt_iff.1 got
    exact ⟨p, by simp, a, d, got⟩
  · obtain ⟨before, p, after, split, failed, a, d, got⟩ := exists_first_gets replies succeeds
    exact ⟨a, d, gets_choice_attempt_iff.2 ⟨before, p, after, split, failed, got⟩⟩
  · exact gets_choice_attempt_iff.1 got

/-- A traced letter that is not there, two letters of which only the first is there, and a fault.
The letters decide, behind the first of them, so the fault is not met and the log tells only of the
traced letter. If the letters are only attempted, the first letter alone can be read instead. -/
theorem choice_commits_letters :
    let c : Cursor := .plain (.ofValue (.str "ab"))
    let d : Cursor := ⟨c.input, 1, none⟩
    let s : Settings := ⟨0, true⟩
    let other : Parser Value := traced "other" (char 'x')
    let letters : Parser Value := (char 'a').andThen (char 'c')
    let ps : List (Parser Value) := [other, letters, raise .noFrames]
    let qs : List (Parser Value) := [other, letters, char 'a']
    ps ≠ [] ∧ (∃ before p after, ps = before ++ p :: after ∧ Decides s c before p after ∧
        ((choice ps).run s c).ending = (p.run s c).ending ∧
        (choice ps).events s c = (before ++ [p]).flatMap fun q => q.events s c) ∧
      (choice ps).Fails s c d (.ofAtom (.ofChar 'c') (.ofChar 'b')) ∧
      ((choice ps).events s c).map Event.text = ["other: 'ab' at 0", "other backtracked at 0"] ∧
      (∀ p ∈ qs, ∃ reply, (p.run s c).ending = .done reply) ∧
      (choice (qs.map attempt)).Gets s c (.ofChar 'a') d ∧
      ∃ p ∈ qs, ∃ a d, p.Gets s c a d := by
  intro c d s other letters ps qs
  have nonempty : ps ≠ [] := by simp [ps]
  have replies : ∀ p ∈ qs, ∃ reply, (p.run s c).ending = .done reply := by
    intro p mem
    simp only [qs, List.mem_cons, List.not_mem_nil, or_false] at mem
    rcases mem with rfl | rfl | rfl <;> exact ⟨_, rfl⟩
  have got : (choice (qs.map attempt)).Gets s c (.ofChar 'a') d := rfl
  obtain ⟨decided, -, -, attempts⟩ := choice_commits (α := Value) s c
  exact ⟨nonempty, decided ps nonempty, rfl, by decide +kernel, replies, got,
    (attempts qs replies).1.1 ⟨_, _, got⟩⟩

end Parser

end ParserCombinators
