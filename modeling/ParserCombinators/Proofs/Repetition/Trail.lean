import Mathlib.Tactic.Common
import ParserCombinators.Parser.Character
import ParserCombinators.Proofs.Parser.Steady
import ParserCombinators.Proofs.Repetition.Rounds

/-!
# What a repetition collects

A steady parser, run again and again from where it stopped, leaves a trail of values and cursors.
The trail moves with every value and leads to a cursor where the parser fails or succeeds without
moving; there is one such trail from every cursor. `many` follows it to its end and collects its
values, and what the parser does at the end decides the reply.

## Main definitions

* `Parser.Trail` — values that a parser gives one after the other, moving each time.
* `Parser.Halts` — a trail cannot go on: the parser fails, or succeeds without moving.

## Main results

* `Parser.Trail.unique`, `Parser.Steady.exists_trail` — there is exactly one trail that halts.
* `Parser.many_follows_trail` — the reply of `many` and `many1` in terms of the trail.
-/

set_option autoImplicit false

namespace ParserCombinators

namespace Parser

variable {α β γ : Type} {p : Parser α} {s : Settings} {c d m : Cursor} {a : α}
  {steps steps' : List (α × Cursor)}

/-! ## Trails -/

/-- The parser gives values one after the other, the first from `c`, each from where the one before
stopped and further on; the last one stops at `d`. -/
inductive Trail (p : Parser α) (s : Settings) : Cursor → List (α × Cursor) → Cursor → Prop
  /-- No value has been given. -/
  | nil (c : Cursor) : Trail p s c [] c
  /-- A first value, and then the others. -/
  | cons {c m d : Cursor} {a : α} {steps : List (α × Cursor)} (first : p.Gets s c a m)
    (moves : c.offset < m.offset) (others : Trail p s m steps d) :
    Trail p s c ((a, m) :: steps) d

/-- A trail cannot go on from `c`: the parser fails there, or succeeds without moving. -/
def Halts (p : Parser α) (s : Settings) (c : Cursor) : Prop :=
  (∃ d e, p.Fails s c d e) ∨ ∃ a d, p.Gets s c a d ∧ d.offset = c.offset

/-- A parser that moves onward stays at the very cursor where it began, or is further on. -/
lemma Onward.stays_or_moves (h : p.Onward) (got : p.Gets s c a d) : d = c ∨ c.offset < d.offset :=
  Cursor.Reaches.eq_or_offset_lt ((Run.meets_of_ending_eq got).1 (h s c))

/-- Where a trail goes on, it does not halt. -/
lemma Halts.not_moves (h : p.Halts s c) (got : p.Gets s c a d) : ¬ c.offset < d.offset := by
  rcases h with ⟨d', e, failed⟩ | ⟨b, d', got', stays⟩
  · cases got.symm.trans failed
  · obtain ⟨-, rfl⟩ := got.unique got'
    omega

/-- **Two trails that halt are the same.**

**Proof sketch.** Induction on the first trail. Where one of them goes on the other does, too, with
the same value, for a run has one reply. -/
lemma Trail.unique {d' : Cursor} (h : p.Trail s c steps d) (halts : p.Halts s d)
    (h' : p.Trail s c steps' d') (halts' : p.Halts s d') : steps' = steps ∧ d' = d := by
  induction h generalizing steps' with
  | nil c =>
    cases h' with
    | nil => exact ⟨rfl, rfl⟩
    | cons first moves others => exact absurd moves (halts.not_moves first)
  | cons first moves others ih =>
    cases h' with
    | nil => exact absurd moves (halts'.not_moves first)
    | cons first' moves' others' =>
      obtain ⟨rfl, rfl⟩ := first.unique first'
      obtain ⟨rfl, rfl⟩ := ih halts others'
      exact ⟨rfl, rfl⟩

/-- A trail of a steady parser takes no more steps than there are symbols. -/
lemma Trail.length_add_remaining_le {input : Input} (h : p.Trail s c steps d)
    (steady : p.Steady s input) (within : c.input = input) :
    steps.length + d.remaining ≤ c.remaining := by
  induction h with
  | nil c => simp
  | cons first moves others ih =>
    have before := steady.precedes within ⟨_, first⟩
    have less := before.remaining_lt (Nat.ne_of_gt moves)
    have rest := ih (before.input_eq.trans within)
    rw [List.length_cons]
    omega

/-- **A steady parser leaves a trail that halts.**

**Proof sketch.** Induction on what is left of the input: either the parser halts at once, or it
gives a value further on, from where less is left. -/
lemma Steady.exists_trail {input : Input} (steady : p.Steady s input) (c : Cursor)
    (within : c.input = input) : ∃ steps d, p.Trail s c steps d ∧ p.Halts s d := by
  obtain ⟨reply, ending, before⟩ := (steady c within).exists_reply
  cases reply with
  | error d e => exact ⟨[], c, .nil c, .inl ⟨d, e, ending⟩⟩
  | ok a m =>
    by_cases stays : m.offset = c.offset
    · exact ⟨[], c, .nil c, .inr ⟨a, m, ending, stays⟩⟩
    · have less := before.remaining_lt stays
      obtain ⟨steps, d, others, halts⟩ := steady.exists_trail m (before.input_eq.trans within)
      have moves := Nat.lt_of_le_of_ne before.offset_le (Ne.symm stays)
      exact ⟨(a, m) :: steps, d, .cons ending moves others, halts⟩
termination_by c.remaining

/-! ## Along a trail -/

/-- The rounds of a loop follow a trail and collect its values, if each value that moved is followed
by another round. -/
lemma Trail.inRounds {round : Cursor × β → Run (Run.Round (Cursor × β) γ)} {push : β → α → β}
    (goesOn : ∀ {m d a x}, p.Gets s m a d → d.offset ≠ m.offset →
      Run.GoesOn round (m, x) (d, push x a))
    (h : p.Trail s c steps d) (collected : β) :
    InRounds (Run.GoesOn round) steps.length (c, collected)
      (d, (steps.map Prod.fst).foldl push collected) := by
  induction h generalizing collected with
  | nil c => exact .none _
  | cons first moves others ih => exact .more (goesOn first (Nat.ne_of_gt moves)) (ih _)

/-- Where a trail halts, the loop stops. -/
lemma Halts.exists_stops (h : p.Halts s d) (start : Cursor) (push : β → α → β) (collected : β) :
    ∃ reply, Run.Stops (manyRound push p start s) (d, collected) reply := by
  rcases h with ⟨d', e, failed⟩ | ⟨a, d', got, stays⟩
  · by_cases same : d'.offset = d.offset
    · exact ⟨_, stops_manyRound_missed failed same⟩
    · exact ⟨_, stops_manyRound_failed failed same⟩
  · exact ⟨_, stops_manyRound_stays got stays⟩

/-- `many` ends with what stops its loop at the end of a trail. -/
lemma Trail.ending_manyInto (h : p.Trail s c steps d) (enough : steps.length < s.fuel)
    {reply : Reply (Array α)}
    (last : Run.Stops (manyRound Array.push p c s)
      (d, (steps.map Prod.fst).foldl Array.push #[]) reply) :
    ((manyInto #[] Array.push p).run s c).ending = .done reply :=
  Run.ending_iterate_eq_done (h.inRounds goesOn_manyRound #[]) last enough

/-- After a first value that stays at the very cursor or moves, `many1` ends as `many` does.

**Proof sketch.** If the value stays, both fail for lack of progress. If it moves, it is the first
step of a trail that halts, and both loops stop at the end of this trail with the same values. -/
lemma Steady.ending_many1_eq (steady : p.Steady s c.input) (enough : c.remaining < s.fuel)
    (got : p.Gets s c a d) (stays_or_moves : d = c ∨ c.offset < d.offset) :
    ((many1 p).run s c).ending = ((many p).run s c).ending := by
  suffices same : ((many1Into #[] Array.push p).run s c).ending =
      ((manyInto #[] Array.push p).run s c).ending from Run.ending_bind_congr same _
  rcases stays_or_moves with rfl | moves
  · have fails (collected : Array α) :
        (Parser.manyFrom Array.push p d s d collected).ending = .done (.error d noProgress) :=
      Run.ending_iterate_eq_done (.none _) (stops_manyRound_stays got rfl)
        (Nat.zero_lt_of_lt enough)
    exact ((Run.ending_bind_of_done got _).trans (fails _)).trans (fails _).symm
  -- `many` reads this value in its first round, `many1` before it.
  · have before := steady.precedes rfl ⟨a, got⟩
    obtain ⟨steps, end', others, halts⟩ := steady.exists_trail d before.input_eq
    have trail : p.Trail s c ((a, d) :: steps) end' := .cons got moves others
    have bound := trail.length_add_remaining_le steady rfl
    have lasts : ((a, d) :: steps).length < s.fuel := by omega
    obtain ⟨reply, last⟩ := halts.exists_stops c Array.push
      ((((a, d) :: steps).map Prod.fst).foldl Array.push #[])
    have one := Run.ending_iterate_eq_done (others.inRounds goesOn_manyRound #[a]) last
      (Nat.lt_of_succ_lt lasts)
    exact ((Run.ending_bind_of_done got _).trans one).trans (trail.ending_manyInto lasts last).symm

/-- **`many` follows the trail of its parser.** If a parser returns a reply at every cursor and
leads neither back nor past the end, there is exactly one trail from `c` that halts. If the parser
fails without moving at its end `d`, `many` has the values of the trail and stops at `d`. If the
parser fails further on, that failure is the reply of `many`, and the values are lost. If it
succeeds without moving, `many` fails at `c` for lack of progress. If the parser fails at `c`,
`many1` fails with that failure; otherwise it ends as `many` does. That is said of a success at `c`
itself or further on; no other is possible for parsers that move onward
(`Parser.Onward.stays_or_moves`).

**Proof sketch.** The rounds of the loop follow the trail (`Parser.Trail.inRounds`), which has no
more steps than there are symbols left (`Parser.Trail.length_add_remaining_le`), so the fuel lasts
until its end, where what the parser does stops the loop. -/
theorem many_follows_trail (p : Parser α) (s : Settings) (c : Cursor)
    (steady : p.Steady s c.input) (enough : c.remaining < s.fuel) :
    (∃! trail : List (α × Cursor) × Cursor, p.Trail s c trail.1 trail.2 ∧ p.Halts s trail.2) ∧
    (∀ steps d, p.Trail s c steps d →
      (∀ d' e, p.Fails s d d' e → d'.offset = d.offset →
        (many p).Gets s c (steps.map Prod.fst) d) ∧
      (∀ d' e, p.Fails s d d' e → d'.offset ≠ d.offset → (many p).Fails s c d' e) ∧
      ∀ a d', p.Gets s d a d' → d'.offset = d.offset → (many p).Fails s c c noProgress) ∧
    (∀ d e, p.Fails s c d e → (many1 p).Fails s c d e) ∧
    ∀ a d, p.Gets s c a d → (d = c ∨ c.offset < d.offset) →
      ((many1 p).run s c).ending = ((many p).run s c).ending := by
  refine ⟨?_, fun steps d trail => ?_, fun d e failed => ?_, fun a d got moves => ?_⟩
  · obtain ⟨steps, d, trail, halts⟩ := steady.exists_trail c rfl
    refine ⟨(steps, d), ⟨trail, halts⟩, fun other found => ?_⟩
    obtain ⟨same, same'⟩ := trail.unique halts found.1 found.2
    exact Prod.ext same same'
  · have bound := trail.length_add_remaining_le steady rfl
    have lasts : steps.length < s.fuel := by omega
    refine ⟨fun d' e failed same => ?_, fun d' e failed moved => ?_, fun a d' got stays => ?_⟩
    · refine (gets_map_iff _ _ _).2 ⟨_, ?_, (toList_foldl_push #[] _).symm⟩
      exact trail.ending_manyInto lasts (stops_manyRound_missed failed same)
    · exact Fails.map (trail.ending_manyInto lasts (stops_manyRound_failed failed moved)) _
    · exact Fails.map (trail.ending_manyInto lasts (stops_manyRound_stays got stays)) _
  · exact failed.many1
  · exact steady.ending_many1_eq enough got moves

/-- Letters before another character. The trail leads over both letters and halts, and `many` has
collected them there. -/
theorem many_follows_trail_letters :
    let letter : Parser Value := char 'a'
    let s : Settings := ⟨4, false⟩
    let c : Cursor := .plain (.ofValue (.str "aab"))
    let d : Cursor := ⟨c.input, 2, none⟩
    let steps : List (Value × Cursor) := [(.ofChar 'a', ⟨c.input, 1, none⟩), (.ofChar 'a', d)]
    letter.Steady s c.input ∧ c.remaining < s.fuel ∧ letter.Trail s c steps d ∧
      (∃! trail : List (Value × Cursor) × Cursor,
        letter.Trail s c trail.1 trail.2 ∧ letter.Halts s trail.2) ∧
      (many letter).Gets s c [.ofChar 'a', .ofChar 'a'] d ∧
      ((many1 letter).run s c).ending = ((many letter).run s c).ending := by
  intro letter s c d steps
  have steady : letter.Steady s c.input := steady_token _ (fun _ => ⟨_, rfl⟩) (by rfl)
  have enough : c.remaining < s.fuel := by decide
  have first : letter.Gets s c (.ofChar 'a') ⟨c.input, 1, none⟩ := rfl
  have trail : letter.Trail s c steps d :=
    .cons first (by decide) (.cons (by rfl) (by decide) (.nil d))
  obtain ⟨unique, follows, -, agrees⟩ := many_follows_trail letter s c steady enough
  exact ⟨steady, enough, trail, unique, (follows steps d trail).1 d _ rfl rfl,
    agrees _ _ first ((onward_token _ _).stays_or_moves first)⟩

end Parser

end ParserCombinators
