import ParserCombinators.Proofs.Repetition.Family
import ParserCombinators.Proofs.Repetition.Trail

/-!
# Rounds that do not move

A round of a repetition that succeeds where it began would be repeated for ever, so it stops the
loop with an error. The loop reports it where it was told that it began, and that is not always
where the repetition began: `sepBy1` reads its first item before the loop of `many`, so the error
is behind that item. Nor does the error always come out: `sepBy` and `sepEndBy` are alternatives to
no items at all, so an error that is reported where they began is dropped.

## Main definitions

* `Parser.Stalls` — after so many rounds that move there is one that does not.
* `Parser.Guarded` — a loop that stops with an error at a round that does not move.
* `Repetition.whenStalled` — the reply of a repetition whose loop stalls.

## Main results

* `Parser.Guarded.ending_iterate` — a guarded loop reports the round that does not move.
* `Repetition.ending_of_stalls` — the replies of the twelve repetitions; they are not alike.
-/

set_option autoImplicit false

namespace ParserCombinators

/-! ## Guarded loops -/

namespace Parser

variable {α β σ : Type}

/-- After `n` rounds that succeed and move, the first from `b`, there is one that succeeds and does
not; `R` says when a round succeeds. -/
def Stalls (R : Cursor → Cursor → Prop) (n : Nat) (b : Cursor) : Prop :=
  ∃ m d, InRounds (fun m d => R m d ∧ d.offset ≠ m.offset) n b m ∧ R m d ∧ d.offset = m.offset

/-- A loop over rounds that succeed as `R` says: a round that moves is followed by another, and one
that does not move stops the loop with an error at `start`. -/
structure Guarded (R : Cursor → Cursor → Prop) (start : Cursor)
    (round : Cursor × σ → Run (Run.Round (Cursor × σ) (Reply β))) : Prop where
  /-- A round that moves is followed by one from where it stopped. -/
  goesOn {m d : Cursor} (succeeds : R m d) (moves : d.offset ≠ m.offset) (x : σ) :
    ∃ y, Run.GoesOn round (m, x) (d, y)
  /-- A round that does not move is the last one. -/
  stops {m d : Cursor} (succeeds : R m d) (stays : d.offset = m.offset) (x : σ) :
    Run.Stops round (m, x) (.error start noProgress)

/-- After any number of rounds that moved, a guarded loop reports a round that does not move where
the loop was told that it began. -/
lemma Guarded.ending_iterate {R : Cursor → Cursor → Prop} {start b : Cursor}
    {round : Cursor × σ → Run (Run.Round (Cursor × σ) (Reply β))} (h : Guarded R start round)
    {n fuel : Nat} (stalls : Stalls R n b) (enough : n < fuel) (x : σ) :
    (Run.iterate round fuel (b, x)).ending = .done (.error start noProgress) := by
  obtain ⟨m, d, path, succeeds, stays⟩ := stalls
  obtain ⟨y, rounds⟩ := path.lift (fun m d step => h.goesOn step.1 step.2) x
  exact Run.ending_iterate_eq_done rounds (h.stops succeeds stays y) enough

variable (p : Parser α) (q : Parser β) (start : Cursor) (s : Settings)

/-- The loop of the repetitions of one parser is guarded. -/
lemma guarded_manyRound (push : β → α → β) :
    Guarded (p.Steps s) start (manyRound push p start s) where
  goesOn := by
    rintro m d ⟨a, got⟩ moves x
    exact ⟨push x a, goesOn_manyRound got moves⟩
  stops := by
    rintro m d ⟨a, got⟩ stays x
    exact stops_manyRound_stays got stays

/-- The loop of separators and items is guarded: a round is a separator and an item. -/
lemma guarded_sepEndByRound :
    Guarded ((q.andThen p).Steps s) start (sepEndByRound p q start s) where
  goesOn := by
    rintro m d ⟨a, got⟩ moves items
    exact ⟨items.push a, goesOn_sepEndByRound_iff.2 ⟨a, got, moves, rfl⟩⟩
  stops := by
    rintro m d ⟨a, got⟩ stays items
    obtain ⟨m', ⟨b, separator⟩, item⟩ := (gets_andThen_iff _ _ _).1 got
    rw [Run.stops_iff_meets, meets_sepEndByRound, Run.meets_of_ending_eq separator]
    refine (Run.meets_of_ending_eq item).2 ?_
    simp only [stays, if_true]

/-- The loop of items up to an end is guarded: a round is an item where the end fails without
consuming. -/
lemma guarded_tillRound :
    Guarded (fun m d => q.Misses s m ∧ p.Steps s m d) start (tillRound p q start s) where
  goesOn := by
    rintro m d ⟨missed, a, item⟩ moves items
    exact ⟨items.push a, goesOn_tillRound_iff.2 ⟨a, ⟨missed, item⟩, moves, rfl⟩⟩
  stops := by
    rintro m d ⟨missed, a, item⟩ stays items
    exact stops_tillRound_error_iff.2 (.inr ⟨missed, .inr ⟨rfl, rfl, a, d, item, stays⟩⟩)

end Parser

/-! ## Replies -/

namespace Repetition

open ParserCombinators.Parser

variable {α β : Type} {p : Parser α} {q : Parser β} {s : Settings} {c b : Cursor} {n : Nat}

/-- What a repetition at `c` replies if a round of its loop, which began at `b`, does not move. Nine
of the twelve report it where they began. `sepBy1` reports it where its loop began, so `sepBy` does
so if the first item consumed, and finds no items if it did not; `sepEndBy` always finds none. -/
def whenStalled (c b : Cursor) : (k : Repetition) → Reply (k.Collected α)
  | many | many1 | skipMany | skipMany1 | endBy | endBy1 | sepEndBy1 | manyTill
  | many1Till => .error c noProgress
  | sepBy1 => .error b noProgress
  | sepBy => if b.offset = c.offset then .ok ([] : List α) c else .error b noProgress
  | sepEndBy => .ok ([] : List α) c

variable {γ : Type}

/-- Items: the error is where the repetition began. -/
lemma fails_manyInto (stalls : Stalls (p.Steps s) n c) (enough : n < s.fuel) (empty : γ)
    (push : γ → α → γ) : (manyInto empty push p).Fails s c c noProgress :=
  (guarded_manyRound p c s push).ending_iterate stalls enough empty

/-- At least one item: the error is before the first of them. -/
lemma fails_many1Into (first : p.Steps s c b) (stalls : Stalls (p.Steps s) n b)
    (enough : n < s.fuel) (empty : γ) (push : γ → α → γ) :
    (many1Into empty push p).Fails s c c noProgress := by
  obtain ⟨a, got⟩ := first
  exact (Run.ending_bind_of_done got _).trans
    ((guarded_manyRound p c s push).ending_iterate stalls enough _)

/-- Items with separators between them: the error is behind the first item. -/
lemma fails_sepBy1 (first : p.Steps s c b) (stalls : Stalls ((q.andThen p).Steps s) n b)
    (enough : n < s.fuel) : (Parser.sepBy1 p q).Fails s c b noProgress := by
  obtain ⟨a, got⟩ := first
  rw [sepBy1_eq_bind, Fails, got.ending_bind]
  exact ((fails_manyInto stalls enough _ _).map _).map _

/-- Items with separators between them and possibly after the last: the error is before the first
item. -/
lemma fails_sepEndBy1 (first : p.Steps s c b) (stalls : Stalls ((q.andThen p).Steps s) n b)
    (enough : n < s.fuel) : (Parser.sepEndBy1 p q).Fails s c c noProgress := by
  obtain ⟨a, got⟩ := first
  exact (Run.ending_bind_of_done got _).trans
    ((guarded_sepEndByRound p q c s).ending_iterate stalls enough _)

/-- Items up to an end: the error is where the repetition began, also if an item is read before the
loop. -/
lemma ending_till (stalls : Stalls (fun m d => q.Misses s m ∧ p.Steps s m d) n b)
    (enough : n < s.fuel) (items : Array α) :
    (Run.iterate (tillRound p q c s) s.fuel (b, items)).ending = .done (.error c noProgress) :=
  (guarded_tillRound p q c s).ending_iterate stalls enough items

/-- **What a round that does not move leads to.** If the loop of a repetition, which begins at `b`,
reaches a round that succeeds without moving, however many rounds have moved before, the repetition
does not go on. Nine of the twelve fail where they began, with the message that there was no
progress as their only frame. `sepBy1` fails with it behind its first item; `sepBy` does so too if
that item consumed, and otherwise succeeds with no items; `sepEndBy` succeeds with no items.

**Proof sketch.** All loops are guarded, so each reports the round where it was told that it began
(`Parser.Guarded.ending_iterate`). What remains is where that is, and whether an alternative is
tried there. -/
theorem ending_of_stalls (k : Repetition) (p : Parser α) (q : Parser β) (s : Settings)
    (c b : Cursor) (n : Nat) (begins : k.Begins p q s c b)
    (stalls : Stalls (fun m d => k.Round p q s m d) n b) (enough : n < s.fuel) :
    ((k.parser p q).run s c).ending = .done (k.whenStalled c b) := by
  cases k with
  | many =>
    obtain rfl := begins
    exact (fails_manyInto stalls enough _ _).map _
  | many1 => exact (fails_many1Into begins stalls enough _ _).map _
  | skipMany =>
    obtain rfl := begins
    exact fails_manyInto stalls enough () fun _ _ => ()
  | skipMany1 => exact fails_many1Into begins stalls enough () fun _ _ => ()
  | endBy =>
    obtain rfl := begins
    exact (fails_manyInto stalls enough _ _).map _
  | endBy1 => exact (fails_many1Into begins stalls enough _ _).map _
  | sepBy =>
    have fails := fails_sepBy1 begins stalls enough
    by_cases consumed : b.offset = c.offset
    · simp only [whenStalled, consumed, if_true]
      exact fails.ending_orElse consumed _
    · simp only [whenStalled, consumed, if_false]
      exact fails.orElse consumed _
  | sepBy1 => exact fails_sepBy1 begins stalls enough
  | sepEndBy => exact (fails_sepEndBy1 begins stalls enough).ending_orElse rfl _
  | sepEndBy1 => exact fails_sepEndBy1 begins stalls enough
  | manyTill =>
    obtain rfl := begins
    exact ending_till stalls enough #[]
  | many1Till =>
    obtain ⟨a, got⟩ := begins
    exact (Run.ending_bind_of_done got _).trans (ending_till stalls enough #[a])

/-- Letters that may be missing, with commas between them that may be missing. The comma is there
once; where the next one is missed, the round does not move, and the failure is behind the first
letter. -/
theorem ending_of_stalls_letters :
    let letter : Parser Value := (char 'a').option .none
    let comma : Parser Value := (char ',').option .none
    let s : Settings := ⟨5, false⟩
    let c : Cursor := .plain (.ofValue (.str "a,b"))
    let b : Cursor := ⟨c.input, 1, none⟩
    sepBy1.Begins letter comma s c b ∧
      Stalls (fun m d => sepBy1.Round letter comma s m d) 1 b ∧ 1 < s.fuel ∧
        ((sepBy1.parser letter comma).run s c).ending = .done (sepBy1.whenStalled c b) := by
  intro letter comma s c b
  have begins : sepBy1.Begins letter comma s c b := ⟨_, rfl⟩
  have stalls : Stalls (fun m d => sepBy1.Round letter comma s m d) 1 b :=
    ⟨⟨c.input, 2, none⟩, ⟨c.input, 2, none⟩, .more ⟨⟨_, rfl⟩, by decide⟩ (.none _), ⟨_, rfl⟩, rfl⟩
  have enough : 1 < s.fuel := by decide
  exact ⟨begins, stalls, enough, ending_of_stalls sepBy1 letter comma s c b 1 begins stalls enough⟩

/-- Not all repetitions fail where they began. After a letter, commas and letters that may be
missing are all missing, so the first round does not move. `sepBy1` and `sepBy` fail behind the
letter, and `sepEndBy` succeeds without it. -/
theorem stalled_not_at_start :
    let letter : Parser Value := (char 'a').option .none
    let comma : Parser Value := (char ',').option .none
    let s : Settings := ⟨5, false⟩
    let c : Cursor := .plain (.ofValue (.str "ab"))
    let b : Cursor := ⟨c.input, 1, none⟩
    (∀ k ∈ [sepBy, sepBy1, sepEndBy], k.Begins letter comma s c b ∧
      Stalls (fun m d => k.Round letter comma s m d) 0 b) ∧ b.offset ≠ c.offset ∧
      (Parser.sepBy1 letter comma).Fails s c b noProgress ∧
      (Parser.sepBy letter comma).Fails s c b noProgress ∧
      (Parser.sepEndBy letter comma).Gets s c [] c := by
  intro letter comma s c b
  have round : Stalls ((comma.andThen letter).Steps s) 0 b := ⟨b, b, .none _, ⟨_, rfl⟩, rfl⟩
  refine ⟨fun k mem => ?_, by decide, rfl, rfl, rfl⟩
  simp only [List.mem_cons, List.not_mem_nil, or_false] at mem
  rcases mem with rfl | rfl | rfl <;> exact ⟨⟨_, rfl⟩, round⟩

end Repetition

end ParserCombinators
