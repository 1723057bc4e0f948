import Mathlib.Tactic.Common
import ParserCombinators.Proofs.Parser.Reply
import ParserCombinators.Proofs.Rounds

/-!
# Rounds of repetitions

What one round of a repetition does, read off the replies of the parsers in it: whether it is
followed by another round, and from which state, or stops the loop with the reply of the repetition.

## Main results

* `Parser.goesOn_manyRound_iff`, `Parser.stops_manyRound_ok_iff` — items.
* `Parser.goesOn_sepEndByRound_iff`, `Parser.stops_sepEndByRound_ok_iff` — separators and items.
* `Parser.goesOn_tillRound_iff`, `Parser.stops_tillRound_ok_iff`,
  `Parser.stops_tillRound_error_iff` — items up to an end.
-/

set_option autoImplicit false

namespace ParserCombinators

namespace Parser

variable {α β : Type} {p : Parser α} {s : Settings} {c d start : Cursor} {a : α} {e : ParseError}

/-- Values are added to an array in order. -/
lemma toList_foldl_push (items : Array α) (as : List α) :
    (as.foldl Array.push items).toList = items.toList ++ as := by
  rw [List.foldl_push_eq_append']
  simp

/-! ## Items -/

section Many

variable {push : β → α → β} {collected collected' : β}

/-- After a value that moved, another round follows from where it stopped. -/
lemma goesOn_manyRound (got : p.Gets s c a d) (moves : d.offset ≠ c.offset) :
    Run.GoesOn (manyRound push p start s) (c, collected) (d, push collected a) := by
  rw [Run.goesOn_iff_meets, meets_manyRound, Run.meets_of_ending_eq got]
  simp only [moves, if_false]

/-- After a value that did not move, the loop fails where it was told that it began. -/
lemma stops_manyRound_stays (got : p.Gets s c a d) (stays : d.offset = c.offset) :
    Run.Stops (manyRound push p start s) (c, collected) (.error start noProgress) := by
  rw [Run.stops_iff_meets, meets_manyRound, Run.meets_of_ending_eq got]
  simp only [stays, if_true]

/-- After a failure that did not move, the loop has collected all. -/
lemma stops_manyRound_missed (failed : p.Fails s c d e) (same : d.offset = c.offset) :
    Run.Stops (manyRound push p start s) (c, collected) (.ok collected c) := by
  rw [Run.stops_iff_meets, meets_manyRound, Run.meets_of_ending_eq failed]
  simp only [same, if_true]

/-- After a failure that moved, that failure is the reply of the loop. -/
lemma stops_manyRound_failed (failed : p.Fails s c d e) (moved : d.offset ≠ c.offset) :
    Run.Stops (manyRound push p start s) (c, collected) (.error d e) := by
  rw [Run.stops_iff_meets, meets_manyRound, Run.meets_of_ending_eq failed]
  simp only [moved, if_false]

/-- Another round follows only after a value that moved. -/
lemma goesOn_manyRound_iff :
    Run.GoesOn (manyRound push p start s) (c, collected) (d, collected') ↔
      ∃ a, p.Gets s c a d ∧ d.offset ≠ c.offset ∧ collected' = push collected a := by
  constructor
  · intro goesOn
    rw [Run.goesOn_iff_meets, meets_manyRound, ← Run.exists_done_iff_meets] at goesOn
    obtain ⟨⟨a, next⟩ | ⟨next, e⟩, ending, outcome⟩ := goesOn
    · by_cases stays : next.offset = c.offset
      · simp [stays] at outcome
      · simp only [stays, if_false, Run.Round.again.injEq, Prod.mk.injEq] at outcome
        obtain ⟨rfl, rfl⟩ := outcome
        exact ⟨a, ending, stays, rfl⟩
    · by_cases same : next.offset = c.offset <;> simp [same] at outcome
  · rintro ⟨a, got, moves, rfl⟩
    exact goesOn_manyRound got moves

/-- The loop succeeds only after a failure that did not move, where it is. -/
lemma stops_manyRound_ok_iff :
    Run.Stops (manyRound push p start s) (c, collected) (.ok collected' d) ↔
      p.Misses s c ∧ collected' = collected ∧ d = c := by
  constructor
  · intro stops
    rw [Run.stops_iff_meets, meets_manyRound, ← Run.exists_done_iff_meets] at stops
    obtain ⟨⟨a, next⟩ | ⟨next, e⟩, ending, outcome⟩ := stops
    · by_cases stays : next.offset = c.offset <;> simp [stays] at outcome
    · by_cases same : next.offset = c.offset
      · simp only [same, if_true, Run.Round.stop.injEq, Reply.ok.injEq] at outcome
        exact ⟨⟨next, e, ending, same⟩, outcome.1.symm, outcome.2.symm⟩
      · simp [same] at outcome
  · rintro ⟨⟨next, e, failed, same⟩, rfl, rfl⟩
    exact stops_manyRound_missed failed same

end Many

/-! ## Separators and items -/

section SepEndBy

variable {sep : Parser β} {items items' : Array α} {as : List α}

/-- Another round follows exactly after a separator and an item that moved together. -/
lemma goesOn_sepEndByRound_iff :
    Run.GoesOn (sepEndByRound p sep start s) (c, items) (d, items') ↔
      ∃ a, (sep.andThen p).Gets s c a d ∧ d.offset ≠ c.offset ∧ items' = items.push a := by
  simp only [gets_andThen_iff]
  rw [Run.goesOn_iff_meets, meets_sepEndByRound, ← Run.exists_done_iff_meets]
  constructor
  · rintro ⟨⟨b, m⟩ | ⟨m, e⟩, separator, goesOn⟩
    · obtain ⟨⟨a, next⟩ | ⟨next, e⟩, item, outcome⟩ := (Run.exists_done_iff_meets _ _).2 goesOn
      · by_cases stays : next.offset = c.offset
        · simp [stays] at outcome
        · simp only [stays, if_false, Run.Round.again.injEq, Prod.mk.injEq] at outcome
          obtain ⟨rfl, rfl⟩ := outcome
          exact ⟨a, ⟨m, ⟨b, separator⟩, item⟩, stays, rfl⟩
      · by_cases same : next.offset = m.offset <;> simp [same] at outcome
    · by_cases same : m.offset = c.offset <;> simp [same] at goesOn
  · rintro ⟨a, ⟨m, ⟨b, separator⟩, item⟩, moves, rfl⟩
    refine ⟨.ok b m, separator, (Run.meets_of_ending_eq item).2 ?_⟩
    simp only [moves, if_false]

/-- After a separator and an item that moved together, another round follows from where they
stopped. -/
lemma goesOn_sepEndByRound (got : (sep.andThen p).Gets s c a d) (moves : d.offset ≠ c.offset) :
    Run.GoesOn (sepEndByRound p sep start s) (c, items) (d, items.push a) :=
  goesOn_sepEndByRound_iff.2 ⟨a, got, moves, rfl⟩

/-- The loop succeeds exactly before a separator that fails without consuming, or after one that is
followed by an item that does so. -/
lemma stops_sepEndByRound_ok_iff :
    Run.Stops (sepEndByRound p sep start s) (c, items) (.ok as d) ↔
      as = items.toList ∧ (sep.Misses s c ∧ d = c ∨ sep.Steps s c d ∧ p.Misses s d) := by
  rw [Run.stops_iff_meets, meets_sepEndByRound, ← Run.exists_done_iff_meets]
  constructor
  · rintro ⟨⟨b, m⟩ | ⟨m, e⟩, separator, stops⟩
    · obtain ⟨⟨a, next⟩ | ⟨next, e⟩, item, outcome⟩ := (Run.exists_done_iff_meets _ _).2 stops
      · by_cases stays : next.offset = c.offset <;> simp [stays] at outcome
      · by_cases same : next.offset = m.offset
        · simp only [same, if_true, Run.Round.stop.injEq, Reply.ok.injEq] at outcome
          obtain ⟨rfl, rfl⟩ := outcome
          exact ⟨rfl, .inr ⟨⟨b, separator⟩, next, e, item, same⟩⟩
        · simp [same] at outcome
    · by_cases same : m.offset = c.offset
      · simp only [same, if_true, Run.Round.stop.injEq, Reply.ok.injEq] at stops
        exact ⟨stops.1.symm, .inl ⟨⟨m, e, separator, same⟩, stops.2.symm⟩⟩
      · simp [same] at stops
  · rintro ⟨rfl, ⟨⟨m, e, missed, same⟩, rfl⟩ | ⟨⟨b, separator⟩, next, e, missed, same⟩⟩
    · exact ⟨.error m e, missed, by simp only [same, if_true]⟩
    · refine ⟨.ok b d, separator, (Run.meets_of_ending_eq missed).2 ?_⟩
      simp only [same, if_true]

end SepEndBy

/-! ## Items up to an end -/

section Till

variable {stop : Parser β} {items items' : Array α} {as : List α}

/-- Another round follows exactly where the end fails without consuming, after an item that
moved. -/
lemma goesOn_tillRound_iff :
    Run.GoesOn (tillRound p stop start s) (c, items) (d, items') ↔
      ∃ a, (stop.Misses s c ∧ p.Gets s c a d) ∧ d.offset ≠ c.offset ∧ items' = items.push a := by
  rw [Run.goesOn_iff_meets, meets_tillRound, ← Run.exists_done_iff_meets]
  constructor
  · rintro ⟨⟨b, m⟩ | ⟨m, e⟩, ended, goesOn⟩
    · cases goesOn
    · by_cases same : m.offset = c.offset
      · simp only [same, ne_eq, not_true_eq_false, if_false] at goesOn
        obtain ⟨⟨a, next⟩ | ⟨next, e'⟩, item, outcome⟩ := (Run.exists_done_iff_meets _ _).2 goesOn
        · by_cases stays : next.offset = c.offset
          · simp [stays] at outcome
          · simp only [stays, if_false, Run.Round.again.injEq, Prod.mk.injEq] at outcome
            obtain ⟨rfl, rfl⟩ := outcome
            exact ⟨a, ⟨⟨m, e, ended, same⟩, item⟩, stays, rfl⟩
        · cases outcome
      · simp [same] at goesOn
  · rintro ⟨a, ⟨⟨m, e, missed, same⟩, item⟩, moves, rfl⟩
    refine ⟨.error m e, missed, ?_⟩
    simp only [same, ne_eq, not_true_eq_false, if_false]
    refine (Run.meets_of_ending_eq item).2 ?_
    simp only [moves, if_false]

/-- The loop succeeds exactly with the end. -/
lemma stops_tillRound_ok_iff :
    Run.Stops (tillRound p stop start s) (c, items) (.ok as d) ↔
      as = items.toList ∧ stop.Steps s c d := by
  rw [Run.stops_iff_meets, meets_tillRound, ← Run.exists_done_iff_meets]
  constructor
  · rintro ⟨⟨b, m⟩ | ⟨m, e⟩, ended, stops⟩
    · cases stops
      exact ⟨rfl, b, ended⟩
    · by_cases same : m.offset = c.offset
      · simp only [same, ne_eq, not_true_eq_false, if_false] at stops
        obtain ⟨⟨a, next⟩ | ⟨next, e'⟩, item, outcome⟩ := (Run.exists_done_iff_meets _ _).2 stops
        · by_cases stays : next.offset = c.offset <;> simp [stays] at outcome
        · cases outcome
      · simp [same] at stops
  · rintro ⟨rfl, b, ended⟩
    exact ⟨.ok b d, ended, rfl⟩

/-- The loop fails exactly as the end does after consuming; and where the end fails without
consuming, as the item does, with one message more, or for lack of progress. -/
lemma stops_tillRound_error_iff :
    Run.Stops (tillRound p stop start s) (c, items) (.error d e) ↔
      stop.Fails s c d e ∧ d.offset ≠ c.offset ∨
      stop.Misses s c ∧
        ((∃ e', p.Fails s c d e' ∧ e = e'.withContext neitherMatched) ∨
          d = start ∧ e = noProgress ∧ ∃ a m, p.Gets s c a m ∧ m.offset = c.offset) := by
  rw [Run.stops_iff_meets, meets_tillRound, ← Run.exists_done_iff_meets]
  constructor
  · rintro ⟨⟨b, m⟩ | ⟨m, e'⟩, ended, stops⟩
    · cases stops
    · by_cases same : m.offset = c.offset
      · simp only [same, ne_eq, not_true_eq_false, if_false] at stops
        refine .inr ⟨⟨m, e', ended, same⟩, ?_⟩
        obtain ⟨⟨a, next⟩ | ⟨next, e''⟩, item, outcome⟩ := (Run.exists_done_iff_meets _ _).2 stops
        · by_cases stays : next.offset = c.offset
          · simp only [stays, if_true, Run.Round.stop.injEq, Reply.error.injEq] at outcome
            exact .inr ⟨outcome.1.symm, outcome.2.symm, a, next, item, stays⟩
          · simp [stays] at outcome
        · cases outcome
          exact .inl ⟨e'', item, rfl⟩
      · simp only [ne_eq, same, not_false_eq_true, if_true, Run.Round.stop.injEq,
          Reply.error.injEq] at stops
        obtain ⟨rfl, rfl⟩ := stops
        exact .inl ⟨ended, same⟩
  · rintro (⟨failed, consumed⟩ | ⟨⟨m, e', missed, same⟩, outcome⟩)
    · refine ⟨.error d e, failed, ?_⟩
      simp only [ne_eq, consumed, not_false_eq_true, if_true]
    · refine ⟨.error m e', missed, ?_⟩
      simp only [same, ne_eq, not_true_eq_false, if_false]
      obtain ⟨e'', item, rfl⟩ | ⟨rfl, rfl, a, next, item, stays⟩ := outcome
      · exact (Run.meets_of_ending_eq item).2 rfl
      · refine (Run.meets_of_ending_eq item).2 ?_
        simp only [stays, if_true]

end Till

end Parser

end ParserCombinators
