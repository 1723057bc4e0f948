import ParserCombinators.Grammar.Character
import ParserCombinators.Proofs.Grammar.Onward
import ParserCombinators.Proofs.Repetition.Resume

/-!
# Items that separators come between or after

Items can have separators between them, one after each, or either. The three repetitions cut their
rounds differently: a round is a separator and an item, or an item and a separator. A sequence of
items and separators that ends with a separator can be cut in both ways. So if an item always
consumes, the third repetition succeeds exactly where one of the others does, and then in the same
way.

## Main definitions

* `Parser.Consumes` — a parser does not succeed without consuming.

## Main results

* `Parser.gets_sepBy1_iff`, `Parser.gets_endBy1_iff`, `Parser.gets_sepEndBy1_iff` — the successes of
  the three repetitions, by trails.
* `Parser.trail_andThen_iff_trail_followedBy` — the two ways to cut items and separators.
* `Parser.misses_andThen_iff`, `Parser.misses_followedBy_iff` — where the rounds stop.
* `Grammar.sepEndBy1_is_union` — the third repetition is the union of the others.
-/

set_option autoImplicit false

namespace ParserCombinators

namespace Parser

variable {α β : Type} {p : Parser α} {sep : Parser β} {s : Settings} {c d : Cursor} {as : List α}

/-- The parser does not succeed without consuming. -/
def Consumes (p : Parser α) (s : Settings) : Prop :=
  ∀ c a d, p.Gets s c a d → d.offset ≠ c.offset

/-! ## Successes -/

/-- Items with separators between them succeed with a first item and the trail of separators and
items after it, where that cannot go on. -/
lemma gets_sepBy1_iff (forward : (sep.andThen p).Forward s) :
    (sepBy1 p sep).Gets s c as d ↔ ∃ a m steps, p.Gets s c a m ∧
      (sep.andThen p).Trail s m steps d ∧ (sep.andThen p).Misses s d ∧
      as = a :: steps.map Prod.fst ∧ steps.length < s.fuel := by
  simp only [sepBy1_eq_bind, gets_bind_iff, gets_map_iff, forward.gets_many_iff]
  constructor
  · rintro ⟨a, m, first, _, ⟨steps, trail, missed, rfl, enough⟩, rfl⟩
    exact ⟨a, m, steps, first, trail, missed, rfl, enough⟩
  · rintro ⟨a, m, steps, first, trail, missed, rfl, enough⟩
    exact ⟨a, m, first, _, ⟨steps, trail, missed, rfl, enough⟩, rfl⟩

/-- Items with a separator after each succeed with a first item, its separator, and the trail of
items and separators after it, where that cannot go on. -/
lemma gets_endBy1_iff (forward : (p.followedBy sep).Forward s) :
    (endBy1 p sep).Gets s c as d ↔ ∃ a m m' steps, p.Gets s c a m ∧ sep.Steps s m m' ∧
      (p.followedBy sep).Trail s m' steps d ∧ (p.followedBy sep).Misses s d ∧
      as = a :: steps.map Prod.fst ∧ steps.length < s.fuel := by
  simp only [endBy1, forward.gets_many1_iff, gets_followedBy_iff]
  constructor
  · rintro ⟨a, m', steps, ⟨m, first, separator⟩, others⟩
    exact ⟨a, m, m', steps, first, separator, others⟩
  · rintro ⟨a, m, m', steps, first, separator, others⟩
    exact ⟨a, m', steps, ⟨m, first, separator⟩, others⟩

/-- Items with separators between them, and possibly one after the last, succeed with a first item
and the trail of separators and items after it, up to a separator that fails without consuming, or
behind one that is followed by an item that does so. -/
lemma gets_sepEndBy1_iff (forward : (sep.andThen p).Forward s) :
    (sepEndBy1 p sep).Gets s c as d ↔ ∃ a m steps m', p.Gets s c a m ∧
      (sep.andThen p).Trail s m steps m' ∧
      (sep.Misses s m' ∧ d = m' ∨ sep.Steps s m' d ∧ p.Misses s d) ∧
      as = a :: steps.map Prod.fst ∧ steps.length < s.fuel := by
  constructor
  · intro got
    obtain ⟨⟨a, m⟩ | ⟨m, e⟩, first, others⟩ := (Run.ending_bind_eq_done_iff _ _ _).1 got
    · obtain ⟨k, ⟨m', items⟩, path, last, enough⟩ := Run.ending_iterate_eq_done_iff.1 others
      obtain ⟨rfl, ends⟩ := stops_sepEndByRound_ok_iff.1 last
      obtain ⟨steps, trail, rfl, rfl⟩ := forward.exists_trail goesOn_sepEndByRound_iff.1 path
      exact ⟨a, m, steps, m', first, trail, ends, toList_foldl_push _ _, enough⟩
    · cases others
  · rintro ⟨a, m, steps, m', first, trail, ends, rfl, enough⟩
    refine (Run.ending_bind_of_done first _).trans (Run.ending_iterate_eq_done_iff.2 ?_)
    exact ⟨_, _, trail.inRounds goesOn_sepEndByRound #[a],
      stops_sepEndByRound_ok_iff.2 ⟨(toList_foldl_push #[a] _).symm, ends⟩, enough⟩

/-! ## Where the rounds are cut -/

/-- **Two ways to cut.** Separators and items in turn, and a separator after the last item, are a
separator, and items and separators in turn after it. For that nothing goes back and an item
consumes, so all rounds move in both ways.

**Proof sketch.** Induction on the trail, from left to right in either direction: what follows a
separator is an item with what follows it, or nothing. -/
lemma trail_andThen_iff_trail_followedBy (hp : p.Forward s) (hsep : sep.Forward s)
    (consumes : p.Consumes s) :
    (∃ m steps, (sep.andThen p).Trail s c steps m ∧ sep.Steps s m d ∧
        as = steps.map Prod.fst) ↔
      ∃ m steps, sep.Steps s c m ∧ (p.followedBy sep).Trail s m steps d ∧
        as = steps.map Prod.fst := by
  constructor
  · rintro ⟨m, steps, trail, last, rfl⟩
    induction trail with
    | nil c => exact ⟨d, [], last, .nil d, rfl⟩
    | @cons c k m a steps head moves others ih =>
      obtain ⟨y, separator, item⟩ := (gets_andThen_iff _ _ _).1 head
      obtain ⟨z, steps', after, trail', same⟩ := ih last
      have forward : y.offset < z.offset :=
        Nat.lt_of_lt_of_le (hp.offset_lt item (consumes y a k item)) (hsep.offset_le after)
      have round : (p.followedBy sep).Gets s y a z := (gets_followedBy_iff _ _ _).2 ⟨k, item, after⟩
      exact ⟨y, (a, z) :: steps', separator, .cons round forward trail', by simp [same]⟩
  · rintro ⟨m, steps, first, trail, rfl⟩
    induction trail generalizing c with
    | nil d => exact ⟨c, [], .nil c, first, rfl⟩
    | @cons y z d a steps head moves others ih =>
      obtain ⟨k, item, after⟩ := (gets_followedBy_iff _ _ _).1 head
      obtain ⟨m, steps', trail', last, same⟩ := ih after
      have forward : c.offset < k.offset :=
        Nat.lt_of_le_of_lt (hsep.offset_le first) (hp.offset_lt item (consumes y a k item))
      have round : (sep.andThen p).Gets s c a k := (gets_andThen_iff _ _ _).2 ⟨y, first, item⟩
      exact ⟨m, (a, k) :: steps', .cons round forward trail', last, by simp [same]⟩

/-! ## Where the repetitions stop -/

/-- A separator and an item miss where the separator does, or where the separator stays and the item
misses. -/
lemma misses_andThen_iff (hp : p.Onward) (hsep : sep.Onward) :
    (sep.andThen p).Misses s c ↔ sep.Misses s c ∨ sep.Steps s c c ∧ p.Misses s c := by
  simp only [Misses, fails_andThen_iff]
  constructor
  · rintro ⟨d, e, failed | ⟨m, ⟨b, separator⟩, failed⟩, same⟩
    · exact .inl ⟨d, e, failed, same⟩
    · obtain rfl | moves := hsep.stays_or_moves separator
      · exact .inr ⟨⟨b, separator⟩, d, e, failed, same⟩
      · have := hp.forward s m _ failed
        exact absurd (Nat.lt_of_lt_of_le moves this) (by simp [Reply.cursor, same])
  · rintro (⟨d, e, failed, same⟩ | ⟨separator, d, e, failed, same⟩)
    · exact ⟨d, e, .inl failed, same⟩
    · exact ⟨d, e, .inr ⟨c, separator, failed⟩, same⟩

/-- An item and a separator miss exactly where the item does, if an item consumes. -/
lemma misses_followedBy_iff (hp : p.Forward s) (hsep : sep.Forward s) (consumes : p.Consumes s) :
    (p.followedBy sep).Misses s c ↔ p.Misses s c := by
  simp only [Misses, fails_followedBy_iff]
  constructor
  · rintro ⟨d, e, failed | ⟨m, ⟨a, item⟩, failed⟩, same⟩
    · exact ⟨d, e, failed, same⟩
    · have moves := hp.offset_lt item (consumes c a m item)
      have := hsep m _ failed
      exact absurd (Nat.lt_of_lt_of_le moves this) (by simp [Reply.cursor, same])
  · rintro ⟨d, e, failed, same⟩
    exact ⟨d, e, .inl failed, same⟩

/-- What separators come between succeeds in the same way when one may come after the last item,
too. -/
lemma Gets.sepEndBy1 (hp : p.Onward) (hsep : sep.Onward) (got : (sepBy1 p sep).Gets s c as d) :
    (sepEndBy1 p sep).Gets s c as d := by
  have forward := (hsep.andThen hp).forward s
  obtain ⟨a, m, steps, first, trail, missed, all, enough⟩ := (gets_sepBy1_iff forward).1 got
  refine (gets_sepEndBy1_iff forward).2 ⟨a, m, steps, d, first, trail, ?_, all, enough⟩
  obtain missed | ⟨separator, missed⟩ := (misses_andThen_iff hp hsep).1 missed
  · exact .inl ⟨missed, rfl⟩
  · exact .inr ⟨separator, missed⟩

/-- If an item consumes, separators that come between the items, and possibly after the last, come
between them or after each.

**Proof sketch.** The repetition has stopped at a separator that misses, where the first of the
others stops, too, or behind a separator at an item that misses. In that case its trail is cut in
the other way. -/
lemma gets_sepEndBy1_iff_or (hp : p.Onward) (hsep : sep.Onward) (consumes : p.Consumes s) :
    (sepEndBy1 p sep).Gets s c as d ↔
      (sepBy1 p sep).Gets s c as d ∨ (endBy1 p sep).Gets s c as d := by
  have forward := (hsep.andThen hp).forward s
  have forward' := (hp.followedBy hsep).forward s
  constructor
  · intro got
    obtain ⟨a, m, steps, m', first, trail, ends, rfl, enough⟩ := (gets_sepEndBy1_iff forward).1 got
    obtain ⟨missed, rfl⟩ | ⟨last, missed⟩ := ends
    · refine .inl ((gets_sepBy1_iff forward).2 ⟨a, m, steps, first, trail, ?_, rfl, enough⟩)
      exact (misses_andThen_iff hp hsep).2 (.inl missed)
    -- Behind a separator at the end: the same items, cut so that every round ends with one.
    · obtain ⟨y, steps', separator, trail', same⟩ :=
        (trail_andThen_iff_trail_followedBy (hp.forward s) (hsep.forward s) consumes).1
          ⟨m', steps, trail, last, rfl⟩
      have lengths : steps'.length = steps.length := by simpa using (congrArg List.length same).symm
      refine .inr ((gets_endBy1_iff forward').2 ⟨a, m, y, steps', first, separator, trail',
        (misses_followedBy_iff (hp.forward s) (hsep.forward s) consumes).2 missed, by rw [same],
        lengths ▸ enough⟩)
  · rintro (got | got)
    · exact got.sepEndBy1 hp hsep
    · obtain ⟨a, m, y, steps, first, separator, trail, missed, rfl, enough⟩ :=
        (gets_endBy1_iff forward').1 got
      obtain ⟨m', steps', trail', last, same⟩ :=
        (trail_andThen_iff_trail_followedBy (hp.forward s) (hsep.forward s) consumes).2
          ⟨y, steps, separator, trail, rfl⟩
      have lengths : steps'.length = steps.length := by simpa using (congrArg List.length same).symm
      refine (gets_sepEndBy1_iff forward).2 ⟨a, m, steps', m', first, trail',
        .inr ⟨last, (misses_followedBy_iff (hp.forward s) (hsep.forward s) consumes).1 missed⟩,
        by rw [same], lengths ▸ enough⟩

end Parser

namespace Grammar

/-- A grammar gives what its parser gives when its names stand for theirs. -/
lemma gets_parserUnder_iff (naming : Naming) (g : Grammar) {s : Settings} {c d : Cursor}
    {v : Value} : (g.parserUnder naming).Gets s c v d ↔
      (g.toParser (naming.parserOf s.fuel)).Gets s c v d :=
  Iff.rfl

/-- **Union of the repetitions with separators.** If an item never succeeds without consuming, items
with separators between them and possibly one after the last succeed with a value at a cursor
exactly if items with separators between them, or items with one after each, succeed with this value
at this cursor. Separators may be empty. Where items with separators between them succeed, that a
separator may come after the last does not change the reply, whatever an item consumes.

**Proof sketch.** The grammars move onward (`Grammar.onward_toParser`), so their parsers can be
compared by the trails of their rounds (`Parser.gets_sepEndBy1_iff_or`, `Parser.Gets.sepEndBy1`). -/
theorem sepEndBy1_is_union (naming : Naming) (p sep : Grammar) (s : Settings) (c : Cursor)
    (v : Value) (d : Cursor) :
    ((p.parserUnder naming).Consumes s →
      (((sepEndBy1 p sep).parserUnder naming).Gets s c v d ↔
        ((sepBy1 p sep).parserUnder naming).Gets s c v d ∨
          ((endBy1 p sep).parserUnder naming).Gets s c v d)) ∧
    (((sepBy1 p sep).parserUnder naming).Gets s c v d →
      ((sepEndBy1 p sep).parserUnder naming).Gets s c v d) := by
  simp only [gets_parserUnder_iff, endBy1, toParser, Collector.many1, Parser.gets_map_iff]
  have hp := p.onward_toParser (naming.onward_parserOf s.fuel)
  have hsep := sep.onward_toParser (naming.onward_parserOf s.fuel)
  refine ⟨fun consumes => ?_, ?_⟩
  · simp only [Parser.gets_sepEndBy1_iff_or hp hsep consumes, or_and_right, exists_or,
      Parser.endBy1]
  · rintro ⟨as, got, rfl⟩
    exact ⟨as, got.sepEndBy1 hp hsep, rfl⟩

/-- Letters with a comma or nothing between them: the last comma has no letter after it, so it is an
error between the letters, but not after them. And letters that may be missing, with commas between
them: a possible last comma makes no difference. -/
theorem sepEndBy1_is_union_letters :
    let naming : Naming := fun _ => none
    let letter : Grammar := char 'a'
    let comma : Grammar := char ','
    let s : Settings := ⟨4, false⟩
    let c : Cursor := .plain (.ofValue (.str "a,aa,;"))
    let v : Value := .list [.ofChar 'a', .ofChar 'a', .ofChar 'a']
    let d : Cursor := ⟨c.input, 5, none⟩
    let c' : Cursor := .plain (.ofValue (.str "a,,;"))
    let v' : Value := .list [.ofChar 'a', .none, .none]
    let d' : Cursor := ⟨c'.input, 3, none⟩
    ((letter.parserUnder naming).Consumes s ∧
      ((sepEndBy1 letter (option .none comma)).parserUnder naming).Gets s c v d ∧
      ((endBy1 letter (option .none comma)).parserUnder naming).Gets s c v d ∧
      ¬ ((sepBy1 letter (option .none comma)).parserUnder naming).Gets s c v d) ∧
    ((sepBy1 (option .none letter) comma).parserUnder naming).Gets s c' v' d' ∧
      ((sepEndBy1 (option .none letter) comma).parserUnder naming).Gets s c' v' d' := by
  intro naming letter comma s c v d c' v' d'
  have consumes : (letter.parserUnder naming).Consumes s := fun _ a _ got =>
    Nat.ne_of_gt (Parser.offset_lt_of_steps_token ⟨a, got⟩)
  have after : ((endBy1 letter (option .none comma)).parserUnder naming).Gets s c v d := by rfl
  have between : ((sepBy1 (option .none letter) comma).parserUnder naming).Gets s c' v' d' := by rfl
  have union := sepEndBy1_is_union naming letter (option .none comma) s c v d
  refine ⟨⟨consumes, (union.1 consumes).2 (.inr after), after, fun between => ?_⟩, between,
    (sepEndBy1_is_union naming (option .none letter) comma s c' v' d').2 between⟩
  cases between

end Grammar

end ParserCombinators
