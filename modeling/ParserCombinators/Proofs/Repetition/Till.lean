import Mathlib.Tactic.Common
import ParserCombinators.Parser.Character
import ParserCombinators.Proofs.Repetition.Rounds

/-!
# Items up to an end

`manyTill` tries the end before every item. Its loop goes on where the end fails without consuming
and an item moves, so what it reads is told by the items and the cursors between them, as long as
the end does not match. If the end never fails after consuming, that is what `many` reads when every
item is guarded by a negative lookahead, with the end after them.

## Main definitions

* `Parser.UpTo` — items one after the other, before each of which the end fails without consuming.
* `Parser.FailsUpTo` — the failures of the loop, behind some items.
* `Parser.FailsInPlace` — a parser does not fail after consuming.

## Main results

* `Parser.gets_manyTill_iff`, `Parser.fails_manyTill_iff` — the successes and the failures of
  `manyTill`.
* `Parser.gets_many_guarded_iff` — what the guarded items read.
* `Parser.manyTill_is_guarded_many` — `manyTill` and `many1Till`, in terms of the others.
-/

set_option autoImplicit false

namespace ParserCombinators

namespace Parser

variable {α β : Type} {p : Parser α} {stop : Parser β} {s : Settings} {c d m start : Cursor}
  {items : Array α} {as : List α} {e : ParseError} {n : Nat}

/-! ## Items and the cursors between them -/

/-- From `c` the parser gives values one after the other, each from where the one before stopped and
with a move, and before each of them the end fails without consuming; the last one stops at the
cursor given last. -/
inductive UpTo (p : Parser α) (stop : Parser β) (s : Settings) : Cursor → List α → Cursor → Prop
  /-- No item is read. -/
  | nil (c : Cursor) : UpTo p stop s c [] c
  /-- A first item is read where the end fails, and then the others. -/
  | cons {c m d : Cursor} {a : α} {as : List α} (missed : stop.Misses s c) (item : p.Gets s c a m)
    (moves : m.offset ≠ c.offset) (others : UpTo p stop s m as d) : UpTo p stop s c (a :: as) d

/-- The rounds of the loop read the items and collect them. -/
lemma UpTo.inRounds (h : UpTo p stop s c as d) (start : Cursor) (items : Array α) :
    InRounds (Run.GoesOn (tillRound p stop start s)) as.length (c, items)
      (d, as.foldl Array.push items) := by
  induction h generalizing items with
  | nil c => exact .none _
  | cons missed item moves others ih =>
    exact .more (goesOn_tillRound_iff.2 ⟨_, ⟨missed, item⟩, moves, rfl⟩) (ih _)

/-- Rounds that go on have read items and collected them.

**Proof sketch.** Induction on the rounds; each gives the item that was read in it. -/
lemma exists_upTo {x y : Cursor × Array α}
    (path : InRounds (Run.GoesOn (tillRound p stop start s)) n x y) :
    ∃ as, UpTo p stop s x.1 as y.1 ∧ as.length = n ∧ y.2 = as.foldl Array.push x.2 := by
  induction path with
  | none x => exact ⟨[], .nil x.1, rfl, rfl⟩
  | more first others ih =>
    obtain ⟨a, ⟨missed, item⟩, moves, collected⟩ := goesOn_tillRound_iff.1 first
    obtain ⟨as, read, rfl, all⟩ := ih
    exact ⟨a :: as, .cons missed item moves read, rfl, by rw [all, collected]; rfl⟩

/-- The loop ends with what stops it behind some items. -/
lemma ending_till_iff {reply : Reply (List α)} :
    (Run.iterate (tillRound p stop start s) s.fuel (c, items)).ending = .done reply ↔
      ∃ as m, UpTo p stop s c as m ∧
        Run.Stops (tillRound p stop start s) (m, as.foldl Array.push items) reply ∧
        as.length < s.fuel := by
  rw [Run.ending_iterate_eq_done_iff]
  constructor
  · rintro ⟨n, ⟨m, items'⟩, path, last, enough⟩
    obtain ⟨as, read, rfl, rfl⟩ := exists_upTo path
    exact ⟨as, m, read, last, enough⟩
  · rintro ⟨as, m, read, last, enough⟩
    exact ⟨_, _, read.inRounds start items, last, enough⟩

/-! ## Successes and failures -/

/-- The loop succeeds with the items before an end. -/
lemma ending_till_ok_iff {all : List α} :
    (Run.iterate (tillRound p stop start s) s.fuel (c, items)).ending = .done (.ok all d) ↔
      ∃ as m, UpTo p stop s c as m ∧ stop.Steps s m d ∧ all = items.toList ++ as ∧
        as.length < s.fuel := by
  simp only [ending_till_iff, stops_tillRound_ok_iff, toList_foldl_push]
  constructor
  · rintro ⟨as, m, read, ⟨rfl, ended⟩, enough⟩
    exact ⟨as, m, read, ended, rfl, enough⟩
  · rintro ⟨as, m, read, ended, rfl, enough⟩
    exact ⟨as, m, read, ⟨rfl, ended⟩, enough⟩

/-- **The successes of `manyTill`:** the items before an end. -/
lemma gets_manyTill_iff :
    (manyTill p stop).Gets s c as d ↔
      ∃ m, UpTo p stop s c as m ∧ stop.Steps s m d ∧ as.length < s.fuel := by
  change (Run.iterate (tillRound p stop c s) s.fuel (c, #[])).ending = .done (.ok as d) ↔ _
  rw [ending_till_ok_iff]
  constructor
  · rintro ⟨as, m, read, ended, rfl, enough⟩
    exact ⟨m, read, ended, enough⟩
  · rintro ⟨m, read, ended, enough⟩
    exact ⟨as, m, read, ended, rfl, enough⟩

/-- From `c`, where the loop has been told that it began at `start`, it fails behind some items: as
the end does after it consumed; as an item does where the end does not match, with one message more;
or for lack of progress, at `start`. -/
def FailsUpTo (p : Parser α) (stop : Parser β) (s : Settings) (start c d : Cursor)
    (e : ParseError) : Prop :=
  ∃ as m, UpTo p stop s c as m ∧ as.length < s.fuel ∧
    (stop.Fails s m d e ∧ d.offset ≠ m.offset ∨
      stop.Misses s m ∧
        ((∃ e', p.Fails s m d e' ∧ e = e'.withContext neitherMatched) ∨
          d = start ∧ e = noProgress ∧ ∃ a m', p.Gets s m a m' ∧ m'.offset = m.offset))

/-- The loop fails behind some items. -/
lemma ending_till_error_iff :
    (Run.iterate (tillRound p stop start s) s.fuel (c, items)).ending = .done (.error d e) ↔
      FailsUpTo p stop s start c d e := by
  simp only [ending_till_iff, stops_tillRound_error_iff]
  constructor
  · rintro ⟨as, m, read, last, enough⟩
    exact ⟨as, m, read, enough, last⟩
  · rintro ⟨as, m, read, enough, last⟩
    exact ⟨as, m, read, last, enough⟩

/-- **The failures of `manyTill`** are those of its loop. -/
lemma fails_manyTill_iff : (manyTill p stop).Fails s c d e ↔ FailsUpTo p stop s c c d e :=
  ending_till_error_iff

/-- The successes of `many1Till`: an item, and what `manyTill` reads after it. -/
lemma gets_many1Till_iff :
    (many1Till p stop).Gets s c as d ↔
      ∃ a m others, p.Gets s c a m ∧ (manyTill p stop).Gets s m others d ∧ as = a :: others := by
  simp only [gets_manyTill_iff]
  constructor
  · intro got
    obtain ⟨⟨a, m⟩ | ⟨m, e⟩, first, loop⟩ := (Run.ending_bind_eq_done_iff _ _ _).1 got
    · obtain ⟨others, m', read, ended, all, enough⟩ := ending_till_ok_iff.1 loop
      exact ⟨a, m, others, first, ⟨m', read, ended, enough⟩, all⟩
    · cases loop
  · rintro ⟨a, m, others, first, ⟨m', read, ended, enough⟩, rfl⟩
    refine (Run.ending_bind_of_done first _).trans ?_
    exact ending_till_ok_iff.2 ⟨others, m', read, ended, rfl, enough⟩

/-- The failures of `many1Till`: that of the first item, and those of the loop after it. -/
lemma fails_many1Till_iff :
    (many1Till p stop).Fails s c d e ↔
      p.Fails s c d e ∨ ∃ a m, p.Gets s c a m ∧ FailsUpTo p stop s c m d e := by
  constructor
  · intro failed
    obtain ⟨⟨a, m⟩ | ⟨m, e'⟩, first, loop⟩ := (Run.ending_bind_eq_done_iff _ _ _).1 failed
    · exact .inr ⟨a, m, first, ending_till_error_iff.1 loop⟩
    · cases loop
      exact .inl first
  · rintro (failed | ⟨a, m, first, fails⟩)
    · exact Run.ending_bind_of_done failed _
    · exact (Run.ending_bind_of_done first _).trans (ending_till_error_iff.2 fails)

/-! ## Guarded items -/

/-- The parser does not fail after consuming. -/
def FailsInPlace (p : Parser α) (s : Settings) : Prop :=
  ∀ c d e, p.Fails s c d e → d.offset = c.offset

/-- An attempt goes back when it fails, so it never fails after consuming. -/
lemma failsInPlace_attempt (p : Parser α) (s : Settings) : p.attempt.FailsInPlace s := by
  intro c d e failed
  obtain ⟨rfl, -⟩ := fails_attempt_iff.1 failed
  rfl

variable {showing : β → String}

/-- A guarded item is read where the end fails without consuming, if it does not fail otherwise. -/
lemma gets_guarded_iff (inPlace : stop.FailsInPlace s) {a : α} :
    ((notFollowedBy showing stop).andThen p).Gets s c a d ↔ stop.Misses s c ∧ p.Gets s c a d := by
  rw [gets_andThen_iff]
  constructor
  · rintro ⟨m, ⟨⟨⟩, ahead⟩, item⟩
    obtain ⟨rfl, m', e, failed⟩ := gets_notFollowedBy_iff.1 ahead
    exact ⟨⟨m', e, failed, inPlace _ _ _ failed⟩, item⟩
  · rintro ⟨⟨m', e, failed, -⟩, item⟩
    exact ⟨c, ⟨(), gets_notFollowedBy_iff.2 ⟨rfl, m', e, failed⟩⟩, item⟩

/-- Where the end matches, a guarded item is missed. -/
lemma Steps.misses_guarded (ended : stop.Steps s c d) (showing : β → String) (p : Parser α) :
    ((notFollowedBy showing stop).andThen p).Misses s c := by
  obtain ⟨b, got⟩ := ended
  have failed : (notFollowedBy showing stop).Fails s c c (unexpected showing b) :=
    Run.ending_bind_of_done got _
  exact ⟨c, unexpected showing b, (fails_andThen_iff _ _).2 (.inl failed), rfl⟩

/-- A round over a guarded item goes on as a round of items up to the end does. -/
lemma goesOn_guarded_iff (inPlace : stop.FailsInPlace s) {x y : Cursor × Array α} :
    Run.GoesOn (manyRound Array.push ((notFollowedBy showing stop).andThen p) start s) x y ↔
      Run.GoesOn (tillRound p stop start s) x y := by
  obtain ⟨c, items⟩ := x
  obtain ⟨d, items'⟩ := y
  simp only [goesOn_manyRound_iff, goesOn_tillRound_iff, gets_guarded_iff inPlace]

/-- **What guarded items read:** items up to the end, as far as another one can be read.

**Proof sketch.** The rounds of the two loops go on alike, so they lead over the same items. -/
lemma gets_many_guarded_iff (inPlace : stop.FailsInPlace s) :
    (many ((notFollowedBy showing stop).andThen p)).Gets s c as d ↔
      UpTo p stop s c as d ∧ ((notFollowedBy showing stop).andThen p).Misses s d ∧
        as.length < s.fuel := by
  have sameRounds : Run.GoesOn (manyRound Array.push ((notFollowedBy showing stop).andThen p) c s) =
      Run.GoesOn (tillRound p stop c s) :=
    funext fun x => funext fun y => propext (goesOn_guarded_iff inPlace)
  rw [many, gets_map_iff]
  constructor
  · rintro ⟨items, got, rfl⟩
    obtain ⟨n, ⟨m, collected⟩, path, last, enough⟩ := Run.ending_iterate_eq_done_iff.1 got
    rw [sameRounds] at path
    obtain ⟨missed, rfl, rfl⟩ := stops_manyRound_ok_iff.1 last
    obtain ⟨as, read, rfl, all⟩ := exists_upTo path
    obtain rfl : items = as.foldl Array.push #[] := all
    rw [toList_foldl_push]
    exact ⟨read, missed, enough⟩
  · rintro ⟨read, missed, enough⟩
    refine ⟨as.foldl Array.push #[], ?_, (toList_foldl_push #[] as).symm⟩
    have path := read.inRounds c #[]
    rw [← sameRounds] at path
    exact Run.ending_iterate_eq_done_iff.2
      ⟨_, _, path, stops_manyRound_ok_iff.2 ⟨missed, rfl, rfl⟩, enough⟩

/-- **Items up to an end are guarded items before the end.** If the end never fails after consuming,
`manyTill` succeeds with some values at a cursor exactly if `many`, with the end as a negative
lookahead before every item, and then the end do. For any end, `manyTill` fails behind some items in
one of three ways: as the end does after consuming; as an item does, where that fails and with one
message more outermost; or for lack of progress where `manyTill` began. `many1Till` fails as its
first item does; after that item it succeeds with the values of `manyTill`, the item put before
them.

**Proof sketch.** Where the end fails only without consuming, both loops go on from the same cursors
to the same cursors (`Parser.goesOn_guarded_iff`), and where the end matches the guarded items have
come to their end (`Parser.Steps.misses_guarded`). -/
theorem manyTill_is_guarded_many (p : Parser α) (stop : Parser β) (showing : β → String)
    (s : Settings) (c : Cursor) :
    (stop.FailsInPlace s → ∀ as d, (manyTill p stop).Gets s c as d ↔
      ((many ((notFollowedBy showing stop).andThen p)).followedBy stop).Gets s c as d) ∧
    (∀ d e, (manyTill p stop).Fails s c d e ↔ ∃ as m, UpTo p stop s c as m ∧ as.length < s.fuel ∧
      (stop.Fails s m d e ∧ d.offset ≠ m.offset ∨
        stop.Misses s m ∧
          ((∃ e', p.Fails s m d e' ∧
              e = e'.withContext (.message "many_till: neither item nor end matched")) ∨
            d = c ∧ e = noProgress ∧ ∃ a m', p.Gets s m a m' ∧ m'.offset = m.offset))) ∧
    (∀ d e, p.Fails s c d e → (many1Till p stop).Fails s c d e) ∧
    ∀ a m, p.Gets s c a m → ∀ as d, (many1Till p stop).Gets s c as d ↔
      ∃ others, as = a :: others ∧ (manyTill p stop).Gets s m others d := by
  refine ⟨fun inPlace as d => ?_, fun d e => fails_manyTill_iff,
    fun d e failed => fails_many1Till_iff.2 (.inl failed), fun a m first as d => ?_⟩
  · rw [gets_followedBy_iff, gets_manyTill_iff]
    constructor
    · rintro ⟨m, read, ended, enough⟩
      exact ⟨m, (gets_many_guarded_iff inPlace).2 ⟨read, ended.misses_guarded showing p, enough⟩,
        ended⟩
    · rintro ⟨m, got, ended⟩
      obtain ⟨read, -, enough⟩ := (gets_many_guarded_iff inPlace).1 got
      exact ⟨m, read, ended, enough⟩
  · rw [gets_many1Till_iff]
    constructor
    · rintro ⟨b, m', others, first', got, rfl⟩
      obtain ⟨rfl, rfl⟩ := first.unique first'
      exact ⟨others, rfl, got⟩
    · rintro ⟨others, rfl, got⟩
      exact ⟨a, m, others, first, got, rfl⟩

/-- The text of a comment up to its end, which is begun once before it is there. Read as guarded
items, the text is the same; read after a first character, it is the rest of it. Where there is no
end, an item is wanted in vain. -/
theorem manyTill_is_guarded_many_comment :
    let stop : Parser Value := ((char '*').andThen (char '/')).attempt
    let s : Settings := ⟨4, false⟩
    let c : Cursor := .plain (.ofValue (.str "a**/b"))
    let m : Cursor := ⟨c.input, 1, none⟩
    let d : Cursor := ⟨c.input, 4, none⟩
    let c' : Cursor := .plain (.ofValue (.str "a*"))
    let d' : Cursor := ⟨c'.input, 2, none⟩
    let e : ParseError := .ofAtom (.str "any token") .endOfInput
    (stop.FailsInPlace s ∧
      (manyTill anyToken stop).Gets s c [.ofChar 'a', .ofChar '*'] d ∧
      ((many ((notFollowedBy Value.written stop).andThen anyToken)).followedBy stop).Gets s c
        [.ofChar 'a', .ofChar '*'] d) ∧
    (anyToken.Gets s c (.ofChar 'a') m ∧ (manyTill anyToken stop).Gets s m [.ofChar '*'] d ∧
      (many1Till anyToken stop).Gets s c [.ofChar 'a', .ofChar '*'] d) ∧
    ((manyTill anyToken stop).Fails s c' d' (e.withContext neitherMatched) ∧
      anyToken.Fails s d' d' e ∧ (many1Till anyToken stop).Fails s d' d' e) := by
  intro stop s c m d c' d' e
  have inPlace : stop.FailsInPlace s := failsInPlace_attempt _ s
  have got : (manyTill anyToken stop).Gets s c [.ofChar 'a', .ofChar '*'] d := by rfl
  have first : anyToken.Gets s c (.ofChar 'a') m := by rfl
  have after : (manyTill anyToken stop).Gets s m [.ofChar '*'] d := by rfl
  have failed : anyToken.Fails s d' d' e := by rfl
  obtain ⟨guarded, -, -, follows⟩ := manyTill_is_guarded_many anyToken stop Value.written s c
  obtain ⟨-, -, fails, -⟩ := manyTill_is_guarded_many anyToken stop Value.written s d'
  refine ⟨⟨inPlace, got, (guarded inPlace _ d).1 got⟩,
    ⟨first, after, (follows _ m first _ d).2 ⟨_, rfl, after⟩⟩, by rfl, failed, fails d' e failed⟩

end Parser

end ParserCombinators
