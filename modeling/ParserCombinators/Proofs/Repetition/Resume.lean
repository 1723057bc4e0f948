import Mathlib.Tactic.Common
import ParserCombinators.Parser.Character
import ParserCombinators.Proofs.Repetition.Trail

/-!
# Repetitions that are stopped and taken up again

A repetition succeeds exactly at the end of a trail of its parser where that parser fails without
consuming. A trail can be cut anywhere: a fixed number of rounds follows its first part, and the
repetition from where these rounds stop follows the other part to the same end. Where the trail
ends, no round is left.

## Main definitions

* `Parser.Forward` — the replies of a parser are not before the cursor where it began.

## Main results

* `Parser.Forward.gets_many_iff`, `Parser.Forward.gets_many1_iff` — the successes of a repetition,
  by trails.
* `Parser.Trail.split` — the two parts of a trail.
* `Parser.many_resumes` — a repetition goes on from where a fixed number of rounds stopped.
-/

set_option autoImplicit false

namespace ParserCombinators

namespace Parser

variable {α β γ : Type} {p : Parser α} {s : Settings} {c d m : Cursor} {a : α}
  {steps : List (α × Cursor)} {k : Nat}

/-! ## Parsers that do not go back -/

/-- No reply of the parser, success or failure, is before the cursor where it began. -/
def Forward (p : Parser α) (s : Settings) : Prop :=
  ∀ c reply, (p.run s c).ending = .done reply → c.offset ≤ reply.cursor.offset

/-- A parser that moves onward does not go back. -/
lemma Onward.forward (h : p.Onward) (s : Settings) : p.Forward s :=
  fun c _ ending => Cursor.Reaches.offset_le ((Run.meets_of_ending_eq ending).1 (h s c))

/-- A success of a parser that does not go back is further on if it has moved at all. -/
lemma Forward.offset_lt (h : p.Forward s) (got : p.Gets s c a d) (moves : d.offset ≠ c.offset) :
    c.offset < d.offset :=
  Nat.lt_of_le_of_ne (h c _ got) (Ne.symm moves)

/-- A step of a parser that does not go back is not before where it began. -/
lemma Forward.offset_le (h : p.Forward s) (stepped : p.Steps s c d) : c.offset ≤ d.offset :=
  stepped.elim fun _ got => h c _ got

/-! ## Successes and trails -/

/-- Rounds that go on only after a value that moved leave a trail, and collect its values.

**Proof sketch.** Induction on the rounds; each gives the step of the trail from where it began. -/
lemma Forward.exists_trail {round : Cursor × β → Run (Run.Round (Cursor × β) γ)}
    {push : β → α → β} (forward : p.Forward s)
    (goesOn : ∀ {m d x y}, Run.GoesOn round (m, x) (d, y) →
      ∃ a, p.Gets s m a d ∧ d.offset ≠ m.offset ∧ y = push x a)
    {x y : Cursor × β} (path : InRounds (Run.GoesOn round) k x y) :
    ∃ steps, p.Trail s x.1 steps y.1 ∧ steps.length = k ∧
      y.2 = (steps.map Prod.fst).foldl push x.2 := by
  induction path with
  | none x => exact ⟨[], .nil x.1, rfl, rfl⟩
  | more first others ih =>
    obtain ⟨a, got, moves, collected⟩ := goesOn first
    obtain ⟨steps, trail, rfl, all⟩ := ih
    refine ⟨(a, _) :: steps, .cons got (forward.offset_lt got moves) trail, rfl, ?_⟩
    rw [all, collected]
    rfl

/-- **The successes of the loop of `many`:** it follows a trail to where the parser fails without
consuming, and adds the values of the trail to what has been collected. -/
lemma Forward.ending_manyFrom_eq_ok_iff (forward : p.Forward s) (start : Cursor)
    (collected items : Array α) :
    (manyFrom Array.push p start s c collected).ending = .done (.ok items d) ↔
      ∃ steps, p.Trail s c steps d ∧ p.Misses s d ∧
        items = (steps.map Prod.fst).foldl Array.push collected ∧ steps.length < s.fuel := by
  rw [Parser.manyFrom, Run.ending_iterate_eq_done_iff]
  constructor
  · rintro ⟨k, ⟨d', items'⟩, path, last, enough⟩
    obtain ⟨missed, rfl, rfl⟩ := stops_manyRound_ok_iff.1 last
    obtain ⟨steps, trail, rfl, all⟩ := forward.exists_trail goesOn_manyRound_iff.1 path
    exact ⟨steps, trail, missed, all, enough⟩
  · rintro ⟨steps, trail, missed, rfl, enough⟩
    exact ⟨_, _, trail.inRounds goesOn_manyRound collected,
      stops_manyRound_ok_iff.2 ⟨missed, rfl, rfl⟩, enough⟩

/-- `many` succeeds exactly at the end of a trail where its parser fails without consuming, with the
values of the trail. -/
lemma Forward.gets_many_iff (forward : p.Forward s) {as : List α} :
    (many p).Gets s c as d ↔ ∃ steps, p.Trail s c steps d ∧ p.Misses s d ∧
      as = steps.map Prod.fst ∧ steps.length < s.fuel := by
  rw [many, gets_map_iff]
  constructor
  · rintro ⟨items, got, rfl⟩
    obtain ⟨steps, trail, missed, rfl, enough⟩ :=
      (forward.ending_manyFrom_eq_ok_iff c #[] items).1 got
    exact ⟨steps, trail, missed, toList_foldl_push _ _, enough⟩
  · rintro ⟨steps, trail, missed, rfl, enough⟩
    exact ⟨_, (forward.ending_manyFrom_eq_ok_iff c #[] _).2 ⟨steps, trail, missed, rfl, enough⟩,
      (toList_foldl_push #[] _).symm⟩

/-- `many1` succeeds exactly with a first value and the trail after it. -/
lemma Forward.gets_many1_iff (forward : p.Forward s) {as : List α} :
    (many1 p).Gets s c as d ↔ ∃ a m steps, p.Gets s c a m ∧ p.Trail s m steps d ∧ p.Misses s d ∧
      as = a :: steps.map Prod.fst ∧ steps.length < s.fuel := by
  rw [many1, gets_map_iff]
  constructor
  · rintro ⟨items, got, rfl⟩
    obtain ⟨⟨a, m⟩ | ⟨m, e⟩, first, others⟩ := (Run.ending_bind_eq_done_iff _ _ _).1 got
    · obtain ⟨steps, trail, missed, rfl, enough⟩ :=
        (forward.ending_manyFrom_eq_ok_iff c #[a] items).1 others
      exact ⟨a, m, steps, first, trail, missed, toList_foldl_push _ _, enough⟩
    · cases others
  · rintro ⟨a, m, steps, first, trail, missed, rfl, enough⟩
    refine ⟨_, (Run.ending_bind_of_done first _).trans ?_, (toList_foldl_push #[a] _).symm⟩
    exact (forward.ending_manyFrom_eq_ok_iff c #[a] _).2 ⟨steps, trail, missed, rfl, enough⟩

/-! ## Parts of a trail -/

/-- A trail can be cut after any number of steps. -/
lemma Trail.split (h : p.Trail s c steps d) (k : Nat) :
    ∃ m, p.Trail s c (steps.take k) m ∧ p.Trail s m (steps.drop k) d := by
  induction h generalizing k with
  | nil c =>
    rw [List.take_nil, List.drop_nil]
    exact ⟨c, .nil c, .nil c⟩
  | cons first moves others ih =>
    cases k with
    | zero => exact ⟨_, .nil _, .cons first moves others⟩
    | succ k =>
      obtain ⟨m, before, after⟩ := ih k
      exact ⟨m, .cons first moves before, after⟩

/-- A fixed number of rounds follows a trail as long as it lasts. -/
lemma Trail.ending_countFrom (h : p.Trail s c steps d) (k : Nat) (done : Array α) :
    (countFrom p s (steps.length + k) done c).ending =
      (countFrom p s k ((steps.map Prod.fst).foldl Array.push done) d).ending := by
  induction h generalizing done with
  | nil c =>
    rw [List.length_nil, Nat.zero_add]
    rfl
  | cons first moves others ih =>
    rw [List.length_cons, Nat.add_right_comm]
    exact (Run.ending_bind_of_done first _).trans (ih _)

/-- As many rounds as a trail has steps give its values. -/
lemma Trail.gets_count (h : p.Trail s c steps d) :
    (count steps.length p).Gets s c (steps.map Prod.fst) d := by
  refine (h.ending_countFrom 0 #[]).trans ?_
  rw [countFrom, toList_foldl_push]
  rfl

/-- More rounds than a trail has steps fail as the parser does where the trail ends. -/
lemma Trail.fails_count {e : ParseError} (h : p.Trail s c steps m) (failed : p.Fails s m d e)
    (more : steps.length < k) : (count k p).Fails s c d e := by
  obtain ⟨k, rfl⟩ := Nat.exists_eq_add_of_lt more
  rw [Nat.add_assoc]
  exact (h.ending_countFrom (k + 1) #[]).trans (Run.ending_bind_of_done failed _)

/-! ## Taking up again -/

/-- **A repetition can be stopped and taken up again anywhere.** Let `many` succeed with some values
at a cursor, and let its parser not go back. For any part of the values at their beginning, as many
rounds give that part, and `many` from where they stop gives the other values and stops where it did
before. From that cursor `many` gives no value, for there the parser fails without consuming; more
rounds than there are values end with that failure.

**Proof sketch.** `many` has followed a trail (`Parser.Forward.gets_many_iff`), which can be cut
anywhere (`Parser.Trail.split`). The rounds follow its first part (`Parser.Trail.gets_count`) and
`many` the other one, however it was entered. -/
theorem many_resumes (p : Parser α) (s : Settings) (c d : Cursor) (as : List α)
    (forward : p.Forward s) (got : (many p).Gets s c as d) :
    (∀ k ≤ as.length, ∃ m, (count k p).Gets s c (as.take k) m ∧
      (many p).Gets s m (as.drop k) d) ∧
    (many p).Gets s d [] d ∧
    ∃ d' e, p.Fails s d d' e ∧ d'.offset = d.offset ∧
      ∀ k, as.length < k → (count k p).Fails s c d' e := by
  obtain ⟨steps, trail, missed, rfl, enough⟩ := forward.gets_many_iff.1 got
  have resumes {m : Cursor} {others : List (α × Cursor)} (others_trail : p.Trail s m others d)
      (fewer : others.length ≤ steps.length) : (many p).Gets s m (others.map Prod.fst) d :=
    forward.gets_many_iff.2 ⟨others, others_trail, missed, rfl, Nat.lt_of_le_of_lt fewer enough⟩
  refine ⟨fun k part => ?_, resumes (.nil d) (Nat.zero_le _), ?_⟩
  · obtain ⟨m, before, after⟩ := trail.split k
    have all : (steps.take k).length = k := List.length_take_of_le (by simpa using part)
    have rounds := before.gets_count
    rw [all, List.map_take] at rounds
    refine ⟨m, rounds, ?_⟩
    rw [← List.map_drop]
    exact resumes after (by simp)
  · obtain ⟨d', e, failed, same⟩ := id missed
    exact ⟨d', e, failed, same, fun k more => trail.fails_count failed (by simpa using more)⟩

/-- Words with commas after them. After one of them the others can be read in another run, and three
of them are one too many, for the last word has no comma and is not begun. -/
theorem many_resumes_words :
    let word : Parser Value := (literal (.str "ab")).followedBy (char ',')
    let s : Settings := ⟨3, false⟩
    let c : Cursor := .plain (.ofValue (.str "ab,ab,b"))
    let d : Cursor := ⟨c.input, 6, none⟩
    let as : List Value := [.str "ab", .str "ab"]
    word.Forward s ∧ (many word).Gets s c as d ∧
      (∃ m, (count 1 word).Gets s c [.str "ab"] m ∧ (many word).Gets s m [.str "ab"] d) ∧
      (many word).Gets s d [] d ∧
      ∃ d' e, word.Fails s d d' e ∧ d'.offset = d.offset ∧
        ∀ k, as.length < k → (count k word).Fails s c d' e := by
  intro word s c d as
  have forward : word.Forward s :=
    ((onward_literal _).followedBy (onward_token _ _)).forward s
  have got : (many word).Gets s c as d := rfl
  obtain ⟨parts, rest, failure⟩ := many_resumes word s c d as forward got
  exact ⟨forward, got, parts 1 (by decide), rest, failure⟩

end Parser

end ParserCombinators
