import Mathlib.Tactic.Common
import ParserCombinators.Grammar.Meaning
import ParserCombinators.Parser.Character
import ParserCombinators.Proofs.Repetition.Rounds

/-!
# What repetitions collect into

A repetition is one loop, whatever it collects into: a round looks at the input and at the cursor,
never at the collection. So a collection that takes every value is what the values of a list make of
it, one after the other, and nothing else about the run depends on it. The list itself holds the
values that the parser gives from where the repetition began to where it stopped, and every run
begins with an empty one.

## Main definitions

* `Parser.Fills` — a collection begins and grows as a function of the values so far says.
* `Parser.Collects`, `Parser.Collects1` — the values of one run of a repetition.
* `Parser.RunsAgain` — runs of a repetition one after the other.
* `Collector.empty`, `Collector.push` — how each collector begins, and how it takes a value.
* `Collector.EndTogether` — runs with different collectors that end in the same way.

## Main results

* `Parser.Fills.manyBy`, `Parser.Fills.many1By` — a repetition into any collection, by the list.
* `Collector.many_eq_manyBy` — all collectors are filled by the same loop.
* `Collector.accumulators_alike` — what is collected into does not affect the run.
-/

set_option autoImplicit false

namespace ParserCombinators

namespace Parser

variable {α β γ : Type} {p : Parser α} {q : Parser γ} {s : Settings} {c d m start : Cursor} {a : α}
  {as : List α} {empty : Except Fault β} {push : β → α → Except Fault β} {fill : List α → β}

/-! ## One loop for all collections -/

/-- A collection takes every value, and `fill as` is what it is after the values `as`. -/
structure Fills (empty : Except Fault β) (push : β → α → Except Fault β) (fill : List α → β) :
    Prop where
  /-- It begins without values. -/
  empty_eq : empty = .ok (fill [])
  /-- Each value comes after those before it. -/
  push_eq (as : List α) (a : α) : push (fill as) a = .ok (fill (as ++ [a]))

/-- A round with a collection does what a round with an array does, and then fills the
collection. -/
lemma Fills.manyByRound (h : Fills empty push fill) (p : Parser α) (start : Cursor) (s : Settings)
    (x : Cursor × Array α) :
    manyByRound push p start s (x.1, fill x.2.toList) =
      manyRound Array.push p start s x >>= fun next =>
        pure (next.map (fun x => (x.1, fill x.2.toList))
          (Reply.map fun items => fill items.toList)) := by
  rw [manyRound, Parser.manyByRound, Parser.manyByRound, Run.bind_assoc']
  refine congrArg _ (funext fun reply => ?_)
  cases reply with
  | ok a next =>
    by_cases stays : next.offset = x.1.offset
    · simp only [stays, if_true, Run.pure_bind']
      rfl
    · simp only [stays, if_false, h.push_eq, Run.ofExcept_ok, Run.pure_bind', Run.Round.map,
        Array.toList_push]
  | error next e =>
    by_cases same : next.offset = x.1.offset
    · simp only [same, if_true, Run.pure_bind']
      rfl
    · simp only [same, if_false, Run.pure_bind']
      rfl

/-- The loop of a repetition with some values so far. -/
lemma Fills.manyByFrom (h : Fills empty push fill) (p : Parser α) (start : Cursor) (s : Settings)
    (c : Cursor) (items : Array α) :
    manyByFrom push p start s c (fill items.toList) =
      manyFrom Array.push p start s c items >>= fun reply =>
        pure (reply.map fun items => fill items.toList) :=
  Run.iterate_map (h.manyByRound p start s) s.fuel (c, items)

/-- **A repetition into a collection that takes every value** is the repetition into a list, with
the list changed into the collection: the reply, the fault and the log are the same.

**Proof sketch.** Every round is the same but for the collection (`Parser.Fills.manyByRound`), so
the loop is (`Run.iterate_map`). -/
lemma Fills.manyBy (h : Fills empty push fill) (p : Parser α) :
    manyBy empty push p = (many p).map fill := by
  rw [many, map_map]
  refine Parser.ext (funext fun s => funext fun c => ?_)
  rw [Parser.manyBy, h.empty_eq]
  refine (Run.pure_bind' _ _).trans ((h.manyByFrom p c s c #[]).trans ?_)
  refine congrArg _ (funext fun reply => ?_)
  cases reply <;> rfl

/-- A repetition that takes place at least once begins its collection after the first value. -/
lemma Fills.many1By (h : Fills empty push fill) (p : Parser α) :
    many1By empty push p = (many1 p).map fill := by
  rw [many1, map_map]
  refine Parser.ext (funext fun s => funext fun c => ?_)
  simp only [Parser.many1By, many1Into, map, h.empty_eq]
  refine Eq.trans ?_ (Run.bind_assoc' _ _ _).symm
  refine congrArg _ (funext fun reply => ?_)
  cases reply with
  | ok a next =>
    have first : (do push (← Except.ok (fill [])) a) = .ok (fill [a]) := h.push_eq [] a
    dsimp only
    rw [first]
    refine (Run.pure_bind' _ _).trans ((h.manyByFrom p c s next #[a]).trans ?_)
    refine congrArg _ (funext fun reply => ?_)
    cases reply <;> rfl
  | error next e => exact (Run.pure_bind' _ _).symm

/-- A collection that raises nothing is filled from the left. -/
lemma fills_foldl (empty : β) (push : β → α → β) :
    Fills (.ok empty) (fun collected a => .ok (push collected a))
      fun as => as.foldl push empty where
  empty_eq := rfl
  push_eq as a := by rw [List.foldl_append, List.foldl_cons, List.foldl_nil]

/-- A collection that takes every value is made of the list. -/
lemma manyInto_eq_map (empty : β) (push : β → α → β) (p : Parser α) :
    manyInto empty push p = (many p).map fun as => as.foldl push empty := by
  rw [← (fills_foldl empty push).manyBy p]
  exact Parser.ext (funext fun _ => funext fun _ => (Run.pure_bind' _ _).symm)

/-- So is one with a first value. -/
lemma many1Into_eq_map (empty : β) (push : β → α → β) (p : Parser α) :
    many1Into empty push p = (many1 p).map fun as => as.foldl push empty := by
  rw [← (fills_foldl empty push).many1By p]
  refine Parser.ext (funext fun s => funext fun c => ?_)
  simp only [many1Into, Parser.many1By]
  refine congrArg _ (funext fun reply => ?_)
  cases reply with
  | ok a next => exact (Run.pure_bind' _ _).symm
  | error next e => rfl

/-! ## The values of one run -/

/-- From `c` the parser gives the values one after the other, each from where the one before stopped
and elsewhere than there; at the cursor given last it fails without consuming. -/
inductive Collects (p : Parser α) (s : Settings) : Cursor → List α → Cursor → Prop
  /-- There is no value more. -/
  | ends {c : Cursor} (missed : p.Misses s c) : Collects p s c [] c
  /-- A first value, and then the others. -/
  | goesOn {c m d : Cursor} {a : α} {as : List α} (got : p.Gets s c a m)
      (moved : m.offset ≠ c.offset) (others : Collects p s m as d) : Collects p s c (a :: as) d

/-- A first value, which need not move, and others after it. -/
def Collects1 (p : Parser α) (s : Settings) (c : Cursor) (as : List α) (d : Cursor) : Prop :=
  ∃ a m others, as = a :: others ∧ p.Gets s c a m ∧ p.Collects s m others d

/-- Rounds of the loop add the values that the parser gives. -/
lemma exists_collects_of_inRounds {n : Nat} {x y : Cursor × Array α}
    (path : InRounds (Run.GoesOn (manyRound Array.push p start s)) n x y)
    (missed : p.Misses s y.1) :
    ∃ as, y.2.toList = x.2.toList ++ as ∧ p.Collects s x.1 as y.1 := by
  induction path with
  | none x => exact ⟨[], (List.append_nil _).symm, .ends missed⟩
  | @more n x y z first others ih =>
    obtain ⟨a, got, moved, pushed⟩ := goesOn_manyRound_iff.1 first
    obtain ⟨as, all, collects⟩ := ih missed
    refine ⟨a :: as, ?_, .goesOn got moved collects⟩
    rw [all, pushed, Array.toList_push, List.append_assoc]
    rfl

/-- A loop that succeeds has added the values that the parser gave. -/
lemma exists_collects_of_manyFrom {items collected : Array α}
    (h : (manyFrom Array.push p start s c collected).ending = .done (.ok items d)) :
    ∃ as, items.toList = collected.toList ++ as ∧ p.Collects s c as d := by
  obtain ⟨n, ⟨m, items⟩, path, last, -⟩ := Run.ending_iterate_eq_done_iff.1 h
  obtain ⟨missed, rfl, rfl⟩ := stops_manyRound_ok_iff.1 last
  exact exists_collects_of_inRounds path missed

/-- A repetition that succeeds has collected the values of its run, and no others. -/
lemma collects_of_gets_many (h : (many p).Gets s c as d) : p.Collects s c as d := by
  obtain ⟨items, got, rfl⟩ := (gets_map_iff _ _ _).1 h
  obtain ⟨as, all, collects⟩ := exists_collects_of_manyFrom got
  rwa [all]

/-- So has one that takes place at least once. -/
lemma collects1_of_gets_many1 (h : (many1 p).Gets s c as d) : p.Collects1 s c as d := by
  obtain ⟨items, got, rfl⟩ := (gets_map_iff _ _ _).1 h
  obtain ⟨⟨a, m⟩ | ⟨m, e⟩, first, rest⟩ := (Run.ending_bind_eq_done_iff _ _ _).1 got
  · obtain ⟨as, all, collects⟩ := exists_collects_of_manyFrom rest
    exact ⟨a, m, as, all, first, collects⟩
  · cases rest

/-! ## Many runs -/

/-- Runs one after the other, each followed by `q`: the values of each run are as `R` says of where
it began and where it stopped. -/
inductive RunsAgain (R : Cursor → List α → Cursor → Prop) (q : Parser γ) (s : Settings) :
    Cursor → List (List α) → Cursor → Prop
  /-- No run more. -/
  | nil (c : Cursor) : RunsAgain R q s c [] c
  /-- A first run, and then the others. -/
  | cons {c k m d : Cursor} {as : List α} {runs : List (List α)} (collected : R c as k)
      (between : q.Steps s k m) (others : RunsAgain R q s m runs d) :
    RunsAgain R q s c (as :: runs) d

/-- One run more is a first run and the others. -/
lemma count_succ (n : Nat) (p : Parser α) :
    count (n + 1) p = p.bind fun a => (count n p).map (a :: ·) := by
  rw [count_eq_sequence, count_eq_sequence, List.replicate_succ, sequence_cons]

/-- **However often a parser is run, each run gives only its own values.**

**Proof sketch.** Induction on the number of runs; each begins where `q` stopped after the one
before. -/
lemma exists_runsAgain {R : Cursor → List α → Cursor → Prop} {p : Parser (List α)}
    {fill : List α → β} (single : ∀ c as d, p.Gets s c as d → R c as d) {n : Nat} {bs : List β}
    (h : (count n ((p.map fill).followedBy q)).Gets s c bs d) :
    ∃ runs, RunsAgain R q s c runs d ∧ runs.length = n ∧ bs = runs.map fill := by
  induction n generalizing c bs with
  | zero =>
    cases h
    exact ⟨[], .nil _, rfl, rfl⟩
  | succ n ih =>
    rw [count_succ] at h
    obtain ⟨b, m, first, h⟩ := (gets_bind_iff _ _ _).1 h
    obtain ⟨bs, others, rfl⟩ := (gets_map_iff _ _ _).1 h
    obtain ⟨k, filled, between⟩ := (gets_followedBy_iff _ _ _).1 first
    obtain ⟨as, got, rfl⟩ := (gets_map_iff _ _ _).1 filled
    obtain ⟨runs, again, rfl, rfl⟩ := ih others
    exact ⟨as :: runs, .cons (single _ _ _ got) between again, rfl, rfl⟩

end Parser

namespace Collector

/-! ## The collectors -/

/-- How a collection begins. -/
def empty : Collector → Except Fault Value
  | list => .ok (.list [])
  | deque => .ok (.deque [])
  | counter => .ok (.counter 0)
  | nothing => .ok .none
  | own empty _ => empty

/-- A collection with one value more. -/
def push : Collector → Value → Value → Except Fault Value
  | list, .list vs, v => .ok (.list (vs ++ [v]))
  | deque, .deque vs, v => .ok (.deque (vs ++ [v]))
  | counter, .counter n, _ => .ok (.counter (n + 1))
  | nothing, _, _ => .ok .none
  | own _ push, collected, v => push collected v
  | list, _, _ | deque, _, _ | counter, _, _ => .error .mismatchedKind

/-- A collector takes every value, and `fill vs` is what it has after the values `vs`. -/
def Fills (into : Collector) (fill : List Value → Value) : Prop :=
  Parser.Fills into.empty into.push fill

/-- A list takes every value. -/
lemma fills_list : list.Fills .list := ⟨rfl, fun _ _ => rfl⟩

/-- A double-ended queue takes every value. -/
lemma fills_deque : deque.Fills .deque := ⟨rfl, fun _ _ => rfl⟩

/-- A counter takes every value, and has their number. -/
lemma fills_counter : counter.Fills fun vs => .counter vs.length :=
  ⟨rfl, fun vs v => by rw [push, List.length_append, List.length_singleton]⟩

/-- To drop values takes every value. -/
lemma fills_nothing : nothing.Fills fun _ => .none := ⟨rfl, fun _ _ => rfl⟩

/-- Values that are only counted are as many as there are. -/
private lemma foldl_succ (vs : List Value) : vs.foldl (fun n _ => n + 1) 0 = vs.length := by
  simp

/-- **All collectors are filled by the same loop.** -/
lemma many_eq_manyBy (into : Collector) (p : Parser Value) :
    into.many p = Parser.manyBy into.empty into.push p := by
  cases into with
  | list => exact (fills_list.manyBy p).symm
  | deque => exact (fills_deque.manyBy p).symm
  | counter =>
    rw [fills_counter.manyBy p, many, Parser.manyInto_eq_map, Parser.map_map]
    simp only [foldl_succ]
  | nothing =>
    rw [fills_nothing.manyBy p, many, Parser.skipMany, Parser.manyInto_eq_map, Parser.map_map]
  | own empty push => rfl

/-- All collectors are filled by the same loop after a first value, too. -/
lemma many1_eq_many1By (into : Collector) (p : Parser Value) :
    into.many1 p = Parser.many1By into.empty into.push p := by
  cases into with
  | list => exact (fills_list.many1By p).symm
  | deque => exact (fills_deque.many1By p).symm
  | counter =>
    rw [fills_counter.many1By p, many1, Parser.many1Into_eq_map, Parser.map_map]
    simp only [foldl_succ]
  | nothing =>
    rw [fills_nothing.many1By p, many1, Parser.skipMany1, Parser.many1Into_eq_map, Parser.map_map]
  | own empty push => rfl

section Filled

variable {into : Collector} {fill : List Value → Value}

/-- A collector that takes every value is filled with the list. -/
lemma Fills.many_eq (h : into.Fills fill) (p : Parser Value) :
    into.many p = (Parser.many p).map fill :=
  (into.many_eq_manyBy p).trans (h.manyBy p)

/-- A collector that takes every value is filled with the list, which has a first value. -/
lemma Fills.many1_eq (h : into.Fills fill) (p : Parser Value) :
    into.many1 p = (Parser.many1 p).map fill :=
  (into.many1_eq_many1By p).trans (h.many1By p)

end Filled

/-! ## Runs that end together -/

/-- Whatever is collected into, if it takes every value, the run ends in the same way: with the same
fault, with the same failure, at the same cursor with what the same values make of the collection,
or with its fuel spent. `given` says which values these are, and where the run stops. -/
inductive EndTogether (run : Collector → Run (Reply Value))
    (given : List Value → Cursor → Prop) : Prop
  /-- All with the same fault. -/
  | raised (fault : Fault)
      (all : ∀ into fill, Fills into fill → (run into).ending = .raised fault)
  /-- All with the same failure. -/
  | failed (d : Cursor) (e : ParseError)
      (all : ∀ into fill, Fills into fill → (run into).ending = .done (.error d e))
  /-- All with the same values, at the same cursor. -/
  | succeeded (vs : List Value) (d : Cursor) (values : given vs d)
      (all : ∀ into fill, Fills into fill → (run into).ending = .done (.ok (fill vs) d))
  /-- All with their fuel spent. -/
  | exhausted (all : ∀ into fill, Fills into fill → (run into).ending = .exhausted)

/-- Runs that differ in nothing but the change of a list end together. -/
lemma EndTogether.of_map {p : Parser (List Value)} {s : Settings} {c : Cursor}
    {run : Collector → Run (Reply Value)} {given : List Value → Cursor → Prop}
    (same : ∀ into fill, Fills into fill → run into = (p.map fill).run s c)
    (values : ∀ vs d, p.Gets s c vs d → given vs d) : EndTogether run given := by
  have changed (into : Collector) (fill : List Value → Value) (h : Fills into fill) :
      (run into).ending = (p.run s c >>= fun reply => pure (reply.map fill)).ending := by
    rw [same into fill h]
    change (p.run s c >>= _).ending = _
    refine congrArg Run.ending (congrArg _ (funext fun reply => ?_))
    cases reply <;> rfl
  match h : p.run s c with
  | ⟨log, .done (.ok vs d)⟩ =>
    refine .succeeded vs d (values vs d (congrArg Run.ending h)) fun into fill filled => ?_
    rw [changed into fill filled, h]
    rfl
  | ⟨log, .done (.error d e)⟩ =>
    refine .failed d e fun into fill filled => ?_
    rw [changed into fill filled, h]
    rfl
  | ⟨log, .raised fault⟩ =>
    refine .raised fault fun into fill filled => ?_
    rw [changed into fill filled, h]
    rfl
  | ⟨log, .exhausted⟩ =>
    refine .exhausted fun into fill filled => ?_
    rw [changed into fill filled, h]
    rfl

/-- **What a repetition collects into does not affect the run.** A list holds the values in order,
so does a double-ended queue, a counter their number, and without a collection there is none. With
each of these, and with every collection of the caller's own that takes all values, `many` ends in
the same way at a cursor, and so does `many1`; the values are those that the parser gives in this
run. If the repetition is run again and again, with anything in between, every run begins anew: it
has the values of that run and no others.

**Proof sketch.** All collectors are filled by one loop (`Collector.many_eq_manyBy`), in which
nothing depends on the collection (`Parser.Fills.manyBy`). The values of the list come from the
rounds of its own run (`Parser.collects_of_gets_many`). -/
theorem accumulators_alike {β : Type} (p : Parser Value) (q : Parser β) (s : Settings)
    (c : Cursor) :
    (list.Fills .list ∧ deque.Fills .deque ∧ (counter.Fills fun vs => .counter vs.length) ∧
      nothing.Fills fun _ => .none) ∧
    EndTogether (fun into => (into.many p).run s c) (p.Collects s c) ∧
    EndTogether (fun into => (into.many1 p).run s c) (p.Collects1 s c) ∧
    ∀ into fill, Fills into fill → ∀ n vs d,
      ((Parser.count n ((into.many p).followedBy q)).Gets s c vs d →
        ∃ runs, Parser.RunsAgain (p.Collects s) q s c runs d ∧ runs.length = n ∧
          vs = runs.map fill) ∧
      ((Parser.count n ((into.many1 p).followedBy q)).Gets s c vs d →
        ∃ runs, Parser.RunsAgain (p.Collects1 s) q s c runs d ∧ runs.length = n ∧
          vs = runs.map fill) := by
  refine ⟨⟨fills_list, fills_deque, fills_counter, fills_nothing⟩, ?_, ?_, ?_⟩
  · refine .of_map (p := Parser.many p) (fun into fill filled => ?_) fun _ _ =>
      Parser.collects_of_gets_many
    rw [filled.many_eq]
  · refine .of_map (p := Parser.many1 p) (fun into fill filled => ?_) fun _ _ =>
      Parser.collects1_of_gets_many1
    rw [filled.many1_eq]
  · intro into fill filled n vs d
    rw [filled.many_eq, filled.many1_eq]
    exact ⟨Parser.exists_runsAgain fun _ _ _ => Parser.collects_of_gets_many,
      Parser.exists_runsAgain fun _ _ _ => Parser.collects1_of_gets_many1⟩

/-- Two runs over letters, with another letter after each: what a counter has in the second run are
the letters of that run. A list in the first run has the letters of the first. -/
theorem accumulators_alike_letters :
    let p : Parser Value := Parser.char 'a'
    let q : Parser Value := Parser.char 'b'
    let s : Settings := ⟨4, false⟩
    let c : Cursor := .plain (.ofValue (.str "aabab"))
    let runs (into : Collector) := Parser.count 2 ((into.many p).followedBy q)
    let d : Cursor := ⟨c.input, 5, none⟩
    let numbers : List Value := [.counter 2, .counter 1]
    (runs counter).Gets s c numbers d ∧
      (∃ values, Parser.RunsAgain (p.Collects s) q s c values d ∧ values.length = 2 ∧
        numbers = values.map fun vs => .counter vs.length) ∧
      EndTogether (fun into => (into.many p).run s c) (p.Collects s c) ∧
      (list.many p).Gets s c (.list [.str "a", .str "a"]) ⟨c.input, 2, none⟩ := by
  intro p q s c runs d numbers
  have got : (runs counter).Gets s c numbers d := rfl
  obtain ⟨-, together, -, again⟩ := accumulators_alike p q s c
  exact ⟨got, (again counter _ fills_counter 2 _ _).1 got, together, rfl⟩

end Collector

end ParserCombinators
