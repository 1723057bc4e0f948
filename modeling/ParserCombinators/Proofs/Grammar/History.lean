import Mathlib.Data.List.OfFn
import ParserCombinators.Grammar.Meaning
import ParserCombinators.Proofs.Parser.Log

/-!
# The history of a run

The history of a run of a grammar is every run of a grammar inside it, with its beginning and its
end, in the order in which they take place: those of alternatives that were given up and of looking
ahead as well, and all up to a fault. It is told by the endings alone, and nothing of it is logged.
The log of the run is what the traces in this history have to say.

## Main definitions

* `Moment` — a run of a grammar begins or ends.
* `Grammar.history`, `Naming.past`, `Grammar.historyUnder` — the moments of a run in their order.
* `Moment.event?` — what is logged at a moment.

## Main results

* `Grammar.events_toParser` — one level of references: by induction on the grammar.
* `Grammar.events_parserUnder` — the log of a run is what is logged at the moments of its history.
-/

set_option autoImplicit false

namespace ParserCombinators

/-! ## Histories -/

/-- A run of a grammar begins or ends. -/
inductive Moment where
  /-- The run of the grammar begins at a cursor. -/
  | enter (g : Grammar) (c : Cursor)
  /-- The run of the grammar that began at a cursor ends. -/
  | leave (g : Grammar) (c : Cursor) (ending : Ending (Reply Value))

namespace Collector

/-- Whether a collection begins; only one of the caller's own can fail to. -/
def begins : Collector → Except Fault Value
  | own empty _ => empty
  | list | deque | counter | nothing => .ok .none

/-- Whether a collection takes a value; only one of the caller's own can refuse it. -/
def takes : Collector → Value → Value → Except Fault Value
  | own _ push => push
  | list | deque | counter | nothing => fun _ _ => .ok .none

end Collector

namespace Grammar

section History

variable (deref : String → Parser Value) (past : String → Cursor → List Moment) (s : Settings)

/-- How the run of a grammar ends. -/
def ending (g : Grammar) (c : Cursor) : Ending (Reply Value) :=
  ((g.toParser deref).run s c).ending

/-- The moments of a run of a grammar, in their order: it begins, then there are the moments of the
runs inside it, and it ends. Which runs are inside it depends on how those before end. `deref` gives
the parser of each name, and `past` the moments of its run. -/
def history (g : Grammar) (c : Cursor) : List Moment :=
  .enter g c :: ((match g with
    | raise _ | succeed _ | fail _ | endOfInput | token _ _ | literal _ | trace _ => []
    | satisfying p _ | transform p _ | attempt p | lookAhead p | notFollowedBy p | withContext p _
    | withMessage p _ | delayed p => history p c
    | andThen p q | followedBy p q | pairWith p q | both p q =>
      history p c ++ (ending deref s p c).ifOk fun _ d => history q d
    | sequence _ parts =>
      Parser.inOrder s (List.ofFn fun i => ((parts i).toParser deref, history (parts i))) c
    | bind p f => history p c ++ (ending deref s p c).ifOk fun v d => history (f v) d
    | orElse p q => history p c ++ (ending deref s p c).ifMissed c (history q c)
    | many into p =>
      (Run.ofExcept into.begins).ending.after fun b =>
        Run.along (Parser.manyByRound into.takes (p.toParser deref) c s)
          (fun (m, _) => history p m) s.fuel (c, b)
    | many1 into p =>
      history p c ++ (ending deref s p c).ifOk fun a d =>
        (Run.ofExcept (into.begins >>= (into.takes · a))).ending.after fun b =>
          Run.along (Parser.manyByRound into.takes (p.toParser deref) c s)
            (fun (m, _) => history p m) s.fuel (d, b)
    | count n p => Parser.inOrder s (List.replicate n (p.toParser deref, history p)) c
    | sepBy1 p sep =>
      history p c ++ (ending deref s p c).ifOk fun _ d =>
        Run.along (Parser.manyByRound (fun _ _ => .ok ())
            ((sep.toParser deref).andThen (p.toParser deref)) d s)
          (fun (m, _) => history sep m ++ (ending deref s sep m).ifOk fun _ d => history p d)
          s.fuel (d, ())
    | sepEndBy1 p sep =>
      history p c ++ (ending deref s p c).ifOk fun a d =>
        Run.along (Parser.sepEndByRound (p.toParser deref) (sep.toParser deref) c s)
          (fun (m, _) => history sep m ++ (ending deref s sep m).ifOk fun _ d => history p d)
          s.fuel (d, #[a])
    | manyTill p stop =>
      Run.along (Parser.tillRound (p.toParser deref) (stop.toParser deref) c s)
        (fun (m, _) => history stop m ++ (ending deref s stop m).ifMissed m (history p m))
        s.fuel (c, #[])
    | many1Till p stop =>
      history p c ++ (ending deref s p c).ifOk fun a d =>
        Run.along (Parser.tillRound (p.toParser deref) (stop.toParser deref) c s)
          (fun (m, _) => history stop m ++ (ending deref s stop m).ifMissed m (history p m))
          s.fuel (d, #[a])
    | chainl1By apply p op =>
      history p c ++ (ending deref s p c).ifOk fun a d =>
        Run.along (Parser.chainlRound apply (p.toParser deref) (op.toParser deref) s)
          (fun (m, _) => history op m ++ (ending deref s op m).ifOk fun _ d => history p d)
          s.fuel (d, a)
    | chainr1By _ p op =>
      history p c ++ (ending deref s p c).ifOk fun _ d =>
        Run.along (Parser.chainrRound (p.toParser deref) (op.toParser deref) s)
          (fun (m, _) => history op m ++ (ending deref s op m).ifOk fun _ d => history p d)
          s.fuel (d, #[])
    | traced label p => ((Parser.trace label).run s c).ending.ifOk fun _ _ => history p c
    | reference name => past name c) ++
  [.leave g c (ending deref s g c)])

end History

end Grammar

/-- The moments of the run of a name, when references are nested at most `depth` deep. -/
def Naming.past (naming : Naming) (s : Settings) : Nat → String → Cursor → List Moment
  | 0, _, _ => []
  | depth + 1, name, c =>
    match naming name with
    | some g => g.history (naming.parserOf depth) (naming.past s depth) s c
    | none => []

/-- The moments of a run of a grammar whose names stand for grammars. -/
def Grammar.historyUnder (naming : Naming) (g : Grammar) (s : Settings) (c : Cursor) :
    List Moment :=
  g.history (naming.parserOf s.fuel) (naming.past s s.fuel) s c

/-! ## The log -/

/-- What is logged at a moment of a run that is traced: where a trace or a traced grammar begins and
can look at the input, the symbols that come next; where a traced grammar ends with a failure, that
it did. -/
def Moment.event? : Moment → Option Event
  | .enter (.trace label) c | .enter (.traced label _) c =>
    if c.input.isReadable then some (Parser.entry label c) else none
  | .leave (.traced label _) c (.done (.error _ _)) => some (.backtracked label c.place)
  | _ => none

/-- What a run with these settings logs at a moment: nothing if it is not traced. -/
def Settings.logged? (s : Settings) (moment : Moment) : Option Event :=
  if s.tracing then moment.event? else none

namespace Collector

variable {p : Parser Value} {s : Settings} {c : Cursor}

/-- Whatever a repetition collects its values into, it logs what its rounds do. -/
lemma events_many (into : Collector) :
    (into.many p).events s c = (Run.ofExcept into.begins).ending.after fun b =>
      Run.along (Parser.manyByRound into.takes p c s) (fun state => p.events s state.1) s.fuel
        (c, b) := by
  cases into with
  | own empty push => exact Parser.events_manyBy empty push
  | _ =>
    simp only [many, Parser.events_map, Parser.events_many, Parser.skipMany, Parser.events_manyInto]
    exact Parser.along_manyByRound_congr _ _ p c s (p.events s) s.fuel c _ _

/-- A first item logs before the rounds. -/
lemma events_many1 (into : Collector) :
    (into.many1 p).events s c = p.events s c ++ (p.run s c).ending.ifOk fun a d =>
      (Run.ofExcept (into.begins >>= (into.takes · a))).ending.after fun b =>
        Run.along (Parser.manyByRound into.takes p c s) (fun state => p.events s state.1) s.fuel
          (d, b) := by
  cases into with
  | own empty push => exact Parser.events_many1By empty push
  | _ =>
    simp only [many1, Parser.events_map, Parser.many1, Parser.skipMany1, Parser.events_many1Into]
    refine congrArg _ (congrArg _ (funext fun a => funext fun d => ?_))
    exact Parser.along_manyByRound_congr _ _ p c s (p.events s) s.fuel d _ _

end Collector

namespace Grammar

variable {deref : String → Parser Value} {past : String → Cursor → List Moment} {s : Settings}

/-- Whether a grammar itself logs something. -/
def isTrace : Grammar → Bool
  | trace _ | traced _ _ => true
  | _ => false

/-- What is logged from the beginning to the end of a run: something at the beginning, what the runs
inside log, and something at the end. -/
private lemma filterMap_framed (first last : Moment) (inside : List Moment) :
    (first :: (inside ++ [last])).filterMap s.logged? =
      (s.logged? first).toList ++ (inside.filterMap s.logged? ++ (s.logged? last).toList) := by
  rw [← List.singleton_append, List.filterMap_append, List.filterMap_append]
  congr

/-- A grammar that is no trace logs only what the runs inside it log. -/
private lemma filterMap_quiet {g : Grammar} (quiet : g.isTrace = false) (c : Cursor)
    (ending : Ending (Reply Value)) (inside : List Moment) :
    (.enter g c :: (inside ++ [.leave g c ending])).filterMap s.logged? =
      inside.filterMap s.logged? := by
  cases g <;> simp_all [isTrace, Settings.logged?, Moment.event?]

/-- Where a trace or a traced grammar begins, what a trace logs is logged. -/
private lemma logged_enter (label : String) (p : Grammar) (c : Cursor) :
    (s.logged? (.enter (.trace label) c)).toList = (Parser.trace label).events s c ∧
    (s.logged? (.enter (.traced label p) c)).toList = (Parser.trace label).events s c := by
  rw [Parser.events_trace]
  cases traced : s.tracing <;> cases readable : c.input.isReadable <;>
    simp [Settings.logged?, Moment.event?, traced, readable]

/-- Where a traced grammar ends with a failure, that it did is logged. -/
private lemma logged_leave (label : String) (p : Grammar) (c : Cursor)
    (ending : Ending (Reply Value)) :
    (s.logged? (.leave (.traced label p) c ending)).toList =
      ending.ifFailed ((Parser.traceFailure label : Parser Value).events s c) := by
  rw [Parser.events_traceFailure]
  rcases ending with (⟨a, d⟩ | ⟨d, e⟩) | fault | _ <;> cases traced : s.tracing <;>
    simp [Settings.logged?, Moment.event?, traced, Ending.ifFailed, Ending.after]

/-- A grammar logs what is logged at the moments of its history, if all the parsers do that its
names stand for.

**Proof sketch.** Induction on the grammar, with one case for each way of putting a grammar
together. Only traces log anything themselves; for all other grammars the log is put together from
those of the runs inside it as the history is from theirs. -/
lemma events_toParser (names : ∀ name c, (deref name).events s c =
    (past name c).filterMap s.logged?) (g : Grammar) (c : Cursor) :
    (g.toParser deref).events s c = (g.history deref past s c).filterMap s.logged? := by
  induction g generalizing c with
  -- There are no runs inside.
  | raise _ | succeed _ | fail _ | endOfInput | token _ _ | literal _ =>
    rw [history, filterMap_quiet rfl]
    simp only [toParser, Parser.events_raise, Parser.events_succeed, Parser.events_fail,
      Parser.events_map, Parser.events_endOfInput, Parser.events_token, Parser.events_literal,
      List.filterMap_nil]
  -- There is one, from the same cursor.
  | satisfying p _ hp | transform p _ hp | attempt p hp | lookAhead p hp | notFollowedBy p hp
  | withContext p _ hp | withMessage p _ hp | delayed p hp =>
    rw [history, filterMap_quiet rfl, ← hp]
    simp only [toParser, Parser.events_satisfying, Parser.events_transform, Parser.events_attempt,
      Parser.events_lookAhead, Parser.events_map, Parser.events_notFollowedBy,
      Parser.events_withContext, Parser.events_withMessage]
  | andThen p q hp hq | followedBy p q hp hq | pairWith p q hp hq | both p q hp hq =>
    rw [history, filterMap_quiet rfl]
    simp only [toParser, Parser.events_map, Parser.events_andThen, Parser.events_followedBy,
      Parser.events_pairWith, List.filterMap_append, Ending.filterMap_ifOk, ending, hp, hq]
  | sequence n parts ih =>
    rw [history, filterMap_quiet rfl]
    simp only [toParser, Parser.events_map, Parser.events_sequence, Parser.filterMap_inOrder,
      List.map_ofFn, Function.comp_def, funext (ih _)]
  | bind p f hp hf =>
    rw [history, filterMap_quiet rfl]
    simp only [toParser, Parser.events_bind, List.filterMap_append, Ending.filterMap_ifOk, ending,
      hp, hf]
  | orElse p q hp hq =>
    rw [history, filterMap_quiet rfl]
    simp only [toParser, Parser.events_orElse, List.filterMap_append, Ending.filterMap_ifMissed,
      ending, hp, hq]
  | many into p hp =>
    rw [history, filterMap_quiet rfl]
    simp only [toParser, Collector.events_many, Ending.filterMap_after, Run.filterMap_along, hp]
  | many1 into p hp =>
    rw [history, filterMap_quiet rfl]
    simp only [toParser, Collector.events_many1, List.filterMap_append, Ending.filterMap_ifOk,
      Ending.filterMap_after, Run.filterMap_along, ending, hp]
  | count n p hp =>
    rw [history, filterMap_quiet rfl]
    simp only [toParser, Parser.events_map, Parser.events_count, Parser.filterMap_inOrder,
      List.map_replicate, funext hp]
  | sepBy1 p q hp hq | sepEndBy1 p q hp hq | manyTill p q hp hq | many1Till p q hp hq
  | chainl1By apply p q hp hq | chainr1By apply p q hp hq =>
    rw [history, filterMap_quiet rfl]
    simp only [toParser, Parser.events_map, Parser.events_sepBy1, Parser.events_sepEndBy1,
      Parser.events_manyTill, Parser.events_many1Till, Parser.events_chainl1,
      Parser.events_chainr1, List.filterMap_append, Ending.filterMap_ifOk,
      Ending.filterMap_ifMissed, Run.filterMap_along, ending, hp, hq]
  -- Only here something is logged at the beginning and at the end themselves.
  | trace label =>
    rw [history, filterMap_framed, (logged_enter label default c).1, toParser, Parser.events_map]
    simp [Settings.logged?, Moment.event?]
  | traced label p hp =>
    rw [history, filterMap_framed, (logged_enter label p c).2, logged_leave,
      Ending.filterMap_ifOk, toParser, Parser.events_traced]
    simp only [ending, toParser, hp]
  | reference name =>
    rw [history, filterMap_quiet rfl]
    exact names name c

end Grammar

/-- A name logs what is logged at the moments of its past, however deep its references are
nested. -/
lemma Naming.events_parserOf (naming : Naming) (s : Settings) (depth : Nat) (name : String)
    (c : Cursor) :
    (naming.parserOf depth name).events s c =
      (naming.past s depth name c).filterMap s.logged? := by
  induction depth generalizing name c with
  | zero => rfl
  | succ depth ih =>
    simp only [Parser.events, parserOf, past]
    cases naming name with
    | some g => exact g.events_toParser ih c
    | none => rfl

/-- **The log of a run is what is logged at the moments of its history**, whatever the names of the
grammar stand for and however the run ends. -/
lemma Grammar.events_parserUnder (naming : Naming) (g : Grammar) (s : Settings) (c : Cursor) :
    (g.parserUnder naming).events s c = (g.historyUnder naming s c).filterMap s.logged? :=
  g.events_toParser (naming.events_parserOf s s.fuel) c

end ParserCombinators
