import ParserCombinators.Grammar.Character
import ParserCombinators.Proofs.Grammar.Correspondence
import ParserCombinators.Proofs.Grammar.History

/-!
# Tracing changes nothing

Over an input that is a sequence, a trace succeeds and consumes nothing, and a traced grammar ends
as its body does, but with every failure taken back to its beginning and told by one message. So a
grammar ends alike whether or not its run is traced, and alike with its traces taken out. What is
logged is exactly what takes place.

## Main definitions

* `Grammar.untraced`, `Naming.untraced` — a grammar without traces, and names for such grammars.
* `Correspondence.traceless` — two runs over a sequence, either of which may be traced.

## Main results

* `Grammar.ending_untrace` — a single grammar ends like the one without its own trace.
* `Grammar.tracing_transparent` — tracing decides nothing, and the log tells what took place.
-/

set_option autoImplicit false

namespace ParserCombinators

/-! ## Grammars without traces -/

namespace Grammar

/-- A single grammar without its own trace: a trace becomes a success with no value, and a traced
grammar its body, with its failures taken back and told by the message of the trace. -/
def untrace : Grammar → Grammar
  | trace _ => succeed .none
  | traced label p => withMessage (attempt p) (label ++ " backtracked and parser failed")
  | g => g

/-- A grammar without any traces, neither its own nor those of what it is put together from. -/
def untraced (g : Grammar) : Grammar :=
  g.rewrite untrace

end Grammar

/-- The names stand for grammars without traces. -/
def Naming.untraced (naming : Naming) : Naming :=
  naming.rewrite Grammar.untrace

/-! ## Runs that may be traced -/

/-- The cursors are the same, over an input that is a sequence. -/
private lemma sameView_readable :
    SameView fun c d => c = d ∧ c.input.isReadable = true where
  isReadable_eq same := by rw [same.1]
  get?_eq same _ := by rw [same.1]
  advance same _ := ⟨by rw [same.1], by rw [Cursor.input_advance, same.2]⟩
  offset_eq_iff same same' := by rw [same.1, same'.1]

/-- Two runs with as much fuel, each traced or not, from the same cursor over a sequence. -/
def Correspondence.traceless : Correspondence where
  settings s t := s.fuel = t.fuel
  cursors c d := c = d ∧ c.input.isReadable = true
  errors := Eq
  fuel_eq same := same
  tracing _ same := .inr same.2
  view := sameView_readable
  reports := sameReports_eq fun _ _ same _ => by rw [same.1]

/-- Runs with replies that belong together end with the same. -/
lemma Correspondence.ending_eq_of_traceless {α : Type} {x y : Run (Reply α)}
    (h : x.Alike (Correspondence.traceless.Replies Eq) y) : x.ending = y.ending :=
  Correspondence.ending_eq h (fun _ _ same => same.1) fun _ _ same => same

namespace Grammar

/-- Over a sequence a single grammar ends like the one without its own trace. -/
lemma ending_untrace (deref : String → Parser Value) (q : Grammar) (s : Settings) (c : Cursor)
    (readable : c.input.isReadable = true) :
    ((q.untrace.toParser deref).run s c).ending = ((q.toParser deref).run s c).ending := by
  have looks : ¬ (s.tracing = true ∧ c.input.isReadable = false) := by simp [readable]
  cases q with
  | trace label =>
    have reached := Parser.ending_trace label s c
    rw [if_neg looks] at reached
    simp only [untrace, toParser, Parser.map, Run.ending_bind_of_done reached]
    rfl
  | traced label p =>
    refine Eq.trans ?_ (Parser.ending_traced label (p.toParser deref) s c).symm
    rw [if_neg looks]
    rfl
  | _ => rfl

/-- To take out single traces keeps what corresponds to the grammars. -/
lemma keeps_untrace : Correspondence.traceless.Keeps untrace where
  isJoined_eq q := by cases q <;> rfl
  corresponds {deref p q} h := by
    intro s t c d settings cursors
    have readable : d.input.isReadable = true := cursors.1 ▸ cursors.2
    rw [Run.Alike, ending_untrace deref q t d readable]
    exact h s t c d settings cursors

/-- **Tracing changes nothing, and tells what takes place.** Over an input that is a sequence, a
grammar ends in the same way with any settings that have as much fuel, be they traced or not: with
the same fault, or the same value or error at the same cursor. So does the grammar without its
traces. An untraced run logs nothing. A traced run logs, in the order in which they take place, each
trace that is reached, each traced grammar that is begun, and each failure of one; that is what is
logged at the moments of its history, in which the runs of abandoned alternatives and of looking
ahead are, and all runs up to a fault. What is logged are events with the symbols that come next;
their lines are written from them after the run (`Event.text`), and to write out a symbol is taken
to return.

**Proof sketch.** A trace reads nothing, so traced and untraced runs correspond
(`Grammar.corresponds_parserUnder`), and so do a grammar and what it is rewritten into without
traces (`Grammar.corresponds_rewrite_parserUnder`, `Grammar.keeps_untrace`). The log is put together
from those of the runs inside as the history is from theirs (`Grammar.events_parserUnder`). -/
theorem tracing_transparent (naming : Naming) (g : Grammar) (s : Settings) (c : Cursor)
    (readable : c.input.isReadable = true) :
    (∀ t : Settings, t.fuel = s.fuel →
      ((g.parserUnder naming).run t c).ending = ((g.parserUnder naming).run s c).ending ∧
      ((g.untraced.parserUnder naming.untraced).run t c).ending =
        ((g.parserUnder naming).run s c).ending) ∧
    (s.tracing = false → ((g.parserUnder naming).run s c).log = #[]) ∧
    (s.tracing = true → ((g.parserUnder naming).run s c).log.toList =
      (g.historyUnder naming s c).filterMap Moment.event?) := by
  have admitted : g.Everywhere naming Correspondence.traceless.Admits :=
    Correspondence.everywhere_admits fun _ => rfl
  have log := g.events_parserUnder naming s c
  refine ⟨fun t fuel => ⟨?_, ?_⟩, fun untraced => ?_, fun traced => ?_⟩
  · exact Correspondence.ending_eq_of_traceless
      (corresponds_parserUnder admitted t s c c fuel ⟨rfl, readable⟩)
  · exact (Correspondence.ending_eq_of_traceless
      (corresponds_rewrite_parserUnder keeps_untrace admitted s t c c fuel.symm
        ⟨rfl, readable⟩)).symm
  · have nothing : s.logged? = fun _ => none := funext fun _ => by simp [Settings.logged?, untraced]
    rw [nothing] at log
    simpa [Parser.events] using log
  · have all : s.logged? = Moment.event? := funext fun _ => by simp [Settings.logged?, traced]
    rwa [all] at log

/-- Two letters that are traced and looked ahead to, and in their stead, because the second one is
another, the first one alone. The log tells of the letters, of the trace between them and of their
failure before it tells of the letter that is read. -/
theorem tracing_transparent_letters :
    let letters : Grammar :=
      traced "letters" ((char 'a').andThen ((trace "second").andThen (char 'b')))
    let naming : Naming := fun _ => some letters
    let g : Grammar := ((reference "letters").lookAhead).orElse (traced "letter" (char 'a'))
    let s : Settings := ⟨1, true⟩
    let c : Cursor := .plain (.ofValue (.str "ac"))
    let d : Cursor := ⟨c.input, 1, none⟩
    let run := (g.parserUnder naming).run s c
    c.input.isReadable = true ∧ s.tracing = true ∧
      run.ending = .done (.ok (.ofChar 'a') d) ∧
      ((g.untraced.parserUnder naming.untraced).run ⟨1, false⟩ c).ending = run.ending ∧
      run.log.toList = (g.historyUnder naming s c).filterMap Moment.event? ∧
      run.log.toList.map Event.text = ["letters: 'ac' at 0", "second: 'c' at 1",
        "letters backtracked at 0", "letter: 'ac' at 0"] := by
  intro letters naming g s c d run
  have readable : c.input.isReadable = true := rfl
  have traced : s.tracing = true := rfl
  obtain ⟨alike, -, log⟩ := tracing_transparent naming g s c readable
  exact ⟨readable, traced, rfl, (alike ⟨1, false⟩ rfl).2, log traced, by decide +kernel⟩

end Grammar

end ParserCombinators
