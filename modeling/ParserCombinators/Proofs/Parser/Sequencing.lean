import Mathlib.Tactic.Common
import ParserCombinators.Parser.Repetition
import ParserCombinators.Parser.Chain

/-!
# One parser after another, as one operation

All combinators that run one parser after another, or change the value of a parser, are `bind`
with a parser that depends on the value. So what is shown of `bind` and of the parsers that read
nothing holds of all of them.

## Main results

* `Parser.andThen_eq_bind`, `Parser.followedBy_eq_bind`, `Parser.pairWith_eq_bind` — sequencing.
* `Parser.map_eq_bind`, `Parser.transform_eq_bind`, `Parser.satisfying_eq_bind` — values.
* `Parser.succeed_bind`, `Parser.bind_succeed`, `Parser.bind_assoc` — the laws of `bind`.
* `Parser.sequence_cons`, `Parser.sequence_append`, `Parser.count_eq_sequence`, `Parser.count_add` —
  a fixed number of parsers.
* `Parser.sequencing_monadic` — all ways of running one parser after another, by `bind`.
* `Parser.sepBy1_eq_bind`, `Parser.chainl1_eq_bind`, `Parser.chainr1_eq_bind` — a first item and
  what follows it.
-/

set_option autoImplicit false

namespace ParserCombinators

namespace Parser

variable {α β γ ο : Type}

/-! ## Sequencing -/

/-- The value of the first parser is dropped. -/
lemma andThen_eq_bind (p : Parser α) (q : Parser β) : p.andThen q = p.bind fun _ => q := by
  refine Parser.ext (funext fun s => funext fun c => bind_congr ?_)
  rintro (⟨a, d⟩ | ⟨d, e⟩) <;> rfl

/-- The value of the second parser is dropped. -/
lemma followedBy_eq_bind (p : Parser α) (q : Parser β) :
    p.followedBy q = p.bind fun a => q.map fun _ => a := by
  refine Parser.ext (funext fun s => funext fun c => bind_congr ?_)
  intro reply
  cases reply with
  | ok a d =>
    refine bind_congr ?_
    rintro (⟨b, d⟩ | ⟨d, e⟩) <;> rfl
  | error d e => rfl

/-- Both values are kept. -/
lemma pairWith_eq_bind (p : Parser α) (q : Parser β) :
    p.pairWith q = p.bind fun a => q.map fun b => (a, b) := by
  refine Parser.ext (funext fun s => funext fun c => bind_congr ?_)
  intro reply
  cases reply with
  | ok a d =>
    refine bind_congr ?_
    rintro (⟨b, d⟩ | ⟨d, e⟩) <;> rfl
  | error d e => rfl

/-! ## Values -/

/-- A changed value is the value of a parser that reads nothing. -/
lemma map_eq_bind (p : Parser α) (f : α → β) : p.map f = p.bind fun a => succeed (f a) := by
  refine Parser.ext (funext fun s => funext fun c => bind_congr ?_)
  rintro (⟨a, d⟩ | ⟨d, e⟩) <;> rfl

/-- A value that a callback changed, or the fault that it raised. -/
lemma transform_eq_bind (p : Parser α) (f : α → Except Fault β) :
    p.transform f = p.bind fun a => ofExcept ((f a).map succeed) := by
  refine Parser.ext (funext fun s => funext fun c => bind_congr ?_)
  intro reply
  cases reply with
  | ok a d =>
    change Run.ofExcept (f a) >>= _ = (ofExcept ((f a).map succeed)).run s d
    cases f a with
    | ok b => exact Run.pure_bind' b _
    | error fault => rfl
  | error d e => rfl

/-- A tested value is kept or rejected where the parser stopped. -/
lemma satisfying_eq_bind (p : Parser α) (test : α → Except Fault Bool) :
    p.satisfying test = p.bind fun a =>
      ofExcept ((test a).map fun passed => if passed then succeed a else fail rejected) := by
  refine Parser.ext (funext fun s => funext fun c => bind_congr ?_)
  intro reply
  cases reply with
  | ok a d =>
    change Run.ofExcept (test a) >>= _ = (ofExcept ((test a).map _)).run s d
    cases test a with
    | ok passed => cases passed <;> exact Run.pure_bind' _ _
    | error fault => rfl
  | error d e => rfl

/-! ## Laws -/

/-- A value that was not read is passed on. -/
lemma succeed_bind (a : α) (f : α → Parser β) : (succeed a).bind f = f a :=
  Parser.ext (funext fun _ => funext fun c => Run.pure_bind' (Reply.ok a c) _)

/-- Passing the value on changes nothing. -/
lemma bind_succeed (p : Parser α) : p.bind succeed = p := by
  refine Parser.ext (funext fun s => funext fun c => ?_)
  refine Eq.trans (bind_congr ?_) (Run.bind_pure' (p.run s c))
  rintro (⟨a, d⟩ | ⟨d, e⟩) <;> rfl

/-- Of three parsers the first two or the last two may be taken together. -/
lemma bind_assoc (p : Parser α) (f : α → Parser β) (g : β → Parser γ) :
    (p.bind f).bind g = p.bind fun a => (f a).bind g := by
  refine Parser.ext (funext fun s => funext fun c => (Run.bind_assoc' _ _ _).trans (bind_congr ?_))
  rintro (⟨a, d⟩ | ⟨d, e⟩)
  · rfl
  · exact Run.pure_bind' _ _

/-- A changed value is passed on. -/
lemma map_bind (p : Parser α) (f : α → β) (g : β → Parser γ) :
    (p.map f).bind g = p.bind fun a => g (f a) := by
  simp only [map_eq_bind, bind_assoc, succeed_bind]

/-- A value that is passed on is changed in the end. -/
lemma bind_map (p : Parser α) (f : α → Parser β) (g : β → γ) :
    (p.bind f).map g = p.bind fun a => (f a).map g := by
  simp only [map_eq_bind, bind_assoc]

/-- A value is changed twice. -/
lemma map_map (p : Parser α) (f : α → β) (g : β → γ) :
    (p.map f).map g = p.map fun a => g (f a) := by
  simp only [map_eq_bind, bind_assoc, succeed_bind]

/-- A value that is changed into itself is the value. -/
lemma map_self (p : Parser α) : p.map (fun a => a) = p :=
  (map_eq_bind p _).trans (bind_succeed p)

/-- A callback that raises nothing changes the value. -/
lemma transform_ok (p : Parser α) (f : α → β) : (p.transform fun a => .ok (f a)) = p.map f := by
  rw [transform_eq_bind, map_eq_bind]
  rfl

/-- What a callback returned is handed to another callback, and what it raised ends both. -/
lemma transform_transform (p : Parser α) (f : α → Except Fault β) (g : β → Except Fault γ) :
    (p.transform f).transform g = p.transform fun a => f a >>= g := by
  simp only [transform_eq_bind, bind_assoc]
  refine congrArg p.bind (funext fun a => ?_)
  cases f a with
  | ok b => exact succeed_bind b _
  | error fault => rfl

/-- Only the value of the parser in the middle is kept. -/
lemma between_eq_bind (p : Parser α) (opening : Parser β) (closing : Parser γ) :
    p.between opening closing = opening.bind fun _ => p.bind fun a => closing.map fun _ => a := by
  rw [between, followedBy_eq_bind, andThen_eq_bind, bind_assoc]

/-! ## A fixed number of parsers -/

/-- A sequence after some values puts its own behind them. -/
private lemma sequenceFrom_eq (s : Settings) (ps : List (Parser α)) (done : Array α) (c : Cursor) :
    sequenceFrom s ps done c = ((sequence ps).map (done.toList ++ ·)).run s c := by
  induction ps generalizing done c with
  | nil =>
    refine Eq.trans ?_ (Run.pure_bind' (Reply.ok [] c) _).symm
    change pure (Reply.ok done.toList c) = pure (Reply.ok (done.toList ++ []) c)
    rw [List.append_nil]
  | cons p ps ih =>
    refine Eq.trans (bind_congr ?_) (Run.bind_assoc' _ _ _).symm
    rintro (⟨a, d⟩ | ⟨d, e⟩)
    · have whole : ((sequence ps).map ((done.push a).toList ++ ·)).run s d =
          (((sequence ps).map ([a] ++ ·)).map (done.toList ++ ·)).run s d := by
        simp only [map_map, Array.toList_push, List.append_assoc]
      refine (ih _ d).trans (whole.trans ?_)
      change ((sequence ps).map ([a] ++ ·)).run s d >>= _ = sequenceFrom s ps #[a] d >>= _
      rw [ih #[a] d]
    · exact (Run.pure_bind' _ _).symm

/-- A sequence is its first parser and the sequence of the others. -/
lemma sequence_cons (p : Parser α) (ps : List (Parser α)) :
    sequence (p :: ps) = p.bind fun a => (sequence ps).map (a :: ·) := by
  refine Parser.ext (funext fun s => funext fun c => bind_congr ?_)
  rintro (⟨a, d⟩ | ⟨d, e⟩)
  · exact sequenceFrom_eq s ps #[a] d
  · rfl

/-- A parser a fixed number of times is as many copies of it in order. -/
lemma count_eq_sequence (n : Nat) (p : Parser α) : count n p = sequence (List.replicate n p) := by
  have rounds (s : Settings) (done : Array α) (c : Cursor) :
      countFrom p s n done c = sequenceFrom s (List.replicate n p) done c := by
    induction n generalizing done c with
    | zero => rfl
    | succ n ih =>
      refine bind_congr ?_
      rintro (⟨a, d⟩ | ⟨d, e⟩)
      · exact ih _ d
      · rfl
  exact Parser.ext (funext fun s => funext fun c => rounds s #[] c)

/-- A sequence can be cut anywhere: its values are those of the first part and then those of the
others.

**Proof sketch.** Induction on the first part, with its first parser split off on both sides. -/
lemma sequence_append (ps qs : List (Parser α)) :
    sequence (ps ++ qs) = (sequence ps).bind fun as => (sequence qs).map (as ++ ·) := by
  induction ps with
  | nil =>
    have none : sequence ([] : List (Parser α)) = succeed [] := rfl
    simp only [none, succeed_bind, List.nil_append, map_self]
  | cons p ps ih =>
    simp only [List.cons_append, sequence_cons, ih, bind_assoc, bind_map, map_bind, map_map]

/-- Some rounds and then some more are as many rounds as both together. -/
lemma count_add (i j : Nat) (p : Parser α) :
    count (i + j) p = (count i p).bind fun as => (count j p).map (as ++ ·) := by
  rw [count_eq_sequence, ← List.replicate_append_replicate, sequence_append]
  simp only [count_eq_sequence]

/-- **Sequencing is monadic.** The laws of `bind` hold of all parsers: of three the first two or the
last two may be taken together, a value that was not read is passed on, and passing a value on
changes nothing. Callbacks one after the other are one callback, whether they return or raise. All
other ways of running one parser after another are `bind` with the values that they keep, and
`i + j` rounds are `i` rounds and then `j` more. The two sides are equal as parsers, so they agree
in value, cursor, error, fault and log, whether the parsers in them succeed, fail or raise. A
callback of `bind` that raises a fault returns `Parser.raise`.

**Proof sketch.** A parser is a function, and a run after another run is decided by how the first
one ends; so each law is a case distinction on the reply of the first parser. The last one is the
law of sequences that are cut (`Parser.sequence_append`). -/
theorem sequencing_monadic (p : Parser α) (q : Parser β) :
    (∀ (f : α → Parser β) (g : β → Parser γ),
      (p.bind f).bind g = p.bind fun a => (f a).bind g) ∧
    (∀ (a : α) (f : α → Parser β), (succeed a).bind f = f a) ∧
    p.bind succeed = p ∧
    (∀ (f : α → Except Fault β) (g : β → Except Fault γ),
      (p.transform f).transform g = p.transform fun a => f a >>= g) ∧
    (p.andThen q = p.bind fun _ => q) ∧
    (p.followedBy q = p.bind fun a => q.map fun _ => a) ∧
    (p.pairWith q = p.bind fun a => q.map fun b => (a, b)) ∧
    (∀ (opening : Parser β) (closing : Parser γ), p.between opening closing =
      opening.bind fun _ => p.bind fun a => closing.map fun _ => a) ∧
    ∀ i j, count (i + j) p = (count i p).bind fun as => (count j p).map fun bs => as ++ bs :=
  ⟨bind_assoc p, succeed_bind, bind_succeed p, transform_transform p, andThen_eq_bind p q,
    followedBy_eq_bind p q, pairWith_eq_bind p q, between_eq_bind p, fun i j => count_add i j p⟩

/-! ## A first item and what follows it -/

/-- A first item, and then any number of separators with an item after each. -/
lemma sepBy1_eq_bind (p : Parser α) (sep : Parser β) :
    sepBy1 p sep = p.bind fun a => (many (sep.andThen p)).map (a :: ·) := by
  refine Parser.ext (funext fun s => funext fun c => bind_congr ?_)
  intro reply
  cases reply with
  | ok a d =>
    refine bind_congr ?_
    rintro (⟨more, d⟩ | ⟨d, e⟩) <;> rfl
  | error d e => rfl

/-- The operators and operands after a first operand, folded from the left into `a`. -/
def chainlFrom (apply : ο → α → α → Except Fault α) (p : Parser α) (op : Parser ο) (a : α) :
    Parser α where
  run s c := Run.iterate (chainlRound apply p op s) s.fuel (c, a)

/-- A first operand, and then operators and operands that are folded into it. -/
lemma chainl1_eq_bind (apply : ο → α → α → Except Fault α) (p : Parser α) (op : Parser ο) :
    chainl1 apply p op = p.bind (chainlFrom apply p op) := by
  refine Parser.ext (funext fun s => funext fun c => bind_congr ?_)
  rintro (⟨a, d⟩ | ⟨d, e⟩) <;> rfl

/-- The operators and operands after a first operand. -/
def chainrRest (p : Parser α) (op : Parser ο) : Parser (List (ο × α)) where
  run s c := Run.iterate (chainrRound p op s) s.fuel (c, #[])

/-- A first operand, and then operators and operands that are folded once all are read. -/
lemma chainr1_eq_bind (apply : ο → α → α → Except Fault α) (p : Parser α) (op : Parser ο) :
    chainr1 apply p op = p.bind fun a => (chainrRest p op).transform (foldRight apply a) := by
  refine Parser.ext (funext fun s => funext fun c => bind_congr ?_)
  intro reply
  cases reply with
  | ok a d =>
    refine bind_congr ?_
    rintro (⟨scanned, d⟩ | ⟨d, e⟩) <;> rfl
  | error d e => rfl

/-- Folding raises only what the application of an operator raises. -/
lemma foldRight_error {apply : ο → α → α → Except Fault α} {a : α} {scanned : List (ο × α)}
    {fault : Fault} (h : foldRight apply a scanned = .error fault) :
    ∃ entry ∈ scanned, ∃ x y, apply entry.1 x y = .error fault := by
  induction scanned generalizing a with
  | nil => cases h
  | cons next scanned ih =>
    obtain ⟨f, b⟩ := next
    simp only [foldRight, Bind.bind, Except.bind] at h
    cases folded : foldRight apply b scanned with
    | ok c =>
      rw [folded] at h
      exact ⟨(f, b), List.mem_cons_self, a, c, h⟩
    | error fault' =>
      rw [folded] at h
      cases h
      obtain ⟨entry, mem, raised⟩ := ih folded
      exact ⟨entry, List.mem_cons_of_mem _ mem, raised⟩

end Parser

end ParserCombinators
