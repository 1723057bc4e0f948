import ParserCombinators.Proofs.Grammar.Mismatch
import ParserCombinators.Proofs.Parser.Alternation

/-!
# Literals never half-consume

A literal compares its items with the symbols after the cursor, one by one. Either all of them
agree, and the cursor moves past them, or the reply is at the very cursor where the literal began,
with the first symbol that differs in its error. So a literal leaves every alternative after it
open, and a choice between literals takes the first one that is there.

## Main definitions

* `Input.AgreesAt` — the symbols from an index on are the given items.

## Main results

* `Input.le_agreement_iff` — the agreement is the length of the longest part that is there.
* `Parser.attempt_literal` — a literal has nothing to go back from.
* `Parser.literal_exact` — the reply of a literal, and of a choice between literals.
-/

set_option autoImplicit false

namespace ParserCombinators

namespace Input

variable {input : Input} {i k : Nat} {item : Value} {items : List Value}

/-- The symbols from an index on are equal to the given items one by one, so there are at least as
many of them. -/
def AgreesAt (input : Input) (i : Nat) (items : List Value) : Prop :=
  ∀ k, (inside : k < items.length) →
    ∃ symbol, input.get? (i + k) = some symbol ∧ symbol.same items[k] = true

/-- With no items every input agrees. -/
lemma agreesAt_nil (input : Input) (i : Nat) : input.AgreesAt i [] :=
  fun _ inside => absurd inside (Nat.not_lt_zero _)

/-- The first item is the symbol at the index, and the others are those from the next one on. -/
lemma agreesAt_cons_iff : input.AgreesAt i (item :: items) ↔
    (∃ symbol, input.get? i = some symbol ∧ symbol.same item = true) ∧
      input.AgreesAt (i + 1) items := by
  constructor
  · intro agrees
    refine ⟨agrees 0 (Nat.succ_pos _), fun k inside => ?_⟩
    rw [Nat.add_right_comm]
    exact agrees (k + 1) (Nat.succ_lt_succ inside)
  · rintro ⟨first, others⟩ k inside
    cases k with
    | zero => exact first
    | succ k =>
      rw [← Nat.add_assoc, Nat.add_right_comm]
      exact others k (Nat.lt_of_succ_lt_succ inside)

/-- **The agreement is the longest common part:** as many items as it says are there, and no more.

**Proof sketch.** Induction on the items; both sides look at the symbol at the index and go on at
the next one. -/
lemma le_agreement_iff (bound : k ≤ items.length) :
    k ≤ input.agreement i items ↔ input.AgreesAt i (items.take k) := by
  induction items generalizing i k with
  | nil =>
    obtain rfl : k = 0 := Nat.le_zero.1 bound
    simp [agreesAt_nil]
  | cons item items ih =>
    cases k with
    | zero => simp [agreesAt_nil]
    | succ k =>
      rw [List.take_succ_cons, agreesAt_cons_iff, ← ih (Nat.le_of_succ_le_succ bound)]
      cases there : input.get? i with
      | none => simp [agreement_of_none there]
      | some symbol =>
        rw [agreement_cons there]
        by_cases same : symbol.same item = true
        · simp [same]
        · simp [same]

end Input

namespace Parser

variable {s : Settings} {c d : Cursor} {v expected : Value} {items : List Value}

/-- A literal finds no mismatch exactly if all its items are there. -/
lemma firstMismatch_none_iff_agreesAt (c : Cursor) (k : Nat) (items : List Value) :
    firstMismatch c k items = none ↔ c.input.AgreesAt (c.offset + k) items := by
  induction items generalizing k with
  | nil => simp [firstMismatch, Input.agreesAt_nil]
  | cons item items ih =>
    rw [firstMismatch, Input.agreesAt_cons_iff, Nat.add_assoc, ← ih]
    cases there : c.input.get? (c.offset + k) with
    | none => simp
    | some symbol =>
      by_cases same : symbol.same item = true
      · simp [same]
      · simp [same]

section Readable

variable (sequence : expected.items? = some items) (readable : c.input.isReadable = true)

include sequence readable

/-- A literal whose items are there is consumed. -/
lemma run_literal_of_agreesAt (agrees : c.input.AgreesAt c.offset items) :
    (literal expected).run s c = pure (.ok expected (c.advance items.length)) := by
  have all : firstMismatch c 0 items = none := (firstMismatch_none_iff_agreesAt c 0 items).2 agrees
  simp only [literal, sequence, symbols, look_of_readable readable, Run.pure_bind', all]

/-- A literal whose items are not all there fails where it began. Its error names the first item
that differs and what was found in its stead, and above that what has been seen of the literal. -/
lemma run_literal_of_not_agreesAt (differs : ¬ c.input.AgreesAt c.offset items) :
    ∃ inside : c.input.agreement c.offset items < items.length,
      (literal expected).run s c = pure (.error c
        ⟨.atom items[c.input.agreement c.offset items]
            (c.input.found (c.offset + c.input.agreement c.offset items)),
          [.literal expected (c.input.extract c.offset
            (c.offset + c.input.agreement c.offset items + 1)).toValue]⟩) := by
  match mismatch : firstMismatch c 0 items with
  | none => exact absurd ((firstMismatch_none_iff_agreesAt c 0 items).1 mismatch) differs
  | some (i, atom, found) =>
    obtain ⟨index, atom_eq, rfl⟩ := firstMismatch_spec mismatch
    rw [Nat.add_zero, Nat.zero_add] at index
    rw [Nat.add_zero] at atom_eq
    obtain ⟨inside, rfl⟩ := List.getElem?_eq_some_iff.1 atom_eq
    refine ⟨inside, ?_⟩
    simp only [literal, sequence, symbols, look_of_readable readable, Run.pure_bind', mismatch]
    rw [literalError, Cursor.peek_natCast, index, Nat.add_assoc]

/-- A literal succeeds exactly where the symbols agree, with itself as value, behind them. -/
lemma gets_literal_iff : (literal expected).Gets s c v d ↔
    c.input.AgreesAt c.offset items ∧ v = expected ∧ d = c.advance items.length := by
  by_cases agrees : c.input.AgreesAt c.offset items
  · rw [Gets, run_literal_of_agreesAt sequence readable agrees]
    constructor
    · intro got
      cases got
      exact ⟨agrees, rfl, rfl⟩
    · rintro ⟨-, rfl, rfl⟩
      rfl
  · obtain ⟨_, failed⟩ := run_literal_of_not_agreesAt (s := s) sequence readable agrees
    rw [Gets, failed]
    constructor
    · intro got
      cases got
    · exact fun there => absurd there.1 agrees

/-- A literal that does not succeed leaves the next alternative to be tried. -/
lemma misses_literal_iff :
    (literal expected).Misses s c ↔ ¬ c.input.AgreesAt c.offset items := by
  constructor
  · rintro ⟨d, e, failed, -⟩ agrees
    have got := (gets_literal_iff (s := s) sequence readable).2 ⟨agrees, rfl, rfl⟩
    cases failed.symm.trans got
  · intro differs
    obtain ⟨_, failed⟩ := run_literal_of_not_agreesAt (s := s) sequence readable differs
    exact ⟨c, _, congrArg Run.ending failed, rfl⟩

end Readable

/-- **A literal has nothing to go back from:** to try it is to run it. -/
lemma attempt_literal (expected : Value) : (literal expected).attempt = literal expected := by
  refine Parser.ext (funext fun s => funext fun c => ?_)
  have stays : (literal expected).FailsAs s c (fun d _ => d = c) fun _ => True :=
    failsAs_literal (fun _ => trivial) (fun _ => trivial) fun _ _ _ _ _ _ => rfl
  refine Eq.trans (Run.bind_congr_of_done fun reply ending => ?_) (Run.bind_pure' _)
  cases reply with
  | ok v d => rfl
  | error d e => rw [stays.fails ending]

/-- A choice between literals takes the first one that is there. -/
lemma gets_choice_literal_iff {es : List Value}
    (sequences : ∀ e ∈ es, ∃ items, e.items? = some items)
    (readable : c.input.isReadable = true) :
    (choice (es.map literal)).Gets s c v d ↔ ∃ before after items, es = before ++ v :: after ∧
      (∀ e ∈ before, ∀ items, e.items? = some items → ¬ c.input.AgreesAt c.offset items) ∧
      v.items? = some items ∧ c.input.AgreesAt c.offset items ∧ d = c.advance items.length := by
  rw [gets_choice_iff]
  constructor
  · rintro ⟨missed, p, others, split, misses, got⟩
    obtain ⟨before, rest, rfl, rfl, tail⟩ := List.map_eq_append_iff.1 split
    obtain ⟨e, after, rfl, rfl, -⟩ := List.map_eq_cons_iff.1 tail
    obtain ⟨items, sequence⟩ := sequences e (by simp)
    obtain ⟨agrees, rfl, rfl⟩ := (gets_literal_iff sequence readable).1 got
    refine ⟨before, after, items, rfl, fun e earlier items sequence => ?_, sequence, agrees, rfl⟩
    exact (misses_literal_iff sequence readable).1 (misses _ (List.mem_map_of_mem earlier))
  · rintro ⟨before, after, items, rfl, differ, sequence, agrees, rfl⟩
    refine ⟨before.map literal, literal v, after.map literal, by simp, fun q missed => ?_,
      (gets_literal_iff sequence readable).2 ⟨agrees, rfl, rfl⟩⟩
    obtain ⟨e, earlier, rfl⟩ := List.mem_map.1 missed
    obtain ⟨items, sequence⟩ := sequences e (List.mem_append_left _ earlier)
    exact (misses_literal_iff sequence readable).2 (differ e earlier items sequence)

/-- **A literal matches exactly and never half-consumes.** At every cursor over a sequence, be it
past the end, a literal succeeds exactly if its items are the symbols from the offset on. Its value
is then the literal itself and its cursor is as many symbols further on. Otherwise its cursor is the
one where it began, and its error has two frames: the first item that differs with what was found in
its stead, which is the end of the input where that is too short, and the literal with the symbols
that have been looked at. Of a list of literals, a choice takes the first one that is there, and to
try them instead of running them changes nothing.

**Proof sketch.** The comparison stops at the end of the longest common part
(`Parser.firstMismatch_spec`, `Input.le_agreement_iff`). A failure is at the cursor where the
literal began, so the alternatives after it are run (`Parser.gets_choice_iff`). -/
theorem literal_exact (s : Settings) (c : Cursor) (readable : c.input.isReadable = true) :
    (∀ expected items, expected.items? = some items →
      ((∃ v d, (literal expected).Gets s c v d) ↔ c.input.AgreesAt c.offset items) ∧
      (c.input.AgreesAt c.offset items →
        (literal expected).run s c = pure (.ok expected (c.advance items.length)) ∧
          (c.advance items.length).offset = c.offset + items.length) ∧
      (¬ c.input.AgreesAt c.offset items →
        ∃ i, ∃ inside : i < items.length,
          (∀ k ≤ items.length, c.input.AgreesAt c.offset (items.take k) ↔ k ≤ i) ∧
          (literal expected).run s c = pure (.error c
            ⟨.atom items[i] (c.input.found (c.offset + i)),
              [.literal expected (c.input.extract c.offset (c.offset + i + 1)).toValue]⟩))) ∧
    ∀ es : List Value, (∀ e ∈ es, ∃ items, e.items? = some items) →
      choice (es.map fun e => (literal e).attempt) = choice (es.map literal) ∧
      ∀ v d, (choice (es.map literal)).Gets s c v d ↔
        ∃ before after items, es = before ++ v :: after ∧
          (∀ e ∈ before, ∀ items, e.items? = some items → ¬ c.input.AgreesAt c.offset items) ∧
          v.items? = some items ∧ c.input.AgreesAt c.offset items ∧
            d = c.advance items.length := by
  refine ⟨fun expected items sequence => ⟨?_, fun agrees => ⟨?_, ?_⟩, fun differs => ?_⟩, ?_⟩
  · constructor
    · rintro ⟨v, d, got⟩
      exact ((gets_literal_iff sequence readable).1 got).1
    · exact fun agrees => ⟨_, _, (gets_literal_iff sequence readable).2 ⟨agrees, rfl, rfl⟩⟩
  · exact run_literal_of_agreesAt sequence readable agrees
  · exact Cursor.offset_advance_of_le
      (length_le_remaining ((firstMismatch_none_iff_agreesAt c 0 items).2 agrees))
  · obtain ⟨inside, failed⟩ := run_literal_of_not_agreesAt (s := s) sequence readable differs
    exact ⟨_, inside, fun k bound => (Input.le_agreement_iff bound).symm, failed⟩
  · intro es sequences
    simp only [attempt_literal]
    exact ⟨trivial, fun v d => gets_choice_literal_iff sequences readable⟩

/-- Words that begin alike, in the middle of a text: the second one differs only in its fourth
letter, and yet the third one is read from where the second one began. -/
theorem literal_exact_words :
    let s : Settings := ⟨0, false⟩
    let c : Cursor := ⟨.ofValue (.str "one three"), 4, none⟩
    let d : Cursor := ⟨c.input, 9, none⟩
    let es : List Value := [.str "two", .str "thrice", .str "three"]
    let items : List Value := "thrice".toList.map .ofChar
    c.input.isReadable = true ∧ ¬ c.input.AgreesAt c.offset items ∧
      (literal (.str "thrice")).Fails s c c
        ⟨.atom (.str "i") (.str "e"), [.literal (.str "thrice") (.str "thre")]⟩ ∧
      (choice (es.map literal)).Gets s c (.str "three") d ∧
      ∃ before after items, es = before ++ .str "three" :: after ∧
        (∀ e ∈ before, ∀ items, e.items? = some items → ¬ c.input.AgreesAt c.offset items) ∧
        (.str "three" : Value).items? = some items ∧ c.input.AgreesAt c.offset items ∧
          d = c.advance items.length := by
  intro s c d es items
  obtain ⟨single, choices⟩ := literal_exact s c rfl
  have failed : (literal (.str "thrice")).Fails s c c
      ⟨.atom (.str "i") (.str "e"), [.literal (.str "thrice") (.str "thre")]⟩ := rfl
  have differs : ¬ c.input.AgreesAt c.offset items := fun agrees => by
    obtain ⟨v, m, got⟩ := (single (.str "thrice") items rfl).1.2 agrees
    cases failed.symm.trans got
  have got : (choice (es.map literal)).Gets s c (.str "three") d := rfl
  have sequences : ∀ e ∈ es, ∃ items, e.items? = some items := by simp [es, Value.items?]
  exact ⟨rfl, differs, failed, got, ((choices es sequences).2 _ _).1 got⟩

end Parser

end ParserCombinators
