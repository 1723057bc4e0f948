import ParserCombinators.Proofs.Grammar.Cause
import ParserCombinators.Proofs.Grammar.Onward
import ParserCombinators.Proofs.Grammar.Within

/-!
# Mismatches are reported where they are

The error of a mismatch names the symbol that was found, and for a literal also the one that was
expected and what was seen of the literal. The error and the cursor of a failure are handed on apart
from each other. As long as nothing goes back on failure and no ready-made error is told, they still
describe the same place of the input: what an error says of it is what is there.

## Main definitions

* `Input.found` — what is found at an index, be it a symbol or the end of the input.
* `Input.agreement` — how many items a part of the input begins with.
* `ParseError.IsTrueAt` — what an error says of the input holds at an index.
* `Grammar.IsPlain` — a grammar that itself neither goes back on failure nor tells a ready-made
  error.

## Main results

* `Parser.firstMismatch_spec` — where a literal stops agreeing with the input.
* `Grammar.FailsBy.isTrueAt` — along the way of a failure its error stays true.
* `Grammar.mismatch_truthful` — what the errors of a plain grammar say is true.
-/

set_option autoImplicit false

namespace ParserCombinators

/-! ## What an error says of the input -/

namespace Input

/-- The symbol at an index; the end of the input where there is none. -/
def found (input : Input) (i : Nat) : Value :=
  (input.get? i).getD .endOfInput

/-- The length of the longest part that both the items and the input from an index on begin with. -/
def agreement (input : Input) (i : Nat) (items : List Value) : Nat :=
  (((input.symbols.drop i).zip items).takeWhile fun pair => pair.1.same pair.2).length

/-- Where there is no symbol, nothing agrees. -/
lemma agreement_of_none {input : Input} {i : Nat} (h : input.get? i = none) (items : List Value) :
    input.agreement i items = 0 := by
  rw [← getElem?_symbols, List.getElem?_eq_none_iff] at h
  simp [agreement, List.drop_of_length_le h]

/-- The next symbol agrees with the next item, or nothing does. -/
lemma agreement_cons {input : Input} {i : Nat} {symbol : Value} (h : input.get? i = some symbol)
    (item : Value) (items : List Value) :
    input.agreement i (item :: items) =
      if symbol.same item then input.agreement (i + 1) items + 1 else 0 := by
  rw [← getElem?_symbols] at h
  obtain ⟨inside, rfl⟩ := List.getElem?_eq_some_iff.1 h
  rw [agreement, List.drop_eq_getElem_cons inside, List.zip_cons_cons, List.takeWhile_cons]
  split <;> rfl

end Input

/-- What an error says of the symbols of an input is true at an index. If its deepest frame is that
of a single symbol, that is the symbol there. If the frame of a literal follows it, the two say at
which symbol the input stops agreeing with the literal. -/
def ParseError.IsTrueAt (e : ParseError) (input : Input) (i : Nat) : Prop :=
  match e.deepest, e.context with
  | .atom expected found, .literal whole seen :: _ =>
    ∃ items, whole.items? = some items ∧
      ∃ inside : input.agreement i items < items.length,
        expected = items[input.agreement i items] ∧
          found = input.found (i + input.agreement i items) ∧
          seen = (input.extract i (i + input.agreement i items + 1)).toValue
  | .atom _ found, _ => found = input.found i
  | _, _ => True

namespace ParseError

variable {e : ParseError} {input : Input} {i : Nat}

/-- A message says nothing of the input. -/
lemma isTrueAt_ofMessage (text : String) (input : Input) (i : Nat) :
    (ofMessage text).IsTrueAt input i := trivial

/-- A further message says nothing of the input. -/
lemma IsTrueAt.withContext (h : e.IsTrueAt input i) (text : String) :
    (e.withContext (.message text)).IsTrueAt input i := by
  obtain ⟨deepest, context⟩ := e
  cases deepest with
  | atom expected found =>
    cases context with
    | nil => exact h
    | cons frame context => cases frame <;> exact h
  | literal expected found => trivial
  | message text => trivial

end ParseError

/-- Where a literal stops agreeing with the input, and with which symbols. -/
lemma Parser.firstMismatch_spec {c : Cursor} {items : List Value} {k i : Nat} {atom found : Value}
    (h : firstMismatch c k items = some (i, atom, found)) :
    i = k + c.input.agreement (c.offset + k) items ∧
      items[c.input.agreement (c.offset + k) items]? = some atom ∧
      found = c.input.found (c.offset + i) := by
  induction items generalizing k with
  | nil => cases h
  | cons item items ih =>
    rw [firstMismatch] at h
    split at h
    · next none_eq =>
      cases h
      rw [Input.agreement_of_none none_eq]
      exact ⟨rfl, rfl, by rw [Input.found, none_eq, Option.getD_none]⟩
    · next symbol some_eq =>
      rw [Input.agreement_cons some_eq]
      split at h
      · obtain ⟨index, expected, found⟩ := ih h
        rw [← Nat.add_assoc] at index expected
        rw [if_pos ‹_›]
        exact ⟨by omega, expected, found⟩
      · cases h
        rw [if_neg ‹_›]
        exact ⟨rfl, rfl, by rw [Input.found, some_eq, Option.getD_some]⟩

namespace Grammar

/-! ## Plain grammars -/

/-- Whether a grammar by itself neither goes back on failure nor fails with anything but a message.
A traced parser goes back, too, but with a message. -/
def IsPlain : Grammar → Prop
  | attempt _ | lookAhead _ => False
  | fail e => ∃ text, e = .ofMessage text
  | _ => True

section

variable {deref : String → Parser Value} {s : Settings} {g q : Grammar} {c m d : Cursor}
  {e : ParseError}

/-- A plain grammar's own failure says what is true where it is. -/
lemma OwnFailure.isTrueAt (h : g.OwnFailure deref s c d e) (plain : g.IsPlain) :
    e.IsTrueAt d.input d.offset := by
  cases h with
  | fail =>
    obtain ⟨text, rfl⟩ := plain
    trivial
  | endOfInput there => exact (congrArg (Option.getD · .endOfInput) there).symm
  | ended ended => exact (congrArg (Option.getD · .endOfInput) ended).symm
  | unwanted there rejects => exact (congrArg (Option.getD · .endOfInput) there).symm
  | @literal expected items i atom found _ items_eq differs =>
    obtain ⟨index, expected_eq, found_eq⟩ := Parser.firstMismatch_spec differs
    obtain rfl : i = c.input.agreement c.offset items := by simpa using index
    obtain ⟨inside, rfl⟩ := List.getElem?_eq_some_iff.1 expected_eq
    refine ⟨items, items_eq, inside, rfl, found_eq, ?_⟩
    rw [Cursor.peek_natCast]
    rfl
  | rejected got rejects => trivial
  | unexpected got => trivial
  | stalled round stalls plain => trivial
  | stalledBetween round stalls => trivial

/-- What a grammar hands a failure on from is a part of it. -/
lemma Passes.mem_parts (h : g.Passes deref s c q m d) : q ∈ g.parts := by
  cases h with
  | first first => cases g <;> cases first <;> simp [parts]
  | next first got next => cases g <;> cases next <;> simp [parts]
  | inSequence i before => exact Set.mem_range_self i
  | inCount inside before => exact Set.mem_singleton _
  | committed consumed => exact Set.mem_insert _ _
  | alternative missed => exact Set.mem_insert_of_mem _ (Set.mem_singleton _)
  | inRound round inside => cases round <;> simp only [InRound] at inside <;> simp [parts] <;> tauto

end

/-! ## The way of a failure -/

/-- **Along the way of a failure its error stays true.** The cursor of the failure moves only where
the error is put aside for a message. -/
lemma FailsBy.isTrueAt {naming : Naming} {s : Settings} {n : Nat} {g : Grammar} {c d : Cursor}
    {origin : ParseError} {marks : List Mark} (h : g.FailsBy naming s n c d origin marks)
    (plain : g.Everywhere naming IsPlain) :
    (marks.foldl Mark.on origin).IsTrueAt d.input d.offset := by
  induction h with
  | own own => exact own.isTrueAt plain.self
  | passed passes _ ih => exact ih (plain.part passes.mem_parts)
  | rewound rewinds _ _ => rcases rewinds with rfl | rfl <;> exact plain.self.elim
  | context _ ih =>
    rw [List.foldl_append]
    exact (ih (plain.part rfl)).withContext _
  | item loop _ _ _ ih =>
    rw [List.foldl_append]
    refine (ih (plain.part ?_)).withContext _
    rcases loop with rfl | rfl <;> exact Set.mem_insert _ _
  | message _ _ =>
    rw [List.foldl_append]
    exact ParseError.isTrueAt_ofMessage _ _ _
  | traced _ _ =>
    rw [List.foldl_append]
    exact ParseError.isTrueAt_ofMessage _ _ _
  | named there _ ih => exact ih (plain.named there)

/-- **Mismatches are reported where they are.** If a grammar within which nothing goes back on
failure and no ready-made error is told fails, its error says what is true of the input at the
offset of the failure: a symbol that was found is the one there, or the end of the input; and with
the frame of a literal, the expected symbol is the first one of the literal that the input from
there on does not agree with, the symbol found is the one in its place, and what was seen is the
input up to and with that.

**Proof sketch.** The failure is explained by an original failure and marks
(`Grammar.explained_parserUnder`). The error of the original failure is true where it was told
(`Grammar.OwnFailure.isTrueAt`), and stays so (`Grammar.FailsBy.isTrueAt`). The cursor of the
failure is over the same input as the one where the grammar began. -/
theorem mismatch_truthful (naming : Naming) (g : Grammar) (s : Settings) (c d : Cursor)
    (e : ParseError) (plain : g.Everywhere naming IsPlain)
    (h : ((g.parserUnder naming).run s c).ending = .done (.error d e)) :
    e.IsTrueAt c.input d.offset := by
  obtain ⟨origin, marks, fails, rfl⟩ := explained_parserUnder h
  have reach : c.Reaches d := (Run.meets_of_ending_eq h).1 (g.onward_parserUnder naming s c)
  rw [← reach.input_eq]
  exact fails.isTrueAt plain

/-- After a letter, a word is wanted and stops agreeing with the input at its third letter. -/
theorem mismatch_truthful_word :
    let naming : Naming := fun _ => some ((literal (.str "abc")).withContext "a word")
    let g : Grammar := (char 'x').andThen (reference "word")
    let c : Cursor := .lined (.ofValue (.str "xabd")) "source"
    let d : Cursor := ⟨c.input, 1, some ⟨1, 2, "source"⟩⟩
    let e : ParseError :=
      ⟨.atom (.str "c") (.str "d"), [.literal (.str "abc") (.str "abd"), .message "a word"]⟩
    g.Everywhere naming IsPlain ∧
      ((g.parserUnder naming).run ⟨2, false⟩ c).ending = .done (.error d e) ∧
        e.IsTrueAt c.input d.offset ∧
          c.input.agreement d.offset (["a", "b", "c"].map .str) = 2 := by
  intro naming g c d e
  have word : ((literal (.str "abc")).withContext "a word").Everywhere naming IsPlain := by
    refine everywhere_of_parts trivial (fun p mem => ?_) nofun
    obtain rfl : p = literal (.str "abc") := mem
    exact everywhere_of_parts trivial (fun _ mem => mem.elim) nofun
  have plain : g.Everywhere naming IsPlain := by
    refine everywhere_of_parts trivial (fun p mem => ?_) nofun
    rcases mem with rfl | rfl
    · exact everywhere_of_parts trivial (fun _ mem => mem.elim) nofun
    · exact everywhere_reference trivial fun _ there => Option.some.inj there ▸ word
  have h : ((g.parserUnder naming).run ⟨2, false⟩ c).ending = .done (.error d e) := by rfl
  exact ⟨plain, h, mismatch_truthful naming g ⟨2, false⟩ c d e plain h, by rfl⟩

end Grammar

end ParserCombinators
