import Mathlib.Data.Set.List
import ParserCombinators.Grammar.Character
import ParserCombinators.Proofs.Grammar.Blame
import ParserCombinators.Proofs.Grammar.Onward
import ParserCombinators.Proofs.Grammar.Within
import ParserCombinators.Proofs.Parser.Answer.Character

/-!
# Parse failures are values

A fault ends a run without a reply. Callbacks raise faults, and so do some parsers for characters:
to compare, to join and to read as a number are operations of texts. Over a text every symbol is a
text, so a grammar raises no fault if its callbacks return whatever they are given and if what it
joins are texts.

## Main definitions

* `Grammar.CanYield` — the values that a grammar can give over a text.
* `Grammar.IsTotal` — a grammar whose own callbacks return whatever they are given.
* `Grammar.Calm` — a grammar put together from total ones and from parsers for characters and
  numerals.

## Main results

* `Grammar.Calm.isFaultless` — calm grammars raise no fault over a text: by induction on the depth
  of references and on how the grammar is put together.
* `Grammar.replies_of_calm` — they reply, and what a failure says can be told.
-/

set_option autoImplicit false

namespace ParserCombinators

open Relation (ReflTransGen)
open ParserCombinators.Parser (Through)

/-- The outermost frame is the last one. -/
lemma ParseError.getLast?_frames (e : ParseError) : e.frames.getLast? = some e.outermost :=
  List.getLast?_eq_some_getLast (List.cons_ne_nil _ _)

namespace Grammar

/-! ## Calm grammars -/

/-- A value that the grammar can give from some cursor over a text. -/
def CanYield (naming : Naming) (g : Grammar) (v : Value) : Prop :=
  ∃ n s c d, c.OverText ∧ (g.toParser (naming.parserOf n)).Gets s c v d

/-- All callbacks of the grammar itself return, whatever they are given; a chain gives its operators
any two operands. A literal is a sequence, and a name stands for a grammar. -/
def IsTotal (naming : Naming) : Grammar → Prop
  | raise _ => False
  | token test _ | satisfying _ test => ∀ v, ∃ passed, test v = .ok passed
  | literal expected => ∃ items, expected.items? = some items
  | transform _ f => ∀ v, ∃ w, f v = .ok w
  | many into _ | many1 into _ => ∀ fault, ¬ into.Refuses fault
  | chainl1By apply _ op | chainr1By apply _ op =>
    ∀ f, op.CanYield naming f → ∀ x y, ∃ z, apply f x y = .ok z
  | reference name => ∃ g, naming name = some g
  | _ => True

/-- A grammar whose callbacks all return, whatever they are given, apart from those of the parsers
for characters and numerals. What is joined to a text gives texts only. -/
inductive Calm (naming : Naming) : Grammar → Prop
  /-- A total grammar with calm parts. -/
  | compound {g : Grammar} (own : g.IsTotal naming) (parts : ∀ p ∈ g.parts, Calm naming p) :
    Calm naming g
  /-- A character of a class. -/
  | ofClass (k : CharacterClass) : Calm naming (ofClass k)
  /-- A character of a set of texts. -/
  | oneOf (set : CharacterSet) : Calm naming (oneOf set)
  /-- A character that is not in a set of texts. -/
  | noneOf (set : CharacterSet) : Calm naming (noneOf set)
  /-- Any number of texts as one text. -/
  | manyChars {p : Grammar} (calm : Calm naming p)
    (texts : ∀ v, p.CanYield naming v → ∃ t, v = .str t) : Calm naming (manyChars p)
  /-- At least one text as one text. -/
  | many1Chars {p : Grammar} (calm : Calm naming p)
    (texts : ∀ v, p.CanYield naming v → ∃ t, v = .str t) : Calm naming (many1Chars p)
  /-- A natural number. -/
  | natural : Calm naming natural
  /-- An integer with an optional sign. -/
  | signedInt : Calm naming signedInt

/-! ## Runs over a text -/

section Text

variable {naming : Naming} {s : Settings} {n : Nat} {g p q : Grammar} {c d : Cursor}

/-- A grammar that succeeds over a text stays over it. -/
lemma overText_of_steps (text : c.OverText) (h : (g.toParser (naming.parserOf n)).Steps s c d) :
    d.OverText := by
  obtain ⟨v, got⟩ := h
  have reach : c.Reaches d :=
    (Run.meets_of_ending_eq got).1 (g.onward_toParser (naming.onward_parserOf n) s c)
  exact text.of_reaches reach

/-- Rounds over a text stay over it. -/
lemma overText_of_rounds {R : Cursor → Cursor → Prop} (text : c.OverText)
    (rounds : ReflTransGen R c d)
    (round : ∀ {c d}, R c d → (g.toParser (naming.parserOf n)).Steps s c d) : d.OverText := by
  induction rounds with
  | refl => exact text
  | tail _ last ih => exact overText_of_steps ih (round last)

/-- Every round of a loop that began over a text begins over it. -/
lemma overText_of_atRound {k m : Cursor} (text : c.OverText)
    (round : g.AtRound (naming.parserOf n) s c k m) : m.OverText := by
  cases round with
  | many before => exact overText_of_rounds text before (·.1)
  | many1 first before => exact overText_of_rounds (overText_of_steps text first) before (·.1)
  | sepBy1 first before => exact overText_of_rounds (overText_of_steps text first) before (·.1)
  | sepEndBy1 first before => exact overText_of_rounds (overText_of_steps text first) before (·.1)
  | manyTill before => exact overText_of_rounds text before (·.2.1)
  | many1Till first before => exact overText_of_rounds (overText_of_steps text first) before (·.2.1)
  | chainl1By first before => exact overText_of_rounds (overText_of_steps text first) before id
  | chainr1By first before => exact overText_of_rounds (overText_of_steps text first) before id

/-- Parsers one after the other stay over a text. -/
lemma overText_of_through {ps : List (Parser Value)} (text : c.OverText)
    (through : Through s ps c d) (h : ∀ p ∈ ps, p.Onward) : d.OverText := by
  induction through with
  | nil => exact text
  | cons first _ ih =>
    obtain ⟨here, others⟩ := List.forall_mem_cons.1 h
    obtain ⟨v, got⟩ := first
    exact ih (text.of_reaches ((Run.meets_of_ending_eq got).1 (here s _))) others

/-- The grammar raises no fault over a text, with references at most `n` deep. -/
def IsFaultless (naming : Naming) (n : Nat) (g : Grammar) : Prop :=
  ∀ s c, c.OverText →
    (g.toParser (naming.parserOf n)).FailsAs s c (fun _ _ => True) fun _ => False

/-- A faultless grammar raises no fault either where only some of its failures matter. -/
private lemma IsFaultless.under (hp : p.IsFaultless naming n) (text : c.OverText)
    (C : Cursor → Prop) :
    (p.toParser (naming.parserOf n)).FailsAs s c (fun d _ => C d → True) fun _ => False :=
  (hp s c text).mono fun _ _ _ _ _ => trivial

/-- A token raises no fault over a text if its test returns for texts. -/
lemma isFaultless_token {test : Value → Except Fault Bool} {expected : Value}
    (h : ∀ t, ∃ passed, test (.str t) = .ok passed) :
    (token test expected).IsFaultless naming n := by
  refine fun s c text => Parser.failsAs_token text.not_unreadable (fun _ => trivial)
    (fun _ _ _ => trivial) fun v fault there raised => ?_
  obtain ⟨x, rfl⟩ := text.head?_eq_some there
  obtain ⟨passed, returned⟩ := h (String.singleton x)
  cases returned.symm.trans raised

/-- A repetition raises no fault over a text if its item and its collection raise none. -/
lemma IsFaultless.collecting {into : Collector} (hp : p.IsFaultless naming n)
    (takes : ∀ fault, ¬ into.Refuses fault) : (many into p).IsFaultless naming n := by
  refine fun s c text => Collector.failsAs_many
    ⟨fun m before => hp.under ?_ _, fun _ _ _ _ _ => trivial⟩ takes
  exact overText_of_atRound (g := many into p) text (.many before)

/-- A repetition raises no fault over a text if its item and its collection raise none. -/
lemma IsFaultless.collecting1 {into : Collector} (hp : p.IsFaultless naming n)
    (takes : ∀ fault, ¬ into.Refuses fault) : (many1 into p).IsFaultless naming n := by
  refine fun s c text => Collector.failsAs_many1 (hp s c text)
    (fun k first => ⟨fun m before => hp.under ?_ _, fun _ _ _ _ _ => trivial⟩) takes
  exact overText_of_atRound (g := many1 into p) text (.many1 first before)

/-- A changed value raises no fault over a text if the callback returns for all that it is given. -/
lemma IsFaultless.transform {f : Value → Except Fault Value} (hp : p.IsFaultless naming n)
    (returns : ∀ {s c v d}, c.OverText → (p.toParser (naming.parserOf n)).Gets s c v d →
      ∃ w, f v = .ok w) : (p.transform f).IsFaultless naming n := by
  refine fun s c text => Parser.FailsAs.transform (hp s c text) fun v d fault got raised => ?_
  obtain ⟨w, returned⟩ := returns text got
  cases returned.symm.trans raised

/-- **One step**: a total grammar raises no fault if its parts raise none. What is run after
something else, be it in a loop or not, begins over the same text. -/
lemma isFaultless_of_parts
    (names : ∀ name, (∃ g, naming name = some g) → (reference name).IsFaultless naming n)
    (own : g.IsTotal naming) (parts : ∀ p ∈ g.parts, p.IsFaultless naming n) :
    g.IsFaultless naming n := by
  intro s c text
  cases g with
  | raise fault => exact own.elim
  | succeed v => exact Parser.failsAs_succeed v
  | fail e => exact Parser.failsAs_fail trivial
  | endOfInput => exact (Parser.failsAs_endOfInput text.not_unreadable fun _ _ => trivial).map _
  | token test expected => exact isFaultless_token (fun t => own (.str t)) s c text
  | literal expected =>
    obtain ⟨items, items_eq⟩ := own
    exact Parser.failsAs_literal text.not_unreadable
      (fun missing => Option.some_ne_none items (items_eq.symm.trans missing))
      fun _ _ _ _ _ _ => trivial
  | andThen p q =>
    exact (parts p (.inl rfl) s c text).andThen fun m first =>
      parts q (.inr rfl) s m (overText_of_steps text first)
  | followedBy p q =>
    exact (parts p (.inl rfl) s c text).followedBy fun m first =>
      parts q (.inr rfl) s m (overText_of_steps text first)
  | pairWith p q =>
    exact ((parts p (.inl rfl) s c text).pairWith fun m first =>
      parts q (.inr rfl) s m (overText_of_steps text first)).map _
  | both p q =>
    exact ((parts p (.inl rfl) s c text).pairWith fun m first =>
      parts q (.inr rfl) s m (overText_of_steps text first)).map _
  | sequence k ps =>
    refine (Parser.failsAs_sequence fun i inside m before => ?_).map _
    rw [List.length_ofFn] at inside
    rw [List.getElem_ofFn]
    refine parts _ (Set.mem_range_self _) s m (overText_of_through text before fun p mem => ?_)
    obtain ⟨j, rfl⟩ := List.mem_ofFn.1 (List.mem_of_mem_take mem)
    exact (ps j).onward_toParser (naming.onward_parserOf n)
  | bind p f =>
    exact (parts p (.inl rfl) s c text).bind fun v m got =>
      parts (f v) (.inr (Set.mem_range_self v)) s m (overText_of_steps text ⟨v, got⟩)
  | satisfying p test =>
    refine (parts p rfl s c text).satisfying (fun _ _ _ _ => trivial) fun v _ fault _ raised => ?_
    obtain ⟨passed, returned⟩ := own v
    cases returned.symm.trans raised
  | transform p f => exact (parts p rfl).transform (fun {_ _ v _} _ _ => own v) s c text
  | orElse p q =>
    exact Parser.FailsAs.orElse ((parts p (.inl rfl)).under text _) fun _ =>
      parts q (.inr rfl) s c text
  | attempt p => exact (parts p rfl s c text).attempt
  | lookAhead p => exact (parts p rfl s c text).lookAhead
  | notFollowedBy p =>
    exact (Parser.FailsAs.notFollowedBy (parts p rfl s c text) fun _ _ _ => trivial).map _
  | withContext p message => exact (parts p rfl s c text).withContext
  | withMessage p message => exact (parts p rfl s c text).withMessage
  | delayed p => exact parts p rfl s c text
  | many into p => exact (parts p rfl).collecting own s c text
  | many1 into p => exact (parts p rfl).collecting1 own s c text
  | count k p =>
    refine (Parser.FailsAs.count fun i inside m before =>
      parts p rfl s m (overText_of_through text before fun q mem => ?_)).map _
    obtain rfl := List.eq_of_mem_replicate mem
    exact p.onward_toParser (naming.onward_parserOf n)
  -- In the loops `round` says that the input is still a text where a round begins.
  | sepBy1 p sep =>
    refine (Parser.FailsAs.sepBy1 (parts p (.inl rfl) s c text)
      (fun k m first before => ?_) (fun k m m' first before separated => ?_)
      fun _ _ _ _ _ _ _ => trivial).map _
    all_goals have round := overText_of_atRound text (.sepBy1 first before)
    · exact (parts sep (.inr rfl)).under round _
    · exact (parts p (.inl rfl)).under (overText_of_steps round separated) _
  | sepEndBy1 p sep =>
    refine (Parser.FailsAs.sepEndBy1 (parts p (.inl rfl) s c text)
      (fun k m first before => ?_) (fun k m m' first before separated => ?_)
      fun _ _ _ _ _ _ _ => trivial).map _
    all_goals have round := overText_of_atRound text (.sepEndBy1 first before)
    · exact (parts sep (.inr rfl)).under round _
    · exact (parts p (.inl rfl)).under (overText_of_steps round separated) _
  | manyTill p stop =>
    refine (Parser.TillFailsAs.manyTill ⟨fun m before => ?_, fun m before _ => ?_,
      fun _ _ _ _ _ _ => trivial⟩).map _
    all_goals have round := overText_of_atRound text (.manyTill before)
    · exact (parts stop (.inr rfl)).under round _
    · exact parts p (.inl rfl) s m round
  | many1Till p stop =>
    refine (Parser.FailsAs.many1Till (parts p (.inl rfl) s c text) fun k first =>
      ⟨fun m before => ?_, fun m before _ => ?_, fun _ _ _ _ _ _ => trivial⟩).map _
    all_goals have round := overText_of_atRound text (.many1Till first before)
    · exact (parts stop (.inr rfl)).under round _
    · exact parts p (.inl rfl) s m round
  | chainl1By apply p op =>
    refine Parser.FailsAs.chainl1 (parts p (.inl rfl) s c text)
      (fun k first => ⟨fun m before => ?_, fun m m' before operated => ?_⟩)
      fun k m m' f a b fault first before operated raised => ?_
    all_goals have round :=
      overText_of_atRound (g := chainl1By apply p op) text (.chainl1By first before)
    · exact (parts op (.inr rfl)).under round _
    · exact parts p (.inl rfl) s m' (overText_of_steps round operated)
    · obtain ⟨z, returned⟩ := own f ⟨n, s, m, m', round, operated⟩ a b
      cases returned.symm.trans raised
  | chainr1By apply p op =>
    refine Parser.FailsAs.chainr1 (parts p (.inl rfl) s c text)
      (fun k first => ⟨fun m before => ?_, fun m m' before operated => ?_⟩)
      fun k m m' f a b fault first before operated raised => ?_
    all_goals have round :=
      overText_of_atRound (g := chainr1By apply p op) text (.chainr1By first before)
    · exact (parts op (.inr rfl)).under round _
    · exact parts p (.inl rfl) s m' (overText_of_steps round operated)
    · obtain ⟨z, returned⟩ := own f ⟨n, s, m, m', round, operated⟩ a b
      cases returned.symm.trans raised
  | trace label => exact (Parser.failsAs_trace text.not_unreadable).map _
  | traced label p => exact Parser.FailsAs.traced text.not_unreadable (parts p rfl s c text)
  | reference name => exact names name own s c text

/-! ### What is collected over a text -/

/-- A list of collected values holds values that the item can give. -/
lemma canYield_of_many {v : Value} (text : c.OverText)
    (got : ((many .list p).toParser (naming.parserOf n)).Gets s c v d) :
    ∃ vs, v = .list vs ∧ ∀ w ∈ vs, p.CanYield naming w := by
  obtain ⟨vs, collected, rfl⟩ := (Parser.gets_map_iff _ _ _).1 got
  refine ⟨vs, rfl, fun w mem => ?_⟩
  obtain ⟨m, m', before, item⟩ := Parser.gets_many collected w mem
  exact ⟨n, s, m, m', overText_of_atRound (g := many .list p) text (.many before), item⟩

/-- If at least one value is collected, the list is not empty. -/
lemma canYield_of_many1 {v : Value} (text : c.OverText)
    (got : ((many1 .list p).toParser (naming.parserOf n)).Gets s c v d) :
    ∃ vs, vs ≠ [] ∧ v = .list vs ∧ ∀ w ∈ vs, p.CanYield naming w := by
  obtain ⟨vs, collected, rfl⟩ := (Parser.gets_map_iff _ _ _).1 got
  obtain ⟨w, k, more, rfl, first, others⟩ := Parser.gets_many1 collected
  refine ⟨w :: more, List.cons_ne_nil _ _, rfl, List.forall_mem_cons.2 ⟨?_, fun x mem => ?_⟩⟩
  · exact ⟨n, s, c, k, text, first⟩
  · obtain ⟨m, m', before, item⟩ := others x mem
    exact ⟨n, s, m, m',
      overText_of_atRound (g := many1 .list p) text (.many1 ⟨w, first⟩ before), item⟩

/-! ### Characters and numerals -/

/-- Texts can be joined. -/
lemma exists_joinList_eq {vs : List Value} (h : ∀ v ∈ vs, ∃ t, v = .str t) :
    ∃ w, joinList (.list vs) = .ok w := by
  have texts : vs ∈ Set.range (List.map Value.str) := by
    rw [Set.range_list_map]
    intro v mem
    obtain ⟨t, rfl⟩ := h v mem
    exact ⟨t, rfl⟩
  obtain ⟨ts, rfl⟩ := texts
  exact ⟨.str (String.join ts), joinList_map_str ts⟩

/-- Texts are joined without a fault. -/
lemma IsFaultless.manyChars (hp : p.IsFaultless naming n)
    (texts : ∀ v, p.CanYield naming v → ∃ t, v = .str t) :
    (manyChars p).IsFaultless naming n := by
  refine (hp.collecting fun _ => id).transform fun text got => ?_
  obtain ⟨vs, rfl, items⟩ := canYield_of_many text got
  exact exists_joinList_eq fun v mem => texts v (items v mem)

/-- So are texts of which there is at least one. -/
lemma IsFaultless.many1Chars (hp : p.IsFaultless naming n)
    (texts : ∀ v, p.CanYield naming v → ∃ t, v = .str t) :
    (many1Chars p).IsFaultless naming n := by
  refine (hp.collecting1 fun _ => id).transform fun text got => ?_
  obtain ⟨vs, -, rfl, items⟩ := canYield_of_many1 text got
  exact exists_joinList_eq fun v mem => texts v (items v mem)

/-- A token of a text is a character that passes the test. -/
lemma exists_char_of_canYield {test : Value → Except Fault Bool} {expected v : Value}
    (h : (token test expected).CanYield naming v) :
    ∃ x : Char, v = .ofChar x ∧ test (.ofChar x) = .ok true := by
  obtain ⟨n, s, c, d, text, got⟩ := h
  obtain ⟨there, passes, -⟩ := Parser.gets_token got
  obtain ⟨x, rfl⟩ := text.head?_eq_some there
  exact ⟨x, rfl, passes⟩

/-- The digits of a text are ASCII digits. -/
lemma exists_digit_of_canYield {v : Value} (h : (ofClass .digit).CanYield naming v) :
    ∃ x : Char, x.isDigit = true ∧ v = .ofChar x := by
  obtain ⟨x, rfl, passes⟩ := exists_char_of_canYield h
  have holds : CharacterClass.digit.holds (String.singleton x).toList = true := Except.ok.inj passes
  rw [String.toList_singleton] at holds
  exact ⟨x, holds, rfl⟩

/-- Digits that were collected over a text are a numeral. -/
lemma exists_readDigits_eq {vs : List Value} (nonempty : vs ≠ [])
    (h : ∀ v ∈ vs, ∃ x : Char, x.isDigit = true ∧ v = .ofChar x) :
    ∃ m, readDigits (.list vs) = .ok (.int m) := by
  have characters : ∃ xs : List Char, (∀ x ∈ xs, x.isDigit = true) ∧ vs = xs.map .ofChar := by
    clear nonempty
    induction vs with
    | nil => exact ⟨[], nofun, rfl⟩
    | cons v vs ih =>
      obtain ⟨⟨x, digit, rfl⟩, others⟩ := List.forall_mem_cons.1 h
      obtain ⟨xs, digits, rfl⟩ := ih others
      exact ⟨x :: xs, List.forall_mem_cons.2 ⟨digit, digits⟩, rfl⟩
  obtain ⟨xs, digits, rfl⟩ := characters
  have numeral : Text.Decimal _ xs := ⟨fun none => nonempty (none ▸ rfl), digits, rfl⟩
  exact ⟨_, by rw [readDigits, Parser.readDigits_map_ofChar numeral]; rfl⟩

/-- The digits of a natural number over a text are read as an integer. -/
lemma exists_int_of_digits {v : Value} (text : c.OverText)
    (got : ((many1 .list (ofClass .digit)).toParser (naming.parserOf n)).Gets s c v d) :
    ∃ m, readDigits v = .ok (.int m) := by
  obtain ⟨vs, nonempty, rfl, items⟩ := canYield_of_many1 text got
  exact exists_readDigits_eq nonempty fun v mem => exists_digit_of_canYield (items v mem)

/-- Over a text, natural numbers are read from numerals. -/
lemma natural_isFaultless (naming : Naming) (n : Nat) : natural.IsFaultless naming n := by
  have digit : (ofClass .digit).IsFaultless naming n := isFaultless_token fun _ => ⟨_, rfl⟩
  refine (digit.collecting1 fun _ => id).transform fun text got => ?_
  obtain ⟨m, read⟩ := exists_int_of_digits text got
  exact ⟨.int m, read⟩

/-- The value of a natural number is an integer. -/
lemma exists_int_of_natural {v : Value} (text : c.OverText)
    (got : (natural.toParser (naming.parserOf n)).Gets s c v d) : ∃ m, v = .int m := by
  obtain ⟨list, collected, read⟩ := (Parser.gets_transform_iff _ _ _).1 got
  obtain ⟨m, read'⟩ := exists_int_of_digits text collected
  exact ⟨m, Except.ok.inj (read.symm.trans read')⟩

/-- The value of a sign is an integer. -/
lemma exists_int_of_sign {v : Value} (got : (sign.toParser (naming.parserOf n)).Gets s c v d) :
    ∃ m, v = .int m := by
  have given {m : Int} {k : Cursor} {q : Grammar}
      (h : ((q.andThen (succeed (.int m))).toParser (naming.parserOf n)).Gets s c v k) :
      ∃ m, v = .int m := by
    obtain ⟨_, -, last⟩ := (Parser.gets_andThen_iff _ _ _).1 h
    exact ⟨m, ((Parser.gets_succeed_iff _ _).1 last).1⟩
  rcases got.of_orElse with signed | unsigned
  · rcases signed.of_orElse with minus | plus
    · exact given minus
    · exact given plus
  · exact ⟨1, ((Parser.gets_succeed_iff _ _).1 unsigned).1⟩

/-- A sign raises no fault over a text. -/
lemma sign_isFaultless (naming : Naming) (n : Nat) : sign.IsFaultless naming n := by
  have signed (x : Char) (m : Int) :
      ((char x).andThen (succeed (.int m))).IsFaultless naming n := fun s c text =>
    Parser.FailsAs.andThen (isFaultless_token (fun _ => ⟨_, rfl⟩) s c text) fun _ _ =>
      Parser.failsAs_succeed _
  have either : (((char '-').andThen (succeed (.int (-1)))).orElse
      ((char '+').andThen (succeed (.int 1)))).IsFaultless naming n := fun s c text =>
    Parser.FailsAs.orElse ((signed '-' (-1)).under text _) fun _ => signed '+' 1 s c text
  exact fun s c text =>
    Parser.FailsAs.orElse (either.under text _) fun _ => Parser.failsAs_succeed _

/-- Over a text, the sign and the number of an integer can be multiplied. -/
lemma signedInt_isFaultless (naming : Naming) (n : Nat) : signedInt.IsFaultless naming n := by
  refine fun s c text => (sign_isFaultless naming n s c text).bind fun v m signed => ?_
  obtain ⟨factor, rfl⟩ := exists_int_of_sign signed
  have next : m.OverText := overText_of_steps text ⟨_, signed⟩
  refine (natural_isFaultless naming n).transform (fun text read => ?_) s m next
  obtain ⟨k, rfl⟩ := exists_int_of_natural text read
  exact ⟨.int (factor * k), rfl⟩

end Text

/-! ## Calm grammars raise no fault -/

section Faultless

variable {naming : Naming}

/-- Calm grammars raise no fault over a text if the references in them raise none. -/
lemma Calm.isFaultless_of_references {n : Nat} {g : Grammar} (calm : g.Calm naming)
    (names : ∀ name, (∃ g, naming name = some g) → (reference name).IsFaultless naming n) :
    g.IsFaultless naming n := by
  induction calm with
  | compound own _ ih => exact isFaultless_of_parts names own ih
  | ofClass k => exact isFaultless_token fun _ => ⟨_, rfl⟩
  | oneOf set => exact isFaultless_token fun _ => ⟨_, rfl⟩
  | noneOf set => exact isFaultless_token fun _ => ⟨_, rfl⟩
  | manyChars _ texts ih => exact ih.manyChars texts
  | many1Chars _ texts ih => exact ih.many1Chars texts
  | natural => exact natural_isFaultless naming n
  | signedInt => exact signedInt_isFaultless naming n

/-- Calm grammars raise no fault over a text if all names stand for calm grammars, however deep
their references are nested. -/
lemma Calm.isFaultless {g : Grammar} (calm : g.Calm naming)
    (names : ∀ name g, naming name = some g → g.Calm naming) (n : Nat) :
    g.IsFaultless naming n := by
  induction n generalizing g with
  | zero => exact calm.isFaultless_of_references fun _ _ _ _ _ => trivial
  | succ n ih =>
    refine calm.isFaultless_of_references fun name defined s c text => ?_
    obtain ⟨g, there⟩ := defined
    change ((naming.parserOf (n + 1) name).run s c).Meets _ _ _
    simp only [Naming.parserOf, there]
    exact ih (names name g there) s c text

end Faultless

/-- **Parse failures are values.** Over a text, a calm grammar whose names stand for calm grammars
never ends with a fault: whenever its run comes to an end, it replies. If the reply is a failure,
the error has frames, and in words it is the first of them, the last of them, or all of them.

**Proof sketch.** Calm grammars raise no fault (`Grammar.Calm.isFaultless`), so a run that is not
exhausted ends with a reply. -/
theorem replies_of_calm (naming : Naming) (names : ∀ name g, naming name = some g → g.Calm naming)
    (g : Grammar) (calm : g.Calm naming) (s : Settings) (c : Cursor) (text : c.OverText)
    (ends : ((g.parserUnder naming).run s c).ending ≠ .exhausted) :
    ∃ reply, ((g.parserUnder naming).run s c).ending = .done reply ∧
      ∀ d e, reply = .error d e → ParseError.ofFrames? e.frames = some e ∧
        e.frames.head?.map Frame.text = some e.message ∧
        e.frames.getLast?.map Frame.text = some e.messageTop ∧
        e.messageStack = String.intercalate "\n" (e.frames.map Frame.text) := by
  cases ending : ((g.parserUnder naming).run s c).ending with
  | done reply =>
    refine ⟨reply, rfl, fun d e _ => ⟨rfl, rfl, ?_, rfl⟩⟩
    rw [e.getLast?_frames]
    rfl
  | raised fault => exact ((calm.isFaultless names s.fuel s c text).raises ending).elim
  | exhausted => exact (ends ending).elim

/-- Names, each of which may have a signed number. That of the second name has no digit, and the
failure is told with the class that was wanted. -/
theorem replies_of_calm_entries :
    let separators : CharacterSet := ⟨[",", ":", "="]⟩
    let entry : Grammar := (many1Chars (noneOf separators)).pairWith
      (option .none ((oneOf ⟨[":", "="]⟩).andThen signedInt))
    let naming : Naming := fun _ => some entry
    let g : Grammar := (sepBy1 (reference "entry") (char ',')).withContext "in the entries"
    let c : Cursor := .plain (.ofValue (.str "x,y=-"))
    let d : Cursor := ⟨c.input, 5, none⟩
    let e : ParseError := ⟨.atom (.str "<digit>") .endOfInput, [.message "in the entries"]⟩
    let run := (g.parserUnder naming).run ⟨5, true⟩ c
    (∀ name g, naming name = some g → g.Calm naming) ∧ g.Calm naming ∧ c.OverText ∧
      run.ending = .done (.error d e) ∧
        ∃ reply, run.ending = .done reply ∧
          ∀ d e, reply = .error d e → ParseError.ofFrames? e.frames = some e ∧
            e.frames.head?.map Frame.text = some e.message ∧
            e.frames.getLast?.map Frame.text = some e.messageTop ∧
            e.messageStack = String.intercalate "\n" (e.frames.map Frame.text) := by
  intro separators entry naming g c d e run
  have name : (many1Chars (noneOf separators)).Calm naming := .many1Chars (.noneOf _) fun v h => by
    obtain ⟨x, rfl, -⟩ := exists_char_of_canYield h
    exact ⟨_, rfl⟩
  have number : ((oneOf ⟨[":", "="]⟩).andThen signedInt).Calm naming := by
    refine .compound trivial fun p mem => ?_
    rcases mem with rfl | rfl
    · exact .oneOf _
    · exact .signedInt
  have optional : (option .none ((oneOf ⟨[":", "="]⟩).andThen signedInt)).Calm naming := by
    refine .compound trivial fun p mem => ?_
    rcases mem with rfl | rfl
    · exact number
    · exact .compound trivial fun _ mem => mem.elim
  have entryCalm : entry.Calm naming := by
    refine .compound trivial fun p mem => ?_
    rcases mem with rfl | rfl
    · exact name
    · exact optional
  have names (name) (g) (there : naming name = some g) : g.Calm naming :=
    Option.some.inj there ▸ entryCalm
  have entries : (sepBy1 (reference "entry") (char ',')).Calm naming := by
    refine .compound trivial fun p mem => ?_
    rcases mem with rfl | rfl
    · exact .compound ⟨entry, rfl⟩ fun _ mem => mem.elim
    · exact .compound (fun _ => ⟨_, rfl⟩) fun _ mem => mem.elim
  have calm : g.Calm naming := .compound trivial fun p mem => by
    obtain rfl := mem
    exact entries
  have text : c.OverText := ⟨_, rfl⟩
  have h : run.ending = .done (.error d e) := by rfl
  have ends : run.ending ≠ .exhausted := by rw [h]; nofun
  exact ⟨names, calm, text, h, replies_of_calm naming names g calm ⟨5, true⟩ c text ends⟩

end Grammar

end ParserCombinators
