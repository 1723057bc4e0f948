import ParserCombinators.Grammar.Character
import ParserCombinators.Proofs.Grammar.Onward
import ParserCombinators.Proofs.Parser.Answer.Character
import ParserCombinators.Proofs.Parser.Literal
import ParserCombinators.Proofs.Repetition.Resume

/-!
# Text is collected without loss

Characters, literals and runs of them give the text that they consume. Alternatives and attempts
give up what a parser has read before it fails, and a repetition drops its last round; the cursor
goes back along with the value, so the two stay in step.

## Main definitions

* `Cursor.Spans` — the text between two cursors.
* `Parser.Lossless` — a parser whose values are the texts between its cursors.
* `Grammar.Gathers` — the grammars that are put together from characters and literals by
  alternatives, attempts, messages and runs.

## Main results

* `Parser.Trail.exists_spans` — the values of a trail, joined, are the text between its ends.
* `Grammar.Gathers.lossless` — one level of references: by induction on how a grammar is put
  together.
* `Grammar.text_gathered_losslessly` — the value is the part of the input that was consumed.
-/

set_option autoImplicit false

namespace ParserCombinators

/-! ## The text between two cursors -/

namespace Cursor

/-- Over a text, `t` is what stands between the cursor and one that it reaches. -/
structure Spans (c : Cursor) (t : String) (d : Cursor) : Prop where
  /-- The input is a text. -/
  text : c.OverText
  /-- The second cursor is reached from the first. -/
  reach : c.Reaches d
  /-- The characters ahead of the first cursor are `t` and those ahead of the second. -/
  ahead_eq : c.ahead = t.toList ++ d.ahead

variable {c m d : Cursor} {t u : String}

/-- Nothing stands between a cursor and itself. -/
lemma Spans.refl (text : c.OverText) : c.Spans "" c :=
  ⟨text, .refl c, rfl⟩

/-- Two texts, the second from where the first one ends, are one after the other. -/
lemma Spans.trans (first : c.Spans t m) (second : m.Spans u d) : c.Spans (t ++ u) d where
  text := first.text
  reach := first.reach.trans second.reach
  ahead_eq := by
    rw [first.ahead_eq, second.ahead_eq, String.toList_append, List.append_assoc]

/-- The second cursor is over the text, too. -/
lemma Spans.overText (h : c.Spans t d) : d.OverText :=
  h.text.of_reaches h.reach

/-- A text that is ahead stands between the cursor and the one after it. -/
lemma spans_advance (text : c.OverText) (there : t.toList <+: c.ahead) :
    c.Spans t (c.advance t.length) := by
  have within : t.length ≤ c.remaining := by
    rw [text.remaining_eq, ← String.length_toList]
    exact there.length_le
  obtain ⟨rest, split⟩ := there
  refine ⟨text, reaches_advance within, ?_⟩
  rw [ahead_advance within, ← split, ← String.length_toList, List.drop_left]

/-- **The text between two cursors is a slice:** the part of the input from the offset of the first
to the second. -/
lemma Spans.toValue_sliceFrom (h : c.Spans t d) : (d.sliceFrom c.offset).toValue = .str t := by
  have taken : c.ahead.take (d.offset - c.offset) = t.toList := by
    have split := h.ahead_eq
    rw [h.reach.ahead_eq] at split
    exact List.append_cancel_right ((List.take_append_drop _ _).trans split)
  obtain ⟨chars, input⟩ := h.text
  simp only [ahead, input] at taken
  rw [sliceFrom, h.reach.input_eq, input]
  simp only [Input.extract, Input.toValue, Array.toList_extract, taken, String.ofList_toList]

/-- The offsets of two cursors differ by the length of the text between them. -/
lemma Spans.offset_eq (h : c.Spans t d) : d.offset = c.offset + t.length := by
  have left := h.reach.precedes.remaining_add
  have forward := h.reach.offset_le
  have length := congrArg List.length h.ahead_eq
  rw [List.length_append, String.length_toList] at length
  rw [h.text.remaining_eq, h.overText.remaining_eq] at left
  omega

end Cursor

/-! ## Lossless parsers -/

namespace Parser

variable {p q : Parser Value} {s : Settings} {c d : Cursor} {steps : List (Value × Cursor)}

/-- Over a text, the values of the parser are the texts that it consumes. -/
def Lossless (p : Parser Value) : Prop :=
  ∀ s c v d, c.OverText → p.Gets s c v d → ∃ t, v = .str t ∧ c.Spans t d

/-- A failure has no value. -/
lemma lossless_fail (e : ParseError) : (fail e).Lossless := by
  intro s c v d _ got
  cases got

/-- The value of a token of a text is the character that it consumes. -/
lemma lossless_token (test : Value → Except Fault Bool) (expected : Value) :
    (token test expected).Lossless := by
  intro s c v d text got
  obtain ⟨next, -, rfl⟩ := gets_token got
  rw [text.head?_eq] at next
  obtain ⟨x, first, rfl⟩ := Option.map_eq_some_iff.1 next
  obtain ⟨rest, ahead⟩ := List.head?_eq_some_iff.1 first
  have there : (String.singleton x).toList <+: c.ahead := by
    rw [ahead, String.toList_singleton]
    exact List.prefix_append [x] rest
  have span := Cursor.spans_advance text there
  rw [String.length_singleton] at span
  exact ⟨String.singleton x, rfl, span⟩

/-- A literal that is there is the text that it consumes. -/
lemma lossless_literal (t : String) : (literal (.str t)).Lossless := by
  intro s c v d text got
  have items : (Value.str t).items? = some (t.toList.map Value.ofChar) := rfl
  obtain ⟨agrees, rfl, rfl⟩ := (gets_literal_iff items text.isReadable).1 got
  have there : t.toList <+: c.ahead :=
    (firstMismatch_eq_none_iff text t.toList 0).1 ((firstMismatch_none_iff_agreesAt c 0 _).2 agrees)
  refine ⟨t, rfl, ?_⟩
  rw [List.length_map, String.length_toList]
  exact Cursor.spans_advance text there

/-- Of an alternative that was given up, neither text nor cursor is kept. -/
lemma Lossless.orElse (hp : p.Lossless) (hq : q.Lossless) : (p.orElse q).Lossless := by
  intro s c v d text got
  rcases got.of_orElse with got | got
  · exact hp s c v d text got
  · exact hq s c v d text got

/-- An attempt gives the values of its parser. -/
lemma Lossless.attempt (hp : p.Lossless) : p.attempt.Lossless :=
  fun s c v d text got => hp s c v d text (gets_attempt_iff.1 got)

/-- A message more on failure changes no value. -/
lemma Lossless.withContext (hp : p.Lossless) (message : String) :
    (p.withContext message).Lossless :=
  fun s c v d text got => hp s c v d text ((gets_withContext_iff message).1 got)

/-- Nor does a message in the stead of all others. -/
lemma Lossless.withMessage (hp : p.Lossless) (message : String) :
    (p.withMessage message).Lossless :=
  fun s c v d text got => hp s c v d text ((gets_withMessage_iff message).1 got)

/-- **The values of a trail are texts, and joined they are the text between its ends.**

**Proof sketch.** Induction on the trail: each round begins where the one before stopped, so its
text comes after those of the rounds before. -/
lemma Trail.exists_spans (trail : p.Trail s c steps d) (hp : p.Lossless) (text : c.OverText) :
    ∃ ts : List String, steps.map Prod.fst = ts.map Value.str ∧ c.Spans (String.join ts) d := by
  induction trail with
  | nil c => exact ⟨[], rfl, .refl text⟩
  | cons first moves others ih =>
    obtain ⟨t, rfl, span⟩ := hp _ _ _ _ text first
    obtain ⟨ts, values, spans⟩ := ih span.overText
    refine ⟨t :: ts, congrArg (Value.str t :: ·) values, ?_⟩
    rw [String.join_cons]
    exact span.trans spans

/-- Texts that were consumed one after the other are not lost when they are joined. -/
lemma lossless_joined {q : Parser (List Value)}
    (h : ∀ s c vs d, c.OverText → q.Gets s c vs d →
      ∃ ts : List String, vs = ts.map Value.str ∧ c.Spans (String.join ts) d) :
    ((q.map Value.list).transform Grammar.joinList).Lossless := by
  intro s c v d text got
  obtain ⟨_, listed, joined⟩ := (gets_transform_iff _ _ _).1 got
  obtain ⟨vs, rounds, rfl⟩ := (gets_map_iff _ _ _).1 listed
  obtain ⟨ts, rfl, spans⟩ := h s c vs d text rounds
  rw [Grammar.joinList_map_str] at joined
  cases joined
  exact ⟨String.join ts, rfl, spans⟩

/-- The last round of a run fails, so it has given no text, and the cursor is where it began. -/
lemma Lossless.manyChars (hp : p.Lossless) (onward : p.Onward) :
    (((many p).map Value.list).transform Grammar.joinList).Lossless := by
  refine lossless_joined fun s c vs d text got => ?_
  obtain ⟨steps, trail, -, rfl, -⟩ := (onward.forward s).gets_many_iff.1 got
  exact trail.exists_spans hp text

/-- The first round of a run need not consume; its text comes before those of the others. -/
lemma Lossless.many1Chars (hp : p.Lossless) (onward : p.Onward) :
    (((many1 p).map Value.list).transform Grammar.joinList).Lossless := by
  refine lossless_joined fun s c vs d text got => ?_
  obtain ⟨v, m, steps, first, trail, -, rfl, -⟩ := (onward.forward s).gets_many1_iff.1 got
  obtain ⟨t, rfl, span⟩ := hp _ _ _ _ text first
  obtain ⟨ts, values, spans⟩ := trail.exists_spans hp span.overText
  refine ⟨t :: ts, congrArg (Value.str t :: ·) values, ?_⟩
  rw [String.join_cons]
  exact span.trans spans

end Parser

/-! ## Grammars that gather text -/

namespace Grammar

/-- A grammar of characters and literals, under alternatives, attempts and messages, and of runs of
such grammars as one text. Its names are to stand for such grammars, too. -/
inductive Gathers : Grammar → Prop
  /-- No alternative at all. -/
  | fail (e : ParseError) : Gathers (fail e)
  /-- One character that passes a test: a given one, any one, or one of a class or a set. -/
  | token (test : Value → Except Fault Bool) (expected : Value) : Gathers (token test expected)
  /-- A given text. -/
  | literal (t : String) : Gathers (literal (.str t))
  /-- Another grammar where the first fails without consuming. -/
  | orElse {p q : Grammar} (hp : Gathers p) (hq : Gathers q) : Gathers (p.orElse q)
  /-- On failure back to the beginning. -/
  | attempt {p : Grammar} (hp : Gathers p) : Gathers p.attempt
  /-- On failure one more message. -/
  | withContext {p : Grammar} (hp : Gathers p) (message : String) : Gathers (p.withContext message)
  /-- On failure another message. -/
  | withMessage {p : Grammar} (hp : Gathers p) (message : String) : Gathers (p.withMessage message)
  /-- Put together only when it is run. -/
  | delayed {p : Grammar} (hp : Gathers p) : Gathers p.delayed
  /-- Any number of texts as one text. -/
  | manyChars {p : Grammar} (hp : Gathers p) : Gathers (manyChars p)
  /-- At least one text as one text. -/
  | many1Chars {p : Grammar} (hp : Gathers p) : Gathers (many1Chars p)
  /-- The grammar of a name. -/
  | reference (name : String) : Gathers (reference name)

/-- A choice of any number of grammars. -/
lemma Gathers.choice {ps : List Grammar} (h : ∀ p ∈ ps, p.Gathers) : (choice ps).Gathers := by
  cases ps with
  | nil => exact .fail _
  | cons p ps =>
    obtain ⟨first, others⟩ := List.forall_mem_cons.1 h
    exact List.foldlRecOn ps _ first fun _ gathered q mem => gathered.orElse (others q mem)

/-- **One level of references:** a grammar that gathers text is lossless if its names are.

**Proof sketch.** Induction on how the grammar is put together. -/
lemma Gathers.lossless {g : Grammar} {deref : String → Parser Value} (h : g.Gathers)
    (onward : ∀ name, (deref name).Onward) (names : ∀ name, (deref name).Lossless) :
    (g.toParser deref).Lossless := by
  induction h with
  | fail e => exact Parser.lossless_fail e
  | token test expected => exact Parser.lossless_token test expected
  | literal t => exact Parser.lossless_literal t
  | orElse _ _ hp hq => exact hp.orElse hq
  | attempt _ hp => exact hp.attempt
  | withContext _ message hp => exact hp.withContext message
  | withMessage _ message hp => exact hp.withMessage message
  | delayed _ hp => exact hp
  | @manyChars p _ hp => exact hp.manyChars (p.onward_toParser onward)
  | @many1Chars p _ hp => exact hp.many1Chars (p.onward_toParser onward)
  | reference name => exact names name

end Grammar

/-- A name that stands for a grammar that gathers text is lossless, however deep its references are
nested. -/
lemma Naming.lossless_parserOf {naming : Naming} (h : ∀ name g, naming name = some g → g.Gathers)
    (depth : Nat) (name : String) : (naming.parserOf depth name).Lossless := by
  induction depth generalizing name with
  | zero =>
    intro s c v d _ got
    cases got
  | succ depth ih =>
    intro s c v d text got
    simp only [Parser.Gets, parserOf] at got
    split at got
    · next g there =>
      exact (h name g there).lossless (naming.onward_parserOf depth) ih s c v d text got
    · cases got

namespace Grammar

variable {s : Settings} {c d : Cursor} {v : Value}

/-- **Text is collected without loss.** Let a grammar be put together, and let its names stand for
grammars that are put together, from characters and texts by alternatives, attempts, messages and
runs of texts that are joined, nested in any way. Wherever it succeeds over a text, at whatever
cursor it began, its value is a text: the part of the input between the two cursors, as long as the
offset has moved. So nothing is lost or repeated, and nothing stems from what was given up.

**Proof sketch.** Induction on the depth of references, on how the grammar is put together
(`Grammar.Gathers.lossless`) and, for a run, on its rounds (`Parser.Trail.exists_spans`). -/
theorem text_gathered_losslessly (naming : Naming)
    (names : ∀ name g, naming name = some g → g.Gathers) (g : Grammar) (gathers : g.Gathers)
    (text : c.OverText) (got : (g.parserUnder naming).Gets s c v d) :
    v = (d.sliceFrom c.offset).toValue ∧ ∃ t, v = .str t ∧ d.offset = c.offset + t.length := by
  obtain ⟨t, rfl, spans⟩ := gathers.lossless (naming.onward_parserOf s.fuel)
    (Naming.lossless_parserOf names s.fuel) s c v d text got
  exact ⟨spans.toValue_sliceFrom.symm, t, rfl, spans.offset_eq⟩

/-- Two letters are read and given up, because the round after them does not consume. The other
alternative reads them again, as a run within a run; a literal that begins alike is tried before. -/
theorem text_gathered_losslessly_letters :
    let piece : Grammar := choice
      [attempt (literal (.str "aac")), many1Chars (char 'a'), (char 'b').withContext "last"]
    let g : Grammar :=
      (manyChars ((char 'a').orElse (literal (.str "")))).orElse (many1Chars (reference "piece"))
    let naming : Naming := fun _ => some piece
    let c : Cursor := ⟨.ofValue (.str "xaab1"), 1, none⟩
    let d : Cursor := ⟨c.input, 4, none⟩
    (∀ name p, naming name = some p → p.Gathers) ∧ g.Gathers ∧ c.OverText ∧
      (g.parserUnder naming).Gets ⟨4, false⟩ c (.str "aab") d ∧
      (.str "aab" : Value) = (d.sliceFrom c.offset).toValue ∧
      ∃ t, (.str "aab" : Value) = .str t ∧ d.offset = c.offset + t.length := by
  intro piece g naming c d
  have pieceGathers : piece.Gathers := by
    refine .choice fun p mem => ?_
    simp only [List.mem_cons, List.not_mem_nil, or_false] at mem
    rcases mem with rfl | rfl | rfl
    · exact (Gathers.literal _).attempt
    · exact (Gathers.token _ _).many1Chars
    · exact (Gathers.token _ _).withContext _
  have names (name) (p) (there : naming name = some p) : p.Gathers :=
    Option.some.inj there ▸ pieceGathers
  have gathers : g.Gathers :=
    ((Gathers.token _ _).orElse (.literal _)).manyChars.orElse (Gathers.reference _).many1Chars
  have text : c.OverText := ⟨_, rfl⟩
  have got : (g.parserUnder naming).Gets ⟨4, false⟩ c (.str "aab") d := by rfl
  exact ⟨names, gathers, text, got, text_gathered_losslessly naming names g gathers text got⟩

end Grammar

end ParserCombinators
