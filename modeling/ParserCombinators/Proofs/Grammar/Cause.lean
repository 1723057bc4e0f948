import Mathlib.Data.List.Basic
import ParserCombinators.Grammar.Character
import ParserCombinators.Proofs.Grammar.Blame

/-!
# The cause of a failure is kept

Every failure of a grammar is explained by an original failure and the marks that were left on its
error. So the frames of an error are those of the one failure, or the last message that took their
place, and after them the messages that were added further out.

## Main definitions

* `ParseError.Extends` — an error with further messages, frame by frame and in words.
* `Grammar.Explained` — a failure, its error, and where both come from.

## Main results

* `Grammar.isExplained` — every failure is explained: by induction on the depth of references and on
  the grammar.
* `Grammar.cause_kept` — the frames of an error, and what they are in words.
-/

set_option autoImplicit false

namespace ParserCombinators

/-! ## Errors with further messages -/

/-- An error is another one to which messages were added, and reads so. -/
structure ParseError.Extends (e cause : ParseError) (texts : List String) : Prop where
  /-- The frames are those of the other one and then the messages. -/
  frames : e.frames = cause.frames ++ texts.map Frame.message
  /-- The deepest frame is that of the other one. -/
  message : e.message = cause.message
  /-- The outermost frame is the last message, if there is one. -/
  messageTop : e.messageTop = texts.getLast?.getD cause.messageTop
  /-- All frames in words are those of the other one and then the messages. -/
  messageStack : e.messageStack = String.intercalate "\n" (cause.frames.map Frame.text ++ texts)

/-- The message that was added last is the outermost one. -/
lemma messageTop_withContext (e : ParseError) (text : String) :
    (e.withContext (.message text)).messageTop = text :=
  congrArg Frame.text (List.getLast_append_singleton e.frames)

/-- An error with further messages has the frames of both. -/
lemma frames_foldl_added (cause : ParseError) (texts : List String) :
    ((texts.map Mark.added).foldl Mark.on cause).frames =
      cause.frames ++ texts.map Frame.message := by
  induction texts generalizing cause with
  | nil => simp
  | cons text texts ih =>
    rw [List.map_cons, List.foldl_cons, ih, Mark.on, ParseError.frames_withContext, List.map_cons,
      List.append_assoc, List.singleton_append]

/-- Messages that were added show in all renderings of an error. -/
lemma extends_foldl_added (cause : ParseError) (texts : List String) :
    ((texts.map Mark.added).foldl Mark.on cause).Extends cause texts := by
  have frames := frames_foldl_added cause texts
  refine ⟨frames, congrArg Frame.text (List.cons.inj frames).1, ?_, ?_⟩
  · rcases List.eq_nil_or_concat' texts with rfl | ⟨before, last, rfl⟩
    · rfl
    · rw [List.map_append, List.foldl_append, List.getLast?_append]
      exact messageTop_withContext _ last
  · rw [ParseError.messageStack, frames, List.map_append, List.map_map]
    simp [Function.comp_def, Frame.text]

namespace Grammar

/-! ## Explanations -/

/-- The failure with the error `e` comes from an original failure and what was done to its error. -/
def Explained (naming : Naming) (s : Settings) (n : Nat) (g : Grammar) (c d : Cursor)
    (e : ParseError) : Prop :=
  ∃ origin marks, g.FailsBy naming s n c d origin marks ∧ e = marks.foldl Mark.on origin

section Explained

variable {naming : Naming} {s : Settings} {n : Nat} {g p q : Grammar}
  {c c' m d : Cursor} {e : ParseError}

/-- A failure of its own is the original one. -/
lemma explained_own (own : g.OwnFailure (naming.parserOf n) s c d e) :
    g.Explained naming s n c d e :=
  ⟨e, [], .own own, rfl⟩

/-- A failure that is passed on keeps its explanation. -/
lemma Explained.passed (inner : q.Explained naming s n m d e)
    (passes : g.Passes (naming.parserOf n) s c q m d) : g.Explained naming s n c d e := by
  obtain ⟨origin, marks, fails, rfl⟩ := inner
  exact ⟨origin, marks, .passed passes fails, rfl⟩

/-- So does one that is taken back to the beginning. -/
lemma Explained.rewound (inner : p.Explained naming s n c d e)
    (rewinds : g = attempt p ∨ g = lookAhead p) : g.Explained naming s n c c e := by
  obtain ⟨origin, marks, fails, rfl⟩ := inner
  exact ⟨origin, marks, .rewound rewinds fails, rfl⟩

/-- So does one of a grammar that is reached by its name. -/
lemma Explained.named {name : String} (inner : g.Explained naming s n c d e)
    (there : naming name = some g) : (reference name).Explained naming s (n + 1) c d e := by
  obtain ⟨origin, marks, fails, rfl⟩ := inner
  exact ⟨origin, marks, .named there fails, rfl⟩

/-- A failure with a further mark. -/
private lemma Explained.marked (mark : Mark) (inner : p.Explained naming s n m d e)
    (outer : ∀ {origin marks}, p.FailsBy naming s n m d origin marks →
      g.FailsBy naming s n c c' origin (marks ++ [mark])) :
    g.Explained naming s n c c' (Mark.on e mark) := by
  obtain ⟨origin, marks, fails, rfl⟩ := inner
  exact ⟨origin, marks ++ [mark], outer fails, by rw [List.foldl_append]; rfl⟩

end Explained

/-! ## Every failure is explained -/

section Induction

variable {naming : Naming} {s : Settings} {n : Nat}

/-- All failures of a grammar with references at most `n` deep are explained. -/
def IsExplained (naming : Naming) (s : Settings) (n : Nat) (g : Grammar) : Prop :=
  ∀ c, (g.toParser (naming.parserOf n)).FailsAs s c (g.Explained naming s n c) fun _ => True

variable {g p q : Grammar} {c m : Cursor}

/-- The failure of a part that the whole hands on as it is. -/
private lemma IsExplained.within (hq : q.IsExplained naming s n)
    (passes : ∀ d, g.Passes (naming.parserOf n) s c q m d) :
    (q.toParser (naming.parserOf n)).FailsAs s m (g.Explained naming s n c) fun _ => True :=
  (hq m).mono fun d _ _ inner => inner.passed (passes d)

/-- The failure of a part that the whole hands on if it has consumed. -/
private lemma IsExplained.withinIf {C : Cursor → Prop} (hq : q.IsExplained naming s n)
    (passes : ∀ d, C d → g.Passes (naming.parserOf n) s c q m d) :
    (q.toParser (naming.parserOf n)).FailsAs s m (fun d e => C d → g.Explained naming s n c d e)
      fun _ => True :=
  (hq m).mono fun d _ _ inner consumed => inner.passed (passes d consumed)

/-- The failure of the part that is run first. -/
private lemma IsExplained.first (hp : p.IsExplained naming s n) (first : g.first? = some p) :
    (p.toParser (naming.parserOf n)).FailsAs s c (g.Explained naming s n c) fun _ => True :=
  hp.within fun _ => .first first

/-- The failure of a part within a round of a loop. -/
private lemma IsExplained.inRound {k m' : Cursor} {C : Cursor → Prop}
    (hq : q.IsExplained naming s n) (round : g.AtRound (naming.parserOf n) s c k m)
    (inside : ∀ d, C d → g.InRound (naming.parserOf n) s m q m' d) :
    (q.toParser (naming.parserOf n)).FailsAs s m' (fun d e => C d → g.Explained naming s n c d e)
      fun _ => True :=
  (hq m').mono fun d _ _ inner holds => inner.passed (.inRound round (inside d holds))

/-- The failure of the item of a loop up to an end. -/
private lemma IsExplained.item {k : Cursor} {stop : Grammar} (hp : p.IsExplained naming s n)
    (loop : g = manyTill p stop ∨ g = many1Till p stop)
    (round : g.AtRound (naming.parserOf n) s c k m)
    (missed : (stop.toParser (naming.parserOf n)).Misses s m) :
    (p.toParser (naming.parserOf n)).FailsAs s m
      (fun d e => g.Explained naming s n c d (e.withContext Parser.neitherMatched))
      fun _ => True :=
  (hp m).mono fun _ _ _ inner => inner.marked (.added _) (.item loop round missed)

/-- **One level of references**: every failure of a grammar is explained if all failures of the
grammars are that its names stand for.

**Proof sketch.** Induction on the grammar. In each case the rule of the combinator says which of
its parsers failed and where it was run, and that is what the explanation says, too. -/
lemma isExplained_of_references (hnames : ∀ name, (reference name).IsExplained naming s n)
    (g : Grammar) : g.IsExplained naming s n := by
  induction g with
  | raise fault => exact fun _ => Parser.failsAs_raise trivial
  | succeed v => exact fun _ => Parser.failsAs_succeed v
  | fail e => exact fun _ => Parser.failsAs_fail (explained_own .fail)
  | endOfInput =>
    exact fun _ => (Parser.failsAs_endOfInput (fun _ => trivial) fun _ there =>
      explained_own (.endOfInput there)).map _
  | token test expected =>
    exact fun _ => Parser.failsAs_token (fun _ => trivial)
      (fun ended => explained_own (.ended ended))
      (fun _ there rejects => explained_own (.unwanted there rejects)) fun _ _ _ _ => trivial
  | literal expected =>
    exact fun _ => Parser.failsAs_literal (fun _ => trivial) (fun _ => trivial)
      fun _ _ _ _ items differs => explained_own (.literal items differs)
  | andThen p q hp hq =>
    exact fun c => (hp.first rfl).andThen fun _ ⟨_, got⟩ => hq.within fun _ => .next rfl got rfl
  | followedBy p q hp hq =>
    exact fun c => (hp.first rfl).followedBy fun _ ⟨_, got⟩ => hq.within fun _ => .next rfl got rfl
  | pairWith p q hp hq =>
    exact fun c => ((hp.first rfl).pairWith fun _ ⟨_, got⟩ =>
      hq.within fun _ => .next rfl got rfl).map _
  | both p q hp hq =>
    exact fun c => ((hp.first rfl).pairWith fun _ ⟨_, got⟩ =>
      hq.within fun _ => .next rfl got rfl).map _
  | sequence k parts ih =>
    refine fun c => (Parser.failsAs_sequence fun i inside m before => ?_).map _
    rw [List.length_ofFn] at inside
    rw [List.getElem_ofFn]
    exact (ih ⟨i, inside⟩).within fun _ => .inSequence ⟨i, inside⟩ before
  | bind p f hp hf =>
    exact fun c => (hp.first rfl).bind fun v _ got => (hf v).within fun _ => .next rfl got rfl
  | satisfying p test hp =>
    exact fun c => (hp.first rfl).satisfying
      (fun _ _ got rejects => explained_own (.rejected got rejects)) fun _ _ _ _ _ => trivial
  | transform p f hp => exact fun c => (hp.first rfl).transform fun _ _ _ _ _ => trivial
  | orElse p q hp hq =>
    exact fun c => Parser.FailsAs.orElse (hp.withinIf fun _ consumed => .committed consumed)
      fun missed => hq.within fun _ => .alternative missed
  | attempt p hp => exact fun c => ((hp c).mono fun _ _ _ h => h.rewound (.inl rfl)).attempt
  | lookAhead p hp => exact fun c => ((hp c).mono fun _ _ _ h => h.rewound (.inr rfl)).lookAhead
  | notFollowedBy p hp =>
    exact fun c => (Parser.FailsAs.notFollowedBy ((hp c).mono fun _ _ _ _ => trivial)
      fun _ _ got => explained_own (.unexpected got)).map _
  | withContext p text hp =>
    exact fun c => ((hp c).mono fun _ _ _ h => h.marked (.added text) .context).withContext
  | withMessage p text hp =>
    exact fun c =>
      ((hp c).mono fun _ _ _ h => h.marked (.replaced text) .message).withMessage
  | delayed p hp => exact fun c => hp.first rfl
  | many into p hp =>
    refine fun c => Collector.failsAs_many ⟨fun m before => ?_, fun m d before stepped same => ?_⟩
      fun _ _ => trivial
    · exact hp.inRound (.many before) fun _ consumed => ⟨rfl, rfl, consumed⟩
    · exact explained_own (.stalled (.many before) ⟨d, stepped, same⟩ nofun)
  | many1 into p hp =>
    refine fun c => Collector.failsAs_many1 (hp.first rfl)
      (fun k first => ⟨fun m before => ?_, fun m d before stepped same => ?_⟩) fun _ _ => trivial
    · exact hp.inRound (.many1 first before) fun _ consumed => ⟨rfl, rfl, consumed⟩
    · exact explained_own (.stalled (.many1 first before) ⟨d, stepped, same⟩ nofun)
  | count k p hp =>
    exact fun c => (Parser.FailsAs.count fun i inside m before =>
      hp.within fun _ => .inCount inside before).map _
  | sepBy1 p sep hp hsep =>
    refine fun c => (Parser.FailsAs.sepBy1 (hp.first rfl)
      (fun k m first before => ?_) (fun k m m' first before stepped => ?_)
      fun k m d first before stepped same => ?_).map _
    · exact hsep.inRound (.sepBy1 first before) fun d consumed => ⟨consumed, .inl ⟨rfl, rfl⟩⟩
    · exact hp.inRound (.sepBy1 first before) fun d consumed => ⟨consumed, .inr ⟨rfl, stepped⟩⟩
    -- The loop of `sepBy1` begins behind the first item, and there its lack of progress is told.
    · exact explained_own (.stalledBetween (.sepBy1 first before) ⟨d, stepped, same⟩)
  | sepEndBy1 p sep hp hsep =>
    refine fun c => (Parser.FailsAs.sepEndBy1 (hp.first rfl)
      (fun k m first before => ?_) (fun k m m' first before stepped => ?_)
      fun k m d first before stepped same => ?_).map _
    · exact hsep.inRound (.sepEndBy1 first before) fun d consumed => ⟨consumed, .inl ⟨rfl, rfl⟩⟩
    · exact hp.inRound (.sepEndBy1 first before) fun d consumed => ⟨consumed, .inr ⟨rfl, stepped⟩⟩
    · exact explained_own (.stalled (.sepEndBy1 first before) ⟨d, stepped, same⟩ nofun)
  | manyTill p stop hp hstop =>
    refine fun c => (Parser.TillFailsAs.manyTill ⟨fun m before => ?_, fun m before missed => ?_,
      fun m d before missed stepped same => ?_⟩).map _
    · exact hstop.inRound (.manyTill before) fun d consumed => ⟨rfl, rfl, consumed⟩
    · exact hp.item (.inl rfl) (.manyTill before) missed
    · exact explained_own (.stalled (.manyTill before) ⟨missed, d, stepped, same⟩ nofun)
  | many1Till p stop hp hstop =>
    refine fun c => (Parser.FailsAs.many1Till (hp.first rfl) fun k first => ⟨fun m before => ?_,
      fun m before missed => ?_, fun m d before missed stepped same => ?_⟩).map _
    · exact hstop.inRound (.many1Till first before) fun d consumed => ⟨rfl, rfl, consumed⟩
    · exact hp.item (.inr rfl) (.many1Till first before) missed
    · exact explained_own (.stalled (.many1Till first before) ⟨missed, d, stepped, same⟩ nofun)
  | chainl1By apply p op hp hop =>
    refine fun c => Parser.FailsAs.chainl1 (hp.first rfl)
      (fun k first => ⟨fun m before => ?_, fun m m' before stepped => ?_⟩)
      fun _ _ _ _ _ _ _ _ _ _ _ => trivial
    · exact hop.inRound (.chainl1By first before) fun d consumed => .inl ⟨rfl, rfl, consumed⟩
    · exact hp.within fun d => .inRound (.chainl1By first before) (.inr ⟨rfl, stepped⟩)
  | chainr1By apply p op hp hop =>
    refine fun c => Parser.FailsAs.chainr1 (hp.first rfl)
      (fun k first => ⟨fun m before => ?_, fun m m' before stepped => ?_⟩)
      fun _ _ _ _ _ _ _ _ _ _ _ => trivial
    · exact hop.inRound (.chainr1By first before) fun d consumed => .inl ⟨rfl, rfl, consumed⟩
    · exact hp.within fun d => .inRound (.chainr1By first before) (.inr ⟨rfl, stepped⟩)
  | trace label => exact fun c => (Parser.failsAs_trace fun _ => trivial).map _
  | traced label p hp =>
    exact fun c => Parser.FailsAs.traced (fun _ => trivial)
      ((hp c).mono fun _ _ _ h => h.marked (.replaced _) .traced)
  | reference name => exact hnames name

/-- **All levels of references**: every failure of a grammar is explained, whatever its names stand
for. -/
lemma isExplained (naming : Naming) (s : Settings) (n : Nat) (g : Grammar) :
    g.IsExplained naming s n := by
  induction n generalizing g with
  | zero => exact isExplained_of_references (n := 0) (fun _ _ => trivial) g
  | succ n ih =>
    refine isExplained_of_references (fun name c => ?_) g
    change ((naming.parserOf (n + 1) name).run s c).Meets _ _ _
    simp only [Naming.parserOf]
    split
    · next g there => exact (ih g c).mono fun _ _ _ inner => inner.named there
    · trivial

/-- The failure of a grammar under settings with so much fuel is explained. -/
lemma explained_parserUnder {d : Cursor} {e : ParseError}
    (h : ((g.parserUnder naming).run s c).ending = .done (.error d e)) :
    g.Explained naming s s.fuel c d e :=
  (isExplained naming s s.fuel g c).fails h

end Induction

/-! ## The frames of an error -/

/-- **No cause is lost.** Whenever a grammar fails, its error comes from one original failure within
it. The frames are those of that failure and then the messages that were added around it, from the
inside to the outside; or, if messages took the place of others around it, the outermost of these
messages and then those that were added outside of it. So the deepest frame in words is the cause,
the outermost one is the last message that was added, and all frames in words are all of them.

**Proof sketch.** The failure is explained (`Grammar.explained_parserUnder`) by an original failure
and marks. The last mark that takes the place of others divides the marks
(`Mark.added_or_replaced`), and those after it are added one after the other. -/
theorem cause_kept (naming : Naming) (g : Grammar) (s : Settings) (c d : Cursor) (e : ParseError)
    (h : ((g.parserUnder naming).run s c).ending = .done (.error d e)) :
    ∃ origin marks, g.FailsBy naming s s.fuel c d origin marks ∧ e.frames ≠ [] ∧
      ((∃ texts : List String, marks = texts.map .added ∧ e.Extends origin texts) ∨
        ∃ (inner : List Mark) (text : String) (texts : List String),
          marks = inner ++ .replaced text :: texts.map .added ∧
            e.Extends (.ofMessage text) texts) := by
  obtain ⟨origin, marks, fails, rfl⟩ := explained_parserUnder h
  refine ⟨origin, marks, fails, List.cons_ne_nil _ _, ?_⟩
  rcases Mark.added_or_replaced marks with ⟨texts, rfl⟩ | ⟨inner, text, texts, rfl⟩
  · exact .inl ⟨texts, rfl, extends_foldl_added origin texts⟩
  · refine .inr ⟨inner, text, texts, rfl, ?_⟩
    rw [List.foldl_append, List.foldl_cons]
    exact extends_foldl_added (.ofMessage text) texts

/-- A list of pairs whose second pair is broken: the original failure is at its second letter, and
the message of the pair, of the loop and of the two contexts follow it. -/
theorem cause_kept_list :
    let pair : Grammar := ((char 'a').andThen (char 'b')).withContext "in a pair"
    let naming : Naming := fun _ => some pair
    let g : Grammar :=
      ((manyTill (reference "pair") (char ';')).withContext "in a list").withContext "in a file"
    let c : Cursor := .plain (.ofValue (.str "abac"))
    let d : Cursor := ⟨c.input, 3, none⟩
    let texts : List String :=
      ["in a pair", "many_till: neither item nor end matched", "in a list", "in a file"]
    let e : ParseError := ⟨.atom (.str "b") (.str "c"), texts.map .message⟩
    ((g.parserUnder naming).run ⟨4, false⟩ c).ending = .done (.error d e) ∧
      ∃ origin marks, g.FailsBy naming ⟨4, false⟩ 4 c d origin marks ∧ e.frames ≠ [] ∧
        ((∃ texts : List String, marks = texts.map .added ∧ e.Extends origin texts) ∨
          ∃ (inner : List Mark) (text : String) (texts : List String),
            marks = inner ++ .replaced text :: texts.map .added ∧
              e.Extends (.ofMessage text) texts) := by
  intro pair naming g c d texts e
  have h : ((g.parserUnder naming).run ⟨4, false⟩ c).ending = .done (.error d e) := by rfl
  exact ⟨h, cause_kept naming g ⟨4, false⟩ c d e h⟩

end Grammar

end ParserCombinators
