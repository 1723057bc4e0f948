import Mathlib.Data.List.Forall2
import ParserCombinators.Parser.Trace
import ParserCombinators.Proofs.Parser.Onward

/-!
# Parsers that correspond

Two runs of parsers can be compared without a look at what the parsers are put together from. A
correspondence says which settings, cursors and errors of the two runs belong together, and it must
keep to what a parser can do with a cursor: look at the symbols ahead, step over symbols that are
there, and compare offsets. Two parsers correspond if from cursors that belong together they end
alike, with replies that belong together. The parsers that look at the input correspond to
themselves, and every combinator makes corresponding parsers of corresponding parsers.

## Main definitions

* `SameView`, `SameReports` — the laws of cursors and of errors that belong together.
* `Correspondence` — which settings, cursors and errors of two runs belong together.
* `Correspondence.Replies` — which replies do, given which values do.
* `Parser.Corresponds` — two parsers with such replies from all cursors that belong together.

## Main results

* `Parser.corresponds_token`, `Parser.corresponds_literal` — the parsers that look at the input.
* `Parser.Corresponds.bind`, `Parser.Corresponds.orElse`, `Parser.Corresponds.mapReply` — one
  parser after another, alternatives, and changed replies.
* `Parser.Corresponds.manyByFrom`, `Parser.Corresponds.till`, `Parser.Corresponds.chainlFrom` —
  loops.
-/

set_option autoImplicit false

namespace ParserCombinators

/-- What a parser can see of cursors that belong together is the same in both runs, and what it can
do with them keeps them together. -/
structure SameView (cursors : Cursor → Cursor → Prop) : Prop where
  /-- Both inputs are sequences or neither is one. -/
  isReadable_eq {c d : Cursor} : cursors c d → c.input.isReadable = d.input.isReadable
  /-- The same symbols are ahead. -/
  get?_eq {c d : Cursor} : cursors c d →
    ∀ i, c.input.get? (c.offset + i) = d.input.get? (d.offset + i)
  /-- Steps over symbols that are there lead to cursors that belong together. -/
  advance {c d : Cursor} {n : Nat} : cursors c d → n ≤ c.remaining →
    cursors (c.advance n) (d.advance n)
  /-- One run has moved exactly if the other has. -/
  offset_eq_iff {c d c' d' : Cursor} : cursors c d → cursors c' d' →
    (c'.offset = c.offset ↔ d'.offset = d.offset)

/-- Of equal cursors all is the same. -/
lemma sameView_eq : SameView Eq where
  isReadable_eq same := by rw [same]
  get?_eq same _ := by rw [same]
  advance same _ := by rw [same]
  offset_eq_iff same same' := by rw [same, same']

/-- What a parser reports at cursors that belong together are errors that do. -/
structure SameReports (cursors : Cursor → Cursor → Prop) (errors : ParseError → ParseError → Prop) :
    Prop where
  /-- Messages do not depend on the run. -/
  message (text : String) : errors (.ofMessage text) (.ofMessage text)
  /-- Nor does what is said of a single symbol. -/
  atom (expected found : Value) : errors (.ofAtom expected found) (.ofAtom expected found)
  /-- A literal that stops agreeing with the input is reported with the symbols ahead. -/
  literal {c d : Cursor} : cursors c d → ∀ (expected : Value) (n : Nat) (atom found : Value),
    errors (Parser.literalError expected (c.peek n) atom found)
      (Parser.literalError expected (d.peek n) atom found)
  /-- A message more on both sides. -/
  withContext {e f : ParseError} : errors e f →
    ∀ text, errors (e.withContext (.message text)) (f.withContext (.message text))

/-- Equal errors are reported if equal slices of the input are ahead. -/
lemma sameReports_eq {cursors : Cursor → Cursor → Prop}
    (h : ∀ c d, cursors c d → ∀ n : Nat, c.peek n = d.peek n) : SameReports cursors Eq where
  message _ := rfl
  atom _ _ := rfl
  literal together _ n _ _ := by rw [h _ _ together n]
  withContext same _ := by rw [same]

/-- Which settings, cursors and errors of two runs belong together. -/
structure Correspondence where
  /-- The settings of the two runs. -/
  settings : Settings → Settings → Prop
  /-- The cursors that belong together. -/
  cursors : Cursor → Cursor → Prop
  /-- The errors that belong together. -/
  errors : ParseError → ParseError → Prop
  /-- Loops and references have as much fuel in both runs. -/
  fuel_eq {s t : Settings} : settings s t → s.fuel = t.fuel
  /-- If only one of the runs is traced, a trace can look at the input. -/
  tracing {s t : Settings} {c d : Cursor} : settings s t → cursors c d →
    s.tracing = t.tracing ∨ c.input.isReadable = true
  /-- What is ahead of the cursors, and where they can move. -/
  view : SameView cursors
  /-- What is said of failures. -/
  reports : SameReports cursors errors

/-- Two runs with the same settings. -/
def Correspondence.ofView {cursors : Cursor → Cursor → Prop}
    {errors : ParseError → ParseError → Prop} (view : SameView cursors)
    (reports : SameReports cursors errors) : Correspondence where
  settings := Eq
  cursors := cursors
  errors := errors
  fuel_eq same := congrArg Settings.fuel same
  tracing same _ := .inl (congrArg Settings.tracing same)
  view := view
  reports := reports

/-- Equal settings, cursors and errors belong together. -/
def Correspondence.same : Correspondence :=
  .ofView sameView_eq (sameReports_eq fun _ _ same _ => by rw [same])

variable {α β γ δ ο : Type} {κ : Correspondence}

/-- The replies that belong together: two successes with values related by `V`, or two failures
with errors that belong together, at cursors that do. -/
inductive Correspondence.Replies (κ : Correspondence) (V : α → β → Prop) :
    Reply α → Reply β → Prop
  /-- Two successes. -/
  | ok {a : α} {b : β} {c d : Cursor} (values : V a b) (cursors : κ.cursors c d) :
    Replies κ V (.ok a c) (.ok b d)
  /-- Two failures. -/
  | error {c d : Cursor} {e f : ParseError} (cursors : κ.cursors c d) (errors : κ.errors e f) :
    Replies κ V (.error c e) (.error d f)

/-- Related states of two loops that collect into arrays: cursors that belong together, and as many
values, related one by one. -/
def Correspondence.Collected (κ : Correspondence) (V : α → β → Prop) (x : Cursor × Array α)
    (y : Cursor × Array β) : Prop :=
  κ.cursors x.1 y.1 ∧ List.Forall₂ V x.2.toList y.2.toList

namespace Correspondence.Replies

variable {V : α → β → Prop} {r : Reply α} {r' : Reply β}

/-- Replies that belong together are of one kind. -/
lemma isOk_eq (h : κ.Replies V r r') : r.isOk = r'.isOk := by
  cases h <;> rfl

/-- Replies that belong together are at cursors that do. -/
lemma cursors (h : κ.Replies V r r') : κ.cursors r.cursor r'.cursor := by
  cases h with
  | ok _ cursors => exact cursors
  | error cursors _ => exact cursors

/-- Replies that belong together have both consumed input, or neither has. -/
lemma consumedSince_eq (h : κ.Replies V r r') {c d : Cursor} (starts : κ.cursors c d) :
    r.consumedSince c = r'.consumedSince d := by
  have moved := κ.view.offset_eq_iff starts h.cursors
  rw [Bool.eq_iff_iff]
  simp only [Reply.consumedSince, bne_iff_ne, ne_eq, moved]

end Correspondence.Replies

/-- If only equal cursors and equal errors belong together, runs with replies that belong together
end with the same. -/
lemma Correspondence.ending_eq {x y : Run (Reply α)} (h : x.Alike (κ.Replies Eq) y)
    (cursors : ∀ c d, κ.cursors c d → c = d) (errors : ∀ e f, κ.errors e f → e = f) :
    x.ending = y.ending := by
  unfold Run.Alike at h
  generalize x.ending = ending at h ⊢
  generalize y.ending = ending' at h ⊢
  cases h with
  | done related =>
    cases related with
    | ok values together => rw [values, cursors _ _ together]
    | error together same => rw [cursors _ _ together, errors _ _ same]
  | raised fault => rfl
  | exhausted => rfl

namespace Parser

/-- From cursors that belong together the two parsers end alike, with replies that belong
together. -/
def Corresponds (κ : Correspondence) (V : α → β → Prop) (p : Parser α) (q : Parser β) : Prop :=
  ∀ s t c d, κ.settings s t → κ.cursors c d → (p.run s c).Alike (κ.Replies V) (q.run t d)

variable {V : α → β → Prop} {W : γ → δ → Prop}

/-! ## Parsers that read nothing -/

/-- Parsers that succeed with related values correspond. -/
lemma corresponds_succeed {a : α} {b : β} (values : V a b) :
    (succeed a).Corresponds κ V (succeed b) :=
  fun _ _ _ _ _ cursors => Run.alike_pure (.ok values cursors)

/-- Parsers that fail with errors that belong together correspond. -/
lemma corresponds_fail {e f : ParseError} (errors : κ.errors e f) :
    (fail e : Parser α).Corresponds κ V (fail f) :=
  fun _ _ _ _ _ cursors => Run.alike_pure (.error cursors errors)

/-- Parsers that raise the same fault correspond. -/
lemma corresponds_raise (fault : Fault) :
    (raise fault : Parser α).Corresponds κ V (raise fault : Parser β) :=
  fun _ _ _ _ _ _ => Run.alike_raise fault

/-- What follows a callback corresponds if it does so for all that the callback can return. -/
lemma corresponds_ofExcept_map (x : Except Fault ο) {f : ο → Parser α} {g : ο → Parser β}
    (h : ∀ a, (f a).Corresponds κ V (g a)) :
    (ofExcept (x.map f)).Corresponds κ V (ofExcept (x.map g)) := by
  cases x with
  | ok a => exact h a
  | error fault => exact corresponds_raise fault

/-! ## The input -/

/-- Both inputs can be looked at, or neither. -/
lemma alike_look {c d : Cursor} (cursors : κ.cursors c d) : (look c).Alike Eq (look d) := by
  unfold look
  rw [κ.view.isReadable_eq cursors]
  exact Run.alike_refl _

/-- The same symbol is next. -/
lemma head?_eq_of_cursors {c d : Cursor} (cursors : κ.cursors c d) : c.head? = d.head? :=
  κ.view.get?_eq cursors 0

/-- The end is found in both runs or in neither. -/
lemma corresponds_endOfInput : endOfInput.Corresponds κ Eq endOfInput := by
  intro s t c d _ cursors
  refine (alike_look cursors).bind fun _ _ _ => ?_
  rw [head?_eq_of_cursors cursors]
  cases d.head? with
  | none => exact Run.alike_pure (.ok rfl cursors)
  | some found => exact Run.alike_pure (.error cursors (κ.reports.atom .endOfInput found))

/-- The next symbol is the same, so both take it or neither does. -/
lemma corresponds_token (test : Value → Except Fault Bool) (expected : Value) :
    (token test expected).Corresponds κ Eq (token test expected) := by
  intro s t c d _ cursors
  refine (alike_look cursors).bind fun _ _ _ => ?_
  have next := head?_eq_of_cursors cursors
  cases there : c.head? with
  | none =>
    rw [← next, there]
    exact Run.alike_pure (.error cursors (κ.reports.atom expected .endOfInput))
  | some symbol =>
    rw [← next, there]
    refine (Run.alike_refl (Run.ofExcept (test symbol))).bind ?_
    rintro passed _ rfl
    cases passed with
    | true =>
      exact Run.alike_pure (.ok rfl (κ.view.advance cursors (Cursor.one_le_remaining there)))
    | false => exact Run.alike_pure (.error cursors (κ.reports.atom expected symbol))

/-- The symbols ahead stop agreeing with the expected ones at the same place. -/
lemma firstMismatch_eq_of_cursors {c d : Cursor} (cursors : κ.cursors c d) (i : Nat)
    (items : List Value) : firstMismatch c i items = firstMismatch d i items := by
  induction items generalizing i with
  | nil => rfl
  | cons expected rest ih => rw [firstMismatch, firstMismatch, κ.view.get?_eq cursors, ih]

/-- Both inputs agree with the symbols, or stop agreeing at the same place. -/
lemma corresponds_symbols (expected : Value) (items : List Value) :
    (symbols expected items).Corresponds κ Eq (symbols expected items) := by
  intro s t c d _ cursors
  refine (alike_look cursors).bind fun _ _ _ => ?_
  rw [← firstMismatch_eq_of_cursors cursors]
  cases h : firstMismatch c 0 items with
  | none => exact Run.alike_pure (.ok rfl (κ.view.advance cursors (length_le_remaining h)))
  | some mismatch =>
    obtain ⟨i, atom, found⟩ := mismatch
    exact Run.alike_pure (.error cursors (κ.reports.literal cursors expected (i + 1) atom found))

/-- A literal is a run of symbols, or raises the same fault. -/
lemma corresponds_literal (expected : Value) :
    (literal expected).Corresponds κ Eq (literal expected) := by
  unfold literal
  cases expected.items? with
  | some items => exact corresponds_symbols expected items
  | none => exact corresponds_raise .mismatchedKind

/-! ## One after another -/

variable {p : Parser α} {q : Parser β} {p' : Parser γ} {q' : Parser δ}

/-- The second parsers begin at cursors that belong together, and depend on values that do. -/
lemma Corresponds.bind {f : α → Parser γ} {g : β → Parser δ} (h : p.Corresponds κ V q)
    (next : ∀ a b, V a b → (f a).Corresponds κ W (g b)) :
    (p.bind f).Corresponds κ W (q.bind g) := by
  intro s t c d settings cursors
  refine (h s t c d settings cursors).bind ?_
  rintro _ _ (⟨values, cursors⟩ | ⟨cursors, errors⟩)
  · exact next _ _ values s t _ _ settings cursors
  · exact Run.alike_pure (.error cursors errors)

/-- Related values are changed into related ones. -/
lemma Corresponds.map (h : p.Corresponds κ V q) {f : α → γ} {g : β → δ}
    (values : ∀ a b, V a b → W (f a) (g b)) : (p.map f).Corresponds κ W (q.map g) := by
  rw [map_eq_bind, map_eq_bind]
  exact h.bind fun a b related => corresponds_succeed (values a b related)

/-- The values of the second parsers are related. -/
lemma Corresponds.andThen (h : p.Corresponds κ V q) (h' : p'.Corresponds κ W q') :
    (p.andThen p').Corresponds κ W (q.andThen q') := by
  rw [andThen_eq_bind, andThen_eq_bind]
  exact h.bind fun _ _ _ => h'

/-- The values of the first parsers are related. -/
lemma Corresponds.followedBy (h : p.Corresponds κ V q) (h' : p'.Corresponds κ W q') :
    (p.followedBy p').Corresponds κ V (q.followedBy q') := by
  rw [followedBy_eq_bind, followedBy_eq_bind]
  exact h.bind fun _ _ values => h'.map fun _ _ _ => values

/-- Both components are related. -/
lemma Corresponds.pairWith (h : p.Corresponds κ V q) (h' : p'.Corresponds κ W q') :
    (p.pairWith p').Corresponds κ (fun x y => V x.1 y.1 ∧ W x.2 y.2) (q.pairWith q') := by
  rw [pairWith_eq_bind, pairWith_eq_bind]
  exact h.bind fun _ _ values => h'.map fun _ _ values' => ⟨values, values'⟩

/-- A callback makes the same of the same value. -/
lemma Corresponds.transform {p q : Parser α} (h : p.Corresponds κ Eq q) (f : α → Except Fault γ) :
    (p.transform f).Corresponds κ Eq (q.transform f) := by
  rw [transform_eq_bind, transform_eq_bind]
  refine h.bind ?_
  rintro a _ rfl
  exact corresponds_ofExcept_map (f a) fun b => corresponds_succeed rfl

/-- A rejected value fails where the parser stopped. -/
lemma Corresponds.satisfying {p q : Parser α} (h : p.Corresponds κ Eq q)
    (test : α → Except Fault Bool) :
    (p.satisfying test).Corresponds κ Eq (q.satisfying test) := by
  rw [satisfying_eq_bind, satisfying_eq_bind]
  refine h.bind ?_
  rintro a _ rfl
  refine corresponds_ofExcept_map (test a) fun passed => ?_
  cases passed with
  | true => exact corresponds_succeed rfl
  | false => exact corresponds_fail (κ.reports.message "failed satisfy")

/-! ## Alternatives and looking ahead -/

/-- The alternative is tried on both sides or on neither. -/
lemma Corresponds.orElse {p p' : Parser α} {q q' : Parser β} (h : p.Corresponds κ V q)
    (h' : p'.Corresponds κ V q') : (p.orElse p').Corresponds κ V (q.orElse q') := by
  intro s t c d settings cursors
  refine (h s t c d settings cursors).bind fun r r' replies => ?_
  rw [replies.isOk_eq, replies.consumedSince_eq cursors]
  split
  · exact Run.alike_pure replies
  · exact h' s t c d settings cursors

/-- Changed replies belong together if the changes make such replies of replies that do. -/
lemma Corresponds.mapReply (h : p.Corresponds κ V q) {f : Cursor → Reply α → Reply γ}
    {g : Cursor → Reply β → Reply δ}
    (replies : ∀ c d r r', κ.cursors c d → κ.Replies V r r' → κ.Replies W (f c r) (g d r')) :
    (p.mapReply f).Corresponds κ W (q.mapReply g) :=
  fun s t c d settings cursors =>
    alike_mapReply (h s t c d settings cursors) fun r r' => replies c d r r' cursors

/-- On failure both go back to where they began. -/
lemma Corresponds.attempt (h : p.Corresponds κ V q) : p.attempt.Corresponds κ V q.attempt := by
  rw [attempt_eq_mapReply, attempt_eq_mapReply]
  refine h.mapReply ?_
  rintro c d _ _ cursors (⟨values, cursors'⟩ | ⟨_, errors⟩)
  · exact .ok values cursors'
  · exact .error cursors errors

/-- Both go back to where they began. -/
lemma Corresponds.lookAhead (h : p.Corresponds κ V q) :
    p.lookAhead.Corresponds κ V q.lookAhead := by
  rw [lookAhead_eq_mapReply, lookAhead_eq_mapReply]
  refine h.mapReply ?_
  rintro c d _ _ cursors (⟨values, _⟩ | ⟨_, errors⟩)
  · exact .ok values cursors
  · exact .error cursors errors

/-- The same value is unexpected. -/
lemma Corresponds.notFollowedBy {p q : Parser α} (showing : α → String)
    (h : p.Corresponds κ Eq q) :
    (notFollowedBy showing p).Corresponds κ Eq (notFollowedBy showing q) := by
  rw [notFollowedBy_eq_mapReply, notFollowedBy_eq_mapReply]
  refine h.mapReply ?_
  rintro c d _ _ cursors (⟨rfl, _⟩ | ⟨_, _⟩)
  · exact .error cursors (κ.reports.message _)
  · exact .ok rfl cursors

/-! ## What a failure says -/

/-- Failures that say something else belong together if what they say does. -/
lemma Corresponds.mapError (h : p.Corresponds κ V q) {f g : ParseError → ParseError}
    (errors : ∀ e e', κ.errors e e' → κ.errors (f e) (g e')) :
    (p.mapReply fun _ => Reply.mapError f).Corresponds κ V
      (q.mapReply fun _ => Reply.mapError g) := by
  refine h.mapReply ?_
  rintro c d _ _ _ (⟨values, cursors⟩ | ⟨cursors, together⟩)
  · exact .ok values cursors
  · exact .error cursors (errors _ _ together)

/-- The same message more. -/
lemma Corresponds.withContext (h : p.Corresponds κ V q) (text : String) :
    (p.withContext text).Corresponds κ V (q.withContext text) := by
  rw [withContext_eq_mapReply, withContext_eq_mapReply]
  exact h.mapError fun _ _ errors => κ.reports.withContext errors text

/-- The same message in the stead of all others. -/
lemma Corresponds.withMessage (h : p.Corresponds κ V q) (text : String) :
    (p.withMessage text).Corresponds κ V (q.withMessage text) := by
  rw [withMessage_eq_mapReply, withMessage_eq_mapReply]
  exact h.mapError fun _ _ _ => κ.reports.message text

/-! ## Tracing -/

/-- Traces correspond: if only one of the runs is traced, it can look at the input. -/
lemma corresponds_trace (label : String) :
    (trace label).Corresponds κ Eq (trace label) := by
  intro s t c d settings cursors
  rw [Run.Alike, ending_trace, ending_trace, ← κ.view.isReadable_eq cursors]
  rcases κ.tracing settings cursors with same | readable
  · rw [same]
    split
    · exact .raised _
    · exact .done (.ok rfl cursors)
  · simp only [readable, Bool.true_eq_false, and_false, if_false]
    exact .done (.ok rfl cursors)

/-- Failures of a trace say the same. -/
lemma corresponds_traceFailure (label : String) :
    (traceFailure label : Parser α).Corresponds κ V (traceFailure label : Parser β) := by
  intro s t c d _ cursors
  rw [Run.Alike, ending_traceFailure, ending_traceFailure]
  exact .done (.error cursors (κ.reports.message _))

/-- Traced parsers correspond if their bodies do. -/
lemma Corresponds.traced (h : p.Corresponds κ V q) (label : String) :
    (traced label p).Corresponds κ V (traced label q) :=
  (corresponds_trace label).andThen (h.attempt.orElse (corresponds_traceFailure label))

/-! ## Again and again -/

section Repeated

variable {A : γ → δ → Prop} {push : γ → α → Except Fault γ} {push' : δ → β → Except Fault δ}

/-- Two repetitions correspond if what they collect stays related by `A`: both take related values
into related collections, or refuse them with the same fault. -/
lemma Corresponds.manyByFrom (h : p.Corresponds κ V q)
    (pushes : ∀ g g' a b, A g g' → V a b →
      (Run.ofExcept (push g a)).Alike A (Run.ofExcept (push' g' b)))
    {s t : Settings} {start start' c d : Cursor} {g : γ} {g' : δ} (settings : κ.settings s t)
    (starts : κ.cursors start start') (cursors : κ.cursors c d) (collected : A g g') :
    (manyByFrom push p start s c g).Alike (κ.Replies A)
      (manyByFrom push' q start' t d g') := by
  refine Run.Alike.iterate (I := fun x y => κ.cursors x.1 y.1 ∧ A x.2 y.2) (κ.fuel_eq settings) ?_
    ⟨cursors, collected⟩
  rintro ⟨c, g⟩ ⟨d, g'⟩ ⟨cursors, collected⟩
  refine (h s t c d settings cursors).bind ?_
  rintro _ _ (⟨values, next⟩ | ⟨next, errors⟩)
  · refine Run.Alike.ite (κ.view.offset_eq_iff cursors next) (fun _ => ?_) fun _ => ?_
    · exact Run.alike_pure (.stop (.error starts (κ.reports.message _)))
    · refine (pushes _ _ _ _ collected values).bind fun _ _ collected => ?_
      exact Run.alike_pure (.again ⟨next, collected⟩)
  · refine Run.Alike.ite (κ.view.offset_eq_iff cursors next) (fun _ => ?_) fun _ => ?_
    · exact Run.alike_pure (.stop (.ok collected cursors))
    · exact Run.alike_pure (.stop (.error next errors))

/-- Repetitions correspond if their collections begin related, or with the same fault. -/
lemma Corresponds.manyBy (h : p.Corresponds κ V q) {empty : Except Fault γ}
    {empty' : Except Fault δ} (begin : (Run.ofExcept empty).Alike A (Run.ofExcept empty'))
    (pushes : ∀ g g' a b, A g g' → V a b →
      (Run.ofExcept (push g a)).Alike A (Run.ofExcept (push' g' b))) :
    (manyBy empty push p).Corresponds κ A (manyBy empty' push' q) := by
  intro s t c d settings cursors
  refine begin.bind fun g g' collected => ?_
  exact h.manyByFrom pushes settings cursors cursors collected

/-- Repetitions with a first value correspond if their collections are related after it. -/
lemma Corresponds.many1By (h : p.Corresponds κ V q) {empty : Except Fault γ}
    {empty' : Except Fault δ}
    (first : ∀ a b, V a b → (Run.ofExcept (do push (← empty) a)).Alike A
      (Run.ofExcept (do push' (← empty') b)))
    (pushes : ∀ g g' a b, A g g' → V a b →
      (Run.ofExcept (push g a)).Alike A (Run.ofExcept (push' g' b))) :
    (many1By empty push p).Corresponds κ A (many1By empty' push' q) := by
  intro s t c d settings cursors
  refine (h s t c d settings cursors).bind ?_
  rintro _ _ (⟨values, next⟩ | ⟨next, errors⟩)
  · refine (first _ _ values).bind fun g g' collected => ?_
    exact h.manyByFrom pushes settings cursors next collected
  · exact Run.alike_pure (.error next errors)

end Repeated

section Collected

variable {A : γ → δ → Prop} {empty : γ} {empty' : δ} {push : γ → α → γ} {push' : δ → β → δ}

/-- Repetitions whose collections take every value correspond if these stay related. -/
lemma Corresponds.manyInto (h : p.Corresponds κ V q) (begin : A empty empty')
    (pushes : ∀ g g' a b, A g g' → V a b → A (push g a) (push' g' b)) :
    (manyInto empty push p).Corresponds κ A (manyInto empty' push' q) :=
  fun _ _ _ _ settings cursors =>
    h.manyByFrom (fun _ _ _ _ collected values => Run.alike_pure (pushes _ _ _ _ collected values))
      settings cursors cursors begin

/-- So do those with a first value. -/
lemma Corresponds.many1Into (h : p.Corresponds κ V q) (begin : A empty empty')
    (pushes : ∀ g g' a b, A g g' → V a b → A (push g a) (push' g' b)) :
    (many1Into empty push p).Corresponds κ A (many1Into empty' push' q) := by
  intro s t c d settings cursors
  refine (h s t c d settings cursors).bind ?_
  rintro _ _ (⟨values, next⟩ | ⟨next, errors⟩)
  · exact h.manyByFrom
      (fun _ _ _ _ collected values => Run.alike_pure (pushes _ _ _ _ collected values))
      settings cursors next (pushes _ _ _ _ begin values)
  · exact Run.alike_pure (.error next errors)

end Collected

/-- One related value more. -/
lemma forall₂_push {items : Array α} {items' : Array β} {a : α} {b : β}
    (h : List.Forall₂ V items.toList items'.toList) (values : V a b) :
    List.Forall₂ V (items.push a).toList (items'.push b).toList := by
  rw [Array.toList_push, Array.toList_push]
  exact List.rel_append h (.cons values .nil)

/-- The lists of values are related one by one. -/
lemma Corresponds.many (h : p.Corresponds κ V q) :
    (many p).Corresponds κ (List.Forall₂ V) (many q) :=
  (h.manyInto (A := fun x y => List.Forall₂ V x.toList y.toList) .nil
    fun _ _ _ _ => forall₂_push).map fun _ _ => id

/-- The lists of values are related one by one, the first values included. -/
lemma Corresponds.many1 (h : p.Corresponds κ V q) :
    (many1 p).Corresponds κ (List.Forall₂ V) (many1 q) :=
  (h.many1Into (A := fun x y => List.Forall₂ V x.toList y.toList) .nil
    fun _ _ _ _ => forall₂_push).map fun _ _ => id

/-- Repetitions that drop their values correspond whatever the values are. -/
lemma Corresponds.skipMany (h : p.Corresponds κ V q) :
    (skipMany p).Corresponds κ (fun _ _ => True) (skipMany q) :=
  h.manyInto trivial fun _ _ _ _ _ _ => trivial

/-- So do those with a first value. -/
lemma Corresponds.skipMany1 (h : p.Corresponds κ V q) :
    (skipMany1 p).Corresponds κ (fun _ _ => True) (skipMany1 q) :=
  h.many1Into trivial fun _ _ _ _ _ _ => trivial

/-! ## A fixed number of parsers -/

/-- Sequences that go on after related values end alike. -/
lemma alike_sequenceFrom {ps : List (Parser α)} {qs : List (Parser β)}
    (h : List.Forall₂ (Corresponds κ V) ps qs) {s t : Settings} (settings : κ.settings s t)
    {c d : Cursor} (cursors : κ.cursors c d) {items : Array α} {items' : Array β}
    (collected : List.Forall₂ V items.toList items'.toList) :
    (sequenceFrom s ps items c).Alike (κ.Replies (List.Forall₂ V))
      (sequenceFrom t qs items' d) := by
  induction h generalizing c d items items' with
  | nil => exact Run.alike_pure (.ok collected cursors)
  | cons h _ ih =>
    refine (h s t c d settings cursors).bind ?_
    rintro _ _ (⟨values, next⟩ | ⟨next, errors⟩)
    · exact ih next (forall₂_push collected values)
    · exact Run.alike_pure (.error next errors)

/-- Sequences of parsers that correspond one by one correspond. -/
lemma corresponds_sequence {ps : List (Parser α)} {qs : List (Parser β)}
    (h : List.Forall₂ (Corresponds κ V) ps qs) :
    (sequence ps).Corresponds κ (List.Forall₂ V) (sequence qs) :=
  fun _ _ _ _ settings cursors => alike_sequenceFrom h settings cursors .nil

/-- The values of a fixed number of rounds are related one by one. -/
lemma Corresponds.count (h : p.Corresponds κ V q) (n : Nat) :
    (count n p).Corresponds κ (List.Forall₂ V) (count n q) := by
  rw [count_eq_sequence, count_eq_sequence]
  refine corresponds_sequence ?_
  induction n with
  | zero => exact .nil
  | succ n ih => exact .cons h ih

/-! ## Separators -/

/-- The items are related one by one, and of the separators nothing is kept. -/
lemma Corresponds.sepBy1 (h : p.Corresponds κ V q) (h' : p'.Corresponds κ W q') :
    (sepBy1 p p').Corresponds κ (List.Forall₂ V) (sepBy1 q q') := by
  rw [sepBy1_eq_bind, sepBy1_eq_bind]
  exact h.bind fun _ _ values => ((h'.andThen h).many).map fun _ _ more => .cons values more

/-- The last separator may be consumed on both sides or on neither. -/
lemma Corresponds.sepEndBy1 (h : p.Corresponds κ V q) (h' : p'.Corresponds κ W q') :
    (sepEndBy1 p p').Corresponds κ (List.Forall₂ V) (sepEndBy1 q q') := by
  intro s t start start' settings starts
  refine (h s t start start' settings starts).bind ?_
  rintro _ _ (⟨values, next⟩ | ⟨next, errors⟩)
  · refine Run.Alike.iterate (I := κ.Collected V) (κ.fuel_eq settings) ?_
      ⟨next, .cons values .nil⟩
    rintro ⟨c, items⟩ ⟨d, items'⟩ ⟨cursors, collected⟩
    refine (h' s t c d settings cursors).bind ?_
    rintro _ _ (⟨_, separated⟩ | ⟨next, errors⟩)
    · refine (h s t _ _ settings separated).bind ?_
      rintro _ _ (⟨values, next⟩ | ⟨next, errors⟩)
      · refine Run.Alike.ite (κ.view.offset_eq_iff cursors next) (fun _ => ?_) fun _ => ?_
        · exact Run.alike_pure (.stop (.error starts (κ.reports.message _)))
        · exact Run.alike_pure (.again ⟨next, forall₂_push collected values⟩)
      · refine Run.Alike.ite (κ.view.offset_eq_iff separated next) (fun _ => ?_) fun _ => ?_
        · exact Run.alike_pure (.stop (.ok collected separated))
        · exact Run.alike_pure (.stop (.error next errors))
    · refine Run.Alike.ite (κ.view.offset_eq_iff cursors next) (fun _ => ?_) fun _ => ?_
      · exact Run.alike_pure (.stop (.ok collected cursors))
      · exact Run.alike_pure (.stop (.error next errors))
  · exact Run.alike_pure (.error next errors)

/-! ## Up to an end -/

/-- The rounds of `manyTill`: the ends are tried first, and items where both have failed without
consuming. -/
lemma Corresponds.till (h : p.Corresponds κ V q) (h' : p'.Corresponds κ W q') {s t : Settings}
    (settings : κ.settings s t) {start start' c d : Cursor} (starts : κ.cursors start start')
    (cursors : κ.cursors c d) {items : Array α} {items' : Array β}
    (collected : List.Forall₂ V items.toList items'.toList) :
    (Run.iterate (tillRound p p' start s) s.fuel (c, items)).Alike (κ.Replies (List.Forall₂ V))
      (Run.iterate (tillRound q q' start' t) t.fuel (d, items')) := by
  refine Run.Alike.iterate (I := κ.Collected V) (κ.fuel_eq settings) ?_ ⟨cursors, collected⟩
  rintro ⟨c, items⟩ ⟨d, items'⟩ ⟨cursors, collected⟩
  refine (h' s t c d settings cursors).bind ?_
  rintro _ _ (⟨_, next⟩ | ⟨next, errors⟩)
  · exact Run.alike_pure (.stop (.ok collected next))
  · refine Run.Alike.ite (not_congr (κ.view.offset_eq_iff cursors next)) (fun _ => ?_) fun _ => ?_
    · exact Run.alike_pure (.stop (.error next errors))
    · refine (h s t c d settings cursors).bind ?_
      rintro _ _ (⟨values, next⟩ | ⟨next, errors⟩)
      · refine Run.Alike.ite (κ.view.offset_eq_iff cursors next) (fun _ => ?_) fun _ => ?_
        · exact Run.alike_pure (.stop (.error starts (κ.reports.message _)))
        · exact Run.alike_pure (.again ⟨next, forall₂_push collected values⟩)
      · exact Run.alike_pure (.stop (.error next (κ.reports.withContext errors _)))

/-- Items up to an end are related one by one. -/
lemma Corresponds.manyTill (h : p.Corresponds κ V q) (h' : p'.Corresponds κ W q') :
    (manyTill p p').Corresponds κ (List.Forall₂ V) (manyTill q q') :=
  fun _ _ _ _ settings cursors => h.till h' settings cursors cursors .nil

/-- So are those with a first item, before the end is tried. -/
lemma Corresponds.many1Till (h : p.Corresponds κ V q) (h' : p'.Corresponds κ W q') :
    (many1Till p p').Corresponds κ (List.Forall₂ V) (many1Till q q') := by
  intro s t c d settings cursors
  refine (h s t c d settings cursors).bind ?_
  rintro _ _ (⟨values, next⟩ | ⟨next, errors⟩)
  · exact h.till h' settings cursors next (.cons values .nil)
  · exact Run.alike_pure (.error next errors)

/-! ## Chains -/

section Chains

variable {p q : Parser α} {op op' : Parser ο}

/-- The same operators are applied to the same operands, while they are read. -/
lemma Corresponds.chainlFrom (apply : ο → α → α → Except Fault α) (h : p.Corresponds κ Eq q)
    (h' : op.Corresponds κ Eq op') (a : α) :
    (chainlFrom apply p op a).Corresponds κ Eq (chainlFrom apply q op' a) := by
  intro s t c d settings cursors
  refine Run.Alike.iterate (I := fun x y => κ.cursors x.1 y.1 ∧ x.2 = y.2) (κ.fuel_eq settings) ?_
    ⟨cursors, rfl⟩
  rintro ⟨c, folded⟩ ⟨d, _⟩ ⟨cursors, rfl⟩
  refine (h' s t c d settings cursors).bind ?_
  rintro _ _ (⟨rfl, operator⟩ | ⟨next, errors⟩)
  · refine (h s t _ _ settings operator).bind ?_
    rintro _ _ (⟨rfl, next⟩ | ⟨next, errors⟩)
    · refine (Run.alike_refl _).bind fun _ _ same => ?_
      exact Run.alike_pure (.again ⟨next, same⟩)
    · exact Run.alike_pure (.stop (.error next errors))
  · refine Run.Alike.ite (κ.view.offset_eq_iff cursors next) (fun _ => ?_) fun _ => ?_
    · exact Run.alike_pure (.stop (.ok rfl cursors))
    · exact Run.alike_pure (.stop (.error next errors))

/-- Chains that are folded from the left have the same value. -/
lemma Corresponds.chainl1 (apply : ο → α → α → Except Fault α) (h : p.Corresponds κ Eq q)
    (h' : op.Corresponds κ Eq op') :
    (chainl1 apply p op).Corresponds κ Eq (chainl1 apply q op') := by
  rw [chainl1_eq_bind, chainl1_eq_bind]
  refine h.bind ?_
  rintro a _ rfl
  exact h.chainlFrom apply h' a

/-- The same operators and operands are read. -/
lemma Corresponds.chainrRest (h : p.Corresponds κ Eq q) (h' : op.Corresponds κ Eq op') :
    (chainrRest p op).Corresponds κ Eq (chainrRest q op') := by
  intro s t c d settings cursors
  refine Run.Alike.iterate (I := fun x y => κ.cursors x.1 y.1 ∧ x.2 = y.2) (κ.fuel_eq settings) ?_
    ⟨cursors, rfl⟩
  rintro ⟨c, scanned⟩ ⟨d, _⟩ ⟨cursors, rfl⟩
  refine (h' s t c d settings cursors).bind ?_
  rintro _ _ (⟨rfl, operator⟩ | ⟨next, errors⟩)
  · refine (h s t _ _ settings operator).bind ?_
    rintro _ _ (⟨rfl, next⟩ | ⟨next, errors⟩)
    · exact Run.alike_pure (.again ⟨next, rfl⟩)
    · exact Run.alike_pure (.stop (.error next errors))
  · refine Run.Alike.ite (κ.view.offset_eq_iff cursors next) (fun _ => ?_) fun _ => ?_
    · exact Run.alike_pure (.stop (.ok rfl cursors))
    · exact Run.alike_pure (.stop (.error next errors))

/-- Chains that are folded from the right have the same value. -/
lemma Corresponds.chainr1 (apply : ο → α → α → Except Fault α) (h : p.Corresponds κ Eq q)
    (h' : op.Corresponds κ Eq op') :
    (chainr1 apply p op).Corresponds κ Eq (chainr1 apply q op') := by
  rw [chainr1_eq_bind, chainr1_eq_bind]
  refine h.bind ?_
  rintro a _ rfl
  exact (h.chainrRest h').transform (foldRight apply a)

end Chains

end Parser

end ParserCombinators
