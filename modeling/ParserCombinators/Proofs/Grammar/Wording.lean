import ParserCombinators.Grammar.Character
import ParserCombinators.Proofs.Grammar.Correspondence

/-!
# Wording is never looked at

The wording of a grammar is all that only diagnostics show: the messages of annotations, what a
token is said to be expected, the errors with which the grammar itself fails, and the labels of
traces. No parser looks at the error of another one, only at where it is reported. So grammars that
differ only in their wording run alike, and an annotation does as little as a change of the value
that changes nothing.

## Main definitions

* `Grammar.silent`, `Naming.silent` — a grammar without its wording, and names for such grammars.
* `Grammar.Rephrases`, `Naming.Rephrases` — a difference in the wording only.

## Main results

* `Grammar.corresponds_silent` — a grammar runs like the one without its wording.
* `Grammar.alike_of_rephrases` — grammars that differ only in their wording run alike.
-/

set_option autoImplicit false

namespace ParserCombinators

/-! ## Grammars without their wording -/

namespace Grammar

/-- A single grammar without its own wording. Of an annotation only the parser stays, with its value
changed into itself. -/
def silence : Grammar → Grammar
  | fail _ => fail (.ofMessage "")
  | token test _ => token test (.str "")
  | withContext p _ | withMessage p _ => transform p .ok
  | trace _ => trace ""
  | traced _ p => traced "" p
  | g => g

/-- A grammar without any wording, neither its own nor that of what it is put together from. -/
def silent (g : Grammar) : Grammar :=
  g.rewrite silence

/-- The two grammars differ only in their wording. An annotation on one side may be another one on
the other side, or a change of the value into itself. -/
def Rephrases (g g' : Grammar) : Prop :=
  g.silent = g'.silent

end Grammar

/-- The names stand for grammars without their wording. -/
def Naming.silent (naming : Naming) : Naming :=
  naming.rewrite Grammar.silence

/-- The same names stand for grammars, and these differ only in their wording. -/
def Naming.Rephrases (naming naming' : Naming) : Prop :=
  naming.silent = naming'.silent

/-! ## Runs that differ only in their errors -/

/-- Whatever is reported, it is not compared. -/
lemma sameReports_any : SameReports Eq fun _ _ => True where
  message _ := trivial
  atom _ _ := trivial
  literal _ _ _ _ _ := trivial
  withContext _ _ := trivial

/-- Equal cursors belong together, and so do any two errors. -/
def Correspondence.wording : Correspondence :=
  .ofView sameView_eq sameReports_any

/-- The replies are of one kind, with equal values, and at the same cursor. -/
def Reply.SameButError {α : Type} (r r' : Reply α) : Prop :=
  r.toExcept.toOption = r'.toExcept.toOption ∧ r.cursor = r'.cursor

/-- Replies belong together exactly if they differ at most in their errors. -/
lemma Correspondence.replies_wording_iff {α : Type} {r r' : Reply α} :
    Correspondence.wording.Replies Eq r r' ↔ r.SameButError r' := by
  constructor
  · rintro (⟨rfl, rfl⟩ | ⟨rfl, -⟩) <;> exact ⟨rfl, rfl⟩
  · rintro ⟨values, cursors⟩
    cases r <;> cases r' <;> simp only [Reply.toExcept, Except.toOption, Option.some.injEq,
      reduceCtorEq, Reply.cursor] at values cursors
    · exact .ok values cursors
    · exact .error cursors trivial

namespace Parser

variable {α : Type} {p q r : Parser α}

/-- A parser corresponds to itself. -/
lemma corresponds_wording_refl (p : Parser α) : p.Corresponds .wording Eq p := by
  rintro s _ c _ rfl rfl
  refine (Run.alike_refl (p.run s c)).mono ?_
  rintro reply _ rfl
  exact Correspondence.replies_wording_iff.2 ⟨rfl, rfl⟩

/-- What corresponds to a parser corresponds to all that the parser corresponds to. -/
lemma Corresponds.trans_wording (h : p.Corresponds .wording Eq q)
    (h' : q.Corresponds .wording Eq r) : p.Corresponds .wording Eq r := by
  rintro s _ c _ rfl rfl
  refine ((h s s c c rfl rfl).trans (h' s s c c rfl rfl)).mono ?_
  rintro _ _ ⟨_, replies, replies'⟩
  rw [Correspondence.replies_wording_iff] at replies replies' ⊢
  exact ⟨replies.1.trans replies'.1, replies.2.trans replies'.2⟩

/-! ## Single grammars -/

/-- What a token is said to be expected does not decide whether it is accepted. -/
lemma corresponds_token_expected (test : Value → Except Fault Bool) (expected expected' : Value) :
    (token test expected).Corresponds .wording Eq (token test expected') := by
  rintro s _ c _ rfl rfl
  refine (Run.alike_refl (look c)).bind fun _ _ _ => ?_
  cases c.head? with
  | none => exact Run.alike_pure (.error rfl trivial)
  | some symbol =>
    refine (Run.alike_refl (Run.ofExcept (test symbol))).bind ?_
    rintro passed _ rfl
    cases passed with
    | true => exact Run.alike_pure (.ok rfl rfl)
    | false => exact Run.alike_pure (.error rfl trivial)

/-- What a failure says changes nothing but the error. -/
lemma corresponds_mapError (p : Parser α) (f : ParseError → ParseError) :
    (p.mapReply fun _ => Reply.mapError f).Corresponds .wording Eq (p.transform .ok) := by
  rintro s _ c _ rfl rfl
  have kept : p.transform .ok = p := (transform_ok p _).trans (map_self p)
  rw [kept]
  refine alike_mapReply_self p s fun reply => ?_
  cases reply with
  | ok a d => exact .ok rfl rfl
  | error d e => exact .error rfl trivial

/-- One more outermost message changes nothing but the error. -/
lemma corresponds_withContext (p : Parser α) (text : String) :
    (p.withContext text).Corresponds .wording Eq (p.transform .ok) := by
  rw [withContext_eq_mapReply]
  exact corresponds_mapError p _

/-- Nor does a message in the stead of all others. -/
lemma corresponds_withMessage (p : Parser α) (text : String) :
    (p.withMessage text).Corresponds .wording Eq (p.transform .ok) := by
  rw [withMessage_eq_mapReply]
  exact corresponds_mapError p _

/-- The label of a trace is only logged. -/
lemma corresponds_trace_label (label label' : String) :
    (trace label).Corresponds .wording Eq (trace label') := by
  rintro s _ c _ rfl rfl
  rw [Run.Alike, ending_trace, ending_trace]
  split
  · exact .raised _
  · exact .done (.ok rfl rfl)

/-- The label of a traced parser is only logged and reported. -/
lemma corresponds_traced_label (p : Parser α) (label label' : String) :
    (traced label p).Corresponds .wording Eq (traced label' p) := by
  have failures : (traceFailure label : Parser α).Corresponds .wording Eq
      (traceFailure label') := by
    rintro s _ c _ rfl rfl
    rw [Run.Alike, ending_traceFailure, ending_traceFailure]
    exact .done (.error rfl trivial)
  exact (corresponds_trace_label label label').andThen
    ((corresponds_wording_refl p).attempt.orElse failures)

end Parser

/-! ## Whole grammars -/

namespace Grammar

/-- A single grammar runs like the one without its own wording. -/
lemma corresponds_silence (deref : String → Parser Value) (q : Grammar) :
    (q.toParser deref).Corresponds .wording Eq (q.silence.toParser deref) := by
  cases q with
  | fail e => exact Parser.corresponds_fail (κ := .wording) trivial
  | token test expected => exact Parser.corresponds_token_expected test expected _
  | withContext p text => exact Parser.corresponds_withContext _ text
  | withMessage p text => exact Parser.corresponds_withMessage _ text
  | trace label => exact (Parser.corresponds_trace_label label "").map fun _ _ _ => rfl
  | traced label p => exact Parser.corresponds_traced_label _ label ""
  | _ => exact Parser.corresponds_wording_refl _

/-- To silence single grammars keeps what corresponds to them. -/
lemma keeps_silence : Correspondence.wording.Keeps silence where
  isJoined_eq q := by cases q <;> rfl
  corresponds h := h.trans_wording (corresponds_silence _ _)

/-- **A grammar runs like the one without its wording**, whatever its names stand for. -/
lemma corresponds_silent (naming : Naming) (g : Grammar) :
    (g.parserUnder naming).Corresponds .wording Eq (g.silent.parserUnder naming.silent) :=
  corresponds_rewrite_parserUnder keeps_silence
    (Correspondence.everywhere_admits (κ := .wording) fun _ => trivial)

/-- **Wording is never looked at.** If two grammars differ only in their wording, and so do the
grammars that their names stand for, then they run alike from every cursor: with the same fault, or
with the same value or both with a failure, at the same cursor. Only the errors and what is logged
may differ.

**Proof sketch.** Each of the two runs is compared to that of the grammar without its wording
(`Grammar.corresponds_silent`), which is the same one for both. -/
theorem alike_of_rephrases (naming naming' : Naming) (g g' : Grammar)
    (names : naming.Rephrases naming') (grammars : g.Rephrases g') (s : Settings) (c : Cursor) :
    ((g.parserUnder naming).run s c).ending.Alike Reply.SameButError
      ((g'.parserUnder naming').run s c).ending := by
  have first := g.corresponds_silent naming s s c c rfl rfl
  have second := g'.corresponds_silent naming' s s c c rfl rfl
  rw [Naming.Rephrases] at names
  rw [Rephrases] at grammars
  rw [← names, ← grammars] at second
  refine (first.trans second.symm).mono ?_
  rintro _ _ ⟨_, replies, replies'⟩
  rw [Correspondence.replies_wording_iff] at replies replies'
  exact ⟨replies.1.trans replies'.1.symm, replies.2.trans replies'.2.symm⟩

/-- A traced letter and then another one, once with messages of its own and once without: both runs
stop at the second letter, which is missing, and say different things of it. -/
theorem alike_of_rephrases_letters :
    let naming : Naming := fun _ => some ((char 'b').withMessage "no second letter")
    let naming' : Naming := fun _ => some ((char 'b').transform .ok)
    let g : Grammar := (traced "letters" ((char 'a').withContext "first")).andThen
      ((reference "second").withContext "letters")
    let g' : Grammar := (traced "" ((char 'a').withMessage "no letter")).andThen
      ((reference "second").transform .ok)
    let c : Cursor := .lined (.ofValue (.str "ac")) "source"
    let d : Cursor := ⟨c.input, 1, some ⟨1, 2, "source"⟩⟩
    let run := (g.parserUnder naming).run ⟨2, true⟩ c
    let run' := (g'.parserUnder naming').run ⟨2, true⟩ c
    naming.Rephrases naming' ∧ g.Rephrases g' ∧ run.ending.Alike Reply.SameButError run'.ending ∧
      run.ending =
        .done (.error d ⟨.message "no second letter", [.message "letters"]⟩) ∧
      run'.ending = .done (.error d (.ofAtom (.str "b") (.str "c"))) := by
  intro naming naming' g g' c d run run'
  have names : naming.Rephrases naming' := rfl
  have grammars : g.Rephrases g' := rfl
  exact ⟨names, grammars, alike_of_rephrases naming naming' g g' names grammars _ c, rfl, rfl⟩

end Grammar

end ParserCombinators
