import ParserCombinators.Parser.Basic
import ParserCombinators.Proofs.Postcondition
import ParserCombinators.Proofs.TwoRuns

/-!
# Changes of a reply

To try a parser, to look ahead with it, to ask that it does not follow, and to say something else of
its failures are all changes of its reply, in view of the cursor where it began. What is run is the
parser itself, once. So what is shown of a parser with any change of its reply holds of all of them.

## Main definitions

* `Reply.retract`, `Reply.rewind`, `Reply.negate`, `Reply.mapError` — the changes that the
  combinators make.
* `Parser.mapReply` — a parser with its reply changed.

## Main results

* `Parser.mapReply_self`, `Parser.mapReply_mapReply` — a reply that is changed twice, or not at all.
* `Parser.attempt_eq_mapReply`, `Parser.lookAhead_eq_mapReply`,
  `Parser.notFollowedBy_eq_mapReply`, `Parser.withContext_eq_mapReply`,
  `Parser.withMessage_eq_mapReply` — the combinators.
* `Parser.ending_mapReply_eq_done_iff`, `Parser.meets_mapReply`, `Parser.alike_mapReply` — how a
  run with a changed reply ends, and how two of them do.
-/

set_option autoImplicit false

namespace ParserCombinators

variable {α β γ δ : Type}

/-! ## Changes -/

namespace Reply

/-- A failure is reported at `c`, a success is left as it is. -/
def retract (c : Cursor) : Reply α → Reply α
  | .ok a d => .ok a d
  | .error _ e => .error c e

/-- The reply is given at `c`, be it a success or a failure. -/
def rewind (c : Cursor) : Reply α → Reply α
  | .ok a _ => .ok a c
  | .error _ e => .error c e

/-- At `c`, success for a failure and a failure that tells of the value for a success. -/
def negate (showing : α → String) (c : Cursor) : Reply α → Reply Unit
  | .ok a _ => .error c (Parser.unexpected showing a)
  | .error _ _ => .ok () c

/-- What a failure says is changed, a success is left as it is. -/
def mapError (f : ParseError → ParseError) : Reply α → Reply α
  | .ok a d => .ok a d
  | .error d e => .error d (f e)

/-! ### Cursor and kind -/

/-- A rewound reply is where it was rewound to. -/
@[simp]
lemma cursor_rewind (c : Cursor) (reply : Reply α) : (reply.rewind c).cursor = c := by
  cases reply <;> rfl

/-- A rewound reply has the same value or error. -/
@[simp]
lemma toExcept_rewind (c : Cursor) (reply : Reply α) :
    (reply.rewind c).toExcept = reply.toExcept := by
  cases reply <;> rfl

/-- A rewound reply is of the same kind. -/
@[simp]
lemma isOk_rewind (c : Cursor) (reply : Reply α) : (reply.rewind c).isOk = reply.isOk := by
  cases reply <;> rfl

/-- The opposite of a reply is at the cursor that is given for it. -/
@[simp]
lemma cursor_negate (showing : α → String) (c : Cursor) (reply : Reply α) :
    (reply.negate showing c).cursor = c := by
  cases reply <;> rfl

/-- The opposite of a reply is of the other kind. -/
@[simp]
lemma isOk_negate (showing : α → String) (c : Cursor) (reply : Reply α) :
    (reply.negate showing c).isOk = !reply.isOk := by
  cases reply <;> rfl

/-- What a failure says does not move it. -/
@[simp]
lemma cursor_mapError (f : ParseError → ParseError) (reply : Reply α) :
    (reply.mapError f).cursor = reply.cursor := by
  cases reply <;> rfl

/-- A changed value does not move the reply. -/
@[simp]
lemma cursor_map (f : α → β) (reply : Reply α) : (reply.map f).cursor = reply.cursor := by
  cases reply <;> rfl

/-- A reply with its value changed is of the same kind. -/
@[simp]
lemma isOk_map (f : α → β) (reply : Reply α) : (reply.map f).isOk = reply.isOk := by
  cases reply <;> rfl

/-! ### Successes and failures -/

/-- A reply is a success after its failure was taken back exactly if it was one before. -/
lemma retract_eq_ok_iff {c d : Cursor} {reply : Reply α} {a : α} :
    reply.retract c = .ok a d ↔ reply = .ok a d := by
  cases reply <;> simp [retract]

/-- A failure that was taken back is one from elsewhere, at the cursor that it was taken back to. -/
lemma retract_eq_error_iff {c d : Cursor} {reply : Reply α} {e : ParseError} :
    reply.retract c = .error d e ↔ d = c ∧ ∃ m, reply = .error m e := by
  cases reply <;> simp [retract, eq_comm]

/-- The opposite of a reply is a success exactly if the reply is a failure. -/
lemma negate_eq_ok_iff {showing : α → String} {c d : Cursor} {reply : Reply α} :
    reply.negate showing c = .ok () d ↔ d = c ∧ ∃ m e, reply = .error m e := by
  cases reply <;> simp [negate, eq_comm]

/-- A reply is a success with its error changed exactly if it was one before. -/
lemma mapError_eq_ok_iff {f : ParseError → ParseError} {d : Cursor} {reply : Reply α} {a : α} :
    reply.mapError f = .ok a d ↔ reply = .ok a d := by
  cases reply <;> simp [mapError]

/-! ### One change after another -/

/-- A failure that was taken back is there already. -/
@[simp]
lemma retract_retract (c : Cursor) (reply : Reply α) :
    (reply.retract c).retract c = reply.retract c := by
  cases reply <;> rfl

/-- Of two cursors that a reply is rewound to, the last one counts. -/
@[simp]
lemma rewind_rewind (c d : Cursor) (reply : Reply α) :
    (reply.rewind d).rewind c = reply.rewind c := by
  cases reply <;> rfl

/-- It makes no difference to a rewound reply whether a failure was taken back before. -/
@[simp]
lemma rewind_retract (c d : Cursor) (reply : Reply α) :
    (reply.retract d).rewind c = reply.rewind c := by
  cases reply <;> rfl

/-- A failure of a rewound reply is there already. -/
@[simp]
lemma retract_rewind (c : Cursor) (reply : Reply α) :
    (reply.rewind c).retract c = reply.rewind c := by
  cases reply <;> rfl

end Reply

/-! ## Parsers with changed replies -/

namespace Parser

/-- A parser with its reply changed, in view of the cursor where it began. -/
def mapReply (p : Parser α) (f : Cursor → Reply α → Reply β) : Parser β where
  run s c := do return f c (← p.run s c)

variable {p : Parser α} {q : Parser β} {s t : Settings} {c d : Cursor}

/-- A reply that is not changed. -/
lemma mapReply_self (p : Parser α) : p.mapReply (fun _ reply => reply) = p :=
  Parser.ext (funext fun s => funext fun c => Run.bind_pure' (p.run s c))

/-- A reply that is changed twice, in view of the same cursor. -/
lemma mapReply_mapReply (p : Parser α) (f : Cursor → Reply α → Reply β)
    (g : Cursor → Reply β → Reply γ) :
    (p.mapReply f).mapReply g = p.mapReply fun c reply => g c (f c reply) := by
  refine Parser.ext (funext fun s => funext fun c => (Run.bind_assoc' _ _ _).trans ?_)
  exact bind_congr fun reply => Run.pure_bind' _ _

/-! ### The combinators -/

/-- To try a parser is to take its failures back. -/
lemma attempt_eq_mapReply (p : Parser α) : p.attempt = p.mapReply Reply.retract := by
  refine Parser.ext (funext fun s => funext fun c => bind_congr ?_)
  rintro (⟨a, d⟩ | ⟨d, e⟩) <;> rfl

/-- To look ahead is to go back after any reply. -/
lemma lookAhead_eq_mapReply (p : Parser α) : p.lookAhead = p.mapReply Reply.rewind := by
  refine Parser.ext (funext fun s => funext fun c => bind_congr ?_)
  rintro (⟨a, d⟩ | ⟨d, e⟩) <;> rfl

/-- To ask that a parser does not follow is to make the opposite of its reply. -/
lemma notFollowedBy_eq_mapReply (showing : α → String) (p : Parser α) :
    notFollowedBy showing p = p.mapReply (Reply.negate showing) := by
  refine Parser.ext (funext fun s => funext fun c => bind_congr ?_)
  rintro (⟨a, d⟩ | ⟨d, e⟩) <;> rfl

/-- To drop the value is to change it into none. -/
lemma ignore_eq_mapReply (p : Parser α) :
    p.ignore = p.mapReply fun _ reply => reply.map fun _ => () := by
  refine Parser.ext (funext fun s => funext fun c => bind_congr ?_)
  rintro (⟨a, d⟩ | ⟨d, e⟩) <;> rfl

/-- A message more is a change of what a failure says. -/
lemma withContext_eq_mapReply (p : Parser α) (text : String) :
    p.withContext text = p.mapReply fun _ => Reply.mapError (·.withContext (.message text)) := by
  refine Parser.ext (funext fun s => funext fun c => bind_congr ?_)
  rintro (⟨a, d⟩ | ⟨d, e⟩) <;> rfl

/-- A message in the stead of all others is a change of what a failure says. -/
lemma withMessage_eq_mapReply (p : Parser α) (text : String) :
    p.withMessage text = p.mapReply fun _ => Reply.mapError fun _ => .ofMessage text := by
  refine Parser.ext (funext fun s => funext fun c => bind_congr ?_)
  rintro (⟨a, d⟩ | ⟨d, e⟩) <;> rfl

/-! ### How runs with a changed reply end -/

/-- A run ends with a reply that is the change of the reply of the parser. -/
lemma ending_mapReply_eq_done_iff {f : Cursor → Reply α → Reply β} {r : Reply β} :
    ((p.mapReply f).run s c).ending = .done r ↔
      ∃ reply, (p.run s c).ending = .done reply ∧ f c reply = r := by
  refine (Run.ending_bind_eq_done_iff _ _ _).trans (exists_congr fun reply => and_congr_right' ?_)
  constructor
  · rintro ⟨⟩
    rfl
  · rintro rfl
    rfl

/-- The changed reply meets a postcondition if the reply meets it after the change. -/
lemma meets_mapReply {f : Cursor → Reply α → Reply β} {P : Reply β → Prop} {F : Fault → Prop}
    {E : Prop} :
    ((p.mapReply f).run s c).Meets P F E ↔
      (p.run s c).Meets (fun reply => P (f c reply)) F E :=
  Run.meets_bind _ _

/-- Runs that end alike do so with changed replies, if the changes make related replies of related
ones. -/
lemma alike_mapReply {f : Cursor → Reply α → Reply γ} {g : Cursor → Reply β → Reply δ}
    {R : Reply α → Reply β → Prop} {S : Reply γ → Reply δ → Prop}
    (h : (p.run s c).Alike R (q.run t d)) (related : ∀ r r', R r r' → S (f c r) (g d r')) :
    ((p.mapReply f).run s c).Alike S ((q.mapReply g).run t d) :=
  h.bind fun r r' replies => Run.alike_pure (related r r' replies)

/-- A changed reply is that of the parser itself if the change relates the two. -/
lemma alike_mapReply_self {f : Cursor → Reply α → Reply β} {R : Reply β → Reply α → Prop}
    (p : Parser α) (s : Settings) (related : ∀ reply, R (f c reply) reply) :
    ((p.mapReply f).run s c).Alike R (p.run s c) := by
  have changed : ((p.mapReply f).run s c).Alike R ((p.mapReply fun _ reply => reply).run s c) := by
    refine alike_mapReply (Run.alike_refl _) ?_
    rintro reply _ rfl
    exact related reply
  rwa [mapReply_self] at changed

end Parser

end ParserCombinators
