import ParserCombinators.Grammar.Meaning

/-!
# Sessions

A session keeps the cursors and replies that its steps have given, so that a later step can go on
from any of them. A step that meets a fault gives nothing to keep.

## Main definitions

* `Session` — the cursors and replies so far.
* `Step`, `Answer` — what can be asked of a session, and what it answers.
* `Session.answer`, `Session.keep` — the answer to a step, and the session after it.
* `Grammar.parseAt` — one run of a grammar from a cursor.
-/

set_option autoImplicit false

namespace ParserCombinators

/-- The run of a grammar from a cursor, with fuel enough for it. -/
def Grammar.parseAt (g : Grammar) (definitions : Definitions) (tracing : Bool) (c : Cursor) :
    Run (Reply Value) :=
  (g.parser definitions).run (.sufficient definitions.length c tracing) c

/-- What can be asked of a session; numbers are those of cursors and replies so far. -/
inductive Step where
  /-- The reply of a grammar at a cursor. -/
  | parse (c : Nat) (g : Grammar)
  /-- The value or error of a grammar at a cursor. -/
  | run (c : Nat) (g : Grammar)
  /-- A success with a value at a cursor. -/
  | ok (c : Nat) (v : Value)
  /-- A failure with the given frames at a cursor. -/
  | error (c : Nat) (frames : List Frame)
  /-- The failure of a reply, reported at a cursor. -/
  | relocate (r : Nat) (c : Nat)
  /-- The cursor some symbols after a cursor. -/
  | advance (c : Nat) (n : Int)
  /-- The next symbol. -/
  | head (c : Nat)
  /-- Whether no symbol is left. -/
  | isEmpty (c : Nat)
  /-- The next symbols. -/
  | peek (c : Nat) (n : Int)
  /-- What is left of the input. -/
  | rest (c : Nat)
  /-- The part of the input from one cursor, named second, to another. -/
  | slice (c : Nat) (since : Nat)
  /-- Whether two cursors have the same offset. -/
  | sameOffset (c d : Nat)
  /-- Whether two cursors are equal. -/
  | same (c d : Nat)
  /-- Whether a reply consumed input since a cursor. -/
  | consumed (r : Nat) (c : Nat)
  /-- The value of a reply. -/
  | unwrap (r : Nat)
  /-- Where a cursor is. -/
  | place (c : Nat)
  /-- A cursor in words. -/
  | written (c : Nat)

/-- What a session answers. -/
inductive Answer where
  /-- A reply, which is kept together with its cursor. -/
  | reply (reply : Reply Value)
  /-- A value, or the error in its stead. -/
  | result (result : Except ParseError Value)
  /-- A cursor, which is kept. -/
  | cursor (cursor : Cursor)
  /-- A value. -/
  | value (v : Value)
  /-- A place. -/
  | place (place : Place)

/-- The cursors and replies that the steps so far have given. -/
structure Session where
  /-- The cursors, the first being the one that the session began with. -/
  cursors : Array Cursor
  /-- The replies. -/
  replies : Array (Reply Value)

namespace Session

/-- The session that begins with a cursor. -/
def start (c : Cursor) : Session :=
  ⟨#[c], #[]⟩

/-- The cursor of a number. -/
def cursor (σ : Session) (i : Nat) : Run Cursor :=
  match σ.cursors[i]? with
  | some c => pure c
  | none => Run.raise .outOfRange

/-- The reply of a number. -/
def reply (σ : Session) (i : Nat) : Run (Reply Value) :=
  match σ.replies[i]? with
  | some r => pure r
  | none => Run.raise .outOfRange

/-- A part of the input of a cursor as a value; an input that is no sequence is a fault. -/
def view (c : Cursor) (f : Cursor → Value) : Run Answer := do
  Parser.look c
  return .value (f c)

/-- The answer to a step. -/
def answer (σ : Session) (definitions : Definitions) (tracing : Bool) : Step → Run Answer
  | .parse c g => do return .reply (← g.parseAt definitions tracing (← σ.cursor c))
  | .run c g => do return .result (← g.parseAt definitions tracing (← σ.cursor c)).toExcept
  | .ok c v => do return .reply (.ok v (← σ.cursor c))
  | .error c frames => do
    let c ← σ.cursor c
    match ParseError.ofFrames? frames with
    | some e => return .reply (.error c e)
    | none => Run.raise .noFrames
  | .relocate r c => do
    match (← σ.reply r).relocate? (← σ.cursor c) with
    | some r => return .reply r
    | none => Run.raise .noSuchOperation
  | .advance c n => do
    let c ← σ.cursor c
    if 0 < n then Parser.look c
    return .cursor (c.advance n.toNat)
  | .head c => do view (← σ.cursor c) fun c => c.head?.getD .none
  | .isEmpty c => do view (← σ.cursor c) fun c => .bool c.isEmpty
  | .peek c n => do view (← σ.cursor c) fun c => (c.peek n).toValue
  | .rest c => do view (← σ.cursor c) fun c => c.rest.toValue
  | .slice c since => do
    let earlier ← σ.cursor since
    view (← σ.cursor c) fun c => (c.sliceFrom earlier.offset).toValue
  | .sameOffset c d => do return .value (.bool ((← σ.cursor c).offset == (← σ.cursor d).offset))
  | .same c d => do
    let c ← σ.cursor c
    let d ← σ.cursor d
    return .value (.bool (c.offset == d.offset && c.position == d.position))
  | .consumed r c => do return .value (.bool ((← σ.reply r).consumedSince (← σ.cursor c)))
  | .unwrap r => do return .value (← Run.ofExcept (← σ.reply r).unwrap)
  | .place c => do return .place (← σ.cursor c).place
  | .written c => do view (← σ.cursor c) fun c => .str c.written

/-- The session after an answer. -/
def keep (σ : Session) : Answer → Session
  | .reply r => ⟨σ.cursors.push r.cursor, σ.replies.push r⟩
  | .cursor c => ⟨σ.cursors.push c, σ.replies⟩
  | .result _ | .value _ | .place _ => σ

end Session

end ParserCombinators
