import ParserCombinators.Run

/-!
# Replies and reports

A parser that ends answers with a reply: a value and the cursor after it, or an error and the
cursor at which it is reported. The cursor of an error decides whether the failure consumed
input, and with that whether an alternative is tried. A command answers with a report: what it
prints, and the code with which it ends.

## Main definitions

* `Reply` — success or failure, with a cursor.
* `Reply.consumedSince` — whether a reply's cursor has another offset than a starting cursor.
* `Reply.toExcept`, `Reply.unwrap` — the value, or the error or a fault that reports it.
* `Report` — printed text and exit code.
-/

set_option autoImplicit false

namespace ParserCombinators

/-! ## Replies -/

/-- What a parser answers. -/
inductive Reply (α : Type) where
  /-- Success: the value, and the cursor after what was consumed. -/
  | ok (value : α) (cursor : Cursor)
  /-- Failure: the cursor at which it is reported, and the error. -/
  | error (cursor : Cursor) (error : ParseError)
  deriving Inhabited

namespace Reply

variable {α β : Type}

/-- Whether a reply is a success. -/
def isOk : Reply α → Bool
  | .ok _ _ => true
  | .error _ _ => false

/-- The cursor of a reply. -/
def cursor : Reply α → Cursor
  | .ok _ c | .error c _ => c

/-- Whether the cursor of a reply has another offset than the cursor where the parser began. -/
def consumedSince (reply : Reply α) (start : Cursor) : Bool :=
  reply.cursor.offset != start.offset

/-- The same reply with its value changed. -/
def map (f : α → β) : Reply α → Reply β
  | .ok a c => .ok (f a) c
  | .error c e => .error c e

/-- The same failure reported at another cursor; a success has none to move. -/
def relocate? (reply : Reply α) (c : Cursor) : Option (Reply α) :=
  match reply with
  | .ok _ _ => none
  | .error _ e => some (.error c e)

/-- The value of a success, the error of a failure. -/
def toExcept : Reply α → Except ParseError α
  | .ok a _ => .ok a
  | .error _ e => .error e

/-- The value of a success; for a failure the fault that reports its error and place. -/
def unwrap : Reply α → Except Fault α
  | .ok a _ => .ok a
  | .error c e => .error (.unparsed (some c.place.text) e)

end Reply

/-! ## Reports -/

/-- What a command prints, and the code with which it ends. -/
structure Report where
  /-- The printed text. -/
  output : String
  /-- The exit code; zero for success. -/
  exitCode : Nat
  deriving DecidableEq, Repr

namespace Report

/-- Some lines, printed by a command that succeeds. -/
def ofLines (lines : List String) : Report :=
  ⟨String.join (lines.map (· ++ "\n")), 0⟩

/-- A line that says why nothing could be read, printed by a command that fails. -/
def failure (reason : String) : Report :=
  ⟨"Parsing Failed: " ++ reason ++ "\n", 1⟩

/-- The report of a command that broke off. -/
def aborted : Report :=
  ⟨"", 1⟩

end Report

end ParserCombinators
