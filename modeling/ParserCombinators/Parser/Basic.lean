import ParserCombinators.Reply

/-!
# Parsers

A parser takes a cursor and runs to a reply. The settings of a run say whether events are logged
and how much fuel there is for every loop and for the depth of references; a parser that comes to
an end does so alike with more fuel.

A failure that left the cursor where the parser began has not consumed input, and only such a
failure lets an alternative be tried. `attempt` turns every failure into one.

A parser that refers to itself is the limit of its approximations: the parser with no fuel, the
parser whose references are that one, and so on. The settings say which approximation is run. A
run that ends has reached only finitely many references, one within the other, so all
approximations from some depth on give its reply.

## Main definitions

* `Settings`, `Parser` — parsers as functions of the settings and a cursor.
* `Parser.succeed`, `Parser.fail`, `Parser.raise` — the parsers that read nothing.
* `Parser.andThen`, `Parser.followedBy`, `Parser.pairWith`, `Parser.bind`, `Parser.between` — one
  parser after another.
* `Parser.transform`, `Parser.map`, `Parser.satisfying` — the value changed or tested.
* `Parser.orElse`, `Parser.choice`, `Parser.attempt`, `Parser.lookAhead`,
  `Parser.notFollowedBy` — alternatives and looking ahead.
* `Parser.withContext`, `Parser.withMessage` — what a failure says.
* `Parser.approximation`, `Parser.fix` — a recursive parser, to a given depth of references and as
  such.
* `Settings.sufficient` — settings with fuel for every run that comes to an end.
-/

set_option autoImplicit false

namespace ParserCombinators

/-- How a parser is run. -/
structure Settings where
  /-- The rounds that every loop may take, and the depth to which references may be nested. -/
  fuel : Nat
  /-- Whether traced parsers log events. -/
  tracing : Bool

/-- A parser: for every cursor a run that ends with a reply. -/
@[ext]
structure Parser (α : Type) where
  /-- The run of the parser from a cursor. -/
  run : Settings → Cursor → Run (Reply α)

namespace Parser

variable {α β γ : Type}

/-! ## Parsers that read nothing -/

/-- Succeeds with a value and consumes nothing. -/
def succeed (a : α) : Parser α where
  run _ c := pure (.ok a c)

/-- Fails with an error and consumes nothing. -/
def fail (e : ParseError) : Parser α where
  run _ c := pure (.error c e)

/-- Ends every run with a fault. -/
def raise (fault : Fault) : Parser α where
  run _ _ := Run.raise fault

/-- The parser that a callback returned, or one that raises its fault. -/
def ofExcept : Except Fault (Parser α) → Parser α
  | .ok p => p
  | .error fault => raise fault

/-! ## One after another -/

/-- One parser and then another, with the value of the second. -/
def andThen (p : Parser α) (q : Parser β) : Parser β where
  run s c := do
    match ← p.run s c with
    | .ok _ c => q.run s c
    | .error c e => pure (.error c e)

/-- One parser and then another, with the value of the first. -/
def followedBy (p : Parser α) (q : Parser β) : Parser α where
  run s c := do
    match ← p.run s c with
    | .ok a c =>
      match ← q.run s c with
      | .ok _ c => pure (.ok a c)
      | .error c e => pure (.error c e)
    | .error c e => pure (.error c e)

/-- One parser and then another, with the pair of their values. -/
def pairWith (p : Parser α) (q : Parser β) : Parser (α × β) where
  run s c := do
    match ← p.run s c with
    | .ok a c =>
      match ← q.run s c with
      | .ok b c => pure (.ok (a, b) c)
      | .error c e => pure (.error c e)
    | .error c e => pure (.error c e)

/-- One parser and then the parser that depends on its value. -/
def bind (p : Parser α) (f : α → Parser β) : Parser β where
  run s c := do
    match ← p.run s c with
    | .ok a c => (f a).run s c
    | .error c e => pure (.error c e)

/-- A parser between two others, with its own value. -/
def between (p : Parser α) (opening : Parser β) (closing : Parser γ) : Parser α :=
  (opening.andThen p).followedBy closing

/-- A parser without its value. -/
def ignore (p : Parser α) : Parser Unit :=
  p.andThen (succeed ())

/-! ## Values -/

/-- The error of a value that does not pass a test. -/
def rejected : ParseError :=
  .ofMessage "failed satisfy"

/-- Keeps a value only if it passes a test. A value that does not pass fails where the parser
stopped, so the failure counts as consuming if the parser consumed anything. -/
def satisfying (p : Parser α) (test : α → Except Fault Bool) : Parser α where
  run s c := do
    match ← p.run s c with
    | .ok a c =>
      if ← Run.ofExcept (test a) then pure (.ok a c) else pure (.error c rejected)
    | .error c e => pure (.error c e)

/-- A parser with its value changed by a callback, which may raise a fault. -/
def transform (p : Parser α) (f : α → Except Fault β) : Parser β where
  run s c := do
    match ← p.run s c with
    | .ok a c => return .ok (← Run.ofExcept (f a)) c
    | .error c e => pure (.error c e)

/-- A parser with its value changed. -/
def map (f : α → β) (p : Parser α) : Parser β where
  run s c := do
    match ← p.run s c with
    | .ok a c => pure (.ok (f a) c)
    | .error c e => pure (.error c e)

/-! ## Alternatives and looking ahead -/

/-- Another parser is tried from the same cursor if the first fails without consuming. -/
def orElse (p q : Parser α) : Parser α where
  run s c := do
    let reply ← p.run s c
    if reply.isOk || reply.consumedSince c then pure reply else q.run s c

/-- The error of a choice between no parsers. -/
def noChoice : ParseError :=
  .ofMessage "empty choice"

/-- The parsers of a list in order, each tried if all before it fail without consuming. -/
def choice : List (Parser α) → Parser α
  | [] => fail noChoice
  | p :: ps => ps.foldl orElse p

/-- Tries a parser; a value is given in its stead if it fails without consuming. -/
def option (a : α) (p : Parser α) : Parser α :=
  p.orElse (succeed a)

/-- On failure goes back to the cursor where it began. -/
def attempt (p : Parser α) : Parser α where
  run s c := do
    match ← p.run s c with
    | .ok a c => pure (.ok a c)
    | .error _ e => pure (.error c e)

/-- Goes back to the cursor where it began, on success and on failure. -/
def lookAhead (p : Parser α) : Parser α where
  run s c := do
    match ← p.run s c with
    | .ok a _ => pure (.ok a c)
    | .error _ e => pure (.error c e)

/-- The error of a parser that succeeds where it must not. -/
def unexpected (showing : α → String) (a : α) : ParseError :=
  .ofMessage ("not_followed_by: unexpected " ++ showing a)

/-- Succeeds where another parser fails, and fails with a message about its value where it
succeeds; consumes nothing. -/
def notFollowedBy (showing : α → String) (p : Parser α) : Parser Unit where
  run s c := do
    match ← p.run s c with
    | .ok a _ => pure (.error c (unexpected showing a))
    | .error _ _ => pure (.ok () c)

/-! ## What a failure says -/

/-- On failure adds a message as the outermost frame. -/
def withContext (p : Parser α) (text : String) : Parser α where
  run s c := do
    match ← p.run s c with
    | .ok a c => pure (.ok a c)
    | .error c e => pure (.error c (e.withContext (.message text)))

/-- On failure says nothing but a message. -/
def withMessage (p : Parser α) (text : String) : Parser α where
  run s c := do
    match ← p.run s c with
    | .ok a c => pure (.ok a c)
    | .error c _ => pure (.error c (.ofMessage text))

/-! ## Recursion -/

/-- A recursive parser whose references are nested at most `depth` deep. Every reference builds
the next approximation only when it is run. -/
def approximation (f : Parser α → Parser α) : Nat → Parser α
  | 0 => ⟨fun _ _ => Run.outOfFuel⟩
  | depth + 1 => ⟨fun s c => (f (approximation f depth)).run s c⟩

/-- The parser that is given to `f` wherever `f` refers to itself. -/
def fix (f : Parser α → Parser α) : Parser α where
  run s c := (approximation f s.fuel).run s c

end Parser

/-! ## Fuel -/

/-- Settings with fuel for every run from a cursor that comes to an end. A loop takes at most one
round more than symbols are left, for a round that does not move the cursor ends it or is repeated
for ever. References are nested no deeper than there are names and offsets, for a name that is
reached from itself at the same offset is reached for ever. -/
def Settings.sufficient (names : Nat) (c : Cursor) (tracing : Bool) : Settings :=
  ⟨(names + 1) * (c.remaining + 2), tracing⟩

end ParserCombinators
