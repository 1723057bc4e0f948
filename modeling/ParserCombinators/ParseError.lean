import ParserCombinators.Value.Printer

/-!
# Parse errors

A failed parse is explained by a chain of frames. The first frame is the deepest cause, found
where the input broke down; the frames after it are the context that enclosing parsers added, in
the order from the innermost to the outermost.

## Main definitions

* `Frame` — one symbol instead of another, one run of symbols instead of another, or a message.
* `ParseError` — a chain of frames, never empty.
* `ParseError.withContext` — the error with one more outermost frame.
* `ParseError.message`, `ParseError.messageTop`, `ParseError.messageStack` — the deepest frame,
  the outermost frame and all frames in words.
-/

set_option autoImplicit false

namespace ParserCombinators

/-! ## Frames -/

/-- One step of the explanation of a failed parse. -/
inductive Frame where
  /-- One symbol was expected and another found. -/
  | atom (expected found : Value)
  /-- A run of symbols was expected and another found. -/
  | literal (expected found : Value)
  /-- A message in words. -/
  | message (text : String)
  deriving Inhabited

namespace Frame

/-- A symbol in a message: a text between single quotes, with nothing escaped. -/
def atomText : Value → String
  | .str s => "'" ++ s ++ "'"
  | v => v.written

/-- A run of symbols in a message: between double quotes, with nothing escaped; the end of the
input stands for itself. -/
def literalText : Value → String
  | .endOfInput => Value.endOfInput.written
  | v => "\"" ++ v.displayed ++ "\""

/-- A frame in words. -/
def text : Frame → String
  | .atom expected found => "Expected " ++ atomText expected ++ ", found " ++ atomText found
  | .literal expected found =>
    "Expected " ++ literalText expected ++ ", found " ++ literalText found
  | .message text => text

/-- A frame as a record of its parts. -/
def written : Frame → String
  | .atom expected found =>
    "AtomMismatch(expected=" ++ expected.written ++ ", found=" ++ found.written ++ ")"
  | .literal expected found =>
    "LiteralMismatch(expected=" ++ expected.written ++ ", found=" ++ found.written ++ ")"
  | .message text => "Message(text=" ++ Text.Quoted.text text ++ ")"

/-- Equality of frames: of the same kind, with equal parts. -/
def same : Frame → Frame → Bool
  | .atom a b, .atom c d => a.same c && b.same d
  | .literal a b, .literal c d => a.same c && b.same d
  | .message s, .message t => s == t
  | _, _ => false

end Frame

/-! ## Errors -/

/-- A chain of frames, from the deepest cause to the outermost context. -/
structure ParseError where
  /-- The cause, found where the input broke down. -/
  deepest : Frame
  /-- What enclosing parsers added, the outermost last. -/
  context : List Frame := []
  deriving Inhabited

namespace ParseError

/-- All frames, the deepest first. -/
def frames (e : ParseError) : List Frame :=
  e.deepest :: e.context

/-- The error with the given frames, if there are any. -/
def ofFrames? : List Frame → Option ParseError
  | [] => none
  | frame :: context => some ⟨frame, context⟩

/-- The error whose only frame is a message. -/
def ofMessage (text : String) : ParseError :=
  ⟨.message text, []⟩

/-- The error whose only frame says which symbol was expected and which was found. -/
def ofAtom (expected found : Value) : ParseError :=
  ⟨.atom expected found, []⟩

/-- The error with one more outermost frame. -/
def withContext (e : ParseError) (frame : Frame) : ParseError :=
  ⟨e.deepest, e.context ++ [frame]⟩

/-- The frame that was added last. -/
def outermost (e : ParseError) : Frame :=
  e.frames.getLast (List.cons_ne_nil _ _)

/-- The outermost frame comes last. -/
@[simp]
theorem frames_withContext (e : ParseError) (frame : Frame) :
    (e.withContext frame).frames = e.frames ++ [frame] := rfl

/-! ### In words -/

/-- The deepest frame in words. -/
def message (e : ParseError) : String :=
  e.deepest.text

/-- The outermost frame in words. -/
def messageTop (e : ParseError) : String :=
  e.outermost.text

/-- All frames in words, one a line, the deepest first. -/
def messageStack (e : ParseError) : String :=
  String.intercalate "\n" (e.frames.map Frame.text)

/-- The report of a failed parse, with the place where it failed if one is known. -/
def report (e : ParseError) (place : Option String) : String :=
  match place with
  | none => "Parse error: " ++ e.messageStack
  | some place => "Parse error at " ++ place ++ ": " ++ e.messageStack

/-- An error as a record of its frames. -/
def written (e : ParseError) : String :=
  "ParseError" ++ Value.writtenTuple (e.frames.map Frame.written)

/-- Equality of errors: as many frames, equal one by one. -/
def same (e f : ParseError) : Bool :=
  e.frames.length == f.frames.length &&
    (e.frames.zip f.frames).all fun pair => pair.1.same pair.2

end ParseError

end ParserCombinators
