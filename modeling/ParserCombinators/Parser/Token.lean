import ParserCombinators.Parser.Basic

/-!
# Single symbols and literals

The parsers that look at the input: one symbol that passes a test, a run of symbols given one by
one, and the end of the input. All of them fail where they began, and their errors say what was
expected and what was found.

## Main definitions

* `Parser.endOfInput`, `Parser.token`, `Parser.anyToken`, `Parser.symbol` — the end, and single
  symbols.
* `Parser.literal` — the items of a sequence one by one.
* `Parser.firstMismatch` — where the input stops agreeing with what was expected.
-/

set_option autoImplicit false

namespace ParserCombinators

namespace Parser

/-- Ends with a fault if the input is no sequence. -/
def look (c : Cursor) : Run Unit :=
  if c.input.isReadable then pure () else Run.raise .mismatchedKind

/-- Looking at a sequence does nothing. -/
theorem look_of_readable {c : Cursor} (readable : c.input.isReadable = true) : look c = pure () :=
  if_pos readable

/-! ## The end of the input -/

/-- Succeeds only at the end of the input. -/
def endOfInput : Parser Unit where
  run _ c := do
    look c
    match c.head? with
    | none => pure (.ok () c)
    | some found => pure (.error c (.ofAtom .endOfInput found))

/-! ## Single symbols -/

/-- One symbol that passes a test. A symbol that does not is not consumed, and the error expects
`expected`. -/
def token (test : Value → Except Fault Bool) (expected : Value) : Parser Value where
  run _ c := do
    look c
    match c.head? with
    | none => pure (.error c (.ofAtom expected .endOfInput))
    | some symbol =>
      if ← Run.ofExcept (test symbol) then pure (.ok symbol (c.advance 1))
      else pure (.error c (.ofAtom expected symbol))

/-- Any symbol. -/
def anyToken : Parser Value :=
  token (fun _ => .ok true) (.str "any token")

/-- One symbol that is equal to a given one. -/
def symbol (expected : Value) : Parser Value :=
  token (fun found => .ok (found.same expected)) expected

/-! ## Literals -/

/-- Where the symbols after a cursor stop agreeing with the expected ones: the index, the symbol
expected there and the symbol found, which is the end of the input where too few are left. -/
def firstMismatch (c : Cursor) : Nat → List Value → Option (Nat × Value × Value)
  | _, [] => none
  | i, expected :: rest =>
    match c.input.get? (c.offset + i) with
    | none => some (i, expected, .endOfInput)
    | some found =>
      if found.same expected then firstMismatch c (i + 1) rest else some (i, expected, found)

/-- The error of a literal that stops agreeing with the input at an index. -/
def literalError (expected : Value) (seen : Input) (atom found : Value) : ParseError :=
  ⟨.atom atom found, [.literal expected seen.toValue]⟩

/-- The given symbols one by one, with the value `expected` that they are the items of. On a
mismatch nothing is consumed; the deepest frame names the first symbol that differs and the frame
above it the input up to and with that symbol. -/
def symbols (expected : Value) (items : List Value) : Parser Value where
  run _ c := do
    look c
    match firstMismatch c 0 items with
    | none => pure (.ok expected (c.advance items.length))
    | some (i, atom, found) =>
      pure (.error c (literalError expected (c.peek (i + 1 : Nat)) atom found))

/-- The items of a sequence one by one; a value that is no sequence ends the run with a fault. -/
def literal (expected : Value) : Parser Value :=
  match expected.items? with
  | some items => symbols expected items
  | none => ⟨fun _ _ => Run.raise .mismatchedKind⟩

end Parser

end ParserCombinators
