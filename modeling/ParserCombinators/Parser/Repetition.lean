import ParserCombinators.Parser.Basic

/-!
# Repetition

All repetitions follow one rule. A round that fails without consuming ends the repetition, which
succeeds with what was collected; a round that fails after consuming fails the repetition. A
round that succeeds without consuming would be repeated for ever, so it fails the repetition at
the cursor where the repetition began.

## Main definitions

* `Parser.many`, `Parser.many1`, `Parser.skipMany`, `Parser.skipMany1` — a parser again and
  again; `Parser.manyInto` and `Parser.many1Into` collect into anything, and `Parser.manyBy` and
  `Parser.many1By` into what may refuse a value.
* `Parser.sequence`, `Parser.count` — the parsers of a list in order, and a fixed number of
  rounds.
* `Parser.sepBy1`, `Parser.endBy`, `Parser.sepEndBy1` and their kin — items with separators.
* `Parser.manyTill`, `Parser.many1Till` — items up to an end.
-/

set_option autoImplicit false

namespace ParserCombinators

namespace Parser

variable {α β γ : Type}

/-- The error of a round that succeeds without consuming. -/
def noProgress : ParseError :=
  .ofMessage "many: parser succeeded without consuming input"

/-! ## Again and again -/

/-- One round of a repetition that began at `start`; the state is the cursor and what has been
collected. Adding a value to a collection may raise a fault. -/
def manyByRound (push : β → α → Except Fault β) (p : Parser α) (start : Cursor) (s : Settings) :
    Cursor × β → Run (Run.Round (Cursor × β) (Reply β))
  | (c, collected) => do
    match ← p.run s c with
    | .ok a next =>
      if next.offset = c.offset then return .stop (.error start noProgress)
      else return .again (next, ← Run.ofExcept (push collected a))
    | .error next e =>
      if next.offset = c.offset then return .stop (.ok collected c)
      else return .stop (.error next e)

/-- The repetition of a parser that began at `start`, goes on from a cursor and has collected
something. -/
def manyByFrom (push : β → α → Except Fault β) (p : Parser α) (start : Cursor) (s : Settings)
    (c : Cursor) (collected : β) : Run (Reply β) :=
  Run.iterate (manyByRound push p start s) s.fuel (c, collected)

/-- A parser any number of times, its values added one after the other to an empty collection.
Beginning a collection may raise a fault, too; that is done before the first round. -/
def manyBy (empty : Except Fault β) (push : β → α → Except Fault β) (p : Parser α) : Parser β where
  run s c := do manyByFrom push p c s c (← Run.ofExcept empty)

/-- A parser at least once; the first round need not consume, and the collection is begun after
it. -/
def many1By (empty : Except Fault β) (push : β → α → Except Fault β) (p : Parser α) :
    Parser β where
  run s c := do
    match ← p.run s c with
    | .ok a next => manyByFrom push p c s next (← Run.ofExcept (do push (← empty) a))
    | .error next e => pure (.error next e)

/-- One round of a repetition whose collection takes every value. -/
def manyRound (push : β → α → β) (p : Parser α) (start : Cursor) (s : Settings) :
    Cursor × β → Run (Run.Round (Cursor × β) (Reply β)) :=
  manyByRound (fun collected a => .ok (push collected a)) p start s

/-- The repetition that began at `start`, goes on from a cursor and has collected something, if
its collection takes every value. -/
def manyFrom (push : β → α → β) (p : Parser α) (start : Cursor) (s : Settings) (c : Cursor)
    (collected : β) : Run (Reply β) :=
  Run.iterate (manyRound push p start s) s.fuel (c, collected)

/-- A parser any number of times, its values added one after the other to an initial
collection. -/
def manyInto (empty : β) (push : β → α → β) (p : Parser α) : Parser β where
  run s c := manyFrom push p c s c empty

/-- A parser at least once; the first round need not consume. -/
def many1Into (empty : β) (push : β → α → β) (p : Parser α) : Parser β where
  run s c := do
    match ← p.run s c with
    | .ok a next => manyFrom push p c s next (push empty a)
    | .error next e => pure (.error next e)

/-- A parser any number of times, with the list of its values. -/
def many (p : Parser α) : Parser (List α) :=
  (manyInto #[] Array.push p).map Array.toList

/-- A parser at least once, with the list of its values. -/
def many1 (p : Parser α) : Parser (List α) :=
  (many1Into #[] Array.push p).map Array.toList

/-- A parser any number of times, without its values. -/
def skipMany (p : Parser α) : Parser Unit :=
  manyInto () (fun _ _ => ()) p

/-- A parser at least once, without its values. -/
def skipMany1 (p : Parser α) : Parser Unit :=
  many1Into () (fun _ _ => ()) p

/-! ## A fixed number of parsers -/

/-- The parsers of a list in order, after some that have given the values `done`. -/
def sequenceFrom (s : Settings) : List (Parser α) → Array α → Cursor → Run (Reply (List α))
  | [], done, c => pure (.ok done.toList c)
  | p :: ps, done, c => do
    match ← p.run s c with
    | .ok a c => sequenceFrom s ps (done.push a) c
    | .error c e => pure (.error c e)

/-- The parsers of a list in order, with the list of their values. -/
def sequence (ps : List (Parser α)) : Parser (List α) where
  run s c := sequenceFrom s ps #[] c

/-- A parser so many times more, after rounds that have given the values `done`. -/
def countFrom (p : Parser α) (s : Settings) : Nat → Array α → Cursor → Run (Reply (List α))
  | 0, done, c => pure (.ok done.toList c)
  | n + 1, done, c => do
    match ← p.run s c with
    | .ok a c => countFrom p s n (done.push a) c
    | .error c e => pure (.error c e)

/-- A parser exactly `n` times, with the list of its values; a round need not consume. -/
def count (n : Nat) (p : Parser α) : Parser (List α) where
  run s c := countFrom p s n #[] c

/-! ## Separators -/

/-- One or more items with separators between them. A separator that consumed must be followed
by an item. -/
def sepBy1 (p : Parser α) (sep : Parser β) : Parser (List α) where
  run s c := do
    match ← p.run s c with
    | .ok a c =>
      match ← (many (sep.andThen p)).run s c with
      | .ok more c => pure (.ok (a :: more) c)
      | .error c e => pure (.error c e)
    | .error c e => pure (.error c e)

/-- Any number of items with separators between them. -/
def sepBy (p : Parser α) (sep : Parser β) : Parser (List α) :=
  (sepBy1 p sep).orElse (succeed [])

/-- Any number of items, each with a separator after it. -/
def endBy (p : Parser α) (sep : Parser β) : Parser (List α) :=
  many (p.followedBy sep)

/-- One or more items, each with a separator after it. -/
def endBy1 (p : Parser α) (sep : Parser β) : Parser (List α) :=
  many1 (p.followedBy sep)

/-- One round of `sepEndBy1`: a separator and an item. A separator without an item after it is
the last one. -/
def sepEndByRound (p : Parser α) (sep : Parser β) (start : Cursor) (s : Settings) :
    Cursor × Array α → Run (Run.Round (Cursor × Array α) (Reply (List α)))
  | (c, items) => do
    match ← sep.run s c with
    | .error next e =>
      if next.offset = c.offset then return .stop (.ok items.toList c)
      else return .stop (.error next e)
    | .ok _ separated =>
      match ← p.run s separated with
      | .error next e =>
        if next.offset = separated.offset then return .stop (.ok items.toList separated)
        else return .stop (.error next e)
      | .ok a next =>
        if next.offset = c.offset then return .stop (.error start noProgress)
        else return .again (next, items.push a)

/-- One or more items with separators between them, and possibly one after the last. -/
def sepEndBy1 (p : Parser α) (sep : Parser β) : Parser (List α) where
  run s c := do
    match ← p.run s c with
    | .ok a next => Run.iterate (sepEndByRound p sep c s) s.fuel (next, #[a])
    | .error next e => pure (.error next e)

/-- Any number of items with separators between them, and possibly one after the last. -/
def sepEndBy (p : Parser α) (sep : Parser β) : Parser (List α) :=
  (sepEndBy1 p sep).orElse (succeed [])

/-! ## Up to an end -/

/-- The message that `manyTill` adds when its item fails. -/
def neitherMatched : Frame :=
  .message "many_till: neither item nor end matched"

/-- One round of `manyTill`: the end, and where that fails without consuming, an item. -/
def tillRound (p : Parser α) (stop : Parser β) (start : Cursor) (s : Settings) :
    Cursor × Array α → Run (Run.Round (Cursor × Array α) (Reply (List α)))
  | (c, items) => do
    match ← stop.run s c with
    | .ok _ next => return .stop (.ok items.toList next)
    | .error next e =>
      if next.offset ≠ c.offset then return .stop (.error next e)
      else
        match ← p.run s c with
        | .error next e => return .stop (.error next (e.withContext neitherMatched))
        | .ok a next =>
          if next.offset = c.offset then return .stop (.error start noProgress)
          else return .again (next, items.push a)

/-- Any number of items up to an end, with the list of the items. In every round the end is tried
first. -/
def manyTill (p : Parser α) (stop : Parser β) : Parser (List α) where
  run s c := Run.iterate (tillRound p stop c s) s.fuel (c, #[])

/-- An item, and then any number of items up to an end. -/
def many1Till (p : Parser α) (stop : Parser β) : Parser (List α) where
  run s c := do
    match ← p.run s c with
    | .ok a next => Run.iterate (tillRound p stop c s) s.fuel (next, #[a])
    | .error next e => pure (.error next e)

end Parser

end ParserCombinators
