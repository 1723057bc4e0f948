import ParserCombinators.Proofs.Parser.Failure

/-!
# Who is to blame for a failure

When a grammar fails, one run within it is to blame: a leaf that did not find what it wants, or a
combinator whose own check failed. From there the failure is handed on from the inside to the
outside. The grammars that it passes leave its error as it is, add one message to it, or put one
message in its place, and some of them tell it where they began.

## Main definitions

* `Mark` — what a grammar does to the error that passes it.
* `Grammar.OwnFailure` — a failure that no part of the grammar is to blame for.
* `Grammar.Passes` — the failure of which part, run from where, is the failure of the whole.
* `Grammar.FailsBy` — a failure, the original failure that it comes from and all marks on its way.
-/

set_option autoImplicit false

namespace ParserCombinators

open Relation (ReflTransGen)
open ParserCombinators.Parser (Through TillRound)

/-! ## Marks -/

/-- What a grammar does to the error of a failure that passes it. -/
inductive Mark where
  /-- It adds a message as the outermost frame. -/
  | added (text : String)
  /-- It puts a message in the place of all frames. -/
  | replaced (text : String)

namespace Mark

/-- The error with a mark. -/
def on (e : ParseError) : Mark → ParseError
  | added text => e.withContext (.message text)
  | replaced text => .ofMessage text

/-- The last message that takes the place of others divides the marks: those before it do not count,
and those after it are added. -/
lemma added_or_replaced (marks : List Mark) :
    (∃ texts : List String, marks = texts.map added) ∨
      ∃ (inner : List Mark) (text : String) (texts : List String),
        marks = inner ++ replaced text :: texts.map added := by
  induction marks with
  | nil => exact .inl ⟨[], rfl⟩
  | cons mark marks ih =>
    rcases ih with ⟨texts, rfl⟩ | ⟨inner, text, texts, rfl⟩
    · cases mark with
      | added text => exact .inl ⟨text :: texts, rfl⟩
      | replaced text => exact .inr ⟨[], text, texts, rfl⟩
    · exact .inr ⟨mark :: inner, text, texts, rfl⟩

end Mark

namespace Grammar

/-! ## Who is to blame -/

/-- The grammar that a grammar runs first, if the failure of it is the failure of both. -/
def first? : Grammar → Option Grammar
  | andThen p _ | followedBy p _ | pairWith p _ | both p _ | bind p _ | satisfying p _
  | transform p _ | delayed p | many1 _ p | sepBy1 p _ | sepEndBy1 p _ | many1Till p _
  | chainl1By _ p _ | chainr1By _ p _ => some p
  | _ => none

/-- The grammar that follows the first one, after that has given a value. -/
def next? (g : Grammar) (v : Value) : Option Grammar :=
  match g with
  | andThen _ q | followedBy _ q | pairWith _ q | both _ q => some q
  | bind _ f => some (f v)
  | _ => none

section Blame

variable (deref : String → Parser Value) (s : Settings)

/-- The loop of a grammar that began at `c`, with its first round at `k`, begins a round at `m`. All
rounds before it went on. -/
inductive AtRound : Grammar → Cursor → Cursor → Cursor → Prop
  /-- The first round begins where the loop begins, and each consumes an item. -/
  | many {into : Collector} {p : Grammar} {c m : Cursor}
    (before : ReflTransGen ((p.toParser deref).Progresses s) c m) : AtRound (many into p) c c m
  /-- The rounds follow a first item. -/
  | many1 {into : Collector} {p : Grammar} {c k m : Cursor}
    (first : (p.toParser deref).Steps s c k)
    (before : ReflTransGen ((p.toParser deref).Progresses s) k m) : AtRound (many1 into p) c k m
  /-- The rounds follow a first item, and each consumes a separator and an item. -/
  | sepBy1 {p sep : Grammar} {c k m : Cursor} (first : (p.toParser deref).Steps s c k)
    (before : ReflTransGen (((sep.andThen p).toParser deref).Progresses s) k m) :
    AtRound (sepBy1 p sep) c k m
  /-- The rounds follow a first item, and each consumes a separator and an item. -/
  | sepEndBy1 {p sep : Grammar} {c k m : Cursor} (first : (p.toParser deref).Steps s c k)
    (before : ReflTransGen (((sep.andThen p).toParser deref).Progresses s) k m) :
    AtRound (sepEndBy1 p sep) c k m
  /-- In each round the end fails without consuming, and an item is consumed. -/
  | manyTill {p stop : Grammar} {c m : Cursor}
    (before : ReflTransGen (TillRound (p.toParser deref) (stop.toParser deref) s) c m) :
    AtRound (manyTill p stop) c c m
  /-- The rounds follow a first item. -/
  | many1Till {p stop : Grammar} {c k m : Cursor} (first : (p.toParser deref).Steps s c k)
    (before : ReflTransGen (TillRound (p.toParser deref) (stop.toParser deref) s) k m) :
    AtRound (many1Till p stop) c k m
  /-- The rounds follow a first operand, and each reads an operator and an operand. -/
  | chainl1By {apply : Value → Value → Value → Except Fault Value} {p op : Grammar}
    {c k m : Cursor} (first : (p.toParser deref).Steps s c k)
    (before : ReflTransGen (((op.andThen p).toParser deref).Steps s) k m) :
    AtRound (chainl1By apply p op) c k m
  /-- The rounds follow a first operand, and each reads an operator and an operand. -/
  | chainr1By {apply : Value → Value → Value → Except Fault Value} {p op : Grammar}
    {c k m : Cursor} (first : (p.toParser deref).Steps s c k)
    (before : ReflTransGen (((op.andThen p).toParser deref).Steps s) k m) :
    AtRound (chainr1By apply p op) c k m

/-- In a round that begins at `m` the grammar `q` is run from `m'`, and its failure at `d` ends the
loop with that failure. A failure that has not consumed ends most loops without one. -/
def InRound (g : Grammar) (m : Cursor) (q : Grammar) (m' d : Cursor) : Prop :=
  match g with
  | many _ p | many1 _ p => q = p ∧ m' = m ∧ d.offset ≠ m.offset
  | sepBy1 p sep =>
    d.offset ≠ m.offset ∧ (q = sep ∧ m' = m ∨ q = p ∧ (sep.toParser deref).Steps s m m')
  | sepEndBy1 p sep =>
    d.offset ≠ m'.offset ∧ (q = sep ∧ m' = m ∨ q = p ∧ (sep.toParser deref).Steps s m m')
  | manyTill _ stop | many1Till _ stop => q = stop ∧ m' = m ∧ d.offset ≠ m.offset
  | chainl1By _ p op | chainr1By _ p op =>
    q = op ∧ m' = m ∧ d.offset ≠ m.offset ∨ q = p ∧ (op.toParser deref).Steps s m m'
  | _ => False

/-- A round that begins at `m` succeeds without consuming. -/
def Stalls (g : Grammar) (m : Cursor) : Prop :=
  match g with
  | many _ p | many1 _ p => ∃ d, (p.toParser deref).Steps s m d ∧ d.offset = m.offset
  | sepBy1 p sep | sepEndBy1 p sep =>
    ∃ d, ((sep.andThen p).toParser deref).Steps s m d ∧ d.offset = m.offset
  | manyTill p stop | many1Till p stop =>
    (stop.toParser deref).Misses s m ∧ ∃ d, (p.toParser deref).Steps s m d ∧ d.offset = m.offset
  | _ => False

/-- `g.OwnFailure deref s c d e` says that `g` fails from `c` at `d` with the error `e`, and that
this is no failure of a part of it. -/
inductive OwnFailure : Grammar → Cursor → Cursor → ParseError → Prop
  /-- The error that the grammar is to fail with. -/
  | fail {e : ParseError} {c : Cursor} : OwnFailure (fail e) c c e
  /-- There is a symbol where the end of the input is wanted. -/
  | endOfInput {c : Cursor} {v : Value} (there : c.head? = some v) :
    OwnFailure endOfInput c c (.ofAtom .endOfInput v)
  /-- There is no symbol. -/
  | ended {test : Value → Except Fault Bool} {expected : Value} {c : Cursor}
    (ended : c.head? = none) : OwnFailure (token test expected) c c (.ofAtom expected .endOfInput)
  /-- The symbol does not pass the test. -/
  | unwanted {test : Value → Except Fault Bool} {expected v : Value} {c : Cursor}
    (there : c.head? = some v) (rejects : test v = .ok false) :
    OwnFailure (token test expected) c c (.ofAtom expected v)
  /-- The symbols stop agreeing with the literal. -/
  | literal {expected : Value} {items : List Value} {i : Nat} {atom found : Value} {c : Cursor}
    (items_eq : expected.items? = some items)
    (differs : Parser.firstMismatch c 0 items = some (i, atom, found)) :
    OwnFailure (literal expected) c c
      (Parser.literalError expected (c.peek (i + 1 : Nat)) atom found)
  /-- The value does not pass the test. -/
  | rejected {p : Grammar} {test : Value → Except Fault Bool} {c d : Cursor} {v : Value}
    (got : (p.toParser deref).Gets s c v d) (rejects : test v = .ok false) :
    OwnFailure (satisfying p test) c d Parser.rejected
  /-- There is what must not follow. -/
  | unexpected {p : Grammar} {c d : Cursor} {v : Value}
    (got : (p.toParser deref).Gets s c v d) :
    OwnFailure (notFollowedBy p) c c (Parser.unexpected Value.written v)
  /-- A round does not consume; that is told where the loop began, -/
  | stalled {g : Grammar} {c k m : Cursor} (round : g.AtRound deref s c k m)
    (stalls : g.Stalls deref s m) (plain : ∀ p sep, g ≠ sepBy1 p sep) :
    OwnFailure g c c Parser.noProgress
  /-- or, between separators, where the first item stopped. -/
  | stalledBetween {p sep : Grammar} {c k m : Cursor}
    (round : (sepBy1 p sep).AtRound deref s c k m) (stalls : (sepBy1 p sep).Stalls deref s m) :
    OwnFailure (sepBy1 p sep) c k Parser.noProgress

/-- `g.Passes deref s c q m d` says that `g`, run from `c`, comes to run its part `q` from `m`, and
fails with whatever error `q` fails with at `d`. -/
inductive Passes : Grammar → Cursor → Grammar → Cursor → Cursor → Prop
  /-- The part that is run first. -/
  | first {g p : Grammar} {c d : Cursor} (first : g.first? = some p) : Passes g c p c d
  /-- The part that is run after it. -/
  | next {g p q : Grammar} {c m d : Cursor} {v : Value} (first : g.first? = some p)
    (got : (p.toParser deref).Gets s c v m) (next : g.next? v = some q) : Passes g c q m d
  /-- One of a list of parts, after those before it. -/
  | inSequence {n : Nat} {parts : Fin n → Grammar} {c m d : Cursor} (i : Fin n)
    (before : Through s ((List.ofFn fun j => (parts j).toParser deref).take i) c m) :
    Passes (sequence n parts) c (parts i) m d
  /-- One of a fixed number of rounds, after those before it. -/
  | inCount {n i : Nat} {p : Grammar} {c m d : Cursor} (inside : i < n)
    (before : Through s (List.replicate i (p.toParser deref)) c m) : Passes (count n p) c p m d
  /-- An alternative that consumed. -/
  | committed {p q : Grammar} {c d : Cursor} (consumed : d.offset ≠ c.offset) :
    Passes (orElse p q) c p c d
  /-- The alternative to a part that failed without consuming. -/
  | alternative {p q : Grammar} {c d : Cursor} (missed : (p.toParser deref).Misses s c) :
    Passes (orElse p q) c q c d
  /-- A part of a round of a loop. -/
  | inRound {g q : Grammar} {c k m m' d : Cursor} (round : g.AtRound deref s c k m)
    (inside : g.InRound deref s m q m' d) : Passes g c q m' d

end Blame

/-- `FailsBy naming s n g c d origin marks` says that `g`, run from `c` with references at most `n`
deep, fails at `d`, that this comes from an original failure with the error `origin`, and that
`marks` were left on it from the inside to the outside. -/
inductive FailsBy (naming : Naming) (s : Settings) :
    Nat → Grammar → Cursor → Cursor → ParseError → List Mark → Prop
  /-- The original failure. -/
  | own {n : Nat} {g : Grammar} {c d : Cursor} {origin : ParseError}
    (own : g.OwnFailure (naming.parserOf n) s c d origin) : FailsBy naming s n g c d origin []
  /-- The failure of a part as it is. -/
  | passed {n : Nat} {g q : Grammar} {c m d : Cursor} {origin : ParseError} {marks : List Mark}
    (passes : g.Passes (naming.parserOf n) s c q m d)
    (inner : FailsBy naming s n q m d origin marks) : FailsBy naming s n g c d origin marks
  /-- The failure of a part, told where the whole began. -/
  | rewound {n : Nat} {g p : Grammar} {c d : Cursor} {origin : ParseError} {marks : List Mark}
    (rewinds : g = attempt p ∨ g = lookAhead p)
    (inner : FailsBy naming s n p c d origin marks) : FailsBy naming s n g c c origin marks
  /-- A message is added. -/
  | context {n : Nat} {p : Grammar} {text : String} {c d : Cursor} {origin : ParseError}
    {marks : List Mark} (inner : FailsBy naming s n p c d origin marks) :
    FailsBy naming s n (withContext p text) c d origin (marks ++ [.added text])
  /-- A loop up to an end adds a message if it is the item that fails. -/
  | item {n : Nat} {g p stop : Grammar} {c k m d : Cursor} {origin : ParseError}
    {marks : List Mark} (loop : g = manyTill p stop ∨ g = many1Till p stop)
    (round : g.AtRound (naming.parserOf n) s c k m)
    (missed : (stop.toParser (naming.parserOf n)).Misses s m)
    (inner : FailsBy naming s n p m d origin marks) :
    FailsBy naming s n g c d origin (marks ++ [.added Parser.neitherMatched.text])
  /-- A message takes the place of all others. -/
  | message {n : Nat} {p : Grammar} {text : String} {c d : Cursor} {origin : ParseError}
    {marks : List Mark} (inner : FailsBy naming s n p c d origin marks) :
    FailsBy naming s n (withMessage p text) c d origin (marks ++ [.replaced text])
  /-- So does what a traced parser says, and it is told where that began. -/
  | traced {n : Nat} {p : Grammar} {label : String} {c d : Cursor} {origin : ParseError}
    {marks : List Mark} (inner : FailsBy naming s n p c d origin marks) :
    FailsBy naming s n (traced label p) c c origin
      (marks ++ [.replaced (Parser.tracedError label).message])
  /-- The failure of the grammar that a name stands for. -/
  | named {n : Nat} {name : String} {g : Grammar} {c d : Cursor} {origin : ParseError}
    {marks : List Mark} (there : naming name = some g)
    (inner : FailsBy naming s n g c d origin marks) :
    FailsBy naming s (n + 1) (reference name) c d origin marks

end Grammar

end ParserCombinators
