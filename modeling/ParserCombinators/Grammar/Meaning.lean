import ParserCombinators.Grammar.Basic
import ParserCombinators.Parser.Chain
import ParserCombinators.Parser.Repetition
import ParserCombinators.Parser.Trace
import ParserCombinators.Value.Operations

/-!
# The parser of a grammar

Every grammar is a parser of values: each constructor stands for the combinator of its name. A
reference stands for the parser of the grammar that it names, to a depth of nested references that
the settings give.

## Main definitions

* `Grammar.toParser` — the parser of a grammar, given the parsers of the names in it.
* `Naming.parserOf` — the parser of a name, to a depth of nested references.
* `Grammar.parserUnder`, `Grammar.parser` — the parser of a grammar whose names stand for grammars.
-/

set_option autoImplicit false

namespace ParserCombinators

namespace Value

/-- The values of a tuple if it is to be taken apart, otherwise the value itself. -/
def parts (joined : Bool) (v : Value) : List Value :=
  match joined, v with
  | true, .tuple items => items
  | _, v => [v]

end Value

namespace Collector

/-- A parser any number of times, with its values collected. -/
def many (into : Collector) (p : Parser Value) : Parser Value :=
  match into with
  | list => (Parser.many p).map .list
  | deque => (Parser.many p).map .deque
  | counter => (Parser.manyInto 0 (fun n _ => n + 1) p).map .counter
  | nothing => (Parser.skipMany p).map fun _ => .none
  | own empty push => Parser.manyBy empty push p

/-- A parser at least once, with its values collected. -/
def many1 (into : Collector) (p : Parser Value) : Parser Value :=
  match into with
  | list => (Parser.many1 p).map .list
  | deque => (Parser.many1 p).map .deque
  | counter => (Parser.many1Into 0 (fun n _ => n + 1) p).map .counter
  | nothing => (Parser.skipMany1 p).map fun _ => .none
  | own empty push => Parser.many1By empty push p

end Collector

namespace Grammar

/-- The parser of a grammar; `deref` gives the parser of each name. -/
def toParser (deref : String → Parser Value) : Grammar → Parser Value
  | raise fault => Parser.raise fault
  | succeed v => Parser.succeed v
  | fail e => Parser.fail e
  | endOfInput => Parser.endOfInput.map fun _ => .none
  | token test expected => Parser.token test expected
  | literal expected => Parser.literal expected
  | andThen p q => (p.toParser deref).andThen (q.toParser deref)
  | followedBy p q => (p.toParser deref).followedBy (q.toParser deref)
  | pairWith p q =>
    ((p.toParser deref).pairWith (q.toParser deref)).map fun (a, b) => .tuple [a, b]
  | both p q =>
    ((p.toParser deref).pairWith (q.toParser deref)).map fun (a, b) =>
      .tuple (a.parts p.isJoined ++ b.parts q.isJoined)
  | sequence _ parts =>
    (Parser.sequence (List.ofFn fun i => (parts i).toParser deref)).map .tuple
  | bind p f => (p.toParser deref).bind fun v => (f v).toParser deref
  | satisfying p test => (p.toParser deref).satisfying test
  | transform p f => (p.toParser deref).transform f
  | orElse p q => (p.toParser deref).orElse (q.toParser deref)
  | attempt p => (p.toParser deref).attempt
  | lookAhead p => (p.toParser deref).lookAhead
  | notFollowedBy p => (Parser.notFollowedBy Value.written (p.toParser deref)).map fun _ => .none
  | withContext p text => (p.toParser deref).withContext text
  | withMessage p text => (p.toParser deref).withMessage text
  | delayed p => p.toParser deref
  | many into p => into.many (p.toParser deref)
  | many1 into p => into.many1 (p.toParser deref)
  | count n p => (Parser.count n (p.toParser deref)).map .list
  | sepBy1 p sep => (Parser.sepBy1 (p.toParser deref) (sep.toParser deref)).map .list
  | sepEndBy1 p sep => (Parser.sepEndBy1 (p.toParser deref) (sep.toParser deref)).map .list
  | manyTill p stop => (Parser.manyTill (p.toParser deref) (stop.toParser deref)).map .list
  | many1Till p stop => (Parser.many1Till (p.toParser deref) (stop.toParser deref)).map .list
  | chainl1By apply p op => Parser.chainl1 apply (p.toParser deref) (op.toParser deref)
  | chainr1By apply p op => Parser.chainr1 apply (p.toParser deref) (op.toParser deref)
  | trace label => (Parser.trace label).map fun _ => .none
  | traced label p => Parser.traced label (p.toParser deref)
  | reference name => deref name

end Grammar

/-! ## References -/

/-- What names stand for. There may be names without end, so a callback that builds a new grammar
every time it is called is a name for each of them. -/
abbrev Naming := String → Option Grammar

/-- The parser of a name, when references are nested at most `depth` deep. -/
def Naming.parserOf (naming : Naming) : Nat → String → Parser Value
  | 0, _ => ⟨fun _ _ => Run.outOfFuel⟩
  | depth + 1, name =>
    ⟨fun s c =>
      match naming name with
      | some g => (g.toParser (naming.parserOf depth)).run s c
      | none => Run.raise (.undefined name)⟩

/-- The parser of a grammar whose names stand for grammars. -/
def Grammar.parserUnder (naming : Naming) (g : Grammar) : Parser Value where
  run s c := (g.toParser (naming.parserOf s.fuel)).run s c

/-- The parser of a grammar over named grammars. -/
def Grammar.parser (definitions : Definitions) (g : Grammar) : Parser Value :=
  g.parserUnder fun name => definitions.lookup name

end ParserCombinators
