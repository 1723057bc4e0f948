import ParserCombinators.Binary64.Shortest
import ParserCombinators.Text.Quoted
import ParserCombinators.Value.Basic

/-!
# Writing values

A value is written in two ways: in full, with quotes around texts, and for display, where a text
stands for itself.

## Main definitions

* `Operator.name` — the name of an operator.
* `Value.written` — a value in full.
* `Value.displayed` — a text as it is, any other value in full.
-/

set_option autoImplicit false

namespace ParserCombinators

/-- The name of an operator. -/
def Operator.name : Operator → String
  | .pair => "pair"
  | .left => "left"
  | .right => "right"
  | .failing => "raise"
  | .add => "add"
  | .sub => "sub"
  | .mul => "mul"
  | .pow => "pow"
  | .floorDiv => "floordiv"

namespace Value

/-- Some written items between brackets, with a comma and a space between neighbours. -/
def bracketed (opening : String) (items : List String) (closing : String) : String :=
  opening ++ String.intercalate ", " items ++ closing

/-- A written tuple: one item alone is followed by a comma. -/
def writtenTuple : List String → String
  | [item] => "(" ++ item ++ ",)"
  | items => bracketed "(" items ")"

mutual

/-- A value in full: texts and bytes in quotes, sequences in brackets. -/
def written : Value → String
  | .none => "None"
  | .bool flag => if flag then "True" else "False"
  | .int n => toString n
  | .float x => Binary64.text (.ofBits x)
  | .str s => Text.Quoted.text s
  | .bytes octets => Text.Quoted.bytes octets
  | .list items => bracketed "[" (writtenItems items) "]"
  | .tuple items => writtenTuple (writtenItems items)
  | .token type value => "Tok(" ++ type ++ ", " ++ written value ++ ")"
  | .endOfInput => "end of input"
  | .operator op => "<op " ++ op.name ++ ">"
  | .deque items => bracketed "deque([" (writtenItems items) "])"
  | .counter count => "Counter(" ++ toString count ++ ")"

/-- Each of some values in full. -/
def writtenItems : List Value → List String
  | [] => []
  | v :: vs => written v :: writtenItems vs

end

/-- A text as it is, any other value in full. -/
def displayed : Value → String
  | .str s => s
  | v => written v

end Value

end ParserCombinators
