import ParserCombinators.Fault
import ParserCombinators.Input

/-!
# Positions

A position is a line and a column in a named source. Every symbol moves it one column on, and a
newline moves it to the first column of the next line. Over a text or a run of bytes the new
position can be read off the number of newlines and the place of the last of them.

## Main definitions

* `Position.update` — the position after one symbol.
* `Position.updateMany`, `Position.updateOver` — the position after a run of symbols.
* `Position.text` — a position in words.
-/

set_option autoImplicit false

namespace ParserCombinators

/-- A line and a column in a named source. -/
structure Position where
  /-- The line, counted from one in a fresh source. -/
  line : Int := 1
  /-- The column, counted from one in a fresh source. -/
  column : Int := 1
  /-- The name of the source; empty when it has none. -/
  name : String := ""
  deriving DecidableEq, Repr, Inhabited

namespace Position

/-! ## Moving over symbols -/

/-- Whether a symbol is a newline: the character, its number, or the byte. As in `Value.same`, to
compare symbols is taken to return. -/
def isNewline (symbol : Value) : Bool :=
  symbol.same (.str "\n") || symbol.same (.int 10) || symbol.same (.bytes [10])

/-- The position after one symbol. -/
def update (p : Position) (symbol : Value) : Position :=
  if isNewline symbol then ⟨p.line + 1, 1, p.name⟩ else ⟨p.line, p.column + 1, p.name⟩

/-- The index of the last occurrence of an item; `-1` where there is none. -/
def lastIndex {α : Type} [BEq α] (item : α) (items : Array α) : Int :=
  match (List.range items.size).reverse.find? fun i => items[i]? == some item with
  | some i => i
  | none => -1

/-- The position after `size` symbols of which `newlines` are newlines, the last of them at the
index `last`: the column then counts the symbols from that newline on. -/
def jump (p : Position) (newlines size : Nat) (last : Int) : Position :=
  if newlines = 0 then ⟨p.line, p.column + size, p.name⟩
  else ⟨p.line + newlines, size - last, p.name⟩

/-- The position after a run of symbols. -/
def updateMany (p : Position) : Input → Position
  | .text chars => p.jump (chars.count '\n') chars.size (lastIndex '\n' chars)
  | .bytes octets => p.jump (octets.count 10) octets.size (lastIndex 10 octets)
  | .list items | .tuple items => items.foldl update p
  | .unreadable => p

/-- The position after a value that is a run of symbols; any other value is a fault. -/
def updateOver (p : Position) (v : Value) : Except Fault Position :=
  let run := Input.ofValue v
  if run.isReadable then .ok (p.updateMany run) else .error .mismatchedKind

/-! ## In words -/

/-- A position in words, after the name of its source if it has one. -/
def text (p : Position) : String :=
  (if p.name.isEmpty then "" else p.name ++ " ") ++
    "line " ++ toString p.line ++ ", column " ++ toString p.column

/-- A position as a record of its three parts. -/
def written (p : Position) : String :=
  "SourcePos(line=" ++ toString p.line ++ ", column=" ++ toString p.column ++ ", name=" ++
    Text.Quoted.text p.name ++ ")"

end Position

end ParserCombinators
