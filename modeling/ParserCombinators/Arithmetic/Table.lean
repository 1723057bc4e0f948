import ParserCombinators.Number.Basic
import ParserCombinators.Parser.Chain
import ParserCombinators.Parser.Character

/-!
# Arithmetic expressions

Expressions of decimal numbers with `+`, `-`, `*`, `/`, `^` and parentheses, evaluated while they
are read. An expression is a chain of terms, a term a chain of factors, a factor a chain of atoms
that is folded from the right, and an atom a number or an expression in parentheses. Blanks may
follow every number, operator and parenthesis, and stand at the beginning.

The grammar is given with a change that is made to each of its parsers, down to those for single
symbols; the grammar itself is the one in which nothing is changed.

## Main definitions

* `Arithmetic.Change`, `Arithmetic.unchanged` — changes of parsers, and the one that does nothing.
* `Arithmetic.expressionWith`, `Arithmetic.textWith` — one level of the grammar, given the parser
  for parentheses, and a whole text, given the parser of an expression.
* `Arithmetic.expression`, `Arithmetic.parser` — both with nothing changed.
* `Arithmetic.evaluate` — the number that a text denotes.
* `Arithmetic.table` — eight expressions with the number that each denotes, or why it denotes none.
-/

set_option autoImplicit false

namespace ParserCombinators

namespace Arithmetic

/-! ## Operations -/

/-- The operations that a text can name. -/
inductive Operation where
  /-- Addition. -/
  | add
  /-- Subtraction. -/
  | sub
  /-- Multiplication. -/
  | mul
  /-- Division. -/
  | div
  /-- Raising to a power. -/
  | pow
  deriving DecidableEq, Repr, Inhabited

/-- An operation applied to two numbers. -/
def Operation.apply : Operation → Number → Number → Except Fault Number
  | .add => Number.add
  | .sub => Number.sub
  | .mul => Number.mul
  | .div => Number.div
  | .pow => Number.pow

/-! ## The grammar, with its parsers changed -/

/-- A change of parsers, whatever their values are. -/
abbrev Change := (α : Type) → Parser α → Parser α

section Changed

variable (change : Change)

/-- Any number of blanks. -/
def spacesWith : Parser Unit :=
  change _ (Parser.skipMany (change _ Parser.space))

/-- A parser and the blanks after it. -/
def lexemeWith {α : Type} (p : Parser α) : Parser α :=
  change _ (p.followedBy (spacesWith change))

/-- A character and the blanks after it. -/
def markWith (c : Char) : Parser Value :=
  lexemeWith change (change _ (Parser.char c))

/-- A mark that names an operation. -/
def operationWith (c : Char) (op : Operation) : Parser Operation :=
  change _ ((markWith change c).andThen (change _ (.succeed op)))

/-- The operations between terms. -/
def addOpWith : Parser Operation :=
  change _ ((operationWith change '+' .add).orElse (operationWith change '-' .sub))

/-- The operations between factors. -/
def mulOpWith : Parser Operation :=
  change _ ((operationWith change '*' .mul).orElse (operationWith change '/' .div))

/-- The operation between atoms. -/
def powOpWith : Parser Operation :=
  operationWith change '^' .pow

/-- One or more digits, with the number that they denote. -/
def naturalWith : Parser Int :=
  change _ ((change _ (Parser.many1 (change _ (Parser.ofClass .digit)))).transform
    Parser.readDigits)

/-- What stands in parentheses. -/
def parenthesesWith (nested : Parser Number) : Parser Number :=
  change _ ((change _ ((markWith change '(').andThen nested)).followedBy (markWith change ')'))

/-- A number, or an expression in parentheses. -/
def atomWith (nested : Parser Number) : Parser Number :=
  change _ ((lexemeWith change (change _ ((naturalWith change).map .int))).orElse
    (parenthesesWith change nested))

/-- Atoms with powers between them. -/
def factorWith (nested : Parser Number) : Parser Number :=
  change _ (Parser.chainr1 Operation.apply (atomWith change nested) (powOpWith change))

/-- Factors with products and quotients between them. -/
def termWith (nested : Parser Number) : Parser Number :=
  change _ (Parser.chainl1 Operation.apply (factorWith change nested) (mulOpWith change))

/-- Terms with sums and differences between them; `nested` reads what stands in parentheses. -/
def expressionWith (nested : Parser Number) : Parser Number :=
  change _ (Parser.chainl1 Operation.apply (termWith change nested) (addOpWith change))

/-- Blanks, what `inner` reads, and nothing else. -/
def textWith (inner : Parser Number) : Parser Number :=
  change _ ((change _ ((spacesWith change).andThen inner)).followedBy
    (change _ Parser.endOfInput))

end Changed

/-! ## The grammar -/

/-- The change that leaves every parser as it is. -/
def unchanged : Change :=
  fun _ p => p

/-- A parser and the blanks after it. -/
def lexeme {α : Type} (p : Parser α) : Parser α :=
  lexemeWith unchanged p

/-- A character and the blanks after it. -/
def mark (c : Char) : Parser Value :=
  markWith unchanged c

/-- A mark that names an operation. -/
def operation (c : Char) (op : Operation) : Parser Operation :=
  operationWith unchanged c op

/-- The operations between terms. -/
def addOp : Parser Operation :=
  addOpWith unchanged

/-- The operations between factors. -/
def mulOp : Parser Operation :=
  mulOpWith unchanged

/-- The operation between atoms. -/
def powOp : Parser Operation :=
  powOpWith unchanged

/-- A number, or an expression in parentheses. -/
def atom (nested : Parser Number) : Parser Number :=
  atomWith unchanged nested

/-- Atoms with powers between them. -/
def factor (nested : Parser Number) : Parser Number :=
  factorWith unchanged nested

/-- Factors with products and quotients between them. -/
def term (nested : Parser Number) : Parser Number :=
  termWith unchanged nested

/-- Terms with sums and differences between them; `nested` reads what stands in parentheses. -/
def expression (nested : Parser Number) : Parser Number :=
  expressionWith unchanged nested

/-- An expression and nothing else. -/
def parser : Parser Number :=
  textWith unchanged (Parser.fix expression)

/-! ## Evaluation -/

/-- The reply to an input. -/
def reply (c : Cursor) : Run (Reply Number) :=
  parser.run (.sufficient 1 c false) c

/-- The number that a text denotes, or why it denotes none. -/
def evaluate (text : String) : Run (Except ParseError Number) :=
  return (← reply (.plain (.ofValue (.str text)))).toExcept

/-! ## A table of expressions -/

/-- The expressions of the table: precedence, parentheses, powers from the right, a quotient, a
division by zero, and an operand that is missing. -/
def samples : List String :=
  ["2 + 3", "2 * 3", "2 + 3 * 4", "(2 + 3) * 4", "2 ^ 3 ^ 2", "10 / 2 + 3", "10 / (2 - 2)", "2 +"]

/-- A text filled up with spaces to a width. -/
def padded (width : Nat) (s : String) : String :=
  s ++ String.ofList (List.replicate (width - s.length) ' ')

/-- A row of the table. -/
def row (left right : String) : String :=
  padded 20 left ++ " | " ++ right

/-- What the table says of an expression. -/
def outcome (text : String) : String :=
  match (evaluate text).ending with
  | .done (.ok number) => number.text
  | .done (.error e) => "Error: " ++ e.message
  | .raised fault => "Runtime Error: " ++ fault.message?.getD ""
  | .exhausted => ""

/-- The table with its head and a rule below that. -/
def table : Report :=
  .ofLines
    (row "Expression" (padded 10 "Result") :: String.ofList (List.replicate 35 '-') ::
      samples.map fun text => row text (outcome text))

end Arithmetic

end ParserCombinators
