import ParserCombinators.Parser.Character

/-!
# Comma-separated tables

A table is a text of lines, each a row of fields with commas between them. A field is plain, and
then holds no comma, line break or double quote, or it stands between double quotes, in which a
double quote is written twice. Lines end with a line feed, with or without a carriage return
before it; the last line may lack its end.

## Main definitions

* `Csv.field`, `Csv.row`, `Csv.table` — the parsers.
* `Csv.read` — the rows of a text.
* `Csv.report` — the rows of a text as a command prints them.
-/

set_option autoImplicit false

namespace ParserCombinators

namespace Csv

open ParserCombinators.Parser

/-! ## The grammar -/

/-- A character between quotes; a double quote is written twice. -/
def quotedChar : Parser Value :=
  (ofClass ⟨(· != ['\"']), "<quoted char>"⟩).orElse
    ((literal (.str "\"\"")).map fun _ => .str "\"")

/-- A field between quotes. -/
def quotedField : Parser String :=
  ((many quotedChar).between (char '\"') (char '\"')).transform Value.joinTexts

/-- The characters that a plain field cannot hold, in the order in which they are excluded. -/
def reserved : List Char :=
  [',', '\r', '\n', '\"']

/-- A character of a plain field. -/
def plainChar : Parser Value :=
  ofClass ⟨fun cs => !Text.occursIn cs reserved, "<field char>"⟩

/-- A field without quotes. -/
def plainField : Parser String :=
  manyChars plainChar

/-- A field. -/
def field : Parser String :=
  quotedField.orElse plainField

/-- The fields of a line. -/
def row : Parser (List String) :=
  sepBy1 field (char ',')

/-- The rows of a text in which every line has an end. -/
def table : Parser (List (List String)) :=
  (endBy row endOfLine).followedBy endOfInput

/-! ## Reading -/

/-- A text with an end at its last line. -/
def terminated (text : String) : String :=
  if text.isEmpty || text.endsWith "\n" then text else text ++ "\n"

/-- The rows of a text, or why it is no table. -/
def read (text : String) : Run (Except ParseError (List (List String))) := do
  let c := Cursor.plain (.ofValue (.str (terminated text)))
  return (← table.run (.sufficient 0 c false) c).toExcept

/-! ## Reporting -/

/-- A text with every line break written as a line feed. -/
def unifyLineBreaks : List Char → List Char
  | [] => []
  | '\r' :: '\n' :: cs => '\n' :: unifyLineBreaks cs
  | c :: cs => (if c = '\r' then '\n' else c) :: unifyLineBreaks cs

/-- A row as a line, with its fields in quotes. -/
def rowText (fields : List String) : String :=
  Value.bracketed "[" (fields.map Text.Quoted.text) "]"

/-- The rows of a text file, one a line, or why it is no table. -/
def report (contents : String) : Report :=
  match (read (String.ofList (unifyLineBreaks contents.toList))).ending with
  | .done (.ok rows) => .ofLines (rows.map rowText)
  | .done (.error e) => .failure e.messageStack
  | .raised _ | .exhausted => .aborted

end Csv

end ParserCombinators
