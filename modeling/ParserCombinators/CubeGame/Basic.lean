import ParserCombinators.Parser.Character

/-!
# Cube games

A game is a line such as `Game 1: 3 blue, 4 red; 1 red, 2 green`: a number, and cubes of three
colours drawn from a bag. A game is possible with a given bag if no draw shows more cubes of a
colour than the bag holds.

## Main definitions

* `Colour`, `Cube`, `Game` — what a line says.
* `Game.isPossible` — whether a game can be played with the bag of `limit`.
* `CubeGame.games` — the parser of a text.
* `CubeGame.read`, `CubeGame.report` — the games of a text, and the sum of the numbers of the
  possible ones as a command prints it.
-/

set_option autoImplicit false

namespace ParserCombinators

namespace CubeGame

/-! ## Games -/

/-- The colour of a cube. -/
inductive Colour where
  /-- Red. -/
  | red
  /-- Green. -/
  | green
  /-- Blue. -/
  | blue
  deriving DecidableEq, Repr, Inhabited

/-- The name of a colour. -/
def Colour.name : Colour → String
  | .red => "red"
  | .green => "green"
  | .blue => "blue"

/-- Some cubes of one colour. -/
structure Cube where
  /-- How many cubes. -/
  count : Int
  /-- Their colour. -/
  colour : Colour
  deriving DecidableEq, Repr

/-- A numbered game. -/
structure Game where
  /-- The number of the game. -/
  number : Int
  /-- The cubes that were shown, in order. -/
  cubes : List Cube
  deriving DecidableEq, Repr

/-- How many cubes of a colour the bag holds. -/
def limit : Colour → Int
  | .red => 12
  | .green => 13
  | .blue => 14

/-- Whether no draw shows more cubes of a colour than the bag holds. -/
def Game.isPossible (g : Game) : Bool :=
  g.cubes.all fun cube => cube.count ≤ limit cube.colour

/-- The sum of the numbers of the games that are possible. -/
def possibleSum (games : List Game) : Int :=
  (games.filter Game.isPossible).foldl (fun total game => total + game.number) 0

/-! ## The grammar -/

open ParserCombinators.Parser

/-- The name of a colour. -/
def colour : Parser Colour :=
  choice ([Colour.red, .green, .blue].map fun colour =>
    (literal (.str colour.name)).map fun _ => colour)

/-- A number, one blank, and a colour. -/
def cube : Parser Cube :=
  ((natural.followedBy space).pairWith colour).map fun (count, colour) => ⟨count, colour⟩

/-- A comma or semicolon and the blanks after it. -/
def separator : Parser Value :=
  ((char ',').orElse (char ';')).followedBy spaces

/-- The number of a game. -/
def number : Parser Int :=
  (literal (.str "Game ")).andThen natural

/-- The cubes of a game. -/
def cubes : Parser (List Cube) :=
  (literal (.str ": ")).andThen (sepBy1 cube separator)

/-- A game. Neither side is joined itself, so to join the two is to pair their values
(`Grammar.toParser_both_eq_pairWith`). -/
def game : Parser Game :=
  (number.pairWith cubes).map fun (number, cubes) => ⟨number, cubes⟩

/-- The games of a text, one a line. -/
def games : Parser (List Game) :=
  (sepEndBy1 game newline).followedBy endOfInput

/-! ## Reading and reporting -/

/-- The games of a text, or why it is no list of games. -/
def read (text : String) : Run (Except ParseError (List Game)) := do
  let c := Cursor.plain (.ofValue (.str text))
  return (← games.run (.sufficient 0 c false) c).toExcept

/-- The sum of the numbers of the possible games of a text, or why it is no list of games. -/
def report (text : String) : Report :=
  match (read text).ending with
  | .done (.ok games) => .ofLines [toString (possibleSum games)]
  | .done (.error e) => .failure e.messageStack
  | .raised _ | .exhausted => .aborted

end CubeGame

end ParserCombinators
