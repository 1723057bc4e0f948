import Mathlib.Algebra.Ring.Int.Defs
import ParserCombinators.CubeGame.Basic
import ParserCombinators.Proofs.Parser.Answer.Character

/-!
# The format of cube games

The reader accepts exactly the texts that write games, one a line, and the report is the sum of the
numbers of the possible ones.

## Main definitions

* `CubeGame.CubeForm`, `CubeGame.CubesForm`, `CubeGame.GameForm`, `CubeGame.GamesForm` — how cubes
  and games are written.
* `CubeGame.Possible` — a game that can be played with 12 red, 13 green and 14 blue cubes.

## Main results

* `CubeGame.read_iff_gamesForm` — the reader gives games exactly for the texts that write them, and
  the report on such a text is the sum of the numbers of the possible ones.
-/

set_option autoImplicit false

namespace ParserCombinators

namespace CubeGame

open ParserCombinators.Parser

/-! ## Written forms -/

/-- How cubes of one colour are written: their number in digits, one blank, and the colour. -/
def CubeForm (cube : Cube) (w : List Char) : Prop :=
  ∃ ds blank, Text.Decimal cube.count ds ∧ Text.isBlank blank = true ∧
    w = ds ++ blank :: cube.colour.name.toList

/-- How a separator is written: a comma or semicolon, and any number of blanks. -/
def SeparatorForm (w : List Char) : Prop :=
  ∃ mark blanks, (mark = ',' ∨ mark = ';') ∧ (∀ x ∈ blanks, Text.isBlank x = true) ∧
    w = mark :: blanks

/-- How cubes after a separator are written. -/
def SeparatedForm (cube : Cube) (w : List Char) : Prop :=
  ∃ sep v, SeparatorForm sep ∧ CubeForm cube v ∧ w = sep ++ v

/-- How the cubes of a game are written: at least one, with separators between them. -/
def CubesForm (cubes : List Cube) (w : List Char) : Prop :=
  ∃ cube more v ws, cubes = cube :: more ∧ CubeForm cube v ∧ List.Forall₂ SeparatedForm more ws ∧
    w = v ++ ws.flatten

/-- How a game is written: its number in digits, and its cubes. -/
def GameForm (game : Game) (w : List Char) : Prop :=
  ∃ ds v, Text.Decimal game.number ds ∧ CubesForm game.cubes v ∧
    w = "Game ".toList ++ ds ++ ": ".toList ++ v

/-- How games are written: at least one, with line feeds between them and possibly one after the
last. -/
def GamesForm (games : List Game) (w : List Char) : Prop :=
  games ≠ [] ∧ ∃ lines stop, List.Forall₂ GameForm games lines ∧ (stop = [] ∨ stop = ['\n']) ∧
    w = ['\n'].intercalate lines ++ stop

/-! ## Possible games -/

/-- No draw shows more than 12 red, 13 green or 14 blue cubes. -/
def Possible (g : Game) : Prop :=
  ∀ cube ∈ g.cubes, (cube.colour = .red → cube.count ≤ 12) ∧
    (cube.colour = .green → cube.count ≤ 13) ∧ (cube.colour = .blue → cube.count ≤ 14)

/-- Whether a game is possible can be decided cube by cube. -/
instance : DecidablePred Possible :=
  fun g => inferInstanceAs (Decidable (∀ cube ∈ g.cubes, _ ∧ _ ∧ _))

/-- The bag decides which games are possible. -/
lemma isPossible_eq (g : Game) : g.isPossible = decide (Possible g) := by
  have within : ∀ cube : Cube, cube.count ≤ limit cube.colour ↔
      (cube.colour = .red → cube.count ≤ 12) ∧ (cube.colour = .green → cube.count ≤ 13) ∧
        (cube.colour = .blue → cube.count ≤ 14) := by
    rintro ⟨count, colour⟩
    cases colour <;> simp [limit]
  rw [Bool.eq_iff_iff, decide_eq_true_eq]
  simp only [Game.isPossible, Possible, List.all_eq_true, decide_eq_true_eq, within]

/-- The numbers of the possible games are added up. -/
lemma possibleSum_eq (games : List Game) :
    possibleSum games = ((games.filter fun g => Possible g).map Game.number).sum := by
  have added : ∀ (games : List Game) (total : Int),
      games.foldl (fun total game => total + game.number) total =
        total + (games.map Game.number).sum := by
    intro games
    induction games with
    | nil => simp
    | cons g games ih =>
      intro total
      rw [List.foldl_cons, ih, List.map_cons, List.sum_cons, Int.add_assoc]
  rw [possibleSum, added, Int.zero_add]
  congr 2
  exact List.filter_congr fun g _ => isPossible_eq g

variable {cs rest w : List Char} {F : Fault → Prop}

/-! ## What is read is written -/

/-- A colour is read from its name. -/
lemma colour_okIn :
    colour.Answers cs (Outcome.OkIn fun c rest => cs = c.name.toList ++ rest) F := by
  have named : ∀ c : Colour, ((literal (.str c.name)).map fun _ => c).Answers cs
      (Outcome.OkIn fun c rest => cs = c.name.toList ++ rest) F :=
    fun c => literal_okIn.map_okIn
  exact ((named .red).orElse_okIn (named .green)).orElse_okIn (named .blue)

/-- Cubes of one colour are read from what they are written as. -/
lemma cube_okIn : cube.Answers cs (Outcome.OkIn (Reads CubeForm cs)) F := by
  have counted : (natural.followedBy space).Answers cs (Outcome.OkIn fun n rest =>
      ∃ ds blank, Text.Decimal n ds ∧ Text.isBlank blank = true ∧ cs = ds ++ blank :: rest) F := by
    refine natural_okIn.followedBy_okIn fun n mid _ h => ofClass_okIn.mono_okIn ?_
    intro _ rest found
    obtain ⟨blank, rfl, isBlank, -⟩ := found
    obtain ⟨ds, digits, rfl⟩ := h
    exact ⟨ds, blank, digits, by simpa using isBlank, rfl⟩
  refine Answers.map_okIn (counted.pairWith_okIn fun n mid _ h => colour_okIn.mono_okIn ?_)
  rintro c rest rfl
  obtain ⟨ds, blank, digits, isBlank, rfl⟩ := h
  exact ⟨_, ⟨ds, blank, digits, isBlank, rfl⟩, by simp⟩

/-- A separator is read from what it is written as. -/
lemma separator_okIn : separator.Answers cs
    (Outcome.OkIn fun _ rest => ∃ sep, SeparatorForm sep ∧ cs = sep ++ rest) F := by
  have marked : ((char ',').orElse (char ';')).Answers cs
      (Outcome.OkIn fun _ rest => ∃ mark, (mark = ',' ∨ mark = ';') ∧ cs = mark :: rest) F :=
    (char_okIn.mono_okIn fun _ _ h => ⟨',', .inl rfl, h⟩).orElse_okIn
      (char_okIn.mono_okIn fun _ _ h => ⟨';', .inr rfl, h⟩)
  refine marked.followedBy_okIn fun _ mid _ h => spaces_okIn.mono_okIn ?_
  intro _ rest found
  obtain ⟨blanks, areBlank, rfl⟩ := found
  obtain ⟨mark, isMark, rfl⟩ := h
  exact ⟨_, ⟨mark, blanks, isMark, areBlank, rfl⟩, rfl⟩

/-- The number of a game is read from its digits. -/
lemma number_okIn : number.Answers cs (Outcome.OkIn fun n rest =>
    ∃ ds, Text.Decimal n ds ∧ cs = "Game ".toList ++ ds ++ rest) F := by
  refine literal_okIn.andThen_okIn fun _ mid _ h => natural_okIn.mono_okIn ?_
  intro n rest found
  obtain ⟨ds, digits, rfl⟩ := found
  exact ⟨ds, digits, by simpa using h⟩

/-- The cubes of a game are read from what they are written as. -/
lemma cubes_okIn : cubes.Answers cs (Outcome.OkIn fun items rest =>
    ∃ v, CubesForm items v ∧ cs = ": ".toList ++ v ++ rest) F := by
  have other : ∀ rest, (separator.andThen cube).Answers rest
      (Outcome.OkIn (Reads SeparatedForm rest)) F := by
    refine fun rest => separator_okIn.andThen_okIn fun _ mid _ h => cube_okIn.mono_okIn ?_
    intro item next found
    obtain ⟨v, written, rfl⟩ := found
    obtain ⟨sep, separates, rfl⟩ := h
    exact ⟨_, ⟨sep, v, separates, written, rfl⟩, by simp⟩
  refine literal_okIn.andThen_okIn fun _ mid _ h => ?_
  refine (sepBy1_okIn cube_okIn fun rest _ => other rest).mono_okIn ?_
  intro items rest found
  obtain ⟨item, mid, more, rfl, ⟨v, first, rfl⟩, path⟩ := found
  obtain ⟨ws, others, rfl⟩ := path.forms
  exact ⟨_, ⟨item, more, v, ws, rfl, first, others, rfl⟩, by simpa using h⟩

/-- A game is read from what it is written as. -/
lemma game_okIn : game.Answers cs (Outcome.OkIn (Reads GameForm cs)) F := by
  refine Answers.map_okIn (number_okIn.pairWith_okIn fun n mid _ h => cubes_okIn.mono_okIn ?_)
  intro items rest found
  obtain ⟨v, written, rfl⟩ := found
  obtain ⟨ds, digits, rfl⟩ := h
  exact ⟨_, ⟨ds, v, digits, written, rfl⟩, by simp⟩

/-- Games are read from what they are written as, to the end of the text. -/
lemma games_okIn : games.Answers cs (Outcome.OkIn fun items _ => GamesForm items cs) F := by
  have start : game.Answers cs (Outcome.OkIn (Reads GameForm cs)) F := game_okIn
  have separator : ∀ rest, rest <:+ cs →
      newline.Answers rest (Outcome.OkIn fun _ mid => rest = '\n' :: mid) F :=
    fun rest _ => char_okIn
  have lines := sepEndBy1_okIn (R := Reads fun g w => ∃ v, GameForm g v ∧ w = ['\n'] ++ v) start
    separator fun rest mid _ h => game_okIn.mono_okIn ?_
  · refine lines.followedBy_okIn fun items mid _ h => endOfInput_okIn.mono_okIn ?_
    intro _ rest found
    obtain ⟨rfl, -⟩ := found
    obtain ⟨g, mid, more, last, rfl, ⟨w, first, rfl⟩, path, stop⟩ := h
    obtain ⟨ws, separated, rfl⟩ := path.forms
    obtain ⟨vs, others, rfl⟩ := (forms_map _).1 separated
    refine ⟨by simp, w :: vs, last, .cons first others, ?_, by simp [intercalate_cons]⟩
    exact stop.imp Eq.symm id
  · intro g rest found
    obtain ⟨w, written, rfl⟩ := found
    exact ⟨_, ⟨w, written, rfl⟩, h⟩

/-! ## What is written is read -/

/-- A colour is accepted by its name. -/
lemma colour_accepts (c : Colour) (rest : List Char) :
    colour.Accepts (c.name.toList ++ rest) c rest := by
  have named : ((literal (.str c.name)).map fun _ => c).Accepts (c.name.toList ++ rest) c rest :=
    (literal_accepts c.name rest).map _
  have other : ∀ d : Colour, ¬ d.name.toList <+: c.name.toList ++ rest →
      ((literal (.str d.name)).map fun _ => d).Refuses (c.name.toList ++ rest) :=
    fun d h => (literal_refuses h).map _
  cases c with
  | red => exact (named.orElse _).orElse _
  | green =>
    refine Accepts.orElse (Refuses.orElse ?_ named) _
    exact other .red (by simp [Colour.name])
  | blue =>
    refine Refuses.orElse ?_ named
    exact (other .red (by simp [Colour.name])).orElse (other .green (by simp [Colour.name]))

/-- Cubes of one colour are accepted as they are written. -/
lemma cube_accepts {item : Cube} (written : CubeForm item w) (rest : List Char) :
    cube.Accepts (w ++ rest) item rest := by
  obtain ⟨ds, blank, digits, isBlank, rfl⟩ := written
  have noDigit : blank.isDigit = false := Text.isDigit_of_isBlank isBlank
  rw [List.append_assoc]
  have counted : (natural.followedBy space).Accepts
      (ds ++ blank :: (item.colour.name.toList ++ rest)) item.count _ :=
    (natural_accepts digits (by simpa using noDigit)).followedBy
      (ofClass_accepts (by simpa using isBlank))
  exact (counted.pairWith (colour_accepts item.colour rest)).map _

/-- Cubes begin with a digit, so they do not begin with a blank. -/
lemma cubeForm_head {item : Cube} (written : CubeForm item w) (rest : List Char) :
    ∀ x ∈ (w ++ rest).head?, Text.isBlank x = false := by
  obtain ⟨ds, blank, digits, -, rfl⟩ := written
  obtain ⟨d, ds, rfl⟩ := List.exists_cons_of_ne_nil digits.nonempty
  have digit := digits.digits d List.mem_cons_self
  simpa using Text.isBlank_of_isDigit digit

/-- A separator is accepted as it is written, if no blank follows. -/
lemma separator_accepts (written : SeparatorForm w)
    (stop : ∀ x ∈ rest.head?, Text.isBlank x = false) :
    ∃ v, separator.Accepts (w ++ rest) v rest := by
  obtain ⟨mark, blanks, isMark, areBlank, rfl⟩ := written
  refine ⟨.ofChar mark, Accepts.followedBy ?_ (spaces_accepts areBlank stop)⟩
  obtain rfl | rfl := isMark
  · exact (char_accepts ',' _).orElse _
  · exact (char_refuses (by simp)).orElse (char_accepts ';' _)

/-- Cubes of a game are accepted as they are written. -/
lemma cubes_accepts {items : List Cube} (written : CubesForm items w)
    (stop : ∀ x ∈ rest.head?, x = '\n') :
    cubes.Accepts (": ".toList ++ (w ++ rest)) items rest := by
  obtain ⟨item, more, v, ws, rfl, first, others, rfl⟩ := written
  have path : Iterated (Round (separator.andThen cube)) (ws.flatten ++ rest) more rest := by
    refine iterated_of_forms _ (fun _ => True) others ?_ (fun _ _ _ _ => trivial) trivial
    intro item _ rest form _
    obtain ⟨sep, v, separates, written, rfl⟩ := form
    refine Accepts.round ?_ (by obtain ⟨mark, blanks, -, -, rfl⟩ := separates; simp)
    rw [List.append_assoc]
    obtain ⟨value, separated⟩ := separator_accepts separates (cubeForm_head written rest)
    exact separated.andThen (cube_accepts written rest)
  have last : (separator.andThen cube).Refuses rest := by
    have noMark : ∀ mark, mark ≠ '\n' → mark ∉ rest.head? := fun mark other h => other (stop mark h)
    refine Refuses.andThen (Refuses.followedBy ?_ _) _
    exact (char_refuses (noMark ',' (by decide))).orElse (char_refuses (noMark ';' (by decide)))
  rw [List.append_assoc]
  exact (literal_accepts ": " _).andThen (Accepts.sepBy1 (cube_accepts first _) path last)

/-- A game is accepted as it is written. -/
lemma game_accepts {g : Game} (written : GameForm g w) (stop : ∀ x ∈ rest.head?, x = '\n') :
    game.Accepts (w ++ rest) g rest := by
  obtain ⟨ds, v, digits, items, rfl⟩ := written
  have numbered : number.Accepts ("Game ".toList ++ (ds ++ (": ".toList ++ (v ++ rest)))) g.number
      (": ".toList ++ (v ++ rest)) :=
    (literal_accepts "Game " _).andThen (natural_accepts digits (by simp))
  simp only [List.append_assoc]
  exact (numbered.pairWith (cubes_accepts items stop)).map _

/-- Games are accepted as they are written, if nothing follows. -/
lemma games_accepts {items : List Game} (written : GamesForm items w) :
    games.Accepts w items [] := by
  obtain ⟨nonempty, lines, stop, written, isStop, rfl⟩ := written
  cases written with
  | nil => exact absurd rfl nonempty
  | @cons g line more lines first others =>
    rw [intercalate_cons, List.append_assoc]
    have ends : ∀ x ∈ stop.head?, x = '\n' := by
      obtain rfl | rfl := isStop <;> simp
    have separated := (forms_map (['\n'] ++ ·)).2 ⟨lines, others, rfl⟩
    have path := iterated_of_forms (SeparatedRound game newline)
      (fun rest => ∀ x ∈ rest.head?, x = '\n') separated ?_ ?_ ends
    · refine Accepts.followedBy ?_ endOfInput_accepts
      refine Accepts.sepEndBy1 (game_accepts first ?_) path ?_
      · cases lines with
        | nil => simpa using ends
        | cons v lines => simp
      · obtain rfl | rfl := isStop
        · exact .inl ⟨char_refuses (by simp), rfl⟩
        · refine .inr ⟨_, char_accepts '\n' [], Refuses.map (Refuses.pairWith ?_ _) _⟩
          exact (literal_refuses (by simp)).andThen _
    · intro g _ rest form ends
      obtain ⟨v, written, rfl⟩ := form
      refine ⟨_, _, char_accepts '\n' (v ++ rest), game_accepts written ends, fun same => ?_⟩
      exact absurd (List.self_eq_append_left.1 same) (by simp)
    · intro g _ rest form
      obtain ⟨v, written, rfl⟩ := form
      simp

/-! ## The reader -/

/-- The reader gives games exactly if the text writes them, and otherwise an error. -/
lemma read_ending (text : String) :
    (∀ items, (read text).ending = .done (.ok items) ↔ GamesForm items text.toList) ∧
      ((∃ items, GamesForm items text.toList) ∨ ∃ e, (read text).ending = .done (.error e)) :=
  ending_iff games_okIn (fun _ => games_accepts) (length_lt_sufficient 0 text false)

/-- **The reader accepts exactly its format, and the answer is right.** It gives games for a text
exactly if the text writes them, and the report then is the sum of the numbers of those games in
which no draw shows more than 12 red, 13 green or 14 blue cubes. For all other texts the reader
gives an error.

**Proof sketch.** What the parser accepts it has read from written games (`games_okIn`), and it
accepts all written games (`games_accepts`). In both cases its run comes to an end without a fault,
so it ends with an error where no games are written. -/
theorem read_iff_gamesForm :
    (∀ text items, (read text).ending = .done (.ok items) ↔ GamesForm items text.toList) ∧
      (∀ text items, GamesForm items text.toList → report text =
        .ofLines [toString ((items.filter fun g => Possible g).map Game.number).sum]) ∧
        ∀ text, (∃ items, GamesForm items text.toList) ∨
          ∃ e, (read text).ending = .done (.error e) := by
  refine ⟨fun text => (read_ending text).1, fun text items written => ?_, fun text =>
    (read_ending text).2⟩
  have done := ((read_ending text).1 items).2 written
  have answer : report text = .ofLines [toString (possibleSum items)] := by
    -- The ending gets a name first, so that nothing unfolds the run.
    delta report
    generalize (read text).ending = ending at done
    subst done
    rfl
  rw [answer, possibleSum_eq]

/-- Of two games one is possible. -/
theorem read_iff_gamesForm_two :
    let text := "Game 7: 3 red; 14 blue\nGame 08: 14 green\n"
    let games : List Game := [⟨7, [⟨3, .red⟩, ⟨14, .blue⟩]⟩, ⟨8, [⟨14, .green⟩]⟩]
    GamesForm games text.toList ∧ (read text).ending = .done (.ok games) ∧
      report text = .ofLines ["7"] := by
  intro text games
  have blank : Text.isBlank ' ' = true := by decide
  have three : CubeForm ⟨3, .red⟩ "3 red".toList :=
    ⟨['3'], ' ', ⟨by simp, by simp, rfl⟩, blank, rfl⟩
  have blue : CubeForm ⟨14, .blue⟩ "14 blue".toList :=
    ⟨['1', '4'], ' ', ⟨by simp, by simp, rfl⟩, blank, rfl⟩
  have others : SeparatedForm ⟨14, .blue⟩ "; 14 blue".toList :=
    ⟨[';', ' '], _, ⟨';', [' '], .inr rfl, by simpa using blank, rfl⟩, blue, rfl⟩
  have green : CubeForm ⟨14, .green⟩ "14 green".toList :=
    ⟨['1', '4'], ' ', ⟨by simp, by simp, rfl⟩, blank, rfl⟩
  have first : GameForm ⟨7, [⟨3, .red⟩, ⟨14, .blue⟩]⟩ "Game 7: 3 red; 14 blue".toList :=
    ⟨['7'], _, ⟨by simp, by simp, rfl⟩, ⟨_, _, _, _, rfl, three, .cons others .nil, rfl⟩, rfl⟩
  have second : GameForm ⟨8, [⟨14, .green⟩]⟩ "Game 08: 14 green".toList :=
    ⟨['0', '8'], _, ⟨by simp, by simp, rfl⟩, ⟨_, _, _, _, rfl, green, .nil, rfl⟩, rfl⟩
  have written : GamesForm games text.toList :=
    ⟨by simp [games], _, ['\n'], .cons first (.cons second .nil), .inr rfl, by decide⟩
  exact ⟨written, (read_iff_gamesForm.1 text games).2 written,
    read_iff_gamesForm.2.1 text games written⟩

end CubeGame

end ParserCombinators
