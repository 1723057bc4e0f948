import Mathlib.Data.List.Forall2
import ParserCombinators.Proofs.Arithmetic.Evaluation
import ParserCombinators.Proofs.Parser.Correspondence
import ParserCombinators.Proofs.Parser.Reply

/-!
# How deep expressions are nested

An expression refers to itself in parentheses. It is entered again only behind an opening
parenthesis that has been consumed, so at no moment of a run is it nested more often than such
parentheses have been consumed.

To say so of every moment, each parser of the grammar is changed into one with a watch, down to
those for single symbols. The watch of a level of nesting breaks a run off if the parser begins or
ends where fewer parentheses have been opened than the level says. The watched grammar ends as the
grammar itself does, so no run is ever broken off.

## Main definitions

* `Arithmetic.opened` — the opening parentheses before a cursor.
* `Parser.watched` — a parser that is broken off at a cursor without a property.
* `Arithmetic.nestedWith`, `Arithmetic.parserWith` — the grammar with a change to each of its
  parsers, by the level of nesting.
* `Arithmetic.watch` — the watch of a level.

## Main results

* `Arithmetic.opened_lt_of_steps_mark` — behind a parenthesis one more has been opened.
* `Arithmetic.corresponds_nestedWith` — a change that is not seen in any parser is not seen in the
  grammar, to any depth that the parentheses of the text do not reach.
* `Arithmetic.nesting_bounded` — the run ends, and the level of nesting is bounded at every moment.
-/

set_option autoImplicit false

namespace ParserCombinators

/-! ## Watches -/

namespace Parser

variable {α β : Type} {κ : Correspondence} {V : α → β → Prop} {p : Parser α} {q : Parser β}

/-- A parser that may be run only from cursors with a property, and may reply only at such;
elsewhere its run is broken off. -/
def watched (allowed : Cursor → Bool) (p : Parser α) : Parser α where
  run s c := do
    if allowed c then
      let reply ← p.run s c
      if allowed reply.cursor then pure reply else Run.outOfFuel
    else Run.outOfFuel

/-- Where all cursors that belong together are allowed, a watch does nothing. -/
lemma Corresponds.watched {allowed : Cursor → Bool}
    (within : ∀ c d, κ.cursors c d → allowed c = true) (h : p.Corresponds κ V q) :
    (p.watched allowed).Corresponds κ V q := by
  intro s t c d settings cursors
  simp only [Parser.watched, within c d cursors, if_true]
  rw [← Run.bind_pure' (q.run t d)]
  refine (h s t c d settings cursors).bind fun reply reply' replies => ?_
  rw [within _ _ replies.cursors, if_pos rfl]
  exact Run.alike_pure replies

end Parser

namespace Arithmetic

open ParserCombinators.Parser

/-! ## The grammar with each level changed -/

/-- The expression that is nested `level` times, with the change of each level; it is nested at most
`depth` times more. -/
def nestedWith (change : Nat → Change) : Nat → Nat → Parser Number
  | 0, _ => ⟨fun _ _ => Run.outOfFuel⟩
  | depth + 1, level =>
    ⟨fun s c => (expressionWith (change level) (nestedWith change depth (level + 1))).run s c⟩

/-- A whole text, with the parsers of each level changed. -/
def parserWith (change : Nat → Change) : Parser Number :=
  textWith (change 0) ⟨fun s c => (nestedWith change s.fuel 0).run s c⟩

/-- Where nothing is changed, what is nested is an approximation of the grammar. -/
lemma nestedWith_self (depth level : Nat) :
    nestedWith (fun _ _ p => p) depth level = approximation expression depth := by
  induction depth generalizing level with
  | zero => rfl
  | succ depth ih =>
    rw [nestedWith, ih]
    rfl

/-- The grammar is the one in which nothing is changed. -/
lemma parserWith_self : parserWith (fun _ _ p => p) = parser := by
  simp only [parserWith, nestedWith_self]
  rfl

/-! ## Opened parentheses -/

/-- How many opening parentheses a text has before the cursor. -/
def opened (c : Cursor) : Nat :=
  match c.input with
  | .text chars => (chars.toList.take c.offset).count '('
  | _ => 0

/-- The watch of a level of nesting: as many parentheses have been opened. -/
def watch (level : Nat) : Change :=
  fun _ p => p.watched fun c => level ≤ opened c

variable {text : String} {c d : Cursor} {s : Settings} {level : Nat}

/-- Over a text, the parentheses that have been opened are those before the cursor. -/
lemma opened_of_input_eq (input : c.input = .ofValue (.str text)) :
    opened c = (text.toList.take c.offset).count '(' := by
  simp [opened, input, Input.ofValue]

/-- No more parentheses have been opened than the text has. -/
lemma opened_le (input : c.input = .ofValue (.str text)) :
    opened c ≤ text.toList.count '(' := by
  rw [opened_of_input_eq input]
  exact (List.take_sublist _ _).count_le _

/-- On the way no parenthesis is unopened. -/
lemma opened_mono (input : c.input = .ofValue (.str text)) (reach : c.Reaches d) :
    opened c ≤ opened d := by
  rw [opened_of_input_eq input, opened_of_input_eq (reach.input_eq.trans input)]
  exact (List.take_prefix_take_left reach.offset_le).sublist.count_le _

/-- Behind a parenthesis one more has been opened. -/
lemma opened_lt_of_steps_mark (input : c.input = .ofValue (.str text))
    (stepped : (mark '(').Steps s c d) : opened c < opened d := by
  obtain ⟨v, got⟩ := stepped
  obtain ⟨m, first, u, blanks⟩ := (gets_followedBy_iff _ _ _).1 got
  obtain ⟨next, passes, rfl⟩ := gets_token first
  have within := Cursor.one_le_remaining next
  have there : text.toList[c.offset]? = some '(' := by
    rw [(Cursor.overText_of_input_eq input).head?_eq, Option.map_eq_some_iff] at next
    obtain ⟨x, ahead, rfl⟩ := next
    rw [Except.ok.injEq, Value.same_ofChar, beq_iff_eq] at passes
    rw [← passes, ← ahead, Cursor.ahead_of_input_eq input, List.head?_drop]
  have reach : (c.advance 1).Reaches d :=
    (Run.meets_of_ending_eq blanks).1 (((onward_token _ _).manyInto _ _) s _)
  have input' := (Cursor.input_advance c 1).trans input
  refine Nat.lt_of_lt_of_le ?_ (opened_mono input' reach)
  rw [opened_of_input_eq input, opened_of_input_eq input', Cursor.offset_advance_of_le within,
    List.take_add_one, there]
  simp

/-! ## Nothing is broken off -/

/-- The cursor is on the text, behind as many opening parentheses as the level says. -/
structure Behind (text : String) (level : Nat) (c : Cursor) : Prop where
  /-- The input is the text. -/
  input_eq : c.input = .ofValue (.str text)
  /-- At least so many parentheses have been opened. -/
  le_opened : level ≤ opened c

/-- On the way the cursor stays behind the parentheses of a level. -/
lemma Behind.of_reaches (h : Behind text level c) (reach : c.Reaches d) : Behind text level d where
  input_eq := reach.input_eq.trans h.input_eq
  le_opened := Nat.le_trans h.le_opened (opened_mono h.input_eq reach)

/-- Behind the parentheses of a level is behind those of a lower one. -/
lemma Behind.mono {lower : Nat} (h : Behind text level c) (le : lower ≤ level) :
    Behind text lower c where
  input_eq := h.input_eq
  le_opened := Nat.le_trans le h.le_opened

/-- No level is reached that is above the number of parentheses in the text. -/
lemma Behind.level_le (h : Behind text level c) : level ≤ text.toList.count '(' :=
  Nat.le_trans h.le_opened (opened_le h.input_eq)

/-- Two runs over the text from the same cursor, behind the parentheses of a level, with fuel for
all of the text. -/
def atLevel (text : String) (level : Nat) : Correspondence where
  settings s t := s = t ∧ text.length < s.fuel
  cursors c d := c = d ∧ Behind text level c
  errors := Eq
  fuel_eq same := congrArg Settings.fuel same.1
  tracing same _ := .inl (congrArg Settings.tracing same.1)
  view :=
    { isReadable_eq := fun same => by rw [same.1]
      get?_eq := fun same _ => by rw [same.1]
      advance := fun ⟨same, behind⟩ within =>
        ⟨by rw [same], behind.of_reaches (Cursor.reaches_advance within)⟩
      offset_eq_iff := fun same same' => by rw [same.1, same'.1] }
  reports := sameReports_eq fun _ _ same _ => by rw [same.1]

/-- Replies behind the parentheses of a level are behind those of a lower one. -/
lemma replies_mono {α : Type} {r r' : Reply α} {lower : Nat} (le : lower ≤ level)
    (h : (atLevel text level).Replies Eq r r') : (atLevel text lower).Replies Eq r r' := by
  cases h with
  | ok values together => exact .ok values ⟨together.1, together.2.mono le⟩
  | error together same => exact .error ⟨together.1, together.2.mono le⟩ same

/-- A correspondence does not see whether a parser has been changed. -/
def Unseen (κ : Correspondence) (change : Change) : Prop :=
  ∀ {α : Type} {V : α → α → Prop} {p q : Parser α}, p.Corresponds κ V q →
    (change α p).Corresponds κ V q

/-- Nothing is broken off by the watch of a level behind the parentheses of that level. -/
lemma unseen_watch (text : String) (level : Nat) : Unseen (atLevel text level) (watch level) :=
  fun h => h.watched fun _ _ together => decide_eq_true together.2.le_opened

section Kept

variable {κ : Correspondence} {change : Change} (unseen : Unseen κ change)

include unseen

/-- Blanks are passed as without the change. -/
lemma corresponds_spacesWith :
    (spacesWith change).Corresponds κ (fun _ _ => True) spaces :=
  unseen (Corresponds.skipMany (unseen (corresponds_token _ _)))

/-- A lexeme is read as without the change. -/
lemma corresponds_lexemeWith {α : Type} {p q : Parser α} (h : p.Corresponds κ Eq q) :
    (lexemeWith change p).Corresponds κ Eq (lexeme q) :=
  unseen (h.followedBy (corresponds_spacesWith unseen))

/-- A mark is read as without the change. -/
lemma corresponds_markWith (c : Char) : (markWith change c).Corresponds κ Eq (mark c) :=
  corresponds_lexemeWith unseen (unseen (corresponds_token _ _))

/-- The sign of an operation is read as without the change. -/
lemma corresponds_operationWith (c : Char) (op : Operation) :
    (operationWith change c op).Corresponds κ Eq (operation c op) :=
  unseen ((corresponds_markWith unseen c).andThen (unseen (corresponds_succeed rfl)))

/-- A number is read as without the change. -/
lemma corresponds_naturalWith : (naturalWith change).Corresponds κ Eq natural := by
  have digit : (change _ (ofClass .digit)).Corresponds κ Eq (ofClass .digit) :=
    unseen (corresponds_token _ _)
  have digits := unseen digit.many1
  rw [List.forall₂_eq_eq_eq] at digits
  exact unseen (digits.transform readDigits)

/-- An expression is read as without the change, if what is in parentheses is. -/
lemma corresponds_expressionWith {nested nested' : Parser Number}
    (parentheses : (parenthesesWith change nested).Corresponds κ Eq
      (nested'.between (mark '(') (mark ')'))) :
    (expressionWith change nested).Corresponds κ Eq (expression nested') := by
  have number := (corresponds_naturalWith unseen).map (W := Eq) (f := Number.int)
    fun _ _ => congrArg Number.int
  have atom := unseen ((corresponds_lexemeWith unseen (unseen number)).orElse parentheses)
  have operation := corresponds_operationWith unseen
  have factor := unseen (atom.chainr1 Operation.apply (operation '^' .pow))
  have term := unseen (factor.chainl1 Operation.apply
    (unseen ((operation '*' .mul).orElse (operation '/' .div))))
  exact unseen (term.chainl1 Operation.apply
    (unseen ((operation '+' .add).orElse (operation '-' .sub))))

end Kept

/-- What is nested in parentheses is one level deeper, and behind one parenthesis more. -/
lemma corresponds_parenthesesWith {change : Change} {nested nested' : Parser Number}
    (unseen : Unseen (atLevel text level) change)
    (h : nested.Corresponds (atLevel text (level + 1)) Eq nested') :
    (parenthesesWith change nested).Corresponds (atLevel text level) Eq
      (nested'.between (mark '(') (mark ')')) := by
  refine unseen (Corresponds.followedBy (unseen ?_) (corresponds_markWith unseen ')'))
  rw [andThen_eq_bind, andThen_eq_bind]
  intro s t c d settings cursors
  have opening := corresponds_markWith unseen '(' s t c d settings cursors
  refine Run.Alike.bind (opening.trans (Run.alike_along _)) ?_
  rintro _ _ ⟨_, replies, rfl, ending⟩
  cases replies with
  | error together same => exact Run.alike_pure (.error together same)
  | ok values together =>
    obtain ⟨rfl, behind⟩ := cursors
    obtain ⟨rfl, further⟩ := together
    have more := opened_lt_of_steps_mark behind.input_eq ⟨_, ending⟩
    have deeper : Behind text (level + 1) _ :=
      ⟨further.input_eq, Nat.lt_of_le_of_lt behind.le_opened more⟩
    exact (h s t _ _ settings ⟨rfl, deeper⟩).mono fun _ _ => replies_mono (Nat.le_succ level)

/-- **To any depth that the parentheses of the text do not reach, nothing is broken off.**

**Proof sketch.** Induction on the depth: if none is left, more parentheses would have been opened
than the text has. Otherwise the expression of the level corresponds if what is nested in it does,
one level deeper (`Arithmetic.corresponds_parenthesesWith`). -/
lemma corresponds_nestedWith {change : Nat → Change}
    (unseen : ∀ level, Unseen (atLevel text level) (change level)) {depth depth' : Nat}
    (level : Nat)
    (enough : text.toList.count '(' < depth + level)
    (enough' : text.toList.count '(' < depth' + level) :
    (nestedWith change depth level).Corresponds (atLevel text level) Eq
      (approximation expression depth') := by
  induction depth generalizing depth' level with
  | zero =>
    intro s t c d _ ⟨_, behind⟩
    exact absurd behind.level_le (by omega)
  | succ depth ih =>
    cases depth' with
    | zero =>
      intro s t c d _ ⟨_, behind⟩
      exact absurd behind.level_le (by omega)
    | succ depth' =>
      have inner : (nestedWith change depth (level + 1)).Corresponds (atLevel text (level + 1)) Eq
          (approximation expression depth') := ih (level + 1) (by omega) (by omega)
      exact corresponds_expressionWith (unseen level)
        (corresponds_parenthesesWith (unseen level) inner)

/-- A whole text, with what is nested in it read to a depth that its parentheses do not reach. -/
lemma corresponds_parserWith {change : Nat → Change}
    (unseen : ∀ level, Unseen (atLevel text level) (change level)) :
    (parserWith change).Corresponds (atLevel text 0) Eq parser := by
  have outermost : Corresponds (atLevel text 0) Eq
      ⟨fun s c => (nestedWith change s.fuel 0).run s c⟩ (fix expression) := by
    rintro s _ c d ⟨rfl, enough⟩ cursors
    have fewer : text.toList.count '(' < s.fuel + 0 :=
      Nat.lt_of_le_of_lt List.count_le_length enough
    exact corresponds_nestedWith unseen 0 fewer fewer s s c d ⟨rfl, enough⟩ cursors
  exact unseen 0 ((unseen 0 ((corresponds_spacesWith (unseen 0)).andThen outermost)).followedBy
    (unseen 0 corresponds_endOfInput))

/-- References that are nested less deep than the text has opening parentheses are enough. -/
lemma corresponds_approximation {n : Nat} (enough : text.toList.count '(' < n) :
    (approximation expression n).Corresponds (atLevel text 0) Eq (fix expression) := by
  rintro s _ c d ⟨rfl, more⟩ cursors
  have unseen (level : Nat) : Unseen (atLevel text level) fun _ p => p := id
  have fewer : text.toList.count '(' < s.fuel := Nat.lt_of_le_of_lt List.count_le_length more
  have alike := corresponds_nestedWith unseen 0 enough fewer
  rw [nestedWith_self] at alike
  exact alike s s c d ⟨rfl, more⟩ cursors

/-- **The run over a text comes to an end.** -/
lemma parser_ends (onText : c.OnText) (enough : c.ahead.length < s.fuel) :
    (∃ reply, (parser.run s c).ending = .done reply) ∨
      ∃ fault, Raised fault ∧ (parser.run s c).ending = .raised fault := by
  have meets := parser_okIn s c onText rfl enough
  unfold Run.Meets at meets
  split at meets
  next reply done => exact .inl ⟨reply, done⟩
  next fault raised => exact .inr ⟨fault, meets, raised⟩
  next => exact meets.elim

/-- **Expressions are nested no deeper than parentheses have been opened.** The evaluator comes to
an end for every text: with a value or an error, or with a fault that an operation raises; so does
every run from the beginning of a text with fuel for it. If at any moment of such a run, before or
after any parser of the grammar at any level of nesting, fewer parentheses had been opened than the
expression is nested, the watched run would be broken off. It ends as the run itself does. So the
expression is active at most once more than the text has opening parentheses: a depth of references
greater than their number changes nothing.

**Proof sketch.** The run ends because what stands in parentheses is shorter than the text around it
(`Arithmetic.parser_okIn`). Between parentheses nothing is unopened, and what is nested begins
behind a parenthesis that was consumed, so the watch of every level lets all parsers pass
(`Arithmetic.corresponds_nestedWith`). -/
theorem nesting_bounded (text : String) :
    (parserWith fun _ _ p => p) = parser ∧
    ((∃ result, (evaluate text).ending = .done result) ∨
      ∃ fault, Raised fault ∧ (evaluate text).ending = .raised fault) ∧
    ∀ s c, c.input = .ofValue (.str text) → c.offset = 0 → text.length < s.fuel →
      ((∃ reply, (parser.run s c).ending = .done reply) ∨
        ∃ fault, Raised fault ∧ (parser.run s c).ending = .raised fault) ∧
      ((parserWith watch).run s c).ending = (parser.run s c).ending ∧
      ∀ n, text.toList.count '(' < n →
        (((spaces.andThen (approximation expression n)).followedBy endOfInput).run s c).ending =
          (parser.run s c).ending := by
  refine ⟨parserWith_self, ?_, ?_⟩
  · obtain ⟨o, -, done⟩ | raised := parser_okIn.ending (length_lt_sufficient 1 text false)
    · exact .inl ⟨_, done⟩
    · exact .inr raised
  intro s c input start enough
  have behind : Behind text 0 c := ⟨input, Nat.zero_le _⟩
  have ending {p : Parser Number} (h : p.Corresponds (atLevel text 0) Eq parser) :
      (p.run s c).ending = (parser.run s c).ending :=
    Correspondence.ending_eq (h s s c c ⟨rfl, enough⟩ ⟨rfl, behind⟩) (fun _ _ same => same.1)
      fun _ _ same => same
  refine ⟨?_, ending (corresponds_parserWith (unseen_watch text)), fun n deep => ending ?_⟩
  · have onText := Cursor.onText_of_input_eq input (by omega)
    exact parser_ends onText (by rw [Cursor.length_ahead_of_input_eq input]; omega)
  · have blanks : spaces.Corresponds (atLevel text 0) _ spaces :=
      Corresponds.skipMany (corresponds_token _ _)
    exact (blanks.andThen (corresponds_approximation deep)).followedBy corresponds_endOfInput

/-- A number in two pairs of parentheses: three expressions are one within the other, and two would
not be enough. -/
theorem nesting_bounded_twice :
    let text := "((7))"
    let s : Settings := ⟨6, false⟩
    let c : Cursor := .plain (.ofValue (.str text))
    let done : Ending (Reply Number) := .done (.ok (.int 7) ⟨c.input, 5, none⟩)
    let toDepth (n : Nat) := (spaces.andThen (approximation expression n)).followedBy endOfInput
    (c.input = .ofValue (.str text) ∧ c.offset = 0 ∧ text.length < s.fuel ∧
        text.toList.count '(' < 3) ∧
      ((parserWith watch).run s c).ending = done ∧ ((toDepth 3).run s c).ending = done ∧
        ((toDepth 2).run s c).ending = .exhausted := by
  intro text s c done toDepth
  have enough : text.length < s.fuel := by decide
  have parentheses : text.toList.count '(' < 3 := by decide
  have read : (parser.run s c).ending = done := by
    change (parser.run ⟨6, false⟩ (.plain (.ofValue (.str "((7))")))).ending = _
    rfl
  have shallow : ((toDepth 2).run s c).ending = .exhausted := by
    change ((toDepth 2).run ⟨6, false⟩ (.plain (.ofValue (.str "((7))")))).ending = _
    rfl
  obtain ⟨-, watched, deep⟩ := (nesting_bounded text).2.2 s c rfl rfl enough
  exact ⟨⟨rfl, rfl, enough, parentheses⟩, watched.trans read, (deep 3 parentheses).trans read,
    shallow⟩

end Arithmetic

end ParserCombinators
