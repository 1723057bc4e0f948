import Mathlib.Logic.Relation
import Mathlib.Tactic.Common
import ParserCombinators.Parser.Character
import ParserCombinators.Proofs.Parser.Steady
import ParserCombinators.Proofs.Repetition.Family
import ParserCombinators.Proofs.Rounds

/-!
# Which loops end

Every repetition of steady parsers ends, for a round that succeeds without moving is its last one.
The chains have no such check. A chain of steady parsers ends if all its rounds move, and it does
not end once it is at a cursor where a round succeeds and stays.

## Main definitions

* `Parser.under` — a parser with its own settings, whatever those of the loop around it.

## Main results

* `Repetition.steadyAt` — a repetition of steady parsers returns a reply.
* `Parser.meets_chainl1`, `Parser.meets_chainr1` — a chain of which all rounds move ends.
* `Parser.chainl1_exhausted`, `Parser.chainr1_exhausted` — a chain with a round that stays does
  not.
* `loops_end` — all of this with the number of rounds.
-/

set_option autoImplicit false

namespace ParserCombinators

open Relation (ReflTransGen)

/-! ## Repetitions -/

namespace Parser

variable {α β : Type} {p : Parser α} {q : Parser β} {s : Settings} {c : Cursor}

/-- A repetition ends, with fuel for one round more than symbols are left. -/
lemma SteadyAt.manyInto (hp : p.Steady s c.input) (enough : c.remaining < s.fuel) (empty : β)
    (push : β → α → β) : (manyInto empty push p).SteadyAt s c :=
  hp.manyFrom push empty (Cursor.Precedes.refl c) enough

/-- A repetition after a first item ends. -/
lemma SteadyAt.many1Into (hp : p.Steady s c.input) (enough : c.remaining < s.fuel) (empty : β)
    (push : β → α → β) : (many1Into empty push p).SteadyAt s c := by
  simp only [SteadyAt, Parser.many1Into, Run.meets_bind]
  refine (hp c rfl).mono ?_ fun _ h => h
  intro reply before
  cases reply with
  | ok a next =>
    exact hp.manyFrom push (push empty a) before (Nat.lt_of_le_of_lt before.remaining_le enough)
  | error next e => exact before

/-- A repetition into a list ends. -/
lemma SteadyAt.many (hp : p.Steady s c.input) (enough : c.remaining < s.fuel) :
    (many p).SteadyAt s c :=
  (SteadyAt.manyInto hp enough _ _).map _

/-- A repetition into a list ends after a first item. -/
lemma SteadyAt.many1 (hp : p.Steady s c.input) (enough : c.remaining < s.fuel) :
    (many1 p).SteadyAt s c :=
  (SteadyAt.many1Into hp enough _ _).map _

/-- Items with separators between them come to an end. -/
lemma SteadyAt.sepBy1 (hp : p.Steady s c.input) (hq : q.Steady s c.input)
    (enough : c.remaining < s.fuel) : (sepBy1 p q).SteadyAt s c := by
  rw [sepBy1_eq_bind]
  refine (hp c rfl).bind fun a d before => SteadyAt.map (SteadyAt.many ?_ ?_) _
  · exact (hq.andThen hp).onward before
  · exact Nat.lt_of_le_of_lt before.remaining_le enough

/-- So do items with separators between them, and possibly one after the last. -/
lemma SteadyAt.sepEndBy1 (hp : p.Steady s c.input) (hq : q.Steady s c.input)
    (enough : c.remaining < s.fuel) : (sepEndBy1 p q).SteadyAt s c := by
  simp only [SteadyAt, Parser.sepEndBy1, Run.meets_bind]
  refine (hp c rfl).mono ?_ fun _ h => h
  intro reply before
  cases reply with
  | ok a next =>
    exact hp.sepEndByFrom hq #[a] before (Nat.lt_of_le_of_lt before.remaining_le enough)
  | error next e => exact before

/-- So do items up to an end. -/
lemma SteadyAt.manyTill (hp : p.Steady s c.input) (hq : q.Steady s c.input)
    (enough : c.remaining < s.fuel) : (manyTill p q).SteadyAt s c :=
  hp.tillFrom hq #[] (Cursor.Precedes.refl c) enough

/-- So do items up to an end, after a first one. -/
lemma SteadyAt.many1Till (hp : p.Steady s c.input) (hq : q.Steady s c.input)
    (enough : c.remaining < s.fuel) : (many1Till p q).SteadyAt s c := by
  simp only [SteadyAt, Parser.many1Till, Run.meets_bind]
  refine (hp c rfl).mono ?_ fun _ h => h
  intro reply before
  cases reply with
  | ok a next =>
    exact hp.tillFrom hq #[a] before (Nat.lt_of_le_of_lt before.remaining_le enough)
  | error next e => exact before

end Parser

/-- A repetition of steady parsers is itself steady wherever there is fuel for one round more than
there are symbols left. -/
lemma Repetition.steadyAt {α β : Type} {p : Parser α} {q : Parser β} {s : Settings} {c : Cursor}
    (k : Repetition) (hp : p.Steady s c.input) (hq : q.Steady s c.input)
    (enough : c.remaining < s.fuel) : (k.parser p q).SteadyAt s c := by
  cases k with
  | many => exact .many hp enough
  | many1 => exact .many1 hp enough
  | skipMany => exact .manyInto hp enough () fun _ _ => ()
  | skipMany1 => exact .many1Into hp enough () fun _ _ => ()
  | endBy => exact .many (hp.followedBy hq) enough
  | endBy1 => exact .many1 (hp.followedBy hq) enough
  | sepBy => exact (Parser.SteadyAt.sepBy1 hp hq enough).orElse (Parser.steadyAt_succeed [])
  | sepBy1 => exact .sepBy1 hp hq enough
  | sepEndBy => exact (Parser.SteadyAt.sepEndBy1 hp hq enough).orElse (Parser.steadyAt_succeed [])
  | sepEndBy1 => exact .sepEndBy1 hp hq enough
  | manyTill => exact .manyTill hp hq enough
  | many1Till => exact .many1Till hp hq enough

/-! ## Chains that move -/

namespace Parser

variable {α ο : Type} {apply : ο → α → α → Except Fault α} {p : Parser α} {op : Parser ο}
  {s : Settings} {c b : Cursor}

/-- A fault that an operator which can be read raises for some operands. -/
def RaisedBy (apply : ο → α → α → Except Fault α) (op : Parser ο) (s : Settings)
    (fault : Fault) : Prop :=
  ∃ d f d' x y, op.Gets s d f d' ∧ apply f x y = .error fault

/-- Every round of a chain that begins at `b` moves: an operator and an operand after it. -/
def RoundsMove (p : Parser α) (op : Parser ο) (s : Settings) (b : Cursor) : Prop :=
  ∀ m d, ReflTransGen ((op.andThen p).Steps s) b m → (op.andThen p).Steps s m d →
    d.offset ≠ m.offset

/-- An operator and an operand after it are one step of a chain. -/
lemma Gets.step {d m e : Cursor} {f : ο} {a : α} (operator : op.Gets s d f m)
    (operand : p.Gets s m a e) : (op.andThen p).Steps s d e :=
  Steps.andThen ⟨f, operator⟩ ⟨a, operand⟩

/-- All rounds of a chain move if its operator is a single symbol. -/
lemma roundsMove_token {test : Value → Except Fault Bool} (expected : Value) (hp : p.Onward) :
    RoundsMove p (token test expected) s b := by
  rintro m d - ⟨a, got⟩
  obtain ⟨m', operator, operand⟩ := (gets_andThen_iff _ _ _).1 got
  have after : m'.Reaches d := (Run.meets_of_ending_eq operand).1 (hp s m')
  have consumed := offset_lt_of_steps_token operator
  have onward := after.offset_le
  omega

/-- A chain from the left of which all rounds move ends, with a reply or with a fault that an
operator raised. -/
lemma meets_chainlFrom (hp : p.Steady s b.input) (ho : op.Steady s b.input)
    (moves : RoundsMove p op s b) (a : α) (enough : b.remaining < s.fuel) :
    ((chainlFrom apply p op a).run s b).Meets (fun _ => True) (RaisedBy apply op s) False := by
  -- The path to the cursor of a round is kept, for `moves` speaks of rounds that are reached.
  refine meets_iterate_of_remaining (J := fun d _ => b.Precedes d ∧
    ReflTransGen ((op.andThen p).Steps s) b d) (fun d folded inv => ?_)
    ⟨Cursor.Precedes.refl b, .refl⟩ enough
  obtain ⟨before, path⟩ := inv
  rw [meets_chainlRound]
  refine (ho d before.input_eq).along.mono ?_ fun _ h => h.elim
  rintro (⟨f, m⟩ | ⟨m, e⟩) ⟨after, operator⟩
  · change (p.run s m).Meets _ _ _
    refine (hp m (before.trans after).input_eq).along.mono ?_ fun _ h => h.elim
    rintro (⟨x, next⟩ | ⟨next, e⟩) ⟨after', operand⟩
    · have step : (op.andThen p).Steps s d next := Gets.step operator operand
      exact ⟨fun _ _ => ⟨⟨(before.trans after).trans after', path.tail step⟩,
        (after.trans after').remaining_lt (moves d next path step)⟩,
        fun fault raised => ⟨d, f, m, folded, x, operator, raised⟩⟩
    · trivial
  · dsimp only
    split <;> trivial

/-- A chain from the right of which all rounds move reads to its end, and all it keeps are
operators that can be read. -/
lemma meets_chainrRest (hp : p.Steady s b.input) (ho : op.Steady s b.input)
    (moves : RoundsMove p op s b) (enough : b.remaining < s.fuel) :
    ((chainrRest p op).run s b).Meets (fun
      | .ok scanned _ => ∀ entry ∈ scanned, ∃ d d', op.Gets s d entry.1 d'
      | .error _ _ => True) (fun _ => False) False := by
  refine meets_iterate_of_remaining (J := fun d scanned => b.Precedes d ∧
    ReflTransGen ((op.andThen p).Steps s) b d ∧
    ∀ entry ∈ scanned.toList, ∃ d d', op.Gets s d entry.1 d') (fun d scanned inv => ?_)
    ⟨Cursor.Precedes.refl b, .refl, by simp⟩ enough
  obtain ⟨before, path, read⟩ := inv
  rw [meets_chainrRound]
  refine (ho d before.input_eq).along.mono ?_ fun _ h => h
  rintro (⟨f, m⟩ | ⟨m, e⟩) ⟨after, operator⟩
  · change (p.run s m).Meets _ _ _
    refine (hp m (before.trans after).input_eq).along.mono ?_ fun _ h => h
    rintro (⟨x, next⟩ | ⟨next, e⟩) ⟨after', operand⟩
    · have step : (op.andThen p).Steps s d next := Gets.step operator operand
      refine ⟨⟨(before.trans after).trans after', path.tail step, fun entry mem => ?_⟩,
        (after.trans after').remaining_lt (moves d next path step)⟩
      rcases List.mem_append.1 (Array.toList_push ▸ mem) with mem | mem
      · exact read entry mem
      · obtain rfl := List.mem_singleton.1 mem
        exact ⟨d, m, operator⟩
    · trivial
  · dsimp only
    split
    · exact read
    · trivial

/-- A chain from the left ends if all rounds after its first operand move. -/
lemma meets_chainl1 (hp : p.Steady s c.input) (ho : op.Steady s c.input)
    (moves : ∀ b, p.Steps s c b → RoundsMove p op s b) (enough : c.remaining < s.fuel) :
    ((chainl1 apply p op).run s c).Meets (fun _ => True) (RaisedBy apply op s) False := by
  rw [chainl1_eq_bind]
  simp only [Parser.bind, Run.meets_bind]
  refine (hp c rfl).along.mono ?_ fun _ h => h.elim
  rintro (⟨a, b⟩ | ⟨b, e⟩) ⟨before, first⟩
  · exact meets_chainlFrom (hp.onward before) (ho.onward before) (moves b ⟨a, first⟩) a
      (Nat.lt_of_le_of_lt before.remaining_le enough)
  · trivial

/-- A chain from the right ends if all rounds after its first operand move. -/
lemma meets_chainr1 (hp : p.Steady s c.input) (ho : op.Steady s c.input)
    (moves : ∀ b, p.Steps s c b → RoundsMove p op s b) (enough : c.remaining < s.fuel) :
    ((chainr1 apply p op).run s c).Meets (fun _ => True) (RaisedBy apply op s) False := by
  rw [chainr1_eq_bind]
  simp only [Parser.bind, Run.meets_bind]
  refine (hp c rfl).along.mono ?_ fun _ h => h.elim
  rintro (⟨a, b⟩ | ⟨b, e⟩) ⟨before, first⟩
  · change ((Parser.transform _ _).run s b).Meets _ _ _
    simp only [Parser.transform, Run.meets_bind]
    have rest := meets_chainrRest (hp.onward before) (ho.onward before) (moves b ⟨a, first⟩)
      (Nat.lt_of_le_of_lt before.remaining_le enough)
    refine rest.mono ?_ fun _ h => h.elim
    rintro (⟨scanned, d⟩ | ⟨d, e⟩) read
    -- Only now the operators are applied, so what one of them raises comes from what was read.
    · simp only [Run.meets_bind, Run.meets_ofExcept]
      refine ⟨fun _ _ => trivial, fun fault raised => ?_⟩
      obtain ⟨entry, mem, x, y, raised⟩ := foldRight_error raised
      obtain ⟨d, d', operator⟩ := read entry mem
      exact ⟨d, entry.1, d', x, y, operator, raised⟩
    · trivial
  · trivial

/-! ## Chains that stay -/

/-- At `m` an operator and an operand after it succeed and lead back to `m`, and rounds lead there
from `b`. -/
def StaysAfter (p : Parser α) (op : Parser ο) (s : Settings) (b : Cursor) : Prop :=
  ∃ m, ReflTransGen ((op.andThen p).Steps s) b m ∧ (op.andThen p).Steps s m m

/-- Where a chain stays, there is always another round, which stays or leads nearer to where the
chain stays. -/
lemma StaysAfter.exists_round (h : StaysAfter p op s b) :
    ∃ f m a d, op.Gets s b f m ∧ p.Gets s m a d ∧ StaysAfter p op s d := by
  obtain ⟨m, path, stay⟩ := h
  rcases ReflTransGen.cases_head path with rfl | ⟨d, first, others⟩
  · obtain ⟨a, got⟩ := stay
    obtain ⟨d', ⟨f, operator⟩, operand⟩ := (gets_andThen_iff _ _ _).1 got
    exact ⟨f, d', a, _, operator, operand, _, .refl, ⟨a, got⟩⟩
  · obtain ⟨a, got⟩ := first
    obtain ⟨d', ⟨f, operator⟩, operand⟩ := (gets_andThen_iff _ _ _).1 got
    exact ⟨f, d', a, d, operator, operand, m, others, stay⟩

/-- A chain from the left that stays spends all fuel, if no operator raises a fault. -/
lemma chainl1_exhausted {a : α} (first : p.Gets s c a b) (stays : StaysAfter p op s b)
    (returns : ∀ d f d', op.Gets s d f d' → ∀ x y, ∃ z, apply f x y = .ok z) :
    ((chainl1 apply p op).run s c).ending = .exhausted := by
  rw [chainl1_eq_bind]
  simp only [Parser.bind, Run.ending_bind_of_done first]
  refine Run.ending_iterate_eq_exhausted (I := fun state => StaysAfter p op s state.1) ?_ stays _
  rintro ⟨d, folded⟩ stays
  obtain ⟨f, m, x, e, operator, operand, stays⟩ := StaysAfter.exists_round stays
  obtain ⟨z, returned⟩ := returns d f m operator folded x
  refine ⟨(e, z), ?_, stays⟩
  rw [Run.goesOn_iff_meets, meets_chainlRound, Run.meets_of_ending_eq operator]
  refine (Run.meets_of_ending_eq operand).2 ⟨fun z' returned' => ?_, fun fault raised => ?_⟩
  · cases returned.symm.trans returned'
    rfl
  · cases returned.symm.trans raised

/-- A chain from the right that stays spends all fuel before it applies any operator. -/
lemma chainr1_exhausted {a : α} (first : p.Gets s c a b) (stays : StaysAfter p op s b) :
    ((chainr1 apply p op).run s c).ending = .exhausted := by
  have rest : ((chainrRest p op).run s b).ending = .exhausted := by
    refine Run.ending_iterate_eq_exhausted (I := fun state => StaysAfter p op s state.1) ?_ stays _
    rintro ⟨d, scanned⟩ stays
    obtain ⟨f, m, x, e, operator, operand, stays⟩ := StaysAfter.exists_round stays
    refine ⟨(e, scanned.push (f, x)), ?_, stays⟩
    rw [Run.goesOn_iff_meets, meets_chainrRound, Run.meets_of_ending_eq operator]
    exact (Run.meets_of_ending_eq operand).2 rfl
  rw [chainr1_eq_bind]
  simp only [Parser.bind, Run.ending_bind_of_done first]
  exact Run.ending_bind_congr (y := Run.outOfFuel) rest _

/-! ## With the number of rounds -/

/-- A parser that is run under settings of its own, whatever those of the loop around it. -/
def under (s : Settings) (p : Parser α) : Parser α where
  run _ c := p.run s c

end Parser

open ParserCombinators.Parser

/-- **Repetitions end, and chains end if they move.** Let the parsers in a loop return a reply at
every cursor and lead neither back nor past the end. Each of the twelve repetitions then returns a
reply, if its loop may take one round more than there are symbols left. So do the chains, up to a
fault that an operator raises, if every round in which an operator and an operand succeed moves.
But from a cursor where such a round succeeds and stays, no number of rounds is enough: the chain
from the right does not end, and neither does the chain from the left if no operator raises a fault.
The loops have settings `t`, and the parsers in them settings `s`, so the bound is on the rounds of
the loop alone.

**Proof sketch.** A round that goes on leaves less of the input, so what is left bounds the rounds
(`Parser.meets_iterate_of_remaining`). A chain that stays always has another round
(`Parser.StaysAfter.exists_round`), so it spends all fuel. -/
theorem loops_end {α β ο : Type} (apply : ο → α → α → Except Fault α) (p : Parser α)
    (q : Parser β) (op : Parser ο) (s t : Settings) (c : Cursor) :
    (p.Steady s c.input → q.Steady s c.input → c.remaining < t.fuel →
      ∀ k : Repetition, ∃ reply,
        ((k.parser (p.under s) (q.under s)).run t c).ending = .done reply) ∧
    (p.Steady s c.input → op.Steady s c.input → (∀ b, p.Steps s c b → RoundsMove p op s b) →
      c.remaining < t.fuel →
        ((chainl1 apply (p.under s) (op.under s)).run t c).Meets (fun _ => True)
          (RaisedBy apply op s) False ∧
        ((chainr1 apply (p.under s) (op.under s)).run t c).Meets (fun _ => True)
          (RaisedBy apply op s) False) ∧
    ∀ a b, p.Gets s c a b → StaysAfter p op s b →
      ((chainr1 apply (p.under s) (op.under s)).run t c).ending = .exhausted ∧
      ((∀ d f d', op.Gets s d f d' → ∀ x y, ∃ z, apply f x y = .ok z) →
        ((chainl1 apply (p.under s) (op.under s)).run t c).ending = .exhausted) := by
  refine ⟨fun item separator enough k => ?_, fun operand operator moves enough => ⟨?_, ?_⟩,
    fun a b first stays => ⟨?_, fun returns => ?_⟩⟩
  · have steady : (k.parser (p.under s) (q.under s)).SteadyAt t c :=
      k.steadyAt item separator enough
    obtain ⟨reply, ending, -⟩ := steady.exists_reply
    exact ⟨reply, ending⟩
  · exact meets_chainl1 operand operator moves enough
  · exact meets_chainr1 operand operator moves enough
  · exact chainr1_exhausted first stays
  · exact chainl1_exhausted first stays returns

/-- Letters that may be missing. With commas that may be missing, too, all repetitions end; with
plus signs between them the chains end, but not if the plus signs may be missing. -/
theorem loops_end_letters :
    let c : Cursor := .plain (.ofValue (.str "a+ab"))
    let s : Settings := ⟨0, false⟩
    let t : Settings := ⟨5, false⟩
    let letter : Parser Value := (char 'a').option .none
    let comma : Parser Value := (char ',').option .none
    let plus : Parser Value := char '+'
    let apply : Value → Value → Value → Except Fault Value := fun _ _ y => .ok y
    letter.Steady s c.input ∧ comma.Steady s c.input ∧ plus.Steady s c.input ∧
      (∀ b, letter.Steps s c b → RoundsMove letter plus s b) ∧ c.remaining < t.fuel ∧
      (∀ k : Repetition, ∃ reply,
        ((k.parser (letter.under s) (comma.under s)).run t c).ending = .done reply) ∧
      ((chainl1 apply (letter.under s) (plus.under s)).run t c).Meets (fun _ => True)
        (RaisedBy apply plus s) False ∧
      StaysAfter letter (plus.option .none) s ⟨c.input, 1, none⟩ ∧
      ((chainl1 apply (letter.under s) ((plus.option .none).under s)).run t c).ending =
        .exhausted := by
  intro c s t letter comma plus apply
  have steady (x : Char) : (char x).Steady s c.input :=
    steady_token _ (fun _ => ⟨_, rfl⟩) (by rfl)
  have moves (b) (_ : letter.Steps s c b) : RoundsMove letter plus s b :=
    roundsMove_token _ ((onward_token _ _).orElse (onward_succeed _))
  have enough : c.remaining < t.fuel := by decide
  have stays : StaysAfter letter (plus.option .none) s ⟨c.input, 1, none⟩ := by
    refine ⟨⟨c.input, 3, none⟩, .single ⟨_, rfl⟩, ⟨_, rfl⟩⟩
  have ends := loops_end apply letter comma plus s t c
  have endless := loops_end apply letter comma (plus.option .none) s t c
  exact ⟨(steady _).option _, (steady _).option _, steady _, moves, enough,
    ends.1 ((steady _).option _) ((steady _).option _) enough,
    (ends.2.1 ((steady _).option _) (steady _) moves enough).1, stays,
    (endless.2.2 _ _ rfl stays).2 fun _ _ _ _ _ y => ⟨y, rfl⟩⟩

end ParserCombinators
