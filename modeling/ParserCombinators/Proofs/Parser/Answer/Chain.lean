import Mathlib.Logic.Relation
import ParserCombinators.Proofs.Parser.Answer.Repetition

/-!
# Answers of chains and of recursive parsers

A chain that is folded from the left goes from state to state: what has been folded, and the
characters ahead. A chain that is folded from the right reads a path of operators with an operand
after each, and folds it once all is read. A recursive parser answers as its approximations do, if
these are deeper than the text is long.

## Main definitions

* `Parser.ChainStep` — a round of a chain that is folded from the left.
* `Parser.ScanRound` — a round of a chain that is folded from the right.

## Main results

* `Parser.Accepts.chainl1`, `Parser.Accepts.chainr1` — chains accept along a path of rounds.
* `Parser.chainl1_okIn`, `Parser.chainr1_okIn` — what the rounds of a chain keep holds of all that
  it accepts.
* `Parser.fix_answers` — the rule of recursive parsers.
-/

set_option autoImplicit false

namespace ParserCombinators

namespace Parser

variable {α ο : Type} {apply : ο → α → α → Except Fault α} {p : Parser α} {op : Parser ο}
  {cs mid rest : List Char} {a b : α} {F : Fault → Prop}

/-! ## Rules -/

/-- The rule of chains that are folded from the left. Every round must consume. -/
lemma Answers.chainlFrom {apply : ο → α → α → Except Fault α} {Q : Outcome α → Prop}
    {I : List Char → α → Prop} (init : I cs a)
    (round : ∀ rest b, rest <:+ cs → I rest b → op.Answers rest (fun
      | .ok f mid => p.Answers mid (fun
        | .ok x next => next ≠ rest ∧ (∀ y, apply f b x = .ok y → I next y) ∧
          ∀ fault, apply f b x = .error fault → F fault
        | .error next e => Q (.error next e)) F
      | .error next e => (next = rest → Q (.ok b rest)) ∧ (next ≠ rest → Q (.error next e))) F) :
    (chainlFrom apply p op a).Answers cs Q F := by
  intro s c hc ahead fuel
  subst ahead
  refine Answers.iterate (Cursor.Reaches.refl c) init fuel fun d b reach inv => ?_
  have suffix := reach.ahead_suffix
  have onText := reach.onText hc
  rw [meets_chainlRound]
  refine (round d.ahead b suffix inv s d onText rfl ?_).mono ?_ fun _ h => h
  · exact lt_of_le_of_lt suffix.length_le fuel
  intro reply ⟨reach', h⟩
  cases reply with
  | ok f operator =>
    have suffix' := reach'.ahead_suffix
    refine (h s operator (reach'.onText onText) rfl ?_).mono ?_ fun _ h => h
    · exact lt_of_le_of_lt (suffix'.trans suffix).length_le fuel
    intro reply ⟨reach'', h⟩
    cases reply with
    | ok x next =>
      obtain ⟨changed, value, raised⟩ := h
      exact ⟨fun y hy => ⟨reach'.trans reach'', changed, value y hy⟩, raised⟩
    | error next e => exact ⟨(reach.trans reach').trans reach'', h⟩
  | error next e =>
    refine reach'.ite_offset onText (fun same => ?_) fun changed => ?_
    · exact ⟨reach, h.1 same⟩
    · exact ⟨reach.trans reach', h.2 changed⟩

/-- The rule of chains that are folded from the right once all is read. Every round must consume. -/
lemma Answers.chainrRest {Q : Outcome (List (ο × α)) → Prop}
    {I : List Char → List (ο × α) → Prop} (init : I cs [])
    (round : ∀ rest scanned, rest <:+ cs → I rest scanned → op.Answers rest (fun
      | .ok f mid => p.Answers mid (fun
        | .ok x next => next ≠ rest ∧ I next (scanned ++ [(f, x)])
        | .error next e => Q (.error next e)) F
      | .error next e =>
        (next = rest → Q (.ok scanned rest)) ∧ (next ≠ rest → Q (.error next e))) F) :
    (chainrRest p op).Answers cs Q F := by
  intro s c hc ahead fuel
  subst ahead
  refine Answers.iterate (I := fun rest (scanned : Array (ο × α)) => I rest scanned.toList)
    (Cursor.Reaches.refl c) init fuel fun d scanned reach inv => ?_
  have suffix := reach.ahead_suffix
  have onText := reach.onText hc
  rw [meets_chainrRound]
  refine (round d.ahead scanned.toList suffix inv s d onText rfl ?_).mono ?_ fun _ h => h
  · exact lt_of_le_of_lt suffix.length_le fuel
  intro reply ⟨reach', h⟩
  cases reply with
  | ok f operator =>
    have suffix' := reach'.ahead_suffix
    refine (h s operator (reach'.onText onText) rfl ?_).mono ?_ fun _ h => h
    · exact lt_of_le_of_lt (suffix'.trans suffix).length_le fuel
    intro reply ⟨reach'', h⟩
    cases reply with
    | ok x next => exact ⟨reach'.trans reach'', h.1, by simpa using h.2⟩
    | error next e => exact ⟨(reach.trans reach').trans reach'', h⟩
  | error next e =>
    refine reach'.ite_offset onText (fun same => ?_) fun changed => ?_
    · exact ⟨reach, h.1 same⟩
    · exact ⟨reach.trans reach', h.2 changed⟩

/-! ## What chains accept -/

/-- A round of a chain that is folded from the left: an operator and an operand are accepted, and
applied to what has been folded. -/
def ChainStep (apply : ο → α → α → Except Fault α) (p : Parser α) (op : Parser ο) :
    List Char × α → List Char × α → Prop
  | (cs, a), (rest, b) => ∃ f mid x, op.Accepts cs f mid ∧ p.Accepts mid x rest ∧
      apply f a x = .ok b ∧ rest ≠ cs

/-- A chain from the left accepts along its rounds, until an operator is refused. -/
lemma Accepts.chainl1 (first : p.Accepts cs a mid)
    (path : Relation.ReflTransGen (ChainStep apply p op) (mid, a) (rest, b))
    (stop : op.Refuses rest) : (chainl1 apply p op).Accepts cs b rest := by
  rw [chainl1_eq_bind]
  refine first.bind (Answers.chainlFrom
    (I := fun now c => Relation.ReflTransGen (ChainStep apply p op) (now, c) (rest, b)) path ?_)
  intro now c _ path
  obtain same | ⟨⟨next, d⟩, step, path⟩ := path.cases_head
  · cases same
    exact stop.answers fun e => ⟨fun _ => rfl, fun moved => absurd rfl moved⟩
  · obtain ⟨f, mid, x, operator, operand, applied, moved⟩ := step
    refine operator.answers (operand.answers ⟨moved, fun y hy => ?_, fun fault hf => ?_⟩)
    · cases applied.symm.trans hy
      exact path
    · cases applied.symm.trans hf

/-- A round of a chain that is folded from the right: an operator and an operand are accepted. -/
def ScanRound (p : Parser α) (op : Parser ο) (cs : List Char) (scanned : ο × α)
    (rest : List Char) : Prop :=
  ∃ mid, op.Accepts cs scanned.1 mid ∧ p.Accepts mid scanned.2 rest ∧ rest ≠ cs

/-- A chain from the right accepts along its rounds, until an operator is refused. -/
lemma Accepts.chainr1 {scanned : List (ο × α)} (first : p.Accepts cs a mid)
    (path : Iterated (ScanRound p op) mid scanned rest)
    (folded : foldRight apply a scanned = .ok b) (stop : op.Refuses rest) :
    (chainr1 apply p op).Accepts cs b rest := by
  rw [chainr1_eq_bind]
  have scan : (chainrRest p op).Accepts mid scanned rest := by
    refine Answers.chainrRest (I := fun now done => ∃ todo,
      Iterated (ScanRound p op) now todo rest ∧ done ++ todo = scanned) ⟨scanned, path, rfl⟩ ?_
    intro now done _ form
    obtain ⟨todo, path, all⟩ := form
    cases path with
    | nil =>
      rw [List.append_nil] at all
      subst all
      exact stop.answers fun e => ⟨fun _ => rfl, fun moved => absurd rfl moved⟩
    | cons round others =>
      obtain ⟨mid, operator, operand, moved⟩ := round
      exact operator.answers (operand.answers ⟨moved, _, others, by simpa using all⟩)
  exact first.bind (scan.transform folded)

/-! ## What is kept by rounds -/

section Kept

variable {I : List Char → Prop} {J : List Char → List Char → Prop}

/-- What the first operand of a chain from the left leaves ahead, and what the rounds keep, holds of
all that the chain leaves ahead. -/
lemma chainl1_okIn (first : p.Answers cs (Outcome.OkIn fun _ rest => I rest) F)
    (operator : ∀ now, now <:+ cs → I now → op.Answers now (Outcome.OkIn fun _ mid => J now mid) F)
    (operand : ∀ now mid, now <:+ cs → I now → J now mid →
      p.Answers mid (Outcome.OkIn fun _ next => next ≠ now ∧ I next) F)
    (raised : ∀ f a b fault, apply f a b = .error fault → F fault) :
    (chainl1 apply p op).Answers cs (Outcome.OkIn fun _ rest => I rest) F := by
  rw [chainl1_eq_bind]
  refine first.bind_okIn fun a mid suffix h => Answers.chainlFrom (I := fun now _ => I now) h ?_
  intro now b suffix' inv
  have suffix := suffix'.trans suffix
  refine (operator now suffix inv).mono ?_ fun _ h => h
  intro outcome h
  cases outcome with
  | ok f mid =>
    refine (operand now mid suffix inv h).mono ?_ fun _ h => h
    intro outcome h
    cases outcome with
    | ok x next => exact ⟨h.1, fun _ _ => h.2, fun fault hf => raised f b x fault hf⟩
    | error next e => trivial
  | error next e => exact ⟨fun _ => inv, fun _ => trivial⟩

/-- What the first operand of a chain from the right leaves ahead, and what the rounds keep, holds
of all that the chain leaves ahead. -/
lemma chainr1_okIn (first : p.Answers cs (Outcome.OkIn fun _ rest => I rest) F)
    (operator : ∀ now, now <:+ cs → I now → op.Answers now (Outcome.OkIn fun _ mid => J now mid) F)
    (operand : ∀ now mid, now <:+ cs → I now → J now mid →
      p.Answers mid (Outcome.OkIn fun _ next => next ≠ now ∧ I next) F)
    (raised : ∀ f a b fault, apply f a b = .error fault → F fault) :
    (chainr1 apply p op).Answers cs (Outcome.OkIn fun _ rest => I rest) F := by
  rw [chainr1_eq_bind]
  refine first.bind_okIn fun a mid suffix h => ?_
  have scan : (chainrRest p op).Answers mid (Outcome.OkIn fun _ rest => I rest) F := by
    refine Answers.chainrRest (I := fun now _ => I now) h ?_
    intro now scanned suffix' inv
    have suffix := suffix'.trans suffix
    refine (operator now suffix inv).mono ?_ fun _ h => h
    intro outcome h
    cases outcome with
    | ok f mid =>
      refine (operand now mid suffix inv h).mono ?_ fun _ h => h
      intro outcome h
      cases outcome with
      | ok x next => exact h
      | error next e => trivial
    | error next e => exact ⟨fun _ => inv, fun _ => trivial⟩
  refine scan.transform_okIn (fun _ _ _ h _ => h) fun scanned rest fault _ hf => ?_
  obtain ⟨entry, -, x, y, hf⟩ := foldRight_error hf
  exact raised entry.1 x y fault hf

end Kept

/-! ## Recursion -/

/-- **The rule of recursive parsers.** A recursive parser answers as it does with any approximation
in the place of its references that is at least as deep as the text is long.

**Proof sketch.** The settings give more fuel than the text is long, and the fuel is the depth of
the approximation that is run. -/
lemma fix_answers {f : Parser α → Parser α} {Q : Outcome α → Prop}
    (h : ∀ n, cs.length ≤ n → (f (approximation f n)).Answers cs Q F) :
    (fix f).Answers cs Q F := by
  intro s c hc ahead fuel
  obtain ⟨n, hn⟩ := Nat.exists_eq_add_of_lt fuel
  change ((approximation f s.fuel).run s c).Meets _ _ _
  rw [hn]
  exact h (cs.length + n) (by omega) s c hc ahead fuel

end Parser

end ParserCombinators
