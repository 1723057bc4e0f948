import Mathlib.Data.List.OfFn
import ParserCombinators.Proofs.Grammar.Rewrite
import ParserCombinators.Proofs.Grammar.Within
import ParserCombinators.Proofs.Parser.Correspondence

/-!
# Grammars correspond to what they are rewritten into

Whatever a grammar is put together from, and whatever its callbacks and references are, its runs
from cursors that belong together end alike, with equal values or errors that belong together. The
same holds of a grammar and the grammar that it is rewritten into, if the rewriting keeps single
grammars so. The one condition is on the errors with which the grammar itself fails: each must
belong together with itself.

## Main definitions

* `Correspondence.Admits` — the condition on a single grammar.
* `Correspondence.Keeps` — the condition on a rewriting.

## Main results

* `Grammar.corresponds_rewrite` — one level of references: by induction on the grammar.
* `Naming.corresponds_rewrite` — all levels: by induction on their number.
* `Grammar.corresponds_rewrite_parserUnder` — a grammar corresponds to what it is rewritten into.
* `Grammar.corresponds_parserUnder` — a grammar corresponds to itself.
-/

set_option autoImplicit false

namespace ParserCombinators

variable {κ : Correspondence} {f : Grammar → Grammar} {naming : Naming} {g : Grammar}

/-- If the grammar is one that fails with an error, the error belongs together with itself. -/
def Correspondence.Admits (κ : Correspondence) : Grammar → Prop
  | .fail e => κ.errors e e
  | _ => True

/-- If every error belongs together with itself, all grammars are admitted. -/
lemma Correspondence.everywhere_admits (h : ∀ e, κ.errors e e) :
    g.Everywhere naming κ.Admits := by
  intro q _
  cases q with
  | fail e => exact h e
  | _ => trivial

/-- The condition on a single grammar, if the names in it stand for parsers: it is admitted, and a
reference in it is to parsers that correspond. -/
def Correspondence.AdmitsUnder (κ : Correspondence) (deref deref' : String → Parser Value)
    (q : Grammar) : Prop :=
  κ.Admits q ∧ ∀ name, q = .reference name → (deref name).Corresponds κ Eq (deref' name)

/-- The condition on a rewriting: what corresponds to a grammar also does so to what the grammar is
replaced by, and the replacement is taken apart by `Grammar.both` exactly if the grammar is. -/
structure Correspondence.Keeps (κ : Correspondence) (f : Grammar → Grammar) : Prop where
  /-- The replacement is joined exactly if the grammar is. -/
  isJoined_eq (q : Grammar) : (f q).isJoined = q.isJoined
  /-- What corresponds to the grammar corresponds to the replacement. -/
  corresponds {deref : String → Parser Value} {p : Parser Value} {q : Grammar} :
    p.Corresponds κ Eq (q.toParser deref) → p.Corresponds κ Eq ((f q).toParser deref)

/-- A rewriting that changes nothing. -/
lemma Correspondence.keeps_id : κ.Keeps id where
  isJoined_eq _ := rfl
  corresponds h := h

namespace Parser

/-- Values that are equal one by one are collected into equal values. -/
private lemma Corresponds.mapCollected {p q : Parser (List Value)}
    (h : p.Corresponds κ (List.Forall₂ Eq) q) (f : List Value → Value) :
    (p.map f).Corresponds κ Eq (q.map f) := by
  refine h.map fun items items' equal => ?_
  rw [List.forall₂_eq_eq_eq] at equal
  rw [equal]

end Parser

namespace Collector

variable {p q : Parser Value}

/-- Whatever a repetition collects its values into, it corresponds if its rounds do. -/
lemma corresponds_many (into : Collector) (h : p.Corresponds κ Eq q) :
    (into.many p).Corresponds κ Eq (into.many q) := by
  cases into with
  | list => exact h.many.mapCollected _
  | deque => exact h.many.mapCollected _
  | counter =>
    exact (h.manyInto (A := Eq) rfl fun _ _ _ _ same _ => congrArg (· + 1) same).map
      fun _ _ => congrArg _
  | nothing => exact h.skipMany.map fun _ _ _ => rfl
  | own empty push =>
    refine h.manyBy (Run.alike_refl _) ?_
    rintro collected _ v _ rfl rfl
    exact Run.alike_refl _

/-- Whatever a repetition collects its values into, it corresponds if its rounds do. -/
lemma corresponds_many1 (into : Collector) (h : p.Corresponds κ Eq q) :
    (into.many1 p).Corresponds κ Eq (into.many1 q) := by
  cases into with
  | list => exact h.many1.mapCollected _
  | deque => exact h.many1.mapCollected _
  | counter =>
    exact (h.many1Into (A := Eq) rfl fun _ _ _ _ same _ => congrArg (· + 1) same).map
      fun _ _ => congrArg _
  | nothing => exact h.skipMany1.map fun _ _ _ => rfl
  | own empty push =>
    refine h.many1By ?_ ?_
    · rintro v _ rfl
      exact Run.alike_refl _
    · rintro collected _ v _ rfl rfl
      exact Run.alike_refl _

end Collector

/-- A grammar corresponds to what it is rewritten into if its names stand for parsers that
correspond and its failures belong together with themselves.

**Proof sketch.** Induction on the grammar, with one case for each way of putting a grammar
together: the grammar put together from rewritten parts corresponds by the rule of its combinator,
and what that is replaced by does so because the rewriting keeps it. The grammars that a callback of
`bind` returns are parts of it, too, and the callback is given the same value in both runs. -/
lemma Grammar.corresponds_rewrite {deref deref' : String → Parser Value} (keeps : κ.Keeps f)
    (g : Grammar) (h : g.Everywhere naming (κ.AdmitsUnder deref deref')) :
    (g.toParser deref).Corresponds κ Eq ((g.rewrite f).toParser deref') := by
  induction g with
  | raise fault => exact keeps.corresponds (Parser.corresponds_raise fault)
  | succeed v => exact keeps.corresponds (Parser.corresponds_succeed rfl)
  | fail e => exact keeps.corresponds (Parser.corresponds_fail h.self.1)
  | endOfInput => exact keeps.corresponds (Parser.corresponds_endOfInput.map fun _ _ _ => rfl)
  | token test expected => exact keeps.corresponds (Parser.corresponds_token test expected)
  | literal expected => exact keeps.corresponds (Parser.corresponds_literal expected)
  | andThen p q hp hq =>
    exact keeps.corresponds ((hp (h.part (.inl rfl))).andThen (hq (h.part (.inr rfl))))
  | followedBy p q hp hq =>
    exact keeps.corresponds ((hp (h.part (.inl rfl))).followedBy (hq (h.part (.inr rfl))))
  | pairWith p q hp hq =>
    refine keeps.corresponds (((hp (h.part (.inl rfl))).pairWith (hq (h.part (.inr rfl)))).map ?_)
    rintro ⟨a, b⟩ ⟨_, _⟩ ⟨rfl, rfl⟩
    rfl
  | both p q hp hq =>
    refine keeps.corresponds (((hp (h.part (.inl rfl))).pairWith (hq (h.part (.inr rfl)))).map ?_)
    rintro ⟨a, b⟩ ⟨_, _⟩ ⟨rfl, rfl⟩
    simp only [isJoined_rewrite keeps.isJoined_eq]
  | sequence n parts ih =>
    refine keeps.corresponds ((Parser.corresponds_sequence (V := Eq) ?_).mapCollected _)
    rw [List.forall₂_iff_get]
    refine ⟨by simp, fun i _ _ => ?_⟩
    simp only [List.get_eq_getElem, List.getElem_ofFn]
    exact ih _ (h.part ⟨_, rfl⟩)
  | bind p next hp hnext =>
    refine keeps.corresponds ((hp (h.part (.inl rfl))).bind ?_)
    rintro v _ rfl
    exact hnext v (h.part (.inr ⟨v, rfl⟩))
  | satisfying p test hp => exact keeps.corresponds ((hp (h.part rfl)).satisfying test)
  | transform p change hp => exact keeps.corresponds ((hp (h.part rfl)).transform change)
  | orElse p q hp hq =>
    exact keeps.corresponds ((hp (h.part (.inl rfl))).orElse (hq (h.part (.inr rfl))))
  | attempt p hp => exact keeps.corresponds (hp (h.part rfl)).attempt
  | lookAhead p hp => exact keeps.corresponds (hp (h.part rfl)).lookAhead
  | notFollowedBy p hp =>
    exact keeps.corresponds (((hp (h.part rfl)).notFollowedBy _).map fun _ _ _ => rfl)
  | withContext p text hp => exact keeps.corresponds ((hp (h.part rfl)).withContext text)
  | withMessage p text hp => exact keeps.corresponds ((hp (h.part rfl)).withMessage text)
  | delayed p hp => exact keeps.corresponds (q := .delayed _) (hp (h.part rfl))
  | many into p hp => exact keeps.corresponds (into.corresponds_many (hp (h.part rfl)))
  | many1 into p hp => exact keeps.corresponds (into.corresponds_many1 (hp (h.part rfl)))
  | count n p hp => exact keeps.corresponds (((hp (h.part rfl)).count n).mapCollected _)
  | sepBy1 p sep hp hsep =>
    exact keeps.corresponds
      (((hp (h.part (.inl rfl))).sepBy1 (hsep (h.part (.inr rfl)))).mapCollected _)
  | sepEndBy1 p sep hp hsep =>
    exact keeps.corresponds
      (((hp (h.part (.inl rfl))).sepEndBy1 (hsep (h.part (.inr rfl)))).mapCollected _)
  | manyTill p stop hp hstop =>
    exact keeps.corresponds
      (((hp (h.part (.inl rfl))).manyTill (hstop (h.part (.inr rfl)))).mapCollected _)
  | many1Till p stop hp hstop =>
    exact keeps.corresponds
      (((hp (h.part (.inl rfl))).many1Till (hstop (h.part (.inr rfl)))).mapCollected _)
  | chainl1By apply p op hp hop =>
    exact keeps.corresponds ((hp (h.part (.inl rfl))).chainl1 apply (hop (h.part (.inr rfl))))
  | chainr1By apply p op hp hop =>
    exact keeps.corresponds ((hp (h.part (.inl rfl))).chainr1 apply (hop (h.part (.inr rfl))))
  | trace label =>
    exact keeps.corresponds ((Parser.corresponds_trace label).map fun _ _ _ => rfl)
  | traced label p hp => exact keeps.corresponds ((hp (h.part rfl)).traced label)
  | reference name => exact keeps.corresponds (h.self.2 name rfl)

/-- If the parsers of names correspond wherever the names refer to admitted grammars only, an
admitted grammar is also admitted with these parsers for its names. -/
lemma Correspondence.admitsUnder_of_admits {deref deref' : String → Parser Value}
    (names : ∀ name, (Grammar.reference name).Everywhere naming κ.Admits →
      (deref name).Corresponds κ Eq (deref' name))
    (h : g.Everywhere naming κ.Admits) : g.Everywhere naming (κ.AdmitsUnder deref deref') := by
  intro q inside
  refine ⟨h q inside, ?_⟩
  rintro name rfl
  exact names name (h.within inside)

/-- The parser of a name corresponds to that of the rewritten name, however deep its references are
nested. -/
lemma Naming.corresponds_rewrite (keeps : κ.Keeps f) (depth : Nat) (name : String)
    (h : (Grammar.reference name).Everywhere naming κ.Admits) :
    (naming.parserOf depth name).Corresponds κ Eq ((naming.rewrite f).parserOf depth name) := by
  induction depth generalizing name with
  | zero => exact fun _ _ _ _ _ _ => Run.alike_outOfFuel
  | succ depth ih =>
    intro s t c d settings cursors
    simp only [parserOf, Naming.rewrite]
    cases there : naming name with
    | some g =>
      have admitted := Correspondence.admitsUnder_of_admits ih (h.named there)
      exact g.corresponds_rewrite keeps admitted s t c d settings cursors
    | none => exact Run.alike_raise _

/-- **A grammar corresponds to what it is rewritten into**, whatever its names stand for. -/
lemma Grammar.corresponds_rewrite_parserUnder (keeps : κ.Keeps f)
    (h : g.Everywhere naming κ.Admits) :
    (g.parserUnder naming).Corresponds κ Eq ((g.rewrite f).parserUnder (naming.rewrite f)) := by
  intro s t c d settings cursors
  have admitted :=
    Correspondence.admitsUnder_of_admits (Naming.corresponds_rewrite keeps s.fuel) h
  simp only [parserUnder, ← κ.fuel_eq settings]
  exact g.corresponds_rewrite keeps admitted s t c d settings cursors

/-- **A grammar corresponds to itself**, whatever its names stand for. -/
lemma Grammar.corresponds_parserUnder (h : g.Everywhere naming κ.Admits) :
    (g.parserUnder naming).Corresponds κ Eq (g.parserUnder naming) := by
  simpa using corresponds_rewrite_parserUnder Correspondence.keeps_id h

end ParserCombinators
