import ParserCombinators.Proofs.Parser.Correspondence
import ParserCombinators.Proofs.Repetition.Family

/-!
# Mapping items before or after they are collected

A repetition does with the values of its items nothing but collect them, and nothing at all with
those of separators and ends. So repetitions correspond whose items, separators and ends do: they
stop after as many rounds, and collect values that are related one by one. With the graph of a
function as the relation, it does not matter whether the function is applied to the items or to what
was collected.

## Main definitions

* `Repetition.Related`, `Repetition.mapCollected` — relations and functions of items, carried over
  to what is collected.

## Main results

* `Repetition.corresponds` — the members of the family correspond if what they repeat does.
* `Repetition.items_mapped_before_or_after` — items mapped before or after they are collected.
-/

set_option autoImplicit false

namespace ParserCombinators

namespace Repetition

variable {α β γ δ : Type} {κ : Correspondence} {V : α → γ → Prop} {W : β → δ → Prop}
  {p : Parser α} {q : Parser β} {p' : Parser γ} {q' : Parser δ} {f : α → γ}

/-! ## What is collected -/

/-- Lists of as many items, related one by one; where nothing is collected, all is related. -/
def Related (V : α → γ → Prop) : (k : Repetition) → k.Collected α → k.Collected γ → Prop
  | skipMany | skipMany1 => fun _ _ => True
  | many | many1 | endBy | endBy1 | sepBy | sepBy1 | sepEndBy | sepEndBy1 | manyTill
  | many1Till => List.Forall₂ V

/-- What is collected, with a function applied to every item. -/
def mapCollected (f : α → γ) : (k : Repetition) → k.Collected α → k.Collected γ
  | skipMany | skipMany1 => fun _ => ()
  | many | many1 | endBy | endBy1 | sepBy | sepBy1 | sepEndBy | sepEndBy1 | manyTill
  | many1Till => List.map f

/-- Lists related by the graph of a function are those it maps to each other. -/
lemma forall₂_graph (f : α → γ) :
    List.Forall₂ (fun a x => f a = x) = fun as xs => as.map f = xs := by
  funext as xs
  rw [← List.forall₂_map_left_iff, List.forall₂_eq_eq_eq]

/-- What is related by the graph of a function is what it maps to each other. -/
lemma related_graph (k : Repetition) (f : α → γ) :
    k.Related (fun a x => f a = x) = fun y z => k.mapCollected f y = z := by
  cases k with
  | skipMany | skipMany1 => exact funext fun _ => funext fun _ => (eq_true rfl).symm
  | _ => exact forall₂_graph f

/-- Where every item is mapped to itself, so is what is collected. -/
lemma mapCollected_self (k : Repetition) (x : k.Collected α) :
    k.mapCollected (fun a => a) x = x := by
  cases k with
  | skipMany | skipMany1 => rfl
  | _ => exact List.map_id' x

/-! ## Repetitions that correspond -/

/-- **Repetitions correspond** if their items do, and their separators or ends. Nothing is asked of
the values of separators and ends but that they are related at all. -/
lemma corresponds (k : Repetition) (h : p.Corresponds κ V p') (h' : q.Corresponds κ W q') :
    (k.parser p q).Corresponds κ (k.Related V) (k.parser p' q') := by
  cases k with
  | many => exact h.many
  | many1 => exact h.many1
  | skipMany => exact h.skipMany
  | skipMany1 => exact h.skipMany1
  | endBy => exact (h.followedBy h').many
  | endBy1 => exact (h.followedBy h').many1
  | sepBy => exact (h.sepBy1 h').orElse (Parser.corresponds_succeed .nil)
  | sepBy1 => exact h.sepBy1 h'
  | sepEndBy => exact (h.sepEndBy1 h').orElse (Parser.corresponds_succeed .nil)
  | sepEndBy1 => exact h.sepEndBy1 h'
  | manyTill => exact h.manyTill h'
  | many1Till => exact h.many1Till h'

end Repetition

namespace Parser

variable {α β γ δ : Type} {f : α → γ}

/-! ## Mapped values -/

/-- A parser corresponds to itself. -/
lemma corresponds_same_refl (p : Parser α) : p.Corresponds .same Eq p := by
  rintro s _ c _ rfl rfl
  refine (Run.alike_refl (p.run s c)).mono ?_
  rintro (⟨a, d⟩ | ⟨d, e⟩) _ rfl
  · exact .ok rfl rfl
  · exact .error rfl rfl

/-- A parser corresponds to the one with its values mapped. -/
lemma corresponds_same_map (p : Parser α) (f : α → γ) :
    p.Corresponds .same (fun a x => f a = x) (p.map f) := by
  have h := (corresponds_same_refl p).map (W := fun a x => f a = x) (f := fun a => a) (g := f)
    fun a b same => congrArg f same
  rwa [map_self] at h

/-- A parser that corresponds to another one by the graph of a function ends, with its values
mapped, as the other one does. -/
lemma Corresponds.ending_map {p : Parser α} {q : Parser γ}
    (h : p.Corresponds .same (fun a x => f a = x) q) (s : Settings) (c : Cursor) :
    ((p.map f).run s c).ending = (q.run s c).ending := by
  have mapped := h.map (W := Eq) (f := f) (g := fun x => x) fun a x same => same
  rw [map_self] at mapped
  exact Correspondence.ending_eq (mapped s s c c rfl rfl) (fun _ _ same => same)
    fun _ _ same => same

end Parser

namespace Repetition

variable {α β γ δ : Type}

/-- A repetition of mapped items with mapped separators or ends ends as the repetition of the items
does with what it collected mapped. -/
lemma ending_parser_map (k : Repetition) (p : Parser α) (f : α → γ) (q : Parser β) (g : β → δ)
    (s : Settings) (c : Cursor) :
    ((k.parser (p.map f) (q.map g)).run s c).ending =
      (((k.parser p q).map (k.mapCollected f)).run s c).ending := by
  have related := k.corresponds (p.corresponds_same_map f) (q.corresponds_same_map g)
  rw [related_graph] at related
  exact (related.ending_map s c).symm

/-- **Items may be mapped before or after they are collected.** For each repetition and each
function that raises nothing, the repetition of the mapped items ends like the repetition of the
items with the function applied to all that it collected: with the same value, or the same error at
the same cursor, or the same fault. So does a fixed number of items. If the values of the separators
or of the ends are mapped, nothing changes.

**Proof sketch.** A parser corresponds to the one with its values mapped, by the graph of the
function, and so do their repetitions (`Repetition.corresponds`, `Parser.Corresponds.count`): no
loop looks at a value. -/
theorem items_mapped_before_or_after (p : Parser α) (f : α → γ) (q : Parser β) (g : β → δ)
    (s : Settings) (c : Cursor) :
    (∀ k : Repetition,
      ((k.parser (p.transform fun a => .ok (f a)) q).run s c).ending =
        (((k.parser p q).transform fun x => .ok (k.mapCollected f x)).run s c).ending) ∧
    (∀ n, ((Parser.count n (p.transform fun a => .ok (f a))).run s c).ending =
      (((Parser.count n p).transform fun as => .ok (as.map f)).run s c).ending) ∧
    ∀ k : Repetition, ((k.parser p (q.transform fun b => .ok (g b))).run s c).ending =
      ((k.parser p q).run s c).ending := by
  simp only [Parser.transform_ok]
  refine ⟨fun k => ?_, fun n => ?_, fun k => ?_⟩
  · have mapped := k.ending_parser_map p f q (fun b => b) s c
    rwa [Parser.map_self] at mapped
  · have counted := (p.corresponds_same_map f).count n
    rw [forall₂_graph] at counted
    exact (counted.ending_map s c).symm
  · have mapped := k.ending_parser_map p (fun a => a) q g s c
    have unchanged : k.mapCollected (fun a : α => a) = fun x => x := funext k.mapCollected_self
    rwa [Parser.map_self, unchanged, Parser.map_self] at mapped

end Repetition

end ParserCombinators
