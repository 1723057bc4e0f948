import Mathlib.Data.List.OfFn
import ParserCombinators.Grammar.Character
import ParserCombinators.Grammar.Meaning
import ParserCombinators.Proofs.Parser.Reply

/-!
# Joining grammars

`Grammar.both` gives one tuple, and takes the tuple of a side apart if that side is joined itself.
So each side contributes a list of values: its items if it is joined, and its value alone if it is
not, be that a tuple or not. These lists are put together in order, which is associative, and
however grammars are parenthesised the tuple is that of one sequence.

## Main definitions

* `Parser.append`, `Parser.concat` — parsers of lists, with their lists put together.
* `Parser.GetsAll` — values that parsers give one after the other.
* `Grammar.pieces` — what a side contributes.
* `Grammar.Joins` — the ways of parenthesising grammars with `both`.
* `Grammar.flat` — the items of the tuple, from the values of the grammars that are joined.

## Main results

* `Grammar.toParser_both_eq_pairWith` — two grammars that are not joined give a pair.
* `Grammar.Joins.pieces_eq` — what a joined grammar contributes is what its parts do.
* `Grammar.both_is_one_sequence` — every way of parenthesising gives one sequence.
-/

set_option autoImplicit false

namespace ParserCombinators

namespace Parser

variable {α : Type} {p q : Parser (List α)} {s : Settings} {c d : Cursor} {e : ParseError}

/-! ## Parsers of lists -/

/-- One parser after another, with their lists put together. -/
def append (p q : Parser (List α)) : Parser (List α) :=
  p.bind fun as => q.map (as ++ ·)

/-- The parsers of a list in order, with their lists put together. -/
def concat (ps : List (Parser (List α))) : Parser (List α) :=
  ps.foldr append (succeed [])

/-- Lists are put together in order, whichever two are put together first. -/
lemma append_assoc (p q r : Parser (List α)) : (p.append q).append r = p.append (q.append r) := by
  simp only [append, bind_assoc, bind_map, map_bind, map_map, List.append_assoc]

/-- The empty list before another changes nothing. -/
lemma succeed_nil_append (p : Parser (List α)) : (succeed []).append p = p := by
  simp only [append, succeed_bind, List.nil_append, map_self]

/-- The empty list behind another changes nothing. -/
lemma append_succeed_nil (p : Parser (List α)) : p.append (succeed []) = p := by
  simp only [append, map_eq_bind, succeed_bind, List.append_nil, bind_succeed]

/-- The parsers of two lists are put together as those of both lists. -/
lemma concat_append (ps qs : List (Parser (List α))) :
    concat (ps ++ qs) = (concat ps).append (concat qs) := by
  induction ps with
  | nil => exact (succeed_nil_append _).symm
  | cons p ps ih => exact (congrArg p.append ih).trans (append_assoc p _ _).symm

/-- Lists of one value each are put together as the sequence of the values. -/
lemma concat_map_singleton (ps : List (Parser α)) :
    concat (ps.map fun p => p.map fun a => [a]) = sequence ps := by
  induction ps with
  | nil => rfl
  | cons p ps ih =>
    change (p.map fun a => [a]).append (concat _) = _
    rw [ih, append, map_bind, sequence_cons]
    rfl

/-- One list after another is what the two parsers give. -/
lemma gets_append_iff {all : List α} :
    (p.append q).Gets s c all d ↔
      ∃ as m bs, p.Gets s c as m ∧ q.Gets s m bs d ∧ all = as ++ bs := by
  rw [append, gets_bind_iff]
  constructor
  · rintro ⟨as, m, first, second⟩
    obtain ⟨bs, got, rfl⟩ := (gets_map_iff _ _ _).1 second
    exact ⟨as, m, bs, first, got, rfl⟩
  · rintro ⟨as, m, bs, first, second, rfl⟩
    exact ⟨as, m, first, (gets_map_iff _ _ _).2 ⟨bs, second, rfl⟩⟩

/-- One list after another fails as the first parser does, or as the second does after it. -/
lemma fails_append_iff :
    (p.append q).Fails s c d e ↔ p.Fails s c d e ∨ ∃ m, p.Steps s c m ∧ q.Fails s m d e := by
  rw [append, fails_bind_iff]
  simp only [fails_map_iff]
  constructor
  · rintro (failed | ⟨as, m, first, failed⟩)
    · exact .inl failed
    · exact .inr ⟨m, ⟨as, first⟩, failed⟩
  · rintro (failed | ⟨m, ⟨as, first⟩, failed⟩)
    · exact .inl failed
    · exact .inr ⟨as, m, first, failed⟩

/-- The parsers of a list give values one after the other, the first from `c` and the last at the
cursor given last. -/
inductive GetsAll (s : Settings) : List (Parser α) → Cursor → List α → Cursor → Prop
  /-- There is no parser. -/
  | nil (c : Cursor) : GetsAll s [] c [] c
  /-- The first parser gives a value, and then the others do. -/
  | cons {p : Parser α} {ps : List (Parser α)} {c m d : Cursor} {a : α} {as : List α}
      (first : p.Gets s c a m) (others : GetsAll s ps m as d) : GetsAll s (p :: ps) c (a :: as) d

/-- As many values are given as there are parsers. -/
lemma GetsAll.length_eq {ps : List (Parser α)} {as : List α} (h : GetsAll s ps c as d) :
    as.length = ps.length := by
  induction h with
  | nil c => rfl
  | cons first others ih => exact congrArg Nat.succ ih

end Parser

namespace Grammar

open ParserCombinators.Parser (GetsAll)

variable (deref : String → Parser Value) {g p q : Grammar} {ps qs : List Grammar} {s : Settings}
  {c d : Cursor} {e : ParseError}

/-! ## What is joined -/

/-- What a grammar contributes to the tuple of `both`: its items if it is joined, otherwise its
value. -/
def pieces (g : Grammar) : Parser (List Value) :=
  (g.toParser deref).map (Value.parts g.isJoined)

/-- The tuple of `both` is what the two sides contribute. -/
lemma toParser_both (p q : Grammar) :
    (p.both q).toParser deref = ((p.pieces deref).append (q.pieces deref)).map .tuple := by
  simp only [toParser, pieces, Parser.append, Parser.pairWith_eq_bind, Parser.bind_map,
    Parser.map_bind, Parser.map_map]

/-- Of two sides that are not joined themselves, the tuple is the pair of their values. -/
lemma toParser_both_eq_pairWith (left : p.isJoined = false) (right : q.isJoined = false) :
    (p.both q).toParser deref = (p.pairWith q).toParser deref := by
  simp only [toParser, left, right, Value.parts, List.cons_append, List.nil_append]

/-- What `both` contributes is what the two sides contribute. -/
lemma pieces_both (p q : Grammar) :
    (p.both q).pieces deref = (p.pieces deref).append (q.pieces deref) := by
  rw [pieces, toParser_both, Parser.map_map]
  exact Parser.map_self _

/-- The ways of parenthesising the grammars of a list with `both`. -/
inductive Joins : List Grammar → Grammar → Prop
  /-- A single grammar is taken as it is. -/
  | one (p : Grammar) : Joins [p] p
  /-- Those of a first part of the list are joined, those of the rest are, and then the two. -/
  | both {ps qs : List Grammar} {p q : Grammar} (left : Joins ps p) (right : Joins qs q) :
      Joins (ps ++ qs) (p.both q)

/-- **What a joined grammar contributes is what its parts do,** however they are parenthesised.

**Proof sketch.** Induction on the way of parenthesising. -/
lemma Joins.pieces_eq (h : Joins ps g) :
    g.pieces deref = Parser.concat (ps.map (pieces deref)) := by
  induction h with
  | one p => exact (Parser.append_succeed_nil _).symm
  | both left right ihLeft ihRight =>
    rw [pieces_both, ihLeft, ihRight, List.map_append, Parser.concat_append]

/-- The tuple of two or more joined grammars is what they contribute. -/
lemma Joins.toParser_eq (h : Joins ps g) (several : 2 ≤ ps.length) :
    g.toParser deref = (Parser.concat (ps.map (pieces deref))).map .tuple := by
  cases h with
  | one p => exact absurd several (by simp)
  | both left right =>
    rw [toParser_both, left.pieces_eq, right.pieces_eq, List.map_append, Parser.concat_append]

/-- The items of the tuple: for every grammar that is joined itself the items of its value, for
every other one its value. -/
def flat (ps : List Grammar) (vs : List Value) : List Value :=
  (ps.zipWith (fun p v => v.parts p.isJoined) vs).flatten

/-- Where no grammar is joined itself, the items are the values. -/
lemma flat_eq_self (leaves : ∀ p ∈ ps, p.isJoined = false) {vs : List Value}
    (length : vs.length = ps.length) : flat ps vs = vs := by
  induction ps generalizing vs with
  | nil => exact (List.eq_nil_of_length_eq_zero length).symm
  | cons p ps ih =>
    obtain ⟨v, vs, rfl⟩ := List.exists_cons_of_length_eq_add_one length
    have others := ih (fun p mem => leaves p (List.mem_cons_of_mem _ mem)) (Nat.succ.inj length)
    have leaf := leaves p List.mem_cons_self
    change v.parts p.isJoined ++ flat ps vs = v :: vs
    rw [others, leaf]
    rfl

/-- Where no grammar is joined itself, what they contribute is the values of their sequence. -/
lemma concat_pieces (leaves : ∀ p ∈ ps, p.isJoined = false) :
    Parser.concat (ps.map (pieces deref)) = Parser.sequence (ps.map (toParser deref)) := by
  rw [← Parser.concat_map_singleton, List.map_map]
  refine congrArg Parser.concat (List.map_congr_left fun p mem => ?_)
  rw [pieces, leaves p mem]
  rfl

/-- The grammars contribute the items that come from their values. -/
lemma gets_concat_pieces_iff {vs : List Value} :
    (Parser.concat (ps.map (pieces deref))).Gets s c vs d ↔
      ∃ us, GetsAll s (ps.map (toParser deref)) c us d ∧ vs = flat ps us := by
  induction ps generalizing c vs with
  | nil =>
    refine (Parser.gets_succeed_iff [] vs).trans ?_
    constructor
    · rintro ⟨rfl, rfl⟩
      exact ⟨[], .nil d, rfl⟩
    · rintro ⟨us, ⟨⟩, rfl⟩
      exact ⟨rfl, rfl⟩
  | cons p ps ih =>
    refine Parser.gets_append_iff.trans ?_
    constructor
    · rintro ⟨as, m, bs, first, others, rfl⟩
      obtain ⟨u, got, rfl⟩ := (Parser.gets_map_iff _ _ _).1 first
      obtain ⟨us, all, rfl⟩ := ih.1 others
      exact ⟨u :: us, .cons got all, rfl⟩
    · rintro ⟨us, all, rfl⟩
      cases all with
      | cons first others =>
        exact ⟨_, _, _, (Parser.gets_map_iff _ _ _).2 ⟨_, first, rfl⟩, ih.2 ⟨_, others, rfl⟩, rfl⟩

/-- The first grammar that fails decides the failure.

**Proof sketch.** Induction on the grammars: the first one fails, or the failure comes after it. -/
lemma fails_concat_pieces_iff :
    (Parser.concat (ps.map (pieces deref))).Fails s c d e ↔
      ∃ before p after us m, ps = before ++ p :: after ∧
        GetsAll s (before.map (toParser deref)) c us m ∧ (p.toParser deref).Fails s m d e := by
  induction ps generalizing c with
  | nil =>
    constructor
    · intro failed
      cases failed
    · rintro ⟨before, p, after, us, m, split, -⟩
      exact absurd split (by simp)
  | cons p ps ih =>
    refine Parser.fails_append_iff.trans ?_
    constructor
    · rintro (failed | ⟨m, ⟨as, first⟩, failed⟩)
      · exact ⟨[], p, ps, [], c, rfl, .nil c, (Parser.fails_map_iff _ _).1 failed⟩
      · obtain ⟨u, got, -⟩ := (Parser.gets_map_iff _ _ _).1 first
        obtain ⟨before, q, after, us, m', rfl, read, failed⟩ := ih.1 failed
        exact ⟨p :: before, q, after, u :: us, m', rfl, .cons got read, failed⟩
    · rintro ⟨_ | ⟨p', before⟩, q, after, us, m, split, read, failed⟩
      · cases split
        cases read
        exact .inl ((Parser.fails_map_iff _ _).2 failed)
      · cases split
        cases read with
        | cons first read =>
          exact .inr ⟨_, ⟨_, (Parser.gets_map_iff _ _ _).2 ⟨_, first, rfl⟩⟩,
            ih.2 ⟨before, q, after, _, m, rfl, read, failed⟩⟩

/-- **Joining with `both` is one sequence.** Of three grammars the first two or the last two may be
joined first, whether they are joined themselves or not. However two or more grammars are
parenthesised, the tuple has the items of each that is joined itself, and the value of each other
one as a single item, be it a tuple or not; the failure is that of the first grammar that fails. If
none of them is joined itself, the parser is the one of `sequenceOf`, so that also faults and what
is logged are alike, and the items are the values in order.

The names in the grammars stand for any parsers.

**Proof sketch.** What the two sides contribute is put together in order
(`Grammar.pieces_both`), which is associative (`Parser.append_assoc`). So each way of parenthesising
contributes what its parts do one after the other (`Grammar.Joins.pieces_eq`). -/
theorem both_is_one_sequence (deref : String → Parser Value) :
    (∀ a b c : Grammar,
      ((a.both b).both c).toParser deref = (a.both (b.both c)).toParser deref) ∧
    ∀ ps g, Joins ps g → 2 ≤ ps.length →
      (∀ s c v d, (g.toParser deref).Gets s c v d ↔
        ∃ vs, GetsAll s (ps.map (toParser deref)) c vs d ∧ v = .tuple (flat ps vs)) ∧
      (∀ s c d e, (g.toParser deref).Fails s c d e ↔
        ∃ before p after vs m, ps = before ++ p :: after ∧
          GetsAll s (before.map (toParser deref)) c vs m ∧ (p.toParser deref).Fails s m d e) ∧
      ((∀ p ∈ ps, p.isJoined = false) →
        g.toParser deref = (sequenceOf ps).toParser deref ∧
        ∀ s c v d, (g.toParser deref).Gets s c v d ↔
          ∃ vs, GetsAll s (ps.map (toParser deref)) c vs d ∧ v = .tuple vs) := by
  refine ⟨fun a b c => ?_, fun ps g joins several => ?_⟩
  · rw [toParser_both, toParser_both, pieces_both, pieces_both, Parser.append_assoc]
  have items (s : Settings) (c : Cursor) (v : Value) (d : Cursor) :
      (g.toParser deref).Gets s c v d ↔
        ∃ vs, GetsAll s (ps.map (toParser deref)) c vs d ∧ v = .tuple (flat ps vs) := by
    rw [joins.toParser_eq deref several, Parser.gets_map_iff]
    simp only [gets_concat_pieces_iff]
    constructor
    · rintro ⟨_, ⟨vs, all, rfl⟩, rfl⟩
      exact ⟨vs, all, rfl⟩
    · rintro ⟨vs, all, rfl⟩
      exact ⟨_, ⟨vs, all, rfl⟩, rfl⟩
  refine ⟨items, fun s c d e => ?_, fun leaves => ⟨?_, fun s c v d => ?_⟩⟩
  · rw [joins.toParser_eq deref several, Parser.fails_map_iff, fails_concat_pieces_iff]
  · rw [joins.toParser_eq deref several, concat_pieces deref leaves]
    exact congrArg (fun qs => (Parser.sequence qs).map Value.tuple)
      (List.ofFn_getElem_eq_map ps _).symm
  · rw [items]
    refine exists_congr fun vs => and_congr_right fun all => ?_
    rw [flat_eq_self leaves (all.length_eq.trans (List.length_map _))]

/-- Four letters, of which the middle two are a pair, that is a tuple but not joined: it is one item
of three. Where only one letter is there, the pair fails behind it. -/
theorem both_is_one_sequence_pair :
    let a := anyToken
    let b := a.pairWith a
    let ps := [a, b, a]
    let g := (a.both b).both a
    let deref : String → Parser Value := fun name => .raise (.undefined name)
    let s : Settings := ⟨1, false⟩
    let c : Cursor := .plain (.ofValue (.str "wxyz"))
    let c' : Cursor := .plain (.ofValue (.str "w"))
    let v : Value := .tuple [.ofChar 'w', .tuple [.ofChar 'x', .ofChar 'y'], .ofChar 'z']
    (Joins ps g ∧ 2 ≤ ps.length ∧ ∀ p ∈ ps, p.isJoined = false) ∧
    g.toParser deref = (a.both (b.both a)).toParser deref ∧
    g.toParser deref = (sequenceOf ps).toParser deref ∧
    (g.toParser deref).Gets s c v ⟨c.input, 4, none⟩ ∧
    (g.toParser deref).Fails s c' ⟨c'.input, 1, none⟩
      (.ofAtom (.str "any token") .endOfInput) := by
  intro a b ps g deref s c c' v
  have joins : Joins ps g := .both (.both (.one a) (.one b)) (.one a)
  have leaves : ∀ p ∈ ps, p.isJoined = false := by simp [ps, a, b, anyToken, isJoined]
  obtain ⟨assoc, sequences⟩ := both_is_one_sequence deref
  obtain ⟨-, fails, same⟩ := sequences ps g joins (by decide)
  obtain ⟨same, gets⟩ := same leaves
  refine ⟨⟨joins, by decide, leaves⟩, assoc a b a, same, (gets s c v _).2 ?_, (fails s c' _ _).2 ?_⟩
  · exact ⟨_, .cons rfl (.cons rfl (.cons rfl (.nil _))), rfl⟩
  · exact ⟨[a], b, [a], [.ofChar 'w'], _, rfl, .cons rfl (.nil _), rfl⟩

end Grammar

end ParserCombinators
