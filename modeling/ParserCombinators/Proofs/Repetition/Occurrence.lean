import Mathlib.Data.Nat.Find
import ParserCombinators.Proofs.Parser.Answer.Character
import ParserCombinators.Proofs.Parser.Answer.Reply
import ParserCombinators.Proofs.Repetition.Till

/-!
# Reading up to the first occurrence of a text

Characters up to a literal are the characters before its first occurrence. The literal is tried
before every character and fails without consuming, however much of it is there, so an occurrence
that overlaps with a failed one is not missed, and an empty literal occurs at once. If it does not
occur, all characters are read and another one is wanted.

## Main definitions

* `Text.OccursAt`, `Text.FirstFrom` — where a text occurs in another, and where first.
* `Parser.FindsFirst` — a parser reads up to the first occurrence and over it.

## Main results

* `Parser.exists_upTo_of_absent` — characters before which the literal does not occur are read.
* `Parser.reads_to_first_occurrence` — what `manyTill` and `many1Till` read before a literal.
-/

set_option autoImplicit false

namespace ParserCombinators

/-! ## Occurrences -/

namespace Text

/-- The characters `e` are those of `t` from the index `k` on, or begin them. -/
def OccursAt (e t : List Char) (k : Nat) : Prop :=
  k ≤ t.length ∧ e <+: t.drop k

/-- Whether characters occur at an index can be decided. -/
instance (e t : List Char) (k : Nat) : Decidable (OccursAt e t k) :=
  inferInstanceAs (Decidable (_ ∧ _))

/-- The first index from `start` on at which `e` occurs in `t`. -/
structure FirstFrom (e t : List Char) (start k : Nat) : Prop where
  /-- It is not before `start`. -/
  onward : start ≤ k
  /-- The characters occur there. -/
  occurs : OccursAt e t k
  /-- They do not occur between the two. -/
  first : ∀ j, start ≤ j → j < k → ¬ OccursAt e t j

variable {e t : List Char} {start k : Nat}

/-- What occurs at all occurs first somewhere. -/
lemma exists_firstFrom (h : ∃ k, start ≤ k ∧ OccursAt e t k) : ∃ k, FirstFrom e t start k := by
  classical
  obtain ⟨onward, occurs⟩ := Nat.find_spec h
  exact ⟨Nat.find h, onward, occurs, fun j after before found =>
    Nat.find_min h before ⟨after, found⟩⟩

end Text

namespace Parser

open Text

variable {α : Type} {p : Parser α} {s : Settings} {c : Cursor} {rest : List Char} {a : α}
  {e t : String} {n k : Nat}

/-! ## Replies on a text -/

/-- Before the end of a text its next character is read. -/
lemma exists_gets_anyToken (onText : c.OnText) (enough : c.ahead.length < s.fuel)
    (more : 0 < c.ahead.length) :
    ∃ x m, c.ahead = x :: m.ahead ∧ anyToken.Gets s c (.ofChar x) m ∧ c.Reaches m ∧
      m.offset = c.offset + 1 := by
  obtain ⟨x, rest, ahead⟩ := List.exists_cons_of_length_pos more
  have accepts : anyToken.Accepts c.ahead (.ofChar x) rest := ahead ▸ token_accepts rfl
  obtain ⟨m, item, reach, rfl, passed⟩ := accepts.exists_gets onText enough
  rw [ahead, List.length_cons] at passed
  exact ⟨x, m, ahead, item, reach, by omega⟩

/-- At the end of a text no symbol is left. -/
lemma fails_anyToken (onText : c.OnText) (ends : c.ahead = []) :
    anyToken.Fails s c c (.ofAtom (.str "any token") .endOfInput) := by
  have next := onText.overText.head?_eq
  rw [ends] at next
  simp only [Fails, anyToken, token, look_of_readable onText.overText.isReadable, Run.pure_bind',
    next]
  rfl

/-! ## Characters before an occurrence -/

/-- **Characters before which a literal does not occur are read one by one.**

**Proof sketch.** Induction on their number. Where the literal does not occur it fails without
consuming, and the next character is read. -/
lemma exists_upTo_of_absent (onText : c.OnText) (enough : c.ahead.length < s.fuel)
    (within : n ≤ c.ahead.length) (absent : ∀ j < n, ¬ e.toList <+: c.ahead.drop j) :
    ∃ m, UpTo anyToken (literal (.str e)) s c ((c.ahead.take n).map Value.ofChar) m ∧
      c.Reaches m ∧ m.ahead = c.ahead.drop n ∧ m.offset = c.offset + n := by
  induction n generalizing c with
  | zero => exact ⟨c, .nil c, .refl c, rfl, rfl⟩
  | succ n ih =>
    obtain ⟨x, m, ahead, item, reach, moved⟩ :=
      exists_gets_anyToken onText enough (Nat.zero_lt_of_lt within)
    have missed : (literal (.str e)).Misses s c :=
      (literal_refuses (absent 0 n.succ_pos)).misses onText enough
    rw [ahead, List.length_cons] at within enough
    obtain ⟨d, others, reach', rest, offset⟩ := ih (reach.onText onText) (by omega) (by omega)
      fun j before => by simpa [ahead] using absent (j + 1) (by omega)
    rw [ahead]
    exact ⟨d, .cons missed item (by omega) others, reach.trans reach', rest, by omega⟩

section OnInput

variable (text : c.input = .ofValue (.str t)) (within : c.offset ≤ t.length)
  (enough : c.remaining < s.fuel)

include text within

/-- What the characters ahead have in a place occurs in the text there. -/
lemma occursAt_of_ahead (inside : n ≤ c.ahead.length) (found : e.toList <+: c.ahead.drop n) :
    OccursAt e.toList t.toList (c.offset + n) := by
  rw [Cursor.length_ahead_of_input_eq text] at inside
  rw [Cursor.ahead_of_input_eq text, List.drop_drop] at found
  exact ⟨by rw [String.length_toList]; omega, found⟩

include enough

/-- Before the first occurrence of a literal the characters are read, and the literal is there. -/
lemma exists_upTo_of_firstFrom (first : FirstFrom e.toList t.toList c.offset k) :
    ∃ m d, UpTo anyToken (literal (.str e)) s c
        ((t.toList.extract c.offset k).map Value.ofChar) m ∧
      (literal (.str e)).Steps s m d ∧ c.Reaches d ∧ d.offset = k + e.length ∧
      k - c.offset < s.fuel := by
  have onText := Cursor.onText_of_input_eq text within
  have ahead := Cursor.ahead_of_input_eq text
  have length := Cursor.length_ahead_of_input_eq text
  rw [onText.overText.remaining_eq] at enough
  obtain ⟨onward, occurs, first⟩ := first
  have bound : k ≤ t.length := String.length_toList ▸ occurs.1
  obtain ⟨m, read, reach, rest, offset⟩ :=
    exists_upTo_of_absent (n := k - c.offset) onText enough (by omega) fun j before found =>
      first (c.offset + j) (by omega) (by omega) (occursAt_of_ahead text within (by omega) found)
  have there : m.ahead = t.toList.drop k := by
    rw [rest, ahead, List.drop_drop]
    congr 1
    omega
  obtain ⟨after, whole⟩ := occurs.2
  have accepts : (literal (.str e)).Accepts m.ahead (.str e) after := by
    rw [there, ← whole]
    exact literal_accepts e after
  have fewer := reach.ahead_suffix.length_le
  obtain ⟨d, ended, reach', -, passed⟩ :=
    accepts.exists_gets (reach.onText onText) (Nat.lt_of_le_of_lt fewer enough)
  rw [there, ← whole, List.length_append, String.length_toList] at passed
  rw [List.extract_eq_take_drop, ← ahead]
  exact ⟨m, d, read, ⟨_, ended⟩, reach.trans reach', by omega, by omega⟩

/-- If a literal does not occur, all characters are read and another one is wanted. -/
lemma exists_failsUpTo_of_absent (absent : ∀ k, c.offset ≤ k → ¬ OccursAt e.toList t.toList k)
    (start : Cursor) :
    ∃ d, FailsUpTo anyToken (literal (.str e)) s start c d
        ⟨.atom (.str "any token") .endOfInput,
          [.message "many_till: neither item nor end matched"]⟩ ∧
      c.Reaches d ∧ d.offset = t.length := by
  have onText := Cursor.onText_of_input_eq text within
  have length := Cursor.length_ahead_of_input_eq text
  rw [onText.overText.remaining_eq] at enough
  have nowhere (j : Nat) (before : j ≤ c.ahead.length) : ¬ e.toList <+: c.ahead.drop j :=
    fun found => absent (c.offset + j) (by omega) (occursAt_of_ahead text within before found)
  obtain ⟨m, read, reach, rest, offset⟩ :=
    exists_upTo_of_absent onText enough (Nat.le_refl _) fun j before =>
      nowhere j (Nat.le_of_lt before)
  have refuses : (literal (.str e)).Refuses m.ahead := by
    rw [rest]
    exact literal_refuses (nowhere _ (Nat.le_refl _))
  have fewer := reach.ahead_suffix.length_le
  have missed : (literal (.str e)).Misses s m :=
    refuses.misses (reach.onText onText) (Nat.lt_of_le_of_lt fewer enough)
  have failed : anyToken.Fails s m m (.ofAtom (.str "any token") .endOfInput) :=
    fails_anyToken (reach.onText onText) (by rw [rest, List.drop_length])
  exact ⟨m, ⟨_, m, read, by simpa using enough, .inr ⟨missed, .inl ⟨_, failed, rfl⟩⟩⟩, reach,
    by omega⟩

end OnInput

/-! ## What is found -/

/-- From `c` the parser reads the characters of `t` up to the first occurrence of `e` from `start`
on, and goes behind it. If there is none, it fails at the end of `t`, where another character is
wanted. -/
structure FindsFirst (p : Parser (List Value)) (e t : String) (s : Settings) (c : Cursor)
    (start : Nat) : Prop where
  /-- It succeeds exactly if there is an occurrence. -/
  succeeds_iff : (∃ vs d, p.Gets s c vs d) ↔ ∃ k, start ≤ k ∧ OccursAt e.toList t.toList k
  /-- The characters before the first occurrence are its value. -/
  gets : ∀ k, FirstFrom e.toList t.toList start k → ∃ d,
    p.Gets s c ((t.toList.extract c.offset k).map Value.ofChar) d ∧ c.Reaches d ∧
      d.offset = k + e.length
  /-- Without an occurrence, what is missing is a character at the end. -/
  fails : (∀ k, start ≤ k → ¬ OccursAt e.toList t.toList k) → ∃ d,
    p.Fails s c d ⟨.atom (.str "any token") .endOfInput,
      [.message "many_till: neither item nor end matched"]⟩ ∧ c.Reaches d ∧ d.offset = t.length

/-- Success where there is an occurrence and failure where there is none exclude each other, so each
is decided by the other. -/
lemma FindsFirst.of_replies {p : Parser (List Value)} {start : Nat}
    (gets : ∀ k, FirstFrom e.toList t.toList start k → ∃ d,
      p.Gets s c ((t.toList.extract c.offset k).map Value.ofChar) d ∧ c.Reaches d ∧
        d.offset = k + e.length)
    (fails : (∀ k, start ≤ k → ¬ OccursAt e.toList t.toList k) → ∃ d,
      p.Fails s c d ⟨.atom (.str "any token") .endOfInput,
        [.message "many_till: neither item nor end matched"]⟩ ∧ c.Reaches d ∧
          d.offset = t.length) :
    p.FindsFirst e t s c start where
  succeeds_iff := by
    constructor
    · rintro ⟨vs, d, got⟩
      by_contra nowhere
      obtain ⟨d', failed, -⟩ := fails fun k onward occurs => nowhere ⟨k, onward, occurs⟩
      cases got.symm.trans failed
    · intro found
      obtain ⟨k, first⟩ := exists_firstFrom found
      obtain ⟨d, got, -⟩ := gets k first
      exact ⟨_, d, got⟩
  gets := gets
  fails := fails

section OnInput

variable (text : c.input = .ofValue (.str t)) (enough : c.remaining < s.fuel)

include text enough

/-- `manyTill` finds the first occurrence from where it begins. -/
lemma findsFirst_manyTill (within : c.offset ≤ t.length) :
    (manyTill anyToken (literal (.str e))).FindsFirst e t s c c.offset := by
  refine .of_replies (fun k first => ?_) fun absent => ?_
  · obtain ⟨m, d, read, ended, reach, offset, few⟩ :=
      exists_upTo_of_firstFrom text within enough first
    refine ⟨d, gets_manyTill_iff.2 ⟨m, read, ended, ?_⟩, reach, offset⟩
    rw [List.length_map, List.extract_eq_take_drop]
    exact (List.length_take_le _ _).trans_lt few
  · obtain ⟨d, failed, reach, offset⟩ := exists_failsUpTo_of_absent text within enough absent c
    exact ⟨d, fails_manyTill_iff.2 failed, reach, offset⟩

omit enough in
/-- Characters from an offset on begin with the next one. -/
lemma extract_eq_cons {m : Cursor} {x : Char} (split : c.ahead = x :: m.ahead)
    (text' : m.input = .ofValue (.str t)) (moved : m.offset = c.offset + 1) (after : m.offset ≤ k) :
    t.toList.extract c.offset k = x :: t.toList.extract m.offset k := by
  have longer : k - c.offset = k - m.offset + 1 := by omega
  rw [List.extract_eq_take_drop, List.extract_eq_take_drop, ← Cursor.ahead_of_input_eq text,
    ← Cursor.ahead_of_input_eq text', split, longer, List.take_succ_cons]

/-- `many1Till` reads a character and finds the first occurrence behind it. -/
lemma findsFirst_many1Till (more : c.offset < t.length) :
    (many1Till anyToken (literal (.str e))).FindsFirst e t s c (c.offset + 1) := by
  have onText := Cursor.onText_of_input_eq text more.le
  have length := Cursor.length_ahead_of_input_eq text
  have enough' := onText.overText.remaining_eq ▸ enough
  obtain ⟨x, m, split, item, reach, moved⟩ := exists_gets_anyToken onText enough' (by omega)
  have text' : m.input = .ofValue (.str t) := reach.input_eq.trans text
  have within' : m.offset ≤ t.length := by omega
  have enough' : m.remaining < s.fuel := reach.precedes.remaining_le.trans_lt enough
  rw [← moved]
  refine .of_replies (fun k first => ?_) fun absent => ?_
  · obtain ⟨d, others, reach', offset⟩ :=
      (findsFirst_manyTill text' enough' within').gets k first
    rw [extract_eq_cons text split text' moved first.onward, List.map_cons]
    exact ⟨d, gets_many1Till_iff.2 ⟨_, m, _, item, others, rfl⟩, reach.trans reach', offset⟩
  · obtain ⟨d, failed, reach', offset⟩ :=
      exists_failsUpTo_of_absent text' within' enough' absent c
    exact ⟨d, fails_many1Till_iff.2 (.inr ⟨_, m, item, failed⟩), reach.trans reach', offset⟩

omit enough in
/-- At the end of a text there is no first character. -/
lemma fails_many1Till_at_end (ends : c.offset = t.length) :
    (many1Till anyToken (literal (.str e))).Fails s c c
      (.ofAtom (.str "any token") .endOfInput) := by
  have onText := Cursor.onText_of_input_eq text ends.le
  refine fails_many1Till_iff.2 (.inl (fails_anyToken onText ?_))
  rw [Cursor.ahead_of_input_eq text, ends, ← String.length_toList, List.drop_length]

end OnInput

/-- **Reading up to a literal finds its first occurrence.** On a text `t`, `manyTill` over single
characters succeeds exactly if the literal occurs from the offset on. Its value then is the
characters before the first occurrence, and it ends behind that occurrence; otherwise it fails at
the end of the text, where it wants another character, with the message of the loop around this.
`many1Till` does the same with the first occurrence behind the first character, and fails in place
at the end of the text. The literal may overlap with itself, and may be empty. The fuel is for one
round at every character that is left, and one at the end.

**Proof sketch.** Where the literal does not occur it fails without consuming, whatever part of it
is there, so a single character is read (`Parser.exists_upTo_of_absent`). The loop thus comes to the
first occurrence, or to the end. -/
theorem reads_to_first_occurrence (e t : String) (s : Settings) (c : Cursor)
    (text : c.input = .ofValue (.str t)) (within : c.offset ≤ t.length)
    (enough : c.remaining < s.fuel) :
    (manyTill anyToken (literal (.str e))).FindsFirst e t s c c.offset ∧
    (c.offset < t.length →
      (many1Till anyToken (literal (.str e))).FindsFirst e t s c (c.offset + 1)) ∧
    (c.offset = t.length → (many1Till anyToken (literal (.str e))).Fails s c c
      (.ofAtom (.str "any token") .endOfInput)) :=
  ⟨findsFirst_manyTill text enough within, findsFirst_many1Till text enough,
    fails_many1Till_at_end text⟩

/-- In "aaab" the text "aab" first occurs behind one character, and the attempt before it, which has
two characters in common with it, is not in the way. The empty text occurs at once, and behind the
first character. The text "aba" does not occur, and behind the last character there is no first
one. -/
theorem reads_to_first_occurrence_overlapping :
    let t := "aaab"
    let s : Settings := ⟨5, false⟩
    let c : Cursor := .plain (.ofValue (.str t))
    let d : Cursor := ⟨c.input, 4, none⟩
    (c.input = .ofValue (.str t) ∧ c.offset ≤ t.length ∧ c.remaining < s.fuel) ∧
    (∃ d, (manyTill anyToken (literal (.str "aab"))).Gets s c [.ofChar 'a'] d ∧ d.offset = 4) ∧
    (∃ d, (manyTill anyToken (literal (.str ""))).Gets s c [] d ∧ d.offset = 0) ∧
    (∃ d, (many1Till anyToken (literal (.str ""))).Gets s c [.ofChar 'a'] d ∧ d.offset = 1) ∧
    (∃ d, (manyTill anyToken (literal (.str "aba"))).Fails s c d
      ⟨.atom (.str "any token") .endOfInput,
        [.message "many_till: neither item nor end matched"]⟩ ∧ d.offset = 4) ∧
    (many1Till anyToken (literal (.str ""))).Fails s d d
      (.ofAtom (.str "any token") .endOfInput) := by
  intro t s c d
  have enough : c.remaining < s.fuel := by decide
  obtain ⟨overlapping, -, -⟩ := reads_to_first_occurrence "aab" t s c rfl (by decide) enough
  obtain ⟨empty, behind, -⟩ := reads_to_first_occurrence "" t s c rfl (by decide) enough
  obtain ⟨absent, -, -⟩ := reads_to_first_occurrence "aba" t s c rfl (by decide) enough
  obtain ⟨-, -, atEnd⟩ := reads_to_first_occurrence "" t s d rfl (by decide) (by decide)
  have first : t.toList.extract 0 1 = ['a'] := by decide
  have value : (t.toList.extract 0 1).map Value.ofChar = [.ofChar 'a'] := congrArg _ first
  have length : t.length = 4 := by decide
  refine ⟨⟨rfl, by decide, enough⟩, ?_, ?_, ?_, ?_, atEnd length.symm⟩
  · obtain ⟨d, got, -, offset⟩ := overlapping.gets 1 ⟨by decide, by decide, by decide⟩
    exact ⟨d, value ▸ got, offset⟩
  · obtain ⟨d, got, -, offset⟩ := empty.gets 0 ⟨by decide, by decide, by decide⟩
    exact ⟨d, got, offset⟩
  · obtain ⟨d, got, -, offset⟩ := (behind (by decide)).gets 1 ⟨by decide, by decide, by decide⟩
    exact ⟨d, value ▸ got, offset⟩
  · have nowhere : ∀ k ≤ t.toList.length, ¬ OccursAt "aba".toList t.toList k := by decide
    obtain ⟨d, failed, -, offset⟩ := absent.fails fun k _ found => nowhere k found.1 found
    exact ⟨d, failed, offset.trans length⟩

end Parser

end ParserCombinators
