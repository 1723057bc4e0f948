import ParserCombinators.Grammar.Character
import ParserCombinators.Grammar.Meaning
import ParserCombinators.Proofs.Cursor.Advance
import ParserCombinators.Proofs.Parser.Alternation
import ParserCombinators.Proofs.Parser.Answer.Character
import ParserCombinators.Proofs.Parser.Answer.Reply

/-!
# Integers are read exactly

A natural number is the longest run of ASCII digits at the cursor; an integer may have a sign before
it. The run is consumed and nothing else. If there is no digit, a natural number fails where it
began, and so does an integer, unless it has consumed a sign. Since an integer is printed as such a
run, it is read again as itself.

## Main definitions

* `Parser.ReadsUpTo` — a parser reads numbers in a form, up to the first character that is no digit.

## Main results

* `Parser.gets_natural`, `Parser.fails_natural` — natural numbers.
* `Parser.gets_signedInt`, `Parser.fails_signedInt`, `Parser.fails_signedInt_after_sign` — integers.
* `Grammar.toParser_natural`, `Grammar.toParser_signedInt` — the grammars of these parsers.
* `Parser.integers_read_exactly` — what is read, where it ends, and that what is printed is read.
-/

set_option autoImplicit false

namespace ParserCombinators

open Text

namespace Parser

/-- Over the characters `cs` ahead of `c`, the values of a parser are the numbers written in a form
there, each with the cursor after it; no digit follows such a number. -/
def ReadsUpTo (p : Parser Int) (form : Int → List Char → Prop) (s : Settings) (c : Cursor)
    (cs : List Char) : Prop :=
  ∀ n d, p.Gets s c n d ↔ ∃ ws rest, cs = ws ++ rest ∧ form n ws ∧ NoDigitFirst rest ∧
    d = c.advance ws.length ∧ d.offset = c.offset + ws.length

section OnText

variable {t : String} {s : Settings} {c : Cursor} {test : Value → Except Fault Bool}
  {expected : Value} {x : Char} {ws ds rest : List Char} {factor n : Int}
  (text : c.input = .ofValue (.str t))

include text

/-! ## Single characters -/

/-- A character that passes the test is consumed. -/
lemma gets_token_of_ahead (ahead : c.ahead = x :: rest) (passes : test (.ofChar x) = .ok true) :
    (token test expected).Gets s c (.ofChar x) (c.advance 1) := by
  have overText := Cursor.overText_of_input_eq text
  have next : c.head? = some (.ofChar x) := by
    rw [overText.head?_eq, ahead]
    rfl
  simp only [Gets, token, look_of_readable overText.isReadable, Run.pure_bind', next, passes,
    Run.ofExcept_ok]
  rfl

/-- At the end of the text, and at a character that does not pass, nothing is consumed. -/
lemma fails_token_of_ahead (rejects : ∀ x ∈ c.ahead.head?, test (.ofChar x) = .ok false) :
    ∃ e, (token test expected).Fails s c c e := by
  have overText := Cursor.overText_of_input_eq text
  have looked := look_of_readable overText.isReadable
  have next := overText.head?_eq
  cases first : c.ahead.head? with
  | none =>
    rw [first] at next
    refine ⟨.ofAtom expected .endOfInput, ?_⟩
    simp only [Fails, token, looked, Run.pure_bind', next, Option.map_none]
    rfl
  | some x =>
    rw [first] at next
    refine ⟨.ofAtom expected (.ofChar x), ?_⟩
    simp only [Fails, token, looked, Run.pure_bind', next, Option.map_some, rejects x first,
      Run.ofExcept_ok]
    rfl

/-- A character that is ahead is read. -/
lemma gets_char_of_ahead (ahead : c.ahead = x :: rest) :
    (char x).Gets s c (.ofChar x) (c.advance 1) :=
  gets_token_of_ahead text ahead (by simp [Value.same_ofChar])

/-- A character that is not ahead is missed. -/
lemma misses_char_of_ahead (other : x ∉ c.ahead.head?) : (char x).Misses s c := by
  have rejects : ∀ y ∈ c.ahead.head?, (Value.ofChar y).same (.ofChar x) = false := by
    intro y first
    rw [Value.same_ofChar, beq_eq_false_iff_ne]
    rintro rfl
    exact other first
  have fails : ∃ e, (char x).Fails s c c e :=
    fails_token_of_ahead text fun y first => by rw [rejects y first]
  exact fails.elim fun e failed => ⟨c, e, failed, rfl⟩

/-! ## Signs -/

/-- A sign is consumed, and stands for a factor. -/
lemma gets_sign (sign : Sign factor ws) (ahead : c.ahead = ws ++ rest)
    (bare : ws = [] → '-' ∉ rest.head? ∧ '+' ∉ rest.head?) :
    Parser.sign.Gets s c factor (c.advance ws.length) := by
  cases sign with
  | minus =>
    have minus : ((char '-').andThen (succeed (-1 : Int))).Gets s c (-1) (c.advance 1) :=
      (gets_andThen_iff _ _ _).2 ⟨_, ⟨_, gets_char_of_ahead text ahead⟩, rfl⟩
    exact Gets.orElse (minus.orElse _) _
  | plus =>
    have plus : ((char '+').andThen (succeed (1 : Int))).Gets s c 1 (c.advance 1) :=
      (gets_andThen_iff _ _ _).2 ⟨_, ⟨_, gets_char_of_ahead text ahead⟩, rfl⟩
    have noMinus : (char '-').Misses s c := misses_char_of_ahead text (by simp [ahead])
    exact Gets.orElse (((noMinus.andThen _).ending_orElse _).trans plus) _
  | none =>
    rw [List.nil_append] at ahead
    obtain ⟨minus, plus⟩ := bare rfl
    have noMinus : (char '-').Misses s c := misses_char_of_ahead text (by rwa [ahead])
    have noPlus : (char '+').Misses s c := misses_char_of_ahead text (by rwa [ahead])
    have noSign : (((char '-').andThen (succeed (-1 : Int))).orElse
        ((char '+').andThen (succeed 1))).Misses s c := by
      obtain ⟨d, e, failed, same⟩ := noPlus.andThen (succeed (1 : Int))
      exact ⟨d, e, ((noMinus.andThen _).ending_orElse _).trans failed, same⟩
    exact noSign.ending_orElse _

/-! ## Natural numbers -/

/-- All digits up to the first other character are consumed. -/
lemma gets_natural (enough : c.remaining < s.fuel) (decimal : Decimal n ds)
    (ahead : c.ahead = ds ++ rest) (stop : NoDigitFirst rest) :
    natural.Gets s c n (c.advance ds.length) := by
  have within : c.offset ≤ t.length := by
    have digit := List.length_pos_of_ne_nil decimal.nonempty
    have length := Cursor.length_ahead_of_input_eq text
    rw [ahead, List.length_append] at length
    omega
  rw [(Cursor.overText_of_input_eq text).remaining_eq] at enough
  exact (ahead ▸ natural_accepts decimal stop : natural.Accepts c.ahead n rest).gets_advance
    (Cursor.onText_of_input_eq text within) enough ahead

/-- Without a digit nothing is consumed, be the cursor at the end of the text or past it. -/
lemma fails_natural (stop : NoDigitFirst c.ahead) : ∃ e, natural.Fails s c c e := by
  have rejects : ∀ x ∈ c.ahead.head?, CharacterClass.digit.test (.ofChar x) = .ok false := by
    intro x first
    have other : CharacterClass.digit.holds [x] = false := stop x first
    simp [Value.ofChar, CharacterClass.test, other]
  have fails : ∃ e, (ofClass .digit).Fails s c c e := fails_token_of_ahead text rejects
  obtain ⟨e, failed⟩ := fails
  refine ⟨e, ?_⟩
  rw [natural, transform_eq_bind]
  exact Fails.bind (failed.many1) _

/-! ## Integers -/

/-- After a sign, what is left of the text begins with what followed the sign. -/
lemma ahead_advance_of_ahead (ahead : c.ahead = ws ++ rest) :
    ws.length ≤ c.remaining ∧ (c.advance ws.length).ahead = rest := by
  have within : ws.length ≤ c.remaining := by
    rw [(Cursor.overText_of_input_eq text).remaining_eq, ahead, List.length_append]
    exact Nat.le_add_right _ _
  rw [Cursor.ahead_advance within, ahead, List.drop_left]
  exact ⟨within, rfl⟩

/-- A sign and all digits after it are consumed. -/
lemma gets_signedInt (enough : c.remaining < s.fuel) (number : SignedDecimal n ws)
    (ahead : c.ahead = ws ++ rest) (stop : NoDigitFirst rest) :
    signedInt.Gets s c n (c.advance ws.length) := by
  obtain ⟨factor, sign, m, ds, form, decimal, rfl, rfl⟩ := number
  rw [List.append_assoc] at ahead
  obtain ⟨within, left⟩ := ahead_advance_of_ahead text ahead
  have signed := gets_sign (s := s) text form ahead fun _ => decimal.noSignFirst rest
  have text' := (Cursor.input_advance c sign.length).trans text
  have fewer := (Cursor.reaches_advance within).precedes.remaining_le
  have read := gets_natural text' (Nat.lt_of_le_of_lt fewer enough) decimal left stop
  rw [Cursor.advance_advance, ← List.length_append] at read
  exact (gets_bind_iff _ _ _).2 ⟨factor, _, signed, (gets_map_iff _ _ _).2 ⟨m, read, rfl⟩⟩

/-- Where there is no digit after the sign, the failure is behind the sign. -/
lemma fails_signedInt_after_sign (form : Sign factor ws) (ahead : c.ahead = ws ++ rest)
    (bare : ws = [] → '-' ∉ rest.head? ∧ '+' ∉ rest.head?) (stop : NoDigitFirst rest) :
    ∃ e, signedInt.Fails s c (c.advance ws.length) e := by
  obtain ⟨-, left⟩ := ahead_advance_of_ahead text ahead
  have signed := gets_sign (s := s) text form ahead bare
  obtain ⟨e, failed⟩ := fails_natural (s := s) (c := c.advance ws.length)
    ((Cursor.input_advance c _).trans text) (by rwa [left])
  exact ⟨e, (signed.ending_bind _).trans (failed.map _)⟩

/-! ## All replies -/

/-- The values of a parser are the numbers in a form, if such a number is read wherever it is and
the parser fails where there is none. -/
lemma readsUpTo_of_replies {p : Parser Int} {form : Int → List Char → Prop}
    (reads : ∀ {n ws rest}, form n ws → c.ahead = ws ++ rest → NoDigitFirst rest →
      p.Gets s c n (c.advance ws.length))
    (fails : (∃ n ws rest, form n ws ∧ c.ahead = ws ++ rest ∧ NoDigitFirst rest) ∨
      ∃ d e, p.Fails s c d e) : p.ReadsUpTo form s c c.ahead := by
  intro n d
  constructor
  · intro got
    obtain ⟨m, ws, rest, number, ahead, stop⟩ | ⟨d', e, failed⟩ := fails
    · obtain ⟨rfl, rfl⟩ := got.unique (reads number ahead stop)
      exact ⟨ws, rest, ahead, number, stop, rfl,
        Cursor.offset_advance_of_le (ahead_advance_of_ahead text ahead).1⟩
    · cases got.symm.trans failed
  · rintro ⟨ws, rest, ahead, number, stop, rfl, -⟩
    exact reads number ahead stop

/-- A natural number is read from all digits that are ahead. -/
lemma readsUpTo_natural (enough : c.remaining < s.fuel) :
    natural.ReadsUpTo Decimal s c c.ahead := by
  refine readsUpTo_of_replies text (gets_natural text enough) ?_
  obtain none | ⟨n, ds, rest, ahead, decimal, stop⟩ := noDigitFirst_or_decimal c.ahead
  · exact .inr ⟨c, fails_natural text none⟩
  · exact .inl ⟨n, ds, rest, decimal, ahead, stop⟩

/-- An integer is read from its sign and all digits after it. -/
lemma readsUpTo_signedInt (enough : c.remaining < s.fuel) :
    signedInt.ReadsUpTo SignedDecimal s c c.ahead := by
  refine readsUpTo_of_replies text (gets_signedInt text enough) ?_
  obtain ⟨factor, sign, after, form, ahead, bare⟩ := exists_sign c.ahead
  obtain none | ⟨n, ds, rest, rfl, decimal, stop⟩ := noDigitFirst_or_decimal after
  · exact .inr ⟨_, fails_signedInt_after_sign text form ahead bare none⟩
  · refine .inl ⟨factor * n, sign ++ ds, rest, ⟨factor, sign, n, ds, form, decimal, rfl, rfl⟩, ?_,
      stop⟩
    rw [ahead, List.append_assoc]

/-- A natural number is read exactly where a digit is. -/
lemma exists_gets_natural_iff (enough : c.remaining < s.fuel) :
    (∃ n d, natural.Gets s c n d) ↔ ∃ x, c.ahead.head? = some x ∧ x.isDigit = true := by
  constructor
  · rintro ⟨n, d, got⟩
    obtain ⟨ds, rest, ahead, decimal, -⟩ := (readsUpTo_natural text enough n d).1 got
    obtain ⟨x, ds, rfl⟩ := List.exists_cons_of_ne_nil decimal.nonempty
    exact ⟨x, by rw [ahead]; rfl, decimal.digits x List.mem_cons_self⟩
  · rintro ⟨x, there, digit⟩
    obtain none | ⟨n, ds, rest, ahead, decimal, stop⟩ := noDigitFirst_or_decimal c.ahead
    · cases digit.symm.trans (none x there)
    · exact ⟨n, _, gets_natural text enough decimal ahead stop⟩

/-- An integer is read exactly where a numeral with an optional sign is; its digits may go on. -/
lemma exists_gets_signedInt_iff (enough : c.remaining < s.fuel) :
    (∃ n d, signedInt.Gets s c n d) ↔ ∃ n ws, SignedDecimal n ws ∧ ws <+: c.ahead := by
  constructor
  · rintro ⟨n, d, got⟩
    obtain ⟨ws, rest, ahead, number, -⟩ := (readsUpTo_signedInt text enough n d).1 got
    exact ⟨n, ws, number, rest, ahead.symm⟩
  · rintro ⟨n, ws, ⟨factor, sign, m, ds, form, decimal, rfl, rfl⟩, more, ahead⟩
    obtain ⟨k, es, rest, rfl, longer, stop⟩ := decimal.exists_extend more
    have number : SignedDecimal (factor * k) (sign ++ (ds ++ es)) :=
      ⟨factor, sign, k, _, form, longer, rfl, rfl⟩
    refine ⟨factor * k, _, gets_signedInt text enough number ?_ stop⟩
    rw [← ahead]
    simp

/-- Where there is neither a sign nor a digit, nothing is consumed. -/
lemma fails_signedInt (other : ∀ x ∈ c.ahead.head?, x ≠ '+' ∧ x ≠ '-' ∧ x.isDigit = false) :
    ∃ e, signedInt.Fails s c c e :=
  fails_signedInt_after_sign text .none rfl
    (fun _ => ⟨fun minus => (other _ minus).2.1 rfl, fun plus => (other _ plus).1 rfl⟩)
    fun x there => (other x there).2.2

end OnText

end Parser

/-! ## As grammars -/

namespace Parser

variable {α β : Type}

/-- The value of an alternative is changed, whichever of the two gives it. -/
lemma map_orElse (p q : Parser α) (f : α → β) :
    (p.orElse q).map f = (p.map f).orElse (q.map f) := by
  refine Parser.ext (funext fun s => funext fun c => ?_)
  refine (Run.bind_assoc' _ _ _).trans (Eq.trans ?_ (Run.bind_assoc' _ _ _).symm)
  refine Run.bind_congr_of_done fun reply _ => ?_
  cases reply with
  | ok a d => rfl
  | error d e =>
    dsimp only
    rw [Run.pure_bind']
    by_cases consumed : (d.offset != c.offset) = true
    · simp only [Reply.isOk, Reply.consumedSince, Reply.cursor, Bool.false_or, consumed, if_true,
        Run.pure_bind']
    · simp only [Reply.isOk, Reply.consumedSince, Reply.cursor, Bool.false_or, consumed,
        Bool.false_eq_true, if_false]
      rfl

end Parser

namespace Grammar

variable (deref : String → Parser Value)

/-- The grammar of natural numbers is the parser. -/
lemma toParser_natural : natural.toParser deref = Parser.natural.map .int := by
  simp only [natural, toParser, Collector.many1, ofClass, Parser.natural, Parser.ofClass,
    Parser.transform_eq_bind, Parser.map_bind, Parser.bind_map]
  refine congrArg _ (funext fun digits => ?_)
  change Parser.ofExcept (((Parser.readDigits digits).bind _).map _) = _
  cases Parser.readDigits digits <;> rfl

/-- The grammar of signs is the parser. -/
lemma toParser_sign : sign.toParser deref = Parser.sign.map .int := by
  simp only [sign, Parser.sign, option, Parser.option, toParser, Parser.map_orElse]
  simp only [Parser.andThen_eq_bind, Parser.map_eq_bind, Parser.bind_assoc, Parser.succeed_bind]
  rfl

/-- The grammar of integers is the parser. -/
lemma toParser_signedInt : signedInt.toParser deref = Parser.signedInt.map .int := by
  simp only [signedInt, Parser.signedInt, toParser, toParser_sign, combineWith, toParser_natural,
    Parser.map_bind, Parser.bind_map, Parser.map_map]
  refine congrArg _ (funext fun factor => ?_)
  rw [Parser.transform_eq_bind, Parser.map_bind, Parser.map_eq_bind]
  rfl

end Grammar

namespace Parser

/-- **Integers are read exactly, and as they are printed.** At every cursor over a text, be it past
the end, a natural number is read exactly if an ASCII digit is there: it is the longest run of them,
and the cursor is behind the run. Otherwise it fails where it began. An integer is read exactly if
such a run is there or a sign and such a run; otherwise it fails where it began, but behind the sign
if there is one. So what an integer is printed as is read as that integer and nothing is left of it,
whatever follows that is no digit. The same holds for the grammars of these parsers.

**Proof sketch.** The characters ahead begin with no digit or with a longest run
(`Text.noDigitFirst_or_decimal`), and with a sign or not; in each of the cases the reply is known,
and a run has one reply. What is printed is a numeral of the integer
(`Text.signedDecimal_toString`). -/
theorem integers_read_exactly (t : String) (s : Settings) (c : Cursor)
    (text : c.input = .ofValue (.str t)) (enough : c.remaining < s.fuel) :
    (natural.ReadsUpTo Decimal s c (t.toList.drop c.offset) ∧
      ((∃ n d, natural.Gets s c n d) ↔ ∃ x, t.toList[c.offset]? = some x ∧ x.isDigit = true) ∧
      (NoDigitFirst (t.toList.drop c.offset) → ∃ e, natural.Fails s c c e)) ∧
    (signedInt.ReadsUpTo SignedDecimal s c (t.toList.drop c.offset) ∧
      ((∃ n d, signedInt.Gets s c n d) ↔
        ∃ n ws, SignedDecimal n ws ∧ ws <+: t.toList.drop c.offset) ∧
      ((∀ x, t.toList[c.offset]? = some x → x ≠ '+' ∧ x ≠ '-' ∧ x.isDigit = false) →
        ∃ e, signedInt.Fails s c c e) ∧
      ∀ x rest, t.toList.drop c.offset = x :: rest → x = '+' ∨ x = '-' → NoDigitFirst rest →
        ∃ d e, signedInt.Fails s c d e ∧ d.offset = c.offset + 1) ∧
    (∀ n : Int, ∀ rest, t.toList.drop c.offset = (toString n).toList ++ rest → NoDigitFirst rest →
      ∃ d, signedInt.Gets s c n d ∧ d.offset = c.offset + (toString n).length) ∧
    ∀ deref, Grammar.natural.toParser deref = natural.map .int ∧
      Grammar.signedInt.toParser deref = signedInt.map .int := by
  rw [← Cursor.ahead_of_input_eq text]
  have first : t.toList[c.offset]? = c.ahead.head? := by
    rw [Cursor.ahead_of_input_eq text, List.head?_drop]
  rw [first]
  refine ⟨⟨readsUpTo_natural text enough, exists_gets_natural_iff text enough, fails_natural text⟩,
    ⟨readsUpTo_signedInt text enough, exists_gets_signedInt_iff text enough, fails_signedInt text,
      ?_⟩, ?_, ?_⟩
  · intro x rest ahead sign stop
    have form : ∃ factor, Sign factor [x] := by
      obtain rfl | rfl := sign
      · exact ⟨1, .plus⟩
      · exact ⟨-1, .minus⟩
    obtain ⟨factor, form⟩ := form
    obtain ⟨e, failed⟩ := fails_signedInt_after_sign (s := s) text form ahead (by simp) stop
    exact ⟨_, e, failed, Cursor.offset_advance_of_le (ahead_advance_of_ahead text ahead).1⟩
  · intro n rest ahead stop
    rw [← String.length_toList]
    exact ⟨_, gets_signedInt text enough (signedDecimal_toString n) ahead stop,
      Cursor.offset_advance_of_le (ahead_advance_of_ahead text ahead).1⟩
  · exact fun deref => ⟨Grammar.toParser_natural deref, Grammar.toParser_signedInt deref⟩

/-- A negative number in the middle of a text is what it is printed as, up to the semicolon; a sign
is no digit, and without an integer after it the sign alone is consumed. -/
theorem integers_read_exactly_negative :
    let t := "n=-120;+"
    let s : Settings := ⟨9, false⟩
    let c : Cursor := ⟨.ofValue (.str t), 2, none⟩
    let sign : Cursor := ⟨.ofValue (.str t), 7, none⟩
    c.input = .ofValue (.str t) ∧ c.remaining < s.fuel ∧ NoDigitFirst [';', '+'] ∧
      (∃ d, signedInt.Gets s c (-120) d ∧ d.offset = c.offset + (toString (-120 : Int)).length) ∧
      (∃ e, natural.Fails s c c e) ∧
      ∃ d e, signedInt.Fails s sign d e ∧ d.offset = sign.offset + 1 := by
  intro t s c sign
  have enough : c.remaining < s.fuel := by decide
  have enough' : sign.remaining < s.fuel := by decide
  have stop : NoDigitFirst [';', '+'] := by simp [NoDigitFirst]
  have ahead : t.toList.drop c.offset = (toString (-120 : Int)).toList ++ [';', '+'] := by decide
  have ahead' : t.toList.drop sign.offset = ['+'] := by decide
  have noDigit : NoDigitFirst (t.toList.drop c.offset) := by simp [NoDigitFirst, t, c]
  obtain ⟨⟨-, -, noNatural⟩, -, printed, -⟩ := integers_read_exactly t s c rfl enough
  obtain ⟨-, ⟨-, -, -, signAlone⟩, -⟩ := integers_read_exactly t s sign rfl enough'
  exact ⟨rfl, enough, stop, printed (-120) _ ahead stop, noNatural noDigit,
    signAlone '+' [] ahead' (.inl rfl) (by simp [NoDigitFirst])⟩

end Parser

end ParserCombinators
