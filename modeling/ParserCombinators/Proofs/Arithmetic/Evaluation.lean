import ParserCombinators.Proofs.Arithmetic.Grammar
import ParserCombinators.Proofs.Parser.Answer.Chain
import ParserCombinators.Proofs.Parser.Answer.Character

/-!
# Evaluation of expressions

The evaluator gives the value of every written expression that has one, and a value for no other
text than a written expression.

## Main definitions

* `Arithmetic.Reading` — what the parsers do over an expression of a level.
* `Arithmetic.Derives` — some tree is written so.
* `Arithmetic.Raised` — an operation raises a fault.

## Main results

* `Arithmetic.Written.reading` — every written expression is read, and evaluated on the way.
* `Arithmetic.expression_okIn` — only written expressions are read.
* `Arithmetic.evaluate_correct` — the evaluator is right.
-/

set_option autoImplicit false

namespace ParserCombinators

namespace Arithmetic

open ParserCombinators.Parser

variable {cs m rest w : List Char} {c : Char} {op : Operation} {F : Fault → Prop}

/-! ## Marks -/

/-- A mark is accepted as it is written, if no blank follows. -/
lemma mark_accepts (h : MarkForm c m) (stop : ∀ x ∈ rest.head?, Text.isBlank x = false) :
    (mark c).Accepts (m ++ rest) (.ofChar c) rest := by
  obtain ⟨blanks, areBlank, rfl⟩ := h
  exact (char_accepts c _).followedBy (spaces_accepts areBlank stop)

/-- Another character is no mark. -/
lemma mark_refuses (h : c ∉ cs.head?) : (mark c).Refuses cs :=
  (char_refuses h).followedBy _

/-- A mark is read from what it is written as. -/
lemma mark_okIn :
    (mark c).Answers cs (Outcome.OkIn fun _ rest => ∃ m, MarkForm c m ∧ cs = m ++ rest) F := by
  refine char_okIn.followedBy_okIn fun _ mid _ h => spaces_okIn.mono_okIn ?_
  intro _ rest found
  obtain ⟨blanks, areBlank, rfl⟩ := found
  exact ⟨c :: blanks, ⟨blanks, areBlank, rfl⟩, h⟩

/-- An operation is accepted by its mark. -/
lemma operation_accepts (h : MarkForm c m) (stop : ∀ x ∈ rest.head?, Text.isBlank x = false) :
    (operation c op).Accepts (m ++ rest) op rest :=
  (mark_accepts h stop).andThen (succeed_accepts op rest)

/-- An operation is refused where another character is than its mark. -/
lemma operation_refuses (h : c ∉ cs.head?) : (operation c op).Refuses cs :=
  (mark_refuses h).andThen _

/-- An operation is read from its mark. -/
lemma operation_okIn : (operation c op).Answers cs
    (Outcome.OkIn fun f rest => f = op ∧ ∃ m, MarkForm c m ∧ cs = m ++ rest) F :=
  mark_okIn.andThen_okIn fun _ mid _ h => (succeed_accepts op mid).answers ⟨rfl, h⟩

/-- The operations that one of two marks names. -/
def eitherOf (f g : Operation) : Parser Operation :=
  (operation f.mark f).orElse (operation g.mark g)

section Either

variable {f g : Operation}

/-- Either operation is accepted by its mark. -/
lemma eitherOf_accepts (other : f.mark ≠ g.mark) (h : op = f ∨ op = g) (sign : MarkForm op.mark m)
    (stop : ∀ x ∈ rest.head?, Text.isBlank x = false) :
    (eitherOf f g).Accepts (m ++ rest) op rest := by
  obtain rfl | rfl := h
  · exact (operation_accepts sign stop).orElse _
  · refine (operation_refuses ?_).orElse (operation_accepts sign stop)
    obtain ⟨blanks, -, rfl⟩ := sign
    simpa using Ne.symm other

/-- Both operations are refused where neither mark is. -/
lemma eitherOf_refuses (hf : f.mark ∉ cs.head?) (hg : g.mark ∉ cs.head?) :
    (eitherOf f g).Refuses cs :=
  (operation_refuses hf).orElse (operation_refuses hg)

/-- Either operation is read from its mark. -/
lemma eitherOf_okIn : (eitherOf f g).Answers cs (Outcome.OkIn fun op rest =>
    (op = f ∨ op = g) ∧ ∃ m, MarkForm op.mark m ∧ cs = m ++ rest) F := by
  refine Answers.orElse_okIn (operation_okIn.mono_okIn ?_) (operation_okIn.mono_okIn ?_)
  · intro op rest found
    obtain ⟨rfl, h⟩ := found
    exact ⟨.inl rfl, h⟩
  · intro op rest found
    obtain ⟨rfl, h⟩ := found
    exact ⟨.inr rfl, h⟩

end Either

/-! ## Written expressions are evaluated -/

/-- The parser of what stands in parentheses, to a depth. -/
def nested (n : Nat) : Parser Number :=
  approximation expression n

/-- Neither a blank nor a digit follows, nor one of some marks. -/
def Clear (marks : List Char) (rest : List Char) : Prop :=
  ∀ x ∈ rest.head?, Text.isBlank x = false ∧ x.isDigit = false ∧ x ∉ marks

/-- The marks that an operand of a level would go on after. -/
def Level.inner : Level → List Char
  | .sum => ['^', '*', '/']
  | .product => ['^']
  | .power | .atom => []

/-- What the parsers of a level do over an expression with the value `v`, up to the characters
`rest`. A chain of the level has come there, but need not end there. -/
def Reading (n : Nat) : Level → List Char → Int → List Char → Prop
  | .atom, cs, v, rest => (atom (nested n)).Accepts cs (.int v) rest
  | .power, cs, v, rest => ∃ a mid scanned, (atom (nested n)).Accepts cs a mid ∧
      Iterated (ScanRound (atom (nested n)) powOp) mid scanned rest ∧
      foldRight Operation.apply a scanned = .ok (.int v)
  | .product, cs, v, rest => ∃ a mid, (factor (nested n)).Accepts cs a mid ∧
      Relation.ReflTransGen (ChainStep Operation.apply (factor (nested n)) mulOp) (mid, a)
        (rest, .int v)
  | .sum, cs, v, rest => ∃ a mid, (term (nested n)).Accepts cs a mid ∧
      Relation.ReflTransGen (ChainStep Operation.apply (term (nested n)) addOp) (mid, a)
        (rest, .int v)

section Reading

variable {n : Nat} {v : Int}

/-- A chain of powers ends where no power follows. -/
lemma Reading.factor (h : Reading n .power cs v rest) (stop : '^' ∉ rest.head?) :
    (Arithmetic.factor (nested n)).Accepts cs (.int v) rest := by
  obtain ⟨a, mid, scanned, first, path, folded⟩ := h
  exact first.chainr1 path folded (operation_refuses stop)

/-- A chain of products ends where no product or quotient follows. -/
lemma Reading.term (h : Reading n .product cs v rest) (mul : '*' ∉ rest.head?)
    (div : '/' ∉ rest.head?) : (Arithmetic.term (nested n)).Accepts cs (.int v) rest := by
  obtain ⟨a, mid, first, path⟩ := h
  exact first.chainl1 path (eitherOf_refuses (f := .mul) (g := .div) mul div)

/-- A chain of sums ends where no sum or difference follows. -/
lemma Reading.expression (h : Reading n .sum cs v rest) (add : '+' ∉ rest.head?)
    (sub : '-' ∉ rest.head?) : (Arithmetic.expression (nested n)).Accepts cs (.int v) rest := by
  obtain ⟨a, mid, first, path⟩ := h
  exact first.chainl1 path (eitherOf_refuses (f := .add) (g := .sub) add sub)

end Reading

/-- A mark that must not follow does not. -/
lemma Clear.notMem {marks : List Char} (h : Clear marks rest) (hc : c ∈ marks) : c ∉ rest.head? :=
  fun hx => (h c hx).2.2 hc

/-- The way is clear for fewer marks, too. -/
lemma Clear.mono {marks more : List Char} (h : Clear more rest) (sub : ∀ x ∈ marks, x ∈ more) :
    Clear marks rest :=
  fun x hx => ⟨(h x hx).1, (h x hx).2.1, fun hm => (h x hx).2.2 (sub x hm)⟩

/-- A mark clears the way, except for operands that go on after it. -/
lemma clear_mark {marks : List Char} (h : MarkForm c m)
    (plain : Text.isBlank c = false ∧ c.isDigit = false) (other : c ∉ marks) (rest : List Char) :
    Clear marks (m ++ rest) := by
  obtain ⟨blanks, -, rfl⟩ := h
  simpa [Clear] using ⟨plain.1, plain.2, other⟩

/-- The marks of operations are neither blanks nor digits. -/
lemma Operation.mark_plain (op : Operation) :
    Text.isBlank op.mark = false ∧ op.mark.isDigit = false := by
  cases op <;> decide

section Atoms

variable {n : Nat} {v : Int}

/-- A number is read as an atom. -/
lemma reading_number {ds blanks : List Char} (digits : Text.Decimal v ds) (after : Blanks blanks)
    (clear : Clear [] rest) : Reading n .atom (ds ++ blanks ++ rest) v rest := by
  have stop : ∀ x ∈ (blanks ++ rest).head?, x.isDigit = false := by
    cases blanks with
    | nil => exact fun x hx => (clear x hx).2.1
    | cons blank blanks =>
      simpa using Text.isDigit_of_isBlank (after blank List.mem_cons_self)
  have number : (natural.map Number.int).Accepts (ds ++ (blanks ++ rest)) (.int v)
      (blanks ++ rest) := (natural_accepts digits stop).map _
  rw [List.append_assoc]
  exact (number.followedBy (spaces_accepts after fun x hx => (clear x hx).1)).orElse _

/-- A sum in parentheses is read as an atom. -/
lemma reading_parentheses {opening w closing : List Char} (opens : MarkForm '(' opening)
    (closes : MarkForm ')' closing) (clear : Clear [] rest)
    (begins : ∀ x ∈ (w ++ (closing ++ rest)).head?, Text.isBlank x = false)
    (inner : Reading n .sum (w ++ (closing ++ rest)) v (closing ++ rest)) :
    Reading (n + 1) .atom (opening ++ (w ++ closing) ++ rest) v rest := by
  have ends : Clear ['+', '-'] (closing ++ rest) :=
    clear_mark closes (by decide) (by decide) rest
  have noNumber : (lexeme (natural.map Number.int)).Refuses
      (opening ++ (w ++ (closing ++ rest))) := by
    obtain ⟨blanks, -, rfl⟩ := opens
    exact ((natural_refuses (by simp)).map _).followedBy _
  have sum : (nested (n + 1)).Accepts (w ++ (closing ++ rest)) (.int v) (closing ++ rest) :=
    inner.expression (ends.notMem (by simp)) (ends.notMem (by simp))
  have opened : ((mark '(').andThen (nested (n + 1))).Accepts (opening ++ (w ++ (closing ++ rest)))
      (.int v) (closing ++ rest) := (mark_accepts opens begins).andThen sum
  rw [List.append_assoc, List.append_assoc]
  exact noNumber.orElse (opened.followedBy (mark_accepts closes fun x hx => (clear x hx).1))

end Atoms

/-- A chain goes on over an operation and an operand after it. -/
lemma chain_extend {p : Parser Number} {ops : Parser Operation} {start : List Char × Number}
    {mid : List Char} {a b v : Int}
    (path : Relation.ReflTransGen (ChainStep Operation.apply p ops) start (m ++ mid, .int a))
    (sign : MarkForm op.mark m) (operator : ops.Accepts (m ++ mid) op mid)
    (operand : p.Accepts mid (.int b) rest)
    (applied : op.apply (.int a) (.int b) = .ok (.int v)) :
    Relation.ReflTransGen (ChainStep Operation.apply p ops) start (rest, .int v) := by
  have moved : rest ≠ m ++ mid := sign.ne operand.suffix
  exact path.tail ⟨op, mid, .int b, operator, operand, applied, moved⟩

/-- **Every written expression is read, and evaluated on the way.**

**Proof sketch.** Induction on how the expression is written, with one case for each way. A chain
that goes on to the right of a first operand is extended by a step at its end, and one that goes on
to the left of a last operand by a round at its beginning. What stands in parentheses is shorter
than the text, so there is depth enough for it. -/
lemma Written.reading {l : Level} {t : Tree} {w : List Char} (h : Written l t w) {v : Int}
    (value : t.value? = some v) {n : Nat} {rest : List Char} (depth : (w ++ rest).length ≤ n)
    (clear : Clear l.inner rest) : Reading n l (w ++ rest) v rest := by
  induction h generalizing v n rest with
  | number digits after =>
    cases value
    exact reading_number digits after clear
  | @parentheses t opening w closing opens inner closes ih =>
    -- A copy is taken apart, for `opens` is still needed as it is.
    obtain ⟨blanks, -, rfl⟩ := id opens
    simp only [List.cons_append, List.length_cons, List.length_append] at depth
    obtain ⟨n, rfl⟩ : ∃ k, n = k + 1 := ⟨n - 1, by omega⟩
    refine reading_parentheses opens closes clear (inner.not_isBlank _) (ih value ?_ ?_)
    · simp only [List.length_append]
      omega
    · exact clear_mark closes (by decide) (by decide) rest
  | ofAtom only ih => exact ⟨_, _, [], ih value depth clear, .nil _, rfl⟩
  | @power left right u m v' base sign exponent ihl ihr =>
    obtain ⟨a, b, hl, hr, applied⟩ := Tree.apply_of_value? value
    rw [List.append_assoc, List.append_assoc] at depth ⊢
    have first := ihl hl depth (clear_mark sign (by decide) (by decide) _)
    have shorter : (v' ++ rest).length ≤ n := by
      simp only [List.length_append] at depth ⊢
      omega
    obtain ⟨x, mid, scanned, second, path, folded⟩ := ihr hr shorter clear
    have operator : powOp.Accepts (m ++ (v' ++ rest)) .pow (v' ++ rest) :=
      operation_accepts sign (exponent.not_isBlank rest)
    -- This operator comes before those of the exponent, and is applied after them.
    have round : ScanRound (atom (nested n)) powOp (m ++ (v' ++ rest)) (.pow, x) mid :=
      ⟨_, operator, second, sign.ne second.suffix⟩
    refine ⟨_, _, (.pow, x) :: scanned, first, .cons round path, ?_⟩
    rw [foldRight, folded]
    exact applied
  | ofPower only ih =>
    refine ⟨_, _, (ih value depth (clear.mono (by simp [Level.inner]))).factor ?_, .refl⟩
    exact clear.notMem (by simp [Level.inner])
  | @product op left right u m v' isOp first sign second ihl ihr =>
    obtain ⟨a, b, hl, hr, applied⟩ := Tree.apply_of_value? value
    rw [List.append_assoc, List.append_assoc] at depth ⊢
    obtain ⟨x, mid, operand, path⟩ := ihl hl depth
      (clear_mark sign op.mark_plain (by obtain rfl | rfl := isOp <;> decide) _)
    have shorter : (v' ++ rest).length ≤ n := by
      simp only [List.length_append] at depth ⊢
      omega
    have last := ihr hr shorter (clear.mono (by simp [Level.inner]))
    have operator : mulOp.Accepts (m ++ (v' ++ rest)) op (v' ++ rest) :=
      eitherOf_accepts (f := .mul) (g := .div) (by decide) isOp sign (second.not_isBlank rest)
    refine ⟨x, mid, operand, chain_extend path sign operator (last.factor ?_) applied⟩
    · exact clear.notMem (by simp [Level.inner])
  | ofProduct only ih =>
    refine ⟨_, _, (ih value depth (clear.mono (by simp [Level.inner]))).term ?_ ?_, .refl⟩
    · exact clear.notMem (by simp [Level.inner])
    · exact clear.notMem (by simp [Level.inner])
  | @sum op left right u m v' isOp first sign second ihl ihr =>
    obtain ⟨a, b, hl, hr, applied⟩ := Tree.apply_of_value? value
    rw [List.append_assoc, List.append_assoc] at depth ⊢
    obtain ⟨x, mid, operand, path⟩ := ihl hl depth
      (clear_mark sign op.mark_plain (by obtain rfl | rfl := isOp <;> decide) _)
    have shorter : (v' ++ rest).length ≤ n := by
      simp only [List.length_append] at depth ⊢
      omega
    have last := ihr hr shorter (clear.mono (by simp [Level.inner]))
    have operator : addOp.Accepts (m ++ (v' ++ rest)) op (v' ++ rest) :=
      eitherOf_accepts (f := .add) (g := .sub) (by decide) isOp sign (second.not_isBlank rest)
    refine ⟨x, mid, operand, chain_extend path sign operator (last.term ?_ ?_) applied⟩
    · exact clear.notMem (by simp [Level.inner])
    · exact clear.notMem (by simp [Level.inner])

/-- A written text is accepted, with the value of its tree. -/
lemma parser_accepts {t : Tree} {text : List Char} (written : TextForm t text) {v : Int}
    (value : t.value? = some v) : parser.Accepts text (.int v) [] := by
  obtain ⟨blanks, w, areBlank, written, rfl⟩ := written
  have whole : (fix expression).Accepts w (.int v) [] := by
    refine fix_answers fun n depth => ?_
    have read : Reading n .sum (w ++ []) v [] :=
      written.reading value (by simpa using depth) (by simp [Clear])
    rw [List.append_nil] at read
    exact read.expression (by simp) (by simp)
  have begins := written.not_isBlank []
  rw [List.append_nil] at begins
  have opened : (spaces.andThen (fix expression)).Accepts (blanks ++ w) (.int v) [] :=
    (spaces_accepts areBlank begins).andThen whole
  exact opened.followedBy endOfInput_accepts

/-! ## Only written expressions are evaluated -/

/-- Some tree is written so at a level, whatever the number that was read. -/
def Derives (l : Level) (_ : Number) (w : List Char) : Prop :=
  ∃ t, Written l t w

/-- An operation on some numbers raises the fault. -/
def Raised (fault : Fault) : Prop :=
  ∃ (op : Operation) (a b : Number), op.apply a b = .error fault

section Sound

variable {n : Nat} {inner : Parser Number}

/-- An atom is read from what it is written as, if what stands in parentheses is. -/
lemma atom_okIn
    (nested : ∀ cs, cs.length < n →
      inner.Answers cs (Outcome.OkIn (Reads (Derives .sum) cs)) Raised)
    (depth : cs.length ≤ n) :
    (atom inner).Answers cs (Outcome.OkIn (Reads (Derives .atom) cs)) Raised := by
  have number : (lexeme (natural.map Number.int)).Answers cs
      (Outcome.OkIn (Reads (Derives .atom) cs)) Raised := by
    have unsigned : (natural.map Number.int).Answers cs (Outcome.OkIn fun _ rest =>
        ∃ (k : Nat) (ds : List Char), Text.Decimal k ds ∧ cs = ds ++ rest) Raised := by
      refine Answers.map_okIn (natural_okIn.mono_okIn ?_)
      intro k rest found
      obtain ⟨ds, digits, rfl⟩ := found
      exact ⟨_, ds, digits.value ▸ digits, rfl⟩
    refine unsigned.followedBy_okIn fun _ mid _ h => spaces_okIn.mono_okIn ?_
    intro _ rest found
    obtain ⟨blanks, areBlank, rfl⟩ := found
    obtain ⟨k, ds, digits, rfl⟩ := h
    exact ⟨_, ⟨_, .number digits areBlank⟩, by simp⟩
  have opened : ((mark '(').andThen inner).Answers cs (Outcome.OkIn fun _ rest =>
      ∃ opening t w, MarkForm '(' opening ∧ Written .sum t w ∧ cs = opening ++ w ++ rest)
      Raised := by
    refine mark_okIn.andThen_okIn fun _ mid suffix ⟨opening, opens, h⟩ => ?_
    have shorter := opens.length_lt (List.suffix_refl mid)
    rw [← h] at shorter
    refine (nested mid (by omega)).mono_okIn ?_
    intro _ rest found
    obtain ⟨w, ⟨t, written⟩, rfl⟩ := found
    exact ⟨opening, t, w, opens, written, by simpa using h⟩
  refine number.orElse_okIn (opened.followedBy_okIn fun _ mid _ h => mark_okIn.mono_okIn ?_)
  intro _ rest found
  obtain ⟨closing, closes, rfl⟩ := found
  obtain ⟨opening, t, w, opens, written, rfl⟩ := h
  exact ⟨_, ⟨t, .parentheses opens written closes⟩, by simp⟩

/-- A chain of powers is read from what it is written as. -/
lemma factor_okIn
    (nested : ∀ cs, cs.length < n →
      inner.Answers cs (Outcome.OkIn (Reads (Derives .sum) cs)) Raised)
    (depth : cs.length ≤ n) :
    (factor inner).Answers cs (Outcome.OkIn (Reads (Derives .power) cs)) Raised := by
  -- What was read is an atom after a text before which every power can be put back.
  let Before (rest : List Char) : Prop := ∃ before u, (∃ t, Written .atom t u) ∧
    (∀ w, (∃ t, Written .power t w) → ∃ t, Written .power t (before ++ w)) ∧
      cs = before ++ (u ++ rest)
  have chain : (factor inner).Answers cs (Outcome.OkIn fun _ rest => Before rest) Raised := by
    refine chainr1_okIn (I := Before) (J := fun now mid => ∃ m, MarkForm '^' m ∧ now = m ++ mid)
      ?_ ?_ ?_ ?_
    · refine (atom_okIn nested depth).mono_okIn ?_
      intro _ rest found
      obtain ⟨u, written, rfl⟩ := found
      exact ⟨[], u, written, fun _ h => h, rfl⟩
    · exact fun now _ _ => operation_okIn.mono_okIn fun _ _ h => h.2
    · intro now mid suffix found step
      obtain ⟨before, u, ⟨t, base⟩, back, rfl⟩ := found
      obtain ⟨m, sign, rfl⟩ := step
      have within := suffix.length_le
      refine (atom_okIn nested ?_).mono_okIn ?_
      · have shorter := sign.length_lt (List.suffix_refl mid)
        omega
      · intro _ rest found
        obtain ⟨v, written, rfl⟩ := found
        have moved := sign.ne (List.suffix_append v rest)
        refine ⟨moved, before ++ (u ++ m), v, written, ?_, by simp⟩
        intro w found
        obtain ⟨r, exponent⟩ := found
        have put := back _ ⟨_, .power base sign exponent⟩
        simpa using put
    · exact fun op a b fault h => ⟨op, a, b, h⟩
  refine chain.mono_okIn ?_
  intro _ rest found
  obtain ⟨before, u, ⟨t, written⟩, back, rfl⟩ := found
  exact ⟨_, back u ⟨t, .ofAtom written⟩, by simp⟩

/-- A chain from the left is read from what it is written as, if its operands are. -/
lemma chainl1_reads {l below : Level} {f g : Operation} {p : Parser Number}
    (operand : ∀ cs, cs.length ≤ n →
      p.Answers cs (Outcome.OkIn (Reads (Derives below) cs)) Raised)
    (only : ∀ t w, Written below t w → Written l t w)
    (goesOn : ∀ op left right u m v, op = f ∨ op = g → Written l left u → MarkForm op.mark m →
      Written below right v → Written l (.node op left right) (u ++ (m ++ v)))
    (depth : cs.length ≤ n) :
    (chainl1 Operation.apply p (eitherOf f g)).Answers cs
      (Outcome.OkIn (Reads (Derives l) cs)) Raised := by
  refine chainl1_okIn (I := fun rest => ∃ u, (∃ t, Written l t u) ∧ cs = u ++ rest)
    (J := fun now mid => ∃ op m, (op = f ∨ op = g) ∧ MarkForm op.mark m ∧ now = m ++ mid)
    ?_ ?_ ?_ ?_
  · refine (operand cs depth).mono_okIn ?_
    intro _ rest found
    obtain ⟨w, ⟨t, written⟩, rfl⟩ := found
    exact ⟨w, ⟨t, only t w written⟩, rfl⟩
  · refine fun now _ _ => eitherOf_okIn.mono_okIn ?_
    intro op rest found
    obtain ⟨isOp, m, sign, h⟩ := found
    exact ⟨op, m, isOp, sign, h⟩
  · intro now mid suffix found step
    obtain ⟨u, ⟨t, first⟩, rfl⟩ := found
    obtain ⟨op, m, isOp, sign, rfl⟩ := step
    have within := suffix.length_le
    refine (operand mid ?_).mono_okIn ?_
    · have shorter := sign.length_lt (List.suffix_refl mid)
      omega
    · intro _ rest found
      obtain ⟨v, ⟨r, second⟩, rfl⟩ := found
      have moved := sign.ne (List.suffix_append v rest)
      exact ⟨moved, _, ⟨_, goesOn op t r u m v isOp first sign second⟩, by simp⟩
  · exact fun op a b fault h => ⟨op, a, b, h⟩

/-- A sum is read from what it is written as. -/
lemma expression_okIn
    (nested : ∀ cs, cs.length < n →
      inner.Answers cs (Outcome.OkIn (Reads (Derives .sum) cs)) Raised)
    (depth : cs.length ≤ n) :
    (expression inner).Answers cs (Outcome.OkIn (Reads (Derives .sum) cs)) Raised := by
  have powers : ∀ cs : List Char, cs.length ≤ n → (factor inner).Answers cs
      (Outcome.OkIn (Reads (Derives .power) cs)) Raised := fun cs => factor_okIn nested
  have products : ∀ cs : List Char, cs.length ≤ n → (term inner).Answers cs
      (Outcome.OkIn (Reads (Derives .product) cs)) Raised :=
    fun cs => chainl1_reads (f := .mul) (g := .div) powers (fun _ _ => .ofPower)
      fun _ _ _ _ _ _ => .product
  exact chainl1_reads (f := .add) (g := .sub) products (fun _ _ => .ofProduct)
    (fun _ _ _ _ _ _ => .sum) depth

end Sound

/-- Only what is written as a sum is read to any depth that is greater than the text is long. -/
lemma nested_okIn (n : Nat) : ∀ cs, cs.length < n →
    (nested n).Answers cs (Outcome.OkIn (Reads (Derives .sum) cs)) Raised := by
  induction n with
  | zero => exact fun cs depth => absurd depth (Nat.not_lt_zero _)
  | succ n ih => exact fun cs depth => expression_okIn ih (Nat.lt_succ_iff.1 depth)

/-- Only written texts are accepted. -/
lemma parser_okIn {text : List Char} :
    parser.Answers text (Outcome.OkIn fun _ _ => ∃ t, TextForm t text) Raised := by
  have opened : (spaces.andThen (fix expression)).Answers text (Outcome.OkIn fun _ rest =>
      ∃ blanks t w, Blanks blanks ∧ Written .sum t w ∧ text = blanks ++ w ++ rest) Raised := by
    refine spaces_okIn.andThen_okIn fun _ mid _ ⟨blanks, areBlank, h⟩ => ?_
    have sum : (fix expression).Answers mid (Outcome.OkIn (Reads (Derives .sum) mid)) Raised :=
      fix_answers fun n depth => expression_okIn (nested_okIn n) depth
    refine sum.mono_okIn ?_
    intro _ rest found
    obtain ⟨w, ⟨t, written⟩, rfl⟩ := found
    exact ⟨blanks, t, w, areBlank, written, by simpa using h⟩
  refine opened.followedBy_okIn fun _ mid _ h => endOfInput_okIn.mono_okIn ?_
  intro _ rest found
  obtain ⟨rfl, -⟩ := found
  obtain ⟨blanks, t, w, areBlank, written, h⟩ := h
  exact ⟨t, blanks, w, areBlank, written, by simpa using h⟩

/-! ## The evaluator -/

/-- **The evaluator is right.** For a text that writes a tree with a value it gives that value. For
a text that writes no tree it gives no value: it gives an error, or an operation raises a fault.

**Proof sketch.** Every written text is accepted with the value of its tree (`parser_accepts`), and
what is accepted is a written text (`parser_okIn`). The run comes to an end because what stands in
parentheses is shorter than the text around it. -/
theorem evaluate_correct :
    (∀ (t : Tree) (v : Int) (text : String), t.value? = some v → TextForm t text.toList →
      (evaluate text).ending = .done (.ok (.int v))) ∧
      ∀ text, (∃ t, TextForm t text.toList) ∨ (∃ e, (evaluate text).ending = .done (.error e)) ∨
        ∃ fault, Raised fault ∧ (evaluate text).ending = .raised fault := by
  refine ⟨fun t v text value written => ?_, fun text => ?_⟩
  · obtain ⟨_, rfl, done⟩ := ((parser_accepts written value).ending
      (length_lt_sufficient 1 text false)).resolve_right fun ⟨_, h, _⟩ => h
    exact done
  · obtain ⟨o, sound, done⟩ | raised := parser_okIn.ending (length_lt_sufficient 1 text false)
    · cases o with
      | ok value rest => exact .inl sound
      | error rest e => exact .inr (.inl ⟨e, done⟩)
    · exact .inr (.inr raised)

/-- A power binds tighter than a difference, and blanks may stand after every number and mark. -/
theorem evaluate_correct_power :
    let t := Tree.node .sub (.node .pow (.literal 2) (.literal 3)) (.literal 9)
    t.value? = some (-1) ∧ TextForm t " 2 ^ 3 - 9".toList ∧
      (evaluate " 2 ^ 3 - 9").ending = .done (.ok (.int (-1))) := by
  intro t
  have blank : Blanks [' '] := by simpa [Blanks] using (by decide : Text.isBlank ' ' = true)
  have two : Text.Decimal (2 : Nat) ['2'] := ⟨by simp, by simp, rfl⟩
  have three : Text.Decimal (3 : Nat) ['3'] := ⟨by simp, by simp, rfl⟩
  have nine : Text.Decimal (9 : Nat) ['9'] := ⟨by simp, by simp, rfl⟩
  have power : Written .power _ ['2', ' ', '^', ' ', '3', ' '] :=
    .power (.number two blank) ⟨[' '], blank, rfl⟩ (.ofAtom (.number three blank))
  have noBlank : Blanks [] := by simp [Blanks]
  have last : Written .atom (.literal 9) ['9'] := .number nine noBlank
  have difference : Written .sum t _ :=
    .sum (.inr rfl) (.ofProduct (.ofPower power)) ⟨[' '], blank, rfl⟩ (.ofPower (.ofAtom last))
  have written : TextForm t " 2 ^ 3 - 9".toList := ⟨[' '], _, blank, difference, rfl⟩
  exact ⟨rfl, written, evaluate_correct.1 t (-1) _ rfl written⟩

end Arithmetic

end ParserCombinators
