import ParserCombinators.Proofs.Parser.Answer.Form
import ParserCombinators.Proofs.Text.Decimal

/-!
# Answers of the parsers for characters

Single characters, literals, runs of characters, blanks and decimal numbers over a text. Each
accepts certain texts and refuses all others.

## Main results

* `Parser.ofClass_accepts`, `Parser.char_accepts`, `Parser.literal_accepts` — what is accepted, with
  `Parser.ofClass_refuses` and its kin for what is refused.
* `Parser.ofClass_okIn`, `Parser.char_okIn`, `Parser.literal_okIn` — nothing else is accepted.
* `Parser.spaces_accepts`, `Parser.natural_accepts` — runs up to the first other character.
-/

set_option autoImplicit false

namespace ParserCombinators

/-! ## Characters as values -/

/-- Characters are the same symbol exactly if they are equal. -/
lemma Value.same_ofChar (x y : Char) : (Value.ofChar x).same (.ofChar y) = (x == y) := by
  rw [Bool.eq_iff_iff]
  simp [Value.ofChar, Value.same, String.singleton_inj]

/-- Characters one after the other are the text of them. -/
lemma Value.joinTexts_map_ofChar (xs : List Char) :
    Value.joinTexts (xs.map Value.ofChar) = .ok (String.ofList xs) := by
  have texts : xs.map Value.ofChar = (xs.map String.singleton).map Value.str := by
    rw [List.map_map]
    rfl
  have joined : String.join (xs.map String.singleton) = String.ofList xs := by
    rw [← String.toList_inj]
    simp [String.toList_join, List.flatMap_map]
  rw [texts, joinTexts_map_str, joined]

namespace Parser

variable {x : Char} {cs rest : List Char} {F : Fault → Prop}

/-! ## Single characters -/

section OfClass

variable {k : CharacterClass}

/-- A character in the class. -/
lemma ofClass_accepts (h : k.holds [x] = true) :
    (ofClass k).Accepts (x :: rest) (.ofChar x) rest :=
  token_accepts (by simp [Value.ofChar, CharacterClass.test, h])

/-- The end of the text, or a character that is not in the class. -/
lemma ofClass_refuses (h : ∀ x ∈ cs.head?, k.holds [x] = false) : (ofClass k).Refuses cs :=
  token_refuses fun x hx => by simp [Value.ofChar, CharacterClass.test, h x hx]

/-- Nothing but a character in the class. -/
lemma ofClass_okIn : (ofClass k).Answers cs
    (Outcome.OkIn fun v rest => ∃ x, cs = x :: rest ∧ k.holds [x] = true ∧ v = .ofChar x) F := by
  cases cs with
  | nil => exact (ofClass_refuses (by simp)).answers fun _ => trivial
  | cons x rest =>
    by_cases h : k.holds [x] = true
    · exact (ofClass_accepts h).answers ⟨x, rfl, h, rfl⟩
    · exact (ofClass_refuses (by simpa using h)).answers fun _ => trivial

end OfClass

/-- The character itself. -/
lemma char_accepts (x : Char) (rest : List Char) :
    (char x).Accepts (x :: rest) (.ofChar x) rest :=
  token_accepts (by simp [Value.same_ofChar])

/-- The end of the text, or another character. -/
lemma char_refuses (h : x ∉ cs.head?) : (char x).Refuses cs :=
  token_refuses fun y hy => by
    have other : y ≠ x := by
      rintro rfl
      exact h hy
    simp [Value.same_ofChar, other]

/-- Nothing but the character itself. -/
lemma char_okIn : (char x).Answers cs (Outcome.OkIn fun _ rest => cs = x :: rest) F := by
  by_cases h : x ∈ cs.head?
  · obtain ⟨rest, rfl⟩ := List.head?_eq_some_iff.1 h
    exact (char_accepts x rest).answers rfl
  · exact (char_refuses h).answers fun _ => trivial

/-! ## Literals -/

/-- The input agrees with a text exactly if that text is ahead. -/
lemma firstMismatch_eq_none_iff {c : Cursor} (hc : c.OverText) (ts : List Char) (i : Nat) :
    firstMismatch c i (ts.map Value.ofChar) = none ↔ ts <+: c.ahead.drop i := by
  induction ts generalizing i with
  | nil => simp [firstMismatch]
  | cons t ts ih =>
    rw [List.map_cons, firstMismatch, hc.get?_eq]
    cases ahead : c.ahead.drop i with
    | nil => simp
    | cons x rest =>
      have next : c.ahead.drop (i + 1) = rest := by
        rw [← List.drop_drop, ahead]
        rfl
      simp only [List.head?_cons, Option.map_some, Value.same_ofChar, List.cons_prefix_cons]
      by_cases same : x = t
      · simp [same, ih, next]
      · simp [same, Ne.symm same]

section Literal

variable {t : String}

/-- The characters of the text. -/
lemma literal_accepts (t : String) (rest : List Char) :
    (literal (.str t)).Accepts (t.toList ++ rest) (.str t) rest := by
  intro s c hc ahead fuel
  have agrees := (firstMismatch_eq_none_iff hc.overText t.toList 0).2 (by simp [ahead])
  have within : t.toList.length ≤ c.remaining := by simp [hc.overText.remaining_eq, ahead]
  simp only [literal, Value.items?, symbols, look_of_readable hc.overText.isReadable,
    Run.pure_bind', agrees, List.length_map]
  refine ⟨Cursor.reaches_advance within, congrArg (Outcome.ok _) ?_⟩
  rw [Cursor.ahead_advance within, ahead, List.drop_left]

/-- Any other characters. -/
lemma literal_refuses (h : ¬ t.toList <+: cs) : (literal (.str t)).Refuses cs := by
  intro s c hc ahead fuel
  subst ahead
  simp only [literal, Value.items?, symbols, look_of_readable hc.overText.isReadable,
    Run.pure_bind']
  cases differs : firstMismatch c 0 (t.toList.map Value.ofChar) with
  | none =>
    have there := (firstMismatch_eq_none_iff hc.overText t.toList 0).1 differs
    exact absurd there (by simpa using h)
  | some mismatch => exact ⟨Cursor.Reaches.refl c, _, rfl⟩

/-- Nothing but the characters of the text. -/
lemma literal_okIn :
    (literal (.str t)).Answers cs (Outcome.OkIn fun _ rest => cs = t.toList ++ rest) F := by
  by_cases h : t.toList <+: cs
  · obtain ⟨rest, rfl⟩ := h
    exact (literal_accepts t rest).answers rfl
  · exact (literal_refuses h).answers fun _ => trivial

end Literal

/-! ## Runs of characters -/

/-- A path of rounds that read a character each, in the form that `writing` gives it. -/
lemma Iterated.chars {P : Char → Prop} {writing : Char → List Char} {vs : List Value}
    (h : Iterated (Reads fun v w => ∃ x, P x ∧ v = .ofChar x ∧ w = writing x) cs vs rest) :
    ∃ xs : List Char, (∀ x ∈ xs, P x) ∧ vs = xs.map Value.ofChar ∧
      cs = xs.flatMap writing ++ rest := by
  induction h with
  | nil cs => exact ⟨[], by simp, rfl, rfl⟩
  | cons first others ih =>
    obtain ⟨_, ⟨x, hx, rfl, rfl⟩, rfl⟩ := first
    obtain ⟨xs, hxs, rfl, rfl⟩ := ih
    exact ⟨x :: xs, by simpa using ⟨hx, hxs⟩, rfl, by simp⟩

/-- Over characters that are written in a form that a parser accepts there is a path of rounds. -/
lemma iterated_chars {p : Parser Value} {writing : Char → List Char} {xs : List Char}
    (accepts : ∀ x ∈ xs, ∀ rest, p.Accepts (writing x ++ rest) (.ofChar x) rest)
    (nonempty : ∀ x ∈ xs, writing x ≠ []) :
    Iterated (Round p) (xs.flatMap writing ++ rest) (xs.map Value.ofChar) rest := by
  induction xs with
  | nil => exact .nil rest
  | cons x xs ih =>
    simp only [List.forall_mem_cons] at accepts nonempty
    rw [List.flatMap_cons, List.append_assoc]
    exact .cons ((accepts.1 _).round nonempty.1) (ih accepts.2 nonempty.2)

/-- Over characters of a class there is a path of rounds. -/
lemma iterated_ofClass {k : CharacterClass} {xs : List Char} (h : ∀ x ∈ xs, k.holds [x] = true) :
    Iterated (Round (ofClass k)) (xs ++ rest) (xs.map Value.ofChar) rest := by
  have path : Iterated (Round (ofClass k)) (xs.flatMap (fun x => [x]) ++ rest)
      (xs.map Value.ofChar) rest :=
    iterated_chars (fun x hx rest => ofClass_accepts (h x hx)) (by simp)
  simpa using path

/-- Characters that are accepted one by one are accepted as a text. -/
lemma Accepts.text {p : Parser (List Value)} {xs : List Char}
    (hp : p.Accepts cs (xs.map Value.ofChar) rest) :
    (p.transform Value.joinTexts).Accepts cs (String.ofList xs) rest :=
  hp.transform (Value.joinTexts_map_ofChar xs)

/-- A text is accepted only where its characters are. -/
lemma Answers.text_okIn {p : Parser (List Value)} {R : List Char → List Char → Prop}
    (hp : p.Answers cs
      (Outcome.OkIn fun vs rest => ∃ xs : List Char, vs = xs.map Value.ofChar ∧ R xs rest) F) :
    (p.transform Value.joinTexts).Answers cs (Outcome.OkIn fun t rest => R t.toList rest) F := by
  refine hp.transform_okIn ?_ ?_
  · intro vs rest t found joined
    obtain ⟨xs, rfl, h⟩ := found
    rw [Value.joinTexts_map_ofChar] at joined
    cases joined
    rwa [String.toList_ofList]
  · intro vs rest fault found raised
    obtain ⟨xs, rfl, -⟩ := found
    rw [Value.joinTexts_map_ofChar] at raised
    cases raised

/-! ### Blanks -/

/-- A blank as a class of characters. -/
@[simp]
lemma space_holds (x : Char) : CharacterClass.space.holds [x] = Text.isBlank x := by
  simp [CharacterClass.space, Text.isAll]

/-- All blanks up to the first other character. -/
lemma spaces_accepts {blanks : List Char} (h : ∀ x ∈ blanks, Text.isBlank x = true)
    (stop : ∀ x ∈ rest.head?, Text.isBlank x = false) : spaces.Accepts (blanks ++ rest) () rest :=
  (iterated_ofClass (by simpa using h)).skipMany_accepts (ofClass_refuses (by simpa using stop))

/-- Nothing but blanks. -/
lemma spaces_okIn : spaces.Answers cs (Outcome.OkIn fun _ rest =>
    ∃ blanks, (∀ x ∈ blanks, Text.isBlank x = true) ∧ cs = blanks ++ rest) F := by
  have stop : ∀ x ∈ (cs.dropWhile Text.isBlank).head?, Text.isBlank x = false := by
    intro x hx
    simpa [Option.mem_def.1 hx] using List.head?_dropWhile_not Text.isBlank cs
  have inside : ∀ x ∈ cs.takeWhile Text.isBlank, Text.isBlank x = true :=
    fun x hx => List.mem_takeWhile_imp hx
  have all := spaces_accepts inside stop
  rw [List.takeWhile_append_dropWhile] at all
  exact all.answers ⟨_, inside, List.takeWhile_append_dropWhile.symm⟩

/-! ### Decimal numbers -/

/-- A run of digits is read as the number that it denotes. -/
lemma readDigits_map_ofChar {n : Int} {ds : List Char} (h : Text.Decimal n ds) :
    readDigits (ds.map Value.ofChar) = .ok n := by
  obtain ⟨m, read, rfl⟩ := Option.map_eq_some_iff.1 h.read?_eq
  rw [readDigits, Value.joinTexts_map_ofChar]
  simp only [Bind.bind, Except.bind, String.toList_ofList, read]
  rfl

/-- All digits up to the first other character, with the number that they denote. -/
lemma natural_accepts {n : Int} {ds : List Char} (h : Text.Decimal n ds)
    (stop : ∀ x ∈ rest.head?, x.isDigit = false) : natural.Accepts (ds ++ rest) n rest := by
  obtain ⟨d, ds, rfl⟩ := List.exists_cons_of_ne_nil h.nonempty
  obtain ⟨digit, digits⟩ := List.forall_mem_cons.1 h.digits
  have first : (ofClass .digit).Accepts (d :: (ds ++ rest)) (.ofChar d) (ds ++ rest) :=
    ofClass_accepts digit
  exact (first.many1 (iterated_ofClass digits) (ofClass_refuses stop)).transform
    (readDigits_map_ofChar h)

/-- The end of the text, or a character that is no digit. -/
lemma natural_refuses (h : ∀ x ∈ cs.head?, x.isDigit = false) : natural.Refuses cs :=
  (ofClass_refuses h : (ofClass .digit).Refuses cs).many1.transform _

/-- Nothing but a run of digits. -/
lemma natural_okIn : natural.Answers cs (Outcome.OkIn (Reads Text.Decimal cs)) F := by
  obtain none | ⟨n, ds, rest, rfl, decimal, stop⟩ := Text.noDigitFirst_or_decimal cs
  · exact (natural_refuses none).answers fun _ => trivial
  · exact (natural_accepts decimal stop).answers ⟨ds, decimal, rfl⟩

end Parser

end ParserCombinators
