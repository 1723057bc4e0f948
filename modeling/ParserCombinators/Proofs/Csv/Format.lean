import ParserCombinators.Csv.Table
import ParserCombinators.Proofs.Parser.Answer.Character

/-!
# The format of comma-separated tables

The reader accepts exactly the texts that write a table, and reads the table that they write. A
field can be written plain, if it holds no comma, line break or double quote, or between double
quotes with every double quote in it doubled. A row is written as its fields with commas between
them and an end of line, and a table as its rows one after the other.

## Main definitions

* `Csv.FieldForm`, `Csv.FieldsForm` — how a field is written, and the fields of a row.
* `Csv.LineEnd`, `Csv.RowForm` — how an end of line and a row are written.
* `Csv.TableForm` — how tables are written.
* `Csv.closed` — a text with an end at its last line.

## Main results

* `Csv.read_iff_tableForm` — the reader gives a table exactly for the texts that write it, and an
  error for all that write none.
-/

set_option autoImplicit false

namespace ParserCombinators

namespace Csv

open ParserCombinators.Parser

/-! ## Written forms -/

/-- A character between quotes: a double quote is written twice. -/
def doubled (x : Char) : List Char :=
  if x = '\"' then ['\"', '\"'] else [x]

/-- How a field is written. -/
inductive FieldForm (field : String) : List Char → Prop where
  /-- As it is, if it holds no comma, line break or double quote. -/
  | plain (free : ∀ x ∈ field.toList, x ∉ [',', '\r', '\n', '\"']) : FieldForm field field.toList
  /-- Between double quotes, with every double quote in it doubled. -/
  | quoted : FieldForm field ('\"' :: field.toList.flatMap doubled ++ ['\"'])

/-- How the end of a line is written. -/
inductive LineEnd : List Char → Prop where
  /-- A line feed. -/
  | lf : LineEnd ['\n']
  /-- A carriage return and a line feed. -/
  | crlf : LineEnd ['\r', '\n']

/-- How the fields of a row are written: at least one, with commas between them. -/
def FieldsForm (fields : List String) (w : List Char) : Prop :=
  fields ≠ [] ∧ ∃ ws, List.Forall₂ FieldForm fields ws ∧ w = [','].intercalate ws

/-- How a row is written: its fields and an end of line. -/
def RowForm (fields : List String) (w : List Char) : Prop :=
  ∃ v stop, FieldsForm fields v ∧ LineEnd stop ∧ w = v ++ stop

/-- How a table is written: its rows, one after the other. -/
def TableForm (rows : List (List String)) (w : List Char) : Prop :=
  ∃ lines, List.Forall₂ RowForm rows lines ∧ w = lines.flatten

/-- A text with a line feed added to it unless it is empty or ends in one. -/
def closed (cs : List Char) : List Char :=
  if cs = [] ∨ cs.getLast? = some '\n' then cs else cs ++ ['\n']

/-- The reader adds the end of the last line. -/
lemma toList_terminated (text : String) : (terminated text).toList = closed text.toList := by
  have ends : text.endsWith "\n" = true ↔ text.toList.getLast? = some '\n' := by
    rw [← List.singleton_suffix_iff_getLast?_eq_some, ← String.endsWith_toSlice,
      String.Slice.endsWith_string_iff, String.copy_toSlice]
    rfl
  unfold terminated closed
  by_cases h : text.toList = [] ∨ text.toList.getLast? = some '\n'
  · have : (text.isEmpty || text.endsWith "\n") = true := by simpa [ends] using h
    rw [if_pos this, if_pos h]
  · have : ¬ (text.isEmpty || text.endsWith "\n") = true := by simpa [ends] using h
    rw [if_neg this, if_neg h, String.toList_append]
    rfl

/-- A written table is empty or ends in a line feed. -/
lemma TableForm.closed_eq {rows : List (List String)} {w : List Char} (h : TableForm rows w) :
    closed w = w := by
  obtain ⟨lines, written, rfl⟩ := h
  refine if_pos ?_
  induction written with
  | nil => exact .inl rfl
  | cons first _ ih =>
    obtain ⟨v, stop, -, ends, rfl⟩ := first
    have last : (v ++ stop).getLast? = some '\n' := by cases ends <;> simp
    rw [List.flatten_cons]
    rcases ih with others | others
    · rw [others, List.append_nil]
      exact .inr last
    · simp [others]

/-- A character that must not be in a plain field. -/
lemma occursIn_reserved (x : Char) : Text.occursIn [x] reserved = true ↔ x ∈ reserved := by
  simp [reserved, Text.occursIn, List.isPrefixOf]

variable {cs rest w : List Char} {F : Fault → Prop}

/-! ## What is read is written -/

/-- A character between quotes is read from what it is written as. -/
lemma quotedChar_okIn : quotedChar.Answers cs
    (Outcome.OkIn (Reads (fun v w => ∃ x, True ∧ v = .ofChar x ∧ w = doubled x) cs)) F := by
  refine Answers.orElse_okIn (ofClass_okIn.mono_okIn ?_) (literal_okIn.mono_okIn ?_).map_okIn
  · intro v rest found
    obtain ⟨x, rfl, other, rfl⟩ := found
    have other : x ≠ '\"' := by simpa using other
    exact ⟨[x], ⟨x, trivial, rfl, (if_neg other).symm⟩, rfl⟩
  · rintro v rest rfl
    exact ⟨['\"', '\"'], ⟨'\"', trivial, rfl, rfl⟩, rfl⟩

/-- A field between quotes is read from what it is written as. -/
lemma quotedField_okIn : quotedField.Answers cs (Outcome.OkIn (Reads FieldForm cs)) F := by
  have content : ((char '\"').andThen (many quotedChar)).Answers cs
      (Outcome.OkIn fun vs rest => ∃ xs : List Char, vs = xs.map Value.ofChar ∧
        cs = '\"' :: xs.flatMap doubled ++ rest) F := by
    refine char_okIn.andThen_okIn fun _ mid _ opening => ?_
    refine (many_okIn fun rest _ => quotedChar_okIn).mono_okIn fun vs rest path => ?_
    obtain ⟨xs, -, rfl, rfl⟩ := Iterated.chars path
    exact ⟨xs, rfl, opening⟩
  have inside : ((many quotedChar).between (char '\"') (char '\"')).Answers cs
      (Outcome.OkIn fun vs rest => ∃ xs : List Char, vs = xs.map Value.ofChar ∧
        cs = '\"' :: xs.flatMap doubled ++ '\"' :: rest) F := by
    refine content.followedBy_okIn fun vs mid _ h => char_okIn.mono_okIn ?_
    rintro - rest rfl
    exact h
  refine inside.text_okIn.mono_okIn fun field rest h => ⟨_, .quoted, ?_⟩
  simpa using h

/-- A plain field is read from what it is written as. -/
lemma plainField_okIn : plainField.Answers cs (Outcome.OkIn (Reads FieldForm cs)) F := by
  have round : ∀ rest, plainChar.Answers rest (Outcome.OkIn
      (Reads (fun v w => ∃ x, x ∉ reserved ∧ v = .ofChar x ∧ w = [x]) rest)) F := by
    refine fun rest => ofClass_okIn.mono_okIn ?_
    intro v next found
    obtain ⟨x, rfl, other, rfl⟩ := found
    have other : x ∉ reserved := by simpa [← occursIn_reserved] using other
    exact ⟨[x], ⟨x, other, rfl, rfl⟩, rfl⟩
  have content : (many plainChar).Answers cs (Outcome.OkIn fun vs rest =>
      ∃ xs : List Char, vs = xs.map Value.ofChar ∧ (∀ x ∈ xs, x ∉ reserved) ∧ cs = xs ++ rest)
      F := by
    refine (many_okIn fun rest _ => round rest).mono_okIn fun vs rest path => ?_
    obtain ⟨xs, free, rfl, rfl⟩ := Iterated.chars path
    exact ⟨xs, rfl, free, by simp⟩
  exact content.text_okIn.mono_okIn fun field rest ⟨free, h⟩ => ⟨_, .plain free, h⟩

/-- A field is read from what it is written as. -/
lemma field_okIn : field.Answers cs (Outcome.OkIn (Reads FieldForm cs)) F :=
  quotedField_okIn.orElse_okIn plainField_okIn

/-- A row is read from what its fields are written as. -/
lemma row_okIn : row.Answers cs (Outcome.OkIn (Reads FieldsForm cs)) F := by
  have other : ∀ rest, ((char ',').andThen field).Answers rest (Outcome.OkIn
      (Reads (fun field w => ∃ v, FieldForm field v ∧ w = [','] ++ v) rest)) F := by
    refine fun rest => char_okIn.andThen_okIn fun _ mid _ comma => field_okIn.mono_okIn ?_
    intro field next found
    obtain ⟨v, written, rfl⟩ := found
    exact ⟨_, ⟨v, written, rfl⟩, comma⟩
  refine (sepBy1_okIn field_okIn fun rest _ => other rest).mono_okIn ?_
  intro fields rest found
  obtain ⟨field, mid, more, rfl, ⟨w, first, rfl⟩, path⟩ := found
  obtain ⟨ws, separated, rfl⟩ := path.forms
  obtain ⟨vs, others, rfl⟩ := (forms_map _).1 separated
  refine ⟨_, ⟨by simp, w :: vs, .cons first others, rfl⟩, ?_⟩
  simp [intercalate_cons]

/-- An end of line is read from what it is written as. -/
lemma endOfLine_okIn : endOfLine.Answers cs
    (Outcome.OkIn fun _ rest => ∃ stop, LineEnd stop ∧ cs = stop ++ rest) F := by
  refine Answers.orElse_okIn (char_okIn.mono_okIn fun _ rest h => ⟨_, .lf, h⟩) ?_
  refine char_okIn.andThen_okIn fun _ mid _ h => char_okIn.mono_okIn fun _ rest h' => ?_
  subst h h'
  exact ⟨_, .crlf, rfl⟩

/-- A table is read from what it is written as, to the end of the text. -/
lemma table_okIn :
    table.Answers cs (Outcome.OkIn fun rows _ => TableForm rows cs) F := by
  have round : ∀ rest, (row.followedBy endOfLine).Answers rest
      (Outcome.OkIn (Reads RowForm rest)) F := by
    refine fun rest => row_okIn.followedBy_okIn fun fields mid _ h => endOfLine_okIn.mono_okIn ?_
    intro _ next found
    obtain ⟨stop, ends, rfl⟩ := found
    obtain ⟨w, written, rfl⟩ := h
    exact ⟨w ++ stop, ⟨w, stop, written, ends, rfl⟩, by simp⟩
  refine (many_okIn fun rest _ => round rest).followedBy_okIn fun rows mid _ path => ?_
  refine endOfInput_okIn.mono_okIn ?_
  intro _ rest found
  obtain ⟨rfl, -⟩ := found
  obtain ⟨lines, written, rfl⟩ := path.forms
  exact ⟨lines, written, by simp⟩

/-! ## What is written is read -/

/-- What may follow a field. -/
def Follows (rest : List Char) : Prop :=
  ∀ x ∈ rest.head?, x ∈ [',', '\r', '\n']

/-- A character between quotes is accepted as it is written. -/
lemma quotedChar_accepts (x : Char) (rest : List Char) :
    quotedChar.Accepts (doubled x ++ rest) (.ofChar x) rest := by
  unfold doubled
  split
  next h =>
    subst h
    exact (ofClass_refuses (by simp)).orElse ((literal_accepts "\"\"" rest).map _)
  next other => exact (ofClass_accepts (by simpa using other)).orElse _

/-- The closing quote is no character between quotes. -/
lemma quotedChar_refuses (h : Follows rest) : quotedChar.Refuses ('\"' :: rest) := by
  refine (ofClass_refuses (by simp)).orElse ((literal_refuses fun twice => ?_).map _)
  obtain ⟨tail, rfl⟩ : ['\"'] <+: rest := (List.cons_prefix_cons.1 twice).2
  have reserved := h '\"' rfl
  simp at reserved

/-- A field between quotes is accepted as it is written. -/
lemma quotedField_accepts (field : String) (h : Follows rest) :
    quotedField.Accepts ('\"' :: field.toList.flatMap doubled ++ '\"' :: rest) field rest := by
  have path : Iterated (Round quotedChar) (field.toList.flatMap doubled ++ '\"' :: rest)
      (field.toList.map Value.ofChar) ('\"' :: rest) := by
    refine iterated_chars (fun x _ rest => quotedChar_accepts x rest) fun x _ => ?_
    unfold doubled
    split <;> simp
  have content := path.many_accepts (quotedChar_refuses h)
  have inside : ((many quotedChar).between (char '\"') (char '\"')).Accepts _ _ rest :=
    Accepts.followedBy ((char_accepts '\"' _).andThen content) (char_accepts '\"' rest)
  have text := inside.text
  rwa [String.ofList_toList] at text

/-- A plain field is accepted as it is written. -/
lemma plainField_accepts {field : String} (free : ∀ x ∈ field.toList, x ∉ reserved)
    (h : Follows rest) : plainField.Accepts (field.toList ++ rest) field rest := by
  have path : Iterated (Round plainChar) (field.toList ++ rest) (field.toList.map Value.ofChar)
      rest := iterated_ofClass fun x hx => by simpa [← occursIn_reserved] using free x hx
  have stop : plainChar.Refuses rest := by
    refine ofClass_refuses fun x hx => ?_
    have among : x ∈ reserved := List.mem_append_left ['\"'] (h x hx)
    simpa [← occursIn_reserved] using among
  have text := (path.many_accepts stop).text
  rwa [String.ofList_toList] at text

/-- A field is accepted as it is written. -/
lemma field_accepts {field : String} {w : List Char} (written : FieldForm field w)
    (h : Follows rest) : Csv.field.Accepts (w ++ rest) field rest := by
  cases written with
  | plain free =>
    refine Refuses.orElse (Refuses.transform ?_ _) (plainField_accepts free h)
    refine Refuses.followedBy (Refuses.andThen (char_refuses fun opening => ?_) _) _
    cases hf : field.toList with
    | nil =>
      rw [hf] at opening
      simpa using h _ opening
    | cons x xs =>
      rw [hf] at opening free
      obtain rfl : x = '\"' := by simpa using opening
      simp at free
  | quoted =>
    rw [List.append_assoc]
    exact (quotedField_accepts field h).orElse plainField

/-- Fields of a row are accepted as they are written. -/
lemma row_accepts {fields : List String} {w : List Char} (written : FieldsForm fields w)
    (h : Follows rest) (last : ',' ∉ rest.head?) : row.Accepts (w ++ rest) fields rest := by
  obtain ⟨nonempty, ws, written, rfl⟩ := written
  cases written with
  | nil => exact absurd rfl nonempty
  | @cons field w fields ws first others =>
    rw [intercalate_cons, List.append_assoc]
    have others := (forms_map ([','] ++ ·)).2 ⟨ws, others, rfl⟩
    have path := iterated_of_forms (Round ((char ',').andThen Csv.field)) Follows others ?_ ?_ h
    · refine Accepts.sepBy1 (field_accepts first ?_) path ((char_refuses last).andThen _)
      cases ws with
      | nil => simpa using h
      | cons v ws => simp [Follows]
    · intro field _ rest form h
      obtain ⟨v, written, rfl⟩ := form
      exact Accepts.round ((char_accepts ',' _).andThen (field_accepts written h)) (by simp)
    · intro field _ rest form
      obtain ⟨v, written, rfl⟩ := form
      simp [Follows]

/-- An end of line is accepted as it is written. -/
lemma endOfLine_accepts {stop : List Char} (h : LineEnd stop) (rest : List Char) :
    endOfLine.Accepts (stop ++ rest) (.ofChar '\n') rest := by
  cases h with
  | lf => exact (char_accepts '\n' rest).orElse crlf
  | crlf =>
    exact (char_refuses (by simp)).orElse ((char_accepts '\r' _).andThen (char_accepts '\n' rest))

/-- A table is accepted as it is written, if nothing follows. -/
lemma table_accepts {rows : List (List String)} {w : List Char} (written : TableForm rows w) :
    table.Accepts w rows [] := by
  obtain ⟨lines, written, rfl⟩ := written
  -- At the end of the text there is a row of one empty field, but no end of line after it.
  have stop : (row.followedBy endOfLine).Refuses [] := by
    have plain : FieldForm "" [] := .plain (by simp)
    have empty : FieldsForm [""] [] := ⟨by simp, [[]], .cons plain .nil, rfl⟩
    have blank : row.Accepts [] [""] [] := row_accepts empty (by simp [Follows]) (by simp)
    have unended : endOfLine.Refuses [] :=
      (char_refuses (by simp)).orElse ((char_refuses (by simp)).andThen _)
    exact blank.followedBy_refuses unended
  have path : Iterated (Round (row.followedBy endOfLine)) (lines.flatten ++ []) rows [] :=
    iterated_of_forms _ (fun _ => True) written ?_ (fun _ _ _ _ => trivial) trivial
  · rw [List.append_nil] at path
    exact (path.many_accepts stop).followedBy endOfInput_accepts
  · intro fields _ rest form _
    obtain ⟨v, stop, written, ends, rfl⟩ := form
    refine Accepts.round ?_ (by cases ends <;> simp)
    rw [List.append_assoc]
    refine (row_accepts written ?_ ?_).followedBy (endOfLine_accepts ends rest)
    · cases ends <;> simp [Follows]
    · cases ends <;> simp

/-! ## The reader -/

/-- The reader gives a table exactly if the closed text writes it, and otherwise an error. -/
lemma read_ending (text : String) :
    (∀ rows, (read text).ending = .done (.ok rows) ↔ TableForm rows (closed text.toList)) ∧
      ((∃ rows, TableForm rows (closed text.toList)) ∨
        ∃ e, (read text).ending = .done (.error e)) := by
  rw [← toList_terminated]
  exact ending_iff table_okIn (fun _ => table_accepts) (length_lt_sufficient 0 _ false)

/-- **The reader accepts exactly its format, and inverts writing.** It gives a table for a text
exactly if the text, with a line feed added to it unless it is empty or ends in one, writes that
table; so it reads every table from every way to write it. For all other texts it gives an error.

**Proof sketch.** What the parser accepts it has read from a written table (`table_okIn`), and it
accepts every written table (`table_accepts`). In both cases its run comes to an end without a
fault, so it ends with an error where no table is written. -/
theorem read_iff_tableForm :
    (∀ text rows, (read text).ending = .done (.ok rows) ↔ TableForm rows (closed text.toList)) ∧
      (∀ rows w, TableForm rows w → (read (String.ofList w)).ending = .done (.ok rows)) ∧
        ∀ text, (∃ rows, TableForm rows (closed text.toList)) ∨
          ∃ e, (read text).ending = .done (.error e) := by
  refine ⟨fun text => (read_ending text).1, fun rows w written => ?_, fun text =>
    (read_ending text).2⟩
  rw [(read_ending (String.ofList w)).1, String.toList_ofList, written.closed_eq]
  exact written

/-- A row of an empty field and a quoted one, whose end of line is added. -/
theorem read_iff_tableForm_quoted :
    let text := ",\"a\"\"\n\""
    let rows := [["", "a\"\n"]]
    TableForm rows (closed text.toList) ∧ (read text).ending = .done (.ok rows) := by
  intro text rows
  have empty : FieldForm "" [] := .plain (by simp)
  have inQuotes : FieldForm "a\"\n" ['\"', 'a', '\"', '\"', '\n', '\"'] := .quoted
  have fields : FieldsForm ["", "a\"\n"] text.toList :=
    ⟨by simp, _, .cons empty (.cons inQuotes .nil), by decide⟩
  have written : TableForm rows (closed text.toList) :=
    ⟨_, .cons ⟨_, _, fields, .lf, rfl⟩ .nil, by decide⟩
  exact ⟨written, (read_iff_tableForm.1 text rows).2 written⟩

end Csv

end ParserCombinators
