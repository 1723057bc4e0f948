import ParserCombinators.Proofs.Parser.Answer
import ParserCombinators.Proofs.Parser.Round

/-!
# Answers of repetitions

Rules for the loops over a text. Each rule asks for an invariant of the characters ahead and of
what has been collected. A round either stops the loop with an outcome or leaves fewer characters
ahead, so there is fuel for all rounds.

What a repetition collects is described by a relation between the characters ahead before a round,
its value, and the characters ahead after it: the collected list is a path of that relation.

## Main definitions

* `Parser.Iterated` — a path of rounds: the list of their values.

## Main results

* `Parser.Answers.iterate` — the rule of loops over a text.
* `Parser.Answers.many`, `Parser.Answers.sepEndBy1` — its instances.
* `Parser.Iterated.many_accepts`, `Parser.many_okIn` — a repetition accepts exactly along a path.
-/

set_option autoImplicit false

namespace ParserCombinators

namespace Parser

variable {α β ο σ : Type} {p : Parser α} {sep : Parser β} {op : Parser ο}
  {cs mid rest : List Char} {a : α} {as bs : List α} {F : Fault → Prop}

/-! ## Loops -/

/-- **The rule of loops over a text.** `I rest state` says that the loop is in `state` with `rest`
ahead. If every round either leaves fewer characters ahead and keeps the invariant, or stops with
an outcome in `Q`, then the loop comes to an end with one.

**Proof sketch.** `Run.meets_iterate`, with the invariant that moreover there is more fuel than
there are characters ahead. -/
lemma Answers.iterate {round : Cursor × σ → Run (Run.Round (Cursor × σ) (Reply β))}
    {Q : Outcome β → Prop} {I : List Char → σ → Prop} {start c : Cursor} {state : σ} {fuel : Nat}
    (reach : start.Reaches c) (init : I c.ahead state) (enough : c.ahead.length < fuel)
    (step : ∀ c state, start.Reaches c → I c.ahead state → (round (c, state)).Meets
      (fun
        | .again (next, state) => c.Reaches next ∧ next.ahead ≠ c.ahead ∧ I next.ahead state
        | .stop reply => start.Reaches reply.cursor ∧ Q reply.outcome) F False) :
    (Run.iterate round fuel (c, state)).Meets
      (fun reply => start.Reaches reply.cursor ∧ Q reply.outcome) F False := by
  refine Run.meets_iterate
    (I := fun n state => start.Reaches state.1 ∧ I state.1.ahead state.2 ∧ state.1.ahead.length < n)
    (fun _ h => absurd h.2.2 (Nat.not_lt_zero _)) ?_ ⟨reach, init, enough⟩
  intro n form step
  obtain ⟨c, state⟩ := form
  obtain ⟨reach, inv, enough⟩ := step
  refine (step c state reach inv).mono ?_ fun _ h => h
  rintro (⟨next, state⟩ | reply) h
  · obtain ⟨reach', moved, inv'⟩ := h
    have suffix := reach'.ahead_suffix
    have shorter : next.ahead.length ≠ c.ahead.length := fun eq => moved (suffix.eq_of_length eq)
    have le := suffix.length_le
    exact ⟨reach.trans reach', inv', by dsimp only at *; omega⟩
  · exact h

/-! ## Again and again -/

/-- What a round of a repetition that began with `cs` ahead may answer, if the repetition has
collected `b` and has `rest` ahead: to stop it with an outcome in `Q`, or to keep the invariant. -/
def RoundIn {γ : Type} (push : γ → α → γ) (I : List Char → γ → Prop) (Q : Outcome γ → Prop)
    (cs rest : List Char) (b : γ) : Outcome α → Prop
  | .ok a next => (next = rest → Q (.error cs noProgress)) ∧ (next ≠ rest → I next (push b a))
  | .error next e => (next = rest → Q (.ok b rest)) ∧ (next ≠ rest → Q (.error next e))

section Repeated

variable {γ : Type} {empty b : γ} {push : γ → α → γ} {Q : Outcome γ → Prop}
  {I : List Char → γ → Prop}

/-- The rule of repetitions that began at `start` and have collected something since. -/
lemma meets_manyFrom {s : Settings} {start c : Cursor} (onText : start.OnText)
    (reach : start.Reaches c) (fuel : start.ahead.length < s.fuel) (init : I c.ahead b)
    (round : ∀ rest b, rest <:+ start.ahead → I rest b →
      p.Answers rest (RoundIn push I Q start.ahead rest b) F) :
    (manyFrom push p start s c b).Meets
      (fun reply => start.Reaches reply.cursor ∧ Q reply.outcome) F False := by
  have enough : c.ahead.length < s.fuel := lt_of_le_of_lt reach.ahead_suffix.length_le fuel
  refine Answers.iterate reach init enough fun d b reach inv => ?_
  have suffix := reach.ahead_suffix
  rw [meets_manyRound]
  refine (round d.ahead b suffix inv s d (reach.onText onText) rfl ?_).mono ?_ fun _ h => h
  · exact lt_of_le_of_lt suffix.length_le fuel
  · intro reply ⟨reach', h⟩
    cases reply with
    | ok a next =>
      refine reach'.ite_offset (reach.onText onText) (fun same => ?_) fun changed => ?_
      · exact ⟨Cursor.Reaches.refl start, h.1 same⟩
      · exact ⟨reach', changed, h.2 changed⟩
    | error next e =>
      refine reach'.ite_offset (reach.onText onText) (fun same => ?_) fun changed => ?_
      · exact ⟨reach, h.1 same⟩
      · exact ⟨reach.trans reach', h.2 changed⟩

/-- The rule of repetitions that collect into anything. -/
lemma Answers.manyInto (init : I cs empty)
    (round : ∀ rest b, rest <:+ cs → I rest b → p.Answers rest (RoundIn push I Q cs rest b) F) :
    (manyInto empty push p).Answers cs Q F := by
  intro s c hc ahead fuel
  subst ahead
  exact meets_manyFrom hc (Cursor.Reaches.refl c) fuel init round

/-- The rule of repetitions with at least one round. -/
lemma Answers.many1Into
    (first : p.Answers cs (fun
      | .ok a rest => I rest (push empty a)
      | .error rest e => Q (.error rest e)) F)
    (round : ∀ rest b, rest <:+ cs → I rest b → p.Answers rest (RoundIn push I Q cs rest b) F) :
    (many1Into empty push p).Answers cs Q F := by
  intro s c hc ahead fuel
  subst ahead
  simp only [Parser.many1Into, Run.meets_bind]
  refine (first s c hc rfl fuel).mono ?_ fun _ h => h
  intro reply ⟨reach, h⟩
  cases reply with
  | ok a d => exact meets_manyFrom hc reach fuel h round
  | error d e => exact ⟨reach, h⟩

end Repeated

/-- The rule of repetitions that collect into a list. -/
lemma Answers.many {Q : Outcome (List α) → Prop} {I : List Char → List α → Prop} (init : I cs [])
    (round : ∀ rest as, rest <:+ cs → I rest as →
      p.Answers rest (RoundIn (fun as a => as ++ [a]) I Q cs rest as) F) :
    (many p).Answers cs Q F := by
  refine Answers.map (Answers.manyInto (I := fun rest b => I rest b.toList) init ?_)
  intro rest b suffix inv
  refine (round rest b.toList suffix inv).mono ?_ fun _ h => h
  intro outcome h
  cases outcome with
  | ok a next => exact ⟨h.1, fun moved => by simpa using h.2 moved⟩
  | error next e => exact h

/-! ### Paths of rounds -/

/-- A path of rounds: `R cs a rest` says that a round with `cs` ahead has the value `a` and leaves
`rest` ahead. -/
inductive Iterated (R : List Char → α → List Char → Prop) :
    List Char → List α → List Char → Prop where
  /-- No round. -/
  | nil (cs : List Char) : Iterated R cs [] cs
  /-- A first round and then others. -/
  | cons {cs mid rest : List Char} {a : α} {as : List α} (first : R cs a mid)
    (others : Iterated R mid as rest) : Iterated R cs (a :: as) rest

variable {R : List Char → α → List Char → Prop}

/-- One path after another. -/
lemma Iterated.append (h : Iterated R cs as mid) (h' : Iterated R mid bs rest) :
    Iterated R cs (as ++ bs) rest := by
  induction h with
  | nil _ => exact h'
  | cons first _ ih => exact .cons first (ih h')

/-- A path and then one round more. -/
lemma Iterated.concat (h : Iterated R cs as mid) (last : R mid a rest) :
    Iterated R cs (as ++ [a]) rest :=
  h.append (.cons last (.nil rest))

/-- A round in which `p` succeeds and consumes. -/
def Round (p : Parser α) (cs : List Char) (a : α) (rest : List Char) : Prop :=
  p.Accepts cs a rest ∧ rest ≠ cs

/-- The rounds of a repetition keep the invariant that a path of rounds is still to come, and that
folding its values gives the result. -/
private lemma Iterated.round_answers {γ : Type} {push : γ → α → γ} {result : γ}
    (stop : p.Refuses rest) (start now : List Char) (b : γ)
    (h : ∃ todo, Iterated (Round p) now todo rest ∧ todo.foldl push b = result) :
    p.Answers now (RoundIn push
      (fun now b => ∃ todo, Iterated (Round p) now todo rest ∧ todo.foldl push b = result)
      (· = .ok result rest) start now b) F := by
  obtain ⟨todo, path, folded⟩ := h
  cases path with
  | nil =>
    refine stop.answers fun e => ⟨fun _ => ?_, fun moved => absurd rfl moved⟩
    exact congrArg (Outcome.ok · _) folded
  | cons first others =>
    exact first.1.answers ⟨fun same => absurd same first.2, fun _ => ⟨_, others, folded⟩⟩

/-- Along a path of rounds, a repetition collects the values of the rounds until one is refused. -/
lemma Iterated.manyInto_accepts {γ : Type} {empty : γ} {push : γ → α → γ}
    (h : Iterated (Round p) cs as rest) (stop : p.Refuses rest) :
    (Parser.manyInto empty push p).Accepts cs (as.foldl push empty) rest :=
  Answers.manyInto ⟨as, h, rfl⟩ fun now b _ todo => round_answers stop cs now b todo

/-- Along a path of rounds, a repetition has the list of the values of the rounds. -/
lemma Iterated.many_accepts (h : Iterated (Round p) cs as rest) (stop : p.Refuses rest) :
    (Parser.many p).Accepts cs as rest := by
  have collected : (as.foldl Array.push #[]).toList = as := by simp
  rw [← collected]
  exact Accepts.map (h.manyInto_accepts stop) Array.toList

/-- Along a path of rounds, a repetition without values ends where the rounds do. -/
lemma Iterated.skipMany_accepts (h : Iterated (Round p) cs as rest) (stop : p.Refuses rest) :
    (Parser.skipMany p).Accepts cs () rest :=
  h.manyInto_accepts stop

/-- A first round and a path of rounds have the list of all their values. -/
lemma Accepts.many1 (first : p.Accepts cs a mid) (others : Iterated (Round p) mid as rest)
    (stop : p.Refuses rest) : (Parser.many1 p).Accepts cs (a :: as) rest := by
  have collected : (as.foldl Array.push #[a]).toList = a :: as := by simp
  rw [← collected]
  have collect : (many1Into #[] Array.push p).Accepts cs (as.foldl Array.push #[a]) rest := by
    refine Answers.many1Into (I := fun now b => ∃ todo, Iterated (Round p) now todo rest ∧
      todo.foldl Array.push b = as.foldl Array.push #[a]) (first.answers ⟨as, others, rfl⟩) ?_
    exact fun now b _ todo => Iterated.round_answers stop cs now b todo
  exact collect.map Array.toList

/-- At least one round is refused where the first one is. -/
lemma Refuses.many1 (h : p.Refuses cs) : (Parser.many1 p).Refuses cs := by
  refine Refuses.map (Answers.many1Into (I := fun _ _ => False) ?_ fun _ _ _ h => h.elim) _
  exact h.answers fun e => ⟨e, rfl⟩

/-- What a repetition accepts is a path of what its rounds accept. -/
lemma many_okIn (hp : ∀ rest, rest <:+ cs → p.Answers rest (Outcome.OkIn (R rest)) F) :
    (many p).Answers cs (Outcome.OkIn fun as rest => Iterated R cs as rest) F := by
  refine Answers.many (I := fun rest as => Iterated R cs as rest) (.nil cs) ?_
  intro rest as suffix path
  refine (hp rest suffix).mono ?_ fun _ h => h
  intro outcome h
  cases outcome with
  | ok a next => exact ⟨fun _ => trivial, fun _ => path.concat h⟩
  | error next e => exact ⟨fun _ => path, fun _ => trivial⟩

/-! ## Separators -/

/-- A first item, and a path of separators with an item after each. -/
lemma Accepts.sepBy1 (first : p.Accepts cs a mid)
    (others : Iterated (Round (sep.andThen p)) mid as rest) (stop : (sep.andThen p).Refuses rest) :
    (sepBy1 p sep).Accepts cs (a :: as) rest := by
  rw [sepBy1_eq_bind]
  exact first.bind ((others.many_accepts stop).map _)

/-- What `sepBy1` accepts is a first item and a path of what comes with a separator. -/
lemma sepBy1_okIn {P : α → List Char → Prop}
    (first : p.Answers cs (Outcome.OkIn P) F)
    (others : ∀ rest, rest <:+ cs → (sep.andThen p).Answers rest (Outcome.OkIn (R rest)) F) :
    (sepBy1 p sep).Answers cs (Outcome.OkIn fun as rest =>
      ∃ a mid more, as = a :: more ∧ P a mid ∧ Iterated R mid more rest) F := by
  rw [sepBy1_eq_bind]
  refine first.bind_okIn fun a mid suffix h => Answers.map_okIn ?_
  refine (many_okIn fun rest suffix' => others rest (suffix'.trans suffix)).mono_okIn ?_
  exact fun more rest path => ⟨a, mid, more, rfl, h, path⟩

/-- The rule of items with separators and possibly one after the last. -/
lemma Answers.sepEndBy1 {Q : Outcome (List α) → Prop} {I : List Char → List α → Prop}
    (first : p.Answers cs (fun
      | .ok a rest => I rest [a]
      | .error rest e => Q (.error rest e)) F)
    (round : ∀ rest as, rest <:+ cs → I rest as → sep.Answers rest (fun
      | .ok _ mid => p.Answers mid (fun
        | .ok a next =>
          (next = rest → Q (.error cs noProgress)) ∧ (next ≠ rest → I next (as ++ [a]))
        | .error next e => (next = mid → Q (.ok as mid)) ∧ (next ≠ mid → Q (.error next e))) F
      | .error next e => (next = rest → Q (.ok as rest)) ∧ (next ≠ rest → Q (.error next e))) F) :
    (sepEndBy1 p sep).Answers cs Q F := by
  intro s c hc ahead fuel
  subst ahead
  simp only [Parser.sepEndBy1, Run.meets_bind]
  refine (first s c hc rfl fuel).mono ?_ fun _ h => h
  intro reply ⟨reach, h⟩
  cases reply with
  | error d e => exact ⟨reach, h⟩
  | ok a d => ?_
  have within : d.ahead.length < s.fuel := lt_of_le_of_lt reach.ahead_suffix.length_le fuel
  refine Answers.iterate (I := fun rest (items : Array α) => I rest items.toList) reach h within
    fun d items reach inv => ?_
  have suffix := reach.ahead_suffix
  have onText := reach.onText hc
  rw [meets_sepEndByRound]
  refine (round d.ahead items.toList suffix inv s d onText rfl ?_).mono ?_ fun _ h => h
  · exact lt_of_le_of_lt suffix.length_le fuel
  intro reply ⟨reach', h⟩
  cases reply with
  | ok b separated =>
    have suffix' := reach'.ahead_suffix
    have onText' : separated.OnText := reach'.onText onText
    refine (h s separated onText' rfl ?_).mono ?_ fun _ h => h
    · exact lt_of_le_of_lt (suffix'.trans suffix).length_le fuel
    intro reply ⟨reach'', h⟩
    -- Progress is that of separator and item together, but a miss is one of the item alone.
    cases reply with
    | ok a next =>
      have both := reach'.trans reach''
      refine both.ite_offset onText (fun same => ?_) fun changed => ?_
      · exact ⟨Cursor.Reaches.refl c, h.1 same⟩
      · exact ⟨both, changed, by simpa using h.2 changed⟩
    | error next e =>
      refine reach''.ite_offset onText' (fun same => ?_) fun changed => ?_
      · exact ⟨reach.trans reach', h.1 same⟩
      · exact ⟨(reach.trans reach').trans reach'', h.2 changed⟩
  | error next e =>
    refine reach'.ite_offset onText (fun same => ?_) fun changed => ?_
    · exact ⟨reach, h.1 same⟩
    · exact ⟨reach.trans reach', h.2 changed⟩

/-- A round in which a separator and an item after it succeed and consume. -/
def SeparatedRound (p : Parser α) (sep : Parser β) (cs : List Char) (a : α) (rest : List Char) :
    Prop :=
  ∃ v mid, sep.Accepts cs v mid ∧ p.Accepts mid a rest ∧ rest ≠ cs

/-- A first item, a path of separators with an item after each, and possibly a last separator. -/
lemma Accepts.sepEndBy1 {last : List Char} (first : p.Accepts cs a mid)
    (others : Iterated (SeparatedRound p sep) mid as last)
    (stop : (sep.Refuses last ∧ rest = last) ∨ ∃ v, sep.Accepts last v rest ∧ p.Refuses rest) :
    (sepEndBy1 p sep).Accepts cs (a :: as) rest := by
  refine Answers.sepEndBy1 (I := fun now items => ∃ todo,
    Iterated (SeparatedRound p sep) now todo last ∧ items ++ todo = a :: as)
    (first.answers ⟨as, others, rfl⟩) ?_
  intro now items _ form
  obtain ⟨todo, path, all⟩ := form
  cases path with
  | nil =>
    rw [List.append_nil] at all
    subst all
    obtain ⟨refused, rfl⟩ | ⟨v, separated, refused⟩ := stop
    · exact refused.answers fun e => ⟨fun _ => rfl, fun moved => absurd rfl moved⟩
    · refine separated.answers (refused.answers fun e => ⟨fun _ => rfl, fun moved => ?_⟩)
      exact absurd rfl moved
  | @cons _ next _ x todo round others =>
    obtain ⟨v, mid, separated, item, moved⟩ := round
    refine separated.answers (item.answers ⟨fun same => absurd same moved, fun _ => ?_⟩)
    exact ⟨todo, others, by simpa using all⟩

/-- What `sepEndBy1` accepts is a first item, a path of what comes with a separator, and possibly a
last separator. -/
lemma sepEndBy1_okIn {P : α → List Char → Prop} {S : List Char → List Char → Prop}
    (first : p.Answers cs (Outcome.OkIn P) F)
    (separator : ∀ rest, rest <:+ cs → sep.Answers rest (Outcome.OkIn fun _ mid => S rest mid) F)
    (item : ∀ rest mid, rest <:+ cs → S rest mid → p.Answers mid (Outcome.OkIn (R rest)) F) :
    (sepEndBy1 p sep).Answers cs (Outcome.OkIn fun as rest => ∃ a mid more last,
      as = a :: more ∧ P a mid ∧ Iterated R mid more last ∧ (rest = last ∨ S last rest)) F := by
  refine Answers.sepEndBy1 (I := fun now as => ∃ a mid more,
    as = a :: more ∧ P a mid ∧ Iterated R mid more now) (first.mono ?_ fun _ h => h) ?_
  · intro outcome h
    cases outcome with
    | ok a mid => exact ⟨a, mid, [], rfl, h, .nil mid⟩
    | error rest e => trivial
  intro now as suffix found
  obtain ⟨a, mid, more, rfl, start, path⟩ := found
  refine (separator now suffix).mono ?_ fun _ h => h
  intro outcome h
  cases outcome with
  | ok v separated =>
    refine (item now separated suffix h).mono ?_ fun _ h => h
    intro outcome h'
    cases outcome with
    | ok b next =>
      exact ⟨fun _ => trivial, fun _ => ⟨a, mid, more ++ [b], rfl, start, path.concat h'⟩⟩
    | error next e =>
      exact ⟨fun _ => ⟨a, mid, more, now, rfl, start, path, .inr h⟩, fun _ => trivial⟩
  | error next e =>
    exact ⟨fun _ => ⟨a, mid, more, now, rfl, start, path, .inl rfl⟩, fun _ => trivial⟩

end Parser

end ParserCombinators
