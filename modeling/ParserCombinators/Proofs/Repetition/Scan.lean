import ParserCombinators.Parser.Character
import ParserCombinators.Proofs.Parser.Reply
import ParserCombinators.Proofs.Rounds
import ParserCombinators.Proofs.TwoRuns

/-!
# What chains read

The chain from the left folds its operands while it reads them, the chain from the right once all
are read. Both read the same: an operand, and then operators and operands in turn, up to an operator
that fails without consuming. So the two chains end alike, and in a success they differ only in how
they fold what was read.

## Main definitions

* `Parser.scan` — what is read, without folding it.
* `Parser.Scanned` — operands and operators that are read one after the other.
* `Parser.ScanFails`, `Parser.ScanRaises` — how reading can fail, and how it can raise a fault.
* `Parser.foldedLeft`, `Parser.foldedRight` — the values of what is read.

## Main results

* `Parser.meets_scan` — what was read when a scan ends.
* `Parser.alike_scan` — a chain ends as a scan does, with its own value.
* `Parser.chains_scan_alike` — the two chains end alike, and fold oppositely.
-/

set_option autoImplicit false

namespace ParserCombinators

namespace Parser

variable {α ο : Type} {p : Parser α} {op : Parser ο} {s : Settings} {c d m : Cursor} {a : α}
  {steps : List (ο × α)} {apply : ο → α → α → Except Fault α} {operate : ο → α → α → α}

/-! ## Scans -/

/-- From `c` the parser raises a fault. -/
def Raises (p : Parser α) (s : Settings) (c : Cursor) (fault : Fault) : Prop :=
  (p.run s c).ending = .raised fault

/-- A first operand, and the operators and operands after it. -/
def scan (p : Parser α) (op : Parser ο) : Parser (α × List (ο × α)) :=
  p.pairWith (chainrRest p op)

/-- From `c` an operand is read, and then operators and operands in turn, each from where the one
before it stopped; the last operand stops at the cursor given last. -/
inductive Scanned (p : Parser α) (op : Parser ο) (s : Settings) (c : Cursor) :
    α → List (ο × α) → Cursor → Prop
  /-- Only the first operand is read. -/
  | first {a : α} {d : Cursor} (operand : p.Gets s c a d) : Scanned p op s c a [] d
  /-- One more operator and operand are read. -/
  | next {a b : α} {steps : List (ο × α)} {f : ο} {m k d : Cursor}
    (before : Scanned p op s c a steps m) (operator : op.Gets s m f k)
    (operand : p.Gets s k b d) : Scanned p op s c a (steps ++ [(f, b)]) d

/-- Reading from `c` fails: at the first operand, at an operator that has consumed, or at an operand
after an operator, whether this operand has consumed or not. -/
inductive ScanFails (p : Parser α) (op : Parser ο) (s : Settings) (c : Cursor) :
    Cursor → ParseError → Prop
  /-- The first operand fails. -/
  | first {d : Cursor} {e : ParseError} (failed : p.Fails s c d e) : ScanFails p op s c d e
  /-- An operator fails after consuming. -/
  | operator {a : α} {steps : List (ο × α)} {m d : Cursor} {e : ParseError}
    (before : Scanned p op s c a steps m) (failed : op.Fails s m d e)
    (consumed : d.offset ≠ m.offset) : ScanFails p op s c d e
  /-- An operand after an operator fails. -/
  | operand {a : α} {steps : List (ο × α)} {f : ο} {m k d : Cursor} {e : ParseError}
    (before : Scanned p op s c a steps m) (operator : op.Gets s m f k)
    (failed : p.Fails s k d e) : ScanFails p op s c d e

/-- Reading from `c` raises a fault, at an operand or at an operator. -/
inductive ScanRaises (p : Parser α) (op : Parser ο) (s : Settings) (c : Cursor) (fault : Fault) :
    Prop
  /-- The first operand raises it. -/
  | first (raised : p.Raises s c fault) : ScanRaises p op s c fault
  /-- An operator raises it. -/
  | operator {a : α} {steps : List (ο × α)} {m : Cursor} (before : Scanned p op s c a steps m)
    (raised : op.Raises s m fault) : ScanRaises p op s c fault
  /-- An operand after an operator raises it. -/
  | operand {a : α} {steps : List (ο × α)} {f : ο} {m k : Cursor}
    (before : Scanned p op s c a steps m) (operator : op.Gets s m f k)
    (raised : p.Raises s k fault) : ScanRaises p op s c fault

/-- All operators of a scan have been read. -/
lemma Scanned.exists_gets (h : Scanned p op s c a steps d) :
    ∀ step ∈ steps, ∃ m k, op.Gets s m step.1 k := by
  induction h with
  | first operand => simp
  | @next b steps f m k d before operator operand ih =>
    intro step mem
    rcases List.mem_append.1 mem with mem | mem
    · exact ih step mem
    · obtain rfl := List.mem_singleton.1 mem
      exact ⟨m, k, operator⟩

/-- What is read after a first operand, when the rounds end.

**Proof sketch.** The invariant of the rounds is that what they have kept has been read. A round
reads one operator and one operand more, or stops as one of the two does. -/
lemma meets_chainrRest_of_gets {b : Cursor} (first : p.Gets s c a b) :
    ((chainrRest p op).run s b).Meets (fun
      | .ok steps d => Scanned p op s c a steps d ∧ op.Misses s d
      | .error d e => ScanFails p op s c d e) (ScanRaises p op s c) True := by
  refine Run.meets_iterate (I := fun _ state => Scanned p op s c a state.2.toList state.1)
    (fun _ _ => trivial) (fun _ state before => ?_) (.first first)
  obtain ⟨d, scanned⟩ := state
  rw [meets_chainrRound]
  refine (Run.meets_ending (op.run s d)).mono ?_ fun _ => .operator before
  rintro (⟨f, k⟩ | ⟨k, e⟩) operator
  · refine (Run.meets_ending (p.run s k)).mono ?_ fun _ => .operand before operator
    rintro (⟨b, n⟩ | ⟨n, e⟩) operand
    · have after := before.next operator operand
      rwa [← Array.toList_push] at after
    · exact .operand before operator operand
  · by_cases same : k.offset = d.offset
    · simp only [same, if_true]
      exact ⟨before, k, e, operator, same⟩
    · simp only [same, if_false]
      exact .operator before operator same

/-- **What was read when a scan ends.** A scan succeeds with what was read, up to an operator that
fails without consuming. It fails and raises faults only as one of the runs in it does. -/
lemma meets_scan (p : Parser α) (op : Parser ο) (s : Settings) (c : Cursor) :
    ((scan p op).run s c).Meets (fun
      | .ok (a, steps) d => Scanned p op s c a steps d ∧ op.Misses s d
      | .error d e => ScanFails p op s c d e) (ScanRaises p op s c) True := by
  simp only [scan, pairWith, Run.meets_bind]
  refine (Run.meets_ending (p.run s c)).mono ?_ fun _ => .first
  rintro (⟨a, b⟩ | ⟨b, e⟩) first
  · refine (Run.meets_bind _ _).2 ((meets_chainrRest_of_gets first).mono ?_ fun _ h => h)
    rintro (⟨steps, d⟩ | ⟨d, e⟩) h
    · exact h
    · exact h
  · exact ScanFails.first first

/-- What is read after a first operand is kept by so many rounds. -/
lemma Scanned.exists_inRounds (h : Scanned p op s c a steps d) :
    ∃ b, p.Gets s c a b ∧ InRounds (Run.GoesOn (chainrRound p op s)) steps.length (b, #[])
      (d, steps.toArray) := by
  induction h with
  | first operand => exact ⟨_, operand, .none _⟩
  | @next b steps f m k d before operator operand ih =>
    obtain ⟨start, first, rounds⟩ := ih
    have last : Run.GoesOn (chainrRound p op s) (m, steps.toArray)
        (d, (steps ++ [(f, b)]).toArray) := by
      rw [Run.goesOn_iff_meets, meets_chainrRound, Run.meets_of_ending_eq operator]
      exact (Run.meets_of_ending_eq operand).2 (by simp)
    rw [List.length_append, List.length_singleton]
    exact ⟨start, first, rounds.snoc last⟩

/-- What stops the rounds after what has been read is the reply of a scan that ends. -/
lemma Scanned.fails_scan {e : ParseError} {k : Cursor}
    (ends : ((scan p op).run s c).ending ≠ .exhausted) (h : Scanned p op s c a steps m)
    (last : Run.Stops (chainrRound p op s) (m, steps.toArray) (.error k e)) :
    (scan p op).Fails s c k e := by
  obtain ⟨b, first, rounds⟩ := h.exists_inRounds
  have rest : (scan p op).run s c = (p.bind fun a => (chainrRest p op).map (a, ·)).run s c := by
    rw [scan, pairWith_eq_bind]
  rw [Fails, rest, first.ending_bind]
  rw [rest, first.ending_bind] at ends
  refine Fails.map (p := chainrRest p op) (Run.ending_iterate_eq_done rounds last ?_) _
  by_contra few
  have spent := Run.ending_iterate_eq_exhausted_of_inRounds rounds (Nat.le_of_not_lt few)
  exact ends (Run.ending_bind_congr (y := Run.outOfFuel) spent _)

/-- Where reading fails, a scan that ends fails with that very reply. -/
lemma ScanFails.fails_scan {e : ParseError} (h : ScanFails p op s c d e)
    (ends : ((scan p op).run s c).ending ≠ .exhausted) : (scan p op).Fails s c d e := by
  cases h with
  | first failed =>
    rw [scan, pairWith_eq_bind]
    exact failed.bind _
  | operator before failed consumed =>
    refine before.fails_scan ends ?_
    rw [Run.stops_iff_meets, meets_chainrRound, Run.meets_of_ending_eq failed]
    simp only [consumed, if_false]
  | operand before operator failed =>
    refine before.fails_scan ends ?_
    rw [Run.stops_iff_meets, meets_chainrRound, Run.meets_of_ending_eq operator]
    exact (Run.meets_of_ending_eq failed).2 rfl

/-! ## Values -/

/-- The operands of a scan folded from the left: `fₙ (… f₂ (f₁ a v₁) v₂ …) vₙ`. -/
def foldedLeft (operate : ο → α → α → α) (a : α) (steps : List (ο × α)) : α :=
  steps.foldl (fun folded step => operate step.1 folded step.2) a

/-- The operands of a scan folded from the right: `f₁ a (f₂ v₁ (… fₙ vₙ₋₁ vₙ …))`. Each operator has
the operand before it on its left, and the last operand is the one to begin with. -/
def foldedRight (operate : ο → α → α → α) (a : α) (steps : List (ο × α)) : α :=
  ((steps.map Prod.fst).zip (a :: steps.map Prod.snd)).foldr
    (fun (f, left) folded => operate f left folded)
    ((a :: steps.map Prod.snd).getLast (List.cons_ne_nil _ _))

/-- The last operator of a fold from the left is applied last. -/
lemma foldedLeft_snoc (f : ο) (b : α) :
    foldedLeft operate a (steps ++ [(f, b)]) = operate f (foldedLeft operate a steps) b := by
  simp [foldedLeft]

/-- The first operator of a fold from the right is applied last. -/
lemma foldedRight_cons (f : ο) (b : α) :
    foldedRight operate a ((f, b) :: steps) = operate f a (foldedRight operate b steps) := by
  simp [foldedRight]

/-- Where operators return, the operands folded from the right are a value. -/
lemma foldRight_eq_ok
    (returns : ∀ step ∈ steps, ∀ x y, apply step.1 x y = .ok (operate step.1 x y)) (a : α) :
    foldRight apply a steps = .ok (foldedRight operate a steps) := by
  induction steps generalizing a with
  | nil => rfl
  | cons step steps ih =>
    obtain ⟨f, b⟩ := step
    obtain ⟨first, others⟩ := List.forall_mem_cons.1 returns
    simp only [foldRight, ih others b, foldedRight_cons]
    exact first a _

/-! ## Chains -/

section Returns

variable (returns : ∀ d f m, op.Gets s d f m → ∀ x y, apply f x y = .ok (operate f x y))

include returns

/-- The rounds of the chain from the left end as those that only keep what they read, with the
operands folded from the left.

**Proof sketch.** The rounds of the two loops keep that what one has folded is the fold of what the
other has kept. -/
lemma alike_chainlFrom (a : α) (b : Cursor) :
    ((chainlFrom apply p op a).run s b).Alike
      (fun folded scanned => folded = scanned.map (foldedLeft operate a))
      ((chainrRest p op).run s b) := by
  refine Run.Alike.iterate (I := fun state state' => state.1 = state'.1 ∧
    state.2 = foldedLeft operate a state'.2.toList) rfl ?_ ⟨rfl, rfl⟩
  rintro ⟨d, folded⟩ ⟨d', scanned⟩ ⟨same, fold⟩
  obtain rfl : d = d' := same
  obtain rfl : folded = foldedLeft operate a scanned.toList := fold
  refine (Run.alike_along (op.run s d)).bind ?_
  rintro (⟨f, k⟩ | ⟨k, e⟩) _ ⟨rfl, operator⟩
  · refine (Run.alike_along (p.run s k)).bind ?_
    rintro (⟨b, n⟩ | ⟨n, e⟩) _ ⟨rfl, -⟩
    · simp only [returns d f k operator, Run.ofExcept_ok, Run.pure_bind']
      exact Run.alike_pure (.again ⟨rfl, by rw [Array.toList_push, foldedLeft_snoc]⟩)
    · exact Run.alike_pure (.stop rfl)
  · exact Run.Alike.ite Iff.rfl (fun _ => Run.alike_pure (.stop rfl))
      fun _ => Run.alike_pure (.stop rfl)

/-- The rounds of the chain from the right, and the fold after them, end as the rounds alone, with
the operands folded from the right. The operators that the fold applies have all been read. -/
lemma alike_transform_foldRight {b : Cursor} (first : p.Gets s c a b) :
    (((chainrRest p op).transform (foldRight apply a)).run s b).Alike
      (fun folded scanned => folded = scanned.map (foldedRight operate a))
      ((chainrRest p op).run s b) := by
  rw [← Run.bind_pure' ((chainrRest p op).run s b)]
  refine (Run.alike_along ((chainrRest p op).run s b)).bind ?_
  rintro (⟨steps, d⟩ | ⟨d, e⟩) _ ⟨rfl, ending⟩
  · obtain ⟨scanned, -⟩ := (Run.meets_of_ending_eq ending).1 (meets_chainrRest_of_gets first)
    have value : foldRight apply a steps = .ok (foldedRight operate a steps) :=
      foldRight_eq_ok (fun step mem => by
        obtain ⟨m, k, operator⟩ := scanned.exists_gets step mem
        exact returns m step.1 k operator) a
    simp only [value, Run.ofExcept_ok, Run.pure_bind']
    exact Run.alike_pure rfl
  · exact Run.alike_pure rfl

end Returns

/-- A first operand and what is made of the operators and operands after it end as a scan does, if
what is made of them ends as they do. -/
lemma alike_scan {f : α → Parser α} {fold : α → List (ο × α) → α}
    (after : ∀ a b, p.Gets s c a b → ((f a).run s b).Alike
      (fun folded scanned => folded = scanned.map (fold a)) ((chainrRest p op).run s b)) :
    ((p.bind f).run s c).Alike
      (fun folded scanned => folded = scanned.map fun x => fold x.1 x.2) ((scan p op).run s c) := by
  refine (Run.alike_along (p.run s c)).bind ?_
  rintro (⟨a, b⟩ | ⟨b, e⟩) _ ⟨rfl, first⟩
  · change ((f a).run s b).Alike _ _
    rw [← Run.bind_pure' ((f a).run s b)]
    refine (after a b first).bind ?_
    rintro _ (⟨steps, d⟩ | ⟨d, e⟩) rfl
    · exact Run.alike_pure rfl
    · exact Run.alike_pure rfl
  · exact Run.alike_pure rfl

/-- **The two chains read alike and fold oppositely.** Let the operators return a value for any two
operands, and let reading from `c` end. Then both chains raise the same fault, which an operand or
an operator has raised while it was read, or both fail with the same reply, which is that of an
operand or an operator, or both succeed at the same cursor. In that case operands and operators have
been read in turn from `c` up to this cursor, where an operator fails without consuming; the value
of the one chain is these operands folded from the left, that of the other is the same operands
folded from the right. Whenever reading fails, at an operator that has consumed or at an operand
after an operator, both chains fail with that very reply.

**Proof sketch.** Each chain ends as the scan does (`Parser.alike_scan`), for the rounds of the two
loops agree in what they read; and what a scan has read when it ends is known
(`Parser.meets_scan`). -/
theorem chains_scan_alike (apply : ο → α → α → Except Fault α) (operate : ο → α → α → α)
    (p : Parser α) (op : Parser ο) (s : Settings) (c : Cursor)
    (returns : ∀ d f m, op.Gets s d f m → ∀ x y, apply f x y = .ok (operate f x y))
    (ends : ((scan p op).run s c).ending ≠ .exhausted) :
    ((∃ fault, ScanRaises p op s c fault ∧
        (chainl1 apply p op).Raises s c fault ∧ (chainr1 apply p op).Raises s c fault) ∨
      (∃ d e, ScanFails p op s c d e ∧
        (chainl1 apply p op).Fails s c d e ∧ (chainr1 apply p op).Fails s c d e) ∨
      ∃ a steps d, Scanned p op s c a steps d ∧ op.Misses s d ∧
        (chainl1 apply p op).Gets s c (foldedLeft operate a steps) d ∧
        (chainr1 apply p op).Gets s c (foldedRight operate a steps) d) ∧
    ∀ d e, ScanFails p op s c d e →
      (chainl1 apply p op).Fails s c d e ∧ (chainr1 apply p op).Fails s c d e := by
  have left := alike_scan (s := s) (c := c) fun a b (_ : p.Gets s c a b) =>
    alike_chainlFrom returns a b
  have right := alike_scan (s := s) (c := c) fun a b (first : p.Gets s c a b) =>
    alike_transform_foldRight returns first
  rw [← chainl1_eq_bind] at left
  rw [← chainr1_eq_bind] at right
  have fails {d : Cursor} {e : ParseError} (failed : (scan p op).Fails s c d e) :
      (chainl1 apply p op).Fails s c d e ∧ (chainr1 apply p op).Fails s c d e := by
    obtain ⟨_, leftFailed, rfl⟩ := left.exists_of_done failed
    obtain ⟨_, rightFailed, rfl⟩ := right.exists_of_done failed
    exact ⟨leftFailed, rightFailed⟩
  refine ⟨?_, fun d e failed => fails (failed.fails_scan ends)⟩
  have read := meets_scan p op s c
  -- Each chain has the ending of the scan, so that of the scan decides for both.
  cases ending : ((scan p op).run s c).ending with
  | raised fault =>
    rw [Run.Meets, ending] at read
    exact .inl ⟨fault, read, left.of_raised ending, right.of_raised ending⟩
  | exhausted => exact absurd ending ends
  | done reply =>
    rw [Run.meets_of_ending_eq ending] at read
    obtain ⟨⟨a, steps⟩, d⟩ | ⟨d, e⟩ := reply
    · obtain ⟨scanned, missed⟩ := read
      obtain ⟨_, leftGot, rfl⟩ := left.exists_of_done ending
      obtain ⟨_, rightGot, rfl⟩ := right.exists_of_done ending
      exact .inr (.inr ⟨a, steps, d, scanned, missed, leftGot, rightGot⟩)
    · exact .inr (.inl ⟨d, e, read, fails ending⟩)

/-- Subtraction. Three numbers with two signs between them are read alike and have two values, `4`
from the left and `8` from the right. A sign with no number after it is an error of both chains,
although the number has not consumed. -/
theorem chains_scan_alike_subtraction :
    let apply : (Int → Int → Int) → Int → Int → Except Fault Int := fun f x y => .ok (f x y)
    let operate : (Int → Int → Int) → Int → Int → Int := fun f x y => f x y
    let number : Parser Int := ((char '9').map fun _ => 9).orElse
      (((char '3').map fun _ => 3).orElse ((char '2').map fun _ => 2))
    let sign : Parser (Int → Int → Int) := (char '-').map fun _ x y => x - y
    let s : Settings := ⟨3, false⟩
    let c : Cursor := .plain (.ofValue (.str "9-3-2"))
    let d : Cursor := ⟨c.input, 5, none⟩
    let c' : Cursor := .plain (.ofValue (.str "9-x"))
    let d' : Cursor := ⟨c'.input, 2, none⟩
    (∀ d f m, sign.Gets s d f m → ∀ x y, apply f x y = .ok (operate f x y)) ∧
      (((scan number sign).run s c).ending ≠ .exhausted ∧
        (chainl1 apply number sign).Gets s c 4 d ∧ (chainr1 apply number sign).Gets s c 8 d ∧
        ∃ a steps, Scanned number sign s c a steps d ∧ sign.Misses s d ∧
          4 = foldedLeft operate a steps ∧ 8 = foldedRight operate a steps) ∧
      ((scan number sign).run s c').ending ≠ .exhausted ∧
        ∃ e, ScanFails number sign s c' d' e ∧ (chainl1 apply number sign).Fails s c' d' e ∧
          (chainr1 apply number sign).Fails s c' d' e := by
  intro apply operate number sign s c d c' d'
  have returns : ∀ d f m, sign.Gets s d f m → ∀ x y, apply f x y = .ok (operate f x y) :=
    fun _ _ _ _ _ _ => rfl
  have read : (scan number sign).Gets s c (9, [(fun x y => x - y, 3), (fun x y => x - y, 2)]) d :=
    by rfl
  have ends : ((scan number sign).run s c).ending ≠ .exhausted := fun spent => by
    cases read.symm.trans spent
  have ends' : ((scan number sign).run s c').ending ≠ .exhausted := nofun
  have left : (chainl1 apply number sign).Gets s c 4 d := by rfl
  have right : (chainr1 apply number sign).Gets s c 8 d := by rfl
  have operand : number.Gets s c' 9 ⟨c'.input, 1, none⟩ := by rfl
  obtain ⟨e, failed⟩ : ∃ e, number.Fails s d' d' e := ⟨_, rfl⟩
  have fails : ScanFails number sign s c' d' e := .operand (.first operand) (by rfl) failed
  refine ⟨returns, ⟨ends, left, right, ?_⟩, ends', e, fails,
    (chains_scan_alike apply operate number sign s c' returns ends').2 d' e fails⟩
  obtain ⟨fault, -, raised, -⟩ | ⟨_, _, -, failed, -⟩ | success :=
    (chains_scan_alike apply operate number sign s c returns ends).1
  · cases left.symm.trans raised
  · cases left.symm.trans failed
  · obtain ⟨a, steps, _, scanned, missed, left', right'⟩ := success
    obtain ⟨folded, rfl⟩ := left.unique left'
    exact ⟨a, steps, scanned, missed, folded, (right.unique right').1⟩

end Parser

end ParserCombinators
