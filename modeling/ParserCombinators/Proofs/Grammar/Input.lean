import ParserCombinators.Proofs.Cursor.Position
import ParserCombinators.Proofs.Grammar.Correspondence

/-!
# What a run depends on

A parser looks at its input only ahead of its cursor, and only one symbol after the other. So the
symbols before the cursor do not matter: a run is the same over what is left of the input, with all
offsets smaller by the number of symbols that are missing. Nor does it matter whether the symbols
are the characters of a text, the bytes of a run, or the items of a list or tuple. What tells the
runs apart is only the part of the input that the mismatch of a literal shows, which is an input of
the same form.

## Main definitions

* `Frame.Alike` — frames of the errors of two inputs with the same symbols.
* `Grammar.AlikeOver` — a grammar runs alike over two inputs.

## Main results

* `Grammar.alike_at_rest` — a run depends only on the input that is left.
* `Grammar.alikeOver_of_symbols_eq`, `Grammar.alike_over_items` — a run depends only on the symbols.
-/

set_option autoImplicit false

namespace ParserCombinators

/-! ## The input that is left -/

/-- The second cursor is over what is left of the input of the first from index `k` on, at the same
symbol and with the same position. -/
def Cursor.Shifted (k : Nat) (c d : Cursor) : Prop :=
  d.input = c.input.extract k c.input.size ∧ c.offset = k + d.offset ∧ c.position = d.position

/-- The same symbols are ahead in the input and in what is left of it. -/
lemma sameView_shifted (k : Nat) : SameView (Cursor.Shifted k) where
  isReadable_eq h := by rw [h.1, Input.isReadable_extract]
  get?_eq h i := by rw [h.1, h.2.1, Input.get?_extract_size, Nat.add_assoc]
  advance := by
    rintro c d n ⟨input, offset, position⟩ within
    have within' : n ≤ d.remaining := by
      simp only [Cursor.remaining, input, offset, Input.size_extract] at within ⊢
      omega
    refine ⟨by simp [input], ?_, ?_⟩
    · rw [Cursor.offset_advance_of_le within, Cursor.offset_advance_of_le within', offset,
        Nat.add_assoc]
    · rw [Cursor.position_advance, Cursor.position_advance, position, input,
        Input.extract_extract_size, offset, Nat.add_assoc]
  offset_eq_iff h h' := by
    have offset := h.2.1
    have offset' := h'.2.1
    omega

/-- The same slices are ahead, so the same errors are reported. -/
lemma sameReports_shifted (k : Nat) : SameReports (Cursor.Shifted k) Eq :=
  sameReports_eq fun c d ⟨input, offset, _⟩ n => by
    rw [Cursor.peek_natCast, Cursor.peek_natCast, input, Input.extract_extract_size, offset,
      Nat.add_assoc]

/-- Cursors belong together if the second is over what is left from index `k` on. -/
def Correspondence.shifted (k : Nat) : Correspondence :=
  .ofView (sameView_shifted k) (sameReports_shifted k)

/-- **A run depends only on the input that is left.** Wherever a cursor is, also past the end of its
input, a grammar runs alike from it and from the beginning of what is left, with the same position:
with the same fault, or with the same value or the same error at the same position, where the
offsets differ by that of the cursor. So it makes no difference whether a run goes on from the
cursor of an earlier reply or begins with what that left. -/
theorem Grammar.alike_at_rest (naming : Naming) (g : Grammar) (s : Settings) (c : Cursor) :
    ((g.parserUnder naming).run s c).ending.Alike
      (fun reply fresh =>
        reply.toExcept = fresh.toExcept ∧ reply.cursor.position = fresh.cursor.position ∧
          reply.cursor.offset = c.offset + fresh.cursor.offset)
      ((g.parserUnder naming).run s ⟨c.rest, 0, c.position⟩).ending := by
  have all : g.Everywhere naming (Correspondence.shifted c.offset).Admits :=
    Correspondence.everywhere_admits fun _ => rfl
  have alike := g.corresponds_parserUnder all s s c ⟨c.rest, 0, c.position⟩ rfl ⟨rfl, rfl, rfl⟩
  refine alike.mono ?_
  rintro _ _ (⟨rfl, -, offset, position⟩ | ⟨⟨-, offset, position⟩, rfl⟩)
  · exact ⟨rfl, position, offset⟩
  · exact ⟨rfl, position, offset⟩

/-! ## The symbols of the input -/

/-- Frames of the errors of two inputs with the same symbols. They are equal, except that the
mismatch of a literal shows the same slice of either input. A mismatch of literals that does not is
one of the `given` frames. -/
inductive Frame.Alike (given : Frame → Prop) (input input' : Input) : Frame → Frame → Prop
  /-- The same symbols. -/
  | atom (expected found : Value) :
    Alike given input input' (.atom expected found) (.atom expected found)
  /-- The same message. -/
  | message (text : String) : Alike given input input' (.message text) (.message text)
  /-- The same slice of either input. -/
  | slice (expected : Value) (start stop : Nat) :
    Alike given input input' (.literal expected (input.extract start stop).toValue)
      (.literal expected (input'.extract start stop).toValue)
  /-- A frame that does not come from the input. -/
  | given {frame : Frame} (mem : given frame) : Alike given input input' frame frame

/-- Replies of two inputs with the same symbols: at the same offset and position, with the same
value or with frames that are alike one by one. -/
def Reply.Alike (frames : Frame → Frame → Prop) (r r' : Reply Value) : Prop :=
  r.cursor.offset = r'.cursor.offset ∧ r.cursor.position = r'.cursor.position ∧
    match r, r' with
    | .ok v _, .ok v' _ => v = v'
    | .error _ e, .error _ e' => List.Forall₂ frames e.frames e'.frames
    | _, _ => False

/-- The frames of the errors with which a grammar, or a grammar within it, fails. -/
def Grammar.Gives (naming : Naming) (g : Grammar) (frame : Frame) : Prop :=
  ∃ e : ParseError, (Grammar.fail e).Within naming g ∧ frame ∈ e.frames

/-- A grammar runs alike over two inputs: from every offset and with every position it ends with the
same fault, or with replies that are alike. -/
def Grammar.AlikeOver (naming : Naming) (g : Grammar) (input input' : Input) : Prop :=
  ∀ (s : Settings) (offset : Nat) (position : Option Position),
    ((g.parserUnder naming).run s ⟨input, offset, position⟩).ending.Alike
      (Reply.Alike (Frame.Alike (g.Gives naming) input input'))
      ((g.parserUnder naming).run s ⟨input', offset, position⟩).ending

section Symbols

variable {input input' : Input}

/-- Cursors at the same offset of two inputs, with the same position. -/
def Cursor.Over (input input' : Input) (c d : Cursor) : Prop :=
  c.input = input ∧ d.input = input' ∧ c.offset = d.offset ∧ c.position = d.position

/-- Inputs with the same symbols look the same. -/
lemma sameView_over (symbols : input.symbols = input'.symbols)
    (readable : input.isReadable = input'.isReadable) : SameView (Cursor.Over input input') where
  isReadable_eq h := by rw [h.1, h.2.1, readable]
  get?_eq h i := by
    rw [h.1, h.2.1, h.2.2.1, ← Input.getElem?_symbols, ← Input.getElem?_symbols, symbols]
  advance := by
    rintro c d n ⟨rfl, rfl, offset, position⟩ within
    have size : c.input.size = d.input.size := by
      rw [← Input.length_symbols, ← Input.length_symbols, symbols]
    have within' : n ≤ d.remaining := by rwa [Cursor.remaining, ← size, ← offset]
    refine ⟨Cursor.input_advance c n, Cursor.input_advance d n, ?_, ?_⟩
    · rw [Cursor.offset_advance_of_le within, Cursor.offset_advance_of_le within', offset]
    · rw [Cursor.position_advance, Cursor.position_advance, position, offset,
        Input.symbols_extract, Input.symbols_extract, symbols]
  offset_eq_iff h h' := by rw [h.2.2.1, h'.2.2.1]

/-- The frames that are reported are alike, and frames that are given stay so with one more. -/
lemma sameReports_over (given : Frame → Prop) : SameReports (Cursor.Over input input')
    fun e f => List.Forall₂ (Frame.Alike given input input') e.frames f.frames where
  message text := .cons (.message text) .nil
  atom expected found := .cons (.atom expected found) .nil
  literal := by
    rintro c d ⟨rfl, rfl, offset, -⟩ expected n atom found
    rw [Cursor.peek_natCast, Cursor.peek_natCast, offset]
    exact .cons (.atom atom found) (.cons (.slice expected _ _) .nil)
  withContext alike text := by
    rw [ParseError.frames_withContext, ParseError.frames_withContext]
    exact List.rel_append alike (.cons (.message text) .nil)

/-- Cursors at the same offset of two inputs with the same symbols belong together. -/
def Correspondence.overSymbols (given : Frame → Prop) (symbols : input.symbols = input'.symbols)
    (readable : input.isReadable = input'.isReadable) : Correspondence :=
  .ofView (sameView_over symbols readable) (sameReports_over given)

/-- A grammar runs alike over two inputs with the same symbols.

**Proof sketch.** The grammar corresponds to itself (`Grammar.corresponds_parserUnder`) for cursors
at the same offset of the two inputs. The errors with which it fails itself are alike because their
frames are given. -/
lemma Grammar.alikeOver_of_symbols_eq (naming : Naming) (g : Grammar)
    (symbols : input.symbols = input'.symbols) (readable : input.isReadable = input'.isReadable) :
    g.AlikeOver naming input input' := by
  intro s offset position
  have all : g.Everywhere naming
      (Correspondence.overSymbols (g.Gives naming) symbols readable).Admits := by
    intro q inside
    cases q with
    | fail e => exact List.forall₂_same.2 fun frame mem => .given ⟨e, inside, mem⟩
    | _ => trivial
  have alike := g.corresponds_parserUnder all s s ⟨input, offset, position⟩
    ⟨input', offset, position⟩ rfl ⟨rfl, rfl, rfl, rfl⟩
  refine alike.mono ?_
  rintro _ _ (⟨rfl, -, -, offset, position⟩ | ⟨⟨-, -, offset, position⟩, frames⟩)
  · exact ⟨offset, position, rfl⟩
  · exact ⟨offset, position, frames⟩

end Symbols

/-- **A run depends only on the symbols of the input**, not on how they are held together: a grammar
runs alike over a text and over the list or the tuple of its characters, and over a run of bytes and
over the list or the tuple of their numbers. -/
theorem Grammar.alike_over_items (naming : Naming) (g : Grammar) :
    (∀ chars : Array Char,
      g.AlikeOver naming (.text chars) (.list (chars.map Value.ofChar)) ∧
        g.AlikeOver naming (.text chars) (.tuple (chars.map Value.ofChar))) ∧
      ∀ octets : Array UInt8,
        g.AlikeOver naming (.bytes octets) (.list (octets.map Value.ofByte)) ∧
          g.AlikeOver naming (.bytes octets) (.tuple (octets.map Value.ofByte)) := by
  refine ⟨fun chars => ⟨?_, ?_⟩, fun octets => ⟨?_, ?_⟩⟩ <;>
    exact g.alikeOver_of_symbols_eq naming (by simp [Input.symbols]) rfl

/-- What is found instead of a literal has the form of the input. -/
example (naming : Naming) (s : Settings) :
    let g : Grammar := .literal (.str "ab")
    let text : Input := .text #['a', 'c', 'd']
    let items : Input := .list #[.str "a", .str "c", .str "d"]
    let error (found : Value) : ParseError :=
      ⟨.atom (.str "b") (.str "c"), [.literal (.str "ab") found]⟩
    ((g.parserUnder naming).run s (.plain text)).ending =
        .done (.error (.plain text) (error (.str "ac"))) ∧
      ((g.parserUnder naming).run s (.plain items)).ending =
        .done (.error (.plain items) (error (.list [.str "a", .str "c"]))) := by
  constructor <;> rfl

end ParserCombinators
