import ParserCombinators.Value.Printer

/-!
# Inputs

An input is a text, a run of bytes, a list or a tuple; each is a sequence of symbols, and a part
of it is an input of the same form. A value of any other kind can be handed over as an input too.
It has no symbols, and looking at it is a fault of the caller.

## Main definitions

* `Input.symbols` — the symbols of an input in order, the view all statements about inputs use.
* `Input.extract`, `Input.slice` — a part of an input, between two indices; the end of a slice
  can be counted from the end of the input.
* `Input.ofValue`, `Input.toValue` — an input as a value.
-/

set_option autoImplicit false

namespace ParserCombinators

/-- A sequence of symbols, or a value that is none. -/
inductive Input where
  /-- A text: its symbols are texts of one character. -/
  | text (chars : Array Char)
  /-- A run of bytes: its symbols are the numbers of the bytes. -/
  | bytes (octets : Array UInt8)
  /-- A list: its symbols are its items. -/
  | list (items : Array Value)
  /-- A tuple: its symbols are its items. -/
  | tuple (items : Array Value)
  /-- A value that is no sequence. -/
  | unreadable
  deriving Inhabited

namespace Input

/-! ## Symbols -/

/-- The symbols of an input in order. -/
def symbols : Input → List Value
  | .text chars => chars.toList.map Value.ofChar
  | .bytes octets => octets.toList.map Value.ofByte
  | .list items | .tuple items => items.toList
  | .unreadable => []

/-- The number of symbols. -/
def size : Input → Nat
  | .text chars => chars.size
  | .bytes octets => octets.size
  | .list items | .tuple items => items.size
  | .unreadable => 0

/-- The symbol at an index. -/
def get? (input : Input) (i : Nat) : Option Value :=
  match input with
  | .text chars => chars[i]?.map Value.ofChar
  | .bytes octets => octets[i]?.map Value.ofByte
  | .list items | .tuple items => items[i]?
  | .unreadable => none

/-- Whether an input is a sequence. -/
def isReadable : Input → Bool
  | .unreadable => false
  | _ => true

/-- There are as many symbols as the input is long. -/
@[simp]
theorem length_symbols (input : Input) : input.symbols.length = input.size := by
  cases input <;> simp [symbols, size]

/-- The symbol at an index is that of the list. -/
@[simp]
theorem getElem?_symbols (input : Input) (i : Nat) : input.symbols[i]? = input.get? i := by
  cases input <;> simp [symbols, get?]

/-! ## Parts -/

/-- The part from one index up to another; indices past the end count as the end. -/
def extract (input : Input) (start stop : Nat) : Input :=
  match input with
  | .text chars => .text (chars.extract start stop)
  | .bytes octets => .bytes (octets.extract start stop)
  | .list items => .list (items.extract start stop)
  | .tuple items => .tuple (items.extract start stop)
  | .unreadable => .unreadable

/-- The part from an index up to another; a negative end counts from the end of the input, and
one that lies before its beginning counts as the beginning. -/
def slice (input : Input) (start : Nat) (stop : Int) : Input :=
  input.extract start (if stop < 0 then stop + input.size else stop).toNat

/-- The symbols of a part are the part of the symbols. -/
@[simp]
theorem symbols_extract (input : Input) (start stop : Nat) :
    (input.extract start stop).symbols = input.symbols.extract start stop := by
  cases input <;> simp [symbols, extract, List.map_take, List.map_drop]

/-- A part reaches no further than the input does. -/
@[simp]
theorem size_extract (input : Input) (start stop : Nat) :
    (input.extract start stop).size = min stop input.size - start := by
  cases input <;> simp [size, extract]

/-- A part is a sequence if the whole is one. -/
@[simp]
theorem isReadable_extract (input : Input) (start stop : Nat) :
    (input.extract start stop).isReadable = input.isReadable := by
  cases input <;> rfl

/-- A part up to the end of an array is the part up to any index past it. -/
private theorem extract_min_size {α : Type} (xs : Array α) (start stop : Nat) :
    xs.extract start (min stop xs.size) = xs.extract start stop := by
  refine Array.ext_getElem? fun i => ?_
  simp only [Array.getElem?_extract, Nat.min_assoc, Nat.min_self]

/-- A part from the end of an array on is the part from any index past it: both are empty. -/
private theorem extract_min_size_left {α : Type} (xs : Array α) (start stop : Nat) :
    xs.extract (min start xs.size) stop = xs.extract start stop := by
  rcases Nat.le_total start xs.size with within | past
  · rw [Nat.min_eq_left within]
  · rw [Nat.min_eq_right past, Array.extract_empty_of_size_le_start (Nat.le_refl _),
      Array.extract_empty_of_size_le_start past]

/-- A part that ends past the end ends at the end. -/
theorem extract_min_stop (input : Input) (start stop : Nat) :
    input.extract start (min stop input.size) = input.extract start stop := by
  cases input <;> simp only [extract, size, extract_min_size]

/-- A part that begins past the end begins at the end. -/
theorem extract_min_start (input : Input) (start stop : Nat) :
    input.extract (min start input.size) stop = input.extract start stop := by
  cases input <;> simp only [extract, size, extract_min_size_left]

/-- The items of an array from an index on. -/
private theorem getElem?_extract_size {α : Type} (xs : Array α) (start i : Nat) :
    (xs.extract start xs.size)[i]? = xs[start + i]? := by
  rw [Array.getElem?_extract, Nat.min_self]
  split
  · rfl
  · exact (Array.getElem?_eq_none (by omega)).symm

/-- The symbols of an input from an index on. -/
theorem get?_extract_size (input : Input) (k i : Nat) :
    (input.extract k input.size).get? i = input.get? (k + i) := by
  cases input <;> simp only [extract, size, get?, getElem?_extract_size]

/-- A part of an input from an index on is a part of the input. -/
theorem extract_extract_size (input : Input) (k start stop : Nat) :
    (input.extract k input.size).extract start stop = input.extract (k + start) (k + stop) := by
  cases input <;> simp only [extract, size, Array.extract_extract, extract_min_size]

/-- The symbols of two parts that meet are those of the part from the beginning of the first to the
end of the second. -/
theorem symbols_extract_append (input : Input) {i j k : Nat} (hij : i ≤ j) (hjk : j ≤ k) :
    (input.extract i j).symbols ++ (input.extract j k).symbols = (input.extract i k).symbols := by
  have whole : k - i = (j - i) + (k - j) := by omega
  have meet : i + (j - i) = j := by omega
  simp only [symbols_extract, List.extract_eq_take_drop]
  rw [whole, List.take_add, List.drop_drop, meet]

/-- A slice whose end is counted from the beginning is the part between its two indices. -/
theorem slice_natCast (input : Input) (start stop : Nat) :
    input.slice start stop = input.extract start stop := by
  have h : ¬ (stop : Int) < 0 := by omega
  simp [slice, h]

/-! ## Inputs and values -/

/-- The input that a value is. -/
def ofValue : Value → Input
  | .str s => .text s.toList.toArray
  | .bytes octets => .bytes octets.toArray
  | .list items => .list items.toArray
  | .tuple items => .tuple items.toArray
  | _ => .unreadable

/-- The value that an input is; a value that is no sequence is not kept. -/
def toValue : Input → Value
  | .text chars => .str (String.ofList chars.toList)
  | .bytes octets => .bytes octets.toList
  | .list items => .list items.toList
  | .tuple items => .tuple items.toList
  | .unreadable => .none

end Input

end ParserCombinators
