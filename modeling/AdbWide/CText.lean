import Mathlib.Algebra.Group.Nat.Defs
import Mathlib.Algebra.Ring.Int.Defs
import Mathlib.Data.List.TakeWhile
import AdbWide.Block

/-!
# C text in a block of memory

A C string is a text with a zero byte behind it.  The functions below write one into a block at an
address that is an integer, since a pointer that has run off the front of its buffer has a negative
one.  Lengths pass through `int` and `size_t`, both of 32 bits.
-/

namespace AdbWide

/-! ## Lengths -/

/-- The conversion of a number to `int`. -/
def signed (value : Int) : Int :=
  value.bmod (2 ^ 32)

/-- The conversion of a number to `size_t`. -/
def unsigned (value : Int) : Nat :=
  (value % 2 ^ 32).toNat

theorem signed_of_lt {value : Int} (lower : -2 ^ 31 ≤ value) (upper : value < 2 ^ 31) :
    signed value = value := by
  rw [signed, Int.bmod_def]
  split <;> omega

theorem signed_bounds (value : Int) : -2 ^ 31 ≤ signed value ∧ signed value < 2 ^ 31 := by
  rw [signed, Int.bmod_def]
  split <;> omega

theorem unsigned_natCast {value : Nat} (upper : value < 2 ^ 32) : unsigned value = value := by
  rw [unsigned]
  omega

theorem unsigned_sub {value count : Nat} (upper : value < 2 ^ 32) (count_le : count ≤ value) :
    unsigned ((value : Int) - count) = value - count := by
  rw [unsigned]
  omega

/-! ## Writing at an address -/

namespace Block

variable {α : Type*} {size : Nat}

/-- Copy to an address that may lie in front of the block.  Copying nothing touches nothing. -/
def put (block : Block α size) (address : Int) (source : List α) : Except Fault (Block α size) :=
  match source with
  | [] => .ok block
  | _ :: _ => if 0 ≤ address then block.store address.toNat source else .error .outOfBounds

/-- Read the cell at an address that may lie outside the block. -/
def get (block : Block α size) (address : Int) : Except Fault α :=
  if 0 ≤ address then
    match block.cells[address.toNat]? with
    | some cell => .ok cell
    | none => .error .outOfBounds
  else .error .outOfBounds

theorem segment_zero (block : Block α size) (stop : Nat) :
    block.segment 0 stop = block.cells.take stop := rfl

theorem segment_append (block : Block α size) {start middle stop : Nat} (le : start ≤ middle)
    (le' : middle ≤ stop) :
    block.segment start middle ++ block.segment middle stop = block.segment start stop := by
  have split := List.take_append_drop (middle - start) (block.segment start stop)
  rw [take_segment _ (by omega), drop_segment, show start + (middle - start) = middle by omega]
    at split
  exact split

/-- A text at the start of a block is cut in two. -/
theorem segment_of_append (block : Block α size) {stop : Nat} {front rear : List α}
    (text : block.segment 0 stop = front ++ rear) :
    block.segment 0 front.length = front ∧ block.segment front.length stop = rear := by
  have length := congrArg List.length text
  rw [segment, List.drop_zero, List.length_take, List.length_append] at length
  constructor
  · have taken := block.take_segment (by omega : 0 + front.length ≤ stop)
    rw [text, List.take_left, Nat.zero_add] at taken
    exact taken.symm
  · have dropped := block.drop_segment 0 stop front.length
    rw [text, List.drop_left, Nat.zero_add] at dropped
    exact dropped.symm

/-- What writing inside the block does to the cells up to the end of what is written. -/
theorem put_eq_ok (block : Block α size) (offset : Nat) (source : List α)
    (fits : offset + source.length ≤ size) :
    ∃ stored : Block α size, block.put offset source = .ok stored ∧
      stored.segment 0 (offset + source.length) = block.segment 0 offset ++ source := by
  cases source with
  | nil => exact ⟨block, rfl, by simp⟩
  | cons cell source =>
      obtain ⟨stored, stores, grown, -, -⟩ := block.store_eq_ok offset (cell :: source) fits
      exact ⟨stored, stores, grown 0 (Nat.zero_le _)⟩

/-- Writing at the start of a block. -/
theorem put_zero (block : Block α size) {source : List α} (fits : source.length ≤ size) :
    ∃ stored : Block α size, block.put 0 source = .ok stored ∧
      stored.cells = source ++ block.cells.drop source.length := by
  cases source with
  | nil => exact ⟨block, rfl, rfl⟩
  | cons cell source =>
      have inside : 0 + (cell :: source).length ≤ size := by omega
      refine ⟨_, dif_pos inside, ?_⟩
      dsimp only
      rw [Int.toNat_zero, List.take_zero, List.nil_append, Nat.zero_add]

theorem put_of_neg (block : Block α size) {address : Int} (negative : address < 0) {source : List α}
    (nonempty : source ≠ []) : block.put address source = .error .outOfBounds := by
  cases source with
  | nil => exact absurd rfl nonempty
  | cons cell source => exact if_neg (by omega)

end Block

/-! ## The text at the start of a block -/

namespace Block

variable {size : Nat}

/-- A block of zeros. -/
def zeros (size : Nat) : Block UInt8 size where
  cells := List.replicate size 0
  length_cells := List.length_replicate

/-- The bytes up to the first zero. -/
def text (block : Block UInt8 size) : List UInt8 :=
  block.cells.takeWhile (· ≠ 0)

/-- A text stands at the start of a block, with its terminator. -/
structure Shows (block : Block UInt8 size) (text : List UInt8) : Prop where
  plain : 0 ∉ text
  cells : block.segment 0 (text.length + 1) = text ++ [0]

namespace Shows

variable {block : Block UInt8 size} {text : List UInt8}

theorem length_lt (shown : block.Shows text) : text.length < size := by
  have length := congrArg List.length shown.cells
  rw [segment_zero, List.length_take, List.length_append, List.length_singleton,
    block.length_cells] at length
  omega

theorem cells_eq (shown : block.Shows text) :
    block.cells = text ++ 0 :: block.cells.drop (text.length + 1) := by
  rw [← List.singleton_append, ← List.append_assoc, ← shown.cells, segment_zero,
    List.take_append_drop]

theorem text_eq (shown : block.Shows text) : block.text = text := by
  have inside : ∀ byte ∈ text, decide (byte ≠ 0) = true := by
    intro byte member
    rw [decide_eq_true_eq]
    rintro rfl
    exact shown.plain member
  rw [Block.text, shown.cells_eq, List.takeWhile_append_of_pos inside,
    List.takeWhile_cons_of_neg (by decide), List.append_nil]

end Shows

/-- Writing a text and its terminator at the start of a block. -/
theorem put_shows (block : Block UInt8 size) {text : List UInt8} (plain : 0 ∉ text)
    (fits : text.length < size) :
    ∃ stored : Block UInt8 size, block.put 0 (text ++ [0]) = .ok stored ∧ stored.Shows text := by
  obtain ⟨stored, stores, grown⟩ := block.put_eq_ok 0 (text ++ [0])
    (by rw [List.length_append, List.length_singleton]; omega)
  rw [Nat.zero_add, List.length_append, segment_self, List.nil_append] at grown
  exact ⟨stored, stores, plain, grown⟩

end Block

/-! ## Appending -/

namespace Block

variable {size : Nat} {block : Block UInt8 size} {before source text : List UInt8}

/-- `strncat`: behind the text in the block, at most so many bytes and a terminator. -/
def strncat (block : Block UInt8 size) (source : List UInt8) (count : Nat) :
    Except Fault (Block UInt8 size) :=
  if 0 ∈ block.cells then block.store block.text.length (source.take count ++ [0])
  else .error .outOfBounds

/-- A text is put together in a block, and there is a fault if it does not fit. -/
def Builds (result : Except Fault (Block UInt8 size)) (text : List UInt8) : Prop :=
  (text.length < size ∧ ∃ block, result = .ok block ∧ block.Shows text) ∨
    (size ≤ text.length ∧ result = .error .outOfBounds)

theorem Shows.builds (shown : block.Shows text) : Builds (.ok block) text :=
  .inl ⟨shown.length_lt, block, rfl, shown⟩

theorem builds_put (block : Block UInt8 size) (plain : 0 ∉ text) (fits : text.length < size) :
    Builds (block.put 0 (text ++ [0])) text :=
  .inl ⟨fits, block.put_shows plain fits⟩

/-- A bound for `strncat` that is the size of the block keeps nothing from running out of it. -/
theorem Shows.builds_strncat (shown : block.Shows before) (plain : 0 ∉ source) {count : Nat}
    (large : size ≤ before.length + count) :
    Builds (block.strncat source count) (before ++ source) := by
  have terminated : 0 ∈ block.cells := by
    rw [shown.cells_eq]
    simp
  rw [strncat, if_pos terminated, shown.text_eq]
  by_cases fits : (before ++ source).length < size
  · rw [List.length_append] at fits
    have whole : source.take count = source := List.take_of_length_le (by omega)
    have room : before.length + (source ++ [0]).length ≤ size := by
      rw [List.length_append, List.length_singleton]
      omega
    obtain ⟨stored, stores, grown, -, -⟩ := block.store_eq_ok before.length (source ++ [0]) room
    have front : block.segment 0 before.length = before := (block.segment_of_append shown.cells).1
    have grown := grown 0 (Nat.zero_le _)
    rw [front, ← List.append_assoc, List.length_append, List.length_singleton, ← Nat.add_assoc,
      ← List.length_append] at grown
    refine .inl ⟨by rwa [List.length_append], stored, by rw [whole, stores], ?_, grown⟩
    rw [List.mem_append]
    exact fun member => member.elim shown.plain plain
  · refine .inr ⟨by omega, dif_neg ?_⟩
    rw [List.length_append] at fits
    rw [List.length_append, List.length_singleton, List.length_take]
    omega

theorem strncat_of_not_mem (unterminated : 0 ∉ block.cells) (count : Nat) :
    block.strncat source count = .error .outOfBounds :=
  if_neg unterminated

/-- What goes on with a text that was put together goes on behind it. -/
theorem Builds.bind {result : Except Fault (Block UInt8 size)} (built : Builds result before)
    {next : Block UInt8 size → Except Fault (Block UInt8 size)}
    (continued : ∀ block : Block UInt8 size, block.Shows before →
      Builds (next block) (before ++ source)) :
    Builds (result >>= next) (before ++ source) := by
  rcases built with ⟨-, block, rfl, shown⟩ | ⟨exceeds, rfl⟩
  · exact continued block shown
  · refine .inr ⟨?_, rfl⟩
    rw [List.length_append]
    omega

end Block

/-! ## Formatted output -/

/-- What a formatting function writes, and the length it returns. -/
structure Formatted where
  written : List UInt8
  length : Int
  deriving DecidableEq, Repr

namespace Formatted

/-- A text that was written whole, with what was put behind it. -/
def whole (text tail : List UInt8) : Formatted :=
  { written := text ++ tail
    length := text.length }

/-- `snprintf` as C99 has it. -/
def c99 (size : Nat) (text : List UInt8) : Formatted :=
  { written := if size = 0 then [] else text.take (size - 1) ++ [0]
    length := text.length }

/-- `_snprintf` of the Microsoft library. -/
def msvc (size : Nat) (text : List UInt8) : Formatted :=
  { written := if text.length < size then text ++ [0] else text.take size
    length := if text.length ≤ size then text.length else -1 }

variable {size : Nat} {text : List UInt8}

theorem c99_of_lt (fits : text.length < size) : c99 size text = whole text [0] := by
  rw [c99, if_neg (by omega), List.take_of_length_le (by omega), whole]

theorem msvc_of_lt (fits : text.length < size) : msvc size text = whole text [0] := by
  rw [msvc, if_pos fits, if_pos (Nat.le_of_lt fits), whole]

theorem msvc_of_gt (exceeds : size < text.length) : msvc size text = ⟨text.take size, -1⟩ := by
  rw [msvc, if_neg (by omega), if_neg (by omega)]

/-- A text that is not longer than the room for it stands behind what was there before. -/
theorem put_msvc {memory room : Nat} {block : Block UInt8 memory} {before : List UInt8}
    (shown : block.segment 0 before.length = before) (fits : text.length ≤ room)
    (inside : before.length + room ≤ memory) :
    (msvc room text).length = text.length ∧
      ∃ stored, block.put before.length (msvc room text).written = .ok stored ∧
        stored.segment 0 (before ++ text).length = before ++ text := by
  rw [msvc]
  refine ⟨if_pos fits, ?_⟩
  split
  · obtain ⟨stored, stores, grown⟩ := block.put_eq_ok before.length (text ++ [0])
      (by rw [List.length_append, List.length_singleton]; omega)
    rw [shown, ← List.append_assoc] at grown
    exact ⟨stored, stores, (stored.segment_of_append grown).1⟩
  · obtain ⟨stored, stores, grown⟩ := block.put_eq_ok before.length text (by omega)
    rw [shown, ← List.length_append] at grown
    rw [List.take_of_length_le fits]
    exact ⟨stored, stores, grown⟩

end Formatted

end AdbWide
