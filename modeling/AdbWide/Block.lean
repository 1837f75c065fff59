import Mathlib.Data.List.Basic

/-!
# Fixed-size blocks of memory

A `Block` is a run of exactly `size` cells.  Copies into and out of a block are checked against
its size, so that an access outside the block is a visible `Fault` and never a silent extension
of the cells.  The lemmas below describe a successful copy through the segments of the block it
changes and those it leaves alone.
-/

namespace AdbWide

/-- The ways in which straight-line code over a block can go wrong. -/
inductive Fault where
  /-- A copy reached outside the block. -/
  | outOfBounds
  /-- An assertion of the code did not hold. -/
  | assertion
  /-- A function of the runtime library was given something it does not accept, and ended the
  program. -/
  | invalidParameter
  deriving DecidableEq, Repr

/-- Check an assertion of the code. -/
def assertThat (condition : Prop) [Decidable condition] : Except Fault Unit :=
  if condition then .ok () else .error .assertion

@[simp] theorem ok_bind {α β : Type} (value : α) (next : α → Except Fault β) :
    ((Except.ok value : Except Fault α) >>= next) = next value := rfl

/-- A run of exactly `size` cells. -/
structure Block (α : Type*) (size : Nat) where
  /-- The cells, in address order. -/
  cells : List α
  /-- The block has no more and no fewer than `size` cells. -/
  length_cells : cells.length = size

namespace Block

variable {α : Type*} {size : Nat}

/-- The cells at addresses `start ≤ i < stop`. -/
def segment (block : Block α size) (start stop : Nat) : List α :=
  (block.cells.take stop).drop start

/-- Copy `source` into the block at `offset`. -/
def store (block : Block α size) (offset : Nat) (source : List α) :
    Except Fault (Block α size) :=
  if fits : offset + source.length ≤ size then
    .ok
      { cells :=
          block.cells.take offset ++ source ++ block.cells.drop (offset + source.length)
        length_cells := by
          have := block.length_cells
          simp only [List.length_append, List.length_take, List.length_drop]
          omega }
  else
    .error .outOfBounds

/-- Copy `count` cells out of the block, from `offset` on. -/
def load (block : Block α size) (offset count : Nat) : Except Fault (List α) :=
  if offset + count ≤ size then
    .ok (block.segment offset (offset + count))
  else
    .error .outOfBounds

theorem length_segment (block : Block α size) {start stop : Nat} (stop_le : stop ≤ size) :
    (block.segment start stop).length = stop - start := by
  have := block.length_cells
  simp only [segment, List.length_drop, List.length_take]
  omega

@[simp] theorem segment_self (block : Block α size) (start : Nat) :
    block.segment start start = [] := by
  apply List.drop_eq_nil_of_le
  simp only [List.length_take]
  omega

theorem take_segment (block : Block α size) {start stop count : Nat}
    (count_le : start + count ≤ stop) :
    (block.segment start stop).take count = block.segment start (start + count) := by
  simp only [segment]
  rw [List.take_drop, List.take_take, Nat.min_eq_left count_le]

theorem drop_segment (block : Block α size) (start stop count : Nat) :
    (block.segment start stop).drop count = block.segment (start + count) stop := by
  simp only [segment, List.drop_drop]

theorem load_eq_ok (block : Block α size) {offset count : Nat}
    (fits : offset + count ≤ size) :
    block.load offset count = .ok (block.segment offset (offset + count)) := by
  simp [load, fits]

/-- What a copy inside the bounds of a block does: the segment that ends with the copied range
grows by the source, and every segment clear of the range keeps its cells. -/
theorem store_eq_ok (block : Block α size) (offset : Nat) (source : List α)
    (fits : offset + source.length ≤ size) :
    ∃ stored : Block α size,
      block.store offset source = .ok stored ∧
        (∀ start, start ≤ offset →
          stored.segment start (offset + source.length) =
            block.segment start offset ++ source) ∧
        (∀ start stop, stop ≤ offset → stored.segment start stop = block.segment start stop) ∧
        (∀ start stop, offset + source.length ≤ start →
          stored.segment start stop = block.segment start stop) := by
  have length_cells := block.length_cells
  have length_front : (block.cells.take offset).length = offset := by
    simp only [List.length_take]
    omega
  have length_written : (block.cells.take offset ++ source).length = offset + source.length := by
    rw [List.length_append, length_front]
  refine ⟨_, dif_pos fits, ?_, ?_, ?_⟩
  · intro start start_le
    simp only [segment]
    rw [List.take_append_of_le_length (by omega), List.take_of_length_le (by omega),
      List.drop_append_of_le_length (by omega)]
  · intro start stop stop_le
    simp only [segment]
    rw [List.append_assoc, List.take_append_of_le_length (by omega), List.take_take,
      Nat.min_eq_left stop_le]
  · intro start stop start_ge
    simp only [segment]
    rw [List.drop_take, List.drop_take, List.drop_append, List.drop_eq_nil_of_le (by omega),
      List.nil_append, List.drop_drop, length_written]
    congr 2
    omega

end Block
end AdbWide
