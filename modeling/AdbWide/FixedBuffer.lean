import Mathlib.Data.List.TakeWhile

/-!
# Text in a buffer of fixed size

`_snprintf` writes as much of a text as the buffer holds and puts a terminator behind it only if
there is room for one.  Whoever then reads the text up to the terminator goes on reading what lies
behind the buffer in memory.
-/

namespace AdbWide
namespace FixedBuffer

variable {α : Type*} [DecidableEq α]

/-- The text that is read from a buffer of the given size after it was written there; `beyond` is
the memory behind the buffer. -/
def readBack (stop : α) (size : Nat) (text beyond : List α) : List α :=
  if text.length < size then text else (text.take size ++ beyond).takeWhile (· ≠ stop)

variable {stop : α} {size : Nat} {text : List α}

theorem readBack_of_lt (fits : text.length < size) (beyond : List α) :
    readBack stop size text beyond = text :=
  if_pos fits

theorem readBack_of_le (plain : stop ∉ text) (full : size ≤ text.length) (beyond : List α) :
    readBack stop size text beyond = text.take size ++ beyond.takeWhile (· ≠ stop) := by
  rw [readBack, if_neg (by omega), List.takeWhile_append_of_pos]
  intro element member
  have inside : element ≠ stop := by
    rintro rfl
    exact plain (List.mem_of_mem_take member)
  simpa using inside

theorem readBack_plain (plain : stop ∉ text) (beyond : List α) :
    stop ∉ readBack stop size text beyond := by
  rw [readBack]
  split
  · exact plain
  · intro member
    simpa using List.mem_takeWhile_imp member

theorem length_readBack_nil : (readBack stop size text []).length ≤ size := by
  rw [readBack]
  split
  · omega
  · rw [List.append_nil]
    exact (List.takeWhile_prefix _).length_le.trans (List.length_take_le _ _)

/-- Memory behind a buffer that is full, with which the text is not read back. -/
def spoiler (stop other : α) (size : Nat) (text : List α) : List α :=
  if text.length = size then [other, stop] else [stop]

theorem readBack_spoiler {other : α} (plain : stop ∉ text) (full : size ≤ text.length)
    (different : other ≠ stop) :
    readBack stop size text (spoiler stop other size text) =
      if text.length = size then text ++ [other] else text.take size := by
  rw [readBack_of_le plain full, spoiler]
  split
  · next equal =>
      rw [← equal, List.take_length, List.takeWhile_cons_of_pos (by simpa using different),
        List.takeWhile_cons_of_neg (by simp)]
  · rw [List.takeWhile_cons_of_neg (by simp), List.append_nil]

/-- What is read back depends on the memory behind the buffer when the terminator does not fit. -/
theorem of_readBack_constant {other : α} (plain : stop ∉ text) (different : other ≠ stop)
    {result : List α} (constant : ∀ beyond, readBack stop size text beyond = result) :
    text.length < size ∧ text = result := by
  by_cases fits : text.length < size
  · exact ⟨fits, (readBack_of_lt fits []).symm.trans (constant [])⟩
  · have one := constant [stop]
    have two := constant [other, stop]
    rw [readBack_of_le plain (Nat.not_lt.mp fits), List.takeWhile_cons_of_neg (by simp)] at one
    rw [readBack_of_le plain (Nat.not_lt.mp fits),
      List.takeWhile_cons_of_pos (by simpa using different)] at two
    have length := congrArg List.length (one.trans two.symm)
    simp at length

/-- A text is read back whatever there is in memory exactly when its terminator fits. -/
theorem readBack_eq_self_iff {other : α} (plain : stop ∉ text) (different : other ≠ stop) :
    (∀ beyond, readBack stop size text beyond = text) ↔ text.length < size := by
  constructor
  · intro whole
    by_contra full
    have spoiled := readBack_spoiler plain (Nat.not_lt.mp full) different
    rw [whole] at spoiled
    have length := congrArg List.length spoiled
    split at length
    · simp at length
    · rw [List.length_take] at length
      omega
  · intro fits beyond
    exact readBack_of_lt fits beyond

end FixedBuffer
end AdbWide
