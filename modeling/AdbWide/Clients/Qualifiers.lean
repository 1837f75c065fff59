import AdbWide.CText
import AdbWide.Clients.Acquiring

/-!
# Printing qualifiers

`adb devices -l` prints the product, the model and the device of a transport behind its serial.
`add_qual` writes each of them into what is left of a buffer, and replaces there the characters
that `qual_match` does not compare.
-/

namespace AdbWide
namespace Clients

open Sockets.Server

/-- The local variables of `format_transport`: where the next text goes, and how many bytes are
left. -/
structure Cursor (size : Nat) where
  block : Block UInt8 size
  buf : Int
  remaining : Nat

/-- `for (cp = *buf + prefix_len; cp < *buf + len; cp++)`, for the given number of bytes. -/
def sanitizeLoop {size : Nat} :
    Nat → Int → Block UInt8 size → Except Fault (Block UInt8 size)
  | 0, _, block => .ok block
  | count + 1, cp, block => do
      let ch ← block.get cp
      let block ← (if qualCharIsInvalid ch then block.put cp [95] else .ok block)
      sanitizeLoop count (cp + 1) block

/-- What `snprintf` stands for in a runtime library. -/
structure Runtime where
  snprintf : Nat → List UInt8 → Formatted
  /-- `%n` in a format stores the count of the characters so far. -/
  countOutput : Bool

/-- The library of the C99 standard. -/
def Runtime.c99 : Runtime where
  snprintf := Formatted.c99
  countOutput := true

/-- The Microsoft library, where `%n` is an invalid parameter unless the program calls
`_set_printf_count_output`. -/
def Runtime.msvc : Runtime where
  snprintf := Formatted.msvc
  countOutput := false

/-- `add_qual`. -/
def addQual {size : Nat} (runtime : Runtime) (cursor : Cursor size) (pre : List UInt8)
    (qual : Option (List UInt8)) (sanitizeQual : Bool) : Except Fault (Cursor size) :=
  match qual with
  | none | some [] => .ok cursor
  | some qual =>
      if cursor.remaining = 0 then .ok cursor
      else if ¬runtime.countOutput then .error .invalidParameter
      else do
        let out := runtime.snprintf cursor.remaining (pre ++ qual)
        let block ← cursor.block.put cursor.buf out.written
        let prefixLen : Int := pre.length
        let stop := signed (cursor.buf + out.length)
        let block ←
          (if sanitizeQual then
            sanitizeLoop (stop - (cursor.buf + prefixLen)).toNat (cursor.buf + prefixLen) block
          else .ok block)
        .ok { block, buf := stop, remaining := unsigned (cursor.remaining - out.length) }

/-- A character as `add_qual` prints it. -/
def qualChar (sanitizeQual : Bool) (c : UInt8) : UInt8 :=
  if sanitizeQual ∧ qualCharIsInvalid c then 95 else c

/-! ## The loop over the printed characters -/

section Loop

variable {size : Nat}

/-- One character is looked at, and replaced where it stands. -/
theorem sanitizeLoop_step (block : Block UInt8 size) (offset : Nat) (inside : offset < size) :
    ∃ ch block', block.get offset = .ok ch ∧ block.segment offset (offset + 1) = [ch] ∧
      (if qualCharIsInvalid ch then block.put offset [95] else .ok block) = .ok block' ∧
      block'.segment 0 (offset + 1) = block.segment 0 offset ++ [qualChar true ch] ∧
      ∀ start stop, offset + 1 ≤ start → block'.segment start stop = block.segment start stop := by
  have within : offset < block.cells.length := by
    rw [block.length_cells]
    exact inside
  have cell : block.segment offset (offset + 1) = [block.cells[offset]] := by
    rw [Block.segment, List.drop_take, Nat.add_sub_cancel_left, List.drop_eq_getElem_cons within]
    rfl
  have read : block.get offset = .ok block.cells[offset] := by
    rw [Block.get, if_pos (Int.natCast_nonneg offset), Int.toNat_natCast,
      List.getElem?_eq_getElem within]
  refine ⟨block.cells[offset], ?_⟩
  by_cases invalid : qualCharIsInvalid block.cells[offset]
  · obtain ⟨block', stores, grown, -, after⟩ := block.store_eq_ok offset [95] inside
    refine ⟨block', read, cell, ?_, ?_, after⟩
    · rw [if_pos invalid]
      exact stores
    · rw [qualChar, if_pos ⟨rfl, invalid⟩]
      exact grown 0 (Nat.zero_le _)
  · refine ⟨block, read, cell, if_neg invalid, ?_, fun _ _ _ => rfl⟩
    rw [qualChar, if_neg fun both => invalid both.2, ← cell,
      block.segment_append (Nat.zero_le _) (Nat.le_succ _)]

/-- The loop replaces the characters between its two pointers and nothing else. -/
theorem sanitizeLoop_eq_ok (count offset : Nat) (block : Block UInt8 size)
    (inside : offset + count ≤ size) :
    ∃ block', sanitizeLoop count offset block = .ok block' ∧
      ∀ stop, offset + count ≤ stop → block'.segment 0 stop =
        block.segment 0 offset ++ (block.segment offset (offset + count)).map (qualChar true) ++
          block.segment (offset + count) stop := by
  induction count generalizing offset block with
  | zero =>
      refine ⟨block, rfl, fun stop stop_ge => ?_⟩
      rw [Nat.add_zero, Block.segment_self, List.map_nil, List.append_nil,
        block.segment_append (Nat.zero_le offset) (by omega)]
  | succ count induction =>
      obtain ⟨ch, stepped, read, cell, step, front, after⟩ :=
        sanitizeLoop_step block offset (by omega)
      obtain ⟨block', loop, result⟩ := induction (offset + 1) stepped (by omega)
      refine ⟨block', ?_, fun stop stop_ge => ?_⟩
      · rw [sanitizeLoop, read, ok_bind, step, ok_bind]
        exact loop
      · rw [result stop (by omega), front, after _ _ (Nat.le_refl _), after _ _ (by omega),
          show offset + 1 + count = offset + (count + 1) by omega,
          ← block.segment_append (Nat.le_succ offset)
            (by omega : offset + 1 ≤ offset + (count + 1)), cell, List.map_append,
          List.map_singleton]
        simp only [List.append_assoc]

end Loop

/-! ## What is printed -/

/-- The text of a qualifier. -/
def qualText (pre : List UInt8) (qual : Option (List UInt8)) (sanitizeQual : Bool) : List UInt8 :=
  match qual with
  | none | some [] => []
  | some qual => pre ++ qual.map (qualChar sanitizeQual)

theorem map_qualChar_false (qual : List UInt8) : qual.map (qualChar false) = qual := by
  have same : qualChar false = id := funext fun c => if_neg fun both => nomatch both.1
  rw [same, List.map_id]

theorem qualText_some {qual : List UInt8} (nonempty : qual ≠ []) (pre : List UInt8)
    (sanitizeQual : Bool) :
    qualText pre (some qual) sanitizeQual = pre ++ qual.map (qualChar sanitizeQual) := by
  cases qual with
  | nil => exact absurd rfl nonempty
  | cons c qual => rfl

/-- `add_qual` with something to print and room left. -/
theorem addQual_some {size : Nat} {runtime : Runtime} (counts : runtime.countOutput = true)
    {cursor : Cursor size} {qual : List UInt8} (nonempty : qual ≠ [])
    (some_room : cursor.remaining ≠ 0) (pre : List UInt8) (sanitizeQual : Bool) :
    addQual runtime cursor pre (some qual) sanitizeQual =
      (do
        let out := runtime.snprintf cursor.remaining (pre ++ qual)
        let block ← cursor.block.put cursor.buf out.written
        let stop := signed (cursor.buf + out.length)
        let block ←
          (if sanitizeQual then
            sanitizeLoop (stop - (cursor.buf + pre.length)).toNat (cursor.buf + pre.length) block
          else .ok block)
        .ok { block, buf := stop, remaining := unsigned (cursor.remaining - out.length) }) := by
  cases qual with
  | nil => exact absurd rfl nonempty
  | cons c qual =>
      rw [addQual]
      · rw [if_neg some_room, if_neg (not_not_intro counts)]
      · exact nonempty

/-- `add_qual` appends the text of the qualifier when it was formatted as a whole. -/
theorem addQual_whole {size offset : Nat} {runtime : Runtime}
    (counts : runtime.countOutput = true) {cursor : Cursor size} {pre qual tail : List UInt8}
    (nonempty : qual ≠ []) (place : cursor.buf = offset) (some_room : cursor.remaining ≠ 0)
    (formats : runtime.snprintf cursor.remaining (pre ++ qual) = .whole (pre ++ qual) tail)
    (inside : offset + (pre ++ qual).length + tail.length ≤ size)
    (short : offset + (pre ++ qual).length < 2 ^ 31) (sanitizeQual : Bool) :
    ∃ cursor', addQual runtime cursor pre (some qual) sanitizeQual = .ok cursor' ∧
      cursor'.buf = (offset + (pre ++ qual).length : Nat) ∧
      cursor'.remaining = unsigned (cursor.remaining - (pre ++ qual).length) ∧
      cursor'.block.segment 0 (offset + (pre ++ qual).length + tail.length) =
        cursor.block.segment 0 offset ++ qualText pre (some qual) sanitizeQual ++ tail := by
  obtain ⟨written, writes, text⟩ := cursor.block.put_eq_ok offset (pre ++ qual ++ tail)
    (by rw [List.length_append]; omega)
  have stop : signed (cursor.buf + (pre ++ qual).length) =
      (offset + (pre ++ qual).length : Nat) := by
    rw [place, signed_of_lt] <;> omega
  rw [List.length_append, ← Nat.add_assoc] at text
  rw [addQual_some counts nonempty some_room]
  simp only [formats, Formatted.whole, stop]
  rw [place, writes, ok_bind]
  cases sanitizeQual with
  | false =>
      refine ⟨_, rfl, rfl, rfl, ?_⟩
      rw [qualText_some nonempty, map_qualChar_false, text]
      simp only [List.append_assoc]
  | true =>
      have count : ((offset + (pre ++ qual).length : Nat) - ((offset : Int) + pre.length)).toNat =
          qual.length := by
        rw [List.length_append]
        omega
      have within : offset + pre.length + qual.length ≤ size := by
        rw [List.length_append] at inside
        omega
      obtain ⟨sanitized, loop, result⟩ :=
        sanitizeLoop_eq_ok qual.length (offset + pre.length) written within
      rw [if_pos rfl, count,
        show (offset : Int) + pre.length = (offset + pre.length : Nat) from rfl, loop]
      refine ⟨_, rfl, rfl, rfl, ?_⟩
      rw [← List.append_assoc, ← List.append_assoc] at text
      obtain ⟨shown, behind⟩ := written.segment_of_append text
      obtain ⟨before, middle⟩ := written.segment_of_append shown
      have front : (cursor.block.segment 0 offset).length = offset :=
        cursor.block.length_segment (by omega)
      have first : (cursor.block.segment 0 offset ++ pre).length = offset + pre.length := by
        rw [List.length_append, front]
      have second : (cursor.block.segment 0 offset ++ pre ++ qual).length =
          offset + pre.length + qual.length := by
        rw [List.length_append, first]
      rw [first] at before
      rw [first, second] at middle
      rw [second] at behind
      rw [result _ (by rw [List.length_append]; omega), before, middle, behind,
        qualText_some nonempty]
      simp only [List.append_assoc]

/-! ## What is selected -/

/-- The qualifiers of a listing that select a device: the prefix that `format_transport` prints, the
one that `acquire_one_transport` compares, and whether the text is sanitized. -/
def selecting : List (List UInt8 × List UInt8 × Bool) :=
  [(ascii " product:", ascii "product:", false), (ascii " model:", ascii "model:", true),
    (ascii " device:", ascii "device:", false)]

theorem selecting_space : ∀ entry ∈ selecting, entry.1 = 32 :: entry.2.1 := by
  with_unfolding_all decide

theorem qualMatch_qualText_iff {toTest qual : List UInt8} (nonempty : toTest ≠ [])
    (some_qual : qual ≠ []) (pre : List UInt8) (sanitizeQual : Bool) :
    qualMatchLoops toTest pre (some qual) sanitizeQual = true ↔
      toTest = qualText pre (some qual) sanitizeQual := by
  rw [qualMatchLoops_eq, qualMatch, qualText_some some_qual]
  simp only [if_neg nonempty, decide_eq_true_eq]
  rfl

/-- There is room for a text and its terminator, in a buffer of the 32-bit address space. -/
structure Cursor.HasRoom {size : Nat} (cursor : Cursor size) (text : List UInt8) : Prop where
  start : 0 ≤ cursor.buf
  fits : text.length < cursor.remaining
  inside : cursor.buf + cursor.remaining ≤ size
  addressable : size < 2 ^ 31

/-- What `add_qual` prints for a device, without the space in front, selects that device, and no
other text does. -/
theorem addQual_selects {size : Nat} (cursor : Cursor size) (printed pre : List UInt8)
    (sanitizeQual : Bool) (member : (printed, pre, sanitizeQual) ∈ selecting) (qual : List UInt8)
    (nonempty : qual ≠ []) (room : cursor.HasRoom (printed ++ qual)) :
    ∃ cursor' text, addQual .c99 cursor printed (some qual) sanitizeQual = .ok cursor' ∧
      cursor'.block.segment cursor.buf.toNat (cursor'.buf + 1).toNat = 32 :: text ++ [0] ∧
      ∀ toTest, toTest ≠ [] →
        (qualMatchLoops toTest pre (some qual) sanitizeQual = true ↔ toTest = text) := by
  obtain ⟨offset, place⟩ := Int.eq_ofNat_of_zero_le room.start
  have space : printed = 32 :: pre := selecting_space _ member
  have fits := room.fits
  have inside := room.inside
  have addressable := room.addressable
  have counts : Runtime.c99.countOutput = true := rfl
  obtain ⟨cursor', adds, stop, -, cells⟩ :=
    addQual_whole counts nonempty place (by omega) (Formatted.c99_of_lt fits)
      (by rw [List.length_singleton]; omega) (by omega) sanitizeQual
  refine ⟨cursor', qualText pre (some qual) sanitizeQual, adds, ?_, fun toTest some_text =>
    qualMatch_qualText_iff some_text nonempty pre sanitizeQual⟩
  have front : (cursor.block.segment 0 offset).length = offset :=
    cursor.block.length_segment (by omega)
  rw [List.append_assoc] at cells
  have appended := (cursor'.block.segment_of_append cells).2
  rw [front, List.length_singleton] at appended
  rw [place, stop, Int.toNat_natCast,
    show ((offset + (printed ++ qual).length : Nat) + 1 : Int).toNat =
      offset + (printed ++ qual).length + 1 from rfl,
    appended, qualText_some nonempty, qualText_some nonempty, space]
  rfl

/-- A model with a space and a dash in its name. -/
theorem addQual_selects_model :
    let cursor : Cursor 16 := { block := ⟨List.replicate 16 255, rfl⟩, buf := 0, remaining := 16 }
    let qual := [65, 32, 45]
    ∃ cursor' text, addQual .c99 cursor (ascii " model:") (some qual) true = .ok cursor' ∧
      cursor'.block.segment cursor.buf.toNat (cursor'.buf + 1).toNat = 32 :: text ++ [0] ∧
      ∀ toTest, toTest ≠ [] →
        (qualMatchLoops toTest (ascii "model:") (some qual) true = true ↔ toTest = text) :=
  addQual_selects _ _ _ _ (by with_unfolding_all decide) _ (by decide)
    ⟨by decide, by with_unfolding_all decide, by decide, by decide⟩

end Clients
end AdbWide
