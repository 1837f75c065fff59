import AdbWide.BipBuffer.Model
import AdbWide.BoundedFifo

/-!
# The socketpair buffer is a bounded byte queue

The representation invariant of the two regions is `Valid`.  Under it a write that finds
`can_write` set and a read that finds `can_read` set never fault, keep the invariant, and act on
the buffered bytes as the two calls of a bounded queue of `bipBufferSize` bytes.
-/

namespace AdbWide
namespace BipBuffer

/-- The two regions lie in the block, and region B is in use only when region A has reached the
end of the block. -/
structure Shape (bip : BipBuffer) : Prop where
  bEnd_le : bip.bEnd ≤ bip.aStart
  aStart_le : bip.aStart ≤ bip.aEnd
  aEnd_le : bip.aEnd ≤ bipBufferSize
  wrapped : 0 < bip.bEnd → bip.aEnd = bipBufferSize

/-- The representation invariant: the regions are in shape, a drained buffer is reset to the
start of the block, and both flags say what the indices say. -/
structure Valid (bip : BipBuffer) : Prop extends Shape bip where
  drained : bip.aStart = bip.aEnd → bip.aEnd = 0
  canRead_iff : bip.canRead = true ↔ bip.aStart < bip.aEnd
  canWrite_iff : bip.canWrite = true ↔ bip.size < bipBufferSize

theorem Shape.size_le {bip : BipBuffer} (shape : Shape bip) : bip.size ≤ bipBufferSize := by
  have := shape.bEnd_le
  have := shape.aStart_le
  have := shape.aEnd_le
  simp only [size]
  omega

theorem Shape.length_contents {bip : BipBuffer} (shape : Shape bip) :
    bip.contents.length = bip.size := by
  have bEnd_le := shape.bEnd_le
  have aStart_le := shape.aStart_le
  have aEnd_le := shape.aEnd_le
  rw [contents, List.length_append, bip.buff.length_segment aEnd_le,
    bip.buff.length_segment (by omega), size, Nat.sub_zero]

theorem Valid.canRead_iff_size {bip : BipBuffer} (valid : Valid bip) :
    bip.canRead = true ↔ 0 < bip.size := by
  have bEnd_le := valid.bEnd_le
  have aStart_le := valid.aStart_le
  have drained := valid.drained
  rw [valid.canRead_iff, size]
  omega

/-- A buffer that is reset. -/
theorem valid_of_empty {bip : BipBuffer} (aStart : bip.aStart = 0) (aEnd : bip.aEnd = 0)
    (bEnd : bip.bEnd = 0) (canRead : bip.canRead = false) (canWrite : bip.canWrite = true) :
    Valid bip where
  bEnd_le := by simp [bEnd]
  aStart_le := by simp [aStart]
  aEnd_le := by simp [aEnd]
  wrapped := by simp [bEnd]
  drained := fun _ => aEnd
  canRead_iff := by simp [canRead, aStart, aEnd]
  canWrite_iff := by simp [canWrite, size, aStart, aEnd, bEnd, bipBufferSize]

theorem valid_init (buff : Block UInt8 bipBufferSize) : Valid (bipBufferInit buff) :=
  valid_of_empty rfl rfl rfl rfl rfl

@[simp] theorem contents_init (buff : Block UInt8 bipBufferSize) :
    (bipBufferInit buff).contents = [] := by
  simp [contents, bipBufferInit]

/-! ## Writes -/

/-- What a completed write does to the buffer: it appends `bytes`, makes the buffer readable, and
resets `evt_write` exactly when it leaves no room. -/
structure Wrote (bip after : BipBuffer) (bytes : List UInt8) : Prop where
  valid : Valid after
  contents_eq : after.contents = bip.contents ++ bytes
  closed_eq : after.closed = bip.closed
  evtRead_eq : after.evtRead = (bip.evtRead || !bip.canRead)
  evtWrite_eq : after.evtWrite = (bip.evtWrite && after.canWrite)

theorem writeExit_eq_ok {bip : BipBuffer} {count : Nat} (positive : 0 < count) :
    writeExit bip count =
      .ok (count,
        { bip with canRead := true, evtRead := bip.evtRead || !bip.canRead }) := by
  cases bip with
  | mk aStart aEnd bEnd closed canWrite evtWrite canRead evtRead buff =>
      cases canRead <;> simp [writeExit, assertThat, positive]

/-- The second half of a write appends to region B as much as fits below `aStart`. -/
theorem writeRegionB_spec {bip : BipBuffer} (src : List UInt8) (count : Nat)
    (shape : Shape bip) (readable : bip.aStart < bip.aEnd) (writable : bip.canWrite = true)
    (done : src = [] → 0 < count ∧ bip.size < bipBufferSize)
    (more : src ≠ [] → bip.aEnd = bipBufferSize ∧ bip.bEnd < bip.aStart) :
    ∃ after,
      bip.writeRegionB src count =
          .ok (count + min (bip.aStart - bip.bEnd) src.length, after) ∧
        Wrote bip after (src.take (min (bip.aStart - bip.bEnd) src.length)) := by
  have bEnd_le := shape.bEnd_le
  have aEnd_le := shape.aEnd_le
  rcases eq_or_ne src [] with rfl | nonempty
  · obtain ⟨positive, room⟩ := done rfl
    refine ⟨{ bip with canRead := true, evtRead := bip.evtRead || !bip.canRead }, ?_, ?_⟩
    · simp [writeRegionB, writeExit_eq_ok positive]
    · refine ⟨⟨⟨bEnd_le, shape.aStart_le, aEnd_le, shape.wrapped⟩, ?_, ?_, ?_⟩, ?_, rfl, rfl, ?_⟩
      · intro empty
        exact absurd empty (Nat.ne_of_lt readable)
      · simpa using readable
      · simpa [writable, size] using room
      · simp [contents]
      · simp [writable]
  · obtain ⟨aEnd_eq, room⟩ := more nonempty
    have length_pos : 0 < src.length := List.length_pos_of_ne_nil nonempty
    set avail := min (bip.aStart - bip.bEnd) src.length with avail_eq
    have avail_pos : 0 < avail := by omega
    have length_take : (src.take avail).length = avail := by
      rw [List.length_take]
      omega
    obtain ⟨stored, store_eq, grown, below, above⟩ :=
      bip.buff.store_eq_ok bip.bEnd (src.take avail) (by
        rw [length_take]
        omega)
    rw [length_take] at grown above
    -- Region B ends at or before `aStart`, so region A is clear of the copy.
    have contents_eq : stored.segment bip.aStart bip.aEnd ++ stored.segment 0 (bip.bEnd + avail) =
        bip.contents ++ src.take avail := by
      rw [above _ _ (by omega), grown _ (Nat.zero_le _), contents, List.append_assoc]
    by_cases full : bip.bEnd + avail = bip.aStart
    · refine ⟨{ bip with
          buff := stored
          bEnd := bip.bEnd + avail
          canWrite := false
          evtWrite := false
          canRead := true
          evtRead := bip.evtRead || !bip.canRead }, ?_, ?_⟩
      · simp [writeRegionB, nonempty, assertThat, Nat.sub_pos_of_lt room, ← avail_eq, store_eq,
          full, writeExit_eq_ok (show 0 < count + avail by omega)]
      · refine ⟨⟨⟨?_, shape.aStart_le, aEnd_le, ?_⟩, ?_, ?_, ?_⟩, contents_eq, rfl, rfl, ?_⟩
        · exact Nat.le_of_eq full
        · intro _
          exact aEnd_eq
        · intro empty
          exact absurd empty (Nat.ne_of_lt readable)
        · simpa using readable
        · simp only [size, Bool.false_eq_true, false_iff]
          omega
        · simp
    · refine ⟨{ bip with
          buff := stored
          bEnd := bip.bEnd + avail
          canRead := true
          evtRead := bip.evtRead || !bip.canRead }, ?_, ?_⟩
      · simp [writeRegionB, nonempty, assertThat, Nat.sub_pos_of_lt room, ← avail_eq, store_eq,
          full, writeExit_eq_ok (show 0 < count + avail by omega)]
      · refine ⟨⟨⟨?_, shape.aStart_le, aEnd_le, ?_⟩, ?_, ?_, ?_⟩, contents_eq, rfl, rfl, ?_⟩
        · simp only
          omega
        · intro _
          exact aEnd_eq
        · intro empty
          exact absurd empty (Nat.ne_of_lt readable)
        · simpa using readable
        · simp only [size, writable, true_iff]
          omega
        · simp [writable]

/-- A write that found `can_write` set accepts as much of its source as there is room for. -/
theorem writeCritical_spec {bip : BipBuffer} {src : List UInt8} (valid : Valid bip)
    (nonempty : src ≠ []) (writable : bip.canWrite = true) :
    ∃ after,
      bip.writeCritical src = .ok (min src.length (bipBufferSize - bip.size), after) ∧
        Wrote bip after (src.take (min src.length (bipBufferSize - bip.size))) := by
  have bEnd_le := valid.bEnd_le
  have aStart_le := valid.aStart_le
  have aEnd_le := valid.aEnd_le
  have wrapped := valid.wrapped
  have room := valid.canWrite_iff.mp writable
  have length_pos : 0 < src.length := List.length_pos_of_ne_nil nonempty
  simp only [size] at room ⊢
  by_cases appends : 0 < bipBufferSize - bip.aEnd
  · -- Region B is empty, and the copy extends region A.
    have bEnd_eq : bip.bEnd = 0 := by
      by_contra positive
      have := wrapped (Nat.pos_of_ne_zero positive)
      omega
    set avail := min (bipBufferSize - bip.aEnd) src.length with avail_eq
    have avail_pos : 0 < avail := by omega
    have length_take : (src.take avail).length = avail := by
      rw [List.length_take]
      omega
    obtain ⟨stored, store_eq, grown, below, above⟩ :=
      bip.buff.store_eq_ok bip.aEnd (src.take avail) (by
        rw [length_take]
        omega)
    rw [length_take] at grown
    let grownA : BipBuffer := { bip with buff := stored, aEnd := bip.aEnd + avail }
    have contents_eq : grownA.contents = bip.contents ++ src.take avail := by
      simp only [contents, grownA, bEnd_eq, Block.segment_self, List.append_nil]
      exact grown _ aStart_le
    by_cases full : bip.aEnd + avail = bipBufferSize ∧ bip.aStart = 0
    · refine ⟨{ grownA with
          canWrite := false
          evtWrite := false
          canRead := true
          evtRead := bip.evtRead || !bip.canRead }, ?_, ?_⟩
      · have count_eq : min src.length (bipBufferSize - (bip.aEnd - bip.aStart + bip.bEnd)) =
            avail := by omega
        rw [count_eq]
        simp [writeCritical, appends, ← avail_eq, store_eq, full, writeExit_eq_ok avail_pos,
          grownA]
      · refine ⟨⟨⟨bEnd_le, ?_, ?_, ?_⟩, ?_, ?_, ?_⟩, ?_, rfl, rfl, ?_⟩
        · simp only [grownA]
          omega
        · simp only [grownA]
          omega
        · simp only [grownA]
          omega
        · simp only [grownA]
          omega
        · simp only [grownA, true_iff]
          omega
        · simp only [grownA, size, Bool.false_eq_true, false_iff]
          omega
        · have count_eq : min src.length (bipBufferSize - (bip.aEnd - bip.aStart + bip.bEnd)) =
              avail := by omega
          rw [count_eq]
          exact contents_eq
        · simp
    · have shapeA : Shape grownA := by
        refine ⟨bEnd_le, ?_, ?_, ?_⟩ <;> simp only [grownA] <;> omega
      have length_drop : (src.drop avail).length = src.length - avail := List.length_drop
      obtain ⟨after, regionB_eq, wrote⟩ :=
        writeRegionB_spec (src.drop avail) avail shapeA
          (by simp only [grownA]; omega) writable
          (by
            intro empty
            refine ⟨avail_pos, ?_⟩
            simp only [grownA, size]
            omega)
          (by
            intro remains
            have := List.length_pos_of_ne_nil remains
            simp only [grownA]
            omega)
      have rest_eq : min (grownA.aStart - grownA.bEnd) (src.drop avail).length =
          min src.length (bipBufferSize - (bip.aEnd - bip.aStart + bip.bEnd)) - avail := by
        simp only [grownA, length_drop]
        omega
      have count_eq : avail + (min src.length
          (bipBufferSize - (bip.aEnd - bip.aStart + bip.bEnd)) - avail) =
          min src.length (bipBufferSize - (bip.aEnd - bip.aStart + bip.bEnd)) := by omega
      rw [rest_eq] at regionB_eq wrote
      refine ⟨after, ?_, wrote.valid, ?_, wrote.closed_eq, wrote.evtRead_eq, wrote.evtWrite_eq⟩
      · rw [count_eq] at regionB_eq
        simp only [writeCritical, appends, if_true, ← avail_eq, store_eq]
        simpa [full, grownA] using regionB_eq
      · rw [wrote.contents_eq, contents_eq, List.append_assoc, ← count_eq, List.take_add]
        simp
  · -- Region A has reached the end of the block: all room is below `aStart`.
    have aEnd_eq : bip.aEnd = bipBufferSize := by omega
    obtain ⟨after, regionB_eq, wrote⟩ :=
      writeRegionB_spec src 0 valid.toShape
        (by
          have := valid.drained
          simp only [bipBufferSize] at *
          omega)
        writable (fun empty => absurd empty nonempty) (fun _ => ⟨aEnd_eq, by omega⟩)
    have count_eq : min (bip.aStart - bip.bEnd) src.length =
        min src.length (bipBufferSize - (bip.aEnd - bip.aStart + bip.bEnd)) := by omega
    rw [count_eq, Nat.zero_add] at regionB_eq
    rw [count_eq] at wrote
    refine ⟨after, ?_, wrote⟩
    simpa [writeCritical, appends] using regionB_eq

/-! ## Reads -/

/-- What a completed read does to the buffer: it removes the oldest `count` bytes, makes the
buffer writable, and resets `evt_read` exactly when it leaves nothing to read. -/
structure Took (bip after : BipBuffer) (count : Nat) : Prop where
  valid : Valid after
  contents_eq : after.contents = bip.contents.drop count
  closed_eq : after.closed = bip.closed
  evtWrite_eq : after.evtWrite = (bip.evtWrite || !bip.canWrite)
  evtRead_eq : after.evtRead = (bip.evtRead && after.canRead)

theorem readExit_eq_ok {bip : BipBuffer} {dst : List UInt8} (nonempty : dst ≠ []) :
    readExit bip dst =
      .ok (dst,
        { bip with canWrite := true, evtWrite := bip.evtWrite || !bip.canWrite }) := by
  have positive := List.length_pos_of_ne_nil nonempty
  cases bip with
  | mk aStart aEnd bEnd closed canWrite evtWrite canRead evtRead buff =>
      cases canWrite <;> simp [readExit, assertThat, positive]

/-- A read that asks for all of region B leaves the buffer reset. -/
theorem readRegionB_eq_reset (bip : BipBuffer) {len : Nat} {dst : List UInt8}
    (room : bip.bEnd < bipBufferSize) (nonempty : dst ≠ []) (all : bip.bEnd ≤ len) :
    bip.readRegionB len dst = .ok (dst ++ bip.buff.segment 0 bip.bEnd,
      { bip with
        aStart := 0
        aEnd := 0
        bEnd := 0
        canWrite := true
        evtWrite := bip.evtWrite || !bip.canWrite
        canRead := false
        evtRead := false }) := by
  have appended_ne (bytes : List UInt8) : dst ++ bytes ≠ [] := by simp [nonempty]
  by_cases remains : 0 < bip.bEnd
  · have avail_eq : min bip.bEnd len = bip.bEnd := Nat.min_eq_left all
    simp [readRegionB, remains, avail_eq, readExit_eq_ok (appended_ne _),
      bip.buff.load_eq_ok (show 0 + bip.bEnd ≤ bipBufferSize by omega)]
  · have bEnd_eq : bip.bEnd = 0 := by omega
    simp [readRegionB, bEnd_eq, readExit_eq_ok nonempty]

/-- The second half of a read moves region B into the place of region A and reads on. -/
theorem readRegionB_spec (bip : BipBuffer) (len : Nat) {dst : List UInt8}
    (room : bip.bEnd < bipBufferSize) (readable : bip.canRead = true) (nonempty : dst ≠ []) :
    ∃ after,
      bip.readRegionB len dst = .ok (dst ++ (bip.buff.segment 0 bip.bEnd).take len, after) ∧
        Valid after ∧ after.contents = (bip.buff.segment 0 bip.bEnd).drop len ∧
          after.closed = bip.closed ∧ after.evtWrite = (bip.evtWrite || !bip.canWrite) ∧
            after.evtRead = (bip.evtRead && after.canRead) := by
  have appended_ne (bytes : List UInt8) : dst ++ bytes ≠ [] := by simp [nonempty]
  have length_segment : (bip.buff.segment 0 bip.bEnd).length = bip.bEnd := by
    rw [bip.buff.length_segment (Nat.le_of_lt room), Nat.sub_zero]
  by_cases partially : len < bip.bEnd
  · have remains : 0 < bip.bEnd := by omega
    have avail_eq : min bip.bEnd len = len := by omega
    refine ⟨{ bip with
        aStart := len
        aEnd := bip.bEnd
        bEnd := 0
        canWrite := true
        evtWrite := bip.evtWrite || !bip.canWrite }, ?_, ?_, ?_, rfl, rfl, ?_⟩
    · rw [bip.buff.take_segment (by omega)]
      simp [readRegionB, remains, avail_eq, partially, readExit_eq_ok (appended_ne _),
        bip.buff.load_eq_ok (show 0 + len ≤ bipBufferSize by omega)]
    · refine ⟨⟨Nat.zero_le _, ?_, ?_, ?_⟩, ?_, ?_, ?_⟩
      · exact Nat.le_of_lt partially
      · exact Nat.le_of_lt room
      · simp
      · intro empty
        exact absurd empty (Nat.ne_of_lt partially)
      · simpa [readable] using partially
      · simp only [size, true_iff]
        omega
    · simp [contents, bip.buff.drop_segment]
    · simp [readable]
  · have all : bip.bEnd ≤ len := Nat.le_of_not_lt partially
    rw [List.take_of_length_le (by omega), List.drop_of_length_le (by omega)]
    refine ⟨_, bip.readRegionB_eq_reset room nonempty all, ?_, ?_, rfl, rfl, ?_⟩
    · exact valid_of_empty rfl rfl rfl rfl rfl
    · simp [contents]
    · simp

/-- A read that found `can_read` set returns the oldest bytes, as many as asked for and there. -/
theorem readCritical_spec {bip : BipBuffer} {len : Nat} (valid : Valid bip) (positive : 0 < len)
    (readable : bip.canRead = true) :
    ∃ after,
      bip.readCritical len = .ok (bip.contents.take len, after) ∧ Took bip after len := by
  have bEnd_le := valid.bEnd_le
  have aEnd_le := valid.aEnd_le
  have nonempty := valid.canRead_iff.mp readable
  have length_segment : (bip.buff.segment bip.aStart bip.aEnd).length = bip.aEnd - bip.aStart :=
    bip.buff.length_segment aEnd_le
  have asserted : 0 < bip.aEnd - bip.aStart := by omega
  by_cases partially : len < bip.aEnd - bip.aStart
  · have avail_eq : min (bip.aEnd - bip.aStart) len = len := by omega
    have stays : bip.aStart + len < bip.aEnd := by omega
    have bytes_eq : bip.contents.take len = bip.buff.segment bip.aStart (bip.aStart + len) := by
      rw [contents, List.take_append_of_le_length (by omega), bip.buff.take_segment (by omega)]
    have bytes_ne : bip.buff.segment bip.aStart (bip.aStart + len) ≠ [] := by
      apply List.ne_nil_of_length_pos
      rw [bip.buff.length_segment (by omega)]
      omega
    refine ⟨{ bip with
        aStart := bip.aStart + len
        canWrite := true
        evtWrite := bip.evtWrite || !bip.canWrite }, ?_, ?_, ?_, rfl, rfl, ?_⟩
    · rw [bytes_eq]
      simp [readCritical, assertThat, asserted, avail_eq, stays, readExit_eq_ok bytes_ne,
        bip.buff.load_eq_ok (show bip.aStart + len ≤ bipBufferSize by omega)]
    · refine ⟨⟨?_, ?_, aEnd_le, valid.wrapped⟩, ?_, ?_, ?_⟩
      · exact Nat.le_add_right_of_le bEnd_le
      · exact Nat.le_of_lt stays
      · intro empty
        exact absurd empty (Nat.ne_of_lt stays)
      · simpa [readable] using stays
      · simp only [size, true_iff]
        omega
    · simp only [contents]
      rw [List.drop_append_of_le_length (by omega), bip.buff.drop_segment]
    · simp [readable]
  · -- Region A is used up whole.
    have avail_eq : min (bip.aEnd - bip.aStart) len = bip.aEnd - bip.aStart := by omega
    have end_eq : bip.aStart + (bip.aEnd - bip.aStart) = bip.aEnd := by omega
    have bytes_ne : bip.buff.segment bip.aStart bip.aEnd ≠ [] := by
      apply List.ne_nil_of_length_pos
      omega
    obtain ⟨after, regionB_eq, valid_after, contents_eq, closed_eq, evtWrite_eq, evtRead_eq⟩ :=
      readRegionB_spec { bip with aStart := bip.aEnd } (len - (bip.aEnd - bip.aStart))
        (by simp only; omega) readable bytes_ne
    refine ⟨after, ?_, valid_after, ?_, closed_eq, evtWrite_eq, evtRead_eq⟩
    · rw [contents, List.take_append, List.take_of_length_le (by omega), length_segment]
      simpa [readCritical, assertThat, asserted, avail_eq, end_eq,
        bip.buff.load_eq_ok (show bip.aStart + (bip.aEnd - bip.aStart) ≤ bipBufferSize by omega)]
        using regionB_eq
    · have rest_eq : bip.contents.drop len =
          (bip.buff.segment 0 bip.bEnd).drop (len - (bip.aEnd - bip.aStart)) := by
        rw [contents, List.drop_append, List.drop_of_length_le (by omega), length_segment,
          List.nil_append]
      rw [contents_eq, rest_eq]

/-! ## Sequences of calls -/

theorem bipBufferWrite_spec {bip : BipBuffer} {src : List UInt8} (valid : Valid bip)
    (nonempty : src ≠ []) (writable : bip.canWrite = true) :
    ∃ after,
      bip.bipBufferWrite src =
          .ok (.returns (min src.length (bipBufferSize - bip.size)), after) ∧
        Wrote bip after (src.take (min src.length (bipBufferSize - bip.size))) := by
  obtain ⟨after, critical_eq, wrote⟩ := writeCritical_spec valid nonempty writable
  refine ⟨after, ?_, wrote⟩
  simp [bipBufferWrite, nonempty, writable, critical_eq, Except.map]

theorem bipBufferRead_spec {bip : BipBuffer} {len : Nat} (valid : Valid bip) (positive : 0 < len)
    (readable : bip.canRead = true) :
    ∃ after,
      bip.bipBufferRead len = .ok (.returns (bip.contents.take len), after) ∧
        Took bip after len := by
  obtain ⟨after, critical_eq, took⟩ := readCritical_spec valid positive readable
  refine ⟨after, ?_, took⟩
  simp [bipBufferRead, Nat.ne_of_gt positive, readable, critical_eq, Except.map]

/-- A call made when its flag is set: a write when `can_write` holds, a read when `can_read`
holds, each of at least one byte. -/
inductive CallStep : BipBuffer → BoundedFifo.Call UInt8 → BipBuffer → Prop where
  | write {bip after : BipBuffer} {src : List UInt8} {count : Nat} :
      src ≠ [] → bip.canWrite = true →
      bip.bipBufferWrite src = .ok (.returns count, after) →
      CallStep bip (.write src count) after
  | read {bip after : BipBuffer} {len : Nat} {bytes : List UInt8} :
      0 < len → bip.canRead = true →
      bip.bipBufferRead len = .ok (.returns bytes, after) →
      CallStep bip (.read len bytes) after

/-- The buffer and an abstract queue agree: the invariant holds and the bytes are the same. -/
def Represents (bip : BipBuffer) (queue : List UInt8) : Prop :=
  Valid bip ∧ bip.contents = queue

theorem CallStep.simulates {bip after : BipBuffer} {call : BoundedFifo.Call UInt8}
    {queue : List UInt8} (represents : Represents bip queue) (step : CallStep bip call after) :
    ∃ queue', BoundedFifo.Step bipBufferSize queue call queue' ∧ Represents after queue' := by
  obtain ⟨valid, rfl⟩ := represents
  cases step with
  | write nonempty writable call_eq =>
      obtain ⟨after', spec_eq, wrote⟩ := bipBufferWrite_spec valid nonempty writable
      rw [spec_eq] at call_eq
      cases call_eq
      refine ⟨_, ?_, wrote.valid, wrote.contents_eq⟩
      rw [← valid.length_contents]
      exact .write _ _
  | read positive readable call_eq =>
      obtain ⟨after', spec_eq, took⟩ := bipBufferRead_spec valid positive readable
      rw [spec_eq] at call_eq
      cases call_eq
      exact ⟨_, .read _ _, took.valid, took.contents_eq⟩

theorem exists_write {bip : BipBuffer} {src : List UInt8} (valid : Valid bip)
    (nonempty : src ≠ []) (room : bip.contents.length < 4096) :
    ∃ after, CallStep bip (.write src (min src.length (4096 - bip.contents.length))) after ∧
      Valid after ∧ after.contents =
        bip.contents ++ src.take (min src.length (4096 - bip.contents.length)) := by
  rw [valid.length_contents] at room ⊢
  have writable := valid.canWrite_iff.mpr room
  obtain ⟨after, call_eq, wrote⟩ := bipBufferWrite_spec valid nonempty writable
  exact ⟨after, .write nonempty writable call_eq, wrote.valid, wrote.contents_eq⟩

theorem exists_read {bip : BipBuffer} (len : Nat) (valid : Valid bip) (positive : 0 < len)
    (holds : 0 < bip.contents.length) :
    ∃ after, CallStep bip (.read len (bip.contents.take len)) after ∧ Valid after ∧
      after.contents = bip.contents.drop len := by
  rw [valid.length_contents] at holds
  have readable := valid.canRead_iff_size.mpr holds
  obtain ⟨after, call_eq, took⟩ := bipBufferRead_spec valid positive readable
  exact ⟨after, .read positive readable call_eq, took.valid, took.contents_eq⟩

/-- From `bip_buffer_init` on, every sequence of calls acts on the buffer as on a bounded byte
queue.  In every state so reached the indices lie in the block, the flags say whether there is
room and whether there is data, and neither call can fault. -/
theorem bipBuffer_refines_boundedFifo {buff : Block UInt8 bipBufferSize}
    {calls : List (BoundedFifo.Call UInt8)} {bip : BipBuffer}
    (trace : Trace CallStep (bipBufferInit buff) calls bip) :
    Trace (BoundedFifo.Step bipBufferSize) [] calls bip.contents ∧
      calls.flatMap BoundedFifo.Call.accepted =
          calls.flatMap BoundedFifo.Call.returned ++ bip.contents ∧
        bip.contents.length = bip.aEnd - bip.aStart + bip.bEnd ∧
          (bip.canWrite = true ↔ bip.aEnd - bip.aStart + bip.bEnd < 4096) ∧
            (bip.canRead = true ↔ 0 < bip.aEnd - bip.aStart + bip.bEnd) ∧
              (bip.bEnd ≤ bip.aStart ∧ bip.aStart ≤ bip.aEnd ∧ bip.aEnd ≤ 4096) ∧
                (∀ src, src ≠ [] → bip.canWrite = true →
                  ∃ count after, bip.bipBufferWrite src = .ok (.returns count, after)) ∧
                  (∀ len, 0 < len → bip.canRead = true →
                    ∃ bytes after, bip.bipBufferRead len = .ok (.returns bytes, after)) := by
  obtain ⟨queue, fifoTrace, valid, rfl⟩ :=
    trace.simulate (BoundedFifo.Step bipBufferSize) Represents
      ⟨valid_init buff, contents_init buff⟩
      (fun _ _ _ _ represents step => step.simulates represents)
  refine ⟨fifoTrace, BoundedFifo.conservation fifoTrace, valid.length_contents,
    valid.canWrite_iff, valid.canRead_iff_size,
    ⟨valid.bEnd_le, valid.aStart_le, valid.aEnd_le⟩, ?_, ?_⟩
  · intro src nonempty writable
    obtain ⟨after, call_eq, _⟩ := bipBufferWrite_spec valid nonempty writable
    exact ⟨_, after, call_eq⟩
  · intro len positive readable
    obtain ⟨after, call_eq, _⟩ := bipBufferRead_spec valid positive readable
    exact ⟨_, after, call_eq⟩

/-- A block of zero bytes. -/
def zeroBlock : Block UInt8 bipBufferSize := ⟨List.replicate bipBufferSize 0, by simp⟩

/-- 4096 bytes fill the block and two of them are read; of three more only two are taken, and they
go to region B; a read takes region A and the first of the two. -/
theorem bipBuffer_refines_boundedFifo_wraps :
    ∃ bip, Trace CallStep (bipBufferInit zeroBlock)
        [.write (7 :: 7 :: .replicate 4094 0) 4096, .read 2 [7, 7], .write [1, 2, 3] 2,
          .read 4095 (.replicate 4094 0 ++ [1])] bip ∧
      bip.contents = [2] := by
  have length_rest : (List.replicate 4094 (0 : UInt8)).length = 4094 := List.length_replicate
  generalize List.replicate 4094 (0 : UInt8) = rest at *
  have length_fill : (7 :: 7 :: rest).length = 4096 := congrArg (· + 2) length_rest
  obtain ⟨full, fills, full_valid, full_eq⟩ := exists_write (valid_init zeroBlock)
    (List.cons_ne_nil 7 (7 :: rest)) (by rw [contents_init]; decide)
  rw [contents_init, List.length_nil, length_fill, Nat.sub_zero, Nat.min_self] at fills full_eq
  rw [List.take_of_length_le (Nat.le_of_eq length_fill), List.nil_append] at full_eq
  obtain ⟨later, reads, later_valid, later_eq⟩ := exists_read 2 full_valid Nat.zero_lt_two
    (by rw [full_eq, length_fill]; decide)
  rw [full_eq] at reads later_eq
  rw [List.drop_succ_cons, List.drop_succ_cons, List.drop_zero] at later_eq
  obtain ⟨again, wraps, again_valid, again_eq⟩ := exists_write later_valid
    (List.cons_ne_nil 1 [2, 3]) (by rw [later_eq, length_rest]; decide)
  rw [later_eq, length_rest] at wraps again_eq
  obtain ⟨last, empties, -⟩ := exists_read 4095 again_valid (by decide)
    (by rw [again_eq, List.length_append, length_rest]; decide)
  have taken : again.contents.take 4095 = rest ++ [1] := by
    rw [again_eq]
    exact (congrArg (List.take 4095) (List.append_cons rest 1 [2])).trans
      (List.take_left' (by rw [List.length_append, length_rest]; rfl))
  rw [taken] at empties
  have trace := (((Trace.nil.snoc fills).snoc reads).snoc wraps).snoc empties
  refine ⟨last, trace, ?_⟩
  have conserved := (bipBuffer_refines_boundedFifo trace).2.1
  have whole : (7 :: 7 :: rest).take 4096 = 7 :: 7 :: rest :=
    List.take_of_length_le (Nat.le_of_eq length_fill)
  simpa [BoundedFifo.Call.accepted, BoundedFifo.Call.returned, whole] using conserved.symm

end BipBuffer
end AdbWide
