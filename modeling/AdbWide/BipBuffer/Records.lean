import AdbWide.Interleaving
import AdbWide.BipBuffer.Threads

/-!
# Records over a socketpair

The transport threads and the main loop pass packet addresses (`write_packet`, `read_packet`), and
everybody passes registration messages (`transport_write_action`, `transport_read_action`), through
a socketpair.  All four are the same loop over `adb_write` or `adb_read` until the whole record has
gone through, with no lock around it.

This file runs any number of such writers and one reader over one open buffer, at the grain of the
buffer's critical sections.  When the size of a record divides the size of the buffer, the room in
the buffer is always a multiple of it, so that no write and no read is ever partial and the loops
never go round.
-/

namespace AdbWide
namespace BipBuffer

/-- What is passed in one piece: the bytes of an `apacket*` or of a `tmsg`. -/
abbrev Record (size : Nat) := { bytes : List UInt8 // bytes.length = size }

/-- A thread that writes records with `write_packet` or `transport_write_action`. -/
structure RecordWriter (size : Nat) where
  /-- The records whose writes have returned. -/
  done : List (Record size)
  /-- The other records.  The first of them is being written when `rest` is not empty. -/
  todo : List (Record size)
  /-- The `len` bytes at `p` that the loop has still to write. -/
  rest : List UInt8
  /-- The call of `bip_buffer_write` the thread is in. -/
  stage : Stage (List UInt8)

/-- The thread that reads records with `read_packet` or `transport_read_action`. -/
structure RecordReader where
  /-- The records read so far. -/
  records : List (List UInt8)
  /-- The bytes before `p` of the record being read. -/
  got : List UInt8
  /-- The call of `bip_buffer_read` the thread is in. -/
  stage : Stage Nat

/-- `adb_write` has returned `count`: `len -= r`, `p += r`, and the loop ends at `len = 0`. -/
def RecordWriter.advance {size : Nat} (writer : RecordWriter size) (count : Nat) :
    RecordWriter size :=
  let rest := writer.rest.drop count
  match rest, writer.todo with
  | [], record :: todo => { done := writer.done ++ [record], todo, rest, stage := .idle }
  | _, _ => { writer with rest, stage := .idle }

/-- `adb_read` has returned `bytes`: `len -= r`, `p += r`, and the loop ends at `len = 0`. -/
def RecordReader.advance (reader : RecordReader) (size : Nat) (bytes : List UInt8) :
    RecordReader :=
  let got := reader.got ++ bytes
  if size - got.length = 0 then
    { records := reader.records ++ [got], got := [], stage := .idle }
  else
    { reader with got, stage := .idle }

/-- Writers `ι` and one reader over one buffer. -/
structure Channel (ι : Type) (size : Nat) where
  /-- The shared buffer. -/
  bip : BipBuffer
  /-- The writing threads. -/
  writers : ι → RecordWriter size
  /-- The reading thread. -/
  reader : RecordReader

variable {ι : Type} {size : Nat}

/-- A fresh buffer; each writer has its records to write. -/
def Channel.start (buff : Block UInt8 bipBufferSize) (sequences : ι → List (Record size)) :
    Channel ι size where
  bip := bipBufferInit buff
  writers := fun thread => { done := [], todo := sequences thread, rest := [], stage := .idle }
  reader := { records := [], got := [], stage := .idle }

/-- One step of a writer or of the reader.  The buffer stays open, so no call fails. -/
inductive ChannelStep [DecidableEq ι] : Channel ι size → Option ι → Channel ι size → Prop where
  | beginRecord {channel : Channel ι size} (thread : ι) {record : Record size}
      {todo : List (Record size)} :
      (channel.writers thread).rest = [] → (channel.writers thread).stage = .idle →
      (channel.writers thread).todo = record :: todo →
      ChannelStep channel (some thread)
        { channel with
          writers := Function.update channel.writers thread
            { channel.writers thread with rest := record.val } }
  | writeCall {channel : Channel ι size} (thread : ι) :
      (channel.writers thread).rest ≠ [] → (channel.writers thread).stage = .idle →
      ChannelStep channel (some thread)
        { channel with
          writers := Function.update channel.writers thread
            { channel.writers thread with stage := .entering (channel.writers thread).rest } }
  | writeServe {channel : Channel ι size} (thread : ι) {src : List UInt8} {count : Nat}
      {after : BipBuffer} :
      (channel.writers thread).stage = .entering src → channel.bip.canWrite = true →
      channel.bip.writeCritical src = .ok (count, after) →
      ChannelStep channel (some thread)
        { channel with
          bip := after
          writers := Function.update channel.writers thread
            ((channel.writers thread).advance count) }
  | writeLoop {channel : Channel ι size} (thread : ι) {stage : Stage (List UInt8)} :
      (channel.writers thread).stage.Loop channel.bip.canWrite channel.bip.closed
        channel.bip.evtWrite stage →
      ChannelStep channel (some thread)
        { channel with
          writers := Function.update channel.writers thread
            { channel.writers thread with stage } }
  | readCall {channel : Channel ι size} :
      channel.reader.stage = .idle →
      ChannelStep channel none
        { channel with
          reader := { channel.reader with
            stage := .entering (size - channel.reader.got.length) } }
  | readServe {channel : Channel ι size} {len : Nat} {bytes : List UInt8} {after : BipBuffer} :
      channel.reader.stage = .entering len → channel.bip.canRead = true →
      channel.bip.readCritical len = .ok (bytes, after) →
      ChannelStep channel none
        { channel with bip := after, reader := channel.reader.advance size bytes }
  | readLoop {channel : Channel ι size} {stage : Stage Nat} :
      channel.reader.stage.Loop channel.bip.canRead channel.bip.closed channel.bip.evtRead
        stage →
      ChannelStep channel none
        { channel with reader := { channel.reader with stage } }

/-! ## The invariant -/

/-- A writer has not begun its next record, or has not got any byte of it through. -/
structure RecordWriter.Whole (writer : RecordWriter size) (sequence : List (Record size)) :
    Prop where
  sequence_eq : sequence = writer.done ++ writer.todo
  next : writer.rest = [] ∧ writer.stage = .idle ∨
    ∃ record todo, writer.todo = record :: todo ∧ writer.rest = record.val ∧
      writer.stage.Argument (· = record.val)

/-- The reader has not got any byte of its next record. -/
structure RecordReader.Whole (reader : RecordReader) (size : Nat) : Prop where
  got_eq : reader.got = []
  whole_call : reader.stage.Argument (· = size)

/-- The bytes of whole records. -/
def recordBytes (records : List (Record size)) : List UInt8 :=
  records.flatMap Subtype.val

/-- The records written, merged in the order of their writes, have been read or are in the
buffer, in this order. -/
structure Carries [DecidableEq ι] (channel : Channel ι size) (written : List (ι × Record size))
    (buffered : List (Record size)) : Prop where
  interleaves : Interleaves written fun thread => (channel.writers thread).done
  written_eq : written.map (·.2.val) = channel.reader.records ++ buffered.map Subtype.val
  contents_eq : channel.bip.contents = recordBytes buffered

/-- Only whole records are on their way. -/
structure WholeRecords [DecidableEq ι] (sequences : ι → List (Record size))
    (channel : Channel ι size) : Prop where
  valid : Valid channel.bip
  writers : ∀ thread, (channel.writers thread).Whole (sequences thread)
  reader : channel.reader.Whole size
  carries : ∃ written buffered, Carries channel written buffered

theorem length_recordBytes (records : List (Record size)) :
    (recordBytes records).length = records.length * size := by
  induction records with
  | nil => simp [recordBytes]
  | cons record records induction =>
      have split : recordBytes (record :: records) = record.val ++ recordBytes records := rfl
      rw [split, List.length_append, record.property, induction, List.length_cons, Nat.succ_mul,
        Nat.add_comm]

section Steps

variable [DecidableEq ι]

theorem wholeRecords_start (buff : Block UInt8 bipBufferSize)
    (sequences : ι → List (Record size)) :
    WholeRecords sequences (Channel.start buff sequences) where
  valid := valid_init buff
  writers := fun _ => ⟨by simp [Channel.start], .inl ⟨rfl, rfl⟩⟩
  reader := ⟨rfl, trivial⟩
  carries := ⟨[], [], fun _ => rfl, rfl, contents_init buff⟩

/-- Replacing one writer keeps all others whole. -/
theorem WholeRecords.update_whole {sequences : ι → List (Record size)} {channel : Channel ι size}
    {thread : ι} {writer : RecordWriter size} (whole : WholeRecords sequences channel)
    (next : writer.Whole (sequences thread)) (other : ι) :
    (Function.update channel.writers thread writer other).Whole (sequences other) := by
  rcases eq_or_ne other thread with rfl | different
  · simpa using next
  · simpa [different] using whole.writers other

/-- A step of a writer that finishes no record and leaves the buffer alone. -/
theorem WholeRecords.setWriter {sequences : ι → List (Record size)} {channel : Channel ι size}
    {thread : ι} {writer : RecordWriter size} (whole : WholeRecords sequences channel)
    (next : writer.Whole (sequences thread))
    (done_eq : writer.done = (channel.writers thread).done) :
    WholeRecords sequences
      { channel with writers := Function.update channel.writers thread writer } := by
  obtain ⟨written, buffered, carries⟩ := whole.carries
  refine ⟨whole.valid, whole.update_whole next, whole.reader, written, buffered, ?_,
    carries.written_eq, carries.contents_eq⟩
  intro other
  rw [carries.interleaves other]
  rcases eq_or_ne other thread with rfl | different
  · simp [done_eq]
  · simp [different]

/-- A step of the reader that reads nothing. -/
theorem WholeRecords.setReader {sequences : ι → List (Record size)} {channel : Channel ι size}
    {stage : Stage Nat} (whole : WholeRecords sequences channel)
    (next : stage.Argument (· = size)) :
    WholeRecords sequences
      { channel with reader := { channel.reader with stage } } := by
  obtain ⟨written, buffered, carries⟩ := whole.carries
  exact ⟨whole.valid, whole.writers, ⟨whole.reader.got_eq, next⟩, written, buffered,
    carries.interleaves, carries.written_eq, carries.contents_eq⟩

/-- Since the records fill the buffer exactly, there is room for a whole record whenever there is
room at all. -/
theorem WholeRecords.room {sequences : ι → List (Record size)} {channel : Channel ι size}
    (whole : WholeRecords sequences channel) (divides : size ∣ bipBufferSize)
    (writable : channel.bip.canWrite = true) : size ≤ bipBufferSize - channel.bip.size := by
  obtain ⟨written, buffered, carries⟩ := whole.carries
  have filled : channel.bip.size = buffered.length * size := by
    rw [← whole.valid.length_contents, carries.contents_eq, length_recordBytes]
  obtain ⟨capacity, capacity_eq⟩ := divides
  have room := whole.valid.canWrite_iff.mp writable
  rw [filled, capacity_eq, Nat.mul_comm size capacity] at room
  have fewer : buffered.length < capacity := Nat.lt_of_mul_lt_mul_right room
  calc
    size = 1 * size := (Nat.one_mul size).symm
    _ ≤ (capacity - buffered.length) * size := Nat.mul_le_mul_right size (by omega)
    _ = bipBufferSize - channel.bip.size := by
      rw [Nat.sub_mul, filled, capacity_eq, Nat.mul_comm size capacity]

/-- A write takes the whole record. -/
theorem WholeRecords.writeServe {sequences : ι → List (Record size)} {channel : Channel ι size}
    {thread : ι} {src : List UInt8} {count : Nat} {after : BipBuffer}
    (divides : size ∣ bipBufferSize) (whole : WholeRecords sequences channel)
    (entering : (channel.writers thread).stage = .entering src)
    (writable : channel.bip.canWrite = true)
    (critical : channel.bip.writeCritical src = .ok (count, after)) :
    WholeRecords sequences
      { channel with
        bip := after
        writers := Function.update channel.writers thread
          ((channel.writers thread).advance count) } := by
  obtain ⟨sequence_eq, idle | ⟨record, todo, todo_eq, rest_eq, src_eq⟩⟩ := whole.writers thread
  · rw [entering] at idle
    cases idle.2
  · rw [entering] at src_eq
    change src = record.val at src_eq
    subst src_eq
    have positive : 0 < size := Nat.pos_of_dvd_of_pos divides (by decide)
    have nonempty : record.val ≠ [] :=
      List.ne_nil_of_length_pos (by rw [record.property]; exact positive)
    obtain ⟨after', spec_eq, wrote⟩ := writeCritical_spec whole.valid nonempty writable
    have room := whole.room divides writable
    have all : min record.val.length (bipBufferSize - channel.bip.size) = size := by
      rw [record.property]
      exact Nat.min_eq_left room
    rw [all] at spec_eq wrote
    rw [spec_eq] at critical
    cases critical
    have all_bytes : record.val.take size = record.val :=
      List.take_of_length_le record.property.le
    have no_rest : record.val.drop size = [] := List.drop_of_length_le record.property.le
    have advance_eq : (channel.writers thread).advance size =
        { done := (channel.writers thread).done ++ [record], todo, rest := [],
          stage := .idle } := by
      simp [RecordWriter.advance, rest_eq, todo_eq, no_rest]
    rw [all_bytes] at wrote
    rw [advance_eq]
    obtain ⟨written, buffered, carries⟩ := whole.carries
    refine ⟨wrote.valid, whole.update_whole ⟨?_, .inl ⟨rfl, rfl⟩⟩, whole.reader,
      written ++ [(thread, record)], buffered ++ [record], ?_, ?_, ?_⟩
    · simp [sequence_eq, todo_eq]
    · intro other
      rw [entriesOf_append, carries.interleaves other]
      rcases eq_or_ne other thread with rfl | different
      · simp
      · simp [different, entriesOf_singleton_of_ne different.symm]
    · rw [List.map_append, carries.written_eq, List.map_append, List.append_assoc]
      rfl
    · simp [wrote.contents_eq, carries.contents_eq, recordBytes]

/-- A read returns the whole oldest record. -/
theorem WholeRecords.readServe {sequences : ι → List (Record size)} {channel : Channel ι size}
    {len : Nat} {bytes : List UInt8} {after : BipBuffer}
    (divides : size ∣ bipBufferSize) (whole : WholeRecords sequences channel)
    (entering : channel.reader.stage = .entering len)
    (readable : channel.bip.canRead = true)
    (critical : channel.bip.readCritical len = .ok (bytes, after)) :
    WholeRecords sequences
      { channel with bip := after, reader := channel.reader.advance size bytes } := by
  have len_eq := whole.reader.whole_call
  rw [entering] at len_eq
  change len = size at len_eq
  subst len_eq
  have positive : 0 < len := Nat.pos_of_dvd_of_pos divides (by decide)
  obtain ⟨after', spec_eq, took⟩ := readCritical_spec whole.valid positive readable
  rw [spec_eq] at critical
  cases critical
  obtain ⟨written, buffered, carries⟩ := whole.carries
  cases buffered with
  | nil =>
      have nonempty := whole.valid.canRead_iff_size.mp readable
      rw [← whole.valid.length_contents, carries.contents_eq] at nonempty
      simp [recordBytes] at nonempty
  | cons record buffered =>
      have contents_eq : channel.bip.contents = record.val ++ recordBytes buffered :=
        carries.contents_eq
      have take_eq : channel.bip.contents.take len = record.val := by
        rw [contents_eq, List.take_left' record.property]
      have drop_eq : channel.bip.contents.drop len = recordBytes buffered := by
        rw [contents_eq, List.drop_left' record.property]
      have advance_eq : channel.reader.advance len (channel.bip.contents.take len) =
          { records := channel.reader.records ++ [record.val], got := [],
            stage := .idle } := by
        simp [RecordReader.advance, whole.reader.got_eq, take_eq, record.property]
      rw [advance_eq]
      refine ⟨took.valid, whole.writers, ⟨rfl, trivial⟩, written, buffered,
        carries.interleaves, ?_, ?_⟩
      · simpa using carries.written_eq
      · rw [took.contents_eq, drop_eq]

theorem ChannelStep.wholeRecords {sequences : ι → List (Record size)}
    {before after : Channel ι size} {agent : Option ι} (divides : size ∣ bipBufferSize)
    (whole : WholeRecords sequences before) (step : ChannelStep before agent after) :
    WholeRecords sequences after := by
  cases step with
  | beginRecord thread rest_eq idle todo_eq =>
      have now := whole.writers thread
      exact whole.setWriter
        ⟨now.sequence_eq, .inr ⟨_, _, todo_eq, rfl, by simp [idle, Stage.Argument]⟩⟩ rfl
  | writeCall thread rest_ne idle =>
      obtain ⟨sequence_eq, nothing | ⟨record, todo, todo_eq, rest_eq, _⟩⟩ := whole.writers thread
      · exact absurd nothing.1 rest_ne
      · exact whole.setWriter ⟨sequence_eq, .inr ⟨record, todo, todo_eq, rest_eq, rest_eq⟩⟩ rfl
  | writeServe thread entering writable critical =>
      exact whole.writeServe divides entering writable critical
  | writeLoop thread loop =>
      obtain ⟨sequence_eq, nothing | ⟨record, todo, todo_eq, rest_eq, argument⟩⟩ :=
        whole.writers thread
      · rw [nothing.2] at loop
        cases loop
      · exact whole.setWriter
          ⟨sequence_eq, .inr ⟨record, todo, todo_eq, rest_eq, loop.argument argument⟩⟩ rfl
  | readCall idle =>
      apply whole.setReader
      simp [Stage.Argument, whole.reader.got_eq]
  | readServe entering readable critical =>
      exact whole.readServe divides entering readable critical
  | readLoop loop => exact whole.setReader (loop.argument whole.reader.whole_call)

/-- However the threads' steps fall, the records read are the first of some interleaving of the
writers' sequences, and every record whose write has returned and which has not been read is
whole in the buffer. -/
theorem records_read_prefix_of_interleaving [Fintype ι] {buff : Block UInt8 bipBufferSize}
    {sequences : ι → List (Record size)} {agents : List (Option ι)} {channel : Channel ι size}
    (divides : size ∣ bipBufferSize)
    (run : Trace ChannelStep (Channel.start buff sequences) agents channel) :
    ∃ merged written : List (ι × Record size), ∃ buffered : List (Record size),
      Interleaves merged sequences ∧
        channel.reader.records <+: merged.map (·.2.val) ∧
          written <+: merged ∧ Carries channel written buffered := by
  have whole : WholeRecords sequences channel :=
    run.invariant (WholeRecords sequences) (wholeRecords_start buff sequences)
      fun _ _ _ whole step => step.wholeRecords divides whole
  obtain ⟨written, buffered, carries⟩ := whole.carries
  obtain ⟨merged, extends_written, interleaves⟩ :=
    carries.interleaves.extend fun thread => (channel.writers thread).todo
  refine ⟨merged, written, buffered, ?_, ?_, extends_written, carries⟩
  · intro thread
    rw [interleaves thread, (whole.writers thread).sequence_eq]
  · calc
      channel.reader.records <+: written.map (·.2.val) := by
        rw [carries.written_eq]
        exact List.prefix_append _ _
      _ <+: merged.map (·.2.val) := extends_written.map _

/-- The packet addresses of two threads. -/
def twoWriters : Bool → List (Record 4)
  | false => [⟨[1, 2, 3, 4], rfl⟩, ⟨[5, 6, 7, 8], rfl⟩]
  | true => [⟨[9, 9, 9, 9], rfl⟩]

/-- The one of the second thread comes between the two of the first, which has begun its second
write by then. -/
theorem records_read_prefix_of_interleaving_two :
    ∃ agents channel,
      4 ∣ bipBufferSize ∧ Trace ChannelStep (Channel.start zeroBlock twoWriters) agents channel ∧
        channel.reader.records = [[1, 2, 3, 4], [9, 9, 9, 9]] ∧
        channel.bip.contents = [5, 6, 7, 8] ∧
        ∃ merged written : List (Bool × Record 4), ∃ buffered : List (Record 4),
          Interleaves merged twoWriters ∧
            channel.reader.records <+: merged.map (·.2.val) ∧
              written <+: merged ∧ Carries channel written buffered := by
  have divides : 4 ∣ bipBufferSize := by decide
  obtain ⟨wrote₁, write_eq₁, wrote₂, write_eq₂, wrote₃, write_eq₃, drained₁, read_eq₁, drained₂,
      read_eq₂, writable₁, writable₂, readable₃, readable₄, left_eq⟩ :
      ∃ wrote₁, (bipBufferInit zeroBlock).writeCritical [1, 2, 3, 4] = .ok (4, wrote₁) ∧
        ∃ wrote₂, wrote₁.writeCritical [9, 9, 9, 9] = .ok (4, wrote₂) ∧
          ∃ wrote₃, wrote₂.writeCritical [5, 6, 7, 8] = .ok (4, wrote₃) ∧
            ∃ drained₁, wrote₃.readCritical 4 = .ok ([1, 2, 3, 4], drained₁) ∧
              ∃ drained₂, drained₁.readCritical 4 = .ok ([9, 9, 9, 9], drained₂) ∧
                wrote₁.canWrite = true ∧ wrote₂.canWrite = true ∧ wrote₃.canRead = true ∧
                  drained₁.canRead = true ∧ drained₂.contents = [5, 6, 7, 8] :=
    ⟨_, rfl, _, rfl, _, rfl, _, rfl, _, rfl, rfl, rfl, rfl, rfl, rfl⟩
  have run₀ : Trace ChannelStep (Channel.start zeroBlock twoWriters) [] _ := .nil
  have run₁ := run₀.snoc (.beginRecord false rfl rfl rfl)
  have run₂ := run₁.snoc (.writeCall false (by simp) rfl)
  have run₃ := run₂.snoc (.beginRecord true rfl rfl rfl)
  have run₄ := run₃.snoc (.writeServe false rfl rfl write_eq₁)
  have run₅ := run₄.snoc (.beginRecord false rfl rfl rfl)
  have run₆ := run₅.snoc (.writeCall true (by simp [Function.update]) rfl)
  have run₇ := run₆.snoc (.writeCall false (by simp [Function.update]) rfl)
  have run₈ := run₇.snoc (.writeServe true rfl writable₁ write_eq₂)
  have run₉ := run₈.snoc (.writeServe false rfl writable₂ write_eq₃)
  have run₁₀ := run₉.snoc (.readCall rfl)
  have run₁₁ := run₁₀.snoc (.readServe rfl readable₃ read_eq₁)
  have run₁₂ := run₁₁.snoc (.readCall rfl)
  have run₁₃ := run₁₂.snoc (.readServe rfl readable₄ read_eq₂)
  exact ⟨_, _, divides, run₁₃, rfl, left_eq, records_read_prefix_of_interleaving divides run₁₃⟩

end Steps

end BipBuffer
end AdbWide
