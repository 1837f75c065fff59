import AdbWide.CText

/-!
# Relaying a stream

`read_and_dump` shows what the device sends, `stdin_read_thread` sends to the device what is typed,
and `copy_to_file` moves a backup from one descriptor to another.  All three read into a buffer that
is used again for the next read.  The first two pass on the C string at the start of the buffer, the
last one as many bytes as were read.  The first one writes to `stdout`, a stream in text mode.
-/

namespace AdbWide
namespace Clients

/-! ## Reading -/

/-- What a call of `adb_read` or `unix_read` comes back with. -/
inductive Read where
  | data (chunk : List UInt8)
  /-- It failed with `EINTR`. -/
  | interrupted
  /-- It returned zero. -/
  | closed
  | failed
  deriving DecidableEq, Repr

/-- What is read until the stream ends, read by read. -/
def chunks : List Read → List (List UInt8)
  | .data chunk :: reads => chunk :: chunks reads
  | .interrupted :: reads => chunks reads
  | .closed :: _ | .failed :: _ | [] => []

/-- What `strlen` and the conversion find in a buffer; `beyond` is the memory behind it. -/
def bufferText {size : Nat} (buf : Block UInt8 size) (beyond : List UInt8) : List UInt8 :=
  (buf.cells ++ beyond).takeWhile (· ≠ 0)

/-! ## The code -/

/-- What goes out of a stream in text mode: every line feed with a carriage return before it. -/
def textMode (text : List UInt8) : List UInt8 :=
  text.flatMap fun c => if c = 10 then [13, 10] else [c]

/-- The loop of `read_and_dump`: what goes out of `stdout`, whose mode is never set.  `memory` is
what is behind the buffer at each read, and `utf8ToGbk` is the conversion. -/
def readAndDumpLoop (utf8ToGbk : List UInt8 → List UInt8) :
    List Read → (Nat → List UInt8) → Block UInt8 4096 → Except Fault (List UInt8)
  | .data chunk :: reads, memory, buf => do
      let buf ← buf.put 0 chunk
      let rest ← readAndDumpLoop utf8ToGbk reads (fun index => memory (index + 1)) buf
      .ok (textMode (utf8ToGbk (bufferText buf (memory 0))) ++ rest)
  | .interrupted :: reads, memory, buf => readAndDumpLoop utf8ToGbk reads memory buf
  | .closed :: _, _, _ | .failed :: _, _, _ | [], _, _ => .ok []

/-- `read_and_dump`. -/
def readAndDump (utf8ToGbk : List UInt8 → List UInt8) (reads : List Read)
    (memory : Nat → List UInt8) : Except Fault (List UInt8) :=
  readAndDumpLoop utf8ToGbk reads memory (Block.zeros 4096)

/-- One turn of the `switch` of `stdin_read_thread`; nothing for the end of the program. -/
def escapeStep (state : Nat) (c : UInt8) : Option Nat :=
  match c with
  | 10 | 13 => some 1
  | 126 => some (if state = 1 then state + 1 else state)
  | 46 => if state = 2 then none else some 0
  | _ => some 0

/-- The loop around the `switch`. -/
def escapeScan (state : Nat) (chunk : List UInt8) : Option Nat :=
  chunk.foldlM escapeStep state

/-- The loop of `stdin_read_thread`: what it writes to the device, where every write is complete. -/
def stdinReadLoop (gbkToUtf8 : List UInt8 → List UInt8) :
    List Read → (Nat → List UInt8) → Nat → Block UInt8 1024 → Except Fault (List UInt8)
  | .data chunk :: reads, memory, state, buf => do
      let buf ← buf.put 0 chunk
      match escapeScan state chunk with
      | none => .ok []
      | some state =>
          let str := gbkToUtf8 (bufferText buf (memory 0))
          -- the write returns the length
          if str.length ≤ 0 then .ok str
          else
            let rest ← stdinReadLoop gbkToUtf8 reads (fun index => memory (index + 1)) state buf
            .ok (str ++ rest)
  | .interrupted :: reads, memory, state, buf => stdinReadLoop gbkToUtf8 reads memory state buf
  | .closed :: _, _, _, _ | .failed :: _, _, _, _ | [], _, _, _ => .ok []

/-- `stdin_read_thread`. -/
def stdinReadThread (gbkToUtf8 : List UInt8 → List UInt8) (reads : List Read)
    (memory : Nat → List UInt8) : Except Fault (List UInt8) :=
  stdinReadLoop gbkToUtf8 reads memory 0 (Block.zeros 1024)

/-- The loop of `copy_to_file`: what is written to `outFd`, when the calls of `adb_write` return the
given numbers.  The caller gets nothing back. -/
def copyToFileLoop : List Read → (Nat → Int) → Block UInt8 32768 → Except Fault (List UInt8)
  | .data chunk :: reads, writes, buf => do
      let buf ← buf.put 0 chunk
      let given ← buf.load 0 chunk.length
      let rest ← copyToFileLoop reads (fun index => writes (index + 1)) buf
      .ok (given.take (writes 0).toNat ++ rest)
  | .interrupted :: reads, writes, buf => copyToFileLoop reads writes buf
  | .closed :: _, _, _ | .failed :: _, _, _ | [], _, _ => .ok []

/-- `copy_to_file`, with what `malloc` returns. -/
def copyToFile (reads : List Read) (writes : Nat → Int) (buf : Block UInt8 32768) :
    Except Fault (List UInt8) :=
  copyToFileLoop reads writes buf

/-! ## A buffer that is used again -/

/-- The buffer holds these bytes, and zeros behind them. -/
structure Holds {size : Nat} (buf : Block UInt8 size) (written : List UInt8) : Prop where
  cells : buf.cells = written ++ List.replicate (size - written.length) 0
  plain : 0 ∉ written
  inside : written.length ≤ size

/-- What is in the buffer after another read. -/
def overwritten (written chunk : List UInt8) : List UInt8 :=
  chunk ++ written.drop chunk.length

/-- What is passed on after each read. -/
def passedOn (size : Nat) : List (List UInt8) → List UInt8 → (Nat → List UInt8) → List (List UInt8)
  | [], _, _ => []
  | chunk :: rest, written, memory =>
      let written := overwritten written chunk
      (if written.length < size then written
        else written ++ (memory 0).takeWhile (· ≠ 0)) ::
          passedOn size rest written fun index => memory (index + 1)

section Buffer

variable {size : Nat}

theorem Holds.bufferText {buf : Block UInt8 size} {written : List UInt8} (holds : Holds buf written)
    (beyond : List UInt8) :
    bufferText buf beyond =
      if written.length < size then written else written ++ beyond.takeWhile (· ≠ 0) := by
  have plain : ∀ byte ∈ written, decide (byte ≠ 0) = true := by
    intro byte member
    rw [decide_eq_true_eq]
    rintro rfl
    exact holds.plain member
  rw [Clients.bufferText, holds.cells, List.append_assoc, List.takeWhile_append_of_pos plain]
  split
  · next short =>
      obtain ⟨more, split⟩ := Nat.exists_eq_add_of_lt short
      have zeros : size - written.length = more + 1 := by omega
      rw [zeros, List.replicate_succ, List.cons_append, List.takeWhile_cons_of_neg (by decide),
        List.append_nil]
  · next full =>
      have zeros : size - written.length = 0 := by omega
      rw [zeros, List.replicate_zero, List.nil_append]

theorem Holds.put {buf : Block UInt8 size} {written : List UInt8} (holds : Holds buf written)
    {chunk : List UInt8} (plain : 0 ∉ chunk) (fits : chunk.length ≤ size) :
    ∃ buf', buf.put 0 chunk = .ok buf' ∧ Holds buf' (overwritten written chunk) := by
  obtain ⟨buf', puts, cells⟩ := buf.put_zero fits
  have inside := holds.inside
  refine ⟨buf', puts, ?_, ?_, ?_⟩
  · have left : size - (overwritten written chunk).length =
        size - written.length - (chunk.length - written.length) := by
      rw [overwritten, List.length_append, List.length_drop]
      omega
    rw [cells, holds.cells, List.drop_append, List.drop_replicate, left, overwritten,
      List.append_assoc]
  · rw [overwritten, List.mem_append]
    rintro (new | old)
    · exact plain new
    · exact holds.plain (List.mem_of_mem_drop old)
  · rw [overwritten, List.length_append, List.length_drop]
    omega

theorem holds_start :
    Holds (Block.zeros size) [] where
  cells := rfl
  plain := List.not_mem_nil
  inside := Nat.zero_le size

/-! ## The reads and what is passed on -/

/-- No read is shorter than one before it, and none fills the buffer. -/
def Steady (size : Nat) (chunks : List (List UInt8)) : Prop :=
  (chunks.map List.length).Pairwise (· ≤ ·) ∧ ∀ chunk ∈ chunks, chunk.length < size

/-- Every read brings some ASCII characters, and not more than the buffer holds. -/
def IsStream (size : Nat) (chunks : List (List UInt8)) : Prop :=
  ∀ chunk ∈ chunks, (1 ≤ chunk.length ∧ chunk.length ≤ size) ∧
    ∀ byte ∈ chunk, 0 < byte ∧ byte < 128

theorem length_overwritten (written chunk : List UInt8) :
    (overwritten written chunk).length = max chunk.length written.length := by
  rw [overwritten, List.length_append, List.length_drop]
  omega

/-- Steady reads are passed on as they are. -/
theorem passedOn_of_steady {chunks : List (List UInt8)} (steady : Steady size chunks)
    {written : List UInt8} (longer : ∀ chunk ∈ chunks, written.length ≤ chunk.length)
    (memory : Nat → List UInt8) : passedOn size chunks written memory = chunks := by
  induction chunks generalizing written memory with
  | nil => rfl
  | cons chunk chunks induction =>
      obtain ⟨order, short⟩ := steady
      rw [List.map_cons, List.pairwise_cons] at order
      have all : overwritten written chunk = chunk := by
        rw [overwritten, List.drop_eq_nil_of_le (longer chunk List.mem_cons_self), List.append_nil]
      rw [passedOn]
      simp only [all]
      rw [if_pos (short chunk List.mem_cons_self),
        induction ⟨order.2, fun other member => short other (List.mem_cons_of_mem chunk member)⟩
          fun other member => order.1 _ (List.mem_map_of_mem member)]

/-- No read is passed on without some byte of it. -/
theorem length_le_passedOn (chunks : List (List UInt8)) (written : List UInt8)
    (memory : Nat → List UInt8) :
    chunks.flatten.length ≤ (passedOn size chunks written memory).flatten.length := by
  induction chunks generalizing written memory with
  | nil => exact Nat.le_refl _
  | cons chunk chunks induction =>
      have rest := induction (overwritten written chunk) fun index => memory (index + 1)
      have length := length_overwritten written chunk
      simp only [passedOn, List.flatten_cons, List.length_append]
      split
      · omega
      · rw [List.length_append]
        omega

/-- With a character behind the buffer that is not zero, more is passed on than was read unless the
reads are steady. -/
theorem steady_of_passedOn {chunks : List (List UInt8)} {written : List UInt8}
    (same : (passedOn size chunks written fun _ => [65]).flatten.length ≤ chunks.flatten.length) :
    Steady size chunks ∧ ∀ chunk ∈ chunks, written.length ≤ chunk.length := by
  induction chunks generalizing written with
  | nil => exact ⟨⟨.nil, by simp⟩, by simp⟩
  | cons chunk chunks induction =>
      have rest : chunks.flatten.length ≤
          (passedOn size chunks (overwritten written chunk) fun _ => [65]).flatten.length :=
        length_le_passedOn chunks _ _
      have length := length_overwritten written chunk
      simp only [passedOn, List.flatten_cons, List.length_append] at same
      split at same
      · next short =>
          have fewer : (passedOn size chunks (overwritten written chunk)
              fun _ => [65]).flatten.length ≤ chunks.flatten.length := by omega
          obtain ⟨⟨order, fits⟩, longer⟩ := induction fewer
          have front : (overwritten written chunk).length = chunk.length := by omega
          rw [front] at longer short
          refine ⟨⟨?_, ?_⟩, ?_⟩
          · rw [List.map_cons, List.pairwise_cons]
            refine ⟨fun length member => ?_, order⟩
            obtain ⟨other, inside, rfl⟩ := List.mem_map.mp member
            exact longer other inside
          · rw [List.forall_mem_cons]
            exact ⟨short, fits⟩
          · rw [List.forall_mem_cons]
            refine ⟨by omega, fun other member => ?_⟩
            have := longer other member
            omega
      · -- the character behind the buffer is passed on as well
        rw [List.length_append, List.takeWhile_cons_of_pos (by decide), List.length_cons] at same
        omega

end Buffer

/-! ## A stream in text mode -/

theorem textMode_append (text rest : List UInt8) :
    textMode (text ++ rest) = textMode text ++ textMode rest :=
  List.flatMap_append

theorem textMode_flatten (texts : List (List UInt8)) :
    textMode texts.flatten = texts.flatMap textMode := by
  induction texts with
  | nil => rfl
  | cons text texts induction =>
      rw [List.flatten_cons, textMode_append, induction, List.flatMap_cons]

theorem length_textMode (text : List UInt8) :
    (textMode text).length = text.length + text.count 10 := by
  induction text with
  | nil => rfl
  | cons c text induction =>
      have split : textMode (c :: text) = textMode [c] ++ textMode text := textMode_append [c] text
      rw [split, List.length_append, induction, List.count_cons, List.length_cons]
      rcases eq_or_ne c 10 with rfl | other
      · simp [textMode]
        omega
      · simp [textMode, other]
        omega

theorem textMode_eq {text : List UInt8} (plain : 10 ∉ text) : textMode text = text := by
  induction text with
  | nil => rfl
  | cons c text induction =>
      obtain ⟨other, rest⟩ := not_or.mp fun either => plain (List.mem_cons.mpr either)
      have split : textMode (c :: text) = textMode [c] ++ textMode text := textMode_append [c] text
      rw [split, induction rest, textMode, List.flatMap_singleton, if_neg (Ne.symm other)]
      rfl

/-! ## The two loops -/

theorem readAndDumpLoop_eq {utf8ToGbk : List UInt8 → List UInt8} {reads : List Read}
    (stream : IsStream 4096 (chunks reads)) {buf : Block UInt8 4096} {written : List UInt8}
    (holds : Holds buf written) (memory : Nat → List UInt8) :
    readAndDumpLoop utf8ToGbk reads memory buf =
      .ok ((passedOn 4096 (chunks reads) written memory).flatMap fun text =>
        textMode (utf8ToGbk text)) := by
  induction reads generalizing buf written memory with
  | nil => rfl
  | cons read reads induction =>
      cases read with
      | data chunk =>
          obtain ⟨⟨-, fits⟩, ascii⟩ := stream chunk List.mem_cons_self
          obtain ⟨buf', puts, holds'⟩ :=
            holds.put (fun zero => absurd (ascii 0 zero).1 (by decide)) fits
          have rest := induction (fun other member => stream other (List.mem_cons_of_mem _ member))
            holds' fun index => memory (index + 1)
          rw [readAndDumpLoop, puts, ok_bind, rest, ok_bind, holds'.bufferText]
          rfl
      | interrupted => exact induction stream holds memory
      | closed => rfl
      | failed => rfl

theorem stdinReadLoop_eq {gbkToUtf8 : List UInt8 → List UInt8} {reads : List Read}
    (stream : IsStream 1024 (chunks reads)) {state : Nat}
    (plain : escapeScan state (chunks reads).flatten ≠ none) {buf : Block UInt8 1024}
    {written : List UInt8} (holds : Holds buf written) {memory : Nat → List UInt8}
    (same : ∀ text ∈ passedOn 1024 (chunks reads) written memory, gbkToUtf8 text = text) :
    stdinReadLoop gbkToUtf8 reads memory state buf =
      .ok (passedOn 1024 (chunks reads) written memory).flatten := by
  induction reads generalizing state buf written memory with
  | nil => rfl
  | cons read reads induction =>
      cases read with
      | data chunk =>
          obtain ⟨⟨some_byte, fits⟩, ascii⟩ := stream chunk List.mem_cons_self
          obtain ⟨buf', puts, holds'⟩ :=
            holds.put (fun zero => absurd (ascii 0 zero).1 (by decide)) fits
          rw [stdinReadLoop, puts, ok_bind]
          rw [chunks, List.flatten_cons, escapeScan, List.foldlM_append] at plain
          cases scanned : escapeScan state chunk with
          | none => exact absurd (by rw [← escapeScan, scanned]; rfl) plain
          | some state' =>
              rw [← escapeScan, scanned] at plain
              rw [chunks, passedOn, List.forall_mem_cons] at same
              have rest := induction
                (fun other member => stream other (List.mem_cons_of_mem _ member)) plain holds'
                same.2
              have shown := same.1
              rw [← holds'.bufferText] at shown
              have nonempty : ¬(bufferText buf' (memory 0)).length ≤ 0 := by
                rw [holds'.bufferText]
                have length := length_overwritten written chunk
                split
                · omega
                · rw [List.length_append]
                  omega
              simp only [shown]
              rw [if_neg nonempty, rest, ok_bind, holds'.bufferText]
              rfl
      | interrupted => exact induction stream plain holds same
      | closed => rfl
      | failed => rfl

/-! ## The escape -/

theorem escapeStep_cases (state : Nat) (c : UInt8) :
    (escapeStep state c = none ∧ c = 46 ∧ state = 2) ∨
      ∃ state', escapeStep state c = some state' ∧ (state' = 2 → c = 126) := by
  unfold escapeStep
  split
  · exact .inr ⟨1, rfl, fun two => absurd two (by decide)⟩
  · exact .inr ⟨1, rfl, fun two => absurd two (by decide)⟩
  · exact .inr ⟨_, rfl, fun _ => rfl⟩
  · split
    · next two => exact .inl ⟨rfl, rfl, two⟩
    · exact .inr ⟨0, rfl, fun two => absurd two (by decide)⟩
  · exact .inr ⟨0, rfl, fun two => absurd two (by decide)⟩

/-- Without the two characters of the escape behind each other, the program does not end. -/
theorem escapeScan_ne_none {text : List UInt8} (absent : ¬[126, 46] <:+: text) {state : Nat}
    (first : state = 2 → text.head? ≠ some 46) : escapeScan state text ≠ none := by
  induction text generalizing state with
  | nil => exact Option.some_ne_none state
  | cons c text induction =>
      rcases escapeStep_cases state c with ⟨-, rfl, two⟩ | ⟨state', step, tilde⟩
      · exact absurd rfl (first two)
      · rw [escapeScan, List.foldlM_cons, step]
        refine induction (fun inside => absent (inside.trans (List.suffix_cons c text).isInfix))
          fun two dot => ?_
        obtain ⟨rest, rfl⟩ := List.head?_eq_some_iff.mp dot
        obtain rfl := tilde two
        exact absent (List.prefix_append [126, 46] rest).isInfix

/-! ## What is relayed -/

/-- The conversion leaves ASCII characters as they are. -/
def KeepsAscii (convert : List UInt8 → List UInt8) : Prop :=
  ∀ text, (∀ byte ∈ text, byte < 128) → convert text = text

theorem passedOn_ascii {size : Nat} {chunks : List (List UInt8)} (stream : IsStream size chunks)
    {written : List UInt8} (ascii : ∀ byte ∈ written, byte < 128) :
    ∀ text ∈ passedOn size chunks written fun _ => [65], ∀ byte ∈ text, byte < 128 := by
  induction chunks generalizing written with
  | nil => simp [passedOn]
  | cons chunk chunks induction =>
      have new : ∀ byte ∈ overwritten written chunk, byte < 128 := by
        intro byte member
        rcases List.mem_append.mp member with inside | left
        · exact ((stream chunk List.mem_cons_self).2 byte inside).2
        · exact ascii byte (List.mem_of_mem_drop left)
      rw [passedOn, List.forall_mem_cons]
      constructor
      · split
        · exact new
        · intro byte member
          rcases List.mem_append.mp member with inside | behind
          · exact new byte inside
          · obtain rfl : byte = 65 :=
              List.mem_singleton.mp ((List.takeWhile_sublist _).subset behind)
            decide
      · exact induction (fun other member => stream other (List.mem_cons_of_mem _ member)) new

theorem IsStream.ascii {size : Nat} {chunks : List (List UInt8)} (stream : IsStream size chunks)
    {convert : List UInt8 → List UInt8} (keeps : KeepsAscii convert) :
    ∀ text ∈ chunks, convert text = text :=
  fun text member => keeps text fun byte inside => ((stream text member).2 byte inside).2

/-- What goes out of `stdout` is what the loop has passed on, in text mode. -/
theorem readAndDump_eq {utf8ToGbk : List UInt8 → List UInt8} {reads : List Read}
    (stream : IsStream 4096 (chunks reads)) {memory : Nat → List UInt8}
    (same : ∀ text ∈ passedOn 4096 (chunks reads) [] memory, utf8ToGbk text = text) :
    readAndDump utf8ToGbk reads memory =
      .ok (textMode (passedOn 4096 (chunks reads) [] memory).flatten) := by
  have converted : (passedOn 4096 (chunks reads) [] memory).map (fun text =>
      textMode (utf8ToGbk text)) = (passedOn 4096 (chunks reads) [] memory).map textMode :=
    List.map_congr_left fun text member => congrArg textMode (same text member)
  rw [readAndDump, readAndDumpLoop_eq stream holds_start, List.flatMap, converted, ← List.flatMap,
    textMode_flatten]

/-- Exactly the bytes of a stream are relayed, whatever is behind the buffer, when no read is
shorter than one before it and none fills the buffer, and nothing that goes to `stdout` is a line
feed. -/
theorem relays_iff {utf8ToGbk gbkToUtf8 : List UInt8 → List UInt8} (keeps : KeepsAscii utf8ToGbk)
    (keeps' : KeepsAscii gbkToUtf8) :
    (∀ reads, IsStream 4096 (chunks reads) →
      ((∀ memory, readAndDump utf8ToGbk reads memory = .ok (chunks reads).flatten) ↔
        Steady 4096 (chunks reads) ∧ 10 ∉ (chunks reads).flatten)) ∧
    (∀ reads, IsStream 1024 (chunks reads) → escapeScan 0 (chunks reads).flatten ≠ none →
      ((∀ memory, stdinReadThread gbkToUtf8 reads memory = .ok (chunks reads).flatten) ↔
        Steady 1024 (chunks reads))) := by
  constructor
  · intro reads stream
    have relayed (steady : Steady 4096 (chunks reads)) (memory : Nat → List UInt8) :
        readAndDump utf8ToGbk reads memory = .ok (textMode (chunks reads).flatten) := by
      have same : passedOn 4096 (chunks reads) [] memory = chunks reads :=
        passedOn_of_steady steady (by simp) memory
      rw [readAndDump_eq stream (by rw [same]; exact stream.ascii keeps), same]
    constructor
    · intro every
      have shown := every fun _ => [65]
      rw [readAndDump_eq stream fun text member =>
        keeps text (passedOn_ascii stream (by simp) text member)] at shown
      have length := congrArg List.length (Except.ok.inj shown)
      rw [length_textMode] at length
      have steady := (steady_of_passedOn (Nat.le_of_add_right_le length.le)).1
      have whole := every fun _ => []
      rw [relayed steady] at whole
      have length' := congrArg List.length (Except.ok.inj whole)
      rw [length_textMode] at length'
      exact ⟨steady, List.count_eq_zero.mp (by omega)⟩
    · rintro ⟨steady, plain⟩ memory
      rw [relayed steady, textMode_eq plain]
  · intro reads stream plain
    constructor
    · intro every
      have shown := every fun _ => [65]
      rw [stdinReadThread, stdinReadLoop_eq stream plain holds_start fun text member =>
        keeps' text (passedOn_ascii stream (by simp) text member)] at shown
      have length := congrArg List.length (Except.ok.inj shown)
      exact (steady_of_passedOn length.le).1
    · intro steady memory
      have same : passedOn 1024 (chunks reads) [] memory = chunks reads :=
        passedOn_of_steady steady (by simp) memory
      rw [stdinReadThread, stdinReadLoop_eq stream plain holds_start
        (by rw [same]; exact stream.ascii keeps'), same]

/-- Two reads of one and of two characters, with an interrupted one between them. -/
theorem relays_iff_two :
    (∀ memory, readAndDump id [.data [65], .interrupted, .data [66, 67], .closed] memory =
      .ok [65, 66, 67]) ∧
    ∀ memory, stdinReadThread id [.data [65], .interrupted, .data [66, 67], .closed] memory =
      .ok [65, 66, 67] := by
  have stream (size : Nat) (large : 2 ≤ size) : IsStream size [[65], [66, 67]] := by
    simp [IsStream]
    omega
  have steady (size : Nat) (large : 2 < size) : Steady size [[65], [66, 67]] := by
    simp [Steady]
    omega
  have keeps : KeepsAscii id := fun text _ => rfl
  have relays := relays_iff keeps keeps
  constructor
  · exact (relays.1 [.data [65], .interrupted, .data [66, 67], .closed]
      (stream 4096 (by decide))).mpr ⟨steady 4096 (by decide), by decide⟩
  · exact (relays.2 [.data [65], .interrupted, .data [66, 67], .closed] (stream 1024 (by decide))
      (by decide)).mpr (steady 1024 (by decide))

/-- The end of a longer read is shown again behind a shorter one. -/
theorem not_relays_shorter :
    let reads : List Read := [.data [65, 66, 67], .data [68]]
    readAndDump id reads (fun _ => []) = .ok [65, 66, 67, 68, 66, 67] ∧
      stdinReadThread id reads (fun _ => []) = .ok [65, 66, 67, 68, 66, 67] ∧
      (chunks reads).flatten = [65, 66, 67, 68] := by
  intro reads
  have stream (size : Nat) (large : 3 ≤ size) : IsStream size (chunks reads) := by
    simp [reads, IsStream, chunks]
    omega
  refine ⟨?_, ?_, rfl⟩
  · have same : ∀ text ∈ passedOn 4096 (chunks reads) [] (fun _ => []), id text = text :=
      fun text _ => rfl
    rw [readAndDump_eq (stream 4096 (by decide)) same]
    rfl
  · have plain : escapeScan 0 (chunks reads).flatten ≠ none := by decide
    have same : ∀ text ∈ passedOn 1024 (chunks reads) [] (fun _ => []), id text = text :=
      fun text _ => rfl
    rw [stdinReadThread, stdinReadLoop_eq (stream 1024 (by decide)) plain holds_start same]
    rfl

/-! ## Copying -/

/-- What `adb_read` can bring. -/
def Reads (chunks : List (List UInt8)) : Prop :=
  ∀ chunk ∈ chunks, 1 ≤ chunk.length ∧ chunk.length ≤ 32768

/-- The first bytes of every chunk, as many as its write takes. -/
def taken : List (List UInt8) → (Nat → Int) → List UInt8
  | [], _ => []
  | chunk :: chunks, writes =>
      chunk.take (writes 0).toNat ++ taken chunks fun index => writes (index + 1)

theorem copyToFileLoop_eq {reads : List Read} (bounded : Reads (chunks reads))
    (writes : Nat → Int) (buf : Block UInt8 32768) :
    copyToFileLoop reads writes buf = .ok (taken (chunks reads) writes) := by
  induction reads generalizing writes buf with
  | nil => rfl
  | cons read reads induction =>
      cases read with
      | data chunk =>
          rw [chunks, Reads, List.forall_mem_cons] at bounded
          obtain ⟨buf', puts, cells⟩ := buf.put_zero bounded.1.2
          have given : buf'.load 0 chunk.length = .ok chunk := by
            rw [buf'.load_eq_ok (by omega), Block.segment_zero, cells, Nat.zero_add,
              List.take_left]
          rw [copyToFileLoop, puts, ok_bind, given, ok_bind, induction bounded.2]
          rfl
      | interrupted => exact induction bounded writes buf
      | closed => rfl
      | failed => rfl

theorem length_taken_le (chunks : List (List UInt8)) (writes : Nat → Int) :
    (taken chunks writes).length ≤ chunks.flatten.length := by
  induction chunks generalizing writes with
  | nil => exact Nat.le_refl _
  | cons chunk chunks induction =>
      rw [taken, List.flatten_cons, List.length_append, List.length_append]
      exact Nat.add_le_add (List.length_take_le' _ _) (induction _)

theorem taken_eq_iff {chunks : List (List UInt8)} (bounded : Reads chunks) (writes : Nat → Int) :
    taken chunks writes = chunks.flatten ↔
      ∀ index chunk, chunks[index]? = some chunk → chunk.length ≤ writes index := by
  induction chunks generalizing writes with
  | nil => simp [taken]
  | cons chunk chunks induction =>
      rw [Reads, List.forall_mem_cons] at bounded
      have rest := length_taken_le chunks fun index => writes (index + 1)
      rw [taken, List.flatten_cons]
      constructor
      · intro same index other found
        have length := congrArg List.length same
        rw [List.length_append, List.length_append, List.length_take] at length
        have whole : chunk.take (writes 0).toNat = chunk :=
          List.take_of_length_le (by omega)
        rw [whole, List.append_cancel_left_eq, induction bounded.2] at same
        cases index with
        | zero =>
            obtain rfl : chunk = other := Option.some.inj found
            omega
        | succ index => exact same index other found
      · intro complete
        have first := complete 0 chunk rfl
        rw [List.take_of_length_le (by omega), (induction bounded.2 _).mpr]
        exact fun index other found => complete (index + 1) other found

/-- The copy is complete exactly when every write takes all that was read before it. -/
theorem copyToFile_iff {reads : List Read} (bounded : Reads (chunks reads)) (writes : Nat → Int)
    (buf : Block UInt8 32768) :
    copyToFile reads writes buf = .ok (chunks reads).flatten ↔
      ∀ index chunk, (chunks reads)[index]? = some chunk → chunk.length ≤ writes index := by
  rw [copyToFile, copyToFileLoop_eq bounded, Except.ok.injEq, taken_eq_iff bounded]

/-- Two reads, with an interrupted one between them, and writes that take all of them. -/
theorem copyToFile_iff_two :
    copyToFile [.data [65, 66, 67], .interrupted, .data [68], .closed] (fun _ => 3)
      (Block.zeros 32768) = .ok [65, 66, 67, 68] := by
  have bounded :
      Reads (chunks [.data [65, 66, 67], .interrupted, .data [68], .closed]) := by
    simp [Reads, chunks]
  refine (copyToFile_iff bounded (fun _ => 3) _).mpr fun index chunk found => ?_
  have member := List.mem_of_getElem? found
  simp only [chunks, List.mem_cons, List.not_mem_nil, or_false] at member
  rcases member with rfl | rfl
  · decide
  · decide

/-- A write that takes one of three bytes leaves a hole in the copy. -/
theorem not_copyToFile_short :
    let reads : List Read := [.data [65, 66, 67], .data [68]]
    copyToFile reads (fun _ => 1) (Block.zeros 32768) =
        .ok [65, 68] ∧
      (chunks reads).flatten = [65, 66, 67, 68] := by
  intro reads
  have bounded : Reads (chunks reads) := by
    simp [reads, Reads, chunks]
  constructor
  · rw [copyToFile, copyToFileLoop_eq bounded]
    rfl
  · rfl

end Clients
end AdbWide
