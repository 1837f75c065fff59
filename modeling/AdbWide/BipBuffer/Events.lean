import AdbWide.BipBuffer.Fifo

/-!
# Events and flags of the socketpair buffer

`_event_socketpair_start` makes the event loop wait on `evt_read` or `evt_write`.  The loop wakes
in time when the events agree with the buffer: `evt_read` is signalled iff the buffer can be read
or is closed, and `evt_write` iff it can be written or is closed.  `bip_buffer_close` signals both
events once; a later read that drains the buffer, or a later write that fills it, resets the event
again.  These two calls are exactly the ones that break the agreement.
-/

namespace AdbWide
namespace BipBuffer

/-- A call on the buffer. -/
inductive Op where
  | write (src : List UInt8)
  | read (len : Nat)
  | close
  deriving DecidableEq, Repr

/-- The buffer after a call made while no other thread uses it. -/
def call (bip : BipBuffer) : Op → Except Fault BipBuffer
  | .write src => (bip.bipBufferWrite src).map Prod.snd
  | .read len => (bip.bipBufferRead len).map Prod.snd
  | .close => .ok bip.bipBufferClose

/-- One call of a sequence. -/
def OpStep (bip : BipBuffer) (op : Op) (after : BipBuffer) : Prop :=
  bip.call op = .ok after

/-- `FDE_READ`. -/
def fdeRead : Nat := 0x0001

/-- `FDE_WRITE`. -/
def fdeWrite : Nat := 0x0002

/-- `_event_socketpair_start`: whether the handle the event loop is to wait on is signalled, if
the wanted events select a handle. -/
def eventSocketpairStart (wanted : Nat) (rbip wbip : BipBuffer) : Option Bool :=
  if wanted = fdeRead then
    some rbip.evtRead
  else if wanted = fdeWrite then
    some wbip.evtWrite
  else
    none

/-- Both events say what the flags say. -/
def EventsAgree (bip : BipBuffer) : Prop :=
  bip.evtRead = (bip.canRead || bip.closed) ∧ bip.evtWrite = (bip.canWrite || bip.closed)

/-- Whenever a read or a write would not block, the handle the event loop waits on for it is
signalled. -/
def LoopWakes (bip : BipBuffer) : Prop :=
  (∀ len answer after other, 0 < len → bip.bipBufferRead len = .ok (answer, after) →
      answer ≠ .waits → eventSocketpairStart fdeRead bip other = some true) ∧
    (∀ src answer after other, src ≠ [] → bip.bipBufferWrite src = .ok (answer, after) →
      answer ≠ .waits → eventSocketpairStart fdeWrite other bip = some true)

/-- After the close, a read must leave a byte and a write must leave room. -/
def KeepsSignal (bip : BipBuffer) : Op → Prop
  | .write src =>
      bip.closed = true → bip.canWrite = true → src.length < bipBufferSize - bip.size
  | .read len => bip.closed = true → bip.canRead = true → len < bip.size
  | .close => True

theorem eventsAgree_init (buff : Block UInt8 bipBufferSize) :
    EventsAgree (bipBufferInit buff) :=
  ⟨rfl, rfl⟩

theorem EventsAgree.loopWakes {bip : BipBuffer} (agree : EventsAgree bip) : LoopWakes bip := by
  obtain ⟨read_eq, write_eq⟩ := agree
  constructor
  · intro len answer after other positive call_eq ready
    cases readable : bip.canRead with
    | true => simp [eventSocketpairStart, read_eq, readable]
    | false =>
        cases closed : bip.closed with
        | true => simp [eventSocketpairStart, read_eq, closed]
        | false =>
            simp only [bipBufferRead, Nat.ne_of_gt positive, readable, closed, if_false,
              Bool.false_eq_true] at call_eq
            cases call_eq
            exact absurd rfl ready
  · intro src answer after other nonempty call_eq ready
    cases writable : bip.canWrite with
    | true => simp [eventSocketpairStart, fdeRead, fdeWrite, write_eq, writable]
    | false =>
        cases closed : bip.closed with
        | true => simp [eventSocketpairStart, fdeRead, fdeWrite, write_eq, closed]
        | false =>
            have length_ne : src.length ≠ 0 := by simpa using nonempty
            simp only [bipBufferWrite, length_ne, writable, closed, if_false,
              Bool.false_eq_true] at call_eq
            cases call_eq
            exact absurd rfl ready

/-- A write that does not find `can_write` set leaves the buffer alone. -/
theorem bipBufferWrite_unwritable {bip : BipBuffer} (src : List UInt8)
    (full : bip.canWrite = false) : ∃ answer, bip.bipBufferWrite src = .ok (answer, bip) := by
  by_cases empty : src.length = 0
  · exact ⟨_, if_pos empty⟩
  · cases closed : bip.closed with
    | true => exact ⟨.brokenPipe, by simp [bipBufferWrite, full, closed, empty]⟩
    | false => exact ⟨.waits, by simp [bipBufferWrite, full, closed, empty]⟩

/-- A read that does not find `can_read` set leaves the buffer alone. -/
theorem bipBufferRead_unreadable {bip : BipBuffer} (len : Nat)
    (drained : bip.canRead = false) : ∃ answer, bip.bipBufferRead len = .ok (answer, bip) := by
  by_cases empty : len = 0
  · exact ⟨_, if_pos empty⟩
  · cases closed : bip.closed with
    | true => exact ⟨.brokenPipe, by simp [bipBufferRead, drained, closed, empty]⟩
    | false => exact ⟨.waits, by simp [bipBufferRead, drained, closed, empty]⟩

/-- What a write can do: leave the buffer alone, or append to it. -/
theorem OpStep.write_cases {bip after : BipBuffer} {src : List UInt8} (valid : Valid bip)
    (step : OpStep bip (.write src) after) :
    (after = bip ∧ (src = [] ∨ bip.canWrite = false)) ∨
      (src ≠ [] ∧ bip.canWrite = true ∧
        Wrote bip after (src.take (min src.length (bipBufferSize - bip.size)))) := by
  rcases eq_or_ne src [] with rfl | nonempty
  · left
    exact ⟨by simpa [OpStep, call, bipBufferWrite, Except.map] using step.symm, .inl rfl⟩
  cases writable : bip.canWrite with
  | false =>
      left
      obtain ⟨answer, call_eq⟩ := bipBufferWrite_unwritable src writable
      exact ⟨by simpa [OpStep, call, call_eq, Except.map] using step.symm, .inr rfl⟩
  | true =>
      right
      obtain ⟨after', call_eq, wrote⟩ := bipBufferWrite_spec valid nonempty writable
      have after_eq : after = after' := by
        simpa [OpStep, call, call_eq, Except.map] using step.symm
      exact ⟨nonempty, rfl, after_eq ▸ wrote⟩

/-- What a read can do: leave the buffer alone, or take its oldest bytes. -/
theorem OpStep.read_cases {bip after : BipBuffer} {len : Nat} (valid : Valid bip)
    (step : OpStep bip (.read len) after) :
    (after = bip ∧ (len = 0 ∨ bip.canRead = false)) ∨
      (0 < len ∧ bip.canRead = true ∧ Took bip after len) := by
  rcases Nat.eq_zero_or_pos len with rfl | positive
  · left
    exact ⟨by simpa [OpStep, call, bipBufferRead, Except.map] using step.symm, .inl rfl⟩
  cases readable : bip.canRead with
  | false =>
      left
      obtain ⟨answer, call_eq⟩ := bipBufferRead_unreadable len readable
      exact ⟨by simpa [OpStep, call, call_eq, Except.map] using step.symm, .inr rfl⟩
  | true =>
      right
      obtain ⟨after', call_eq, took⟩ := bipBufferRead_spec valid positive readable
      have after_eq : after = after' := by
        simpa [OpStep, call, call_eq, Except.map] using step.symm
      exact ⟨positive, rfl, after_eq ▸ took⟩

theorem valid_close {bip : BipBuffer} (valid : Valid bip) : Valid bip.bipBufferClose :=
  ⟨⟨valid.bEnd_le, valid.aStart_le, valid.aEnd_le, valid.wrapped⟩, valid.drained,
    valid.canRead_iff, valid.canWrite_iff⟩

/-- Every call keeps the representation invariant. -/
theorem OpStep.valid {bip after : BipBuffer} {op : Op} (valid : Valid bip)
    (step : OpStep bip op after) : Valid after := by
  cases op with
  | write src =>
      rcases step.write_cases valid with ⟨rfl, _⟩ | ⟨_, _, wrote⟩
      · exact valid
      · exact wrote.valid
  | read len =>
      rcases step.read_cases valid with ⟨rfl, _⟩ | ⟨_, _, took⟩
      · exact valid
      · exact took.valid
  | close =>
      cases step
      exact valid_close valid

/-- A completed write keeps the agreement unless it fills a closed buffer. -/
theorem Wrote.eventsAgree_iff {bip after : BipBuffer} {src : List UInt8} (valid : Valid bip)
    (agree : EventsAgree bip) (nonempty : src ≠ []) (writable : bip.canWrite = true)
    (wrote : Wrote bip after (src.take (min src.length (bipBufferSize - bip.size)))) :
    EventsAgree after ↔ KeepsSignal bip (.write src) := by
  obtain ⟨read_eq, write_eq⟩ := agree
  have room := valid.canWrite_iff.mp writable
  have size_eq : after.size = bip.size + min src.length (bipBufferSize - bip.size) := by
    rw [← wrote.valid.length_contents, wrote.contents_eq, List.length_append,
      valid.length_contents, List.length_take]
    omega
  have readable : after.canRead = true := by
    rw [wrote.valid.canRead_iff_size, size_eq]
    have := List.length_pos_of_ne_nil nonempty
    omega
  have writable_iff : after.canWrite = true ↔ src.length < bipBufferSize - bip.size := by
    rw [wrote.valid.canWrite_iff, size_eq]
    omega
  simp only [EventsAgree, KeepsSignal, wrote.evtRead_eq, wrote.evtWrite_eq, wrote.closed_eq,
    read_eq, write_eq, readable, writable, ← writable_iff]
  cases bip.canRead <;> cases bip.closed <;> cases after.canWrite <;> simp

/-- A completed read keeps the agreement unless it drains a closed buffer. -/
theorem Took.eventsAgree_iff {bip after : BipBuffer} {len : Nat} (valid : Valid bip)
    (agree : EventsAgree bip) (positive : 0 < len) (readable : bip.canRead = true)
    (took : Took bip after len) : EventsAgree after ↔ KeepsSignal bip (.read len) := by
  obtain ⟨read_eq, write_eq⟩ := agree
  have size_eq : after.size = bip.size - len := by
    rw [← took.valid.length_contents, took.contents_eq, List.length_drop,
      valid.length_contents]
  have writable : after.canWrite = true := by
    have filled := valid.canRead_iff_size.mp readable
    have size_le := valid.size_le
    rw [took.valid.canWrite_iff, size_eq]
    omega
  have readable_iff : after.canRead = true ↔ len < bip.size := by
    rw [took.valid.canRead_iff_size, size_eq]
    omega
  simp only [EventsAgree, KeepsSignal, took.evtRead_eq, took.evtWrite_eq, took.closed_eq,
    read_eq, write_eq, readable, writable, ← readable_iff]
  cases bip.canWrite <;> cases bip.closed <;> cases after.canRead <;> simp

/-- A call keeps the agreement exactly when it is not one of the two calls that reset an event of
a closed buffer. -/
theorem OpStep.eventsAgree_iff {bip after : BipBuffer} {op : Op} (valid : Valid bip)
    (agree : EventsAgree bip) (step : OpStep bip op after) :
    EventsAgree after ↔ KeepsSignal bip op := by
  cases op with
  | write src =>
      rcases step.write_cases valid with ⟨rfl, idle⟩ | ⟨nonempty, writable, wrote⟩
      · simp only [agree, true_iff, KeepsSignal]
        intro _ writable
        have room := valid.canWrite_iff.mp writable
        rcases idle with rfl | full
        · simp only [List.length_nil]
          omega
        · simp [full] at writable
      · exact wrote.eventsAgree_iff valid agree nonempty writable
  | read len =>
      rcases step.read_cases valid with ⟨rfl, idle⟩ | ⟨positive, readable, took⟩
      · simp only [agree, true_iff, KeepsSignal]
        intro _ readable
        have filled := valid.canRead_iff_size.mp readable
        rcases idle with rfl | drained
        · exact filled
        · simp [drained] at readable
      · exact took.eventsAgree_iff valid agree positive readable
  | close =>
      cases step
      obtain ⟨read_eq, write_eq⟩ := agree
      simp only [EventsAgree, KeepsSignal, bipBufferClose, read_eq, write_eq]
      cases bip.canRead <;> cases bip.canWrite <;> simp

/-- No call faults on a valid buffer. -/
theorem exists_opStep {bip : BipBuffer} (valid : Valid bip) (op : Op) :
    ∃ after, OpStep bip op after := by
  cases op with
  | write src =>
      rcases eq_or_ne src [] with rfl | nonempty
      · exact ⟨bip, rfl⟩
      cases writable : bip.canWrite with
      | true =>
          obtain ⟨after, call_eq, _⟩ := bipBufferWrite_spec valid nonempty writable
          exact ⟨after, by simp [OpStep, call, call_eq, Except.map]⟩
      | false =>
          obtain ⟨answer, call_eq⟩ := bipBufferWrite_unwritable src writable
          exact ⟨bip, by simp [OpStep, call, call_eq, Except.map]⟩
  | read len =>
      rcases Nat.eq_zero_or_pos len with rfl | positive
      · exact ⟨bip, rfl⟩
      cases readable : bip.canRead with
      | true =>
          obtain ⟨after, call_eq, _⟩ := bipBufferRead_spec valid positive readable
          exact ⟨after, by simp [OpStep, call, call_eq, Except.map]⟩
      | false =>
          obtain ⟨answer, call_eq⟩ := bipBufferRead_unreadable len readable
          exact ⟨bip, by simp [OpStep, call, call_eq, Except.map]⟩
  | close => exact ⟨bip.bipBufferClose, rfl⟩

theorem valid_of_trace {buff : Block UInt8 bipBufferSize} {ops : List Op} {bip : BipBuffer}
    (trace : Trace OpStep (bipBufferInit buff) ops bip) : Valid bip :=
  trace.invariant Valid (valid_init buff) (fun _ _ _ valid step => step.valid valid)

/-- A sequence of calls from `bip_buffer_init` keeps events and flags in agreement, and the event
loop awake, in all the states it passes through exactly when, after the close, none of its reads
drains the buffer and none of its writes fills it. -/
theorem eventsAgree_iff_keepsSignal (buff : Block UInt8 bipBufferSize) (ops : List Op) :
    (∀ pre bip, pre <+: ops → Trace OpStep (bipBufferInit buff) pre bip →
        EventsAgree bip ∧ LoopWakes bip) ↔
      ∀ pre op bip, pre ++ [op] <+: ops → Trace OpStep (bipBufferInit buff) pre bip →
        KeepsSignal bip op := by
  constructor
  · intro agree pre op bip initialPart trace
    have valid := valid_of_trace trace
    obtain ⟨after, step⟩ := exists_opStep valid op
    have before_agrees := (agree pre bip ((List.prefix_append _ _).trans initialPart) trace).1
    have after_agrees := (agree (pre ++ [op]) after initialPart (.snoc trace step)).1
    exact (step.eventsAgree_iff valid before_agrees).mp after_agrees
  · intro keeps pre bip initialPart trace
    have agree : EventsAgree bip := by
      induction trace with
      | nil => exact eventsAgree_init buff
      | @snoc pre before after op earlier last induction =>
          have before_agrees := induction ((List.prefix_append _ _).trans initialPart)
          exact (last.eventsAgree_iff (valid_of_trace earlier) before_agrees).mpr
            (keeps pre op before initialPart earlier)
    exact ⟨agree, agree.loopWakes⟩

/-- Write a byte, close, read the byte: the buffer is closed and its read event is reset, so the
event loop sleeps although a read would return at once. -/
theorem eventsAgree_fails_after_drain :
    ∃ bip, Trace OpStep (bipBufferInit zeroBlock) [.write [7], .close, .read 1] bip ∧
      bip.closed = true ∧ ¬EventsAgree bip ∧ ¬LoopWakes bip := by
  obtain ⟨wrote, write_eq, closed, close_eq, drained, read_eq, closed_eq, canRead_eq, evtRead_eq⟩ :
      ∃ wrote, OpStep (bipBufferInit zeroBlock) (.write [7]) wrote ∧
        ∃ closed, OpStep wrote .close closed ∧ ∃ drained, OpStep closed (.read 1) drained ∧
          drained.closed = true ∧ drained.canRead = false ∧ drained.evtRead = false :=
    ⟨_, rfl, _, rfl, _, rfl, rfl, rfl, rfl⟩
  refine ⟨drained, .snoc (.snoc (.snoc .nil write_eq) close_eq) read_eq, closed_eq, ?_, ?_⟩
  · rintro ⟨agrees, _⟩
    simp [closed_eq, canRead_eq, evtRead_eq] at agrees
  · rintro ⟨wakes, _⟩
    have returns : drained.bipBufferRead 1 = .ok (.brokenPipe, drained) := by
      simp [bipBufferRead, canRead_eq, closed_eq]
    have signalled := wakes 1 .brokenPipe drained drained Nat.one_pos returns (by simp)
    simp [eventSocketpairStart, evtRead_eq] at signalled

end BipBuffer
end AdbWide
