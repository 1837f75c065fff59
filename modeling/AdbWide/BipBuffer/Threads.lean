import Mathlib.Data.List.Infix
import Mathlib.Data.List.TakeWhile
import AdbWide.BipBuffer.Events

/-!
# Closing a socketpair under a reader

`bip_buffer_read` and `bip_buffer_write` drop the lock when they find nothing to do, test `closed`,
wait on their event, test `closed` again and only then look at the buffer anew.  This file runs one
reader and any number of writers over one buffer, with each critical section, each test of
`closed`, each wait and each `bip_buffer_close` as a step of its own.

A close that lands while the reader is between its two looks at a buffer that has data in the
meantime makes the reader return `EPIPE` over that data.  Every run without such a close delivers
all bytes accepted before the close ahead of the first failing read.
-/

namespace AdbWide
namespace BipBuffer

/-- Where a thread stands in a call with the given argument. -/
inductive Stage (α : Type) where
  /-- Between two calls. -/
  | idle
  /-- About to enter the critical section, for the first time or after a wait. -/
  | entering (argument : α)
  /-- Left the critical section with nothing to do; `closed` is tested next. -/
  | left (argument : α)
  /-- In `WaitForSingleObject`. -/
  | waiting (argument : α)
  /-- The wait has returned; `closed` is tested next. -/
  | woken (argument : α)
  deriving DecidableEq, Repr

/-- The thread has dropped the lock and has not taken it again. -/
def Stage.Outside {α : Type} : Stage α → Prop
  | .idle | .entering _ => False
  | .left _ | .waiting _ | .woken _ => True

/-- The argument of the call the thread is in, if any, has the given property. -/
def Stage.Argument {α : Type} (property : α → Prop) : Stage α → Prop
  | .idle => True
  | .entering argument | .left argument | .waiting argument | .woken argument =>
      property argument

/-- The moves of the wait loop that neither touch the buffer nor leave the call.  `ready` is the
flag tested under the lock and `signalled` the event waited on, which is never closed while a
thread uses the buffer: the wait returns `WAIT_OBJECT_0`. -/
inductive Stage.Loop {α : Type} (ready closed signalled : Bool) : Stage α → Stage α → Prop where
  | leave (argument : α) :
      ready = false → Loop ready closed signalled (.entering argument) (.left argument)
  | sleep (argument : α) :
      closed = false → Loop ready closed signalled (.left argument) (.waiting argument)
  | wake (argument : α) :
      signalled = true → Loop ready closed signalled (.waiting argument) (.woken argument)
  | retry (argument : α) :
      closed = false → Loop ready closed signalled (.woken argument) (.entering argument)

/-- The tests of `closed` at which a call gives up with `EPIPE`. -/
inductive Stage.GivesUp {α : Type} : Stage α → Prop where
  | left (argument : α) : GivesUp (.left argument)
  | woken (argument : α) : GivesUp (.woken argument)

theorem Stage.GivesUp.outside {α : Type} {stage : Stage α} (gives_up : stage.GivesUp) :
    stage.Outside := by
  cases gives_up with
  | left => trivial
  | woken => trivial

/-- What the threads get to see, in order. -/
inductive Event where
  /-- A write returned after accepting these bytes. -/
  | accepted (bytes : List UInt8)
  /-- A read returned these bytes. -/
  | delivered (bytes : List UInt8)
  /-- A read returned `-1`. -/
  | readFailed
  /-- A write returned `-1`. -/
  | writeFailed
  /-- `bip_buffer_close` was called. -/
  | closed
  deriving DecidableEq, Repr

def Event.acceptedBytes : Event → List UInt8
  | .accepted bytes => bytes
  | _ => []

def Event.deliveredBytes : Event → List UInt8
  | .delivered bytes => bytes
  | _ => []

/-- A read returned `-1` or `0`. -/
def Event.EndsReading (event : Event) : Prop :=
  event = .readFailed ∨ event = .delivered []

/-- All bytes the reads of a log returned. -/
def delivered (log : List Event) : List UInt8 := log.flatMap Event.deliveredBytes

/-- All bytes accepted by writes that returned before the first close of a log. -/
def promised (log : List Event) : List UInt8 :=
  (log.takeWhile (· ≠ .closed)).flatMap Event.acceptedBytes

/-- Every read that returns no data comes after all promised bytes have been delivered. -/
def NoByteLost (log : List Event) : Prop :=
  ∀ before event after, log = before ++ event :: after → event.EndsReading →
    promised log <+: delivered before

variable {ι : Type}

/-- One reader and writers `ι` over one buffer. -/
structure Pipe (ι : Type) where
  /-- The shared buffer. -/
  bip : BipBuffer
  /-- The reader, with the length of its read. -/
  reader : Stage Nat
  /-- The writers, each with the source of its write. -/
  writers : ι → Stage (List UInt8)
  /-- What has happened so far. -/
  log : List Event

/-- A fresh buffer with all threads between calls. -/
def Pipe.start (ι : Type) (buff : Block UInt8 bipBufferSize) : Pipe ι where
  bip := bipBufferInit buff
  reader := .idle
  writers := fun _ => .idle
  log := []

/-- Whose step it is. -/
inductive Agent (ι : Type) where
  | reader
  | writer (thread : ι)
  | closer
  deriving DecidableEq, Repr

/-- One step of some thread.  Reads and writes are of at least one byte, as all callers make
them. -/
inductive PipeStep [DecidableEq ι] : Pipe ι → Agent ι → Pipe ι → Prop where
  | readCall {pipe : Pipe ι} (len : Nat) :
      pipe.reader = .idle → 0 < len →
      PipeStep pipe .reader { pipe with reader := .entering len }
  | readServe {pipe : Pipe ι} {len : Nat} {bytes : List UInt8} {after : BipBuffer} :
      pipe.reader = .entering len → pipe.bip.canRead = true →
      pipe.bip.readCritical len = .ok (bytes, after) →
      PipeStep pipe .reader
        { pipe with bip := after, reader := .idle, log := pipe.log ++ [.delivered bytes] }
  | readLoop {pipe : Pipe ι} {stage : Stage Nat} :
      pipe.reader.Loop pipe.bip.canRead pipe.bip.closed pipe.bip.evtRead stage →
      PipeStep pipe .reader { pipe with reader := stage }
  | readFail {pipe : Pipe ι} :
      pipe.reader.GivesUp → pipe.bip.closed = true →
      PipeStep pipe .reader { pipe with reader := .idle, log := pipe.log ++ [.readFailed] }
  | writeCall {pipe : Pipe ι} (thread : ι) (src : List UInt8) :
      pipe.writers thread = .idle → src ≠ [] →
      PipeStep pipe (.writer thread)
        { pipe with writers := Function.update pipe.writers thread (.entering src) }
  | writeServe {pipe : Pipe ι} (thread : ι) {src : List UInt8} {count : Nat} {after : BipBuffer} :
      pipe.writers thread = .entering src → pipe.bip.canWrite = true →
      pipe.bip.writeCritical src = .ok (count, after) →
      PipeStep pipe (.writer thread)
        { pipe with
          bip := after
          writers := Function.update pipe.writers thread .idle
          log := pipe.log ++ [.accepted (src.take count)] }
  | writeLoop {pipe : Pipe ι} (thread : ι) {stage : Stage (List UInt8)} :
      (pipe.writers thread).Loop pipe.bip.canWrite pipe.bip.closed pipe.bip.evtWrite stage →
      PipeStep pipe (.writer thread)
        { pipe with writers := Function.update pipe.writers thread stage }
  | writeFail {pipe : Pipe ι} (thread : ι) :
      (pipe.writers thread).GivesUp → pipe.bip.closed = true →
      PipeStep pipe (.writer thread)
        { pipe with
          writers := Function.update pipe.writers thread .idle
          log := pipe.log ++ [.writeFailed] }
  | close {pipe : Pipe ι} :
      PipeStep pipe .closer
        { pipe with bip := pipe.bip.bipBufferClose, log := pipe.log ++ [.closed] }

/-- The first close does not land while the reader, having seen an empty buffer, is on its way
round the wait loop and the buffer has data again. -/
def CloseSettled (pipe : Pipe ι) : Agent ι → Prop
  | .closer => pipe.bip.closed = true ∨ ¬pipe.reader.Outside ∨ pipe.bip.size = 0
  | .reader | .writer _ => True

/-! ## Logs -/

theorem takeWhile_open {log : List Event} (unclosed : .closed ∉ log) :
    log.takeWhile (· ≠ .closed) = log := by
  rw [List.takeWhile_eq_self_iff]
  intro event member
  have ne : event ≠ .closed := fun equality => unclosed (equality ▸ member)
  simpa using ne

theorem promised_append_of_closed {log : List Event} (closed : .closed ∈ log)
    (rest : List Event) : promised (log ++ rest) = promised log := by
  have stops : (log.takeWhile (· ≠ .closed)).length ≠ log.length := by
    intro whole
    have all := List.takeWhile_eq_self_iff.mp ((List.takeWhile_prefix _).eq_of_length whole)
    simpa using all _ closed
  rw [promised, promised, List.takeWhile_append, if_neg stops]

theorem promised_close {log : List Event} (unclosed : .closed ∉ log) :
    promised (log ++ [.closed]) = log.flatMap Event.acceptedBytes := by
  have whole := takeWhile_open unclosed
  rw [promised, List.takeWhile_append, if_pos (by rw [whole])]
  simp

theorem promised_prefix (log : List Event) :
    promised log <+: log.flatMap Event.acceptedBytes :=
  (List.takeWhile_prefix _).flatMap _

theorem delivered_append (log rest : List Event) :
    delivered (log ++ rest) = delivered log ++ delivered rest := by
  simp [delivered, List.flatMap_append]

/-- A log stays faultless when its next event is a read with data or no read at all, or when all
promised bytes have been delivered by then. -/
theorem NoByteLost.snoc {log : List Event} {event : Event} (safe : NoByteLost log)
    (closed : ∀ earlier ∈ log, earlier.EndsReading → .closed ∈ log)
    (last : event.EndsReading → promised (log ++ [event]) <+: delivered log) :
    NoByteLost (log ++ [event]) := by
  intro before ending after log_eq ends
  rcases List.eq_nil_or_concat after with rfl | ⟨after', final, rfl⟩
  · obtain ⟨rfl, event_eq⟩ := List.append_inj' log_eq rfl
    rw [← (List.cons.inj event_eq).1] at ends
    exact last ends
  · have log_eq' : log ++ [event] = (before ++ ending :: after') ++ [final] := by
      simpa [List.append_assoc] using log_eq
    have front_eq := (List.append_inj' log_eq' rfl).1
    have earlier : ending ∈ log := by simp [front_eq]
    rw [promised_append_of_closed (closed ending earlier ends)]
    exact safe before ending after' front_eq ends

/-- An event that is no read without data leaves every such read after the close. -/
theorem ends_closed_snoc {log : List Event} {event : Event} (continues : ¬event.EndsReading)
    (closed : ∀ earlier ∈ log, earlier.EndsReading → .closed ∈ log) :
    ∀ earlier ∈ log ++ [event], earlier.EndsReading → .closed ∈ log ++ [event] := by
  intro earlier member ends
  rcases List.mem_append.mp member with old | last
  · exact List.mem_append_left _ (closed earlier old ends)
  · rw [List.mem_singleton.mp last] at ends
    exact absurd ends continues

/-! ## The invariant of settled runs -/

/-- What holds in every state of a run whose first close was settled.  The reader finds itself
outside the lock of a closed buffer only when all promised bytes have been delivered. -/
structure Settled (pipe : Pipe ι) : Prop where
  valid : Valid pipe.bip
  conserved : pipe.log.flatMap Event.acceptedBytes = delivered pipe.log ++ pipe.bip.contents
  closed_iff : pipe.bip.closed = true ↔ .closed ∈ pipe.log
  failed : ∀ event ∈ pipe.log, event.EndsReading → .closed ∈ pipe.log
  outside : pipe.bip.closed = true → pipe.reader.Outside →
    promised pipe.log <+: delivered pipe.log
  safe : NoByteLost pipe.log

theorem settled_start (buff : Block UInt8 bipBufferSize) : Settled (Pipe.start ι buff) where
  valid := valid_init buff
  conserved := by simp [Pipe.start, delivered]
  closed_iff := by simp [Pipe.start, bipBufferInit]
  failed := by simp [Pipe.start]
  outside := by simp [Pipe.start, Stage.Outside]
  safe := by
    intro before event after log_eq
    simp [Pipe.start] at log_eq

/-- With the buffer drained, everything promised has been delivered. -/
theorem Settled.promised_delivered {pipe : Pipe ι} (settled : Settled pipe)
    (drained : pipe.bip.size = 0) : promised pipe.log <+: delivered pipe.log := by
  have contents_eq : pipe.bip.contents = [] := by
    rw [← List.length_eq_zero_iff, settled.valid.length_contents, drained]
  have conserved := settled.conserved
  rw [contents_eq, List.append_nil] at conserved
  rw [← conserved]
  exact promised_prefix pipe.log

/-- A step of the wait loop changes only where the reader stands. -/
theorem Settled.readLoop {pipe : Pipe ι} {stage : Stage Nat} (settled : Settled pipe)
    (loop : pipe.reader.Loop pipe.bip.canRead pipe.bip.closed pipe.bip.evtRead stage) :
    Settled { pipe with reader := stage } := by
  refine ⟨settled.valid, settled.conserved, settled.closed_iff, settled.failed, ?_,
    settled.safe⟩
  intro closed outside
  cases readerStage : pipe.reader with
  | idle =>
      rw [readerStage] at loop
      cases loop
  | entering len =>
      rw [readerStage] at loop
      cases loop with
      | leave _ unreadable =>
          -- The buffer was seen empty under the lock.
          apply settled.promised_delivered
          have empty := settled.valid.canRead_iff_size
          rw [unreadable] at empty
          simpa using empty
  | left len =>
      exact settled.outside closed (by simp [readerStage, Stage.Outside])
  | waiting len =>
      exact settled.outside closed (by simp [readerStage, Stage.Outside])
  | woken len =>
      exact settled.outside closed (by simp [readerStage, Stage.Outside])

theorem Settled.readServe {pipe : Pipe ι} {len : Nat} {bytes : List UInt8} {after : BipBuffer}
    (settled : Settled pipe) (positive : 0 < len) (readable : pipe.bip.canRead = true)
    (critical : pipe.bip.readCritical len = .ok (bytes, after)) :
    Settled
      { pipe with bip := after, reader := .idle, log := pipe.log ++ [.delivered bytes] } := by
  obtain ⟨after', spec_eq, took⟩ := readCritical_spec settled.valid positive readable
  rw [spec_eq] at critical
  cases critical
  have data : (pipe.bip.contents.take len) ≠ [] := by
    have sized := settled.valid.canRead_iff_size.mp readable
    rw [← settled.valid.length_contents] at sized
    simpa [positive.ne'] using List.ne_nil_of_length_pos sized
  have continues : ¬Event.EndsReading (.delivered (pipe.bip.contents.take len)) := by
    simpa [Event.EndsReading] using data
  refine ⟨took.valid, ?_, ?_, ?_, ?_, ?_⟩
  · simp [delivered, Event.acceptedBytes, Event.deliveredBytes,
      took.contents_eq, settled.conserved]
  · simpa [took.closed_eq] using settled.closed_iff
  · exact ends_closed_snoc continues settled.failed
  · simp [Stage.Outside]
  · exact settled.safe.snoc settled.failed (fun ends => absurd ends continues)

theorem Settled.writeServe [DecidableEq ι] {pipe : Pipe ι} {thread : ι} {src : List UInt8}
    {count : Nat}
    {after : BipBuffer} (settled : Settled pipe) (nonempty : src ≠ [])
    (writable : pipe.bip.canWrite = true)
    (critical : pipe.bip.writeCritical src = .ok (count, after)) :
    Settled
      { pipe with
        bip := after
        writers := Function.update pipe.writers thread .idle
        log := pipe.log ++ [.accepted (src.take count)] } := by
  obtain ⟨after', spec_eq, wrote⟩ := writeCritical_spec settled.valid nonempty writable
  rw [spec_eq] at critical
  cases critical
  refine ⟨wrote.valid, ?_, ?_, ?_, ?_, ?_⟩
  · simp [delivered, Event.acceptedBytes, Event.deliveredBytes,
      wrote.contents_eq, settled.conserved]
  · simpa [wrote.closed_eq] using settled.closed_iff
  · exact ends_closed_snoc (by simp [Event.EndsReading]) settled.failed
  · intro closed outside
    have closed' : pipe.bip.closed = true := by rw [← wrote.closed_eq]; exact closed
    simp only
    rw [promised_append_of_closed (settled.closed_iff.mp closed'), delivered_append]
    exact (settled.outside closed' outside).trans (List.prefix_append _ _)
  · exact settled.safe.snoc settled.failed (by simp [Event.EndsReading])

theorem Settled.close {pipe : Pipe ι} (settled : Settled pipe)
    (condition : CloseSettled pipe .closer) :
    Settled
      { pipe with bip := pipe.bip.bipBufferClose, log := pipe.log ++ [.closed] } := by
  refine ⟨valid_close settled.valid, ?_, ?_, ?_, ?_, ?_⟩
  · simp [delivered, Event.acceptedBytes, Event.deliveredBytes,
      settled.conserved, bipBufferClose, contents]
  · simp [bipBufferClose]
  · simp
  · intro _ outside
    simp only
    rw [delivered_append]
    apply List.IsPrefix.trans _ (List.prefix_append _ _)
    by_cases again : .closed ∈ pipe.log
    · rw [promised_append_of_closed again]
      exact settled.outside (settled.closed_iff.mpr again) outside
    · rw [promised_close again]
      rcases condition with closed | inside | drained
      · exact absurd (settled.closed_iff.mp closed) again
      · exact absurd outside inside
      · have promised_eq : promised pipe.log = pipe.log.flatMap Event.acceptedBytes := by
          rw [promised, takeWhile_open again]
        rw [← promised_eq]
        exact settled.promised_delivered drained
  · exact settled.safe.snoc settled.failed (by simp [Event.EndsReading])

theorem Stage.Loop.argument {α : Type} {ready closed signalled : Bool} {before after : Stage α}
    {property : α → Prop} (loop : before.Loop ready closed signalled after)
    (holds : before.Argument property) : after.Argument property := by
  cases loop with
  | leave => exact holds
  | sleep => exact holds
  | wake => exact holds
  | retry => exact holds

/-- Every thread is in a call of at least one byte, or in none. -/
structure WellCalled (pipe : Pipe ι) : Prop where
  reader : pipe.reader.Argument (0 < ·)
  writers : ∀ thread, (pipe.writers thread).Argument (· ≠ [])

theorem wellCalled_start (buff : Block UInt8 bipBufferSize) : WellCalled (Pipe.start ι buff) :=
  ⟨trivial, fun _ => trivial⟩

section Steps

variable [DecidableEq ι]

theorem WellCalled.setWriter {pipe : Pipe ι} {bip : BipBuffer} {log : List Event} {thread : ι}
    {stage : Stage (List UInt8)} (called : WellCalled pipe) (holds : stage.Argument (· ≠ [])) :
    WellCalled
      { pipe with bip, writers := Function.update pipe.writers thread stage, log } := by
  refine ⟨called.reader, ?_⟩
  intro other
  rcases eq_or_ne other thread with rfl | different
  · simpa using holds
  · simpa [different] using called.writers other

theorem PipeStep.wellCalled {before after : Pipe ι} {agent : Agent ι}
    (called : WellCalled before) (step : PipeStep before agent after) : WellCalled after := by
  cases step with
  | readCall len _ positive => exact ⟨positive, called.writers⟩
  | readServe => exact ⟨trivial, called.writers⟩
  | readLoop loop => exact ⟨loop.argument called.reader, called.writers⟩
  | readFail => exact ⟨trivial, called.writers⟩
  | writeCall thread src _ nonempty => exact called.setWriter nonempty
  | writeServe => exact called.setWriter trivial
  | writeLoop thread loop => exact called.setWriter (loop.argument (called.writers thread))
  | writeFail => exact called.setWriter trivial
  | close => exact ⟨called.reader, called.writers⟩

theorem PipeStep.settled {before after : Pipe ι} {agent : Agent ι} (called : WellCalled before)
    (settled : Settled before) (condition : CloseSettled before agent)
    (step : PipeStep before agent after) : Settled after := by
  cases step with
  | readCall len idle =>
      exact ⟨settled.valid, settled.conserved, settled.closed_iff, settled.failed,
        fun _ outside => absurd outside (by simp [Stage.Outside]), settled.safe⟩
  | readServe entering readable critical =>
      have positive := called.reader
      rw [entering] at positive
      exact settled.readServe positive readable critical
  | readLoop loop => exact settled.readLoop loop
  | readFail gives_up closed =>
      have all_delivered := settled.outside closed gives_up.outside
      have logged := settled.closed_iff.mp closed
      refine ⟨settled.valid, ?_, ?_, ?_, ?_, ?_⟩
      · simpa [delivered, Event.acceptedBytes, Event.deliveredBytes] using settled.conserved
      · simpa using settled.closed_iff
      · simp [logged]
      · simp [Stage.Outside]
      · refine settled.safe.snoc settled.failed (fun _ => ?_)
        rwa [promised_append_of_closed logged]
  | writeCall =>
      exact ⟨settled.valid, settled.conserved, settled.closed_iff, settled.failed,
        settled.outside, settled.safe⟩
  | writeServe thread entering writable critical =>
      have nonempty := called.writers thread
      rw [entering] at nonempty
      exact settled.writeServe nonempty writable critical
  | writeLoop =>
      exact ⟨settled.valid, settled.conserved, settled.closed_iff, settled.failed,
        settled.outside, settled.safe⟩
  | writeFail _ _ closed =>
      have logged := settled.closed_iff.mp closed
      refine ⟨settled.valid, ?_, ?_, ?_, ?_, ?_⟩
      · simpa [delivered, Event.acceptedBytes, Event.deliveredBytes] using settled.conserved
      · simpa using settled.closed_iff
      · simp [logged]
      · intro closed' outside
        simp only
        rw [promised_append_of_closed logged, delivered_append]
        exact (settled.outside closed' outside).trans (List.prefix_append _ _)
      · exact settled.safe.snoc settled.failed (by simp [Event.EndsReading])
  | close => exact settled.close condition

/-- In every run in which the first close is settled, each byte accepted by a write that returned
before the close is delivered before any read returns without data. -/
theorem noByteLost_of_closeSettled {buff : Block UInt8 bipBufferSize} {agents : List (Agent ι)}
    {pipe : Pipe ι}
    (run : Trace (Guarded PipeStep CloseSettled) (Pipe.start ι buff) agents pipe) :
    NoByteLost pipe.log := by
  have invariant : WellCalled pipe ∧ Settled pipe := by
    refine run.invariant (fun pipe => WellCalled pipe ∧ Settled pipe)
      ⟨wellCalled_start buff, settled_start buff⟩ ?_
    rintro before agent after ⟨called, settled⟩ ⟨condition, step⟩
    exact ⟨step.wellCalled called, step.settled called settled condition⟩
  exact invariant.2.safe

/-- A byte is written and the pipe closed while the reader is between calls: the reader gets the
byte, and only its next call fails. -/
theorem noByteLost_of_closeSettled_idle_reader :
    ∃ agents pipe,
      Trace (Guarded PipeStep CloseSettled) (Pipe.start Unit zeroBlock) agents pipe ∧
        pipe.log = [.accepted [7], .closed, .delivered [7], .readFailed] ∧
          NoByteLost pipe.log := by
  obtain ⟨wrote, write_eq, drained, read_eq, readable, unreadable, closed⟩ :
      ∃ wrote, (bipBufferInit zeroBlock).writeCritical [7] = .ok (1, wrote) ∧
        ∃ drained, wrote.bipBufferClose.readCritical 1 = .ok ([7], drained) ∧
          wrote.canRead = true ∧ drained.canRead = false ∧ drained.closed = true :=
    ⟨_, rfl, _, rfl, rfl, rfl, rfl⟩
  have run₀ : Trace (Guarded PipeStep CloseSettled) (Pipe.start Unit zeroBlock) [] _ := .nil
  have run₁ := run₀.guard (.writeCall () [7] rfl (by simp)) trivial
  have run₂ := run₁.guard (.writeServe () rfl rfl write_eq) trivial
  have run₃ := run₂.guard .close (.inr (.inl id))
  have run₄ := run₃.guard (.readCall 1 rfl Nat.one_pos) trivial
  have run₅ := run₄.guard (.readServe rfl readable read_eq) trivial
  have run₆ := run₅.guard (.readCall 1 rfl Nat.one_pos) trivial
  have run₇ := run₆.guard (.readLoop (.leave 1 unreadable)) trivial
  have run₈ := run₇.guard (.readFail (.left 1) closed) trivial
  exact ⟨_, _, run₈, rfl, noByteLost_of_closeSettled run₈⟩

/-- The reader finds the buffer empty and goes to sleep; a writer puts a byte into it and the pipe
is closed; the reader wakes, sees `closed` and fails over the byte. -/
theorem byteLost_when_close_meets_waiting_reader :
    ∃ pipe, Reachable PipeStep (Pipe.start Unit zeroBlock) pipe ∧
      pipe.log = [.accepted [7], .closed, .readFailed] ∧ ¬NoByteLost pipe.log := by
  obtain ⟨wrote, write_eq, readable, signalled⟩ :
      ∃ wrote, (bipBufferInit zeroBlock).writeCritical [7] = .ok (1, wrote) ∧
        wrote.canRead = true ∧ wrote.bipBufferClose.evtRead = true :=
    ⟨_, rfl, rfl, rfl⟩
  have run₀ : Trace PipeStep (Pipe.start Unit zeroBlock) [] _ := .nil
  have run₁ := run₀.snoc (.readCall 1 rfl Nat.one_pos)
  have run₂ := run₁.snoc (.readLoop (.leave 1 rfl))
  have run₃ := run₂.snoc (.readLoop (.sleep 1 rfl))
  have run₄ := run₃.snoc (.writeCall () [7] rfl (by simp))
  have run₅ := run₄.snoc (.writeServe () rfl rfl write_eq)
  have run₆ := run₅.snoc .close
  have run₇ := run₆.snoc (.readLoop (.wake 1 signalled))
  have run₈ := run₇.snoc (.readFail (.woken 1) rfl)
  refine ⟨_, ⟨_, run₈⟩, rfl, ?_⟩
  change ¬NoByteLost [.accepted [7], .closed, .readFailed]
  intro safe
  have delivered_first := safe [.accepted [7], .closed] .readFailed [] rfl (.inl rfl)
  revert delivered_first
  decide

end Steps

end BipBuffer
end AdbWide
