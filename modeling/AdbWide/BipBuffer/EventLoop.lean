import AdbWide.BipBuffer.Events
import AdbWide.Sockets.Model

/-!
# The event loop over an emulated socketpair

A service of the Win32 host runs in a thread of its own and talks to the main thread through an
emulated socketpair.  The main thread has a local socket on its end: `fdevent_process` reports the
events of the socket, and `local_socket_event_func` then writes and reads until it is told to come
again, by an error that `bip_buffer_write` and `bip_buffer_read` never return.  They wait instead.

This file runs the main thread, with every call on the two buffers as a step of its own, beside
the thread on the other end.
-/

namespace AdbWide
namespace EventLoop

open BipBuffer (OpStep Valid bipBufferInit)
open Sockets (maxPayload)

/-- A set of `FDE_READ` and `FDE_WRITE`. -/
structure FdEvents where
  read : Bool
  write : Bool
  deriving DecidableEq, Repr

/-- No event. -/
def FdEvents.none : FdEvents := ⟨false, false⟩

/-- `events | others`. -/
def FdEvents.union (events others : FdEvents) : FdEvents :=
  ⟨events.read || others.read, events.write || others.write⟩

/-- `events & ~others`. -/
def FdEvents.without (events others : FdEvents) : FdEvents :=
  ⟨events.read && !others.read, events.write && !others.write⟩

/-- Where the main thread stands as far as the socket is concerned. -/
inductive Stage where
  /-- Somewhere else in `fdevent_loop`. -/
  | idle
  /-- In the loop of `local_socket_enqueue`, with the bytes that are left. -/
  | enqueueing (rest : List UInt8)
  /-- Waiting in the call of `bip_buffer_write` made there. -/
  | enqueueWaits (rest : List UInt8)
  /-- In the `FDE_WRITE` part of `local_socket_event_func`, and whether the other part follows. -/
  | draining (read : Bool)
  /-- Waiting in the call of `bip_buffer_write` made there. -/
  | drainWaits (read : Bool)
  /-- In the loop of the `FDE_READ` part, with room for this many bytes. -/
  | reading (avail : Nat)
  /-- Waiting in the call of `bip_buffer_read` made there. -/
  | readWaits (avail : Nat)
  /-- Behind that loop, and whether `is_eof` is set. -/
  | handing (eof : Bool)
  /-- The socket has been destroyed. -/
  | destroyed
  deriving DecidableEq, Repr

/-- A local socket whose file descriptor is one end of an emulated socketpair. -/
structure EmulatedSocket where
  /-- The buffer that is read from this end. -/
  rbip : BipBuffer
  /-- The buffer that is written from this end. -/
  wbip : BipBuffer
  /-- What is left of the packets from `pkt_first` to `pkt_last`. -/
  queue : List (List UInt8)
  closing : Bool
  /-- The events in `fde.state`, which are those of the hook. -/
  wanted : FdEvents
  /-- `fde.events`, while `FDE_PENDING` is set. -/
  pending : Option FdEvents
  stage : Stage

namespace EmulatedSocket

/-- `fdevent_set`. -/
def fdeventSet (s : EmulatedSocket) (events : FdEvents) : EmulatedSocket :=
  if s.wanted = events then s
  else
    match s.pending with
    | none => { s with wanted := events }
    | some reported =>
        -- the events that are no longer wanted are the ones that stay
        let reported := reported.without events
        { s with
          wanted := events
          pending := if reported = .none then none else some reported }

/-- The end of `local_socket_close_locked`. -/
def close (s : EmulatedSocket) : EmulatedSocket :=
  if s.closing ∨ s.queue = [] then
    { s with
      rbip := s.rbip.bipBufferClose
      wbip := s.wbip.bipBufferClose
      pending := none
      stage := .destroyed }
  else
    { s.fdeventSet { s.wanted with read := false } with closing := true, stage := .idle }

/-- The hook of the socket is signalled by `fdevent_process`: `_event_socketpair_prepare` or
`_event_socketpair_peek` finds it ready, or the handle `_event_socketpair_start` chose is. -/
def Signalled (s : EmulatedSocket) : Prop :=
  (s.wanted.read = true ∧ s.rbip.canRead = true) ∨
    (s.wanted.write = true ∧ s.wbip.canWrite = true) ∨
    (s.wanted = ⟨true, false⟩ ∧ s.rbip.evtRead = true) ∨
    (s.wanted = ⟨false, true⟩ ∧ s.wbip.evtWrite = true)

/-- `event_hook_signal`: everything that is wanted is reported. -/
def signal (s : EmulatedSocket) : EmulatedSocket :=
  { s with pending := some ((s.pending.getD .none).union s.wanted) }

/-- Where `local_socket_event_func` starts to read. -/
def startReading (read : Bool) : Stage := if read then .reading maxPayload else .idle

/-- `local_socket_event_func` is called with the events that were reported. -/
def callback (s : EmulatedSocket) (events : FdEvents) : EmulatedSocket :=
  { s with
    pending := none
    stage := if events.write then .draining events.read else startReading events.read }

/-- Behind the loop over the queue in `local_socket_event_func`. -/
def drained (s : EmulatedSocket) (read : Bool) : EmulatedSocket :=
  if s.closing then s.close
  else { s.fdeventSet { s.wanted with write := false } with stage := startReading read }

/-- The end of `local_socket_event_func`, with what `enqueue` of the peer returns.  It is less than
zero when the socket has been closed. -/
def handed (s : EmulatedSocket) (eof : Bool) (r : Int) : EmulatedSocket :=
  if r < 0 then s.close
  else
    let s := if 0 < r then s.fdeventSet { s.wanted with read := false } else s
    if eof then s.close else { s with stage := .idle }

end EmulatedSocket

/-- What happens to the socket. -/
inductive Move where
  /-- The thread on the other end makes a call. -/
  | remote
  /-- `fdevent_process` reports the events of the socket. -/
  | process
  /-- `fdevent_loop` calls `local_socket_event_func`. -/
  | callback
  /-- The main thread goes on in a function of the socket. -/
  | main
  /-- The main thread calls a function of the socket from elsewhere. -/
  | peer
  deriving DecidableEq, Repr

/-- One step of one of the two threads. -/
inductive LoopStep : EmulatedSocket → Move → EmulatedSocket → Prop where
  | remoteWrite {s : EmulatedSocket} {src : List UInt8} {after : BipBuffer} :
      OpStep s.rbip (.write src) after → LoopStep s .remote { s with rbip := after }
  | remoteRead {s : EmulatedSocket} {len : Nat} {after : BipBuffer} :
      OpStep s.wbip (.read len) after → LoopStep s .remote { s with wbip := after }
  | remoteClose {s : EmulatedSocket} :
      LoopStep s .remote
        { s with rbip := s.rbip.bipBufferClose, wbip := s.wbip.bipBufferClose }
  | process {s : EmulatedSocket} :
      s.stage = .idle → s.Signalled → LoopStep s .process s.signal
  | callback {s : EmulatedSocket} {events : FdEvents} :
      s.stage = .idle → s.pending = some events → LoopStep s .callback (s.callback events)
  -- `local_socket_ready`
  | ready {s : EmulatedSocket} :
      s.stage = .idle → LoopStep s .peer (s.fdeventSet { s.wanted with read := true })
  | close {s : EmulatedSocket} : s.stage = .idle → LoopStep s .peer s.close
  -- `local_socket_enqueue`
  | enqueue {s : EmulatedSocket} {packet : List UInt8} :
      s.stage = .idle → s.queue = [] → LoopStep s .peer { s with stage := .enqueueing packet }
  | append {s : EmulatedSocket} {packet : List UInt8} :
      s.stage = .idle → s.queue ≠ [] →
      LoopStep s .peer
        ({ s with queue := s.queue ++ [packet] }.fdeventSet { s.wanted with write := true })
  | enqueued {s : EmulatedSocket} :
      s.stage = .enqueueing [] → LoopStep s .main { s with stage := .idle }
  | enqueueCall {s : EmulatedSocket} {rest : List UInt8} {count : Nat} {after : BipBuffer} :
      s.stage = .enqueueing rest → rest ≠ [] →
      s.wbip.bipBufferWrite rest = .ok (.returns count, after) →
      LoopStep s .main { s with wbip := after, stage := .enqueueing (rest.drop count) }
  | enqueueFail {s : EmulatedSocket} {rest : List UInt8} {after : BipBuffer} :
      s.stage = .enqueueing rest → rest ≠ [] →
      s.wbip.bipBufferWrite rest = .ok (.brokenPipe, after) → LoopStep s .main s.close
  | enqueueWait {s : EmulatedSocket} {rest : List UInt8} {after : BipBuffer} :
      s.stage = .enqueueing rest → rest ≠ [] →
      s.wbip.bipBufferWrite rest = .ok (.waits, after) →
      LoopStep s .main { s with stage := .enqueueWaits rest }
  | enqueueWake {s : EmulatedSocket} {rest : List UInt8} :
      s.stage = .enqueueWaits rest → s.wbip.evtWrite = true →
      LoopStep s .main
        (if s.wbip.closed then s.close else { s with stage := .enqueueing rest })
  -- the `FDE_WRITE` part of `local_socket_event_func`
  | drainCall {s : EmulatedSocket} {read : Bool} {packet : List UInt8}
      {packets : List (List UInt8)} {count : Nat} {after : BipBuffer} :
      s.stage = .draining read → s.queue = packet :: packets → packet ≠ [] →
      s.wbip.bipBufferWrite packet = .ok (.returns count, after) →
      LoopStep s .main { s with wbip := after, queue := packet.drop count :: packets }
  | drainFail {s : EmulatedSocket} {read : Bool} {packet : List UInt8}
      {packets : List (List UInt8)} {after : BipBuffer} :
      s.stage = .draining read → s.queue = packet :: packets → packet ≠ [] →
      s.wbip.bipBufferWrite packet = .ok (.brokenPipe, after) → LoopStep s .main s.close
  | drainWait {s : EmulatedSocket} {read : Bool} {packet : List UInt8}
      {packets : List (List UInt8)} {after : BipBuffer} :
      s.stage = .draining read → s.queue = packet :: packets → packet ≠ [] →
      s.wbip.bipBufferWrite packet = .ok (.waits, after) →
      LoopStep s .main { s with stage := .drainWaits read }
  | drainWake {s : EmulatedSocket} {read : Bool} :
      s.stage = .drainWaits read → s.wbip.evtWrite = true →
      LoopStep s .main
        (if s.wbip.closed then s.close else { s with stage := .draining read })
  | drainPop {s : EmulatedSocket} {read : Bool} {packets : List (List UInt8)} :
      s.stage = .draining read → s.queue = [] :: packets →
      LoopStep s .main { s with queue := packets }
  | drained {s : EmulatedSocket} {read : Bool} :
      s.stage = .draining read → s.queue = [] → LoopStep s .main (s.drained read)
  -- the `FDE_READ` part
  | readCall {s : EmulatedSocket} {avail : Nat} {bytes : List UInt8} {after : BipBuffer} :
      s.stage = .reading avail → 0 < avail →
      s.rbip.bipBufferRead avail = .ok (.returns bytes, after) →
      LoopStep s .main { s with rbip := after, stage := .reading (avail - bytes.length) }
  | readFail {s : EmulatedSocket} {avail : Nat} {after : BipBuffer} :
      s.stage = .reading avail → 0 < avail →
      s.rbip.bipBufferRead avail = .ok (.brokenPipe, after) →
      LoopStep s .main { s with stage := .handing true }
  | readWait {s : EmulatedSocket} {avail : Nat} {after : BipBuffer} :
      s.stage = .reading avail → 0 < avail →
      s.rbip.bipBufferRead avail = .ok (.waits, after) →
      LoopStep s .main { s with stage := .readWaits avail }
  | readWake {s : EmulatedSocket} {avail : Nat} :
      s.stage = .readWaits avail → s.rbip.evtRead = true →
      LoopStep s .main
        { s with stage := if s.rbip.closed then .handing true else .reading avail }
  | readDone {s : EmulatedSocket} :
      s.stage = .reading 0 → LoopStep s .main { s with stage := .handing false }
  | handed {s : EmulatedSocket} {eof : Bool} (r : Int) :
      s.stage = .handing eof → LoopStep s .main (s.handed eof r)

/-- A local socket on a new socketpair. -/
def start (buff buff' : Block UInt8 bipBufferSize) : EmulatedSocket where
  rbip := bipBufferInit buff
  wbip := bipBufferInit buff'
  queue := []
  closing := false
  wanted := .none
  pending := none
  stage := .idle

/-- The main thread waits inside `local_socket_event_func`: it has called `bip_buffer_read` on a
buffer that was neither readable nor closed, or `bip_buffer_write` on one that was neither writable
nor closed. -/
def Waits (s : EmulatedSocket) : Prop :=
  (∃ avail, s.stage = .readWaits avail) ∨ ∃ read, s.stage = .drainWaits read

/-- When `FDE_READ` is reported to `local_socket_event_func`, the buffer is full or closed. -/
def Prepared (s : EmulatedSocket) (move : Move) : Prop :=
  move = .callback → ∀ events, s.pending = some events → events.read = true →
    s.rbip.closed = true ∨ s.rbip.size = bipBufferSize

/-! ## Nothing is ever queued -/

/-- The main thread is not in the `FDE_WRITE` part of `local_socket_event_func`. -/
def Stage.Undrained : Stage → Prop
  | .draining _ | .drainWaits _ => False
  | _ => True

/-- `local_socket_enqueue` writes all of a packet or closes the socket, so that the queue stays
empty and `FDE_WRITE` is never wanted. -/
structure Plain (s : EmulatedSocket) : Prop where
  rbip : Valid s.rbip
  wbip : Valid s.wbip
  queue : s.queue = []
  wanted : s.wanted.write = false
  pending : ∀ events, s.pending = some events → events.write = false
  stage : s.stage.Undrained

theorem valid_of_write {src : List UInt8} {count : Nat} {after : BipBuffer} {bip : BipBuffer}
    (valid : Valid bip) (call : bip.bipBufferWrite src = .ok (.returns count, after)) :
    Valid after := by
  have step : OpStep bip (.write src) after := by simp [OpStep, BipBuffer.call, call, Except.map]
  exact step.valid valid

theorem valid_of_read {len : Nat} {bytes : List UInt8} {after : BipBuffer} {bip : BipBuffer}
    (valid : Valid bip) (call : bip.bipBufferRead len = .ok (.returns bytes, after)) :
    Valid after := by
  have step : OpStep bip (.read len) after := by simp [OpStep, BipBuffer.call, call, Except.map]
  exact step.valid valid

namespace Plain

variable {s : EmulatedSocket}

theorem not_draining (plain : Plain s) (read : Bool) : s.stage ≠ .draining read := by
  intro stage
  have undrained := plain.stage
  rw [stage] at undrained
  exact undrained

theorem not_drainWaits (plain : Plain s) (read : Bool) : s.stage ≠ .drainWaits read := by
  intro stage
  have undrained := plain.stage
  rw [stage] at undrained
  exact undrained

theorem withStage (plain : Plain s) {stage : Stage} (undrained : stage.Undrained) :
    Plain { s with stage } :=
  ⟨plain.rbip, plain.wbip, plain.queue, plain.wanted, plain.pending, undrained⟩

theorem withRbip (plain : Plain s) {after : BipBuffer} (valid : Valid after) :
    Plain { s with rbip := after } :=
  ⟨valid, plain.wbip, plain.queue, plain.wanted, plain.pending, plain.stage⟩

theorem withWbip (plain : Plain s) {after : BipBuffer} (valid : Valid after) :
    Plain { s with wbip := after } :=
  ⟨plain.rbip, valid, plain.queue, plain.wanted, plain.pending, plain.stage⟩

theorem fdeventSet (plain : Plain s) {events : FdEvents} (unwritten : events.write = false) :
    Plain (s.fdeventSet events) := by
  unfold EmulatedSocket.fdeventSet
  split
  · exact plain
  · split
    · rename_i none
      refine ⟨plain.rbip, plain.wbip, plain.queue, unwritten, ?_, plain.stage⟩
      intro events some
      exact absurd (none.symm.trans some) (by simp)
    · rename_i reported some
      refine ⟨plain.rbip, plain.wbip, plain.queue, unwritten, ?_, plain.stage⟩
      intro left same
      simp only [Option.ite_none_left_eq_some, Option.some.injEq] at same
      rw [← same.2, FdEvents.without, plain.pending reported some]
      rfl

theorem close (plain : Plain s) : Plain s.close := by
  unfold EmulatedSocket.close
  rw [if_pos (.inr plain.queue)]
  exact ⟨BipBuffer.valid_close plain.rbip, BipBuffer.valid_close plain.wbip, plain.queue,
    plain.wanted, fun _ same => (nomatch same), trivial⟩

theorem startReading (read : Bool) : (EmulatedSocket.startReading read).Undrained := by
  cases read <;> trivial

theorem handed (plain : Plain s) (eof : Bool) (r : Int) : Plain (s.handed eof r) := by
  have told : Plain (if 0 < r then s.fdeventSet { s.wanted with read := false } else s) := by
    split
    · exact plain.fdeventSet plain.wanted
    · exact plain
  unfold EmulatedSocket.handed
  split
  · exact plain.close
  · dsimp only
    split
    · exact told.close
    · exact told.withStage trivial

theorem step {after : EmulatedSocket} {move : Move} (plain : Plain s)
    (step : LoopStep s move after) : Plain after := by
  cases step with
  | remoteWrite call => exact plain.withRbip (call.valid plain.rbip)
  | remoteRead call => exact plain.withWbip (call.valid plain.wbip)
  | remoteClose =>
      exact (plain.withRbip (BipBuffer.valid_close plain.rbip)).withWbip
        (BipBuffer.valid_close plain.wbip)
  | process idle =>
      refine ⟨plain.rbip, plain.wbip, plain.queue, plain.wanted, ?_, plain.stage⟩
      intro events same
      rw [← Option.some.inj same, FdEvents.union, plain.wanted, Bool.or_false]
      cases pending : s.pending with
      | none => rfl
      | some reported => exact plain.pending reported pending
  | @callback events idle pending =>
      refine ⟨plain.rbip, plain.wbip, plain.queue, plain.wanted, fun _ same => (nomatch same), ?_⟩
      simp only [EmulatedSocket.callback, plain.pending events pending, Bool.false_eq_true,
        if_false]
      exact startReading events.read
  | ready idle => exact plain.fdeventSet plain.wanted
  | close idle => exact plain.close
  | enqueue idle empty => exact plain.withStage trivial
  | append idle filled => exact absurd plain.queue filled
  | enqueued stage => exact plain.withStage trivial
  | enqueueCall stage nonempty call =>
      exact (plain.withWbip (valid_of_write plain.wbip call)).withStage trivial
  | enqueueFail stage nonempty call => exact plain.close
  | enqueueWait stage nonempty call => exact plain.withStage trivial
  | enqueueWake stage woken =>
      split
      · exact plain.close
      · exact plain.withStage trivial
  | drainCall stage | drainFail stage | drainWait stage | drainPop stage | drained stage =>
      exact absurd stage (plain.not_draining _)
  | drainWake stage => exact absurd stage (plain.not_drainWaits _)
  | readCall stage room call =>
      exact (plain.withRbip (valid_of_read plain.rbip call)).withStage trivial
  | readFail stage room call => exact plain.withStage trivial
  | readWait stage room call => exact plain.withStage trivial
  | readWake stage woken =>
      refine plain.withStage ?_
      split <;> trivial
  | readDone stage => exact plain.withStage trivial
  | handed r stage => exact plain.handed _ r

end Plain

theorem plain_start (buff buff' : Block UInt8 bipBufferSize) : Plain (start buff buff') :=
  ⟨BipBuffer.valid_init buff, BipBuffer.valid_init buff', rfl, rfl, fun _ same => (nomatch same),
    trivial⟩

/-! ## Reading from a buffer that is full or closed -/

/-- While `local_socket_event_func` reads, what it still asks for is there, or the buffer is
closed. -/
def Supplied (s : EmulatedSocket) : Prop :=
  match s.stage with
  | .reading avail => s.rbip.closed = true ∨ avail ≤ s.rbip.size
  | .readWaits _ => False
  | _ => True

theorem Supplied.of_rbip {s : EmulatedSocket} (supplied : Supplied s) {after : BipBuffer}
    (closed : s.rbip.closed = true → after.closed = true) (size : s.rbip.size ≤ after.size) :
    Supplied { s with rbip := after } := by
  unfold Supplied at supplied ⊢
  dsimp only
  split
  · rename_i avail stage
    rw [stage] at supplied
    exact supplied.imp closed fun enough => Nat.le_trans enough size
  · rename_i avail stage
    rw [stage] at supplied
    exact supplied
  · trivial

theorem stage_fdeventSet (s : EmulatedSocket) (events : FdEvents) :
    (s.fdeventSet events).stage = s.stage := by
  unfold EmulatedSocket.fdeventSet
  split
  · rfl
  · split <;> rfl

theorem supplied_of_idle {s : EmulatedSocket} (idle : s.stage = .idle) : Supplied s := by
  simp [Supplied, idle]

theorem supplied_close (s : EmulatedSocket) : Supplied s.close := by
  unfold EmulatedSocket.close
  split
  · trivial
  · exact supplied_of_idle rfl

theorem supplied_handed (s : EmulatedSocket) (eof : Bool) (r : Int) :
    Supplied (s.handed eof r) := by
  unfold EmulatedSocket.handed
  split
  · exact supplied_close s
  · dsimp only
    split
    · exact supplied_close _
    · exact supplied_of_idle rfl

/-- `bip_buffer_read` waits for an open buffer without data. -/
theorem drained_of_waits {bip after : BipBuffer} {len : Nat} (valid : Valid bip)
    (positive : 0 < len) (call : bip.bipBufferRead len = .ok (.waits, after)) :
    bip.size = 0 ∧ bip.closed = false := by
  cases readable : bip.canRead with
  | true =>
      obtain ⟨_, returns, -⟩ := BipBuffer.bipBufferRead_spec valid positive readable
      rw [call] at returns
      simp at returns
  | false =>
      have empty : ¬0 < bip.size := fun filled => by
        simp [valid.canRead_iff_size.mpr filled] at readable
      cases closed : bip.closed with
      | true => simp [BipBuffer.bipBufferRead, readable, closed, Nat.ne_of_gt positive] at call
      | false => exact ⟨by omega, rfl⟩

/-- The first call takes all that is asked for, unless the buffer is closed. -/
theorem supplied_read {s : EmulatedSocket} {avail : Nat} {bytes : List UInt8} {after : BipBuffer}
    (valid : Valid s.rbip) (room : 0 < avail)
    (enough : s.rbip.closed = true ∨ avail ≤ s.rbip.size)
    (call : s.rbip.bipBufferRead avail = .ok (.returns bytes, after)) :
    Supplied { s with rbip := after, stage := .reading (avail - bytes.length) } := by
  have readable : s.rbip.canRead = true := by
    cases readable : s.rbip.canRead with
    | true => rfl
    | false => cases closed : s.rbip.closed <;>
        simp [BipBuffer.bipBufferRead, readable, closed, Nat.ne_of_gt room] at call
  obtain ⟨took, call', taken⟩ := BipBuffer.bipBufferRead_spec valid room readable
  rw [call] at call'
  simp only [Except.ok.injEq, Prod.mk.injEq, BipBuffer.Answer.returns.injEq] at call'
  obtain ⟨rfl, rfl⟩ := call'
  refine enough.imp (fun closed => taken.closed_eq.trans closed) fun enough => ?_
  rw [List.length_take, valid.length_contents, Nat.min_eq_left enough]
  omega

theorem supplied_step {s after : EmulatedSocket} {move : Move} (plain : Plain s)
    (supplied : Supplied s) (prepared : Prepared s move) (step : LoopStep s move after) :
    Supplied after := by
  cases step with
  | remoteWrite call =>
      rcases call.write_cases plain.rbip with ⟨rfl, -⟩ | ⟨-, -, wrote⟩
      · exact supplied
      · refine supplied.of_rbip (fun closed => wrote.closed_eq.trans closed) ?_
        rw [← plain.rbip.length_contents, ← wrote.valid.length_contents, wrote.contents_eq,
          List.length_append]
        omega
  | remoteRead call => exact supplied
  | remoteClose => exact supplied.of_rbip (fun _ => rfl) (Nat.le_refl _)
  | process idle => exact supplied_of_idle idle
  | @callback events idle pending =>
      have unwritten := plain.pending events pending
      cases reads : events.read with
      | false =>
          simp [Supplied, EmulatedSocket.callback, EmulatedSocket.startReading, unwritten, reads]
      | true =>
          have enough := prepared rfl events pending reads
          simp only [Supplied, EmulatedSocket.callback, EmulatedSocket.startReading, unwritten,
            reads, Bool.false_eq_true, if_false, if_true]
          exact enough.imp id fun full => Nat.le_of_eq full.symm
  | ready idle => exact supplied_of_idle ((stage_fdeventSet s _).trans idle)
  | close idle => exact supplied_close s
  | append idle filled => exact absurd plain.queue filled
  | enqueue | enqueued | enqueueCall | enqueueWait => trivial
  | enqueueFail stage nonempty call => exact supplied_close s
  | enqueueWake stage woken =>
      split
      · exact supplied_close s
      · trivial
  | drainCall stage | drainFail stage | drainWait stage | drainPop stage | drained stage =>
      exact absurd stage (plain.not_draining _)
  | drainWake stage => exact absurd stage (plain.not_drainWaits _)
  | readCall stage room call =>
      refine supplied_read plain.rbip room ?_ call
      simpa [Supplied, stage] using supplied
  | readFail | readDone => trivial
  | readWait stage room call =>
      obtain ⟨empty, opened⟩ := drained_of_waits plain.rbip room call
      simp only [Supplied, stage, opened, empty, Bool.false_eq_true, false_or] at supplied
      omega
  | readWake stage woken => simp [Supplied, stage] at supplied
  | handed r stage => exact supplied_handed s _ r

theorem plain_and_supplied {buff buff' : Block UInt8 bipBufferSize} {moves : List Move}
    {s : EmulatedSocket} (trace : Trace (Guarded LoopStep Prepared) (start buff buff') moves s) :
    Plain s ∧ Supplied s := by
  refine trace.invariant (fun s => Plain s ∧ Supplied s) ⟨plain_start buff buff', trivial⟩ ?_
  rintro before move after ⟨plain, supplied⟩ ⟨prepared, step⟩
  exact ⟨plain.step step, supplied_step plain supplied prepared step⟩

/-! ## Reading from any other buffer -/

/-- `bip_buffer_read` does wait for an open buffer without data. -/
theorem bipBufferRead_waits {bip : BipBuffer} {len : Nat} (valid : Valid bip) (positive : 0 < len)
    (opened : bip.closed = false) (empty : bip.size = 0) :
    bip.bipBufferRead len = .ok (.waits, bip) := by
  have unreadable : bip.canRead = false := by
    cases readable : bip.canRead with
    | false => rfl
    | true => exact absurd (valid.canRead_iff_size.mp readable) (by omega)
  simp [BipBuffer.bipBufferRead, unreadable, opened, Nat.ne_of_gt positive]

/-- On an open buffer without data the next call waits. -/
theorem exists_wait (s : EmulatedSocket) {avail : Nat} (valid : Valid s.rbip)
    (stage : s.stage = .reading avail) (room : 0 < avail) (opened : s.rbip.closed = false)
    (empty : s.rbip.size = 0) : ∃ after, LoopStep s .main after ∧ Waits after :=
  ⟨_, .readWait stage room (bipBufferRead_waits valid room opened empty), .inl ⟨avail, rfl⟩⟩

/-- A callback that is to read less than a packet from an open buffer waits, unless the other thread
comes to its help. -/
theorem exists_waits_of_unprepared {s : EmulatedSocket} (plain : Plain s) {events : FdEvents}
    (idle : s.stage = .idle) (pending : s.pending = some events) (reads : events.read = true)
    (opened : s.rbip.closed = false) (short : s.rbip.size ≠ bipBufferSize) :
    ∃ moves after, Trace LoopStep s (.callback :: moves) after ∧
      (∀ move ∈ moves, move = .main) ∧ Waits after := by
  have called : Trace LoopStep s [.callback] (s.callback events) :=
    .snoc .nil (.callback idle pending)
  have stage : (s.callback events).stage = .reading maxPayload := by
    simp [EmulatedSocket.callback, EmulatedSocket.startReading, plain.pending events pending, reads]
  rcases Nat.eq_zero_or_pos s.rbip.size with empty | filled
  · obtain ⟨after, step, waits⟩ := exists_wait (s.callback events) plain.rbip stage (by decide)
      opened empty
    exact ⟨[.main], after, called.snoc step, by simp, waits⟩
  · -- the first call takes what there is, and the second one waits
    have readable := plain.rbip.canRead_iff_size.mpr filled
    have positive : 0 < maxPayload := by decide
    have size_le : s.rbip.size < maxPayload :=
      Nat.lt_of_le_of_ne plain.rbip.size_le short
    obtain ⟨rbip, call, took⟩ := BipBuffer.bipBufferRead_spec plain.rbip positive readable
    have bytes : s.rbip.contents.take maxPayload = s.rbip.contents := by
      rw [List.take_of_length_le]
      rw [plain.rbip.length_contents]
      exact Nat.le_of_lt size_le
    rw [bytes] at call
    have left : rbip.size = 0 := by
      rw [← took.valid.length_contents, took.contents_eq, List.length_drop,
        plain.rbip.length_contents]
      omega
    obtain ⟨after, step, waits⟩ := exists_wait
      { s.callback events with
        rbip := rbip
        stage := .reading (maxPayload - s.rbip.contents.length) }
      took.valid rfl (by rw [plain.rbip.length_contents]; omega)
      (took.closed_eq.trans opened) left
    exact ⟨[.main, .main], after, (called.snoc (.readCall stage positive call)).snoc step,
      by simp, waits⟩

/-- As long as `FDE_READ` is reported only for a buffer that is full or closed, the main thread
never waits inside `local_socket_event_func`; and for any other buffer it can come to wait. -/
theorem never_waits_of_prepared {buff buff' : Block UInt8 bipBufferSize} {moves : List Move}
    {s : EmulatedSocket} (trace : Trace (Guarded LoopStep Prepared) (start buff buff') moves s) :
    ¬Waits s ∧
      (s.stage = .idle → ¬Prepared s .callback →
        ∃ moves after, Trace LoopStep s (.callback :: moves) after ∧
          (∀ move ∈ moves, move = .main) ∧ Waits after) := by
  obtain ⟨plain, supplied⟩ := plain_and_supplied trace
  constructor
  · rintro (⟨avail, stage⟩ | ⟨read, stage⟩)
    · simp [Supplied, stage] at supplied
    · exact plain.not_drainWaits read stage
  · intro idle unprepared
    obtain ⟨events, pending, reads, opened, short⟩ : ∃ events, s.pending = some events ∧
        events.read = true ∧ s.rbip.closed = false ∧ s.rbip.size ≠ bipBufferSize := by
      by_contra none
      refine unprepared fun _ events pending reads => ?_
      by_contra neither
      obtain ⟨opened, short⟩ := not_or.mp neither
      exact none ⟨events, pending, reads, by simpa using opened, short⟩
    exact exists_waits_of_unprepared plain idle pending reads opened short

/-- The socket is told to read, and the other end is closed. -/
theorem never_waits_of_prepared_closed :
    ∃ s, Trace (Guarded LoopStep Prepared) (start BipBuffer.zeroBlock BipBuffer.zeroBlock)
        [.peer, .remote, .process, .callback, .main] s ∧
      s.stage = .handing true ∧ ¬Waits s := by
  have told : Trace (Guarded LoopStep Prepared)
      (start BipBuffer.zeroBlock BipBuffer.zeroBlock) [.peer] _ :=
    Trace.guard .nil (.ready rfl) fun none => (nomatch none)
  have closed := told.guard .remoteClose fun none => (nomatch none)
  have signalled := closed.guard (.process rfl (.inr (.inr (.inl ⟨rfl, rfl⟩))))
    fun none => (nomatch none)
  have called := signalled.guard (.callback rfl rfl) fun _ _ _ _ => .inl rfl
  have failed := called.guard (.readFail rfl (by decide) rfl) fun none => (nomatch none)
  exact ⟨_, failed, rfl, (never_waits_of_prepared failed).1⟩

/-- The service writes a byte and goes on with its work.  The event of the byte is reported, a first
call takes it, and the second one waits. -/
theorem waits_after_one_byte :
    ∃ wrote s,
      (bipBufferInit BipBuffer.zeroBlock).bipBufferWrite [7] = .ok (.returns 1, wrote) ∧
      Trace LoopStep (start BipBuffer.zeroBlock BipBuffer.zeroBlock)
        [.peer, .remote, .process, .callback, .main, .main] s ∧ Waits s := by
  have nonempty : ([7] : List UInt8) ≠ [] := by simp
  obtain ⟨wrote, call, spec⟩ :=
    BipBuffer.bipBufferWrite_spec (BipBuffer.valid_init BipBuffer.zeroBlock) nonempty rfl
  have contents : wrote.contents = [7] := by
    rw [spec.contents_eq, BipBuffer.contents_init]
    rfl
  have size : wrote.size = 1 := by
    rw [← spec.valid.length_contents, contents]
    rfl
  have readable : wrote.canRead = true := spec.valid.canRead_iff_size.mpr (by omega)
  have byte : OpStep (bipBufferInit BipBuffer.zeroBlock) (.write [7]) wrote := by
    simp [OpStep, BipBuffer.call, call, Except.map]
  have told : Trace LoopStep (start BipBuffer.zeroBlock BipBuffer.zeroBlock) [.peer] _ :=
    .snoc .nil (.ready rfl)
  have written := told.snoc (.remoteWrite byte)
  have signalled := written.snoc (.process rfl (.inl ⟨rfl, readable⟩))
  have called := signalled.snoc (.callback rfl rfl)
  have positive : 0 < maxPayload := by decide
  obtain ⟨rbip, read, took⟩ := BipBuffer.bipBufferRead_spec spec.valid positive readable
  rw [contents] at read
  have emptied := called.snoc (.readCall rfl positive read)
  have left : rbip.size = 0 := by
    rw [← took.valid.length_contents, took.contents_eq, contents]
    rfl
  have call' : rbip.bipBufferRead (maxPayload - 1) = .ok (.waits, rbip) :=
    bipBufferRead_waits took.valid (by decide) (took.closed_eq.trans spec.closed_eq) left
  have waited := emptied.snoc (.readWait rfl (by decide) call')
  exact ⟨wrote, _, call, waited, .inl ⟨_, rfl⟩⟩

end EventLoop
end AdbWide
