import AdbWide.Execution
import AdbWide.Sockets.Operations

/-!
# What is enqueued at a local socket is written in order

`local_socket_enqueue` writes a packet at once if nothing waits before it, and may stop in the
middle of it; the rest waits on the queue for `FDE_WRITE` events.  This file follows one local
socket through every sequence of the two: the bytes written and those on the queue are always the
bytes that were enqueued.
-/

namespace AdbWide
namespace Sockets

/-- If the socket is still there its queue is as it was, and nothing was written from packets. -/
structure LeavesQueue (a : Nat) (server server' : Server) : Prop where
  queue : ∀ s', server'.sockets a = some s' →
    ∃ s, server.sockets a = some s ∧ s'.kind = s.kind ∧ s'.queue = s.queue
  output : (server'.history a).output = (server.history a).output

/-- While the local socket is there, what was written and what is on its queue are these bytes. -/
def Delivered (a : Nat) (bytes : List UInt8) (server : Server) : Prop :=
  ∀ s, server.sockets a = some s → s.kind = .localSocket ∧
    ∃ packets, s.queue.Represents packets ∧
      (server.history a).output ++ packets.flatten = bytes

/-- What `ready` of a socket hands to `local_socket_enqueue` of another: the list of devices, when
the first is a tracker that has not sent it yet. -/
def Server.handsBack (server : Server) (tracker a : Nat) (deviceList : List UInt8) : List UInt8 :=
  match server.sockets tracker with
  | none => []
  | some s =>
      if s.kind = .deviceTracker ∧ s.updateNeeded = true ∧ s.peer = some a then deviceList else []

/-- What an `FDE_WRITE` event hands to `local_socket_enqueue` of its own socket, after the queue was
written and the peer was told. -/
def Server.reenqueued (server : Server) (a : Nat) (deviceList : List UInt8) : List UInt8 :=
  match server.sockets a with
  | none => []
  | some s =>
      match (drainLoop (s.queue.fresh + 1) server.writes s.queue).outcome, s.closing, s.peer with
      | .done, false, some b => server.handsBack b a deviceList
      | _, _, _ => []

/-- The steps of one local socket, each with the bytes that are enqueued in it. -/
inductive LocalStep (a : Nat) (server : Server) : List UInt8 → Server → Prop where
  /-- `local_socket_enqueue`. -/
  | enqueue (packet : List UInt8) (writes : List WriteResult) :
      LocalStep a server packet ({ server with writes }.localSocketEnqueue a packet).1
  /-- An `FDE_WRITE` event. -/
  | writable (writes : List WriteResult) (deviceList : List UInt8) :
      LocalStep a server ({ server with writes }.reenqueued a deviceList)
        ({ server with writes }.localSocketEventFunc a true false { deviceList })
  /-- Anything that leaves the queue alone, such as closing the socket. -/
  | elsewhere {server' : Server} : LeavesQueue a server server' → LocalStep a server [] server'

/-! ## What leaves a queue alone -/

namespace LeavesQueue

variable {a : Nat} {server server' server'' : Server}

theorem refl (a : Nat) (server : Server) : LeavesQueue a server server :=
  ⟨fun s' live => ⟨s', live, rfl, rfl⟩, rfl⟩

theorem trans (first : LeavesQueue a server server') (second : LeavesQueue a server' server'') :
    LeavesQueue a server server'' := by
  refine ⟨fun s'' live => ?_, second.output.trans first.output⟩
  obtain ⟨s', live', kind, queue⟩ := second.queue s'' live
  obtain ⟨s, live, kind', queue'⟩ := first.queue s' live'
  exact ⟨s, live, kind.trans kind', queue.trans queue'⟩

theorem of_same (sockets : server'.sockets = server.sockets)
    (history : server'.history = server.history) : LeavesQueue a server server' :=
  ⟨fun s' live => ⟨s', by rw [← sockets, live], rfl, rfl⟩, by rw [history]⟩

theorem modify (a : Nat) (server : Server) (b : Nat) {change : Asocket → Asocket}
    (keeps : ∀ s, (change s).kind = s.kind ∧ (change s).queue = s.queue) :
    LeavesQueue a server (server.modify b change) := by
  refine ⟨fun s' live => ?_, rfl⟩
  by_cases same : a = b
  · subst same
    rw [Server.sockets_modify_self] at live
    obtain ⟨s, live', rfl⟩ := Option.map_eq_some_iff.mp live
    exact ⟨s, live', keeps s⟩
  · exact ⟨s', by rw [← live, Server.sockets_modify_of_ne same], rfl, rfl⟩

theorem free (a : Nat) (server : Server) (b : Nat) : LeavesQueue a server (server.free b) := by
  refine ⟨fun s' live => ⟨s', ?_, rfl, rfl⟩, rfl⟩
  by_cases same : a = b
  · subst same
    simp [Server.free] at live
  · simpa [Server.free, same] using live

theorem clearPeer (a : Nat) (server : Server) (b : Nat) :
    LeavesQueue a server (server.clearPeer b) :=
  modify a server b fun _ => ⟨rfl, rfl⟩

theorem removeSocket (a : Nat) (server : Server) (b : Nat) :
    LeavesQueue a server (server.removeSocket b) := by
  have unnumbered : LeavesQueue a server (server.modify b fun s => { s with id := 0 }) :=
    modify a server b fun _ => ⟨rfl, rfl⟩
  exact unnumbered.trans (of_same rfl rfl)

theorem endNotify (a : Nat) (server : Server) (b : Nat) (text : List UInt8) :
    LeavesQueue a server (server.endNotify b text) := by
  have ended : LeavesQueue a server (server.modify b fun s => { s with notify := false }) :=
    modify a server b fun _ => ⟨rfl, rfl⟩
  exact ended.trans (of_same rfl rfl)

theorem finishClose (a : Nat) (server : Server) (b : Nat) :
    LeavesQueue a server (server.finishClose b) := by
  unfold Server.finishClose
  split
  · exact refl a server
  · split
    · exact (removeSocket a server b).trans (free a _ b)
    · have closing : LeavesQueue a server
          (server.modify b fun s => { s with closing := true, wantRead := false }) :=
        modify a server b fun _ => ⟨rfl, rfl⟩
      exact (closing.trans (removeSocket a _ b)).trans (of_same rfl rfl)

theorem closeUnpeered (a : Nat) (server : Server) (b : Nat) :
    LeavesQueue a server (server.closeUnpeered b) := by
  unfold Server.closeUnpeered
  split
  · exact refl a server
  · split
    · split
      · exact (endNotify a server b _).trans (finishClose a _ b)
      · exact finishClose a server b
    · split
      · exact free a server b
      · exact (free a server b).trans (of_same rfl rfl)
    · exact free a server b
    · exact (free a server b).trans (of_same rfl rfl)

theorem shutdown (a : Nat) (server : Server) (b : Nat) :
    LeavesQueue a server (server.shutdown b) := by
  unfold Server.shutdown
  split
  · exact refl a server
  · split
    · exact of_same rfl rfl
    · exact refl a server

/-- What `local_socket_close_locked` does before the socket itself is destroyed. -/
theorem closePeer (a : Nat) (server : Server) (b c : Nat) :
    LeavesQueue a server
      ((((server.shutdown b).clearPeer b).closeUnpeered b).clearPeer c) :=
  (shutdown a server b).trans ((clearPeer a _ b).trans
    ((closeUnpeered a _ b).trans (clearPeer a _ c)))

theorem localSocketCloseLocked (a : Nat) (server : Server) (b : Nat) :
    LeavesQueue a server (server.localSocketCloseLocked b) := by
  unfold Server.localSocketCloseLocked
  split
  · exact refl a server
  · split
    · exact finishClose a server b
    · next c _ => exact (closePeer a server c b).trans (finishClose a _ b)

theorem close (a : Nat) (server : Server) (b : Nat) : LeavesQueue a server (server.close b) := by
  unfold Server.close
  split
  · exact refl a server
  · split
    · split
      · exact (endNotify a server b _).trans (localSocketCloseLocked a _ b)
      · exact localSocketCloseLocked a server b
    all_goals
      split
      · exact closeUnpeered a server b
      · next c _ =>
          have peer := (clearPeer a server c).trans (closeUnpeered a _ c)
          exact peer.trans (closeUnpeered a _ b)

theorem recordOutput {c : Nat} (different : a ≠ c) (server : Server) (bytes : List UInt8) :
    LeavesQueue a server (server.recordOutput c bytes) := by
  refine ⟨(refl a server).queue, ?_⟩
  simp [Server.recordOutput, Server.record, different]

theorem enqueuePacket {c : Nat} (different : a ≠ c) (server : Server) (packet : List UInt8) :
    LeavesQueue a server (server.enqueuePacket c packet) := by
  refine ⟨fun s' live => ⟨s', ?_, rfl, rfl⟩, rfl⟩
  rw [← live, Server.enqueuePacket, Server.sockets_modify_of_ne different]

theorem localSocketEnqueue {c : Nat} (different : a ≠ c) (server : Server)
    (packet : List UInt8) : LeavesQueue a server (server.localSocketEnqueue c packet).1 := by
  unfold Server.localSocketEnqueue
  split
  · exact refl a server
  · split
    · exact enqueuePacket different server packet
    · generalize writeLoop false server.writes packet = loop
      have used : LeavesQueue a server { server with writes := loop.writes } := of_same rfl rfl
      have recorded := used.trans (recordOutput different _ loop.written)
      dsimp only
      split
      · exact recorded
      · exact recorded.trans (enqueuePacket different _ _)
      · exact recorded.trans (close a _ c)

end LeavesQueue

/-- A local socket without packets is freed when it is closed. -/
theorem sockets_finishClose {a : Nat} {server : Server}
    (idle : ∀ s, server.sockets a = some s → s.queue.first = none) :
    (server.finishClose a).sockets a = none := by
  unfold Server.finishClose
  split
  · assumption
  · next s live => simp [idle s live, Server.free]

theorem sockets_close {a : Nat} {server : Server} {s : Asocket}
    (live : server.sockets a = some s) (isLocal : s.kind = .localSocket)
    (idle : s.queue.first = none) : (server.close a).sockets a = none := by
  have still : ∀ middle, LeavesQueue a server middle →
      ∀ s', middle.sockets a = some s' → s'.queue.first = none := by
    intro middle keeps s' live'
    obtain ⟨s'', live'', -, queue⟩ := keeps.queue s' live'
    cases live.symm.trans live''
    rw [queue, idle]
  have closed : ∀ middle, LeavesQueue a server middle →
      (middle.localSocketCloseLocked a).sockets a = none := by
    intro middle keeps
    unfold Server.localSocketCloseLocked
    split
    · assumption
    · split
      · exact sockets_finishClose (still middle keeps)
      · next c _ =>
          exact sockets_finishClose (still _ (keeps.trans (.closePeer a middle c a)))
  simp only [Server.close, live, isLocal]
  split
  · exact closed _ (.endNotify a server a _)
  · exact closed server (.refl a server)

/-! ## The steps -/

namespace Delivered

variable {a : Nat} {bytes : List UInt8} {server server' : Server}

theorem keeps (delivered : Delivered a bytes server) (same : LeavesQueue a server server') :
    Delivered a bytes server' := by
  intro s' live'
  obtain ⟨s, live, kind, queue⟩ := same.queue s' live'
  rw [kind, queue, same.output]
  exact delivered s live

/-- The packet is written, or hung on the queue, or partly both. -/
theorem localSocketEnqueue (delivered : Delivered a bytes server) (packet : List UInt8) :
    Delivered a (bytes ++ packet) (server.localSocketEnqueue a packet).1 := by
  cases live : server.sockets a with
  | none =>
      intro s' live'
      rw [Server.localSocketEnqueue, live] at live'
      cases live.symm.trans live'
  | some s =>
      obtain ⟨isLocal, packets, represents, parts⟩ := delivered s live
      simp only [Server.localSocketEnqueue, live]
      cases queued : s.queue.first with
      | some cell =>
          intro s' live'
          simp only [Option.isSome_some, if_true, Server.enqueuePacket,
            Server.sockets_modify_self, live, Option.map_some, Option.some.injEq] at live'
          subst live'
          refine ⟨isLocal, packets ++ [packet], represents.push packet, ?_⟩
          simp [Server.enqueuePacket, Server.modify, ← parts]
      | none =>
          obtain rfl := represents.first_eq_none_iff.mp queued
          rw [List.flatten_nil, List.append_nil] at parts
          obtain ⟨whole, done_iff⟩ := writeLoop_spec false server.writes packet
          simp only [Option.isSome_none, Bool.false_eq_true, if_false]
          generalize writeLoop false server.writes packet = loop at whole done_iff
          obtain ⟨written, rest, outcome, writes⟩ := loop
          simp only at whole done_iff
          cases outcome with
          | done =>
              intro s' live'
              cases live.symm.trans live'
              obtain rfl := done_iff.mp rfl
              refine ⟨isLocal, [], represents, ?_⟩
              simpa [Server.recordOutput, Server.record, parts] using whole
          | again =>
              intro s' live'
              simp only [Server.enqueuePacket, Server.sockets_modify_self, Server.recordOutput,
                Server.record, live, Option.map_some, Option.some.injEq] at live'
              subst live'
              refine ⟨isLocal, [rest], represents.push rest, ?_⟩
              simp [Server.enqueuePacket, Server.modify, Server.recordOutput, Server.record,
                parts, ← whole]
          | failed =>
              -- Nothing is on the queue, so that the socket is gone.
              intro s' live'
              have still : ({ server with writes }.recordOutput a written).sockets a = some s :=
                live
              have gone := sockets_close still isLocal queued
              cases gone.symm.trans live'

/-- `ready` of the peer, which may be a tracker that now sends the list of devices. -/
theorem ready (delivered : Delivered a bytes server) (b : Nat) (deviceList : List UInt8) :
    Delivered a (bytes ++ server.handsBack b a deviceList) (server.ready b deviceList) := by
  have nothing : ∀ server', LeavesQueue a server server' → Delivered a (bytes ++ []) server' := by
    intro server' same
    rw [List.append_nil]
    exact delivered.keeps same
  unfold Server.ready Server.handsBack
  cases live : server.sockets b with
  | none => exact nothing server (.refl a server)
  | some s =>
      simp only
      cases kind : s.kind with
      | localSocket =>
          simp only [reduceCtorEq, false_and, if_false]
          refine nothing _ (.trans ?_ (.modify a _ b fun _ => ⟨rfl, rfl⟩))
          split
          · exact .endNotify a server b _
          · exact .refl a server
      | remoteSocket =>
          simp only [reduceCtorEq, false_and, if_false]
          split
          · exact nothing server (.refl a server)
          · exact nothing _ (.of_same rfl rfl)
      | smartSocket =>
          simp only [reduceCtorEq, false_and, if_false]
          exact nothing server (.refl a server)
      | deviceTracker =>
          cases needed : s.updateNeeded with
          | false =>
              simp only [Bool.false_eq_true, false_and, and_false, if_false]
              exact nothing server (.refl a server)
          | true =>
              have noted : LeavesQueue a server
                  (server.modify b fun s => { s with updateNeeded := false }) :=
                .modify a server b fun _ => ⟨rfl, rfl⟩
              simp only [if_true, true_and, Server.deviceTrackerSend, Server.sockets_modify_self,
                live, Option.map_some, kind]
              cases peer : s.peer with
              | none =>
                  simp only [reduceCtorEq, if_false]
                  exact nothing _ noted
              | some c =>
                  simp only [Option.some.injEq]
                  by_cases same : c = a
                  · subst same
                    rw [if_pos rfl]
                    exact (delivered.keeps noted).localSocketEnqueue deviceList
                  · rw [if_neg same]
                    exact nothing _ (noted.trans (.localSocketEnqueue (Ne.symm same) _ deviceList))

/-- The loop of an `FDE_WRITE` event moves bytes from the queue to the file descriptor. -/
theorem drain {s : Asocket} (delivered : Delivered a bytes server)
    (live : server.sockets a = some s) :
    let drain := drainLoop (s.queue.fresh + 1) server.writes s.queue
    Delivered a bytes
      (({ server with writes := drain.writes }.recordOutput a drain.written).modify a
        fun r => { r with queue := drain.queue }) := by
  dsimp only
  obtain ⟨isLocal, packets, represents, parts⟩ := delivered s live
  obtain ⟨packets', represents', flat, -⟩ := drainLoop_spec server.writes represents
    (Nat.lt_succ_of_le represents.length_le)
  generalize drainLoop (s.queue.fresh + 1) server.writes s.queue = drain at represents' flat
  intro s' live'
  simp only [Server.sockets_modify_self, Server.recordOutput, Server.record, live,
    Option.map_some, Option.some.injEq] at live'
  subst live'
  refine ⟨isLocal, packets', represents', ?_⟩
  simp [Server.modify, Server.recordOutput, Server.record, ← parts, flat]

theorem localSocketEventFunc (delivered : Delivered a bytes server) (deviceList : List UInt8) :
    Delivered a (bytes ++ server.reenqueued a deviceList)
      (server.localSocketEventFunc a true false { deviceList }) := by
  cases live : server.sockets a with
  | none =>
      simp only [Server.localSocketEventFunc, live]
      intro s' live'
      cases live.symm.trans live'
  | some s =>
      have drained := delivered.drain live
      have handed : ∀ b, (({ server with
          writes := (drainLoop (s.queue.fresh + 1) server.writes s.queue).writes }.recordOutput a
            (drainLoop (s.queue.fresh + 1) server.writes s.queue).written).modify a
          fun r => { r with
            queue := (drainLoop (s.queue.fresh + 1) server.writes s.queue).queue,
            wantWrite := false }).handsBack b a deviceList = server.handsBack b a deviceList := by
        intro b
        by_cases same : b = a
        · subst same
          simp [Server.handsBack, Server.recordOutput, Server.record, live]
        · simp [Server.handsBack, Server.sockets_modify_of_ne same, Server.recordOutput,
            Server.record]
      have stopped : ∀ middle : Server,
          LeavesQueue a middle (middle.modify a fun s => { s with wantWrite := false }) :=
        fun middle => .modify a middle a fun _ => ⟨rfl, rfl⟩
      simp only [Server.localSocketEventFunc, live, Server.eventWrite, Server.reenqueued, if_true,
        Bool.false_eq_true, and_false, if_false]
      generalize drainLoop (s.queue.fresh + 1) server.writes s.queue = drain at drained handed
      cases drain.outcome with
      | again => simpa using drained
      | failed => simpa using drained.keeps (.close a _ a)
      | done =>
          cases closing : s.closing with
          | true => simpa using drained.keeps (.close a _ a)
          | false =>
              simp only [Bool.false_eq_true, if_false]
              have unwanted := drained.keeps (stopped _)
              cases s.peer with
              | none => simpa using unwanted
              | some b =>
                  have told := unwanted.ready b deviceList
                  rw [Server.modify_modify, handed b] at told
                  simpa only [Server.modify_modify] using told

theorem step {payload : List UInt8} (delivered : Delivered a bytes server)
    (step : LocalStep a server payload server') : Delivered a (bytes ++ payload) server' := by
  have supplied : ∀ writes, Delivered a bytes { server with writes } := fun writes =>
    delivered.keeps (.of_same rfl rfl)
  cases step with
  | enqueue _ writes => exact (supplied writes).localSocketEnqueue payload
  | writable writes deviceList => exact (supplied writes).localSocketEventFunc deviceList
  | elsewhere same =>
      rw [List.append_nil]
      exact delivered.keeps same

end Delivered

/-! ## Every sequence -/

theorem delivered_of_trace {a : Nat} {payloads : List (List UInt8)} {server final : Server}
    (start : Delivered a [] server) (trace : Trace (LocalStep a) server payloads final) :
    Delivered a payloads.flatten final := by
  induction trace with
  | nil => exact start
  | snoc _ last induction =>
      rw [List.flatten_append, List.flatten_singleton]
      exact induction.step last

/-- While a local socket is there, what has been written to its file descriptor and what is on its
queue are what has been enqueued since it was made. -/
theorem local_delivery_order {server final : Server} {payloads : List (List UInt8)} {s : Asocket}
    (trace : Trace (LocalStep server.fresh) server.createLocalSocket payloads final)
    (live : final.sockets server.fresh = some s) :
    ∃ packets, s.queue.Represents packets ∧
      (final.history server.fresh).output ++ packets.flatten = payloads.flatten := by
  have start : Delivered server.fresh [] server.createLocalSocket := by
    intro s live
    simp only [Server.createLocalSocket, Function.update_self, Option.some.injEq] at live
    subst live
    exact ⟨rfl, [], LinkedQueue.represents_empty, by simp [Server.createLocalSocket]⟩
  exact (delivered_of_trace start trace s live).2

/-- A packet is written up to its second byte, and one byte more after an interrupted call. -/
def halfWritten : Server :=
  { ({ Server.start.createLocalSocket with writes := [.wrote 1, .again] }.localSocketEnqueue 0
      [1, 2, 3, 4]).1 with
    writes := [.interrupted, .wrote 0, .again] }.localSocketEventFunc 0 true false {}

theorem local_delivery_order_halfWritten :
    (halfWritten.history 0).output = [1, 2, 3] ∧
      ∀ s, halfWritten.sockets 0 = some s → ∃ packets, s.queue.Represents packets ∧
        (halfWritten.history 0).output ++ packets.flatten = [[1, 2, 3, 4], []].flatten := by
  refine ⟨by decide, fun s live => ?_⟩
  have enqueued : Trace (LocalStep 0) Server.start.createLocalSocket [[1, 2, 3, 4]] _ :=
    .snoc .nil (.enqueue [1, 2, 3, 4] [.wrote 1, .again])
  have written := enqueued.snoc (.writable [.interrupted, .wrote 0, .again] [])
  exact @local_delivery_order Server.start halfWritten _ s written live

end Sockets
end AdbWide
