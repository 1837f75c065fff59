import AdbWide.FdEvent.Model
import AdbWide.Sockets.Lingering

/-!
# Writing what is left after a close

A socket that is closed while packets wait for its file descriptor writes them when the descriptor
becomes writable, and is then destroyed.  It no longer wants to read, but `fdevent_set` may leave
an `FDE_READ` pending.  This file says when a socket is destroyed too early for that.
-/

namespace AdbWide
namespace Sockets

open FdEvent

/-- What `fdevent_add` and `fdevent_del` have made of the mask of a socket. -/
def Asocket.mask (s : Asocket) : EventMask :=
  (if s.wantRead then fdeRead else 0) ||| (if s.wantWrite then fdeWrite else 0)

/-- The `fdevent` wants what its socket wants, and is pending when events wait for it. -/
structure Watches (fde : Fdevent) (s : Asocket) : Prop where
  wanted : fde.wanted = s.mask
  reported : fde.pending = true ↔ fde.events ≠ 0

/-- The `fdevent` after its socket has changed or is destroyed. -/
def tell (fde : Fdevent) : Option Asocket → Fdevent
  | none => { fd := fde.fd }
  | some s => fde.set s.mask

/-- The server, and the `fdevent` of one of its sockets. -/
structure Watched where
  server : Server
  fde : Fdevent
  /-- An `adb_write` for the socket returned zero, or an error other than `EAGAIN` and `EINTR`. -/
  failed : Bool := false

/-- `fdevent_loop` calls `local_socket_event_func` with the pending events of a socket. -/
def Watched.dispatch (watched : Watched) (a : Nat) (s : Asocket) (outside : Outside) : Watched :=
  let write : Bool := watched.fde.events &&& fdeWrite ≠ 0
  let read : Bool := watched.fde.events &&& fdeRead ≠ 0
  let server := (Step.event a write read).apply outside watched.server
  let drain := drainLoop (s.queue.fresh + 1) outside.writes s.queue
  { server
    fde := tell { watched.fde with events := 0, pending := false } (server.sockets a)
    failed := watched.failed || write && drain.outcome = .failed }

/-- What happens after a socket was closed. -/
inductive DrainStep (a : Nat) : Watched → Watched → Prop where
  /-- `fdevent_process` reports events the socket wants. -/
  | report {watched : Watched} {s : Asocket} {events : EventMask} :
      watched.server.sockets a = some s → events ≠ 0 → events &&& ~~~watched.fde.wanted = 0 →
      DrainStep a watched { watched with
        fde := { watched.fde with pending := true, events := watched.fde.events ||| events } }
  | dispatch {watched : Watched} {s : Asocket} (outside : Outside) :
      watched.server.sockets a = some s → watched.fde.pending = true →
      DrainStep a watched (watched.dispatch a s outside)
  /-- A step of the server that is not an event of this socket. -/
  | other {watched : Watched} (step : Step) (outside : Outside) :
      (∀ write read, step ≠ .event a write read) →
      DrainStep a watched { watched with server := step.apply outside watched.server }

/-- An `FDE_READ` is pending that is wanted, or that no `FDE_WRITE` is pending with. -/
def ReadStays (fde : Fdevent) : Prop :=
  fde.events &&& fdeRead ≠ 0 ∧ (fde.wanted &&& fdeRead ≠ 0 ∨ fde.events &&& fdeWrite = 0)

/-! ## Events -/

theorem read_bit_iff (events : EventMask) : events &&& fdeRead ≠ 0 ↔ events[0] = true := by
  revert events
  decide

/-- When only `FDE_WRITE` is wanted, an `FDE_READ` that is pending without it was so before the
report. -/
theorem reads_of_report {events more : EventMask} (wanted : more &&& ~~~fdeWrite = 0)
    (read : (events ||| more) &&& fdeRead ≠ 0) (unwritten : (events ||| more) &&& fdeWrite = 0) :
    events &&& fdeRead ≠ 0 ∧ events &&& fdeWrite = 0 := by
  have unread : more[0] = false := by
    have bit := congrArg (fun mask : EventMask => mask[0]) wanted
    simpa [fdeWrite] using bit
  rw [read_bit_iff, BitVec.getElem_or, unread, Bool.or_false] at read
  rw [BitVec.and_or_distrib_right] at unwritten
  exact ⟨(read_bit_iff events).mpr read, (BitVec.or_eq_zero_iff.mp unwritten).1⟩

/-- When a socket is closed that has packets to write, an `FDE_READ` is left pending without an
`FDE_WRITE` exactly when it stays. -/
theorem readStays_iff {fde : Fdevent} {s : Asocket} (watches : Watches fde s)
    (writes : s.wantWrite = true) :
    ReadStays fde ↔
      (fde.set fdeWrite).events &&& fdeRead ≠ 0 ∧ (fde.set fdeWrite).events &&& fdeWrite = 0 := by
  obtain ⟨wanted, reported⟩ := watches
  rw [Asocket.mask, writes] at wanted
  cases reads : s.wantRead with
  | false =>
      have same : fde.wanted = fdeWrite := by rw [wanted, reads]; rfl
      have unread : fdeWrite &&& fdeRead = 0 := rfl
      simp [ReadStays, Fdevent.set, same, unread]
  | true =>
      have both : fde.wanted = 3 := by rw [wanted, reads]; rfl
      have different : (3 : EventMask) ≠ fdeWrite := by decide
      rw [ReadStays, Fdevent.set, both, if_neg different, Fdevent.want]
      cases pending : fde.pending with
      | true =>
          -- What is wanted goes, and `FDE_READ` stays.
          rw [if_pos rfl]
          dsimp only
          generalize fde.events = events
          revert events
          decide
      | false =>
          have nothing : fde.events = 0 := by
            by_contra some_event
            rw [reported.mpr some_event] at pending
            cases pending
          simp [nothing]

/-! ## The loop over the queue -/

/-- When the loop over one packet fails, so has a call of `adb_write`. -/
theorem failed_of_writeLoop {writes : List WriteResult} {packet : List UInt8}
    (failed : (writeLoop true writes packet).outcome = .failed) :
    ∃ used, writes = used ++ .failed :: (writeLoop true writes packet).writes := by
  induction writes generalizing packet with
  | nil => cases packet <;> simp [writeLoop] at failed
  | cons result writes induction =>
      cases packet with
      | nil => simp [writeLoop] at failed
      | cons byte bytes =>
          cases result with
          | wrote more =>
              obtain ⟨used, same⟩ := induction failed
              exact ⟨.wrote more :: used, congrArg (_ :: ·) same⟩
          | again => simp [writeLoop] at failed
          | interrupted =>
              simp only [writeLoop, if_true] at failed ⊢
              obtain ⟨used, same⟩ := induction failed
              exact ⟨.interrupted :: used, congrArg (_ :: ·) same⟩
          | failed => exact ⟨[], rfl⟩

/-- The loop over one packet uses up results from the front. -/
theorem writeLoop_writes (retry : Bool) (writes : List WriteResult) (packet : List UInt8) :
    ∃ used, writes = used ++ (writeLoop retry writes packet).writes := by
  induction writes generalizing packet with
  | nil => cases packet <;> exact ⟨[], rfl⟩
  | cons result writes induction =>
      cases packet with
      | nil => exact ⟨[], rfl⟩
      | cons byte bytes =>
          cases result with
          | wrote more =>
              obtain ⟨used, same⟩ := induction ((byte :: bytes).drop (more + 1))
              exact ⟨.wrote more :: used, congrArg (_ :: ·) same⟩
          | again => exact ⟨[.again], rfl⟩
          | interrupted =>
              cases retry with
              | true =>
                  obtain ⟨used, same⟩ := induction (byte :: bytes)
                  exact ⟨.interrupted :: used, congrArg (_ :: ·) same⟩
              | false => exact ⟨[.interrupted], rfl⟩
          | failed => exact ⟨[.failed], rfl⟩

/-- When the loop over the queue fails, so has a call of `adb_write`. -/
theorem failed_of_drainLoop {rounds : Nat} {writes : List WriteResult}
    {queue : LinkedQueue (List UInt8)}
    (failed : (drainLoop rounds writes queue).outcome = .failed) :
    ∃ used, writes = used ++ .failed :: (drainLoop rounds writes queue).writes := by
  induction rounds generalizing writes queue with
  | zero => cases failed
  | succ rounds induction =>
      cases front : queue.front with
      | none => simp [drainLoop, front] at failed
      | some packet =>
          simp only [drainLoop, front] at failed ⊢
          cases outcome : (writeLoop true writes packet).outcome with
          | done =>
              obtain ⟨used, same⟩ := writeLoop_writes true writes packet
              simp only [outcome] at failed ⊢
              obtain ⟨more, same'⟩ := induction failed
              exact ⟨used ++ more, by rw [List.append_assoc, ← same', ← same]⟩
          | again => simp [outcome] at failed
          | failed => exact failed_of_writeLoop outcome

/-- Only a failed `adb_write` sets `failed`. -/
theorem failed_of_dispatch {watched : Watched} {a : Nat} {s : Asocket} {outside : Outside}
    (before : watched.failed = false) (failed : (watched.dispatch a s outside).failed = true) :
    .failed ∈ outside.writes := by
  simp only [Watched.dispatch, before, Bool.false_or, Bool.and_eq_true, decide_eq_true_eq] at failed
  obtain ⟨used, same⟩ := failed_of_drainLoop failed.2
  rw [same]
  simp

/-! ## Closing sockets -/

/-- A socket on the closing list. -/
structure Lingers (s : Asocket) : Prop where
  isLocal : s.kind = .localSocket
  closing : s.closing = true
  unpeered : s.peer = none
  silent : s.notify = false
  mask : s.mask = fdeWrite

section
variable {a : Nat} {s : Asocket} {server : Server}

/-- What the events of a closing socket do leaves nothing that refers to it. -/
theorem Alone.of_same {server server' : Server} (alone : Alone a server)
    (sockets : ∀ c r, c ≠ a → server'.sockets c = some r → server.sockets c = some r)
    (mine : ∀ r, server'.sockets a = some r → r.peer ≠ some a)
    (list : server'.localSocketList ⊆ server.localSocketList)
    (transports : server'.transports = server.transports) (fresh : server'.fresh = server.fresh) :
    Alone a server' := by
  refine ⟨fun c r live => ?_, fun listed => alone.unlisted (list listed), ?_, ?_⟩
  · by_cases same : c = a
    · subst same
      exact mine r live
    · exact alone.unpeered c r (sockets c r same live)
  · rw [transports]
    exact alone.unregistered
  · rw [fresh]
    exact alone.allocated

/-- Closing a socket that is on the closing list destroys it. -/
theorem close_of_closing (live : server.sockets a = some s) (lingers : Lingers s) :
    (server.close a).sockets a = none ∧ (server.close a).history = server.history ∧
      (Alone a server → Alone a (server.close a)) := by
  have closed : server.close a = (server.removeSocket a).free a := by
    simp [Server.close, Server.localSocketCloseLocked, Server.finishClose, live, lingers.isLocal,
      lingers.closing, lingers.unpeered, lingers.silent]
  rw [closed]
  refine ⟨by simp [Server.free], rfl, fun alone => ?_⟩
  refine alone.of_same (fun c r different => ?_) (by simp [Server.free]) List.erase_subset rfl rfl
  simp [Server.free, Server.removeSocket, Server.modify, different]

/-- The `FDE_WRITE` part of `local_socket_event_func` for a closing socket. -/
theorem eventWrite_of_closing (live : server.sockets a = some s) (lingers : Lingers s)
    (deviceList : List UInt8) :
    let drain := drainLoop (s.queue.fresh + 1) server.writes s.queue
    let result := server.eventWrite a s deviceList
    result.2 = false ∧
      result.1.sockets a = (if drain.outcome = .again then some { s with queue := drain.queue }
        else none) ∧
      (result.1.history a).output = (server.history a).output ++ drain.written ∧
      (Alone a server → Alone a result.1) := by
  simp only [Server.eventWrite]
  generalize drainLoop (s.queue.fresh + 1) server.writes s.queue = drain
  obtain ⟨queue, written, outcome, writes⟩ := drain
  dsimp only
  generalize written_server : ({ server with writes }.recordOutput a written).modify a
    (fun s => { s with queue }) = middle
  have live' : middle.sockets a = some { s with queue } := by
    rw [← written_server, Server.sockets_modify_self]
    exact congrArg (Option.map _) live
  have output : (middle.history a).output = (server.history a).output ++ written := by
    rw [← written_server]
    simp [Server.modify, Server.recordOutput, Server.record]
  have others : ∀ c r, c ≠ a → middle.sockets c = some r → server.sockets c = some r := by
    intro c r different
    rw [← written_server, Server.sockets_modify_of_ne different]
    exact id
  have middle_alone : Alone a server → Alone a middle := fun alone => by
    refine alone.of_same others (fun r live => ?_) ?_ ?_ ?_
    · rw [live'] at live
      cases live
      simp [lingers.unpeered]
    all_goals rw [← written_server]; simp [Server.modify, Server.recordOutput, Server.record]
  obtain ⟨dead, history, closed_alone⟩ := close_of_closing live'
    ⟨lingers.isLocal, lingers.closing, lingers.unpeered, lingers.silent, lingers.mask⟩
  rw [← output]
  cases outcome with
  | again => exact ⟨rfl, live', rfl, middle_alone⟩
  | failed =>
      exact ⟨rfl, dead, by rw [history], fun alone => closed_alone (middle_alone alone)⟩
  | done =>
      rw [if_pos lingers.closing]
      exact ⟨rfl, dead, by rw [history], fun alone => closed_alone (middle_alone alone)⟩

/-- When the `FDE_WRITE` part returns, it is all of `local_socket_event_func`. -/
theorem localSocketEventFunc_of_stops {outside : Outside} (live : server.sockets a = some s)
    (stops : (server.eventWrite a s outside.deviceList).2 = false) (read : Bool) :
    server.localSocketEventFunc a true read outside =
      (server.eventWrite a s outside.deviceList).1 := by
  simp [Server.localSocketEventFunc, live, stops]

/-- A closing socket throws away what it reads, and is destroyed at the end of the file. -/
theorem eventRead_of_closing (live : server.sockets a = some s) (lingers : Lingers s)
    (outside : Outside) :
    server.eventRead a outside =
      if (readLoop outside.reads maxPayload).2 then server.close a else server := by
  simp [Server.eventRead, live, lingers.unpeered]

end

/-! ## After a close -/

/-- A closed socket writes what is left, or it is destroyed after it did or after `adb_write`
failed.  While there are bytes to write, it is not called to read alone. -/
inductive Draining (a : Nat) (target : List UInt8) (watched : Watched) : Prop where
  | queued {s : Asocket} {packets : List (List UInt8)} :
      watched.server.sockets a = some s → Lingers s → s.queue.Represents packets →
      (watched.server.history a).output ++ packets.flatten = target →
      watched.fde.wanted = fdeWrite →
      (watched.fde.events &&& fdeRead ≠ 0 → watched.fde.events &&& fdeWrite = 0 →
        packets.flatten = []) →
      Draining a target watched
  | destroyed :
      watched.server.sockets a = none →
      (watched.failed = true ∨ (watched.server.history a).output = target) →
      Draining a target watched

variable {a : Nat} {target : List UInt8} {watched watched' : Watched} {s s' : Asocket}

/-- What `local_socket_event_func` does to the server. -/
theorem Watched.server_dispatch (watched : Watched) (a : Nat) (s : Asocket) (outside : Outside) :
    (watched.dispatch a s outside).server =
      { watched.server with writes := outside.writes }.localSocketEventFunc a
        (decide (watched.fde.events &&& fdeWrite ≠ 0))
        (decide (watched.fde.events &&& fdeRead ≠ 0)) outside :=
  rfl

/-- A socket that is still there after its events has no more of them. -/
theorem Draining.of_dispatch {packets : List (List UInt8)} {outside : Outside}
    (live : (watched.dispatch a s outside).server.sockets a = some s') (lingers : Lingers s')
    (represents : s'.queue.Represents packets)
    (output : ((watched.dispatch a s outside).server.history a).output ++ packets.flatten = target)
    (wanted : watched.fde.wanted = fdeWrite) :
    Draining a target (watched.dispatch a s outside) := by
  have told : (watched.dispatch a s outside).fde =
      { watched.fde with events := 0, pending := false } := by
    have same : (watched.dispatch a s outside).fde =
        tell { watched.fde with events := 0, pending := false }
          ((watched.dispatch a s outside).server.sockets a) := rfl
    rw [same, live, tell, lingers.mask, Fdevent.set, if_pos wanted]
  refine .queued live lingers represents output ?_ ?_
  · rw [told]
    exact wanted
  · rw [told]
    intro read
    exact absurd BitVec.zero_and read

theorem Draining.write {packets : List (List UInt8)} (outside : Outside)
    (alone : Alone a watched.server) (live : watched.server.sockets a = some s)
    (lingers : Lingers s) (represents : s.queue.Represents packets)
    (output : (watched.server.history a).output ++ packets.flatten = target)
    (wanted : watched.fde.wanted = fdeWrite) (writes : watched.fde.events &&& fdeWrite ≠ 0) :
    Draining a target (watched.dispatch a s outside) ∧
      Alone a (watched.dispatch a s outside).server := by
  obtain ⟨packets', represents', flat, done_iff⟩ := drainLoop_spec outside.writes represents
    (Nat.lt_succ_of_le represents.length_le)
  have start : { watched.server with writes := outside.writes }.sockets a = some s := live
  obtain ⟨stops, sockets, output', alone'⟩ :=
    eventWrite_of_closing start lingers outside.deviceList
  have isWrite : decide (watched.fde.events &&& fdeWrite ≠ 0) = true := decide_eq_true writes
  have event : (watched.dispatch a s outside).server =
      ({ watched.server with writes := outside.writes }.eventWrite a s outside.deviceList).1 := by
    rw [Watched.server_dispatch, isWrite]
    exact localSocketEventFunc_of_stops start stops _
  have failed : (watched.dispatch a s outside).failed = (watched.failed ||
      decide ((drainLoop (s.queue.fresh + 1) outside.writes s.queue).outcome = .failed)) := by
    rw [← Bool.true_and (decide _), ← isWrite]
    rfl
  rw [← event] at sockets output' alone'
  refine ⟨?_, alone' (Passes.writes a watched.server outside.writes alone).1⟩
  dsimp only at sockets output'
  cases outcome : (drainLoop (s.queue.fresh + 1) outside.writes s.queue).outcome with
  | again =>
      rw [if_pos outcome] at sockets
      have lingers' : Lingers
          { s with queue := (drainLoop (s.queue.fresh + 1) outside.writes s.queue).queue } :=
        ⟨lingers.isLocal, lingers.closing, lingers.unpeered, lingers.silent, lingers.mask⟩
      refine .of_dispatch sockets lingers' represents' ?_ wanted
      rw [output', List.append_assoc, ← flat, output]
  | failed =>
      refine .destroyed (by rw [sockets, outcome]; rfl) (.inl ?_)
      rw [failed, outcome]
      exact Bool.or_true _
  | done =>
      refine .destroyed (by rw [sockets, outcome]; rfl) (.inr ?_)
      rw [done_iff.mp outcome, List.flatten_nil, List.append_nil] at flat
      rw [output', ← flat, output]

/-- Without an `FDE_WRITE` a closing socket stays as it is, or it is destroyed because the end of
the file was read. -/
theorem server_dispatch_of_not_write (outside : Outside)
    (live : watched.server.sockets a = some s) (lingers : Lingers s)
    (unwritten : watched.fde.events &&& fdeWrite = 0) :
    (watched.dispatch a s outside).server =
      if watched.fde.events &&& fdeRead ≠ 0 ∧ (readLoop outside.reads maxPayload).2 = true then
        { watched.server with writes := outside.writes }.close a
      else { watched.server with writes := outside.writes } := by
  have start : { watched.server with writes := outside.writes }.sockets a = some s := live
  have event : ∀ read, { watched.server with writes := outside.writes }.localSocketEventFunc a
      false read outside = if read = true then
        { watched.server with writes := outside.writes }.eventRead a outside
        else { watched.server with writes := outside.writes } := by
    intro read
    simp [Server.localSocketEventFunc, live]
  rw [Watched.server_dispatch, decide_eq_false (not_not.mpr unwritten), event,
    eventRead_of_closing start lingers, ite_and]
  simp only [decide_eq_true_eq]

theorem Draining.not_write {packets : List (List UInt8)} (outside : Outside)
    (alone : Alone a watched.server) (live : watched.server.sockets a = some s)
    (lingers : Lingers s) (represents : s.queue.Represents packets)
    (output : (watched.server.history a).output ++ packets.flatten = target)
    (wanted : watched.fde.wanted = fdeWrite) (unwritten : watched.fde.events &&& fdeWrite = 0)
    (reads : watched.fde.events &&& fdeRead ≠ 0 → packets.flatten = []) :
    Draining a target (watched.dispatch a s outside) ∧
      Alone a (watched.dispatch a s outside).server := by
  have after := server_dispatch_of_not_write outside live lingers unwritten
  have start : { watched.server with writes := outside.writes }.sockets a = some s := live
  have alone' := (Passes.writes a watched.server outside.writes alone).1
  split at after
  · next ended =>
      obtain ⟨dead, history, closed_alone⟩ := close_of_closing start lingers
      rw [← after] at dead history closed_alone
      refine ⟨.destroyed dead (.inr ?_), closed_alone alone'⟩
      rw [history, ← output, reads ended.1, List.append_nil]
  · rw [← after] at alone' start
    refine ⟨.of_dispatch start lingers represents ?_ wanted, alone'⟩
    rw [after]
    exact output

theorem Draining.step (draining : Draining a target watched) (alone : Alone a watched.server)
    (step : DrainStep a watched watched') :
    Draining a target watched' ∧ Alone a watched'.server := by
  cases step with
  | report live some_event wanted' =>
      rename_i s events
      refine ⟨?_, alone⟩
      cases draining with
      | destroyed dead => rw [dead] at live; cases live
      | queued live' lingers represents output wanted reads =>
          refine .queued live' lingers represents output wanted fun read unwritten => ?_
          rw [wanted] at wanted'
          obtain ⟨before, unwritten'⟩ := reads_of_report wanted' read unwritten
          exact reads before unwritten'
  | dispatch outside live pending =>
      cases draining with
      | destroyed dead => rw [dead] at live; cases live
      | queued live' lingers represents output wanted reads =>
          cases live.symm.trans live'
          by_cases writes : watched.fde.events &&& fdeWrite = 0
          · exact not_write outside alone live lingers represents output wanted writes
              fun read => reads read writes
          · exact write outside alone live lingers represents output wanted writes
  | other step outside not_mine =>
      obtain ⟨alone', sockets, output⟩ := Passes.step not_mine watched.server outside alone
      refine ⟨?_, alone'⟩
      cases draining with
      | destroyed dead whole => exact .destroyed (sockets.trans dead) (by rwa [output])
      | queued live lingers represents whole wanted reads =>
          exact .queued (sockets.trans live) lingers represents (by rwa [output]) wanted reads

theorem Draining.run (draining : Draining a target watched) (alone : Alone a watched.server)
    (run : Relation.ReflTransGen (DrainStep a) watched watched') :
    Draining a target watched' ∧ Alone a watched'.server := by
  induction run with
  | refl => exact ⟨draining, alone⟩
  | tail _ last induction => exact induction.1.step induction.2 last

/-! ## From the close on -/

/-- The server and the `fdevent` of a socket that has just been closed. -/
def Watched.closed (fde : Fdevent) (server : Server) (a : Nat) : Watched :=
  { server, fde := tell fde (server.sockets a) }

theorem wanted_set (fde : Fdevent) (mask : EventMask) : (fde.set mask).wanted = mask := by
  unfold Fdevent.set Fdevent.want
  split
  · assumption
  · split <;> rfl

theorem reported_set {fde : Fdevent} (reported : fde.pending = true ↔ fde.events ≠ 0)
    (mask : EventMask) : (fde.set mask).pending = true ↔ (fde.set mask).events ≠ 0 := by
  unfold Fdevent.set Fdevent.want
  split
  · exact reported
  · split
    · exact decide_eq_true_iff
    · exact reported

/-- A socket that is closed while packets are queued goes to the closing list with them. -/
theorem lingers_of_closes {server closed : Server} {gone : Nat → Prop}
    {packets : List (List UInt8)} (consistent : Consistent server)
    (closes : Closes server closed gone) (gone_a : gone a) (live : server.sockets a = some s)
    (isLocal : s.kind = .localSocket) (represents : s.queue.Represents packets)
    (queued : packets ≠ []) (stillOpen : s.closing = false) :
    Alone a closed ∧ ∃ s', closed.sockets a = some s' ∧ Lingers s' ∧ s'.queue = s.queue := by
  have waiting : s.queue.first ≠ none := fun empty =>
    queued (represents.first_eq_none_iff.mp empty)
  have writes := (consistent.locals a s live isLocal).write_iff.mpr waiting
  have ended := closes.ended a gone_a
  rw [live] at ended
  cases left : closed.sockets a with
  | none =>
      rw [left] at ended
      cases ended with
      | freed condition =>
          rcases condition s rfl isLocal with closing | empty
          · rw [stillOpen] at closing
            cases closing
          · exact absurd empty waiting
  | some s' =>
      rw [left] at ended
      obtain ⟨r, same, -, -, -, rfl⟩ := ended.lingering
      cases same
      refine ⟨(consistent.closes closes).alone left isLocal rfl, _, rfl, ?_, rfl⟩
      refine ⟨isLocal, rfl, rfl, rfl, ?_⟩
      simp [Asocket.mask, writes]

/-- An `FDE_READ` by itself destroys a closing socket when the end of the file is read. -/
theorem destroyed_by_read (live : watched.server.sockets a = some s) (lingers : Lingers s)
    (pending : watched.fde.pending = true) (read : watched.fde.events &&& fdeRead ≠ 0)
    (unwritten : watched.fde.events &&& fdeWrite = 0) :
    ∃ watched', Relation.ReflTransGen (DrainStep a) watched watched' ∧
      watched'.server.sockets a = none ∧ watched'.failed = watched.failed ∧
        watched'.server.history = watched.server.history := by
  have after := server_dispatch_of_not_write { reads := [.ended] } live lingers unwritten
  rw [if_pos ⟨read, rfl⟩] at after
  have start : { watched.server with writes := [] }.sockets a = some s := live
  obtain ⟨dead, history, -⟩ := close_of_closing start lingers
  rw [← after] at dead history
  have failed : (watched.dispatch a s { reads := [.ended] }).failed = (watched.failed ||
      decide (watched.fde.events &&& fdeWrite ≠ 0) &&
        decide ((drainLoop (s.queue.fresh + 1) [] s.queue).outcome = .failed)) := rfl
  rw [decide_eq_false (not_not.mpr unwritten), Bool.false_and, Bool.or_false] at failed
  exact ⟨_, .single (.dispatch { reads := [.ended] } live pending), dead, failed, history⟩

/-- A local socket that was closed while packets were queued is destroyed only after all bytes have
been written or `adb_write` failed, exactly when no `FDE_READ` stays pending, or there are no
bytes. -/
theorem closed_socket_drains_iff {server closed rest : Server} {gone : Nat → Prop} {a : Nat}
    {s : Asocket} {packets : List (List UInt8)} {fde : Fdevent} (consistent : Consistent server)
    (closes : Closes server closed gone) (gone_a : gone a) (passes : Passes a closed rest)
    (live : server.sockets a = some s) (isLocal : s.kind = .localSocket)
    (stillOpen : s.closing = false) (represents : s.queue.Represents packets)
    (queued : packets ≠ []) (watches : Watches fde s) :
    (∀ watched, Relation.ReflTransGen (DrainStep a) (.closed fde rest a) watched →
      watched.server.sockets a = none →
        watched.failed = true ∨
          (watched.server.history a).output = (server.history a).output ++ packets.flatten) ↔
      ¬ReadStays fde ∨ packets.flatten = [] := by
  obtain ⟨alone, s', left, lingers, queue⟩ := lingers_of_closes consistent closes gone_a live
    isLocal represents queued stillOpen
  obtain ⟨alone', sockets, output⟩ := passes alone
  rw [left] at sockets
  rw [closes.history] at output
  have writes : s.wantWrite = true := (consistent.locals a s live isLocal).write_iff.mpr
    fun empty => queued (represents.first_eq_none_iff.mp empty)
  have told : (Watched.closed fde rest a).fde = fde.set fdeWrite := by
    rw [Watched.closed, sockets, tell, lingers.mask]
  rw [readStays_iff watches writes, ← told]
  constructor
  · intro drains
    by_contra stays
    obtain ⟨⟨read, unwritten⟩, bytes⟩ : _ ∧ packets.flatten ≠ [] := by
      rwa [not_or, not_not] at stays
    have pending : (Watched.closed fde rest a).fde.pending = true := by
      rw [told] at read ⊢
      refine (reported_set watches.reported fdeWrite).mpr fun nothing => read ?_
      rw [nothing]
      exact BitVec.zero_and
    obtain ⟨watched, run, dead, failed, history⟩ :=
      destroyed_by_read sockets lingers pending read unwritten
    rcases drains watched run dead with failure | whole
    · rw [failed] at failure
      cases failure
    · have before : ((Watched.closed fde rest a).server.history a).output =
          (server.history a).output := output
      rw [history, before, List.self_eq_append_right] at whole
      exact bytes whole
  · intro stays watched run dead
    have first :
        Draining a ((server.history a).output ++ packets.flatten) (.closed fde rest a) := by
      refine .queued sockets lingers (queue ▸ represents) (congrArg (· ++ _) output) ?_ ?_
      · rw [told]
        exact wanted_set fde fdeWrite
      · intro read unwritten
        exact stays.resolve_left fun unstayed => unstayed ⟨read, unwritten⟩
    cases (first.run alone' run).1 with
    | queued live => rw [dead] at live; cases live
    | destroyed _ whole => exact whole

/-- The local socket of `backlog`: the byte could not be written. -/
def backlogged : Asocket :=
  { kind := .localSocket
    id := 1
    peer := some 1
    queue := LinkedQueue.empty.push [42]
    wantRead := true
    wantWrite := true }

theorem sockets_backlog : (Server.run backlog).sockets 0 = some backlogged := by
  with_unfolding_all rfl

theorem reachable_backlog : Reachable ServerStep Server.start (Server.run backlog) :=
  reachable_run (by simp [backlog, Step.Allowed])

theorem closes_backlog : Closes (Server.run backlog) ((Server.run backlog).close 0)
    (fun c => c = 0 ∨ backlogged.peer = some c) :=
  closes_close (consistent_of_reachable reachable_backlog) sockets_backlog

/-- An `fdevent` that wants to read and write, with events pending. -/
def armed (events : EventMask) : Fdevent :=
  { wanted := 3, active := true, pending := true, events }

theorem represents_backlogged : backlogged.queue.Represents [[42]] :=
  LinkedQueue.represents_empty.push [42]

/-- What is left of the socket after the close. -/
def lingering : Asocket :=
  { kind := .localSocket, closing := true, queue := LinkedQueue.empty.push [42], wantWrite := true }

/-- The socket was closed while only `FDE_WRITE` was pending, and can be written to again. -/
def writable : Watched :=
  let closed := Watched.closed (armed fdeWrite) ((Server.run backlog).close 0) 0
  { closed with
    fde := { closed.fde with pending := true, events := closed.fde.events ||| fdeWrite } }

/-- The byte is written before the socket is destroyed. -/
theorem closed_socket_drains_iff_backlog :
    ((writable.dispatch 0 lingering { writes := [.wrote 0] }).server.history 0).output =
      ((Server.run backlog).history 0).output ++ [42] := by
  have live : (Watched.closed (armed fdeWrite) ((Server.run backlog).close 0) 0).server.sockets 0 =
      some lingering := by with_unfolding_all rfl
  have drains := (closed_socket_drains_iff (consistent_of_reachable reachable_backlog)
    closes_backlog (.inl rfl) (Passes.refl 0 _) sockets_backlog rfl rfl represents_backlogged
    (by decide) (show Watches (armed fdeWrite) backlogged from ⟨rfl, by decide⟩)).mpr
      (.inl (by simp [ReadStays, armed, fdeRead, fdeWrite]))
  have reported :
      DrainStep 0 (.closed (armed fdeWrite) ((Server.run backlog).close 0) 0) writable :=
    .report live (show fdeWrite ≠ 0 by decide) (by with_unfolding_all decide)
  have written := (Relation.ReflTransGen.single reported).tail
    (.dispatch { writes := [.wrote 0] } live rfl)
  refine (drains _ written ?_).resolve_left ?_
  · exact Option.isNone_iff_eq_none.mp (by with_unfolding_all decide)
  · with_unfolding_all decide

/-- Both events are pending when the socket is closed.  The `FDE_READ` that is not wanted any more
stays, and at the end of the file the socket is destroyed with the byte in its queue. -/
theorem closed_socket_not_drains :
    Reachable ServerStep Server.start (Server.run backlog) ∧ Watches (armed 3) backlogged ∧
      ∃ watched, Relation.ReflTransGen (DrainStep 0)
          (.closed (armed 3) ((Server.run backlog).close 0) 0) watched ∧
        watched.server.sockets 0 = none ∧ watched.failed = false ∧
          (watched.server.history 0).output ≠ ((Server.run backlog).history 0).output ++ [42] := by
  refine ⟨reachable_backlog, ⟨rfl, by decide⟩, ?_⟩
  obtain ⟨-, s, left, lingers, -⟩ := lingers_of_closes (consistent_of_reachable reachable_backlog)
    closes_backlog (.inl rfl) sockets_backlog rfl represents_backlogged (by decide) rfl
  have told : (Watched.closed (armed 3) ((Server.run backlog).close 0) 0).fde =
      (armed 3).set fdeWrite := by
    rw [Watched.closed, left, tell, lingers.mask]
  have live : (Watched.closed (armed 3) ((Server.run backlog).close 0) 0).server.sockets 0 =
      some s := left
  obtain ⟨watched, run, dead, failed, history⟩ := destroyed_by_read live lingers
    (by rw [told]; decide) (by rw [told]; decide) (by rw [told]; decide)
  refine ⟨watched, run, dead, failed, ?_⟩
  have before : (watched.server.history 0).output = ((Server.run backlog).history 0).output := by
    rw [history]
    exact congrArg (fun history => (history 0).output) closes_backlog.history
  rw [before, ne_eq, List.self_eq_append_right]
  decide

end Sockets
end AdbWide
