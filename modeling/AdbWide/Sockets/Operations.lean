import AdbWide.Sockets.Invariant

/-!
# The operations as effects

Each function of the socket layer that is called outside `handle_packet` is a sequence of effects
when it starts in a consistent state.
-/

namespace AdbWide
namespace Sockets

/-! ## The loops over `adb_write` -/

/-- What was written and what is left make up the packet, and the loop is done exactly when nothing
is left. -/
theorem writeLoop_spec (retry : Bool) (writes : List WriteResult) (packet : List UInt8) :
    (writeLoop retry writes packet).written ++ (writeLoop retry writes packet).rest = packet ∧
      ((writeLoop retry writes packet).outcome = .done ↔
        (writeLoop retry writes packet).rest = []) := by
  induction writes generalizing packet with
  | nil =>
      cases packet with
      | nil => simp [writeLoop]
      | cons byte bytes => simp [writeLoop]
  | cons result writes induction =>
      cases packet with
      | nil => simp [writeLoop]
      | cons byte bytes =>
          cases result with
          | wrote more =>
              obtain ⟨parts, done_iff⟩ := induction ((byte :: bytes).drop (more + 1))
              refine ⟨?_, done_iff⟩
              simp only [writeLoop, List.append_assoc, parts]
              exact List.take_append_drop (more + 1) (byte :: bytes)
          | again => simp [writeLoop]
          | interrupted =>
              cases retry with
              | true => simpa [writeLoop] using induction (byte :: bytes)
              | false => simp [writeLoop]
          | failed => simp [writeLoop]

/-- What was written and what is left make up the packets, and the loop is done exactly when the
queue is empty. -/
theorem drainLoop_spec {rounds : Nat} {packets : List (List UInt8)}
    (writes : List WriteResult) {queue : LinkedQueue (List UInt8)}
    (represents : queue.Represents packets) (enough : packets.length < rounds) :
    ∃ packets', (drainLoop rounds writes queue).queue.Represents packets' ∧
      packets.flatten = (drainLoop rounds writes queue).written ++ packets'.flatten ∧
      ((drainLoop rounds writes queue).outcome = .done ↔ packets' = []) := by
  induction rounds generalizing packets writes queue with
  | zero => omega
  | succ rounds induction =>
      cases packets with
      | nil =>
          have front : queue.front = none := represents.front_eq
          exact ⟨[], by simpa [drainLoop, front] using represents, by simp [drainLoop, front],
            by simp [drainLoop, front]⟩
      | cons packet packets =>
          have front : queue.front = some packet := represents.front_eq
          obtain ⟨parts, done_iff⟩ := writeLoop_spec true writes packet
          simp only [drainLoop, front]
          generalize writeLoop true writes packet = loop at parts done_iff
          obtain ⟨written, rest, outcome, writes'⟩ := loop
          simp only at parts done_iff
          cases outcome with
          | done =>
              have nothing := done_iff.mp rfl
              subst nothing
              rw [List.append_nil] at parts
              obtain ⟨packets', represents', flat, done_iff'⟩ :=
                induction writes' represents.pop (by simpa using enough)
              refine ⟨packets', represents', ?_, done_iff'⟩
              simp [flat, parts]
          | again =>
              exact ⟨rest :: packets, represents.setFront rest, by simp [← parts], by simp⟩
          | failed =>
              exact ⟨rest :: packets, represents.setFront rest, by simp [← parts], by simp⟩

/-! ## Small operations -/

theorem Effect.once {server server' : Server} (effect : Effect server server') :
    Effects server server' :=
  Relation.ReflTransGen.single effect

theorem effects_quiet {server server' : Server} (same : SameTraffic server server') :
    Effects server server' :=
  (Effect.quiet same).once

theorem effects_writes (server : Server) (writes : List WriteResult) :
    Effects server { server with writes } :=
  effects_quiet (.of_sockets rfl rfl)

theorem effects_writeStatus (server : Server) (a : Nat) (text : List UInt8) :
    Effects server (server.writeStatus a text) :=
  effects_quiet (.of_sockets rfl rfl)

/-- Changing a socket that is not there does nothing. -/
theorem Server.modify_of_none {server : Server} {a : Nat} (dead : server.sockets a = none)
    (change : Asocket → Asocket) : server.modify a change = server := by
  have same : Function.update server.sockets a none = server.sockets := by
    rw [← dead, Function.update_eq_self]
  simp [Server.modify, dead, same]

theorem Server.modify_modify (server : Server) (a : Nat) (first second : Asocket → Asocket) :
    (server.modify a first).modify a second = server.modify a fun s => second (first s) := by
  simp [Server.modify, Function.comp_def]

theorem effects_modify (server : Server) (a : Nat) (change : Asocket → Asocket)
    (adjusts : ∀ s, server.sockets a = some s → Adjusts s (change s)) :
    Effects server (server.modify a change) := by
  cases live : server.sockets a with
  | none =>
      rw [Server.modify_of_none live]
  | some s => exact (Effect.adjust a change live (adjusts s live)).once

theorem effects_endNotify (server : Server) (a : Nat) (text : List UInt8) :
    Effects server (server.endNotify a text) := by
  have ended := effects_modify server a (fun s => { s with notify := false })
    fun _ _ => .of rfl id (by simp) fun _ => rfl
  exact ended.trans (effects_writeStatus _ a text)

theorem effects_close {server : Server} (consistent : Consistent server) (a : Nat) :
    Effects server (server.close a) := by
  cases live : server.sockets a with
  | none =>
      simp only [Server.close, live]
      exact .refl
  | some s => exact (Effect.closes _ (closes_close consistent live)).once

theorem effects_localSocketCloseLocked {server : Server} {a : Nat} {s : Asocket}
    (consistent : Consistent server) (live : server.sockets a = some s)
    (isLocal : s.kind = .localSocket) : Effects server (server.localSocketCloseLocked a) :=
  (Effect.closes _ (closes_localSocketCloseLocked consistent live isLocal)).once

theorem effects_closeAllSocketsLoop {server : Server} (transport rounds : Nat)
    (consistent : Consistent server) :
    Effects server (Server.closeAllSocketsLoop transport rounds server) := by
  induction rounds generalizing server with
  | zero => exact .refl
  | succ rounds induction =>
      simp only [Server.closeAllSocketsLoop]
      split
      · exact .refl
      · rename_i a found
        obtain ⟨s, live, isLocal, _⟩ := consistent.listed a (List.mem_of_find?_eq_some found)
        have closed := effects_localSocketCloseLocked consistent live isLocal
        exact closed.trans (induction (consistent.effects closed))

theorem effects_foldl_close {server : Server} (sockets : List Nat)
    (consistent : Consistent server) :
    Effects server (sockets.foldl Server.close server) := by
  induction sockets generalizing server with
  | nil => exact .refl
  | cons a sockets induction =>
      have closed := effects_close consistent a
      exact closed.trans (induction (consistent.effects closed))

/-! ## Enqueue and ready away from streams -/

/-- `local_socket_enqueue` on a socket that has no stream. -/
theorem effects_localSocketEnqueue {server : Server} {a b : Nat} {s r : Asocket}
    (consistent : Consistent server) (live : server.sockets a = some s)
    (isLocal : s.kind = .localSocket) (peer : s.peer = some b)
    (live_b : server.sockets b = some r) (not_smart : r.kind ≠ .smartSocket)
    (origin : (server.history a).origin = .none) (packet : List UInt8) :
    Effects server (server.localSocketEnqueue a packet).1 := by
  simp only [Server.localSocketEnqueue, live]
  split
  case isTrue => exact (Effect.push a packet live isLocal peer live_b not_smart origin).once
  case isFalse =>
    generalize writeLoop false server.writes packet = loop
    have written : Effects server
        ({ server with writes := loop.writes }.recordOutput a loop.written) :=
      (effects_writes server loop.writes).tail
        (.output a loop.written live isLocal peer live_b not_smart origin)
    cases loop.outcome with
    | done => exact written
    | again =>
        refine written.tail (.push a loop.rest live isLocal peer live_b not_smart ?_)
        rw [Server.origin_recordOutput]
        exact origin
    | failed => exact written.trans (effects_close (consistent.effects written) a)

theorem effects_deviceTrackerSend {server : Server} (consistent : Consistent server) (a : Nat)
    (deviceList : List UInt8) : Effects server (server.deviceTrackerSend a deviceList) := by
  simp only [Server.deviceTrackerSend]
  split
  · exact .refl
  · rename_i s live
    split
    · rename_i tracker peer
      obtain ⟨r, live_r, peer_r⟩ := consistent.symmetric a s _ live peer
      have isLocal := consistent.partner a s _ r live (by simp [tracker]) peer live_r
      have origin := consistent.unstreamed _ r a s live_r isLocal peer_r live (by simp [tracker])
      exact effects_localSocketEnqueue consistent live_r isLocal peer_r live (by simp [tracker])
        origin deviceList
    · exact .refl

theorem effects_updateTransports {server : Server} (consistent : Consistent server)
    (deviceList : List UInt8) : Effects server (server.updateTransports deviceList) := by
  unfold Server.updateTransports
  generalize server.deviceTrackerList = trackers
  induction trackers generalizing server with
  | nil => exact .refl
  | cons a trackers induction =>
      have told := effects_deviceTrackerSend consistent a deviceList
      exact told.trans (induction (consistent.effects told))

/-- `ready` of a socket that has no stream. -/
theorem effects_ready {server : Server} {a b : Nat} {s : Asocket}
    (consistent : Consistent server) (live : server.sockets a = some s)
    (not_remote : s.kind ≠ .remoteSocket) (peer : s.peer = some b)
    (origin : s.kind = .localSocket → (server.history a).origin = .none)
    (deviceList : List UInt8) : Effects server (server.ready a deviceList) := by
  simp only [Server.ready, live]
  cases kind : s.kind with
  | localSocket =>
      have ok := consistent.locals a s live kind
      simp only [ok.unnotified_of_peer peer]
      exact (Effect.wake a live kind peer (origin kind)).once
  | remoteSocket => exact absurd kind not_remote
  | smartSocket => exact .refl
  | deviceTracker =>
      simp only
      split
      · have noted := effects_modify server a
          (fun s => { s with updateNeeded := false })
          fun _ _ => .of rfl id id fun _ => rfl
        exact noted.trans (effects_deviceTrackerSend (consistent.effects noted) a deviceList)
      · exact .refl

/-! ## Events of file descriptors -/

/-- The `FDE_WRITE` part of `local_socket_event_func`. -/
theorem effects_eventWrite {server : Server} {a : Nat} {s : Asocket}
    (consistent : Consistent server) (live : server.sockets a = some s)
    (isLocal : s.kind = .localSocket) (wanted : s.wantWrite = true) (deviceList : List UInt8) :
    Effects server (server.eventWrite a s deviceList).1 := by
  have ok := consistent.locals a s live isLocal
  have queued := ok.write_iff.mp wanted
  obtain ⟨packets, represents⟩ := ok.represents
  have nonempty : packets ≠ [] := by
    rintro rfl
    exact queued (represents.first_eq_none_iff.mpr rfl)
  obtain ⟨packets', represents', flat, done_iff⟩ := drainLoop_spec server.writes represents
    (Nat.lt_succ_of_le represents.length_le)
  simp only [Server.eventWrite]
  generalize drainLoop (s.queue.fresh + 1) server.writes s.queue
    = drain at represents' flat done_iff
  obtain ⟨queue, written, outcome, writes⟩ := drain
  simp only at represents' flat done_iff ⊢
  have used := effects_writes server writes
  have part : packets' ≠ [] → Effects server
      (({ server with writes }.recordOutput a written).modify a fun s => { s with queue }) :=
    fun nonempty' => used.tail
      (.drainSome a queue written live isLocal represents represents' nonempty nonempty' flat)
  cases outcome with
  | again => exact part fun empty => absurd (done_iff.mpr empty) (by simp)
  | failed =>
      have some_left := part fun empty => absurd (done_iff.mpr empty) (by simp)
      exact some_left.trans (effects_close (consistent.effects some_left) a)
  | done =>
      have nothing := done_iff.mp rfl
      subst nothing
      rw [List.flatten_nil, List.append_nil] at flat
      subst flat
      simp only
      split
      case isTrue closing =>
        have unpeered := (ok.closing_listed closing).2.2.1
        have silent := ok.unnotified queued
        have destroyed := used.tail (Effect.drainLast a live isLocal closing represents)
        convert destroyed using 1
        simp only [Server.close, Server.localSocketCloseLocked, Server.finishClose,
          Server.sockets_modify_self, Server.recordOutput, Server.record, live, Option.map_some,
          isLocal, silent, unpeered, closing]
        simp [Server.removeSocket, Server.free, Server.modify]
      case isFalse =>
        have stillOpen : s.closing = false := by simpa using ‹¬s.closing = true›
        obtain ⟨b, peer⟩ := Option.ne_none_iff_exists'.mp (ok.owned stillOpen queued)
        obtain ⟨r, live_b, peer_b⟩ := consistent.symmetric a s b live peer
        have different := consistent.ne_peer live peer
        simp only [peer, Server.modify_modify]
        by_cases remote : r.kind = .remoteSocket
        · obtain ⟨transport, on⟩ := consistent.remote_transport b r live_b remote
          have answered := used.tail (Effect.drainAnswer a queue live isLocal peer live_b remote on
            represents nonempty represents')
          convert answered using 1
          simp [Server.ready, Server.modify, Server.recordOutput, Server.record, Server.peerId,
            different.symm, live, live_b, peer_b, remote, on]
        · have drained := used.tail (Effect.drainAll a queue live isLocal peer live_b remote
            represents represents')
          refine drained.trans (effects_ready (consistent.effects drained) ?_ remote peer_b ?_ _)
          · simp [Server.recordOutput, Server.record, Server.modify, different.symm, live_b]
          · intro isLocal_b
            rw [Server.origin_recordOutput]
            exact consistent.unstreamed b r a s live_b isLocal_b peer_b live (by simp [isLocal])

theorem localSocketEnqueue_wantRead {server : Server} {a : Nat} {s s' : Asocket}
    (consistent : Consistent server) (live : server.sockets a = some s)
    (unqueued : s.queue.first = none) (packet : List UInt8)
    (live' : (server.localSocketEnqueue a packet).1.sockets a = some s') :
    s'.kind = s.kind ∧ s'.wantRead = s.wantRead := by
  simp only [Server.localSocketEnqueue, live, unqueued, Option.isSome_none, Bool.false_eq_true,
    if_false] at live'
  generalize writeLoop false server.writes packet = loop at live'
  obtain ⟨written, rest, outcome, writes⟩ := loop
  have recorded : Consistent ({ server with writes }.recordOutput a written) :=
    consistent.congr (.of rfl (Server.origin_recordOutput _ a written))
  have still : ({ server with writes }.recordOutput a written).sockets a = some s := live
  cases outcome with
  | done =>
      simp only [still, Option.some.injEq] at live'
      rw [← live']
      exact ⟨rfl, rfl⟩
  | again =>
      simp only [Server.enqueuePacket, Server.sockets_modify_self, still, Option.map_some,
        Option.some.injEq] at live'
      rw [← live']
      exact ⟨rfl, rfl⟩
  | failed =>
      have ended := (closes_close recorded still).ended a (.inl rfl)
      simp only at live'
      rw [live', still] at ended
      obtain ⟨r, same, _, _, queued, _⟩ := ended.lingering
      cases same
      exact absurd unqueued queued

/-- When `local_socket_event_func` goes on after writing, the socket is not closing. -/
theorem eventWrite_goesOn {server : Server} {a : Nat} {s : Asocket} (deviceList : List UInt8)
    (goesOn : (server.eventWrite a s deviceList).2 = true) : s.closing = false := by
  simp only [Server.eventWrite] at goesOn
  split at goesOn
  · cases goesOn
  · cases goesOn
  · split at goesOn
    · cases goesOn
    · next stillOpen => simpa using stillOpen

/-- When `local_socket_event_func` goes on after writing, the socket wants to read if it did. -/
theorem eventWrite_wantRead {server : Server} {a : Nat} {s s' : Asocket}
    (consistent : Consistent server) (live : server.sockets a = some s)
    (isLocal : s.kind = .localSocket) (wanted : s.wantWrite = true) (deviceList : List UInt8)
    (goesOn : (server.eventWrite a s deviceList).2 = true)
    (live' : (server.eventWrite a s deviceList).1.sockets a = some s') :
    s'.kind = .localSocket ∧ s'.wantRead = s.wantRead := by
  have ok := consistent.locals a s live isLocal
  have queued := ok.write_iff.mp wanted
  obtain ⟨packets, represents⟩ := ok.represents
  obtain ⟨packets', represents', _, done_iff⟩ := drainLoop_spec server.writes represents
    (Nat.lt_succ_of_le represents.length_le)
  simp only [Server.eventWrite] at goesOn live'
  generalize drainLoop (s.queue.fresh + 1) server.writes s.queue = drain
    at represents' done_iff goesOn live'
  obtain ⟨queue, written, outcome, writes⟩ := drain
  cases outcome with
  | again => simp at goesOn
  | failed => simp at goesOn
  | done =>
      have nothing := done_iff.mp rfl
      subst nothing
      have unqueued : queue.first = none := represents'.first_eq_none_iff.mpr rfl
      simp only at goesOn live'
      split at live'
      case isTrue closing => simp [closing] at goesOn
      case isFalse =>
        have stillOpen : s.closing = false := by simpa using ‹¬s.closing = true›
        obtain ⟨b, peer⟩ := Option.ne_none_iff_exists'.mp (ok.owned stillOpen queued)
        obtain ⟨r, live_b, peer_b⟩ := consistent.symmetric a s b live peer
        have different := consistent.ne_peer live peer
        simp only [peer, Server.modify_modify] at live'
        have still : (({ server with writes }.recordOutput a written).modify a fun s =>
            { s with queue, wantWrite := false }).sockets a =
              some { s with queue, wantWrite := false } := by
          simp [Server.recordOutput, Server.record, live]
        have drained : Consistent (({ server with writes }.recordOutput a written).modify a
            fun s => { s with queue, wantWrite := false }) := by
          exact consistent.requeue live isLocal (Server.sockets_modify live) (.of rfl)
            (Server.origin_recordOutput _ a written) ⟨rfl, rfl, rfl⟩ rfl id .inl
            ⟨_, represents'⟩ (by simp [unqueued]) (by simp [unqueued]) (by simp [stillOpen])
        have still_b : (({ server with writes }.recordOutput a written).modify a fun s =>
            { s with queue, wantWrite := false }).sockets b = some r := by
          simp [Server.recordOutput, Server.record, Server.modify, different.symm, live_b]
        generalize ({ server with writes }.recordOutput a written).modify a (fun s =>
            { s with queue, wantWrite := false }) = middle at live' still drained still_b
        simp only [Server.ready, still_b] at live'
        cases kind : r.kind with
        | localSocket =>
            have silent := (consistent.locals b r live_b kind).unnotified_of_peer peer_b
            simp only [kind, silent, Bool.false_eq_true, if_false,
              Server.sockets_modify_of_ne different, still, Option.some.injEq] at live'
            rw [← live']
            exact ⟨isLocal, rfl⟩
        | remoteSocket =>
            obtain ⟨transport, on⟩ := consistent.remote_transport b r live_b kind
            simp only [kind, on, Server.sendPacket, still, Option.some.injEq] at live'
            rw [← live']
            exact ⟨isLocal, rfl⟩
        | smartSocket =>
            simp only [kind, still, Option.some.injEq] at live'
            rw [← live']
            exact ⟨isLocal, rfl⟩
        | deviceTracker =>
            simp only [kind] at live'
            split at live'
            · simp only [Server.deviceTrackerSend, Server.sockets_modify_self, still_b,
                Option.map_some, kind, peer_b] at live'
              have noted := effects_modify middle b
                (fun s => { s with updateNeeded := false })
                fun _ _ => .of rfl id id fun _ => rfl
              obtain ⟨kind_eq, read_eq⟩ := localSocketEnqueue_wantRead (drained.effects noted)
                (by rw [Server.sockets_modify_of_ne different]; exact still) unqueued _ live'
              exact ⟨kind_eq.trans isLocal, read_eq⟩
            · simp only [still, Option.some.injEq] at live'
              rw [← live']
              exact ⟨isLocal, rfl⟩

/-! ## Requests of clients -/

/-- The socket that is made for a service of the host. -/
def serviceSocket (server : Server) (kind : Kind) : Asocket :=
  if kind = .deviceTracker then { kind := .deviceTracker, updateNeeded := true }
  else { kind := .localSocket, id := server.localSocketNextId }

theorem serviceSocket_kind (server : Server) (kind : Kind) :
    (serviceSocket server kind).kind = .deviceTracker ∨
      (serviceSocket server kind).kind = .localSocket := by
  rw [serviceSocket]
  split
  · exact .inl rfl
  · exact .inr rfl

/-- `connect_to_host_service` up to the call of `ready`: the client has the service for its peer,
and the smart socket is gone. -/
theorem connectToHostService_spec {server : Server} {a b : Nat} {r s : Asocket}
    (consistent : Consistent server) (live : server.sockets a = some s)
    (live_b : server.sockets b = some r) (smart : r.kind = .smartSocket) (peer_b : r.peer = some a)
    (kind : Kind) (deviceList : List UInt8) :
    ∃ joined, server.connectToHostService b a kind deviceList =
        joined.ready server.fresh deviceList ∧ Effects server joined ∧
      joined.sockets a = some { s with notify := false, peer := some server.fresh } ∧
      joined.sockets server.fresh = some { serviceSocket server kind with peer := some a } ∧
      joined.writes = server.writes ∧ server.localSocketList ⊆ joined.localSocketList ∧
      ((serviceSocket server kind).kind = .localSocket →
        (joined.history server.fresh).origin = .none) := by
  obtain ⟨s', live', peer⟩ := consistent.symmetric b r a live_b peer_b
  obtain rfl := Option.some.inj (live.symm.trans live')
  have isLocal := consistent.partner b r a s live_b (by simp [smart]) peer_b live
  have absent := consistent.unallocated server.fresh (Nat.le_refl _)
  have a_ne : a ≠ server.fresh := by
    rintro rfl
    rw [absent] at live
    cases live
  have b_ne : b ≠ server.fresh := by
    rintro rfl
    rw [absent] at live_b
    cases live_b
  have a_ne_b := consistent.ne_peer live peer
  simp only [Server.connectToHostService]
  -- The socket of the service, whichever it is.
  have created : ∃ created, (if kind = .deviceTracker then server.createDeviceTracker
      else server.createLocalSocket) = created ∧ Effects server created ∧
      created.sockets a = some s ∧ created.sockets b = some r ∧
      created.sockets server.fresh = some (serviceSocket server kind) ∧
      created.writes = server.writes ∧ server.localSocketList ⊆ created.localSocketList ∧
      ((serviceSocket server kind).kind = .localSocket →
        (created.history server.fresh).origin = .none) := by
    refine ⟨_, rfl, ?_⟩
    rw [serviceSocket]
    split
    · refine ⟨?_, ?_, ?_, by simp [Server.createDeviceTracker], rfl, fun _ => id, by simp⟩
      · refine (Effect.createOther { kind := .deviceTracker, updateNeeded := true } (by simp)
          (by simp) rfl rfl).once.tail (.quiet ?_)
        exact .of_sockets rfl rfl
      · simp [Server.createDeviceTracker, a_ne, live]
      · simp [Server.createDeviceTracker, b_ne, live_b]
    · refine ⟨Effect.createLocal.once, ?_, ?_, by simp [Server.createLocalSocket], rfl,
        List.subset_append_left _ _, by simp [Server.createLocalSocket]⟩
      · simp [Server.createLocalSocket, a_ne, live]
      · simp [Server.createLocalSocket, b_ne, live_b]
  obtain ⟨created, created_eq, made, live₁, live_b₁, live_q, writes, listed, origin⟩ := created
  rw [created_eq]
  have service : (serviceSocket server kind).peer = none ∧
      ((serviceSocket server kind).kind = .deviceTracker ∨
        (serviceSocket server kind).kind = .localSocket ∧
          (serviceSocket server kind).closing = false ∧
          (serviceSocket server kind).notify = false ∧
          (created.history server.fresh).origin = .none) := by
    rw [serviceSocket] at origin ⊢
    split
    · exact ⟨rfl, .inl rfl⟩
    · next other =>
        rw [if_neg other] at origin
        exact ⟨rfl, .inr ⟨rfl, rfl, rfl, origin rfl⟩⟩
  have told := made.trans (effects_endNotify created a Server.okayText)
  have live₂ : (created.endNotify a Server.okayText).sockets a =
      some { s with notify := false } := by
    simp [Server.endNotify, Server.writeStatus, live₁]
  have others₂ : ∀ c, c ≠ a → (created.endNotify a Server.okayText).sockets c =
      created.sockets c := by
    intro c different
    simp [Server.endNotify, Server.writeStatus, Server.modify, different]
  have history₂ : (created.endNotify a Server.okayText).history = created.history := rfl
  have rest₂ : (created.endNotify a Server.okayText).writes = created.writes ∧
      (created.endNotify a Server.okayText).localSocketList = created.localSocketList :=
    ⟨rfl, rfl⟩
  generalize created.endNotify a Server.okayText = middle at told live₂ others₂ history₂ rest₂
  have live_b₂ : middle.sockets b = some r := by rw [others₂ b a_ne_b.symm, live_b₁]
  have live_q₂ : middle.sockets server.fresh = some (serviceSocket server kind) := by
    rw [others₂ _ a_ne.symm, live_q]
  have switched := told.tail (Effect.switch a b server.fresh live₂ isLocal peer live_b₂ smart
    live_q₂ service.1 (by rw [history₂]; exact service.2))
  have closed : ((middle.link a server.fresh).clearPeer b).close b =
      (middle.link a server.fresh).free b := by
    simp [Server.close, Server.closeUnpeered, Server.clearPeer, Server.link, Server.modify,
      Server.free, b_ne, a_ne_b.symm, live_b₂, smart]
  refine ⟨_, by rw [closed], switched, ?_, ?_, ?_, ?_, ?_⟩
  · simp [Server.free, Server.link, Server.modify, a_ne, a_ne_b, live₂]
  · simp [Server.free, Server.link, Server.modify, b_ne.symm, a_ne.symm, live_q₂]
  · exact rest₂.1.trans writes
  · have list : ((middle.link a server.fresh).free b).localSocketList = middle.localSocketList :=
      rfl
    rw [list, rest₂.2]
    exact listed
  · intro isLocal_q
    have kept : ((middle.link a server.fresh).free b).history = middle.history := rfl
    rw [kept, history₂]
    exact origin isLocal_q

theorem effects_connectToHostService {server : Server} {a b : Nat} {r : Asocket}
    (consistent : Consistent server) (live_b : server.sockets b = some r)
    (smart : r.kind = .smartSocket) (peer_b : r.peer = some a) (kind : Kind)
    (deviceList : List UInt8) :
    Effects server (server.connectToHostService b a kind deviceList) := by
  obtain ⟨s, live, -⟩ := consistent.symmetric b r a live_b peer_b
  obtain ⟨joined, connected, effects, -, live_q, -, -, origin⟩ :=
    connectToHostService_spec consistent live live_b smart peer_b kind deviceList
  rw [connected]
  refine effects.trans (effects_ready (consistent.effects effects) live_q ?_ rfl
    (fun isLocal => origin isLocal) deviceList)
  rcases serviceSocket_kind server kind with tracker | isLocal
  · simp [tracker]
  · simp [isLocal]

/-- The client wants to read no more when `connect_to_remote` has been called for it. -/
theorem effects_connectToTransport {server : Server} {a b : Nat} {r : Asocket}
    (consistent : Consistent server) (live_b : server.sockets b = some r)
    (smart : r.kind = .smartSocket) (peer_b : r.peer = some a) (transport : Nat)
    (destination : List UInt8) :
    Effects server ((server.connectToTransport b a transport destination).modify a
      fun s => { s with wantRead := false }) := by
  obtain ⟨s, live, peer⟩ := consistent.symmetric b r a live_b peer_b
  have isLocal := consistent.partner b r a s live_b (by simp [smart]) peer_b live
  have a_ne_b := consistent.ne_peer live peer
  have opened := (Effect.openClient a b transport (destination ++ [0]) live isLocal peer live_b
    smart).once
  convert opened using 1
  simp only [Server.connectToTransport, Server.connectToRemote, Server.sockets_modify_self, live,
    Option.map_some]
  simp [Server.close, Server.closeUnpeered, Server.clearPeer, Server.openStream, Server.record,
    Server.sendPacket, Server.modify, Server.free, a_ne_b, a_ne_b.symm, live, live_b, smart,
    Function.update_comm a_ne_b.symm]

/-- What a smart socket does with a packet of its client: a sequence of effects, of which the
client's not reading any more is a part when `connect_to_remote` was called. -/
def Answers (server : Server) (a : Nat) (result : Server × Int) : Prop :=
  Effects server result.1 ∨
    result.2 = 1 ∧ Effects server (result.1.modify a fun s => { s with wantRead := false })

theorem answers_handleRequest {server : Server} {a b : Nat} {r s : Asocket}
    (consistent : Consistent server) (live_b : server.sockets b = some r)
    (smart : r.kind = .smartSocket) (peer_b : r.peer = some a) (peer_s : s.peer = some a)
    (text : List UInt8) (outside : Outside) :
    Answers server a (server.handleRequest b s text outside) := by
  have refused : ∀ status, Effects server ((server.writeStatus a status).close b) := by
    intro status
    have told := effects_writeStatus server a status
    exact told.trans (effects_close (consistent.effects told) b)
  simp only [Server.handleRequest, peer_s]
  cases Server.hostService text with
  | some service =>
      simp only
      split
      · exact .inl (effects_close consistent b)
      · split
        · exact .inl (effects_modify server b _ fun s live =>
            .of rfl id id (by
              rw [live_b] at live
              cases live
              simp [smart]))
        · cases Server.hostServiceKind service with
          | none => exact .inl (refused _)
          | some kind =>
              exact .inl (effects_connectToHostService consistent live_b smart peer_b kind _)
  | none =>
      cases s.transport with
      | none => exact .inl (refused _)
      | some transport =>
          simp only
          split
          · exact .inl (refused _)
          · exact .inr ⟨rfl, effects_connectToTransport consistent live_b smart peer_b transport
              text⟩

theorem answers_smartSocketEnqueue {server : Server} {a b : Nat} {r : Asocket}
    (consistent : Consistent server) (live_b : server.sockets b = some r)
    (smart : r.kind = .smartSocket) (peer_b : r.peer = some a) (packet : List UInt8)
    (outside : Outside) :
    Answers server a (server.smartSocketEnqueue b r packet outside) := by
  have kept : ∀ request, Effects server (server.modify b fun s => { s with request }) :=
    fun request => effects_modify server b _ fun _ _ =>
      .of rfl id id fun _ => rfl
  simp only [Server.smartSocketEnqueue]
  split
  · exact .inl (effects_close consistent b)
  · specialize kept (r.request ++ packet)
    have live' : (server.modify b fun s => { s with request := r.request ++ packet }).sockets b =
        some { r with request := r.request ++ packet } := by
      simp [live_b]
    have consistent' := consistent.effects kept
    generalize (server.modify b fun s => { s with request := r.request ++ packet }) = middle
      at kept live' consistent'
    split
    · exact .inl kept
    · split
      · exact .inl (kept.trans (effects_close consistent' b))
      · split
        · exact .inl kept
        · have answered := answers_handleRequest consistent' live' smart peer_b peer_b
            (Server.cString (((r.request ++ packet).drop 4).take
              (Server.unhex ((r.request ++ packet).take 4)))) outside
          rcases answered with effects | ⟨code, effects⟩
          · exact .inl (kept.trans effects)
          · exact .inr ⟨code, kept.trans effects⟩

/-! ## Reading -/

theorem effects_record_nil (server : Server) (a : Nat) :
    Effects server (server.record a fun h => { h with input := h.input ++ [] }) := by
  refine effects_quiet ⟨rfl, rfl, rfl, rfl, rfl, ?_, rfl, rfl, rfl, fun _ => rfl, fun _ _ => id⟩
  simp [Server.record]

theorem effects_unread (server : Server) (a : Nat) :
    Effects server (server.modify a fun s => { s with wantRead := false }) :=
  effects_modify server a _ fun _ _ => .of rfl (by simp) id fun _ => rfl

/-- The end of the `FDE_READ` part of `local_socket_event_func`, after the data was taken. -/
theorem effects_afterEnqueue {server : Server} {a : Nat} {result : Server × Int}
    (consistent : Consistent server) (answers : Answers server a result) (closes : Prop)
    [Decidable closes] :
    Effects server
      (if result.2 < 0 then result.1
      else
        if closes then
          (if 0 < result.2 then result.1.modify a fun s => { s with wantRead := false }
            else result.1).close a
        else
          if 0 < result.2 then result.1.modify a fun s => { s with wantRead := false }
          else result.1) := by
  have done : 0 ≤ result.2 → Effects server
      (if 0 < result.2 then result.1.modify a fun s => { s with wantRead := false }
        else result.1) := by
    intro nonnegative
    rcases answers with effects | ⟨one, effects⟩
    · split
      · exact effects.trans (effects_unread result.1 a)
      · exact effects
    · rw [if_pos (by omega)]
      exact effects
  split
  case isTrue negative =>
    rcases answers with effects | ⟨one, _⟩
    · exact effects
    · omega
  case isFalse nonnegative =>
    have read := done (by omega)
    split
    · exact read.trans (effects_close (consistent.effects read) a)
    · exact read

/-- The `FDE_READ` part of `local_socket_event_func` for a socket without a peer. -/
theorem effects_eventRead_unpeered {server : Server} {a : Nat} {s : Asocket}
    (consistent : Consistent server) (live : server.sockets a = some s) (unpeered : s.peer = none)
    (outside : Outside) : Effects server (server.eventRead a outside) := by
  simp only [Server.eventRead, live, unpeered]
  split
  · exact effects_close consistent a
  · exact .refl

/-- The `FDE_READ` part of `local_socket_event_func`. -/
theorem effects_eventRead {server : Server} {a : Nat} (consistent : Consistent server)
    (wanted : ∀ s, server.sockets a = some s → s.kind = .localSocket ∧ s.wantRead = true)
    (outside : Outside) : Effects server (server.eventRead a outside) := by
  cases live : server.sockets a with
  | none =>
      simp only [Server.eventRead, live]
      exact .refl
  | some s =>
      obtain ⟨isLocal, reads⟩ := wanted s live
      have ok := consistent.locals a s live isLocal
      have peered : s.peer ≠ none := by
        intro unpeered
        rw [ok.idle unpeered] at reads
        cases reads
      obtain ⟨b, peer⟩ := Option.ne_none_iff_exists'.mp peered
      obtain ⟨r, live_b, peer_b⟩ := consistent.symmetric a s b live peer
      have different := consistent.ne_peer live peer
      simp only [Server.eventRead, live, peer]
      generalize readLoop outside.reads maxPayload = read
      obtain ⟨data, ended⟩ := read
      cases data with
      | nil =>
          have nothing := effects_record_nil server a
          simp only
          split
          · exact nothing.trans (effects_close (consistent.effects nothing) a)
          · exact nothing
      | cons byte bytes =>
          simp only
          generalize byte :: bytes = data
          by_cases remote : r.kind = .remoteSocket
          · obtain ⟨transport, on⟩ := consistent.remote_transport b r live_b remote
            have sent := (Effect.readSend a data live isLocal peer live_b remote on reads).once
            have enqueued : (server.record a fun h =>
                { h with input := h.input ++ data }).enqueue b data outside =
                  ((server.record a fun h => { h with input := h.input ++ data }).sendPacket
                    transport ⟨.wrte, s.id, r.id, data⟩, 1) := by
              simp [Server.enqueue, Server.record, Server.peerId, live_b, remote, on, peer_b, live]
            rw [enqueued]
            exact effects_afterEnqueue consistent (.inr ⟨rfl, sent⟩) _
          · have origin := consistent.unstreamed a s b r live isLocal peer live_b remote
            have got : Effects server _ := (Effect.input a data live isLocal origin).once
            have consistent' := consistent.effects got
            refine got.trans (effects_afterEnqueue consistent' ?_ _)
            have live' : (server.record a fun h => { h with input := h.input ++ data }).sockets =
                server.sockets := rfl
            have origin' : ∀ c, ((server.record a fun h =>
                { h with input := h.input ++ data }).history c).origin =
                  (server.history c).origin :=
              Server.origin_recordInput server a data
            generalize (server.record a fun h => { h with input := h.input ++ data }) = middle
              at consistent' live' origin'
            rw [← live'] at live live_b
            simp only [Server.enqueue, live_b]
            cases kind : r.kind with
            | localSocket =>
                have origin_b := consistent'.unstreamed b r a s live_b kind peer_b live
                  (by simp [isLocal])
                exact .inl (effects_localSocketEnqueue consistent' live_b kind peer_b live
                  (by simp [isLocal]) origin_b data)
            | remoteSocket => exact absurd kind remote
            | smartSocket =>
                exact answers_smartSocketEnqueue consistent' live_b kind peer_b data outside
            | deviceTracker => exact .inl (effects_close consistent' b)

/-- `local_socket_event_func` for events the socket wants. -/
theorem effects_localSocketEventFunc {server : Server} {a : Nat} {s : Asocket}
    (consistent : Consistent server) (live : server.sockets a = some s)
    (isLocal : s.kind = .localSocket) {write read : Bool}
    (writes : write = true → s.wantWrite = true)
    (reads : read = true → s.wantRead = true ∨ s.closing = true)
    (outside : Outside) : Effects server (server.localSocketEventFunc a write read outside) := by
  simp only [Server.localSocketEventFunc, live]
  cases write with
  | false =>
      simp only [Bool.false_eq_true, if_false, true_and]
      split
      case isTrue reported =>
        rcases reads reported with wanted | closing
        · refine effects_eventRead consistent (fun s' live' => ?_) outside
          rw [live] at live'
          cases live'
          exact ⟨isLocal, wanted⟩
        · have unpeered := ((consistent.locals a s live isLocal).closing_listed closing).2.2.1
          exact effects_eventRead_unpeered consistent live unpeered outside
      case isFalse => exact .refl
  | true =>
      have written := effects_eventWrite consistent live isLocal (writes rfl) outside.deviceList
      have still : ∀ s', (server.eventWrite a s outside.deviceList).2 = true →
          (server.eventWrite a s outside.deviceList).1.sockets a = some s' →
            s'.kind = .localSocket ∧ s'.wantRead = s.wantRead :=
        fun s' => eventWrite_wantRead consistent live isLocal (writes rfl) outside.deviceList
      have stillOpen : (server.eventWrite a s outside.deviceList).2 = true → s.closing = false :=
        eventWrite_goesOn outside.deviceList
      simp only [if_true]
      generalize server.eventWrite a s outside.deviceList = result at written still stillOpen
      obtain ⟨middle, goesOn⟩ := result
      simp only at written still stillOpen ⊢
      split
      case isTrue both =>
        refine written.trans (effects_eventRead (consistent.effects written) ?_ outside)
        intro s' live'
        obtain ⟨isLocal', same⟩ := still s' both.1 live'
        have wanted := (reads both.2).resolve_right (by simp [stillOpen both.1])
        exact ⟨isLocal', same.trans wanted⟩
      case isFalse => exact written

/-! ## New connections -/

theorem effects_client {server : Server} (consistent : Consistent server) (outside : Outside) :
    Effects server (Step.client.apply outside server) := by
  simp only [Step.apply]
  have made : Effects server _ := Effect.createLocal.once.tail
    (.createOther { kind := .smartSocket } (by simp) (by simp) rfl rfl)
  have live : (server.createLocalSocket.createOther { kind := .smartSocket }).sockets
      server.fresh = some { kind := .localSocket, id := server.localSocketNextId } := by
    simp [Server.createOther, Server.createLocalSocket]
  have live_smart : (server.createLocalSocket.createOther { kind := .smartSocket }).sockets
      server.createLocalSocket.fresh = some { kind := .smartSocket } := by
    simp [Server.createOther]
  have origin : ((server.createLocalSocket.createOther { kind := .smartSocket }).history
      server.fresh).origin = .none := by
    simp [Server.createOther, Server.createLocalSocket]
  have same : server.createLocalSocket.createSmartSocket =
      server.createLocalSocket.createOther { kind := .smartSocket } := rfl
  rw [same]
  have different : server.fresh ≠ server.createLocalSocket.fresh := by
    simp [Server.createLocalSocket]
  generalize server.createLocalSocket.createOther { kind := .smartSocket } = middle
    at made live live_smart origin
  have joined := made.tail (.join server.fresh server.createLocalSocket.fresh live rfl rfl rfl rfl
    origin live_smart (by simp) (by simp) rfl)
  have live_joined : (middle.link server.fresh server.createLocalSocket.fresh).sockets
      server.fresh = some
        { kind := .localSocket, id := server.localSocketNextId,
          peer := some server.createLocalSocket.fresh } := by
    simp [Server.link, Server.modify, different, live]
  exact joined.trans (effects_ready (consistent.effects joined) live_joined (by simp) rfl
    (fun _ => origin) outside.deviceList)

theorem effects_forward (server : Server) (transport : Nat)
    (destination : List UInt8) (outside : Outside) :
    Effects server ((Step.forward transport destination).apply outside server) := by
  simp only [Step.apply]
  have made : Effects server _ := Effect.createLocal.once
  have noted := made.trans (effects_modify _ server.fresh
    (fun s => { s with transport := some transport })
    fun s live =>
      .of rfl id id (by
        simp only [Server.createLocalSocket, Function.update_self, Option.some.injEq] at live
        simp [← live]))
  have live : (server.createLocalSocket.modify server.fresh
      fun s => { s with transport := some transport }).sockets server.fresh = some
        { kind := .localSocket, id := server.localSocketNextId,
          transport := some transport } := by
    simp [Server.createLocalSocket]
  have origin : ((server.createLocalSocket.modify server.fresh
      fun s => { s with transport := some transport }).history server.fresh).origin = .none := by
    simp [Server.createLocalSocket, Server.modify]
  generalize (server.createLocalSocket.modify server.fresh
    fun s => { s with transport := some transport }) = middle at noted live origin
  simp only [Server.connectToRemote, live]
  exact noted.tail (.openForward server.fresh transport (destination ++ [0]) live rfl rfl rfl
    origin)

/-- Every step but the receipt of a packet is a sequence of effects. -/
theorem effects_step {server : Server} (consistent : Consistent server) {step : Step}
    (allowed : step.Allowed server) (unpacketed : ∀ t message, step ≠ .packet t message)
    (outside : Outside) : Effects server (step.apply outside server) := by
  cases step with
  | packet t message => exact absurd rfl (unpacketed t message)
  | event a write read =>
      obtain ⟨s, live, isLocal, writes, reads⟩ := allowed
      have used := effects_writes server outside.writes
      have live' : { server with writes := outside.writes }.sockets a = some s := live
      exact used.trans (effects_localSocketEventFunc (consistent.effects used) live' isLocal writes
        reads outside)
  | client => exact effects_client consistent outside
  | forward transport destination => exact effects_forward server transport destination outside
  | closeAll transport => exact effects_closeAllSocketsLoop transport _ consistent
  | disconnect transport => exact effects_foldl_close _ consistent
  | update =>
      have used := effects_writes server outside.writes
      exact used.trans (effects_updateTransports (consistent.effects used) outside.deviceList)

end Sockets
end AdbWide
