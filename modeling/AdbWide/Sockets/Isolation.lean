import AdbWide.Sockets.Reachability

/-!
# Transports and each other's sockets

A packet is handled for the transport it came from, but sockets are looked up by their ids, which
all transports share.  This file says exactly which packets change a socket that belongs to another
transport.
-/

namespace AdbWide
namespace Sockets

/-- A local socket that belongs to other transports only: it waits for the answer to an `A_OPEN`
packet on another transport, or its peer is a remote socket of another transport. -/
def Foreign (server : Server) (t a : Nat) : Prop :=
  ∃ s t', server.sockets a = some s ∧ s.kind = .localSocket ∧ t' ≠ t ∧
    (s.peer = none ∧ s.transport = some t' ∨
      ∃ b r, s.peer = some b ∧ server.sockets b = some r ∧ r.kind = .remoteSocket ∧
        r.transport = some t')

/-- The socket is as it was, and nothing has been written to its file descriptor. -/
def Unchanged (server server' : Server) (a : Nat) : Prop :=
  server'.sockets a = server.sockets a ∧
    (server'.history a).output = (server.history a).output

/-- The packet reaches a socket that belongs to other transports: by an `A_OKAY` that connects it or
makes it read, an `A_CLSE` that closes it, or an `A_WRTE` with data for it. -/
def Trespasses (server : Server) (t : Nat) (message : Message) : Prop :=
  (server.transports t).online = true ∧ message.arg1 ≠ 0 ∧
    ∃ a s, Foreign server t a ∧ server.sockets a = some s ∧
      match message.command with
      | .okay =>
          message.arg0 ≠ 0 ∧ server.findLocalSocket message.arg1 0 = some a ∧
            (s.peer = none ∨ server.peerId s = message.arg0 ∧ s.wantRead = false)
      | .clse =>
          server.findLocalSocket message.arg1 message.arg0 = some a ∧
            (message.arg0 = 0 → s.peer = none)
      | .wrte =>
          message.arg0 ≠ 0 ∧ server.findLocalSocket message.arg1 message.arg0 = some a ∧
            (message.payload ≠ [] ∨ s.queue.first ≠ none)
      | _ => False

/-! ## What is spared -/

/-- The sockets of other transports, with the remote ones. -/
def Kept (server : Server) (t a : Nat) : Prop :=
  Foreign server t a ∨
    ∃ r t', server.sockets a = some r ∧ r.kind = .remoteSocket ∧ r.transport = some t' ∧ t' ≠ t

/-- The sockets of other transports are unchanged. -/
def Spares (t : Nat) (server server' : Server) : Prop :=
  ∀ a, Kept server t a → Unchanged server server' a

theorem Spares.refl (t : Nat) (server : Server) : Spares t server server :=
  fun _ _ => ⟨rfl, rfl⟩

theorem Kept.of_spares {t a : Nat} {server server' : Server} (kept : Kept server t a)
    (spares : Spares t server server') : Kept server' t a := by
  have same := (spares a kept).1
  rcases kept with foreign | ⟨r, t', live, remote, on, different⟩
  · obtain ⟨s, t', live, isLocal, different, pending | ⟨b, r, peer, live_b, remote, on⟩⟩ := foreign
    · exact .inl ⟨s, t', by rw [same, live], isLocal, different, .inl pending⟩
    · have same_b := (spares b (.inr ⟨r, t', live_b, remote, on, different⟩)).1
      exact .inl ⟨s, t', by rw [same, live], isLocal, different,
        .inr ⟨b, r, peer, by rw [same_b, live_b], remote, on⟩⟩
  · exact .inr ⟨r, t', by rw [same, live], remote, on, different⟩

theorem Spares.trans {t : Nat} {first second third : Server} (one : Spares t first second)
    (two : Spares t second third) : Spares t first third := by
  intro a kept
  obtain ⟨sockets, output⟩ := one a kept
  obtain ⟨sockets', output'⟩ := two a (kept.of_spares one)
  exact ⟨sockets'.trans sockets, output'.trans output⟩

theorem Kept.live {server : Server} {t a : Nat} (kept : Kept server t a) :
    ∃ s, server.sockets a = some s := by
  rcases kept with ⟨s, _, live, _⟩ | ⟨r, _, live, _⟩
  · exact ⟨s, live⟩
  · exact ⟨r, live⟩

theorem Kept.foreign_of_local {server : Server} {t a : Nat} {s : Asocket}
    (kept : Kept server t a) (live : server.sockets a = some s)
    (isLocal : s.kind = .localSocket) : Foreign server t a := by
  rcases kept with foreign | ⟨r, _, live', remote, _⟩
  · exact foreign
  · rw [live] at live'
    cases live'
    rw [isLocal] at remote
    cases remote

/-- The peer of a socket that is not spared is not spared. -/
theorem Consistent.not_kept_peer {server : Server} (consistent : Consistent server) {t a b : Nat}
    {s : Asocket} (live : server.sockets a = some s) (peer : s.peer = some b)
    (not_kept : ¬Kept server t a) : ¬Kept server t b := by
  obtain ⟨r, live_b, peer_b⟩ := consistent.symmetric a s b live peer
  rintro (⟨r', t', live', isLocal, different, unpeered | other⟩ | ⟨r', t', live', remote, on,
    different⟩)
  · rw [live_b] at live'
    cases live'
    rw [unpeered.1] at peer_b
    cases peer_b
  · rw [live_b] at live'
    cases live'
    obtain ⟨c, q, peer_c, live_c, remote, on⟩ := other
    rw [peer_b] at peer_c
    cases peer_c
    rw [live] at live_c
    cases live_c
    exact not_kept (.inr ⟨s, t', live, remote, on, different⟩)
  · rw [live_b] at live'
    cases live'
    by_cases isLocal : s.kind = .localSocket
    · exact not_kept (.inl ⟨s, t', live, isLocal, different, .inr ⟨b, r, peer, live_b, remote, on⟩⟩)
    · have isLocal_b := consistent.partner a s b r live isLocal peer live_b
      rw [remote] at isLocal_b
      cases isLocal_b

/-! ## Operations on sockets that are not spared -/

theorem spares_of_same {t : Nat} {server server' : Server}
    (sockets : server'.sockets = server.sockets) (history : server'.history = server.history) :
    Spares t server server' :=
  fun a _ => ⟨by rw [sockets], by rw [history]⟩

theorem spares_modify {t a : Nat} {server : Server} (not_kept : ¬Kept server t a)
    (change : Asocket → Asocket) : Spares t server (server.modify a change) := by
  intro c kept
  have different : c ≠ a := by
    rintro rfl
    exact not_kept kept
  exact ⟨Server.sockets_modify_of_ne different, rfl⟩

theorem spares_record {t a : Nat} {server : Server} (not_kept : ¬Kept server t a)
    (change : History → History) : Spares t server (server.record a change) := by
  intro c kept
  have different : c ≠ a := by
    rintro rfl
    exact not_kept kept
  exact ⟨rfl, by simp [Server.record, different]⟩

theorem spares_close {t a : Nat} {server : Server} (consistent : Consistent server)
    (not_kept : ¬Kept server t a) : Spares t server (server.close a) := by
  cases live : server.sockets a with
  | none =>
      simp only [Server.close, live]
      exact .refl t server
  | some s =>
      have closes := closes_close consistent live
      intro c kept
      refine ⟨closes.others c ?_, by rw [closes.history]⟩
      rintro (rfl | peer)
      · exact not_kept kept
      · exact consistent.not_kept_peer live peer not_kept kept

theorem spares_localSocketEnqueue {t a : Nat} {server : Server} (consistent : Consistent server)
    (not_kept : ¬Kept server t a) (packet : List UInt8) :
    Spares t server (server.localSocketEnqueue a packet).1 := by
  simp only [Server.localSocketEnqueue]
  split
  · exact .refl t server
  · split
    · exact spares_modify not_kept _
    · generalize writeLoop false server.writes packet = loop
      have used : Spares t server { server with writes := loop.writes } := spares_of_same rfl rfl
      have not_kept_used : ¬Kept { server with writes := loop.writes } t a := not_kept
      have written := used.trans (spares_record not_kept_used
        fun h => { h with output := h.output ++ loop.written })
      have consistent' : Consistent
          ({ server with writes := loop.writes }.recordOutput a loop.written) :=
        consistent.congr (.of rfl (Server.origin_recordOutput _ a loop.written))
      have not_kept' : ¬Kept
          ({ server with writes := loop.writes }.recordOutput a loop.written) t a := not_kept
      cases loop.outcome with
      | done => exact written
      | again => exact written.trans (spares_modify not_kept' _)
      | failed => exact written.trans (spares_close consistent' not_kept')

theorem spares_deviceTrackerSend {t : Nat} {server : Server} (consistent : Consistent server)
    (a : Nat) (deviceList : List UInt8) :
    Spares t server (server.deviceTrackerSend a deviceList) := by
  simp only [Server.deviceTrackerSend]
  split
  · exact .refl t server
  · rename_i s live
    split
    · rename_i b tracker peer
      refine spares_localSocketEnqueue consistent (consistent.not_kept_peer live peer ?_) _
      rintro (⟨s', _, live', isLocal, _⟩ | ⟨s', _, live', remote, _⟩)
      · rw [live] at live'
        cases live'
        rw [tracker] at isLocal
        cases isLocal
      · rw [live] at live'
        cases live'
        rw [tracker] at remote
        cases remote
    · exact .refl t server

theorem spares_updateTransports {t : Nat} {server : Server} (consistent : Consistent server)
    (deviceList : List UInt8) : Spares t server (server.updateTransports deviceList) := by
  unfold Server.updateTransports
  generalize server.deviceTrackerList = trackers
  induction trackers generalizing server with
  | nil => exact .refl t server
  | cons a trackers induction =>
      have told := effects_deviceTrackerSend consistent a deviceList
      exact (spares_deviceTrackerSend consistent a deviceList).trans
        (induction (consistent.effects told))

/-- Closing remote sockets of the transport. -/
theorem spares_foldl_close {t : Nat} {server : Server} (consistent : Consistent server)
    (sockets : List Nat)
    (own : ∀ c ∈ sockets, ∀ s, server.sockets c = some s →
      s.kind = .remoteSocket ∧ s.transport = some t) :
    Spares t server (sockets.foldl Server.close server) := by
  induction sockets generalizing server with
  | nil => exact .refl t server
  | cons a sockets induction =>
      have not_kept : ¬Kept server t a := by
        rintro (⟨s, _, live, isLocal, _⟩ | ⟨s, t', live, _, on, different⟩)
        · rw [(own a (by simp) s live).1] at isLocal
          cases isLocal
        · rw [(own a (by simp) s live).2] at on
          exact different (Option.some.inj on).symm
      refine (spares_close consistent not_kept).trans
        (induction (consistent.effects (effects_close consistent a)) ?_)
      intro c member s live
      cases live_a : server.sockets a with
      | none =>
          simp only [Server.close, live_a] at live
          exact own c (List.mem_cons_of_mem _ member) s live
      | some r =>
          have closes := closes_close consistent live_a
          by_cases gone : c = a ∨ r.peer = some c
          · have ended := closes.ended c gone
            rw [live] at ended
            obtain ⟨q, live_q, isLocal, _⟩ := ended.lingering
            rw [(own c (List.mem_cons_of_mem _ member) q live_q).1] at isLocal
            cases isLocal
          · rw [closes.others c gone] at live
            exact own c (List.mem_cons_of_mem _ member) s live

theorem spares_runTransportDisconnects {t : Nat} {server : Server}
    (consistent : Consistent server) : Spares t server (server.runTransportDisconnects t) :=
  spares_foldl_close consistent _ fun c member => (consistent.registered t c member).2

theorem spares_modifyTransport {t transport : Nat} {server : Server}
    (change : TransportState → TransportState) :
    Spares t server (server.modifyTransport transport change) :=
  spares_of_same rfl rfl

/-! ## Packets that do not trespass -/

theorem spares_handleOffline {t : Nat} {server : Server} (consistent : Consistent server) :
    Spares t server (server.handleOffline t) := by
  have offline := consistent.modifyTransport t (fun t => { t with online := false }) fun _ => rfl
  exact (spares_modifyTransport _).trans (spares_runTransportDisconnects offline)

theorem spares_handleSync {t : Nat} {server : Server} (consistent : Consistent server)
    (message : Message) : Spares t server (server.handleSync t message) := by
  simp only [Server.handleSync]
  split
  · exact spares_of_same rfl rfl
  · have offline := consistent.modifyTransport t
      (fun t => { t with connectionState := .offline }) fun _ => rfl
    exact ((spares_modifyTransport _).trans (spares_handleOffline offline)).trans
      (spares_of_same rfl rfl)

theorem spares_parseBanner {t : Nat} {server : Server} (consistent : Consistent server)
    (banner deviceList : List UInt8) :
    Spares t server (server.parseBanner t banner deviceList) := by
  have told : ∀ state, Spares t server ((server.modifyTransport t
      fun t => { t with connectionState := state }).updateTransports deviceList) := by
    intro state
    have set := consistent.modifyTransport t (fun t => { t with connectionState := state })
      fun _ => rfl
    exact (spares_modifyTransport _).trans (spares_updateTransports set deviceList)
  rcases server.parseBanner_cases t banner deviceList with same | ⟨state, -, same⟩
  · rw [same]
    exact spares_modifyTransport _
  · rw [same]
    exact told state

theorem spares_handleConnect {t : Nat} {server : Server} (consistent : Consistent server)
    (message : Message) (deviceList : List UInt8) :
    Spares t server (server.handleConnect t message deviceList) := by
  have offline := consistent.modifyTransport t
    (fun t => { t with connectionState := .offline }) fun _ => rfl
  simp only [Server.handleConnect]
  refine Spares.trans ?_ (spares_modifyTransport _)
  split
  · exact spares_parseBanner consistent _ _
  · exact ((spares_modifyTransport _).trans (spares_handleOffline offline)).trans
      (spares_parseBanner (offline.handleOffline t) _ _)

theorem spares_handleAuth {t : Nat} {server : Server} (message : Message)
    (answer : Option Message) : Spares t server (server.handleAuth t message answer) := by
  have marked : Spares t server (if message.arg0 = Server.authToken then
      server.modifyTransport t fun t => { t with connectionState := .unauthorized }
      else server) := by
    split
    · exact spares_modifyTransport _
    · exact .refl t server
  simp only [Server.handleAuth]
  cases answer with
  | none => exact marked
  | some answer => exact marked.trans (spares_of_same rfl rfl)

/-- Only the socket itself and new sockets are changed when it is connected and made ready. -/
theorem spares_of_others {t : Nat} {server server' : Server} (consistent : Consistent server)
    (others : ∀ c, c < server.fresh → Kept server t c → Unchanged server server' c) :
    Spares t server server' := by
  intro c kept
  refine others c ?_ kept
  obtain ⟨s, live⟩ := kept.live
  by_contra unallocated
  rw [consistent.unallocated c (by omega)] at live
  cases live

theorem spares_handleOpen {t : Nat} {server : Server} (consistent : Consistent server)
    (message : Message) (outside : Outside) :
    Spares t server (server.handleOpen t message outside) := by
  simp only [Server.handleOpen]
  split
  · split
    · refine spares_of_others consistent fun c allocated _ => ?_
      have live : ((((server.createLocalSocket.createRemoteSocket message.arg0 t).link server.fresh
          server.createLocalSocket.fresh).record server.fresh fun h =>
            { h with origin := .accepted, mate := some message.arg0 }).sendPacket t
              ⟨.okay, server.localSocketNextId, message.arg0, []⟩).sockets server.fresh = some
          { kind := .localSocket, id := server.localSocketNextId,
            peer := some (server.fresh + 1) } := by
        simp [Server.createLocalSocket, Server.createRemoteSocket, Server.link, Server.modify,
          Server.record, Server.sendPacket]
      have same := ready_local live rfl outside.deviceList
      have not_first : c ≠ server.fresh := by omega
      have not_second : c ≠ server.fresh + 1 := by omega
      refine ⟨?_, ?_⟩
      · rw [same.sockets]
        simp [Server.createLocalSocket, Server.createRemoteSocket, Server.link, Server.modify,
          Server.record, Server.sendPacket, not_first, not_second]
      · rw [same.history]
        simp [Server.createLocalSocket, Server.createRemoteSocket, Server.link, Server.modify,
          Server.record, Server.sendPacket, not_first]
    · exact spares_of_same rfl rfl
  · exact .refl t server

theorem spares_ready {t a : Nat} {s : Asocket} {server : Server}
    (live : server.sockets a = some s) (isLocal : s.kind = .localSocket)
    (not_kept : ¬Kept server t a) (deviceList : List UInt8) :
    Spares t server (server.ready a deviceList) := by
  have same := ready_local live isLocal deviceList
  exact (spares_modify not_kept _).trans (spares_of_same same.sockets same.history)

theorem spares_handleOkay {t : Nat} {server : Server} (consistent : Consistent server)
    {message : Message} (command : message.command = .okay)
    (inside : ¬Trespasses server t message) (outside : Outside) :
    Spares t server (server.handleOkay t message outside) := by
  simp only [Server.handleOkay]
  split
  case isFalse => exact .refl t server
  case isTrue asked =>
    cases found : server.findLocalSocket message.arg1 0 with
    | none => exact .refl t server
    | some a =>
        obtain ⟨s, live, isLocal, _⟩ := findLocalSocket_spec consistent found
        have foreign_idle : Kept server t a →
            ¬(s.peer = none ∨ server.peerId s = message.arg0 ∧ s.wantRead = false) := by
          intro kept reached
          refine inside ⟨asked.1, asked.2.2, a, s, kept.foreign_of_local live isLocal, live, ?_⟩
          rw [command]
          exact ⟨asked.2.1, found, reached⟩
        simp only [live]
        cases peer : s.peer with
        | none =>
            have not_kept : ¬Kept server t a := fun kept => foreign_idle kept (.inl peer)
            refine spares_of_others consistent fun c allocated kept => ?_
            have not_a : c ≠ a := by
              rintro rfl
              exact not_kept kept
            have a_ne : a ≠ server.fresh := by
              rintro rfl
              rw [consistent.unallocated _ (Nat.le_refl _)] at live
              cases live
            have c_ne : c ≠ server.fresh := by omega
            have live' : (((server.createRemoteSocket message.arg0 t).link a server.fresh).record a
                fun h => { h with mate := some message.arg0 }).sockets a =
                  some { s with peer := some server.fresh } := by
              simp [Server.createRemoteSocket, Server.link, Server.modify, Server.record, a_ne,
                live]
            have same := ready_local live' isLocal outside.deviceList
            refine ⟨?_, ?_⟩
            · rw [same.sockets]
              simp [Server.createRemoteSocket, Server.link, Server.modify, Server.record, not_a,
                c_ne]
            · rw [same.history]
              simp [Server.createRemoteSocket, Server.link, Server.modify, Server.record, not_a]
        | some b =>
            simp only
            split
            case isFalse => exact .refl t server
            case isTrue matching =>
              by_cases kept : Kept server t a
              · have reads : s.wantRead = true := by
                  by_contra unread
                  exact foreign_idle kept (.inr ⟨matching, by simpa using unread⟩)
                have silent := (consistent.locals a s live isLocal).unnotified_of_peer peer
                have same := ready_local live isLocal outside.deviceList
                refine spares_of_same ?_ same.history
                rw [same.sockets, Server.sockets_modify live, ← reads, ← silent, ← live,
                  Function.update_eq_self]
              · exact spares_ready live isLocal kept outside.deviceList

theorem spares_handleClose {t : Nat} {server : Server} (consistent : Consistent server)
    {message : Message} (command : message.command = .clse)
    (inside : ¬Trespasses server t message) : Spares t server (server.handleClose t message) := by
  simp only [Server.handleClose]
  split
  case isFalse => exact .refl t server
  case isTrue asked =>
    cases found : server.findLocalSocket message.arg1 message.arg0 with
    | none => exact .refl t server
    | some a =>
        obtain ⟨s, live, isLocal, _⟩ := findLocalSocket_spec consistent found
        simp only
        split
        case isTrue => exact .refl t server
        case isFalse accepted =>
          refine spares_close consistent fun kept => inside ?_
          have foreign := kept.foreign_of_local live isLocal
          refine ⟨asked.1, asked.2, a, s, foreign, live, ?_⟩
          rw [command]
          refine ⟨found, fun zero => ?_⟩
          obtain ⟨s', t', live', _, different, pending | ⟨b, r, peer, live_b, _, on⟩⟩ := foreign
          · rw [live] at live'
            cases live'
            exact pending.1
          · rw [live] at live'
            cases live'
            refine absurd ⟨zero, ?_⟩ accepted
            simp [Server.peerOf, live, peer, live_b, on, different]

theorem spares_handleWrite {t : Nat} {server : Server} (consistent : Consistent server)
    {message : Message} (command : message.command = .wrte)
    (inside : ¬Trespasses server t message) (outside : Outside) :
    Spares t server (server.handleWrite t message outside) := by
  simp only [Server.handleWrite]
  split
  case isFalse => exact .refl t server
  case isTrue asked =>
    cases found : server.findLocalSocket message.arg1 message.arg0 with
    | none => exact .refl t server
    | some a =>
        obtain ⟨s, live, isLocal, _⟩ := findLocalSocket_spec consistent found
        have enqueued : Spares t server (server.enqueue a message.payload outside).1 := by
          simp only [Server.enqueue, live, isLocal]
          by_cases kept : Kept server t a
          · have untouched : ¬(message.payload ≠ [] ∨ s.queue.first ≠ none) := by
              intro touched
              refine inside ⟨asked.1, asked.2.2, a, s, kept.foreign_of_local live isLocal, live, ?_⟩
              rw [command]
              exact ⟨asked.2.1, found, touched⟩
            simp only [not_or, not_not] at untouched
            simp only [Server.localSocketEnqueue, live, untouched.1, untouched.2,
              Option.isSome_none, Bool.false_eq_true, if_false]
            simp [writeLoop, Server.recordOutput, Server.record, spares_of_same]
          · exact spares_localSocketEnqueue consistent kept _
        simp only
        split
        · split
          · exact enqueued
          · exact enqueued.trans (spares_of_same rfl rfl)
        · exact enqueued

theorem spares_handlePacket {t : Nat} {server : Server} (consistent : Consistent server)
    {message : Message} (inside : ¬Trespasses server t message) (outside : Outside) :
    Spares t server (server.handlePacket t message outside) := by
  have noted : Spares t server { server with
      received := server.received ++ [(t, message)], writes := outside.writes } :=
    spares_of_same rfl rfl
  have consistent' : Consistent { server with
      received := server.received ++ [(t, message)], writes := outside.writes } :=
    consistent.congr (.of rfl fun _ => rfl)
  have inside' : ¬Trespasses { server with
      received := server.received ++ [(t, message)], writes := outside.writes } t message := inside
  refine noted.trans ?_
  simp only [Server.handlePacket]
  cases command : message.command with
  | sync => exact spares_handleSync consistent' message
  | cnxn => exact spares_handleConnect consistent' message outside.deviceList
  | auth => exact spares_handleAuth message outside.authAnswer
  | «open» => exact spares_handleOpen consistent' message outside
  | okay => exact spares_handleOkay consistent' command inside' outside
  | clse => exact spares_handleClose consistent' command inside'
  | wrte => exact spares_handleWrite consistent' command inside' outside
  | other word => exact .refl t _

/-! ## Packets that trespass -/

theorem Ended.ne_of_open {s : Asocket} {after : Option Asocket} (ended : Ended (some s) after)
    (stillOpen : s.closing = false) : after ≠ some s := by
  rintro rfl
  obtain ⟨r, _, _, _, _, same⟩ := ended.lingering
  rw [same] at stillOpen
  cases stillOpen

theorem changed_handleOkay {t a : Nat} {s : Asocket} {server : Server}
    (consistent : Consistent server) {message : Message}
    (online : (server.transports t).online = true) (arg0 : message.arg0 ≠ 0)
    (arg1 : message.arg1 ≠ 0) (live : server.sockets a = some s)
    (found : server.findLocalSocket message.arg1 0 = some a)
    (reached : s.peer = none ∨ server.peerId s = message.arg0 ∧ s.wantRead = false)
    (outside : Outside) : (server.handleOkay t message outside).sockets a ≠ some s := by
  obtain ⟨s', live', isLocal, _⟩ := findLocalSocket_spec consistent found
  rw [live] at live'
  cases live'
  simp only [Server.handleOkay, online, found, live]
  rw [if_pos ⟨trivial, arg0, arg1⟩]
  cases peer : s.peer with
  | none =>
      have a_ne : a ≠ server.fresh := by
        rintro rfl
        rw [consistent.unallocated _ (Nat.le_refl _)] at live
        cases live
      have connected : (((server.createRemoteSocket message.arg0 t).link a server.fresh).record a
          fun h => { h with mate := some message.arg0 }).sockets a =
            some { s with peer := some server.fresh } := by
        simp [Server.createRemoteSocket, Server.link, Server.modify, Server.record, a_ne, live]
      have same := ready_local connected isLocal outside.deviceList
      intro unchanged
      simp only at unchanged
      rw [same.sockets, Server.sockets_modify_self, connected] at unchanged
      have peers := congrArg Asocket.peer (Option.some.inj unchanged)
      rw [peer] at peers
      cases peers
  | some b =>
      rcases reached with unpeered | ⟨matching, unread⟩
      · rw [peer] at unpeered
        cases unpeered
      · simp only [matching, if_true]
        have same := ready_local live isLocal outside.deviceList
        intro unchanged
        rw [same.sockets, Server.sockets_modify_self, live] at unchanged
        have reads := congrArg Asocket.wantRead (Option.some.inj unchanged)
        rw [unread] at reads
        cases reads

theorem changed_handleClose {t a : Nat} {s : Asocket} {server : Server}
    (consistent : Consistent server) {message : Message}
    (online : (server.transports t).online = true) (arg1 : message.arg1 ≠ 0)
    (live : server.sockets a = some s)
    (found : server.findLocalSocket message.arg1 message.arg0 = some a)
    (pending : message.arg0 = 0 → s.peer = none) :
    (server.handleClose t message).sockets a ≠ some s := by
  obtain ⟨s', live', _, stillOpen, _⟩ := findLocalSocket_spec consistent found
  rw [live] at live'
  cases live'
  have ended := (closes_close consistent live).ended a (.inl rfl)
  rw [live] at ended
  simp only [Server.handleClose, online, found]
  rw [if_pos ⟨trivial, arg1⟩]
  split
  case isTrue refused =>
    simp [Server.peerOf, live, pending refused.1] at refused
  case isFalse => exact ended.ne_of_open stillOpen

theorem changed_localSocketEnqueue {a : Nat} {s : Asocket} {server : Server}
    (consistent : Consistent server) (live : server.sockets a = some s)
    (stillOpen : s.closing = false) (packet : List UInt8)
    (touched : packet ≠ [] ∨ s.queue.first ≠ none) :
    ¬Unchanged server (server.localSocketEnqueue a packet).1 a := by
  have pushed : ∀ (queue : LinkedQueue (List UInt8)) rest, queue.push rest ≠ queue := by
    intro queue rest same
    have grown := congrArg LinkedQueue.fresh same
    simp [LinkedQueue.push] at grown
  rintro ⟨sockets, output⟩
  simp only [Server.localSocketEnqueue, live] at sockets output
  split at sockets
  case isTrue =>
    rw [Server.enqueuePacket, Server.sockets_modify_self, live] at sockets
    exact pushed _ _ (congrArg Asocket.queue (Option.some.inj sockets))
  case isFalse unqueued =>
    have nonempty : packet ≠ [] := by
      refine touched.resolve_right fun queued => unqueued ?_
      exact Option.isSome_iff_ne_none.mpr queued
    obtain ⟨parts, done_iff⟩ := writeLoop_spec false server.writes packet
    rw [if_neg unqueued] at output
    generalize writeLoop false server.writes packet = loop at parts done_iff sockets output
    obtain ⟨written, rest, outcome, writes⟩ := loop
    cases outcome with
    | done =>
        rw [done_iff.mp rfl, List.append_nil] at parts
        simp only at parts
        simp [Server.recordOutput, Server.record, parts, nonempty] at output
    | again =>
        simp only [Server.enqueuePacket, Server.sockets_modify_self, Server.recordOutput,
          Server.record, live, Option.map_some] at sockets
        exact pushed _ _ (congrArg Asocket.queue (Option.some.inj sockets))
    | failed =>
        have recorded : Consistent ({ server with writes }.recordOutput a written) :=
          consistent.congr (.of rfl (Server.origin_recordOutput _ a written))
        have live' : ({ server with writes }.recordOutput a written).sockets a = some s := live
        have ended := (closes_close recorded live').ended a (.inl rfl)
        rw [live'] at ended
        exact ended.ne_of_open stillOpen sockets

theorem changed_handleWrite {t a : Nat} {s : Asocket} {server : Server}
    (consistent : Consistent server) {message : Message}
    (online : (server.transports t).online = true) (arg0 : message.arg0 ≠ 0)
    (arg1 : message.arg1 ≠ 0) (live : server.sockets a = some s)
    (found : server.findLocalSocket message.arg1 message.arg0 = some a)
    (touched : message.payload ≠ [] ∨ s.queue.first ≠ none) (outside : Outside) :
    ¬Unchanged server (server.handleWrite t message outside) a := by
  obtain ⟨s', live', isLocal, stillOpen, _⟩ := findLocalSocket_spec consistent found
  rw [live] at live'
  cases live'
  have changed := changed_localSocketEnqueue consistent live stillOpen message.payload touched
  simp only [Server.handleWrite, online, found, Server.enqueue, live, isLocal]
  rw [if_pos ⟨trivial, arg0, arg1⟩]
  split
  · split
    · exact changed
    · exact changed
  · exact changed

/-- In every reachable state a packet leaves all sockets that belong to other transports unchanged
exactly when it does not trespass. -/
theorem isolated_iff_not_trespasses {server : Server}
    (reachable : Reachable ServerStep Server.start server) (t : Nat) (message : Message)
    (outside : Outside) :
    (∀ a, Foreign server t a →
        Unchanged server (server.handlePacket t message outside) a) ↔
      ¬Trespasses server t message := by
  have consistent := consistent_of_reachable reachable
  constructor
  · rintro isolated ⟨online, arg1, a, s, foreign, live, reached⟩
    have unchanged := isolated a foreign
    have noted : Consistent { server with
        received := server.received ++ [(t, message)], writes := outside.writes } :=
      consistent.congr (.of rfl fun _ => rfl)
    simp only [Server.handlePacket] at unchanged
    cases command : message.command with
    | okay =>
        simp only [command] at reached unchanged
        obtain ⟨arg0, found, reached⟩ := reached
        exact changed_handleOkay (s := s) noted online arg0 arg1 live found reached outside
          (unchanged.1.trans live)
    | clse =>
        simp only [command] at reached unchanged
        obtain ⟨found, pending⟩ := reached
        exact changed_handleClose (s := s) noted online arg1 live found pending
          (unchanged.1.trans live)
    | wrte =>
        simp only [command] at reached unchanged
        obtain ⟨arg0, found, touched⟩ := reached
        exact changed_handleWrite (s := s) noted online arg0 arg1 live found touched outside
          unchanged
    | sync | cnxn | auth | «open» | other => simp [command] at reached
  · intro inside a foreign
    exact spares_handlePacket consistent inside outside a (.inl foreign)

/-- Two devices are connected, and a stream has been opened on the second. -/
def pendingOpen : List (Step × Outside) :=
  [(.packet 0 ⟨.cnxn, Server.aVersion, maxPayload, []⟩, {}),
    (.packet 1 ⟨.cnxn, Server.aVersion, maxPayload, []⟩, {}), (.forward 1 [115], {})]

theorem foreign_pendingOpen : Foreign (Server.run pendingOpen) 0 0 := by
  obtain ⟨s, live⟩ : ∃ s, (Server.run pendingOpen).sockets 0 = some s :=
    Option.isSome_iff_exists.mp (by with_unfolding_all decide)
  have fields : ((Server.run pendingOpen).sockets 0).map
      (fun s => (s.kind, s.peer, s.transport)) = some (.localSocket, none, some 1) := by
    with_unfolding_all decide
  simp only [live, Option.map_some, Option.some.injEq, Prod.mk.injEq] at fields
  exact ⟨s, 1, live, fields.1, by simp, .inl fields.2⟩

/-- Data of the first device does not reach the socket. -/
theorem isolated_iff_not_trespasses_write :
    Foreign (Server.run pendingOpen) 0 0 ∧
      Unchanged (Server.run pendingOpen)
        ((Server.run pendingOpen).handlePacket 0 ⟨.wrte, 7, 1, [42]⟩ {}) 0 := by
  have reachable : Reachable ServerStep Server.start (Server.run pendingOpen) :=
    reachable_run (by simp [pendingOpen, Step.Allowed, maxPayload])
  have inside : ¬Trespasses (Server.run pendingOpen) 0 ⟨.wrte, 7, 1, [42]⟩ := by
    rintro ⟨_, _, a, _, _, _, _, found, _⟩
    have none_found : (Server.run pendingOpen).findLocalSocket 1 7 = none := by
      with_unfolding_all decide
    rw [none_found] at found
    cases found
  exact ⟨foreign_pendingOpen,
    (isolated_iff_not_trespasses reachable 0 ⟨.wrte, 7, 1, [42]⟩ {}).mpr inside 0
      foreign_pendingOpen⟩

/-- The first device answers the `A_OPEN` packet that went to the second, and gets the stream. -/
theorem isolation_fails_after_foreign_okay :
    ¬∀ server, Reachable ServerStep Server.start server → ∀ t message outside a,
      Foreign server t a → Unchanged server (server.handlePacket t message outside) a := by
  intro isolated
  have reachable : Reachable ServerStep Server.start (Server.run pendingOpen) :=
    reachable_run (by simp [pendingOpen, Step.Allowed, maxPayload])
  have unchanged := (isolated _ reachable 0 ⟨.okay, 7, 1, []⟩ {} 0 foreign_pendingOpen).1
  have peers := congrArg (fun s => s.bind Asocket.peer) unchanged
  revert peers
  with_unfolding_all decide

end Sockets
end AdbWide
