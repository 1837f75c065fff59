import AdbWide.Sockets.Operations

/-!
# The receipt of packets

A packet that has to do with a stream is recorded and acts on one local socket; everything else it
leads to is a sequence of effects.  `Receipt` lists what the packet itself does.
-/

namespace AdbWide
namespace Sockets

namespace Server

/-- Record a packet that was received. -/
def logged (server : Server) (transport : Nat) (message : Message) : Server :=
  { server with received := server.received ++ [(transport, message)] }

/-- A local socket is connected to a new remote socket and told to read. -/
def connectStream (server : Server) (address transport id : Nat) : Server :=
  (((server.createRemoteSocket id transport).link address server.fresh).record address
    fun h => { h with mate := some id }).modify address
      fun s => { s with notify := false, wantRead := true }

/-- A new local socket is connected to a new remote socket, which is answered by an `A_OKAY`
packet. -/
def acceptStream (server : Server) (transport id : Nat) : Server :=
  ((((server.createLocalSocket.createRemoteSocket id transport).link server.fresh
    (server.fresh + 1)).record server.fresh
      fun h => { h with origin := .accepted, mate := some id }).sendPacket transport
        ⟨.okay, server.localSocketNextId, id, []⟩).modify server.fresh
          fun s => { s with wantRead := true }

end Server

/-- A packet names a local socket and the remote socket that is its peer. -/
structure Addressed (server : Server) (message : Message) (a b : Nat) (s r : Asocket) : Prop where
  live : server.sockets a = some s
  isLocal : s.kind = .localSocket
  id : s.id = message.arg1
  peer : s.peer = some b
  live_b : server.sockets b = some r
  remote : r.kind = .remoteSocket
  id_b : r.id = message.arg0

/-- No `A_OKAY` or `A_WRTE` packet for a stream. -/
def Inert (server : Server) (transport : Nat) (message : Message) : Prop :=
  (server.transports transport).online = true → message.arg0 ≠ 0 → message.arg1 ≠ 0 →
    message.command = .okay ∨ message.command = .wrte →
      ∀ a s, server.findLocalSocket message.arg1 0 = some a → server.sockets a = some s →
        (message.command = .okay → s.peer ≠ none) ∧
          ∀ b r, s.peer = some b → server.sockets b = some r → r.kind = .remoteSocket →
            r.id ≠ message.arg0

/-- What a packet does by itself. -/
inductive Receipt (server : Server) (transport : Nat) (message : Message) : Server → Prop where
  | inert : Inert server transport message →
      Receipt server transport message (server.logged transport message)
  | accept : message.command = .open → message.arg0 ≠ 0 →
      Receipt server transport message
        ((server.logged transport message).acceptStream transport message.arg0)
  | connect (a : Nat) {s : Asocket} : message.command = .okay →
      server.sockets a = some s → s.kind = .localSocket → s.closing = false →
      s.id = message.arg1 → s.peer = none →
      Receipt server transport message
        ((server.logged transport message).connectStream a transport message.arg0)
  | resume {a b : Nat} {s r : Asocket} : message.command = .okay →
      Addressed server message a b s r →
      Receipt server transport message
        ((server.logged transport message).modify a fun s => { s with wantRead := true })
  | written {a b : Nat} {s r : Asocket} : message.command = .wrte →
      Addressed server message a b s r → s.queue.Represents [] →
      Receipt server transport message
        (((server.logged transport message).recordOutput a message.payload).sendPacket transport
          ⟨.okay, s.id, message.arg0, []⟩)
  | queued {a b : Nat} {s r : Asocket} {packets : List (List UInt8)} (bytes rest : List UInt8) :
      message.command = .wrte → Addressed server message a b s r →
      s.queue.Represents packets → bytes ++ rest = message.payload →
      (packets ≠ [] → bytes = []) →
      Receipt server transport message
        (((server.logged transport message).recordOutput a bytes).enqueuePacket a rest)
  | broke {a b : Nat} {s r : Asocket} {bytes rest : List UInt8} {gone : Nat → Prop}
      {server' : Server} :
      message.command = .wrte → Addressed server message a b s r →
      s.queue.Represents [] → bytes ++ rest = message.payload → gone a →
      Closes ((server.logged transport message).recordOutput a bytes) server' gone →
      Receipt server transport message server'
  /-- Data for a socket whose peer is no remote socket. -/
  | stray {a b : Nat} {s r : Asocket} {middle : Server} (id : Nat) :
      message.command = .wrte → server.sockets a = some s → s.kind = .localSocket →
      s.id = message.arg1 → s.peer = some b → server.sockets b = some r →
      r.kind ≠ .remoteSocket → Effects (server.logged transport message) middle →
      Receipt server transport message
        (middle.sendPacket transport ⟨.okay, id, message.arg0, []⟩)

/-! ## Receipts keep the invariant -/

theorem Consistent.logged {server : Server} (consistent : Consistent server) (transport : Nat)
    (message : Message) : Consistent (server.logged transport message) :=
  consistent.congr (.of rfl fun _ => rfl)

theorem Consistent.sendPacket {server : Server} (consistent : Consistent server)
    (transport : Nat) (message : Message) : Consistent (server.sendPacket transport message) :=
  consistent.congr (.of rfl fun _ => rfl)

theorem Consistent.recordOutput {server : Server} (consistent : Consistent server) (a : Nat)
    (bytes : List UInt8) : Consistent (server.recordOutput a bytes) :=
  consistent.congr (.of rfl (Server.origin_recordOutput server a bytes))

theorem Consistent.modifyTransport {server : Server} (consistent : Consistent server)
    (transport : Nat) (change : TransportState → TransportState)
    (same : ∀ t, (change t).disconnects = t.disconnects) :
    Consistent (server.modifyTransport transport change) := by
  refine consistent.congr ⟨rfl, rfl, rfl, rfl, rfl, fun _ => rfl, ?_⟩
  intro t c member
  simp only [Server.modifyTransport] at member
  rcases eq_or_ne t transport with rfl | different
  · rwa [Function.update_self, same] at member
  · rwa [Function.update_of_ne different] at member

theorem Consistent.createRemoteSocket {server : Server} (consistent : Consistent server)
    (id transport : Nat) : Consistent (server.createRemoteSocket id transport) := by
  refine consistent.create (s := { kind := .remoteSocket, id, transport := some transport }) rfl
    rfl (.inr ⟨by simp, rfl⟩) rfl consistent.nextId_ne (fun _ _ => rfl) ?_ rfl
    (fun _ => ⟨transport, rfl⟩) (by simp) (by simp)
  intro t c member
  simp only [Server.createRemoteSocket] at member
  rcases eq_or_ne t transport with rfl | different
  · rw [Function.update_self, List.mem_append, List.mem_singleton] at member
    rcases member with before | rfl
    · exact .inl before
    · exact .inr ⟨rfl, rfl, rfl⟩
  · rw [Function.update_of_ne different] at member
    exact .inl member

/-- Whatever the history of the socket becomes, it can be connected to a new remote socket. -/
theorem Consistent.connectRemote {server server' : Server} {a : Nat} {s : Asocket}
    (consistent : Consistent server) (live : server.sockets a = some s)
    (isLocal : s.kind = .localSocket) (stillOpen : s.closing = false) (unpeered : s.peer = none)
    (id transport : Nat)
    (sockets : server'.sockets =
      (((server.createRemoteSocket id transport).link a server.fresh).modify a
        fun s => { s with notify := false, wantRead := true }).sockets)
    (lists : SameLists (server.createRemoteSocket id transport) server')
    (origin : ∀ c, c ≠ a → (server'.history c).origin = (server.history c).origin) :
    Consistent server' := by
  have absent := consistent.unallocated server.fresh (Nat.le_refl _)
  have different : a ≠ server.fresh := by
    rintro rfl
    rw [live] at absent
    cases absent
  have created := consistent.createRemoteSocket id transport
  refine created.attach (s := s)
    { s with peer := some server.fresh, notify := false, wantRead := true } different
    ?_ (r := { kind := .remoteSocket, id, transport := some transport }) ?_ ?_ lists origin
    isLocal stillOpen unpeered rfl (by simp) ⟨rfl, rfl, rfl⟩ rfl rfl rfl rfl (by simp) (by simp)
  · simp [Server.createRemoteSocket, different, live]
  · simp [Server.createRemoteSocket]
  · rw [sockets]
    simp [Server.createRemoteSocket, Server.link, Server.modify, different, different.symm, live,
      Function.update_comm different]

theorem Consistent.receipt {server server' : Server} {transport : Nat} {message : Message}
    (consistent : Consistent server) (receipt : Receipt server transport message server') :
    Consistent server' := by
  cases receipt with
  | inert => exact consistent.logged transport message
  | accept _ _ =>
      have created := (consistent.logged transport message).createLocalSocket
      refine created.connectRemote (a := server.fresh)
        (s := { kind := .localSocket, id := server.localSocketNextId }) ?_ rfl rfl rfl message.arg0
        transport ?_ (.of rfl) ?_
      · simp [Server.createLocalSocket, Server.logged]
      · simp [Server.acceptStream, Server.createLocalSocket, Server.createRemoteSocket,
          Server.link, Server.modify, Server.record, Server.sendPacket, Server.logged]
      · intro c different
        simp [Server.acceptStream, Server.createLocalSocket, Server.createRemoteSocket,
          Server.link, Server.modify, Server.record, Server.sendPacket, Server.logged, different]
  | connect a _ live isLocal stillOpen _ unpeered =>
      refine (consistent.logged transport message).connectRemote (a := a) live isLocal stillOpen
        unpeered message.arg0 transport rfl (.of rfl) ?_
      intro c different
      simp [Server.connectStream, Server.createRemoteSocket, Server.link, Server.modify,
        Server.record, different]
  | @resume a b s r _ addressed =>
      have ok := consistent.locals a s addressed.live addressed.isLocal
      exact (consistent.logged transport message).requeue addressed.live addressed.isLocal
        (Server.sockets_modify addressed.live) (.of rfl) (fun _ => rfl) ⟨rfl, rfl, rfl⟩ rfl id
        (fun _ => .inr (by simp [addressed.peer])) ok.represents ok.write_iff .inl
        fun closing => (ok.closing_listed closing).2.2.2
  | written =>
      exact ((consistent.logged transport message).recordOutput _ _).sendPacket transport _
  | @queued a b s r packets bytes rest _ addressed represents _ _ =>
      have ok := consistent.locals a s addressed.live addressed.isLocal
      have pushed := represents.push rest
      have nonempty : (s.queue.push rest).first ≠ none := by
        simp [pushed.first_eq_none_iff]
      exact (consistent.logged transport message).requeue addressed.live addressed.isLocal
        (Server.sockets_modify addressed.live) (.of rfl) (Server.origin_recordOutput _ a bytes)
        ⟨rfl, rfl, rfl⟩ rfl id .inl ⟨_, pushed⟩ (by simp [nonempty])
        (fun _ => .inr ⟨ok.stillOpen_of_peer addressed.peer, b, r, addressed.peer,
          addressed.live_b, by simp [addressed.remote]⟩) fun _ => nonempty
  | broke _ _ _ _ _ closes =>
      exact ((consistent.logged transport message).recordOutput _ _).closes closes
  | stray id _ _ _ _ _ _ _ effects =>
      exact ((consistent.logged transport message).effects effects).sendPacket transport _

/-! ## Packets as receipts -/

/-- A socket that was found by its id is open, and has the peer that was asked for. -/
theorem findLocalSocket_spec {server : Server} (consistent : Consistent server)
    {localId peerId a : Nat} (found : server.findLocalSocket localId peerId = some a) :
    ∃ s, server.sockets a = some s ∧ s.kind = .localSocket ∧ s.closing = false ∧
      s.id = localId ∧
      (peerId = 0 ∨ ∃ b r, s.peer = some b ∧ server.sockets b = some r ∧ r.id = peerId) := by
  simp only [Server.findLocalSocket] at found
  split at found
  · cases found
  · rename_i c first
    split at found
    case isTrue asked =>
      cases found
      obtain ⟨s, live, isLocal, stillOpen⟩ := consistent.listed a (List.mem_of_find?_eq_some first)
      have named := List.find?_some first
      simp only [live, Option.any_some, decide_eq_true_eq] at named
      refine ⟨s, live, isLocal, stillOpen, named, asked.imp_right fun matches_ => ?_⟩
      simp only [Server.peerOf, live, Option.bind_some] at matches_
      cases peer : s.peer with
      | none => simp [peer] at matches_
      | some b =>
          cases live_b : server.sockets b with
          | none => simp [peer, live_b] at matches_
          | some r => exact ⟨b, r, rfl, live_b, by simpa [peer, live_b] using matches_⟩
    case isFalse => cases found

/-- Asking for a peer as well finds the same socket or none. -/
theorem findLocalSocket_any {server : Server} {localId peerId a : Nat}
    (found : server.findLocalSocket localId peerId = some a) :
    server.findLocalSocket localId 0 = some a := by
  simp only [Server.findLocalSocket] at found ⊢
  split at found
  · cases found
  · rename_i c first
    split at found
    case isTrue =>
      cases found
      simp
    case isFalse => cases found

/-- Asking for the peer a socket has finds it. -/
theorem findLocalSocket_peer {server : Server} {localId a b : Nat} {s r : Asocket}
    (found : server.findLocalSocket localId 0 = some a) (live : server.sockets a = some s)
    (peer : s.peer = some b) (live_b : server.sockets b = some r) :
    server.findLocalSocket localId r.id = some a := by
  simp only [Server.findLocalSocket] at found ⊢
  split at found
  · cases found
  · rename_i c first
    simp only [true_or, if_true, Option.some.injEq] at found
    subst found
    simp [Server.peerOf, live, peer, live_b]

theorem peerId_eq {server : Server} {s r : Asocket} {b : Nat} (peer : s.peer = some b)
    (live_b : server.sockets b = some r) : server.peerId s = r.id := by
  simp [Server.peerId, peer, live_b]

/-- A packet is received, and effects follow. -/
def Handles (server : Server) (transport : Nat) (message : Message) (server' : Server) : Prop :=
  ∃ middle, Receipt server transport message middle ∧ Effects middle server'

theorem Handles.of_inert {server server' : Server} {transport : Nat} {message : Message}
    (inert : Inert server transport message)
    (effects : Effects (server.logged transport message) server') :
    Handles server transport message server' :=
  ⟨_, .inert inert, effects⟩

theorem Handles.of_command {server server' : Server} {transport : Nat} {message : Message}
    (okay : message.command ≠ .okay) (wrte : message.command ≠ .wrte)
    (effects : Effects (server.logged transport message) server') :
    Handles server transport message server' :=
  .of_inert (fun _ _ _ command => absurd command (by simp [okay, wrte])) effects

theorem Handles.consistent {server server' : Server} {transport : Nat} {message : Message}
    (handles : Handles server transport message server') (consistent : Consistent server) :
    Consistent server' := by
  obtain ⟨middle, receipt, effects⟩ := handles
  exact (consistent.receipt receipt).effects effects

theorem effects_sendClose {server : Server} (consistent : Consistent server)
    (transport arg0 arg1 : Nat) :
    Effects server (server.sendPacket transport ⟨.clse, arg0, arg1, []⟩) := by
  refine (Effect.closes (fun _ => False) ?_).once
  exact ⟨fun _ _ => rfl, by simp, by simp, by simp [Server.sendPacket],
    by simp [Server.sendPacket], by simp [Server.sendPacket], consistent.closing_nodup,
    ⟨_, rfl, by simp⟩, rfl, rfl, rfl, rfl, rfl, fun _ => rfl, fun _ _ => id⟩

/-- `local_socket_ready`, after what `local_socket_ready_notify` does before it. -/
theorem ready_local {server : Server} {a : Nat} {s : Asocket} (live : server.sockets a = some s)
    (isLocal : s.kind = .localSocket) (deviceList : List UInt8) :
    SameTraffic (server.modify a fun s => { s with notify := false, wantRead := true })
      (server.ready a deviceList) := by
  simp only [Server.ready, live, isLocal]
  cases notified : s.notify with
  | true =>
      refine .of_sockets ?_ rfl
      simp [Server.endNotify, Server.writeStatus, Server.modify, live]
  | false =>
      refine .of_sockets ?_ rfl
      simp only [Bool.false_eq_true, if_false, Server.modify, live, Option.map_some]
      rw [← notified]

theorem SameTraffic.trans {first second third : Server} (one : SameTraffic first second)
    (two : SameTraffic second third) : SameTraffic first third :=
  ⟨two.sockets.trans one.sockets, two.fresh.trans one.fresh, two.list.trans one.list,
    two.closingList.trans one.closingList, two.nextId.trans one.nextId,
    two.history.trans one.history, two.sent.trans one.sent, two.received.trans one.received,
    two.installs.trans one.installs, fun t => (two.online t).trans (one.online t),
    fun t c member => one.disconnects t c (two.disconnects t c member)⟩

theorem handles_handleOpen {server : Server} (consistent : Consistent server) (transport : Nat)
    {message : Message} (command : message.command = .open) (outside : Outside)
    (writes : List WriteResult) :
    Handles server transport message
      ({ server.logged transport message with writes }.handleOpen transport message outside) := by
  have used := effects_writes (server.logged transport message) writes
  have consistent' := (consistent.logged transport message).effects used
  simp only [Server.handleOpen]
  split
  case isTrue asked =>
    split
    case isTrue =>
      refine ⟨_, .accept command asked.2.1, effects_quiet ?_⟩
      refine SameTraffic.trans ?_ (ready_local (s :=
        { kind := .localSocket, id := server.localSocketNextId, peer := some (server.fresh + 1) })
        ?_ rfl outside.deviceList)
      · refine .of_sockets ?_ rfl
        simp [Server.acceptStream, Server.createLocalSocket, Server.createRemoteSocket,
          Server.link, Server.modify, Server.record, Server.sendPacket, Server.logged]
      · simp [Server.createLocalSocket, Server.createRemoteSocket,
          Server.link, Server.modify, Server.record, Server.sendPacket, Server.logged]
    case isFalse =>
      exact .of_command (by simp [command]) (by simp [command])
        (used.trans (effects_sendClose consistent' transport 0 message.arg0))
  case isFalse => exact .of_command (by simp [command]) (by simp [command]) used

/-- The peer of the socket that the packet names is not the one it comes from. -/
theorem inert_of_peer {server : Server} (transport : Nat) {message : Message} {a b : Nat}
    {s r : Asocket} (found : server.findLocalSocket message.arg1 0 = some a)
    (live : server.sockets a = some s) (peer : s.peer = some b)
    (live_b : server.sockets b = some r)
    (other : r.kind = .remoteSocket → r.id ≠ message.arg0) : Inert server transport message := by
  intro _ _ _ _ c q found' live_q
  rw [found] at found'
  cases found'
  rw [live] at live_q
  cases live_q
  refine ⟨by simp [peer], fun d p peer_d live_p remote => ?_⟩
  rw [peer] at peer_d
  cases peer_d
  rw [live_b] at live_p
  cases live_p
  exact other remote

theorem handles_handleOkay {server : Server} (consistent : Consistent server) (transport : Nat)
    {message : Message} (command : message.command = .okay) (outside : Outside)
    (writes : List WriteResult) :
    Handles server transport message
      ({ server.logged transport message with writes }.handleOkay transport message outside) := by
  have used := effects_writes (server.logged transport message) writes
  have consistent' := (consistent.logged transport message).effects used
  have search : { server.logged transport message with writes }.findLocalSocket message.arg1 0 =
      server.findLocalSocket message.arg1 0 := rfl
  simp only [Server.handleOkay]
  split
  case isTrue asked =>
    rw [search]
    cases found : server.findLocalSocket message.arg1 0 with
    | none =>
        refine .of_inert ?_ used
        intro _ _ _ _ a s found'
        rw [found] at found'
        cases found'
    | some a =>
        obtain ⟨s, live, isLocal, stillOpen, id_eq, _⟩ := findLocalSocket_spec consistent found
        have live' : (server.logged transport message).sockets a = some s := live
        simp only [live']
        cases peer : s.peer with
        | none =>
            have absent := consistent.unallocated server.fresh (Nat.le_refl _)
            have different : a ≠ server.fresh := by
              rintro rfl
              rw [live] at absent
              cases absent
            refine ⟨_, .connect a command live isLocal stillOpen id_eq peer, effects_quiet ?_⟩
            refine SameTraffic.trans ?_ (ready_local (s := { s with peer := some server.fresh })
              ?_ isLocal outside.deviceList)
            · exact .of_sockets rfl rfl
            · simp [Server.createRemoteSocket, Server.link, Server.modify, Server.record,
                Server.logged, different, live]
        | some b =>
            obtain ⟨r, live_b, peer_b⟩ := consistent.symmetric a s b live peer
            have id_of_peer : { server.logged transport message with writes }.peerId s = r.id :=
              peerId_eq peer live_b
            simp only [id_of_peer]
            split
            case isTrue matching =>
              by_cases remote : r.kind = .remoteSocket
              · have addressed : Addressed server message a b s r :=
                  ⟨live, isLocal, id_eq, peer, live_b, remote, matching⟩
                refine ⟨_, .resume command addressed, effects_quiet ?_⟩
                have live'' : { server.logged transport message with writes }.sockets a =
                    some s := live
                refine SameTraffic.trans ?_ (ready_local live'' isLocal outside.deviceList)
                have silent := (consistent.locals a s live isLocal).unnotified_of_peer peer
                refine .of_sockets ?_ rfl
                simp [Server.modify, Server.logged, live, ← silent]
              · refine .of_inert ?_
                  (used.trans (effects_ready (s := s) consistent' live ?_ peer ?_ _))
                · exact inert_of_peer transport found live peer live_b fun remote' =>
                    absurd remote' remote
                · simp [isLocal]
                · intro _
                  exact consistent'.unstreamed a s b r live' isLocal peer live_b remote
            case isFalse mismatch =>
              refine .of_inert ?_ used
              exact inert_of_peer transport found live peer live_b fun _ => mismatch
  case isFalse ignored =>
    refine .of_inert ?_ used
    intro online arg0 arg1
    exact absurd ⟨online, arg0, arg1⟩ ignored

theorem handles_handleClose {server : Server} (consistent : Consistent server) (transport : Nat)
    {message : Message} (command : message.command = .clse) (writes : List WriteResult) :
    Handles server transport message
      ({ server.logged transport message with writes }.handleClose transport message) := by
  have used := effects_writes (server.logged transport message) writes
  have consistent' := (consistent.logged transport message).effects used
  refine .of_command (by simp [command]) (by simp [command]) (used.trans ?_)
  simp only [Server.handleClose]
  split
  · split
    · exact .refl
    · split
      · exact .refl
      · exact effects_close consistent' _
  · exact .refl

/-- The end of `handleWrite`: a packet that was enqueued at once is acknowledged. -/
def okayed (transport : Nat) (message : Message) (a : Nat) (result : Server × Int) :
    Server :=
  if result.2 = 0 then
    match result.1.sockets a with
    | none => result.1
    | some s => result.1.sendPacket transport ⟨.okay, s.id, message.arg0, []⟩
  else result.1

/-- A packet for a stream is written, queued or breaks the socket. -/
theorem Addressed.handles_write {server : Server} {message : Message} {a b : Nat} {s r : Asocket}
    (addressed : Addressed server message a b s r) (consistent : Consistent server)
    (transport : Nat) (command : message.command = .wrte) (writes : List WriteResult) :
    Handles server transport message (okayed transport message a
      ({ server.logged transport message with writes }.localSocketEnqueue a message.payload)) := by
  have live := addressed.live
  have live' : (server.logged transport message).sockets a = some s := live
  obtain ⟨packets, represents⟩ := (consistent.locals a s live addressed.isLocal).represents
  simp only [okayed, Server.localSocketEnqueue, live']
  cases first : s.queue.first with
  | some cell =>
      have nonempty : packets ≠ [] := by
        rintro rfl
        rw [represents.first_eq_none_iff.mpr rfl] at first
        cases first
      simp only [Option.isSome_some, if_true]
      refine ⟨_, .queued [] message.payload command addressed represents rfl fun _ => rfl,
        effects_quiet ?_⟩
      refine ⟨rfl, rfl, rfl, rfl, rfl, ?_, rfl, rfl, rfl, fun _ => rfl, fun _ _ member => member⟩
      simp [Server.enqueuePacket, Server.modify, Server.recordOutput, Server.record]
  | none =>
      have nothing := represents.first_eq_none_iff.mp first
      subst nothing
      obtain ⟨parts, done_iff⟩ := writeLoop_spec false writes message.payload
      simp only [Option.isSome_none, Bool.false_eq_true, if_false]
      generalize writeLoop false writes message.payload = loop at parts done_iff
      obtain ⟨written, rest, outcome, writes'⟩ := loop
      simp only at parts done_iff ⊢
      cases outcome with
      | done =>
          have nothing := done_iff.mp rfl
          subst nothing
          rw [List.append_nil] at parts
          subst parts
          have live'' : ({ server.logged transport message with
              writes := writes' }.recordOutput a message.payload).sockets a = some s := live
          simp only [if_true, live'']
          refine ⟨_, .written command addressed represents, effects_quiet ?_⟩
          exact .of_sockets rfl rfl
      | again =>
          refine ⟨_, .queued written rest command addressed represents parts (by simp),
            effects_quiet ?_⟩
          exact .of_sockets rfl rfl
      | failed =>
          have recorded : Consistent ({ server.logged transport message with
              writes := writes' }.recordOutput a written) :=
            consistent.congr (.of rfl (Server.origin_recordOutput _ a written))
          have closes := closes_close (s := s) recorded live
          have closes' : Closes ((server.logged transport message).recordOutput a written)
              (({ server.logged transport message with
                writes := writes' }.recordOutput a written).close a)
              (fun c => c = a ∨ s.peer = some c) :=
            ⟨closes.others, closes.ended, closes.peers, closes.mem_list, closes.sublist,
              closes.mem_closing, closes.closing_nodup, closes.sent, closes.fresh,
              closes.nextId, closes.received, closes.history, closes.installs,
              closes.online, closes.disconnects⟩
          exact ⟨_, .broke command addressed represents parts (.inl rfl) closes', .refl⟩

/-- A packet for a socket whose peer is on this side too. -/
theorem handles_strayWrite {server : Server} {message : Message} {a b : Nat} {s r : Asocket}
    (consistent : Consistent server) (transport : Nat) (command : message.command = .wrte)
    (found : server.findLocalSocket message.arg1 0 = some a) (live : server.sockets a = some s)
    (isLocal : s.kind = .localSocket) (id_eq : s.id = message.arg1) (peer : s.peer = some b)
    (live_b : server.sockets b = some r) (not_remote : r.kind ≠ .remoteSocket)
    (not_smart : r.kind ≠ .smartSocket) (writes : List WriteResult) :
    Handles server transport message (okayed transport message a
      ({ server.logged transport message with writes }.localSocketEnqueue a message.payload)) := by
  have used := effects_writes (server.logged transport message) writes
  have consistent' := (consistent.logged transport message).effects used
  have origin := consistent.unstreamed a s b r live isLocal peer live_b not_remote
  have enqueued := used.trans (effects_localSocketEnqueue (s := s) (r := r) consistent'
    live isLocal peer live_b not_smart origin message.payload)
  generalize { server.logged transport message with writes }.localSocketEnqueue a
    message.payload = result at enqueued ⊢
  obtain ⟨middle, code⟩ := result
  have inert : Handles server transport message middle :=
    .of_inert (inert_of_peer transport found live peer live_b fun remote =>
      absurd remote not_remote) enqueued
  simp only [okayed]
  split
  · split
    · exact inert
    · exact ⟨_, .stray _ command live isLocal id_eq peer live_b not_remote enqueued, .refl⟩
  · exact inert

theorem handles_handleWrite {server : Server} (consistent : Consistent server) (transport : Nat)
    {message : Message} (command : message.command = .wrte) (outside : Outside)
    (writes : List WriteResult) :
    Handles server transport message
      ({ server.logged transport message with writes }.handleWrite transport message outside) := by
  have used := effects_writes (server.logged transport message) writes
  have search : { server.logged transport message with writes }.findLocalSocket message.arg1
      message.arg0 = server.findLocalSocket message.arg1 message.arg0 := rfl
  simp only [Server.handleWrite]
  split
  case isFalse ignored =>
    refine .of_inert ?_ used
    intro online arg0 arg1
    exact absurd ⟨online, arg0, arg1⟩ ignored
  case isTrue asked =>
    rw [search]
    cases found : server.findLocalSocket message.arg1 message.arg0 with
    | none =>
        refine .of_inert ?_ used
        intro _ _ _ _ a s found' live
        refine ⟨by simp [command], fun b r peer live_b _ same => ?_⟩
        have found'' := findLocalSocket_peer found' live peer live_b
        rw [same, found] at found''
        cases found''
    | some a =>
        obtain ⟨s, live, isLocal, stillOpen, id_eq, asked_for⟩ :=
          findLocalSocket_spec consistent found
        obtain ⟨b, r, peer, live_b, id_b⟩ := asked_for.resolve_left asked.2.1
        have live' : (server.logged transport message).sockets a = some s := live
        simp only [Server.enqueue, live', isLocal]
        by_cases remote : r.kind = .remoteSocket
        · have addressed : Addressed server message a b s r :=
            ⟨live, isLocal, id_eq, peer, live_b, remote, id_b⟩
          exact addressed.handles_write consistent transport command writes
        · have not_smart : r.kind ≠ .smartSocket := by
            intro smart
            -- The id of a smart socket is zero, and the packet names another.
            rw [consistent.smart_id b r live_b smart] at id_b
            exact asked.2.1 id_b.symm
          exact handles_strayWrite consistent transport command (findLocalSocket_any found) live
            isLocal id_eq peer live_b remote not_smart writes

/-- The packets that have to do with sockets. -/
def Message.IsSocket (message : Message) : Prop :=
  message.command ≠ .sync ∧ message.command ≠ .cnxn ∧ message.command ≠ .auth

theorem handles_handlePacket {server : Server} (consistent : Consistent server) (transport : Nat)
    {message : Message} (isSocket : message.IsSocket) (outside : Outside) :
    Handles server transport message (server.handlePacket transport message outside) := by
  obtain ⟨sync, cnxn, auth⟩ := isSocket
  simp only [Server.handlePacket]
  cases command : message.command with
  | sync => exact absurd command sync
  | cnxn => exact absurd command cnxn
  | auth => exact absurd command auth
  | «open» => exact handles_handleOpen consistent transport command outside outside.writes
  | okay => exact handles_handleOkay consistent transport command outside outside.writes
  | clse => exact handles_handleClose consistent transport command outside.writes
  | wrte => exact handles_handleWrite consistent transport command outside outside.writes
  | other word =>
      exact .of_command (by simp [command]) (by simp [command])
        (effects_writes (server.logged transport message) outside.writes)

end Sockets
end AdbWide
