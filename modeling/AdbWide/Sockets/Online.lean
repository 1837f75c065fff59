import AdbWide.Sockets.Reachability

/-!
# Online transports

`online` says whether the packets of streams are accepted from a transport, `connection_state` what
the clients of the server are told about it.  Only `handle_packet` writes the two, and nothing but
the order of the packets keeps them together.
-/

namespace AdbWide
namespace Sockets

/-- The states in which a transport serves streams. -/
def ConnectionState.Serves : ConnectionState → Bool
  | .bootloader | .device | .host | .recovery | .sideload => true
  | .offline | .noPerm | .unauthorized => false

namespace Server

/-- `online` and `connection_state` of the transports. -/
def statuses (server : Server) (t : Nat) : Bool × ConnectionState :=
  ((server.transports t).online, (server.transports t).connectionState)

/-! ## The sockets do not touch them -/

section statuses

variable {server : Server} {a b t id : Nat} {text deviceList packet : List UInt8}
  {outside : Outside}

@[simp] theorem statuses_modify {change : Asocket → Asocket} :
    (server.modify a change).statuses = server.statuses := rfl

@[simp] theorem statuses_free : (server.free a).statuses = server.statuses := rfl

@[simp] theorem statuses_sendPacket {message : Message} :
    (server.sendPacket t message).statuses = server.statuses := rfl

@[simp] theorem statuses_writeStatus : (server.writeStatus a text).statuses = server.statuses := rfl

@[simp] theorem statuses_record {change : History → History} :
    (server.record a change).statuses = server.statuses := rfl

@[simp] theorem statuses_clearPeer : (server.clearPeer a).statuses = server.statuses := rfl

@[simp] theorem statuses_link : (server.link a b).statuses = server.statuses := rfl

@[simp] theorem statuses_endNotify : (server.endNotify a text).statuses = server.statuses := rfl

@[simp] theorem statuses_createLocalSocket :
    server.createLocalSocket.statuses = server.statuses := rfl

@[simp] theorem statuses_createSmartSocket :
    server.createSmartSocket.statuses = server.statuses := rfl

@[simp] theorem statuses_createDeviceTracker :
    server.createDeviceTracker.statuses = server.statuses := rfl

@[simp] theorem statuses_recordOutput :
    (server.recordOutput a text).statuses = server.statuses := rfl

@[simp] theorem statuses_enqueuePacket :
    (server.enqueuePacket a packet).statuses = server.statuses := rfl

@[simp] theorem statuses_writes {writes : List WriteResult} :
    { server with writes }.statuses = server.statuses := rfl

/-- A transport may get another list of disconnects. -/
theorem statuses_disconnects {disconnects : List Nat} :
    { server with
      transports := Function.update server.transports t
        { server.transports t with disconnects } }.statuses = server.statuses := by
  funext other
  rcases eq_or_ne other t with rfl | different
  · simp [statuses]
  · simp [statuses, different]

@[simp] theorem statuses_createRemoteSocket :
    (server.createRemoteSocket id t).statuses = server.statuses :=
  statuses_disconnects

@[simp] theorem statuses_finishClose : (server.finishClose a).statuses = server.statuses := by
  unfold finishClose
  split
  · rfl
  · split <;> rfl

@[simp] theorem statuses_closeUnpeered : (server.closeUnpeered a).statuses = server.statuses := by
  unfold closeUnpeered
  split
  · rfl
  · split
    · split <;> simp
    · split
      · rfl
      · exact statuses_disconnects
    · rfl
    · rfl

@[simp] theorem statuses_shutdown : (server.shutdown a).statuses = server.statuses := by
  unfold shutdown
  split
  · rfl
  · split <;> rfl

@[simp] theorem statuses_localSocketCloseLocked :
    (server.localSocketCloseLocked a).statuses = server.statuses := by
  unfold localSocketCloseLocked
  split
  · rfl
  · split <;> simp

@[simp] theorem statuses_close : (server.close a).statuses = server.statuses := by
  unfold close
  split
  · rfl
  · split
    · split <;> simp
    all_goals split <;> simp

@[simp] theorem statuses_localSocketEnqueue :
    (server.localSocketEnqueue a packet).1.statuses = server.statuses := by
  unfold localSocketEnqueue
  split
  · rfl
  · split
    · rfl
    · dsimp only
      split <;> simp

@[simp] theorem statuses_deviceTrackerSend :
    (server.deviceTrackerSend a deviceList).statuses = server.statuses := by
  unfold deviceTrackerSend
  split
  · rfl
  · split <;> simp

@[simp] theorem statuses_ready : (server.ready a deviceList).statuses = server.statuses := by
  unfold ready
  split
  · rfl
  · split
    · dsimp only
      split <;> simp
    · split <;> simp
    · rfl
    · split <;> simp

/-- What is done for every member of a list. -/
theorem statuses_foldl {Member : Type} {act : Server → Member → Server}
    (keeps : ∀ server member, (act server member).statuses = server.statuses)
    (members : List Member) (server : Server) :
    (members.foldl act server).statuses = server.statuses := by
  induction members generalizing server with
  | nil => rfl
  | cons member members induction => rw [List.foldl_cons, induction, keeps]

@[simp] theorem statuses_updateTransports :
    (server.updateTransports deviceList).statuses = server.statuses :=
  statuses_foldl (fun _ _ => statuses_deviceTrackerSend) _ _

@[simp] theorem statuses_connectToRemote :
    (server.connectToRemote a text).statuses = server.statuses := by
  unfold connectToRemote
  split
  · rfl
  · split <;> rfl

@[simp] theorem statuses_runTransportDisconnects :
    (server.runTransportDisconnects t).statuses = server.statuses :=
  statuses_foldl (fun _ _ => statuses_close) _ _

@[simp] theorem statuses_closeAllSockets :
    (server.closeAllSockets t).statuses = server.statuses := by
  unfold closeAllSockets
  generalize server.localSocketList.length + 1 = rounds
  induction rounds generalizing server with
  | zero => rfl
  | succ rounds induction =>
      unfold closeAllSocketsLoop
      split
      · rfl
      · rw [induction, statuses_localSocketCloseLocked]

@[simp] theorem statuses_connectToHostService {kind : Kind} :
    (server.connectToHostService a b kind deviceList).statuses = server.statuses := by
  unfold connectToHostService
  dsimp only
  split <;> simp

@[simp] theorem statuses_connectToTransport :
    (server.connectToTransport a b t text).statuses = server.statuses := by
  simp [connectToTransport]

@[simp] theorem statuses_handleRequest {s : Asocket} :
    (server.handleRequest a s text outside).1.statuses = server.statuses := by
  unfold handleRequest
  split
  · simp
  · split
    · split
      · simp
      · split
        · simp
        · split <;> simp
    · split
      · simp
      · split <;> simp

@[simp] theorem statuses_smartSocketEnqueue {s : Asocket} :
    (server.smartSocketEnqueue a s packet outside).1.statuses = server.statuses := by
  unfold smartSocketEnqueue
  split
  · simp
  · dsimp only
    split
    · simp
    · split
      · simp
      · split <;> simp

@[simp] theorem statuses_enqueue :
    (server.enqueue a packet outside).1.statuses = server.statuses := by
  unfold enqueue
  split
  · rfl
  · split
    · simp
    · split <;> simp
    · simp
    · simp

@[simp] theorem statuses_eventWrite {s : Asocket} :
    (server.eventWrite a s deviceList).1.statuses = server.statuses := by
  unfold eventWrite
  dsimp only
  split
  · simp
  · simp
  · split
    · simp
    · split <;> simp

@[simp] theorem statuses_eventRead :
    (server.eventRead a outside).statuses = server.statuses := by
  unfold eventRead
  split
  · rfl
  · dsimp only
    split
    · split <;> simp
    · split
      · split <;> simp
      · split
        · simp
        · split <;> split <;> simp

@[simp] theorem statuses_localSocketEventFunc {write read : Bool} :
    (server.localSocketEventFunc a write read outside).statuses = server.statuses := by
  unfold localSocketEventFunc
  split
  · rfl
  · dsimp only
    split <;> split <;> simp

@[simp] theorem statuses_handleOpen {message : Message} :
    (server.handleOpen t message outside).statuses = server.statuses := by
  unfold handleOpen
  split
  · split <;> simp
  · rfl

@[simp] theorem statuses_handleOkay {message : Message} :
    (server.handleOkay t message outside).statuses = server.statuses := by
  unfold handleOkay
  split
  · split
    · rfl
    · split
      · rfl
      · split
        · simp
        · split <;> simp
  · rfl

@[simp] theorem statuses_handleClose {message : Message} :
    (server.handleClose t message).statuses = server.statuses := by
  unfold handleClose
  split
  · split
    · rfl
    · split <;> simp
  · rfl

@[simp] theorem statuses_handleWrite {message : Message} :
    (server.handleWrite t message outside).statuses = server.statuses := by
  unfold handleWrite
  split
  · split
    · rfl
    · dsimp only
      split
      · split <;> simp
      · simp
  · rfl

end statuses

/-! ## What `handle_packet` makes of them -/

section handlePacket

variable {server : Server} {t : Nat} {message : Message}

theorem statuses_modifyTransport {change : TransportState → TransportState} :
    (server.modifyTransport t change).statuses =
      Function.update server.statuses t
        ((change (server.transports t)).online,
          (change (server.transports t)).connectionState) := by
  funext other
  rcases eq_or_ne other t with rfl | different
  · simp [statuses, modifyTransport]
  · simp [statuses, modifyTransport, different]

theorem statuses_handleOffline :
    (server.handleOffline t).statuses =
      Function.update server.statuses t (false, (server.statuses t).2) := by
  rw [handleOffline, statuses_runTransportDisconnects, statuses_modifyTransport]
  rfl

/-- The state a banner sets is one of those that serve streams. -/
theorem statuses_parseBanner (server : Server) (t : Nat) (banner deviceList : List UInt8) :
    ∃ state : ConnectionState, state.Serves ∧
      (server.parseBanner t banner deviceList).statuses =
        Function.update server.statuses t ((server.statuses t).1, state) := by
  rcases server.parseBanner_cases t banner deviceList with same | ⟨state, listed, same⟩
  · refine ⟨.host, rfl, ?_⟩
    rw [same, statuses_modifyTransport]
    rfl
  · have serving : ∀ state ∈ [ConnectionState.bootloader, .device, .recovery, .sideload],
        state.Serves := by decide
    refine ⟨state, serving state listed, ?_⟩
    rw [same, statuses_updateTransports, statuses_modifyTransport]
    rfl

/-- `A_SYNC` leaves the transports as they are, or takes one offline in both respects. -/
theorem statuses_handleSync :
    (server.handleSync t message).statuses =
      if message.arg0 ≠ 0 then server.statuses
      else Function.update server.statuses t (false, .offline) := by
  unfold handleSync
  split
  · rfl
  · rw [statuses_sendPacket, statuses_handleOffline, statuses_modifyTransport]
    simp

/-- The end of `A_CNXN`: the banner and `handle_online`. -/
theorem statuses_connected (server : Server) (t : Nat) (banner deviceList : List UInt8) :
    ∃ state : ConnectionState, state.Serves ∧
      ((server.parseBanner t banner deviceList).modifyTransport t
        fun t => { t with online := true }).statuses =
          Function.update server.statuses t (true, state) := by
  obtain ⟨state, serves, parsed⟩ := server.statuses_parseBanner t banner deviceList
  refine ⟨state, serves, ?_⟩
  have named : ((server.parseBanner t banner deviceList).statuses t).2 = state := by
    rw [parsed, Function.update_self]
  rw [statuses_modifyTransport, parsed, Function.update_idem, ← named]
  rfl

theorem statuses_handleConnect (deviceList : List UInt8) :
    ∃ state : ConnectionState, state.Serves ∧
      (server.handleConnect t message deviceList).statuses =
        Function.update server.statuses t (true, state) := by
  unfold handleConnect
  dsimp only
  split
  · exact server.statuses_connected t message.payload deviceList
  · obtain ⟨state, serves, connected⟩ :=
      ((server.modifyTransport t
        fun t => { t with connectionState := .offline }).handleOffline t).statuses_connected t
          message.payload deviceList
    refine ⟨state, serves, connected.trans ?_⟩
    rw [statuses_handleOffline, statuses_modifyTransport]
    simp

theorem statuses_handleAuth (answer : Option Message) :
    (server.handleAuth t message answer).statuses =
      if message.arg0 = authToken then
        Function.update server.statuses t ((server.statuses t).1, .unauthorized)
      else server.statuses := by
  unfold handleAuth
  dsimp only
  split <;> split <;> simp [statuses_modifyTransport] <;> rfl

end handlePacket

end Server

theorem statuses_apply {server : Server} {step : Step} {outside : Outside}
    (other : ∀ t message, step ≠ .packet t message) :
    (step.apply outside server).statuses = server.statuses := by
  cases step with
  | packet t message => exact absurd rfl (other t message)
  | event | client | forward | closeAll | disconnect | update => simp [Step.apply]

/-! ## Agreement -/

/-- A transport is online exactly when its `connection_state` says that it serves streams. -/
def Agrees (server : Server) : Prop :=
  ∀ t, (server.transports t).online = (server.transports t).connectionState.Serves

/-- `AUTH(TOKEN)` is handled on an online transport. -/
def LateToken (server : Server) : Step → Prop
  | .packet t message =>
      message.command = .auth ∧ message.arg0 = Server.authToken ∧
        (server.transports t).online = true
  | _ => False

/-- A new status of one transport. -/
theorem Agrees.update {server server' : Server} (agrees : Agrees server) (t : Nat)
    (status : Bool × ConnectionState)
    (statuses : server'.statuses = Function.update server.statuses t status)
    (same : status.1 = status.2.Serves) : Agrees server' := by
  intro other
  change (server'.statuses other).1 = (server'.statuses other).2.Serves
  rw [statuses]
  rcases eq_or_ne other t with rfl | different
  · rw [Function.update_self, same]
  · rw [Function.update_of_ne different]
    exact agrees other

theorem Agrees.of_statuses {server server' : Server} (agrees : Agrees server)
    (statuses : server'.statuses = server.statuses) : Agrees server' := by
  refine agrees.update 0 (server.statuses 0) ?_ (agrees 0)
  rw [statuses, Function.update_eq_self]

/-- A packet breaks the agreement exactly if it is an `AUTH(TOKEN)` for an online transport. -/
theorem Agrees.handlePacket_iff {server : Server} (agrees : Agrees server) (t : Nat)
    (message : Message) (outside : Outside) :
    Agrees (server.handlePacket t message outside) ↔ ¬LateToken server (.packet t message) := by
  obtain ⟨command, arg0, arg1, payload⟩ := message
  have noted : Agrees { server with
      received := server.received ++ [(t, ⟨command, arg0, arg1, payload⟩)]
      writes := outside.writes } := agrees
  cases command with
  | sync =>
      refine iff_of_true ?_ (by simp [LateToken])
      simp only [Server.handlePacket]
      by_cases offline : arg0 = 0
      · exact noted.update t (false, .offline)
          (by rw [Server.statuses_handleSync, if_neg (by simpa using offline)]) rfl
      · exact noted.of_statuses (by rw [Server.statuses_handleSync, if_pos offline])
  | cnxn =>
      refine iff_of_true ?_ (by simp [LateToken])
      obtain ⟨state, serves, connected⟩ := Server.statuses_handleConnect outside.deviceList
      exact noted.update t (true, state) connected serves.symm
  | auth =>
      simp only [Server.handlePacket, LateToken, true_and]
      by_cases token : arg0 = Server.authToken
      · subst token
        simp only [true_and]
        constructor
        · intro agrees' online
          have told := agrees' t
          change (Server.statuses _ t).1 = (Server.statuses _ t).2.Serves at told
          rw [Server.statuses_handleAuth, if_pos rfl, Function.update_self] at told
          exact Bool.noConfusion (online.symm.trans told)
        · intro offline
          refine noted.update t ((server.transports t).online, .unauthorized) ?_
            (by simpa [ConnectionState.Serves] using offline)
          rw [Server.statuses_handleAuth, if_pos rfl]
          rfl
      · refine iff_of_true ?_ (by simp [token])
        exact noted.of_statuses (by rw [Server.statuses_handleAuth, if_neg token])
  | «open» => exact iff_of_true (noted.of_statuses Server.statuses_handleOpen) (by simp [LateToken])
  | okay => exact iff_of_true (noted.of_statuses Server.statuses_handleOkay) (by simp [LateToken])
  | clse => exact iff_of_true (noted.of_statuses Server.statuses_handleClose) (by simp [LateToken])
  | wrte => exact iff_of_true (noted.of_statuses Server.statuses_handleWrite) (by simp [LateToken])
  | other => exact iff_of_true noted (by simp [LateToken])

theorem Agrees.step {server server' : Server} {label : Step × Outside} (agrees : Agrees server)
    (timely : ¬LateToken server label.1) (step : ServerStep server label server') :
    Agrees server' := by
  obtain ⟨step, outside⟩ := label
  obtain ⟨-, rfl⟩ := step
  cases step with
  | packet t message => exact (agrees.handlePacket_iff t message outside).mpr timely
  | event | client | forward | closeAll | disconnect | update =>
      exact agrees.of_statuses (statuses_apply (by simp))

/-- The packets of streams have no effect but that they are noted. -/
def Refuses (server : Server) (t : Nat) : Prop :=
  ∀ message outside, message.IsSocket →
    server.handlePacket t message outside =
      { server with
        received := server.received ++ [(t, message)]
        writes := outside.writes }

theorem refuses_of_not_online {server : Server} {t : Nat}
    (offline : (server.transports t).online = false) : Refuses server t := by
  intro message outside isSocket
  obtain ⟨command, arg0, arg1, payload⟩ := message
  cases command with
  | «open» => simp [Server.handlePacket, Server.handleOpen, offline]
  | okay => simp [Server.handlePacket, Server.handleOkay, offline]
  | clse => simp [Server.handlePacket, Server.handleClose, offline]
  | wrte => simp [Server.handlePacket, Server.handleWrite, offline]
  | other => rfl
  | sync | cnxn | auth => simp [Message.IsSocket] at isSocket

/-- As long as no `AUTH(TOKEN)` is handled on an online transport, a transport is online exactly in
the states that serve streams, and the packets of streams are refused on the transports the clients
are told to be offline or unauthorized. -/
theorem agrees_of_timely_tokens {labels : List (Step × Outside)} {server : Server}
    (trace : Trace (Guarded ServerStep fun server label => ¬LateToken server label.1) .start
      labels server) :
    Agrees server ∧
      ∀ t, (server.transports t).connectionState = .offline ∨
        (server.transports t).connectionState = .unauthorized → Refuses server t := by
  have agrees : Agrees server := by
    refine trace.invariant Agrees (fun _ => rfl) ?_
    rintro before label after agrees ⟨timely, step⟩
    exact agrees.step timely step
  refine ⟨agrees, fun t state => refuses_of_not_online ?_⟩
  rw [agrees t]
  rcases state with state | state <;> rw [state] <;> rfl

/-- A device asks for authentication and then connects. -/
def authorized : List (Step × Outside) :=
  [(.packet 0 ⟨.auth, Server.authToken, 0, []⟩, {}),
    (.packet 0 ⟨.cnxn, Server.aVersion, maxPayload, Server.ascii "device::" ++ [0]⟩, {})]

theorem agrees_of_timely_tokens_authorized :
    (Server.run authorized).statuses 0 = (true, .device) ∧ Agrees (Server.run authorized) := by
  have follows : Follows (Guarded ServerStep fun server label => ¬LateToken server label.1)
      (fun server label => label.1.apply label.2 server) Server.start authorized := by
    refine ⟨⟨?_, trivial, rfl⟩, ⟨?_, trivial, rfl⟩, trivial⟩
    · simp [LateToken, Server.start]
    · simp [LateToken]
  exact ⟨by with_unfolding_all decide, (agrees_of_timely_tokens (Trace.nil.foldl follows)).1⟩

/-- A connected device asks for authentication again. -/
def reauthenticated : List (Step × Outside) :=
  authorized ++ [((.packet 0 ⟨.auth, Server.authToken, 0, []⟩ : Step), ({} : Outside))]

/-- The transport is told to be unauthorized, and it still opens a stream. -/
theorem agreement_fails_after_late_token :
    (Server.run reauthenticated).statuses 0 = (true, .unauthorized) ∧
      ((Server.run reauthenticated).handlePacket 0 ⟨.open, 7, 0, []⟩ {}).sent ≠
        (Server.run reauthenticated).sent ∧
      ¬∀ labels server, Trace ServerStep Server.start labels server → Agrees server := by
  refine ⟨by with_unfolding_all decide, by with_unfolding_all decide, fun agree => ?_⟩
  obtain ⟨labels, trace⟩ : Reachable ServerStep Server.start (Server.run reauthenticated) :=
    reachable_run (by simp [reauthenticated, authorized, Step.Allowed])
  have same := agree labels _ trace 0
  revert same
  decide

end Sockets
end AdbWide
