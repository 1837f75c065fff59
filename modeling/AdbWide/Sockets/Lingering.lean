import AdbWide.Sockets.Isolation

/-!
# Closing sockets are left alone

A socket that is closed while packets wait for its file descriptor is put on the closing list, and
nothing refers to it any more but its own events.  This file proves that every other step of the
server leaves it as it is.
-/

namespace AdbWide
namespace Sockets

/-- Nothing outside the closing list refers to the socket at this address. -/
structure Alone (a : Nat) (server : Server) : Prop where
  unpeered : ∀ c s, server.sockets c = some s → s.peer ≠ some a
  unlisted : a ∉ server.localSocketList
  unregistered : ∀ t, a ∉ (server.transports t).disconnects
  allocated : a < server.fresh

/-- If nothing refers to the socket before, nothing does after, and it is unchanged. -/
def Passes (a : Nat) (server server' : Server) : Prop :=
  Alone a server → Alone a server' ∧ Unchanged server server' a

theorem Consistent.alone {server : Server} (consistent : Consistent server) {a : Nat} {s : Asocket}
    (live : server.sockets a = some s) (isLocal : s.kind = .localSocket)
    (closing : s.closing = true) : Alone a server := by
  obtain ⟨-, -, unpeered, -⟩ := (consistent.locals a s live isLocal).closing_listed closing
  refine ⟨fun c r live_c peer => ?_, fun listed => ?_, fun t registered => ?_, ?_⟩
  · obtain ⟨s', live', peer'⟩ := consistent.symmetric c r a live_c peer
    cases live.symm.trans live'
    rw [unpeered] at peer'
    cases peer'
  · obtain ⟨s', live', -, stillOpen⟩ := consistent.listed a listed
    cases live.symm.trans live'
    rw [closing] at stillOpen
    cases stillOpen
  · obtain ⟨remote, -⟩ := (consistent.registered t a registered).2 s live
    rw [isLocal] at remote
    cases remote
  · by_contra unallocated
    rw [consistent.unallocated a (by omega)] at live
    cases live

namespace Passes

variable {a c : Nat} {server server' server'' : Server}

theorem refl (a : Nat) (server : Server) : Passes a server server := fun alone =>
  ⟨alone, rfl, rfl⟩

theorem trans (first : Passes a server server') (second : Passes a server' server'') :
    Passes a server server'' := fun alone => by
  obtain ⟨alone', sockets, output⟩ := first alone
  obtain ⟨alone'', sockets', output'⟩ := second alone'
  exact ⟨alone'', sockets'.trans sockets, output'.trans output⟩

/-- A fact about the server before may be used. -/
theorem of_alone (passes : Alone a server → Passes a server server') : Passes a server server' :=
  fun alone => passes alone alone

theorem foldl {Member : Type} {act : Server → Member → Server} {members : List Member}
    (each : ∀ server, ∀ member ∈ members, Passes a server (act server member))
    (server : Server) : Passes a server (members.foldl act server) := by
  induction members generalizing server with
  | nil => exact refl a server
  | cons member members induction =>
      refine (each server member List.mem_cons_self).trans (induction ?_ _)
      exact fun server other inside => each server other (List.mem_cons_of_mem _ inside)

/-! ## Single changes -/

theorem of_same (sockets : server'.sockets = server.sockets)
    (list : server'.localSocketList ⊆ server.localSocketList)
    (disconnects : FewerDisconnects server server') (fresh : server'.fresh = server.fresh)
    (output : (server'.history a).output = (server.history a).output) :
    Passes a server server' := fun alone => by
  refine ⟨⟨?_, fun listed => alone.unlisted (list listed),
    fun t registered => alone.unregistered t (disconnects t a registered), ?_⟩,
    by rw [sockets], output⟩
  · rw [sockets]
    exact alone.unpeered
  · rw [fresh]
    exact alone.allocated

/-- Nothing that is looked at here changes. -/
theorem quiet (same : (server'.sockets, server'.localSocketList, server'.transports, server'.fresh,
      server'.history) =
    (server.sockets, server.localSocketList, server.transports, server.fresh, server.history)) :
    Passes a server server' := by
  simp only [Prod.mk.injEq] at same
  obtain ⟨sockets, list, transports, fresh, history⟩ := same
  refine of_same sockets (fun _ => list ▸ id) (fun t d => ?_) fresh (by rw [history])
  rw [transports]
  exact id

theorem modify (different : a ≠ c) (server : Server) {change : Asocket → Asocket}
    (keeps : ∀ s, (change s).peer = some a → s.peer = some a) :
    Passes a server (server.modify c change) := fun alone => by
  refine ⟨⟨fun d s live => ?_, alone.unlisted, alone.unregistered, alone.allocated⟩,
    Server.sockets_modify_of_ne different, rfl⟩
  by_cases same : d = c
  · subst same
    rw [Server.sockets_modify_self] at live
    obtain ⟨r, live', rfl⟩ := Option.map_eq_some_iff.mp live
    exact fun peer => alone.unpeered d r live' (keeps r peer)
  · rw [Server.sockets_modify_of_ne same] at live
    exact alone.unpeered d s live

theorem free (different : a ≠ c) (server : Server) : Passes a server (server.free c) :=
  fun alone => by
    refine ⟨⟨fun d s live => ?_, alone.unlisted, alone.unregistered, alone.allocated⟩,
      by simp [Server.free, different], rfl⟩
    by_cases same : d = c
    · subst same
      simp [Server.free] at live
    · simp only [Server.free, Function.update_of_ne same] at live
      exact alone.unpeered d s live

theorem record (different : a ≠ c) (server : Server) (change : History → History) :
    Passes a server (server.record c change) :=
  of_same rfl (fun _ => id) (fun _ _ => id) rfl (by simp [Server.record, different])

theorem writes (a : Nat) (server : Server) (writes : List WriteResult) :
    Passes a server { server with writes } :=
  quiet rfl

theorem sendPacket (a : Nat) (server : Server) (t : Nat) (message : Message) :
    Passes a server (server.sendPacket t message) :=
  quiet rfl

theorem writeStatus (a : Nat) (server : Server) (b : Nat) (text : List UInt8) :
    Passes a server (server.writeStatus b text) :=
  quiet rfl

theorem clearPeer (different : a ≠ c) (server : Server) : Passes a server (server.clearPeer c) :=
  modify different server fun _ => by simp

theorem endNotify (different : a ≠ c) (server : Server) (text : List UInt8) :
    Passes a server (server.endNotify c text) := by
  have ended : Passes a server (server.modify c fun s => { s with notify := false }) :=
    modify different server fun _ => id
  exact ended.trans (writeStatus a _ c text)

theorem removeSocket (different : a ≠ c) (server : Server) :
    Passes a server (server.removeSocket c) := by
  have unnumbered : Passes a server (server.modify c fun s => { s with id := 0 }) :=
    modify different server fun _ => id
  exact unnumbered.trans (of_same rfl List.erase_subset (fun _ _ => id) rfl rfl)

theorem modifyTransport (server : Server) (t : Nat) {change : TransportState → TransportState}
    (fewer : ∀ state, ∀ d ∈ (change state).disconnects, d ∈ state.disconnects) :
    Passes a server (server.modifyTransport t change) := by
  refine of_same rfl (fun _ => id) (fun t' d registered => ?_) rfl rfl
  by_cases same : t' = t
  · subst same
    simp only [Server.modifyTransport, Function.update_self] at registered
    exact fewer _ d registered
  · simpa [Server.modifyTransport, same] using registered

/-! ## Closing -/

theorem finishClose (different : a ≠ c) (server : Server) :
    Passes a server (server.finishClose c) := by
  unfold Server.finishClose
  split
  · exact refl a server
  · split
    · exact (removeSocket different server).trans (free different _)
    · have closing : Passes a server
          (server.modify c fun s => { s with closing := true, wantRead := false }) :=
        modify different server fun _ => id
      exact (closing.trans (removeSocket different _)).trans (quiet rfl)

theorem closeUnpeered (different : a ≠ c) (server : Server) :
    Passes a server (server.closeUnpeered c) := by
  unfold Server.closeUnpeered
  split
  · exact refl a server
  · split
    · split
      · exact (endNotify different server _).trans (finishClose different _)
      · exact finishClose different server
    · split
      · exact free different server
      · next t _ =>
          refine trans ?_ (free different _)
          refine of_same rfl (fun _ => id) (fun t' d registered => ?_) rfl rfl
          exact (mem_disconnects_erase t' d registered)
    · exact free different server
    · have untracked : Passes a server
          { server with deviceTrackerList := server.deviceTrackerList.erase c } := quiet rfl
      exact untracked.trans (free different _)

theorem shutdown (a : Nat) (server : Server) (b : Nat) : Passes a server (server.shutdown b) := by
  unfold Server.shutdown
  split
  · exact refl a server
  · split
    · exact sendPacket a server _ _
    · exact refl a server

theorem localSocketCloseLocked (different : a ≠ c) (server : Server) :
    Passes a server (server.localSocketCloseLocked c) := by
  refine of_alone fun alone => ?_
  unfold Server.localSocketCloseLocked
  split
  · exact refl a server
  · next s live =>
      split
      · exact finishClose different server
      · next b peer =>
          have different_b : a ≠ b := by
            rintro rfl
            exact alone.unpeered c s live peer
          have shut := (shutdown a server b).trans (clearPeer different_b _)
          have closed := (shut.trans (closeUnpeered different_b _)).trans (clearPeer different _)
          exact closed.trans (finishClose different _)

theorem close (different : a ≠ c) (server : Server) : Passes a server (server.close c) := by
  refine of_alone fun alone => ?_
  unfold Server.close
  split
  · exact refl a server
  · next s live =>
      split
      · split
        · exact (endNotify different server _).trans (localSocketCloseLocked different _)
        · exact localSocketCloseLocked different server
      all_goals
        split
        · exact closeUnpeered different server
        · next b peer =>
            have different_b : a ≠ b := by
              rintro rfl
              exact alone.unpeered c s live peer
            have peer := (clearPeer different_b server).trans (closeUnpeered different_b _)
            exact peer.trans (closeUnpeered different _)

theorem closeAllSocketsLoop (a t rounds : Nat) (server : Server) :
    Passes a server (Server.closeAllSocketsLoop t rounds server) := by
  induction rounds generalizing server with
  | zero => exact refl a server
  | succ rounds induction =>
      refine of_alone fun alone => ?_
      simp only [Server.closeAllSocketsLoop]
      split
      · exact refl a server
      · next c found =>
          have different : a ≠ c := by
            rintro rfl
            exact alone.unlisted (List.mem_of_find?_eq_some found)
          exact (localSocketCloseLocked different server).trans (induction _)

theorem runTransportDisconnects (a t : Nat) (server : Server) :
    Passes a server (server.runTransportDisconnects t) := by
  refine of_alone fun alone => foldl (fun server c member => ?_) server
  have different : a ≠ c := by
    rintro rfl
    exact alone.unregistered t member
  exact close different server

/-! ## Enqueue and ready -/

theorem recordOutput (different : a ≠ c) (server : Server) (bytes : List UInt8) :
    Passes a server (server.recordOutput c bytes) :=
  record different server _

theorem enqueuePacket (different : a ≠ c) (server : Server) (packet : List UInt8) :
    Passes a server (server.enqueuePacket c packet) :=
  modify different server fun _ => id

theorem localSocketEnqueue (different : a ≠ c) (server : Server) (packet : List UInt8) :
    Passes a server (server.localSocketEnqueue c packet).1 := by
  unfold Server.localSocketEnqueue
  split
  · exact refl a server
  · split
    · exact enqueuePacket different server packet
    · generalize writeLoop false server.writes packet = loop
      have recorded := (writes a server loop.writes).trans
        (recordOutput different _ loop.written)
      dsimp only
      split
      · exact recorded
      · exact recorded.trans (enqueuePacket different _ _)
      · exact recorded.trans (close different _)

theorem deviceTrackerSend (a : Nat) (server : Server) (b : Nat) (deviceList : List UInt8) :
    Passes a server (server.deviceTrackerSend b deviceList) := by
  refine of_alone fun alone => ?_
  unfold Server.deviceTrackerSend
  split
  · exact refl a server
  · next s live =>
      split
      · next c _ peer =>
          have different : a ≠ c := by
            rintro rfl
            exact alone.unpeered b s live peer
          exact localSocketEnqueue different server deviceList
      · exact refl a server

theorem updateTransports (a : Nat) (server : Server) (deviceList : List UInt8) :
    Passes a server (server.updateTransports deviceList) :=
  foldl (fun server b _ => deviceTrackerSend a server b deviceList) server

theorem ready (different : a ≠ c) (server : Server) (deviceList : List UInt8) :
    Passes a server (server.ready c deviceList) := by
  unfold Server.ready
  split
  · exact refl a server
  · split
    · refine trans ?_ (modify different _ fun _ => id)
      split
      · exact endNotify different server _
      · exact refl a server
    · split
      · exact refl a server
      · exact sendPacket a server _ _
    · exact refl a server
    · split
      · have noted : Passes a server (server.modify c fun s => { s with updateNeeded := false }) :=
          modify different server fun _ => id
        exact noted.trans (deviceTrackerSend a _ c deviceList)
      · exact refl a server

/-! ## New sockets -/

/-- A socket without a peer is made at the next address. -/
theorem create {s : Asocket} (unpeered : s.peer = none)
    (sockets : server'.sockets = Function.update server.sockets server.fresh (some s))
    (fresh : server'.fresh = server.fresh + 1)
    (list : server'.localSocketList ⊆ server.localSocketList ++ [server.fresh])
    (disconnects : ∀ t d, d ∈ (server'.transports t).disconnects →
      d ∈ (server.transports t).disconnects ∨ d = server.fresh)
    (output : a ≠ server.fresh →
      (server'.history a).output = (server.history a).output) :
    Passes a server server' := fun alone => by
  have different : a ≠ server.fresh := Nat.ne_of_lt alone.allocated
  refine ⟨⟨fun d r live => ?_, fun listed => ?_, fun t registered => ?_, ?_⟩, ?_,
    output different⟩
  · rw [sockets] at live
    by_cases same : d = server.fresh
    · subst same
      rw [Function.update_self, Option.some.injEq] at live
      simp [← live, unpeered]
    · rw [Function.update_of_ne same] at live
      exact alone.unpeered d r live
  · rcases List.mem_append.mp (list listed) with old | new
    · exact alone.unlisted old
    · exact different (List.mem_singleton.mp new)
  · rcases disconnects t a registered with old | new
    · exact alone.unregistered t old
    · exact different new
  · rw [fresh]
    exact Nat.lt_succ_of_lt alone.allocated
  · rw [sockets, Function.update_of_ne different]

theorem createLocalSocket (a : Nat) (server : Server) :
    Passes a server server.createLocalSocket :=
  create rfl rfl rfl (fun _ => id) (fun _ _ => .inl)
    fun different => by simp [Server.createLocalSocket, different]

theorem createRemoteSocket (a : Nat) (server : Server) (id t : Nat) :
    Passes a server (server.createRemoteSocket id t) := by
  refine create rfl rfl rfl (List.subset_append_left _ _) (fun t' d registered => ?_) fun _ => rfl
  by_cases same : t' = t
  · subst same
    simpa [Server.createRemoteSocket] using registered
  · exact .inl (by simpa [Server.createRemoteSocket, same] using registered)

theorem createSmartSocket (a : Nat) (server : Server) :
    Passes a server server.createSmartSocket :=
  create rfl rfl rfl (List.subset_append_left _ _) (fun _ _ => .inl) fun _ => rfl

theorem createDeviceTracker (a : Nat) (server : Server) :
    Passes a server server.createDeviceTracker :=
  create rfl rfl rfl (List.subset_append_left _ _) (fun _ _ => .inl) fun _ => rfl

theorem link {b : Nat} (different : a ≠ b) (different' : a ≠ c) (server : Server) :
    Passes a server (server.link b c) := by
  have left : Passes a server (server.modify b fun s => { s with peer := some c }) :=
    modify different server fun s peer => absurd (Option.some.inj peer).symm different'
  exact left.trans (modify different' _ fun s peer => absurd (Option.some.inj peer).symm different)

theorem connectToRemote (different : a ≠ c) (server : Server) (destination : List UInt8) :
    Passes a server (server.connectToRemote c destination) := by
  unfold Server.connectToRemote
  split
  · exact refl a server
  · split
    · exact refl a server
    · exact (sendPacket a server _ _).trans (record different _ _)

/-- The address of the next socket is not that of one that is there. -/
theorem fresh_ne (alone : Alone a server) : a ≠ server.fresh := Nat.ne_of_lt alone.allocated

/-! ## Requests -/

theorem connectToHostService {b : Nat} (different : a ≠ c) (different' : a ≠ b) (server : Server)
    (kind : Kind) (deviceList : List UInt8) :
    Passes a server (server.connectToHostService c b kind deviceList) := by
  refine of_alone fun alone => ?_
  have fresh := fresh_ne alone
  have created : Passes a server (if kind = .deviceTracker then server.createDeviceTracker
      else server.createLocalSocket) := by
    split
    · exact createDeviceTracker a server
    · exact createLocalSocket a server
  have joined := (created.trans (endNotify different' _ Server.okayText)).trans
    (link different' fresh _)
  have closed := (joined.trans (clearPeer different _)).trans (close different _)
  exact closed.trans (ready fresh _ deviceList)

theorem connectToTransport {b : Nat} (different : a ≠ c) (different' : a ≠ b) (server : Server)
    (t : Nat) (destination : List UInt8) :
    Passes a server (server.connectToTransport c b t destination) := by
  have waits : Passes a server (server.modify b fun s =>
      { s with notify := true, peer := none, transport := some t }) :=
    modify different' server fun _ => by simp
  have asked := waits.trans (connectToRemote different' _ destination)
  exact (asked.trans (clearPeer different _)).trans (close different _)

theorem handleRequest {s : Asocket} (different : a ≠ c) (other_peer : s.peer ≠ some a)
    (server : Server) (text : List UInt8) (outside : Outside) :
    Passes a server (server.handleRequest c s text outside).1 := by
  have closed := close different server
  have refused : ∀ b status, Passes a server ((server.writeStatus b status).close c) :=
    fun b status => (writeStatus a server b status).trans (close different _)
  unfold Server.handleRequest
  split
  · exact closed
  · next b peer =>
      have different' : a ≠ b := by
        rintro rfl
        exact other_peer peer
      split
      · split
        · exact closed
        · split
          · exact modify different server fun _ => id
          · split
            · exact refused b _
            · exact connectToHostService different different' server _ _
      · split
        · exact refused b _
        · split
          · exact refused b _
          · exact connectToTransport different different' server _ text

theorem smartSocketEnqueue {s : Asocket} (different : a ≠ c) (other_peer : s.peer ≠ some a)
    (server : Server) (packet : List UInt8) (outside : Outside) :
    Passes a server (server.smartSocketEnqueue c s packet outside).1 := by
  have held : Passes a server
      (server.modify c fun r => { r with request := s.request ++ packet }) :=
    modify different server fun _ => id
  unfold Server.smartSocketEnqueue
  split
  · exact close different server
  · dsimp only
    split
    · exact held
    · split
      · exact held.trans (close different _)
      · split
        · exact held
        · exact held.trans (handleRequest different other_peer _ _ outside)

theorem enqueue (different : a ≠ c) (server : Server) (packet : List UInt8) (outside : Outside) :
    Passes a server (server.enqueue c packet outside).1 := by
  refine of_alone fun alone => ?_
  unfold Server.enqueue
  split
  · exact refl a server
  · next s live =>
      split
      · exact localSocketEnqueue different server packet
      · split
        · exact refl a server
        · exact sendPacket a server _ _
      · exact smartSocketEnqueue different (alone.unpeered c s live) server packet outside
      · exact close different server

/-! ## Events of other sockets -/

theorem eventWrite {s : Asocket} (different : a ≠ c) (other_peer : s.peer ≠ some a)
    (server : Server) (deviceList : List UInt8) :
    Passes a server (server.eventWrite c s deviceList).1 := by
  unfold Server.eventWrite
  generalize drainLoop (s.queue.fresh + 1) server.writes s.queue = drain
  have recorded := (writes a server drain.writes).trans (recordOutput different _ drain.written)
  have drained : Passes a server (({ server with writes := drain.writes }.recordOutput c
      drain.written).modify c fun s => { s with queue := drain.queue }) :=
    recorded.trans (modify different _ fun _ => id)
  dsimp only
  split
  · exact drained
  · exact drained.trans (close different _)
  · split
    · exact drained.trans (close different _)
    · have done := drained.trans (modify different _ (fun _ => id) :
        Passes a _ (Server.modify _ c fun s => { s with wantWrite := false }))
      split
      · exact done
      · next b peer =>
          have different' : a ≠ b := by
            rintro rfl
            exact other_peer peer
          exact done.trans (ready different' _ deviceList)

theorem eventRead (different : a ≠ c) (server : Server) (outside : Outside) :
    Passes a server (server.eventRead c outside) := by
  refine of_alone fun alone => ?_
  unfold Server.eventRead
  split
  · exact refl a server
  · next s live =>
      generalize readLoop outside.reads maxPayload = read
      obtain ⟨data, ended⟩ := read
      dsimp only
      split
      · split
        · exact close different server
        · exact refl a server
      · next b peer =>
          have different' : a ≠ b := by
            rintro rfl
            exact alone.unpeered c s live peer
          have recorded := record different server
            fun h => { h with input := h.input ++ data }
          split
          · split
            · exact recorded.trans (close different _)
            · exact recorded
          · rename_i first others
            have given := recorded.trans (enqueue different' _ (first :: others) outside)
            generalize Server.enqueue _ b (first :: others) outside = result at given
            split
            · exact given
            · have unread : Passes a result.1 (if 0 < result.2 then
                  result.1.modify c fun s => { s with wantRead := false } else result.1) := by
                split
                · exact modify different _ fun _ => id
                · exact refl a _
              split
              · exact (given.trans unread).trans (close different _)
              · exact given.trans unread

theorem localSocketEventFunc (different : a ≠ c) (server : Server) (write read : Bool)
    (outside : Outside) :
    Passes a server (server.localSocketEventFunc c write read outside) := by
  refine of_alone fun alone => ?_
  unfold Server.localSocketEventFunc
  split
  · exact refl a server
  · next s live =>
      have written : Passes a server
          (if write then server.eventWrite c s outside.deviceList else (server, true)).1 := by
        split
        · exact eventWrite different (alone.unpeered c s live) server _
        · exact refl a server
      dsimp only
      generalize (if write then server.eventWrite c s outside.deviceList else (server, true))
        = result at written
      split
      · exact written.trans (eventRead different _ outside)
      · exact written

/-! ## Packets -/

theorem handleOffline (a : Nat) (server : Server) (t : Nat) :
    Passes a server (server.handleOffline t) := by
  have offline : Passes a server (server.modifyTransport t fun t => { t with online := false }) :=
    modifyTransport server t fun _ _ => id
  exact offline.trans (runTransportDisconnects a t _)

theorem parseBanner (a : Nat) (server : Server) (t : Nat) (banner deviceList : List UInt8) :
    Passes a server (server.parseBanner t banner deviceList) := by
  have set : ∀ state, Passes a server
      (server.modifyTransport t fun t => { t with connectionState := state }) :=
    fun state => modifyTransport server t fun _ _ => id
  have told : ∀ state, Passes a server
      ((server.modifyTransport t fun t => { t with connectionState := state }).updateTransports
        deviceList) :=
    fun state => (set state).trans (updateTransports a _ deviceList)
  rcases server.parseBanner_cases t banner deviceList with same | ⟨state, -, same⟩
  · rw [same]
    exact set .host
  · rw [same]
    exact told state

theorem handleSync (a : Nat) (server : Server) (t : Nat) (message : Message) :
    Passes a server (server.handleSync t message) := by
  unfold Server.handleSync
  split
  · exact (sendPacket a server t message).trans (sendPacket a _ t _)
  · have offline : Passes a server
        (server.modifyTransport t fun t => { t with connectionState := .offline }) :=
      modifyTransport server t fun _ _ => id
    exact (offline.trans (handleOffline a _ t)).trans (sendPacket a _ t message)

theorem handleConnect (a : Nat) (server : Server) (t : Nat) (message : Message)
    (deviceList : List UInt8) :
    Passes a server (server.handleConnect t message deviceList) := by
  have reset : Passes a server
      (if (server.transports t).connectionState = .offline then server
        else (server.modifyTransport t
          fun t => { t with connectionState := .offline }).handleOffline t) := by
    split
    · exact refl a server
    · have offline : Passes a server
          (server.modifyTransport t fun t => { t with connectionState := .offline }) :=
        modifyTransport server t fun _ _ => id
      exact offline.trans (handleOffline a _ t)
  have named := reset.trans (parseBanner a _ t message.payload deviceList)
  have online : ∀ middle : Server, Passes a middle
      (middle.modifyTransport t fun t => { t with online := true }) :=
    fun middle => modifyTransport middle t fun _ _ => id
  exact named.trans (online _)

theorem handleAuth (a : Nat) (server : Server) (t : Nat) (message : Message)
    (answer : Option Message) : Passes a server (server.handleAuth t message answer) := by
  have token : Passes a server
      (if message.arg0 = Server.authToken then
        server.modifyTransport t fun t => { t with connectionState := .unauthorized }
        else server) := by
    split
    · exact modifyTransport server t fun _ _ => id
    · exact refl a server
  unfold Server.handleAuth
  dsimp only
  split
  · exact token
  · exact token.trans (sendPacket a _ t _)

theorem handleOpen (a : Nat) (server : Server) (t : Nat) (message : Message) (outside : Outside) :
    Passes a server (server.handleOpen t message outside) := by
  refine of_alone fun alone => ?_
  unfold Server.handleOpen
  split
  · split
    · have fresh := fresh_ne alone
      have fresh' := fresh_ne (createLocalSocket a server alone).1
      have made := (createLocalSocket a server).trans (createRemoteSocket a _ message.arg0 t)
      have linked := (made.trans (link fresh fresh' _)).trans
        (record fresh _ fun h => { h with origin := .accepted, mate := some message.arg0 })
      exact (linked.trans (sendPacket a _ t _)).trans (ready fresh _ outside.deviceList)
    · exact sendPacket a server t _
  · exact refl a server

/-- `find_local_socket` finds sockets on the list only. -/
theorem ne_findLocalSocket (alone : Alone a server) {localId peerId : Nat}
    (found : server.findLocalSocket localId peerId = some c) : a ≠ c := by
  rintro rfl
  refine alone.unlisted ?_
  simp only [Server.findLocalSocket] at found
  split at found
  · cases found
  · next address named =>
      split at found
      · cases found
        exact List.mem_of_find?_eq_some named
      · cases found

theorem handleOkay (a : Nat) (server : Server) (t : Nat) (message : Message) (outside : Outside) :
    Passes a server (server.handleOkay t message outside) := by
  refine of_alone fun alone => ?_
  unfold Server.handleOkay
  split
  · split
    · exact refl a server
    · next c found =>
        have different := ne_findLocalSocket alone found
        split
        · exact refl a server
        · split
          · have linked := (createRemoteSocket a server message.arg0 t).trans
              (link different (fresh_ne alone) _)
            have noted := linked.trans
              (record different _ fun h => { h with mate := some message.arg0 })
            exact noted.trans (ready different _ outside.deviceList)
          · split
            · exact ready different server outside.deviceList
            · exact refl a server
  · exact refl a server

theorem handleClose (a : Nat) (server : Server) (t : Nat) (message : Message) :
    Passes a server (server.handleClose t message) := by
  refine of_alone fun alone => ?_
  unfold Server.handleClose
  split
  · split
    · exact refl a server
    · next c found =>
        split
        · exact refl a server
        · exact close (ne_findLocalSocket alone found) server
  · exact refl a server

theorem handleWrite (a : Nat) (server : Server) (t : Nat) (message : Message)
    (outside : Outside) : Passes a server (server.handleWrite t message outside) := by
  refine of_alone fun alone => ?_
  unfold Server.handleWrite
  split
  · split
    · exact refl a server
    · next c found =>
        have given := enqueue (ne_findLocalSocket alone found) server message.payload outside
        dsimp only
        split
        · split
          · exact given
          · exact given.trans (sendPacket a _ t _)
        · exact given
  · exact refl a server

theorem handlePacket (a : Nat) (server : Server) (t : Nat) (message : Message)
    (outside : Outside) : Passes a server (server.handlePacket t message outside) := by
  have noted : Passes a server { server with
      received := server.received ++ [(t, message)]
      writes := outside.writes } := quiet rfl
  unfold Server.handlePacket
  dsimp only
  split
  · exact noted.trans (handleSync a _ t message)
  · exact noted.trans (handleConnect a _ t message outside.deviceList)
  · exact noted.trans (handleAuth a _ t message outside.authAnswer)
  · exact noted.trans (handleOpen a _ t message outside)
  · exact noted.trans (handleOkay a _ t message outside)
  · exact noted.trans (handleClose a _ t message)
  · exact noted.trans (handleWrite a _ t message outside)
  · exact noted

/-! ## Steps -/

theorem client (a : Nat) (server : Server) (outside : Outside) :
    Passes a server (Step.client.apply outside server) := by
  refine of_alone fun alone => ?_
  have fresh := fresh_ne alone
  have fresh' := fresh_ne (createLocalSocket a server alone).1
  have made := (createLocalSocket a server).trans (createSmartSocket a _)
  exact (made.trans (link fresh fresh' _)).trans (ready fresh _ outside.deviceList)

theorem forward (a : Nat) (server : Server) (t : Nat) (destination : List UInt8)
    (outside : Outside) :
    Passes a server ((Step.forward t destination).apply outside server) := by
  refine of_alone fun alone => ?_
  have fresh := fresh_ne alone
  have bound : Passes a server (server.createLocalSocket.modify server.fresh
      fun s => { s with transport := some t }) :=
    (createLocalSocket a server).trans (modify fresh _ fun _ => id)
  exact bound.trans (connectToRemote fresh _ destination)

/-- Every step but the events of the socket itself leaves it alone. -/
theorem step {step : Step} (not_mine : ∀ write read, step ≠ .event a write read) (server : Server)
    (outside : Outside) : Passes a server (step.apply outside server) := by
  cases step with
  | packet t message => exact handlePacket a server t message outside
  | event c write read =>
      have different : a ≠ c := by
        rintro rfl
        exact not_mine write read rfl
      exact (writes a server outside.writes).trans
        (localSocketEventFunc different _ write read outside)
  | client => exact client a server outside
  | forward t destination => exact forward a server t destination outside
  | closeAll t => exact closeAllSocketsLoop a t _ server
  | disconnect t => exact runTransportDisconnects a t server
  | update =>
      exact (writes a server outside.writes).trans (updateTransports a _ outside.deviceList)

end Passes
end Sockets
end AdbWide
