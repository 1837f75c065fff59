import AdbWide.Sockets.Reachability

/-!
# Device trackers

The device trackers are on one list, from `create_device_tracker` until they are freed, and each has
a peer to send the list of devices to.  Most of the server only ever takes trackers off the list;
`Drops` says so, and a client that asks for `track-devices` gets a new one.
-/

namespace AdbWide
namespace Sockets

/-- There is a device tracker at the address. -/
def Server.isTracker (server : Server) (a : Nat) : Bool :=
  (server.sockets a).any (·.kind = .deviceTracker)

theorem isTracker_iff {server : Server} {a : Nat} :
    server.isTracker a = true ↔ ∃ s, server.sockets a = some s ∧ s.kind = .deviceTracker := by
  simp [Server.isTracker, Option.any_eq_true]

theorem isTracker_of_live {server : Server} {a : Nat} {s : Asocket}
    (live : server.sockets a = some s) (other : s.kind ≠ .deviceTracker) :
    server.isTracker a = false := by
  simp [Server.isTracker, live, other]

theorem isTracker_modify (server : Server) (c : Nat) {change : Asocket → Asocket}
    (kind : ∀ s, (change s).kind = s.kind) (a : Nat) :
    (server.modify c change).isTracker a = server.isTracker a := by
  rw [Server.isTracker, Server.isTracker]
  by_cases same : a = c
  · subst same
    rw [Server.sockets_modify_self]
    cases server.sockets a with
    | none => rfl
    | some s => simp [kind s]
  · rw [Server.sockets_modify_of_ne same]

/-- The device trackers are those on the list. -/
structure Listed (server : Server) : Prop where
  nodup : server.deviceTrackerList.Nodup
  mem_iff : ∀ a, a ∈ server.deviceTrackerList ↔ server.isTracker a = true
  allocated : ∀ a ∈ server.deviceTrackerList, a < server.fresh

theorem Listed.modify {server : Server} (listed : Listed server) (c : Nat)
    {change : Asocket → Asocket} (kind : ∀ s, (change s).kind = s.kind) :
    Listed (server.modify c change) where
  nodup := listed.nodup
  mem_iff a := by
    rw [isTracker_modify server c kind]
    exact listed.mem_iff a
  allocated := listed.allocated

/-- Trackers may have been freed; the others are still on the list, in the same order. -/
structure Dropped (server server' : Server) : Prop where
  kept : ∀ a s', server'.sockets a = some s' → s'.kind = .deviceTracker →
    ∃ s, server.sockets a = some s ∧ s.kind = .deviceTracker ∧ (s'.peer = none → s.peer = none)
  list : server'.deviceTrackerList = server.deviceTrackerList.filter server'.isTracker
  fresh : server.fresh ≤ server'.fresh

/-- If the trackers were those on the list, nothing happened but that some were freed. -/
def Drops (server server' : Server) : Prop :=
  Listed server → Dropped server server'

namespace Dropped

variable {a : Nat} {server server' server'' : Server}

theorem isTracker (dropped : Dropped server server') (tracker : server'.isTracker a = true) :
    server.isTracker a = true := by
  obtain ⟨s', live, kind⟩ := isTracker_iff.mp tracker
  obtain ⟨s, live', kind', -⟩ := dropped.kept a s' live kind
  exact isTracker_iff.mpr ⟨s, live', kind'⟩

theorem listed (dropped : Dropped server server') (listed : Listed server) : Listed server' := by
  constructor
  · rw [dropped.list]
    exact listed.nodup.filter _
  · intro a
    rw [dropped.list, List.mem_filter, listed.mem_iff, and_iff_right_iff_imp]
    exact dropped.isTracker
  · intro a member
    rw [dropped.list, List.mem_filter] at member
    exact Nat.lt_of_lt_of_le (listed.allocated a member.1) dropped.fresh

end Dropped

namespace Drops

variable {a c : Nat} {server server' server'' : Server}

theorem refl (server : Server) : Drops server server := fun listed => by
  refine ⟨fun a s live kind => ⟨s, live, kind, id⟩, ?_, Nat.le_refl _⟩
  rw [List.filter_eq_self.mpr]
  exact fun a => (listed.mem_iff a).mp

theorem trans (first : Drops server server') (second : Drops server' server'') :
    Drops server server'' := fun listed => by
  have dropped := first listed
  have dropped' := second (dropped.listed listed)
  constructor
  · intro a s'' live kind
    obtain ⟨s', live', kind', peer'⟩ := dropped'.kept a s'' live kind
    obtain ⟨s, live, kind, peer⟩ := dropped.kept a s' live' kind'
    exact ⟨s, live, kind, peer ∘ peer'⟩
  · rw [dropped'.list, dropped.list, List.filter_filter]
    apply List.filter_congr
    intro a _
    cases tracker : server''.isTracker a with
    | false => rfl
    | true => rw [dropped'.isTracker tracker]; rfl
  · exact Nat.le_trans dropped.fresh dropped'.fresh

/-- The trackers known before may be used. -/
theorem of_listed (drops : Listed server → Drops server server') : Drops server server' :=
  fun listed => drops listed listed

theorem foldl {Member : Type} {act : Server → Member → Server} (members : List Member)
    (each : ∀ server, ∀ member ∈ members, Drops server (act server member)) (server : Server) :
    Drops server (members.foldl act server) := by
  induction members generalizing server with
  | nil => exact refl server
  | cons member members induction =>
      apply (each server member List.mem_cons_self).trans
      apply induction
      exact fun server other inside => each server other (List.mem_cons_of_mem _ inside)

/-! ## Single changes -/

/-- Every tracker stays. -/
theorem of_stays (list : server'.deviceTrackerList = server.deviceTrackerList)
    (fresh : server.fresh ≤ server'.fresh)
    (stays : ∀ a, server.isTracker a = true → server'.isTracker a = true)
    (kept : ∀ a s', server'.sockets a = some s' → s'.kind = .deviceTracker →
      ∃ s, server.sockets a = some s ∧ s.kind = .deviceTracker ∧
        (s'.peer = none → s.peer = none)) : Drops server server' := fun listed => by
  refine ⟨kept, ?_, fresh⟩
  rw [list, List.filter_eq_self.mpr]
  exact fun a member => stays a ((listed.mem_iff a).mp member)

theorem quiet (same : (server'.sockets, server'.deviceTrackerList, server'.fresh) =
      (server.sockets, server.deviceTrackerList, server.fresh)) : Drops server server' := by
  simp only [Prod.mk.injEq] at same
  obtain ⟨sockets, list, fresh⟩ := same
  apply of_stays list (Nat.le_of_eq fresh.symm)
  · intro a tracker
    rw [Server.isTracker, sockets]
    exact tracker
  · rw [sockets]
    exact fun a s live kind => ⟨s, live, kind, id⟩

/-- The fields of a socket change, but a tracker keeps its peer. -/
theorem modify (server : Server) (c : Nat) {change : Asocket → Asocket}
    (kind : ∀ s, (change s).kind = s.kind)
    (peer : server.isTracker c = true → ∀ s, (change s).peer = none → s.peer = none) :
    Drops server (server.modify c change) := by
  apply of_stays
  · rfl
  · exact Nat.le_refl _
  · intro a tracker
    rw [isTracker_modify server c kind]
    exact tracker
  · intro a s' live tracker
    by_cases same : a = c
    · subst same
      rw [Server.sockets_modify_self] at live
      obtain ⟨s, before, rfl⟩ := Option.map_eq_some_iff.mp live
      have tracker' : s.kind = .deviceTracker := (kind s).symm.trans tracker
      exact ⟨s, before, tracker', peer (isTracker_iff.mpr ⟨s, before, tracker'⟩) s⟩
    · rw [Server.sockets_modify_of_ne same] at live
      exact ⟨s', live, tracker, id⟩

/-- Something else than a tracker is freed. -/
theorem free (other : server.isTracker c = false) : Drops server (server.free c) := by
  apply of_stays
  · rfl
  · exact Nat.le_refl _
  · intro a tracker
    have different : a ≠ c := by
      rintro rfl
      rw [other] at tracker
      cases tracker
    simpa [Server.isTracker, Server.free, different] using tracker
  · intro a s live tracker
    by_cases same : a = c
    · simp [Server.free, same] at live
    · simp only [Server.free, Function.update_of_ne same] at live
      exact ⟨s, live, tracker, id⟩

/-- A socket of another kind is made at the next address. -/
theorem create {s : Asocket} (other : s.kind ≠ .deviceTracker)
    (sockets : server'.sockets = Function.update server.sockets server.fresh (some s))
    (fresh : server'.fresh = server.fresh + 1)
    (list : server'.deviceTrackerList = server.deviceTrackerList) : Drops server server' := by
  apply of_listed
  intro listed
  apply of_stays list (by omega)
  · intro a tracker
    have different : a ≠ server.fresh :=
      Nat.ne_of_lt (listed.allocated a ((listed.mem_iff a).mpr tracker))
    rw [Server.isTracker, sockets, Function.update_of_ne different]
    exact tracker
  · intro a s' live tracker
    rw [sockets] at live
    by_cases same : a = server.fresh
    · subst same
      rw [Function.update_self, Option.some.injEq] at live
      rw [live] at other
      exact absurd tracker other
    · rw [Function.update_of_ne same] at live
      exact ⟨s', live, tracker, id⟩

theorem createLocalSocket (server : Server) : Drops server server.createLocalSocket :=
  create (by simp) rfl rfl rfl

theorem createRemoteSocket (server : Server) (id t : Nat) :
    Drops server (server.createRemoteSocket id t) :=
  create (by simp) rfl rfl rfl

theorem createSmartSocket (server : Server) : Drops server server.createSmartSocket :=
  create (by simp) rfl rfl rfl

theorem sendPacket (server : Server) (t : Nat) (message : Message) :
    Drops server (server.sendPacket t message) :=
  quiet rfl

theorem writeStatus (server : Server) (c : Nat) (text : List UInt8) :
    Drops server (server.writeStatus c text) :=
  quiet rfl

theorem writes (server : Server) (writes : List WriteResult) :
    Drops server { server with writes } :=
  quiet rfl

theorem record (server : Server) (c : Nat) (change : History → History) :
    Drops server (server.record c change) :=
  quiet rfl

theorem modifyTransport (server : Server) (t : Nat) (change : TransportState → TransportState) :
    Drops server (server.modifyTransport t change) :=
  quiet rfl

theorem clearPeer (other : server.isTracker c = false) : Drops server (server.clearPeer c) := by
  apply modify
  · exact fun _ => rfl
  · rw [other]
    exact fun tracker => absurd tracker (by decide)

theorem endNotify (server : Server) (c : Nat) (text : List UInt8) :
    Drops server (server.endNotify c text) := by
  have ended : Drops server (server.modify c fun s => { s with notify := false }) :=
    modify server c (fun _ => rfl) fun _ _ => id
  exact ended.trans (writeStatus _ c text)

theorem removeSocket (server : Server) (c : Nat) : Drops server (server.removeSocket c) := by
  have unnumbered : Drops server (server.modify c fun s => { s with id := 0 }) :=
    modify server c (fun _ => rfl) fun _ _ => id
  exact unnumbered.trans (quiet rfl)

theorem link (server : Server) (b c : Nat) : Drops server (server.link b c) := by
  have left : Drops server (server.modify b fun s => { s with peer := some c }) :=
    modify server b (fun _ => rfl) fun _ s => by simp
  exact left.trans (modify _ c (fun _ => rfl) fun _ s => by simp)

/-- What is no tracker does not become one. -/
theorem not_isTracker (drops : Drops server server') (listed : Listed server)
    (other : server.isTracker c = false) : server'.isTracker c = false := by
  cases tracker : server'.isTracker c with
  | false => rfl
  | true => exact ((drops listed).isTracker tracker).symm.trans other

/-- The next step may use that something is no tracker. -/
theorem trans_other (first : Drops server server') (other : server.isTracker c = false)
    (second : server'.isTracker c = false → Drops server' server'') : Drops server server'' := by
  apply of_listed
  intro listed
  exact first.trans (second (first.not_isTracker listed other))

/-! ## Closing -/

theorem finishClose (other : server.isTracker c = false) : Drops server (server.finishClose c) := by
  unfold Server.finishClose
  split
  · exact refl server
  · split
    · exact (removeSocket server c).trans_other other free
    · have closing : Drops server
          (server.modify c fun s => { s with closing := true, wantRead := false }) :=
        modify server c (fun _ => rfl) fun _ _ => id
      exact (closing.trans (removeSocket _ c)).trans (quiet rfl)

/-- A tracker is freed and taken off the list. -/
theorem dropTracker (server : Server) (c : Nat) :
    Drops server ({ server with
      deviceTrackerList := server.deviceTrackerList.erase c }.free c) := fun listed => by
  refine ⟨?_, ?_, Nat.le_refl _⟩
  · intro a r live_a tracker
    by_cases same : a = c
    · simp [Server.free, same] at live_a
    · simp only [Server.free, Function.update_of_ne same] at live_a
      exact ⟨r, live_a, tracker, id⟩
  · change server.deviceTrackerList.erase c = _
    rw [listed.nodup.erase_eq_filter]
    apply List.filter_congr
    intro a member
    have tracker := (listed.mem_iff a).mp member
    by_cases same : a = c
    · simp [Server.isTracker, Server.free, same]
    · rw [Server.isTracker] at tracker
      simp [Server.isTracker, Server.free, same, tracker]

theorem closeUnpeered (server : Server) (c : Nat) : Drops server (server.closeUnpeered c) := by
  unfold Server.closeUnpeered
  split
  · exact refl server
  · next s live =>
      cases kind : s.kind with
      | localSocket =>
          have other := isTracker_of_live live (by simp [kind])
          dsimp only
          split
          · exact (endNotify server c _).trans_other other finishClose
          · exact finishClose other
      | remoteSocket =>
          have other := isTracker_of_live live (by simp [kind])
          dsimp only
          split
          · exact free other
          · refine trans_other ?_ other free
            exact quiet rfl
      | smartSocket => exact free (isTracker_of_live live (by simp [kind]))
      | deviceTracker => exact dropTracker server c

/-- `peer->peer = 0; peer->close(peer);` -/
theorem closePeer (server : Server) (b : Nat) :
    Drops server ((server.clearPeer b).closeUnpeered b) := by
  cases tracker : server.isTracker b with
  | false => exact (clearPeer tracker).trans (closeUnpeered _ b)
  | true =>
      obtain ⟨s, live, kind⟩ := isTracker_iff.mp tracker
      have closed : (server.clearPeer b).closeUnpeered b = { server with
          deviceTrackerList := server.deviceTrackerList.erase b }.free b := by
        simp [Server.closeUnpeered, Server.clearPeer, Server.modify, Server.free, live, kind]
      rw [closed]
      exact dropTracker server b

theorem shutdown (server : Server) (b : Nat) : Drops server (server.shutdown b) := by
  unfold Server.shutdown
  split
  · exact refl server
  · split
    · exact sendPacket server _ _
    · exact refl server

theorem localSocketCloseLocked (other : server.isTracker c = false) :
    Drops server (server.localSocketCloseLocked c) := by
  unfold Server.localSocketCloseLocked
  split
  · exact refl server
  · split
    · exact finishClose other
    · next b _ =>
        apply ((shutdown server b).trans (closePeer _ b)).trans_other other
        exact fun other' => (clearPeer other').trans_other other' finishClose

theorem close (server : Server) (c : Nat) : Drops server (server.close c) := by
  unfold Server.close
  split
  · exact refl server
  · next s live =>
      split
      · next kind =>
          have other := isTracker_of_live live (by simp [kind])
          split
          · exact (endNotify server c _).trans_other other localSocketCloseLocked
          · exact localSocketCloseLocked other
      all_goals
        split
        · exact closeUnpeered server c
        · next b _ => exact (closePeer server b).trans (closeUnpeered _ c)

theorem closeAllSocketsLoop (t rounds : Nat) (consistent : Consistent server) :
    Drops server (Server.closeAllSocketsLoop t rounds server) := by
  induction rounds generalizing server with
  | zero => exact refl server
  | succ rounds induction =>
      simp only [Server.closeAllSocketsLoop]
      split
      · exact refl server
      · next c found =>
          obtain ⟨s, live, isLocal, -⟩ := consistent.listed c (List.mem_of_find?_eq_some found)
          have closed := effects_localSocketCloseLocked consistent live isLocal
          apply (localSocketCloseLocked (isTracker_of_live live (by simp [isLocal]))).trans
          exact induction (consistent.effects closed)

theorem runTransportDisconnects (server : Server) (t : Nat) :
    Drops server (server.runTransportDisconnects t) :=
  foldl _ (fun server c _ => close server c) server

theorem handleOffline (server : Server) (t : Nat) : Drops server (server.handleOffline t) :=
  (modifyTransport server t _).trans (runTransportDisconnects _ t)

/-! ## Enqueue and ready -/

theorem localSocketEnqueue (server : Server) (c : Nat) (packet : List UInt8) :
    Drops server (server.localSocketEnqueue c packet).1 := by
  have queued (server : Server) (packet : List UInt8) :
      Drops server (server.enqueuePacket c packet) :=
    modify server c (fun _ => rfl) fun _ _ => id
  unfold Server.localSocketEnqueue
  split
  · exact refl server
  · split
    · exact queued server packet
    · generalize writeLoop false server.writes packet = loop
      have recorded := (writes server loop.writes).trans (record _ c
        fun h => { h with output := h.output ++ loop.written })
      dsimp only
      split
      · exact recorded
      · exact recorded.trans (queued _ _)
      · exact recorded.trans (close _ c)

theorem deviceTrackerSend (server : Server) (b : Nat) (deviceList : List UInt8) :
    Drops server (server.deviceTrackerSend b deviceList) := by
  unfold Server.deviceTrackerSend
  split
  · exact refl server
  · split
    · exact localSocketEnqueue server _ deviceList
    · exact refl server

theorem updateTransports (server : Server) (deviceList : List UInt8) :
    Drops server (server.updateTransports deviceList) :=
  foldl _ (fun server b _ => deviceTrackerSend server b deviceList) server

theorem ready (server : Server) (c : Nat) (deviceList : List UInt8) :
    Drops server (server.ready c deviceList) := by
  unfold Server.ready
  split
  · exact refl server
  · split
    · refine trans ?_ (modify _ c (fun _ => rfl) fun _ _ => id)
      split
      · exact endNotify server c _
      · exact refl server
    · split
      · exact refl server
      · exact sendPacket server _ _
    · exact refl server
    · split
      · have noted : Drops server (server.modify c fun s => { s with updateNeeded := false }) :=
          modify server c (fun _ => rfl) fun _ _ => id
        exact noted.trans (deviceTrackerSend _ c deviceList)
      · exact refl server

theorem connectToRemote (server : Server) (c : Nat) (destination : List UInt8) :
    Drops server (server.connectToRemote c destination) := by
  unfold Server.connectToRemote
  split
  · exact refl server
  · split
    · exact refl server
    · exact (sendPacket server _ _).trans (record _ c _)

/-- Neither the smart socket nor its client is a tracker. -/
theorem connectToTransport {b : Nat} (other : server.isTracker c = false)
    (other' : server.isTracker b = false) (t : Nat) (destination : List UInt8) :
    Drops server (server.connectToTransport c b t destination) := by
  have waits : Drops server (server.modify b fun s =>
      { s with notify := true, peer := none, transport := some t }) := by
    apply modify
    · exact fun _ => rfl
    · rw [other']
      exact fun tracker => absurd tracker (by decide)
  have asked := waits.trans (connectToRemote _ b destination)
  exact asked.trans_other other fun other => (clearPeer other).trans (close _ c)

theorem eventWrite (server : Server) (c : Nat) (s : Asocket) (deviceList : List UInt8) :
    Drops server (server.eventWrite c s deviceList).1 := by
  unfold Server.eventWrite
  generalize drainLoop (s.queue.fresh + 1) server.writes s.queue = drain
  have recorded := (writes server drain.writes).trans (record _ c
    fun h => { h with output := h.output ++ drain.written })
  have drained : Drops server (({ server with writes := drain.writes }.recordOutput c
      drain.written).modify c fun s => { s with queue := drain.queue }) :=
    recorded.trans (modify _ c (fun _ => rfl) fun _ _ => id)
  dsimp only
  split
  · exact drained
  · exact drained.trans (close _ c)
  · split
    · exact drained.trans (close _ c)
    · have done := drained.trans (modify _ c (fun _ => rfl) (fun _ _ => id) :
        Drops _ (Server.modify _ c fun s => { s with wantWrite := false }))
      split
      · exact done
      · exact done.trans (ready _ _ deviceList)

/-! ## Packets -/

theorem parseBanner (server : Server) (t : Nat) (banner deviceList : List UInt8) :
    Drops server (server.parseBanner t banner deviceList) := by
  rcases server.parseBanner_cases t banner deviceList with same | ⟨state, -, same⟩
  · rw [same]
    exact modifyTransport server t _
  · rw [same]
    exact (modifyTransport server t _).trans (updateTransports _ deviceList)

theorem handleSync (server : Server) (t : Nat) (message : Message) :
    Drops server (server.handleSync t message) := by
  unfold Server.handleSync
  split
  · exact (sendPacket server t message).trans (sendPacket _ t _)
  · exact ((modifyTransport server t _).trans (handleOffline _ t)).trans (sendPacket _ t message)

theorem handleConnect (server : Server) (t : Nat) (message : Message) (deviceList : List UInt8) :
    Drops server (server.handleConnect t message deviceList) := by
  have reset : Drops server
      (if (server.transports t).connectionState = .offline then server
        else (server.modifyTransport t
          fun t => { t with connectionState := .offline }).handleOffline t) := by
    split
    · exact refl server
    · exact (modifyTransport server t _).trans (handleOffline _ t)
  have named := reset.trans (parseBanner _ t message.payload deviceList)
  exact named.trans (modifyTransport _ t fun t => { t with online := true })

theorem handleAuth (server : Server) (t : Nat) (message : Message) (answer : Option Message) :
    Drops server (server.handleAuth t message answer) := by
  have token : Drops server
      (if message.arg0 = Server.authToken then
        server.modifyTransport t fun t => { t with connectionState := .unauthorized }
        else server) := by
    split
    · exact modifyTransport server t _
    · exact refl server
  unfold Server.handleAuth
  dsimp only
  split
  · exact token
  · exact token.trans (sendPacket _ t _)

theorem handleOpen (server : Server) (t : Nat) (message : Message) (outside : Outside) :
    Drops server (server.handleOpen t message outside) := by
  unfold Server.handleOpen
  split
  · split
    · have made := (createLocalSocket server).trans (createRemoteSocket _ message.arg0 t)
      have linked := (made.trans (link _ server.fresh server.createLocalSocket.fresh)).trans
        (record _ server.fresh fun h =>
          { h with origin := .accepted, mate := some message.arg0 })
      exact (linked.trans (sendPacket _ t _)).trans (ready _ server.fresh outside.deviceList)
    · exact sendPacket server t _
  · exact refl server

theorem handleOkay (server : Server) (t : Nat) (message : Message) (outside : Outside) :
    Drops server (server.handleOkay t message outside) := by
  unfold Server.handleOkay
  split
  · split
    · exact refl server
    · next c _ =>
        split
        · exact refl server
        · split
          · have linked := (createRemoteSocket server message.arg0 t).trans
              (link _ c server.fresh)
            have noted := linked.trans (record _ c fun h => { h with mate := some message.arg0 })
            exact noted.trans (ready _ c outside.deviceList)
          · split
            · exact ready server c outside.deviceList
            · exact refl server
  · exact refl server

theorem handleClose (server : Server) (t : Nat) (message : Message) :
    Drops server (server.handleClose t message) := by
  unfold Server.handleClose
  split
  · split
    · exact refl server
    · split
      · exact refl server
      · exact close server _
  · exact refl server

end Drops

/-! ## Trackers have peers -/

/-- The trackers are those on the list, and each has a peer. -/
structure Tracked (server : Server) : Prop where
  listed : Listed server
  peered : ∀ a s, server.sockets a = some s → s.kind = .deviceTracker → s.peer ≠ none

theorem Drops.tracked {server server' : Server} (drops : Drops server server')
    (tracked : Tracked server) : Tracked server' := by
  have dropped := drops tracked.listed
  constructor
  · exact dropped.listed tracked.listed
  · intro a s' live kind unpeered
    obtain ⟨s, live', kind', peer⟩ := dropped.kept a s' live kind
    exact tracked.peered a s live' kind' (peer unpeered)

namespace Tracked

variable {c : Nat} {server : Server}

theorem listed_createDeviceTracker (listed : Listed server) :
    Listed server.createDeviceTracker := by
  have unused : server.fresh ∉ server.deviceTrackerList := fun member =>
    Nat.lt_irrefl _ (listed.allocated _ member)
  constructor
  · exact List.nodup_cons.mpr ⟨unused, listed.nodup⟩
  · intro a
    by_cases same : a = server.fresh
    · simp [Server.createDeviceTracker, Server.isTracker, same]
    · have others := listed.mem_iff a
      simpa [Server.createDeviceTracker, Server.isTracker, same] using others
  · intro a member
    rcases List.mem_cons.mp member with rfl | member
    · exact Nat.lt_succ_self _
    · exact Nat.lt_succ_of_lt (listed.allocated a member)

/-- A client that is connected to a service of the host may get a new tracker for its peer. -/
theorem connectToHostService (tracked : Tracked server) (other : server.isTracker c = false)
    (allocated : c < server.fresh) (b : Nat) (kind : Kind) (deviceList : List UInt8) :
    Tracked (server.connectToHostService c b kind deviceList) := by
  unfold Server.connectToHostService
  dsimp only
  split
  · have made := listed_createDeviceTracker tracked.listed
    have kept : ∀ a, a ≠ server.fresh →
        server.createDeviceTracker.sockets a = server.sockets a := by
      intro a different
      simp [Server.createDeviceTracker, different]
    have other' : server.createDeviceTracker.isTracker c = false := by
      rw [Server.isTracker, kept c (Nat.ne_of_lt allocated)]
      exact other
    have joins := (Drops.endNotify server.createDeviceTracker b Server.okayText).trans
      (Drops.link _ b server.fresh)
    have joined : Tracked
        ((server.createDeviceTracker.endNotify b Server.okayText).link b server.fresh) := by
      constructor
      · exact (joins made).listed made
      · intro a s' live tracker
        by_cases same : a = server.fresh
        · subst same
          rw [Server.link, Server.sockets_modify_self] at live
          obtain ⟨s, -, rfl⟩ := Option.map_eq_some_iff.mp live
          simp
        · obtain ⟨s, before, tracker', peer⟩ := (joins made).kept a s' live tracker
          rw [kept a same] at before
          exact fun unpeered => tracked.peered a s before tracker' (peer unpeered)
    have closes := (Drops.clearPeer (joins.not_isTracker made other')).trans (Drops.close _ c)
    exact (closes.trans (Drops.ready _ server.fresh deviceList)).tracked joined
  · have joins := ((Drops.createLocalSocket server).trans
      (Drops.endNotify _ b Server.okayText)).trans (Drops.link _ b server.fresh)
    have closes := joins.trans_other other fun other =>
      (Drops.clearPeer other).trans (Drops.close _ c)
    exact (closes.trans (Drops.ready _ server.fresh deviceList)).tracked tracked

theorem handleRequest {s : Asocket} (tracked : Tracked server)
    (other : server.isTracker c = false) (allocated : c < server.fresh)
    (client : ∀ b, s.peer = some b → server.isTracker b = false) (text : List UInt8)
    (outside : Outside) : Tracked (server.handleRequest c s text outside).1 := by
  have closed := (Drops.close server c).tracked tracked
  have refused : ∀ b status, Tracked ((server.writeStatus b status).close c) :=
    fun b status => ((Drops.writeStatus server b status).trans (Drops.close _ c)).tracked tracked
  unfold Server.handleRequest
  split
  · exact closed
  · next b peer =>
      split
      · split
        · exact closed
        · split
          · refine Drops.tracked ?_ tracked
            exact Drops.modify server c (fun _ => rfl) fun _ _ => id
          · split
            · exact refused b _
            · exact connectToHostService tracked other allocated b _ _
      · split
        · exact refused b _
        · split
          · exact refused b _
          · exact (Drops.connectToTransport other (client b peer) _ text).tracked tracked

theorem smartSocketEnqueue {s : Asocket} (tracked : Tracked server)
    (other : server.isTracker c = false) (allocated : c < server.fresh)
    (client : ∀ b, s.peer = some b → server.isTracker b = false) (packet : List UInt8)
    (outside : Outside) : Tracked (server.smartSocketEnqueue c s packet outside).1 := by
  have holds : Drops server
      (server.modify c fun r => { r with request := s.request ++ packet }) :=
    Drops.modify server c (fun _ => rfl) fun _ _ => id
  have held := holds.tracked tracked
  unfold Server.smartSocketEnqueue
  split
  · exact (Drops.close server c).tracked tracked
  · dsimp only
    split
    · exact held
    · split
      · exact (Drops.close _ c).tracked held
      · split
        · exact held
        · apply handleRequest held
          · exact holds.not_isTracker tracked.listed other
          · exact allocated
          · exact fun b peer => holds.not_isTracker tracked.listed (client b peer)

theorem enqueue (tracked : Tracked server) (consistent : Consistent server) (c : Nat)
    (packet : List UInt8) (outside : Outside) : Tracked (server.enqueue c packet outside).1 := by
  unfold Server.enqueue
  split
  · exact tracked
  · next s live =>
      split
      · exact (Drops.localSocketEnqueue server c packet).tracked tracked
      · split
        · exact tracked
        · exact (Drops.sendPacket server _ _).tracked tracked
      · next smart =>
          apply smartSocketEnqueue tracked
          · exact isTracker_of_live live (by simp [smart])
          · by_contra unallocated
            rw [consistent.unallocated c (by omega)] at live
            cases live
          · intro b peer
            obtain ⟨r, live_b, ok⟩ := consistent.pairOk live peer
            exact isTracker_of_live live_b (by simp [ok.partner (by simp [smart])])
      · exact (Drops.close server c).tracked tracked

theorem eventRead (tracked : Tracked server) (consistent : Consistent server) (c : Nat)
    (outside : Outside) : Tracked (server.eventRead c outside) := by
  unfold Server.eventRead
  split
  · exact tracked
  · next s live =>
      generalize readLoop outside.reads maxPayload = read
      obtain ⟨data, ended⟩ := read
      dsimp only
      split
      · split
        · exact (Drops.close server c).tracked tracked
        · exact tracked
      · next b peer =>
          have recorded := (Drops.record server c
            fun h => { h with input := h.input ++ data }).tracked tracked
          have consistent' : Consistent
              (server.record c fun h => { h with input := h.input ++ data }) :=
            consistent.congr (.of rfl (Server.origin_recordInput server c data))
          split
          · split
            · exact (Drops.close _ c).tracked recorded
            · exact recorded
          · rename_i first others
            have given := enqueue recorded consistent' b (first :: others) outside
            generalize Server.enqueue _ b (first :: others) outside = result at given
            split
            · exact given
            · have unread : Tracked (if 0 < result.2 then
                  result.1.modify c fun s => { s with wantRead := false } else result.1) := by
                split
                · refine Drops.tracked ?_ given
                  exact Drops.modify _ c (fun _ => rfl) fun _ _ => id
                · exact given
              split
              · exact (Drops.close _ c).tracked unread
              · exact unread

theorem localSocketEventFunc {s : Asocket} (tracked : Tracked server)
    (consistent : Consistent server) (live : server.sockets c = some s)
    (isLocal : s.kind = .localSocket) {write : Bool} (wanted : write = true → s.wantWrite = true)
    (read : Bool) (outside : Outside) :
    Tracked (server.localSocketEventFunc c write read outside) := by
  have written : Tracked
        (if write then server.eventWrite c s outside.deviceList else (server, true)).1 ∧
      Consistent
        (if write then server.eventWrite c s outside.deviceList else (server, true)).1 := by
    split
    · next asked =>
        constructor
        · exact (Drops.eventWrite server c s _).tracked tracked
        · exact consistent.effects
            (effects_eventWrite consistent live isLocal (wanted asked) outside.deviceList)
    · exact ⟨tracked, consistent⟩
  simp only [Server.localSocketEventFunc, live]
  generalize (if write then server.eventWrite c s outside.deviceList else (server, true))
    = result at written
  split
  · exact eventRead written.1 written.2 c outside
  · exact written.1

theorem handleWrite (tracked : Tracked server) (consistent : Consistent server) (t : Nat)
    (message : Message) (outside : Outside) : Tracked (server.handleWrite t message outside) := by
  unfold Server.handleWrite
  split
  · split
    · exact tracked
    · next c _ =>
        have given := enqueue tracked consistent c message.payload outside
        dsimp only
        split
        · split
          · exact given
          · exact (Drops.sendPacket _ t _).tracked given
        · exact given
  · exact tracked

theorem handlePacket (tracked : Tracked server) (consistent : Consistent server) (t : Nat)
    (message : Message) (outside : Outside) : Tracked (server.handlePacket t message outside) := by
  have noted : Tracked { server with
      received := server.received ++ [(t, message)]
      writes := outside.writes } := by
    refine Drops.tracked ?_ tracked
    exact Drops.quiet rfl
  have consistent' : Consistent { server with
      received := server.received ++ [(t, message)]
      writes := outside.writes } := consistent.congr (.of rfl fun _ => rfl)
  unfold Server.handlePacket
  dsimp only
  split
  · exact (Drops.handleSync _ t message).tracked noted
  · exact (Drops.handleConnect _ t message outside.deviceList).tracked noted
  · exact (Drops.handleAuth _ t message outside.authAnswer).tracked noted
  · exact (Drops.handleOpen _ t message outside).tracked noted
  · exact (Drops.handleOkay _ t message outside).tracked noted
  · exact (Drops.handleClose _ t message).tracked noted
  · exact handleWrite noted consistent' t message outside
  · exact noted

/-- Every step keeps the trackers on the list, with their peers. -/
theorem step {before after : Server} {label : Step × Outside} (tracked : Tracked before)
    (consistent : Consistent before) (step : ServerStep before label after) : Tracked after := by
  obtain ⟨step, outside⟩ := label
  obtain ⟨allowed, rfl⟩ := step
  cases step with
  | packet t message => exact handlePacket tracked consistent t message outside
  | event c write read =>
      obtain ⟨s, live, isLocal, wanted, -⟩ := allowed
      have answered := (Drops.writes before outside.writes).tracked tracked
      have consistent' : Consistent { before with writes := outside.writes } :=
        consistent.congr (.of rfl fun _ => rfl)
      exact localSocketEventFunc answered consistent' live isLocal wanted read outside
  | client =>
      have made := (Drops.createLocalSocket before).trans (Drops.createSmartSocket _)
      have linked := made.trans (Drops.link _ before.fresh before.createLocalSocket.fresh)
      exact (linked.trans (Drops.ready _ before.fresh outside.deviceList)).tracked tracked
  | forward t destination =>
      have bound : Drops before (before.createLocalSocket.modify before.fresh
          fun s => { s with transport := some t }) :=
        (Drops.createLocalSocket before).trans (Drops.modify _ _ (fun _ => rfl) fun _ _ => id)
      exact (bound.trans (Drops.connectToRemote _ _ destination)).tracked tracked
  | closeAll t => exact (Drops.closeAllSocketsLoop t _ consistent).tracked tracked
  | disconnect t => exact (Drops.runTransportDisconnects before t).tracked tracked
  | update =>
      exact ((Drops.writes before outside.writes).trans
        (Drops.updateTransports _ outside.deviceList)).tracked tracked

end Tracked

theorem tracked_start : Tracked Server.start where
  listed :=
    { nodup := List.nodup_nil
      mem_iff := by simp [Server.start, Server.isTracker]
      allocated := by simp [Server.start] }
  peered := by simp [Server.start]

/-- In every reachable state the trackers are those on the list, and each has a peer. -/
theorem tracked_of_reachable {server : Server}
    (reachable : Reachable ServerStep Server.start server) : Tracked server := by
  have both := reachable.invariant (fun server => Consistent server ∧ Tracked server)
    ⟨consistent_start, tracked_start⟩
    fun _ _ _ holds step => ⟨holds.1.step step, holds.2.step holds.1 step⟩
  exact both.2

end Sockets
end AdbWide
