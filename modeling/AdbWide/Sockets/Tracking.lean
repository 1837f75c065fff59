import AdbWide.LinkedList
import AdbWide.Sockets.Trackers

/-!
# Telling the device trackers

`update_transports` sends the list of devices to every device tracker.  If the client of a tracker
is gone, `local_socket_enqueue` closes its socket, which closes the tracker, and
`device_tracker_remove` takes it off the list that `update_transports` is walking along.  Here the
list consists of the `next` fields of the trackers, and the functions fail when they read a field of
a socket that has been freed.
-/

namespace AdbWide
namespace Sockets

/-! ## The code -/

/-- A call of `peer->enqueue` by `device_tracker_send`. -/
structure Telling where
  tracker : Nat
  peer : Nat
  packet : List UInt8
  deriving DecidableEq, Repr

/-- The server, the list its trackers are linked to, and what they have been told. -/
structure Tracking where
  server : Server
  /-- `device_tracker_list`. -/
  trackers : LinkedList
  told : List Telling

namespace Tracking

/-- Change what is not the list. -/
def act (state : Tracking) (change : Server → Server) : Tracking :=
  { state with server := change state.server }

/-- There is a socket at the address. -/
def there (state : Tracking) (address : Nat) : Bool :=
  (state.server.sockets address).isSome

/-- `create_device_tracker`. -/
def createDeviceTracker (state : Tracking) : Tracking :=
  { state.act (·.createDeviceTracker) with
    trackers := state.trackers.push state.server.fresh }

/-- `device_tracker_remove`; there are no more trackers than addresses. -/
def deviceTrackerRemove (state : Tracking) (address : Nat) : Option Tracking :=
  (state.trackers.unlink state.there (state.server.fresh + 1) address).map
    fun trackers => { state with trackers }

/-- `s->close(s)` of a socket whose `peer` has just been set to zero. -/
def closeUnpeered (state : Tracking) (address : Nat) : Option Tracking := do
  let s ← state.server.sockets address
  let state ← (if s.kind = .deviceTracker then state.deviceTrackerRemove address else some state)
  return state.act (·.closeUnpeered address)

/-- `local_socket_close_locked`. -/
def localSocketCloseLocked (state : Tracking) (address : Nat) : Option Tracking := do
  let s ← state.server.sockets address
  match s.peer with
  | none => return state.act (·.finishClose address)
  | some peer =>
      let state := state.act fun server => (server.shutdown peer).clearPeer peer
      let state ← state.closeUnpeered peer
      return state.act fun server => (server.clearPeer address).finishClose address

/-- `local_socket_close`, or `local_socket_close_notify`. -/
def localSocketClose (state : Tracking) (address : Nat) : Option Tracking := do
  let s ← state.server.sockets address
  if s.notify then
    (state.act (·.endNotify address Server.failClosed)).localSocketCloseLocked address
  else state.localSocketCloseLocked address

/-- `local_socket_enqueue`. -/
def localSocketEnqueue (state : Tracking) (address : Nat) (packet : List UInt8) :
    Option Tracking := do
  let s ← state.server.sockets address
  if s.queue.first.isSome then return state.act (·.enqueuePacket address packet)
  else
    let loop := writeLoop false state.server.writes packet
    let state := state.act fun server =>
      { server with writes := loop.writes }.recordOutput address loop.written
    match loop.outcome with
    | .done => return state
    | .again => return state.act (·.enqueuePacket address loop.rest)
    | .failed => state.localSocketClose address

/-- `device_tracker_send`; nothing but a local socket is the peer of a tracker. -/
def deviceTrackerSend (buffer : List UInt8) (address : Nat) (state : Tracking) :
    Option Tracking := do
  let s ← state.server.sockets address
  let peer ← s.peer
  let p ← state.server.sockets peer
  let told := state.told ++ [⟨address, peer, buffer⟩]
  if p.kind = .localSocket then Tracking.localSocketEnqueue { state with told } peer buffer
  else none

/-- `update_transports`. -/
def updateTransports (state : Tracking) (buffer : List UInt8) : Option Tracking :=
  LinkedList.walk Tracking.trackers there (deviceTrackerSend buffer) state.server.fresh
    state.trackers.head state

end Tracking

/-! ## The list follows the server -/

/-- What was done to the server and to the list leaves the list with the trackers of the server. -/
def Follows (result : Option Tracking) (after : Server) (told : List Telling) : Prop :=
  ∃ trackers : LinkedList, result = some ⟨after, trackers, told⟩ ∧
    trackers.Represents after.deviceTrackerList

theorem deviceTrackerList_finishClose (server : Server) (a : Nat) :
    (server.finishClose a).deviceTrackerList = server.deviceTrackerList := by
  unfold Server.finishClose
  split
  · rfl
  · split
    · rfl
    · rfl

theorem length_trackers {server : Server} (listed : Listed server) :
    server.deviceTrackerList.length ≤ server.fresh := by
  have inside : server.deviceTrackerList ⊆ List.range server.fresh := fun a member =>
    List.mem_range.mpr (listed.allocated a member)
  have length := (List.subperm_of_subset listed.nodup inside).length_le
  rwa [List.length_range] at length

/-- Every tracker on the list is there. -/
theorem Listed.there {server : Server} (listed : Listed server) (trackers : LinkedList)
    (told : List Telling) :
    ∀ a ∈ server.deviceTrackerList, (Tracking.mk server trackers told).there a = true := by
  intro a member
  obtain ⟨s, live, -⟩ := isTracker_iff.mp ((listed.mem_iff a).mp member)
  rw [Tracking.there, live]
  rfl

/-- A new tracker is put at the front of the list. -/
theorem follows_createDeviceTracker {state : Tracking} (listed : Listed state.server)
    (linked : state.trackers.Represents state.server.deviceTrackerList) :
    Follows (some state.createDeviceTracker) state.server.createDeviceTracker state.told := by
  have unused : state.server.fresh ∉ state.server.deviceTrackerList := fun member =>
    Nat.lt_irrefl _ (listed.allocated _ member)
  exact ⟨_, rfl, linked.push unused⟩

section Following

variable {server : Server} {trackers : LinkedList} (told : List Telling) {a p : Nat}
  {s r : Asocket}

/-- A tracker is taken off the list and freed. -/
theorem follows_closeUnpeered (listed : Listed server)
    (linked : trackers.Represents server.deviceTrackerList) (live : server.sockets a = some s)
    (tracker : s.kind = .deviceTracker) :
    Follows ((Tracking.mk server trackers told).closeUnpeered a) (server.closeUnpeered a) told := by
  have enough : server.deviceTrackerList.length < server.fresh + 1 :=
    Nat.lt_succ_of_le (length_trackers listed)
  obtain ⟨trackers', unlinked, represents⟩ :=
    linked.unlink (listed.there trackers told) enough a
  refine ⟨trackers', ?_, ?_⟩
  · simp [Tracking.closeUnpeered, Tracking.deviceTrackerRemove, Tracking.act, live, tracker,
      unlinked]
  · have list : (server.closeUnpeered a).deviceTrackerList = server.deviceTrackerList.erase a := by
      simp [Server.closeUnpeered, Server.free, live, tracker]
    rw [list]
    exact represents

theorem follows_localSocketClose (listed : Listed server)
    (linked : trackers.Represents server.deviceTrackerList) (live : server.sockets a = some s)
    (tracker : s.kind = .deviceTracker) (live_p : server.sockets p = some r)
    (isLocal : r.kind = .localSocket) (silent : r.notify = false) (peer : r.peer = some a) :
    Follows ((Tracking.mk server trackers told).localSocketClose p) (server.close p) told := by
  have shut : server.shutdown a = server := by simp [Server.shutdown, live, tracker]
  have live' : (server.clearPeer a).sockets a = some { s with peer := none } := by
    simp [Server.clearPeer, live]
  have listed' : Listed (server.clearPeer a) := listed.modify a fun _ => rfl
  obtain ⟨trackers', closed, represents⟩ :=
    follows_closeUnpeered told listed' linked live' tracker
  refine ⟨trackers', ?_, ?_⟩
  · simp [Tracking.localSocketClose, Tracking.localSocketCloseLocked, Tracking.act, Server.close,
      Server.localSocketCloseLocked, live_p, isLocal, silent, peer, shut, closed]
  · have closes : server.close p =
        (((server.clearPeer a).closeUnpeered a).clearPeer p).finishClose p := by
      simp [Server.close, Server.localSocketCloseLocked, live_p, isLocal, silent, peer, shut]
    rw [closes, deviceTrackerList_finishClose]
    exact represents

/-- A packet for the client of a tracker is written, queued, or the end of both. -/
theorem follows_localSocketEnqueue (listed : Listed server)
    (linked : trackers.Represents server.deviceTrackerList) (live : server.sockets a = some s)
    (tracker : s.kind = .deviceTracker) (live_p : server.sockets p = some r)
    (isLocal : r.kind = .localSocket) (silent : r.notify = false) (peer : r.peer = some a)
    (packet : List UInt8) :
    Follows ((Tracking.mk server trackers told).localSocketEnqueue p packet)
      (server.localSocketEnqueue p packet).1 told := by
  simp only [Tracking.localSocketEnqueue, Server.localSocketEnqueue, live_p]
  change Follows (if _ then _ else _) _ _
  split
  · exact ⟨trackers, rfl, linked⟩
  · generalize writeLoop false server.writes packet = loop
    obtain ⟨written, rest, outcome, writes⟩ := loop
    cases outcome with
    | done => exact ⟨trackers, rfl, linked⟩
    | again => exact ⟨trackers, rfl, linked⟩
    | failed =>
        have same : Drops server ({ server with writes }.recordOutput p written) := Drops.quiet rfl
        have listed' := (same listed).listed listed
        exact follows_localSocketClose told listed' linked live tracker live_p isLocal silent peer

theorem follows_deviceTrackerSend (consistent : Consistent server) (listed : Listed server)
    (linked : trackers.Represents server.deviceTrackerList) (live : server.sockets a = some s)
    (tracker : s.kind = .deviceTracker) (peer : s.peer = some p) (buffer : List UInt8) :
    Follows (Tracking.deviceTrackerSend buffer a ⟨server, trackers, told⟩)
      (server.deviceTrackerSend a buffer) (told ++ [⟨a, p, buffer⟩]) := by
  obtain ⟨r, live_p, ok⟩ := consistent.pairOk live peer
  have isLocal := ok.partner (by simp [tracker])
  have silent := (consistent.locals p r live_p isLocal).unnotified_of_peer ok.symmetric
  have enqueued := follows_localSocketEnqueue (told ++ [⟨a, p, buffer⟩]) listed linked
    live tracker live_p isLocal silent ok.symmetric buffer
  simp only [Server.deviceTrackerSend, live, tracker, peer]
  simpa [Tracking.deviceTrackerSend, live, peer, live_p, isLocal] using enqueued

/-- A tracker is told and, if its client is gone, freed. -/
theorem sockets_deviceTrackerSend (consistent : Consistent server)
    (live : server.sockets a = some s) (tracker : s.kind = .deviceTracker)
    (peer : s.peer = some p) (buffer : List UInt8) {c : Nat} (different : c ≠ p) :
    (server.deviceTrackerSend a buffer).sockets c = server.sockets c ∨
      c = a ∧ (server.deviceTrackerSend a buffer).sockets c = none := by
  obtain ⟨r, live_p, ok⟩ := consistent.pairOk live peer
  have queued (middle : Server) (same : middle.sockets = server.sockets) (packet : List UInt8) :
      (middle.enqueuePacket p packet).sockets c = server.sockets c := by
    rw [Server.enqueuePacket, Server.sockets_modify_of_ne different, same]
  simp only [Server.deviceTrackerSend, live, tracker, peer, Server.localSocketEnqueue, live_p]
  split
  · exact .inl (queued server rfl buffer)
  · generalize writeLoop false server.writes buffer = loop
    obtain ⟨written, rest, outcome, writes⟩ := loop
    cases outcome with
    | done => exact .inl rfl
    | again => exact .inl (queued _ rfl rest)
    | failed =>
        have recorded : Consistent ({ server with writes }.recordOutput p written) :=
          consistent.congr (.of rfl (Server.origin_recordOutput { server with writes } p written))
        have closes := closes_close recorded live_p
        by_cases same : c = a
        · subst same
          have ended := closes.ended c (.inr ok.symmetric)
          have recorded_c : ({ server with writes }.recordOutput p written).sockets c = some s :=
            live
          rw [recorded_c] at ended
          dsimp only
          generalize Server.sockets _ c = after at ended
          cases ended with
          | freed => exact .inr ⟨rfl, rfl⟩
          | lingers isLocal => exact absurd (tracker.symm.trans isLocal) (by decide)
        · refine .inl (closes.others c ?_)
          rintro (peer' | itself)
          · exact different peer'
          · exact same (Option.some.inj (itself.symm.trans ok.symmetric))

/-- The other trackers stay as they are, and what was freed stays freed. -/
theorem trackers_deviceTrackerSend (consistent : Consistent server)
    (live : server.sockets a = some s) (tracker : s.kind = .deviceTracker)
    (peer : s.peer = some p) (buffer : List UInt8) :
    (∀ c, server.isTracker c = true → c ≠ a →
      (server.deviceTrackerSend a buffer).sockets c = server.sockets c) ∧
    ∀ c, server.sockets c = none ∨ server.isTracker c = true →
      (server.deviceTrackerSend a buffer).sockets c = none ∨
        (server.deviceTrackerSend a buffer).isTracker c = true := by
  obtain ⟨r, live_p, ok⟩ := consistent.pairOk live peer
  have isLocal := ok.partner (by simp [tracker])
  have apart : ∀ c, server.sockets c = none ∨ server.isTracker c = true → c ≠ p := by
    rintro c (dead | tracker_c) rfl
    · rw [live_p] at dead
      cases dead
    · rw [isTracker_of_live live_p (by simp [isLocal])] at tracker_c
      cases tracker_c
  have sent (c : Nat) (different : c ≠ p) :=
    sockets_deviceTrackerSend consistent live tracker peer buffer different
  constructor
  · intro c tracker_c different
    rcases sent c (apart c (.inr tracker_c)) with same | ⟨itself, -⟩
    · exact same
    · exact absurd itself different
  · intro c before
    rcases sent c (apart c before) with same | ⟨-, freed⟩
    · rw [Server.isTracker, same]
      exact before
    · exact .inl freed

end Following

/-! ## Walking along the list -/

/-- What `device_tracker_send` calls for a tracker. -/
def Server.telling (server : Server) (buffer : List UInt8) (a : Nat) : Option Telling :=
  (server.sockets a).bind fun s => s.peer.map fun peer => ⟨a, peer, buffer⟩

/-- `update_transports` has told some of the trackers of `start`: of these the ones in `before` are
still there, and those in `rest` come next. -/
structure Underway (start : Server) (buffer : List UInt8) (before rest : List Nat)
    (state : Tracking) : Prop where
  consistent : Consistent state.server
  tracked : Tracked state.server
  list : state.server.deviceTrackerList = before ++ rest
  linked : state.trackers.Represents (before ++ rest)
  coming : ∀ a ∈ rest, state.server.sockets a = start.sockets a
  stays : ∀ a ∈ start.deviceTrackerList,
    state.server.sockets a = none ∨ state.server.isTracker a = true
  server : rest.foldl (fun server a => server.deviceTrackerSend a buffer) state.server =
    start.updateTransports buffer
  told : state.told.map some ++ rest.map (start.telling buffer) =
    start.deviceTrackerList.map (start.telling buffer)

/-- Only the element in the middle may be filtered out. -/
theorem filter_around {before rest : List Nat} {a : Nat} {keep : Nat → Bool}
    (nodup : (before ++ a :: rest).Nodup)
    (kept : ∀ c ∈ before ++ a :: rest, c ≠ a → keep c = true) :
    (before ++ a :: rest).filter keep = before ++ [a].filter keep ++ rest := by
  rw [List.nodup_append, List.nodup_cons] at nodup
  have front : before.filter keep = before := by
    rw [List.filter_eq_self]
    intro c member
    apply kept c (List.mem_append_left _ member)
    rintro rfl
    exact nodup.2.2 c member c List.mem_cons_self rfl
  have rear : rest.filter keep = rest := by
    rw [List.filter_eq_self]
    intro c member
    apply kept c (List.mem_append_right _ (List.mem_cons_of_mem a member))
    rintro rfl
    exact nodup.2.1.1 member
  have split : a :: rest = [a] ++ rest := rfl
  rw [split, List.filter_append, List.filter_append, front, rear, List.append_assoc]

/-- One tracker is told; the ones in front of it and behind it stay as they are. -/
theorem Underway.act {start : Server} {buffer : List UInt8} {before rest : List Nat} {a : Nat}
    {state : Tracking} (underway : Underway start buffer before (a :: rest) state) :
    state.there a = true ∧ ∃ before' state',
      Tracking.deviceTrackerSend buffer a state = some state' ∧
        Underway start buffer before' rest state' := by
  obtain ⟨server, trackers, told⟩ := state
  obtain ⟨consistent, tracked, list, linked, coming, stays, folded, tells⟩ := underway
  dsimp only at consistent tracked list linked coming stays folded tells
  have listed : ∀ c ∈ before ++ a :: rest, server.isTracker c = true := by
    intro c member
    rw [← list] at member
    exact (tracked.listed.mem_iff c).mp member
  obtain ⟨s, live, tracker⟩ := isTracker_iff.mp (listed a (by simp))
  obtain ⟨p, peer⟩ := Option.ne_none_iff_exists'.mp (tracked.peered a s live tracker)
  obtain ⟨same, stay⟩ := trackers_deviceTrackerSend consistent live tracker peer buffer
  have linked_a : trackers.Represents server.deviceTrackerList := by rwa [list]
  obtain ⟨trackers', done, represents⟩ := follows_deviceTrackerSend told consistent
    tracked.listed linked_a live tracker peer buffer
  have dropped := Drops.deviceTrackerSend server a buffer tracked.listed
  have consistent' := consistent.effects (effects_deviceTrackerSend consistent a buffer)
  have tracked' := (Drops.deviceTrackerSend server a buffer).tracked tracked
  dsimp only [List.foldl_cons] at folded
  generalize server.deviceTrackerSend a buffer = after at *
  -- only the tracker itself may have been freed
  have list' : after.deviceTrackerList = before ++ [a].filter after.isTracker ++ rest := by
    rw [dropped.list, list]
    apply filter_around linked.nodup
    intro c member different
    rw [Server.isTracker, same c (listed c member) different]
    exact listed c member
  refine ⟨by rw [Tracking.there, live]; rfl, before ++ [a].filter after.isTracker, _, done, ?_⟩
  constructor
  · exact consistent'
  · exact tracked'
  · exact list'
  · rw [← list']
    exact represents
  · intro c member
    have tracker_c := listed c (List.mem_append_right _ (List.mem_cons_of_mem a member))
    have different : c ≠ a := by
      rintro rfl
      have nodup := (List.nodup_append.mp linked.nodup).2.1
      exact (List.nodup_cons.mp nodup).1 member
    exact (same c tracker_c different).trans (coming c (List.mem_cons_of_mem a member))
  · exact fun c member => stay c (stays c member)
  · exact folded
  · have telling : start.telling buffer a = some ⟨a, p, buffer⟩ := by
      rw [Server.telling, ← coming a List.mem_cons_self, live, Option.bind_some, peer]
      rfl
    rw [List.map_cons, telling] at tells
    rw [List.map_append, List.append_assoc]
    exact tells

/-- From a state that keeps the invariants, all trackers are told. -/
theorem updateTransports_walks {server : Server} (consistent : Consistent server)
    (tracked : Tracked server) {trackers : LinkedList}
    (linked : trackers.Represents server.deviceTrackerList) (buffer : List UInt8) :
    ∃ before state, Tracking.updateTransports ⟨server, trackers, []⟩ buffer = some state ∧
      Underway server buffer before [] state := by
  have good : Underway server buffer [] server.deviceTrackerList ⟨server, trackers, []⟩ := by
    constructor
    · exact consistent
    · exact tracked
    · rfl
    · exact linked
    · exact fun _ _ => rfl
    · exact fun a member => .inr ((tracked.listed.mem_iff a).mp member)
    · rfl
    · rfl
  rw [Tracking.updateTransports, linked.chain.start_eq]
  exact LinkedList.walk_eq (fun good => good.linked) (fun good => good.act) good
    (length_trackers tracked.listed)

/-! ## The calls of `update_transports` -/

/-- `handle_packet` up to the call of `parse_banner` for an `A_CNXN` packet. -/
def Server.beforeBanner (server : Server) (transport : Nat) : Server :=
  if (server.transports transport).connectionState = .offline then server
  else
    (server.modifyTransport transport
      fun t => { t with connectionState := .offline }).handleOffline transport

theorem handleConnect_eq (server : Server) (transport : Nat) (message : Message)
    (deviceList : List UInt8) :
    server.handleConnect transport message deviceList =
      ((server.beforeBanner transport).parseBanner transport message.payload
        deviceList).modifyTransport transport fun t => { t with online := true } := rfl

/-- The states in which `update_transports` is called: when a transport is registered or removed,
and by `parse_banner` behind the change of `connection_state`. -/
inductive UpdateCall : Server → Prop where
  | registered {server : Server} (writes : List WriteResult) :
      Reachable ServerStep Server.start server → UpdateCall { server with writes }
  | banner {server : Server} (transport : Nat) (message : Message) (writes : List WriteResult)
      (state : ConnectionState) :
      Reachable ServerStep Server.start server →
      UpdateCall (({ server with
          received := server.received ++ [(transport, message)]
          writes }.beforeBanner transport).modifyTransport transport
        fun t => { t with connectionState := state })

theorem Consistent.beforeBanner {server : Server} (consistent : Consistent server)
    (transport : Nat) : Consistent (server.beforeBanner transport) := by
  unfold Server.beforeBanner
  split
  · exact consistent
  · have offline := consistent.modifyTransport transport
      (fun t => { t with connectionState := .offline }) fun _ => rfl
    exact offline.handleOffline transport

theorem Drops.beforeBanner (server : Server) (transport : Nat) :
    Drops server (server.beforeBanner transport) := by
  unfold Server.beforeBanner
  split
  · exact refl server
  · exact (modifyTransport server transport _).trans (handleOffline _ transport)

theorem UpdateCall.invariants {server : Server} (call : UpdateCall server) :
    Consistent server ∧ Tracked server := by
  cases call with
  | @registered server writes reachable =>
      constructor
      · exact (consistent_of_reachable reachable).congr (.of rfl fun _ => rfl)
      · exact (Drops.writes server writes).tracked (tracked_of_reachable reachable)
  | @banner server transport message writes state reachable =>
      have noted : Drops server { server with
          received := server.received ++ [(transport, message)]
          writes } := Drops.quiet rfl
      have consistent : Consistent { server with
          received := server.received ++ [(transport, message)]
          writes } := (consistent_of_reachable reachable).congr (.of rfl fun _ => rfl)
      constructor
      · exact (consistent.beforeBanner transport).modifyTransport transport _ fun _ => rfl
      · have before := noted.trans (Drops.beforeBanner _ transport)
        exact (before.trans (Drops.modifyTransport _ transport _)).tracked
          (tracked_of_reachable reachable)

/-- Whatever happens to the clients, every tracker that is on the list when `update_transports` is
called is sent the list of devices once, and those that are not freed stay on the list, in the same
order. -/
theorem updateTransports_tells {server : Server} (call : UpdateCall server)
    {trackers : LinkedList} (linked : trackers.Represents server.deviceTrackerList)
    (buffer : List UInt8) :
    ∃ after, Tracking.updateTransports ⟨server, trackers, []⟩ buffer = some after ∧
      after.told.map some = server.deviceTrackerList.map (server.telling buffer) ∧
      after.server = server.updateTransports buffer ∧
      after.trackers.Represents
        (server.deviceTrackerList.filter fun a => (after.server.sockets a).isSome) := by
  obtain ⟨consistent, tracked⟩ := call.invariants
  obtain ⟨before, after, done, underway⟩ :=
    updateTransports_walks consistent tracked linked buffer
  have told := underway.told
  rw [List.map_nil, List.append_nil] at told
  refine ⟨after, done, told, underway.server, ?_⟩
  have list : server.deviceTrackerList.filter (fun a => (after.server.sockets a).isSome) =
      after.server.deviceTrackerList := by
    have same : after.server = server.updateTransports buffer := underway.server
    have dropped := Drops.updateTransports server buffer tracked.listed
    rw [← same] at dropped
    rw [dropped.list]
    apply List.filter_congr
    intro a member
    rcases underway.stays a member with freed | tracker
    · simp [Server.isTracker, freed]
    · obtain ⟨s, live, -⟩ := isTracker_iff.mp tracker
      rw [tracker, live]
      rfl
  rw [list, underway.list]
  exact underway.linked

/-- Two clients ask for `track-devices`. -/
def trackDevices : List (Step × Outside) :=
  [(.client, {}),
    (.event 0 false true, { reads := [.got 48 (Server.ascii "012host:track-devices")] }),
    (.client, {}),
    (.event 3 false true, { reads := [.got 48 (Server.ascii "012host:track-devices")] })]

theorem reachable_trackDevices : Reachable ServerStep Server.start (Server.run trackDevices) := by
  refine ⟨trackDevices,
    .snoc (.snoc (.snoc (.snoc .nil ⟨trivial, rfl⟩) ⟨?_, rfl⟩) ⟨trivial, rfl⟩) ⟨?_, rfl⟩⟩
  · refine ⟨{ kind := .localSocket, id := 2, peer := some 4, wantRead := true }, ?_, rfl, ?_, ?_⟩
    · with_unfolding_all rfl
    · simp
    · simp
  · refine ⟨{ kind := .localSocket, id := 1, peer := some 1, wantRead := true }, ?_, rfl, ?_, ?_⟩
    · rfl
    · simp
    · simp

/-- The client that came last has hung up: both are told, and the other one is still tracked. -/
theorem updateTransports_tells_hungUp :
    ∃ after, Tracking.updateTransports
        ⟨{ Server.run trackDevices with writes := [.failed, .wrote 5] },
          (LinkedList.empty.push 2).push 5, []⟩ [65] = some after ∧
      after.told = [⟨5, 3, [65]⟩, ⟨2, 0, [65]⟩] ∧
      after.server =
        { Server.run trackDevices with writes := [.failed, .wrote 5] }.updateTransports [65] ∧
      after.trackers.Represents [2] := by
  have list : (Server.run trackDevices).deviceTrackerList = [5, 2] := by
    with_unfolding_all decide
  have telling : [5, 2].map ((Server.run trackDevices).telling [65]) =
      [⟨5, 3, [65]⟩, ⟨2, 0, [65]⟩].map some := by
    with_unfolding_all decide
  have linked : ((LinkedList.empty.push 2).push 5).Represents
      (Server.run trackDevices).deviceTrackerList := by
    rw [list]
    exact (LinkedList.represents_empty.push List.not_mem_nil).push (by decide)
  have tells := updateTransports_tells (.registered [.failed, .wrote 5] reachable_trackDevices)
    linked [65]
  obtain ⟨after, done, told, server, represents⟩ := tells
  refine ⟨after, done, ?_, server, ?_⟩
  · rw [list] at told
    exact (List.map_inj_right fun _ _ => Option.some.inj).mp (told.trans telling)
  · have stays : [5, 2].filter (fun a => ((({ Server.run trackDevices with
        writes := [.failed, .wrote 5] } : Server).updateTransports [65]).sockets a).isSome) =
          [2] := by
      with_unfolding_all decide
    rw [list, server, stays] at represents
    exact represents

end Sockets
end AdbWide
