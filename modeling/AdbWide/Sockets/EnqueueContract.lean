import Mathlib.Algebra.GroupWithZero.Nat
import AdbWide.Sockets.Reachability
import AdbWide.Sockets.Requests

/-!
# What `enqueue` tells its caller

`local_socket_event_func` hands what it read to the `enqueue` of its peer and goes on with its own
socket, unless the result is negative: then the socket was closed on the way.  This file says which
calls close the caller's socket and return something else.
-/

namespace AdbWide
namespace Sockets

/-- The socket is open and on the list of local sockets. -/
def Server.OpenAt (server : Server) (address : Nat) : Prop :=
  address ∈ server.localSocketList ∧ ∃ s, server.sockets address = some s ∧ s.closing = false

/-- After a call of `enqueue` the socket of the caller is open, or the result is negative. -/
def Tells (result : Server × Int) (caller : Nat) : Prop :=
  ¬result.1.OpenAt caller → result.2 < 0

/-- Among the results of `adb_write` there is zero, or an error other than `EAGAIN`, before the
whole packet is written. -/
def Breaks (writes : List WriteResult) (packet : List UInt8) : Prop :=
  ∃ (counts : List Nat) (result : WriteResult) (later : List WriteResult),
    writes = counts.map WriteResult.wrote ++ result :: later ∧
      (counts.map (· + 1)).sum < packet.length ∧ (result = .failed ∨ result = .interrupted)

/-- The calls of `enqueue` that close the socket of the caller without a negative result. -/
inductive ClosesSilently (server : Server) (address : Nat) (packet : List UInt8)
    (outside : Outside) : Prop where
  /-- `local_socket_enqueue` cannot write the packet. -/
  | localSocket {r : Asocket} :
      server.sockets address = some r → r.kind = .localSocket → r.queue.first = none →
      Breaks server.writes packet → ClosesSilently server address packet outside
  /-- The packet completes a request for `track-devices`, and the device tracker cannot write the
  list of devices to the client. -/
  | tracker {r : Asocket} {text behind : List UInt8} :
      server.sockets address = some r → r.kind = .smartSocket →
      Server.progress r.request packet = .complete text behind →
      Server.hostService text = some (Server.ascii "track-devices") →
      outside.hostHandled = false → Breaks server.writes outside.deviceList →
      ClosesSilently server address packet outside

/-! ## The loop over `adb_write` -/

theorem not_breaks_nil (writes : List WriteResult) : ¬Breaks writes [] := by
  rintro ⟨counts, result, later, -, short, -⟩
  simp at short

theorem breaks_wrote_iff {more : Nat} {writes : List WriteResult} {packet : List UInt8} :
    Breaks (.wrote more :: writes) packet ↔ Breaks writes (packet.drop (more + 1)) := by
  constructor
  · rintro ⟨counts, result, later, same, short, bad⟩
    cases counts with
    | nil =>
        simp only [List.map_nil, List.nil_append, List.cons.injEq] at same
        obtain ⟨rfl, -⟩ := same
        simp at bad
    | cons count counts =>
        simp only [List.map_cons, List.cons_append, List.cons.injEq, WriteResult.wrote.injEq]
          at same
        obtain ⟨rfl, rfl⟩ := same
        refine ⟨counts, result, later, rfl, ?_, bad⟩
        rw [List.map_cons, List.sum_cons] at short
        rw [List.length_drop]
        omega
  · rintro ⟨counts, result, later, rfl, short, bad⟩
    refine ⟨more :: counts, result, later, rfl, ?_, bad⟩
    rw [List.length_drop] at short
    rw [List.map_cons, List.sum_cons]
    omega

/-- The loop of `local_socket_enqueue` fails exactly when the results say so. -/
theorem writeLoop_failed_iff (writes : List WriteResult) (packet : List UInt8) :
    (writeLoop false writes packet).outcome = .failed ↔ Breaks writes packet := by
  induction writes generalizing packet with
  | nil =>
      have unbroken : ¬Breaks [] packet := by
        rintro ⟨counts, result, later, same, -⟩
        simp at same
      cases packet <;> simp [writeLoop, unbroken]
  | cons result writes induction =>
      cases packet with
      | nil => simp [writeLoop, not_breaks_nil]
      | cons byte bytes =>
          cases result with
          | wrote more => exact (induction _).trans breaks_wrote_iff.symm
          | again =>
              simp only [writeLoop, reduceCtorEq, false_iff]
              rintro ⟨counts, result, later, same, -, bad⟩
              cases counts with
              | nil =>
                  simp only [List.map_nil, List.nil_append, List.cons.injEq] at same
                  simp [← same.1] at bad
              | cons count counts => simp at same
          | interrupted =>
              simp only [writeLoop, Bool.false_eq_true, if_false, true_iff]
              exact ⟨[], .interrupted, writes, rfl, Nat.succ_pos _, .inr rfl⟩
          | failed =>
              simp only [writeLoop, true_iff]
              exact ⟨[], .failed, writes, rfl, Nat.succ_pos _, .inl rfl⟩

/-! ## Open sockets -/

namespace Server.OpenAt

variable {server : Server} {a : Nat}

theorem of_live {s : Asocket} (consistent : Consistent server)
    (live : server.sockets a = some s) (isLocal : s.kind = .localSocket)
    (stillOpen : s.closing = false) : server.OpenAt a :=
  ⟨((consistent.locals a s live isLocal).open_listed stillOpen).1, s, live, stillOpen⟩

theorem modify (opened : server.OpenAt a) (b : Nat) {change : Asocket → Asocket}
    (keeps : ∀ s, (change s).closing = s.closing) : (server.modify b change).OpenAt a := by
  obtain ⟨listed, s, live, stillOpen⟩ := opened
  by_cases same : a = b
  · subst same
    exact ⟨listed, change s, by rw [sockets_modify_self, live, Option.map_some],
      (keeps s).trans stillOpen⟩
  · exact ⟨listed, s, by rw [sockets_modify_of_ne same, live], stillOpen⟩

theorem free (opened : server.OpenAt a) {b : Nat} (different : a ≠ b) :
    (server.free b).OpenAt a := by
  obtain ⟨listed, s, live, stillOpen⟩ := opened
  exact ⟨listed, s, by simp [Server.free, different, live], stillOpen⟩

end Server.OpenAt

/-- Neither a socket that was closed nor its peer is open. -/
theorem not_openAt_close {server : Server} {a b : Nat} {r : Asocket}
    (consistent : Consistent server) (live : server.sockets b = some r)
    (touched : a = b ∨ r.peer = some a) : ¬(server.close b).OpenAt a := fun opened =>
  (((closes_close consistent live).mem_list a).mp opened.1).2 touched

/-- `local_socket_enqueue` leaves its socket and the peer open if it can write the packet or hang it
on the queue. -/
theorem openAt_localSocketEnqueue_iff {server : Server} {a b : Nat} {r : Asocket}
    (consistent : Consistent server) (live : server.sockets b = some r)
    (touched : a = b ∨ r.peer = some a) (opened : server.OpenAt a) (packet : List UInt8) :
    (server.localSocketEnqueue b packet).1.OpenAt a ↔
      ¬(r.queue.first = none ∧ Breaks server.writes packet) := by
  have pushed : ∀ (middle : Server) (rest : List UInt8), middle.OpenAt a →
      (middle.enqueuePacket b rest).OpenAt a := fun middle rest still =>
    still.modify b fun _ => rfl
  rw [← writeLoop_failed_iff]
  simp only [Server.localSocketEnqueue, live]
  cases queued : r.queue.first with
  | some cell => simpa using pushed server packet opened
  | none =>
      simp only [Option.isSome_none, Bool.false_eq_true, if_false, true_and]
      generalize writeLoop false server.writes packet = loop
      have still : ({ server with writes := loop.writes }.recordOutput b loop.written).OpenAt a :=
        opened
      have recorded : Consistent
          ({ server with writes := loop.writes }.recordOutput b loop.written) :=
        consistent.congr (.of rfl (Server.origin_recordOutput _ b loop.written))
      cases loop.outcome with
      | done => simpa using still
      | again => simpa using pushed _ loop.rest still
      | failed => simpa using not_openAt_close recorded live touched

theorem localSocketEnqueue_nonneg (server : Server) (b : Nat) (packet : List UInt8) :
    0 ≤ (server.localSocketEnqueue b packet).2 := by
  unfold Server.localSocketEnqueue
  split
  · simp
  · split
    · simp
    · dsimp only
      split <;> simp

theorem tells_iff_openAt {result : Server × Int} {a : Nat} (nonneg : 0 ≤ result.2) :
    Tells result a ↔ result.1.OpenAt a := by
  rw [Tells, not_imp_comm]
  exact ⟨fun opened => opened (by omega), fun opened _ => opened⟩

theorem tells_of_negative {server : Server} {a : Nat} : Tells (server, -1) a := fun _ => by simp

theorem tells_of_openAt {server : Server} {a : Nat} {r : Int} (opened : server.OpenAt a) :
    Tells (server, r) a := fun closed => absurd opened closed

/-! ## Requests -/

theorem hostServiceKind_eq_deviceTracker_iff (service : List UInt8) :
    Server.hostServiceKind service = some .deviceTracker ↔
      service = Server.ascii "track-devices" := by
  unfold Server.hostServiceKind
  split
  case isTrue tracks => simp [tracks]
  case isFalse other =>
    simp only [other, iff_false]
    split
    · split <;> simp
    · split <;> simp

/-- A service of the host is connected without a word about what became of the client. -/
theorem tells_connectToHostService_iff {server : Server} {a b : Nat} {r : Asocket}
    (consistent : Consistent server) (live_b : server.sockets b = some r)
    (smart : r.kind = .smartSocket) (peer_b : r.peer = some a) (opened : server.OpenAt a)
    (kind : Kind) (deviceList : List UInt8) :
    Tells (server.connectToHostService b a kind deviceList, 0) a ↔
      ¬(kind = .deviceTracker ∧ Breaks server.writes deviceList) := by
  obtain ⟨listed, s, live, stillOpen⟩ := opened
  obtain ⟨joined, connected, effects, live_a, live_q, writes, kept, -⟩ :=
    connectToHostService_spec consistent live live_b smart peer_b kind deviceList
  have joined_ok := consistent.effects effects
  have opened : joined.OpenAt a := ⟨kept listed, _, live_a, stillOpen⟩
  have unqueued : s.queue.first = none := consistent.smart_peer b r a s live_b smart peer_b live
  rw [tells_iff_openAt (by simp), connected]
  by_cases tracks : kind = .deviceTracker
  · subst tracks
    simp only [serviceSocket, if_true] at live_q
    have ready : joined.ready server.fresh deviceList =
        ((joined.modify server.fresh fun s =>
          { s with updateNeeded := false }).localSocketEnqueue a deviceList).1 := by
      simp [Server.ready, live_q, Server.deviceTrackerSend]
    have noted := effects_modify joined server.fresh (fun s => { s with updateNeeded := false })
      fun _ _ => .of rfl id id fun _ => rfl
    have a_ne : a ≠ server.fresh := by
      rintro rfl
      rw [consistent.unallocated _ (Nat.le_refl _)] at live
      cases live
    rw [ready, openAt_localSocketEnqueue_iff (joined_ok.effects noted)
      (by rw [Server.sockets_modify_of_ne a_ne]; exact live_a) (.inl rfl)
      (opened.modify server.fresh fun _ => rfl)]
    simp [unqueued, Server.modify, writes]
  · simp only [serviceSocket, if_neg tracks] at live_q
    have ready : joined.ready server.fresh deviceList =
        joined.modify server.fresh fun s => { s with wantRead := true } := by
      simp [Server.ready, live_q]
    rw [ready]
    exact iff_of_true (opened.modify server.fresh fun _ => rfl) fun both => tracks both.1

/-- A stream of a transport is opened without closing the client. -/
theorem openAt_connectToTransport {server : Server} {a b : Nat} {r : Asocket}
    (live_b : server.sockets b = some r) (smart : r.kind = .smartSocket) (different : a ≠ b)
    (opened : server.OpenAt a) (transport : Nat) (destination : List UInt8) :
    (server.connectToTransport b a transport destination).OpenAt a := by
  have waits : (server.modify a fun s =>
      { s with notify := true, peer := none, transport := some transport }).OpenAt a :=
    opened.modify a fun _ => rfl
  have still_b : (server.modify a fun s =>
      { s with notify := true, peer := none, transport := some transport }).sockets b =
        some r := by
    rw [Server.sockets_modify_of_ne different.symm, live_b]
  simp only [Server.connectToTransport]
  generalize (server.modify a fun s =>
    { s with notify := true, peer := none, transport := some transport }) = middle
    at waits still_b
  have asked : (middle.connectToRemote a destination).OpenAt a ∧
      (middle.connectToRemote a destination).sockets b = some r := by
    unfold Server.connectToRemote
    split
    · exact ⟨waits, still_b⟩
    · split
      · exact ⟨waits, still_b⟩
      · exact ⟨waits, still_b⟩
  generalize middle.connectToRemote a destination = asking at asked
  have closed : (asking.clearPeer b).close b = (asking.clearPeer b).free b := by
    simp [Server.close, Server.closeUnpeered, Server.clearPeer, asked.2, smart]
  rw [closed]
  have cleared : (asking.clearPeer b).OpenAt a := asked.1.modify b fun _ => rfl
  exact cleared.free different

theorem tells_handleRequest_iff {server : Server} {a b : Nat} {r s : Asocket}
    (consistent : Consistent server) (live_b : server.sockets b = some r)
    (smart : r.kind = .smartSocket) (peer_b : r.peer = some a) (peer_s : s.peer = some a)
    (opened : server.OpenAt a) (text : List UInt8) (outside : Outside) :
    Tells (server.handleRequest b s text outside) a ↔
      ¬(Server.hostService text = some (Server.ascii "track-devices") ∧
        outside.hostHandled = false ∧ Breaks server.writes outside.deviceList) := by
  obtain ⟨s', live, peer⟩ := consistent.symmetric b r a live_b peer_b
  have different := consistent.ne_peer live peer
  simp only [Server.handleRequest, peer_s]
  cases Server.hostService text with
  | some service =>
      simp only
      split
      case isTrue handled => exact iff_of_true tells_of_negative fun all => by simp [handled] at all
      case isFalse unhandled =>
        split
        case isTrue named =>
          refine iff_of_true (tells_of_openAt (opened.modify b fun _ => rfl)) fun all => ?_
          obtain rfl := Option.some.inj all.1
          exact absurd named (by with_unfolding_all decide)
        case isFalse =>
          have tracker := hostServiceKind_eq_deviceTracker_iff service
          cases found : Server.hostServiceKind service with
          | none =>
              rw [found] at tracker
              refine iff_of_true tells_of_negative fun all => ?_
              exact absurd (tracker.mpr (Option.some.inj all.1)) (by simp)
          | some kind =>
              rw [found, Option.some.injEq] at tracker
              refine (tells_connectToHostService_iff consistent live_b smart peer_b opened kind
                outside.deviceList).trans (not_congr ?_)
              rw [tracker, Option.some.injEq]
              simp [unhandled]
  | none =>
      simp only [reduceCtorEq, false_and, not_false_eq_true, iff_true]
      cases s.transport with
      | none => exact tells_of_negative
      | some transport =>
          simp only
          split
          · exact tells_of_negative
          · exact tells_of_openAt
              (openAt_connectToTransport live_b smart different opened transport text)

theorem tells_smartSocketEnqueue_iff {server : Server} {a b : Nat} {r : Asocket}
    (consistent : Consistent server) (live_b : server.sockets b = some r)
    (smart : r.kind = .smartSocket) (peer_b : r.peer = some a) (opened : server.OpenAt a)
    (packet : List UInt8) (outside : Outside) :
    Tells (server.smartSocketEnqueue b r packet outside) a ↔
      ¬∃ text behind, Server.progress r.request packet = .complete text behind ∧
        Server.hostService text = some (Server.ascii "track-devices") ∧
        outside.hostHandled = false ∧ Breaks server.writes outside.deviceList := by
  have held := effects_modify server b (fun s => { s with request := r.request ++ packet })
    fun _ _ => .of rfl id id fun _ => rfl
  rw [Server.smartSocketEnqueue_eq]
  cases Server.progress r.request packet with
  | overflow => exact iff_of_true tells_of_negative (by simp)
  | waiting => exact iff_of_true (tells_of_openAt (opened.modify b fun _ => rfl)) (by simp)
  | malformed => exact iff_of_true tells_of_negative (by simp)
  | complete text behind =>
      refine (tells_handleRequest_iff (consistent.effects held)
        (Server.sockets_hold live_b (r.request ++ packet)) smart peer_b peer_b
        (opened.modify b fun _ => rfl) text outside).trans (not_congr ?_)
      constructor
      · rintro ⟨tracks, unhandled, broken⟩
        exact ⟨text, behind, rfl, tracks, unhandled, broken⟩
      · rintro ⟨text', behind', same, tracks, unhandled, broken⟩
        cases same
        exact ⟨tracks, unhandled, broken⟩

/-! ## The contract -/

/-- Whatever the peer of a local socket is, its `enqueue` tells the caller when the socket is
closed, but for the calls that close it silently.  `Consistent` holds in every server that can be
reached and wherever `enqueue` is called inside a step. -/
theorem enqueue_tells_iff {server : Server} {a b : Nat} {s : Asocket}
    (consistent : Consistent server) (live : server.sockets a = some s)
    (isLocal : s.kind = .localSocket) (peer : s.peer = some b) (packet : List UInt8)
    (outside : Outside) :
    Tells (server.enqueue b packet outside) a ↔ ¬ClosesSilently server b packet outside := by
  obtain ⟨r, live_b, peer_b⟩ := consistent.symmetric a s b live peer
  have opened := Server.OpenAt.of_live consistent live isLocal
    ((consistent.locals a s live isLocal).stillOpen_of_peer peer)
  simp only [Server.enqueue, live_b]
  cases kind : r.kind with
  | localSocket =>
      refine (tells_iff_openAt (localSocketEnqueue_nonneg server b packet)).trans ?_
      refine (openAt_localSocketEnqueue_iff consistent live_b (.inr peer_b) opened packet).trans
        (not_congr ⟨fun broken => .localSocket live_b kind broken.1 broken.2, ?_⟩)
      rintro (⟨found, -, unqueued, broken⟩ | ⟨found, smart, -⟩)
      · cases live_b.symm.trans found
        exact ⟨unqueued, broken⟩
      · cases live_b.symm.trans found
        exact absurd (kind.symm.trans smart) (by decide)
  | remoteSocket =>
      obtain ⟨transport, on⟩ := consistent.remote_transport b r live_b kind
      simp only [on]
      refine iff_of_true (tells_of_openAt opened) ?_
      rintro (⟨found, other, -⟩ | ⟨found, other, -⟩)
      · cases live_b.symm.trans found
        exact absurd (kind.symm.trans other) (by decide)
      · cases live_b.symm.trans found
        exact absurd (kind.symm.trans other) (by decide)
  | smartSocket =>
      refine (tells_smartSocketEnqueue_iff consistent live_b kind peer_b opened packet
        outside).trans (not_congr ⟨?_, ?_⟩)
      · rintro ⟨text, behind, complete, tracks, unhandled, broken⟩
        exact .tracker live_b kind complete tracks unhandled broken
      · rintro (⟨found, other, -⟩ | ⟨found, -, complete, tracks, unhandled, broken⟩)
        · cases live_b.symm.trans found
          exact absurd (kind.symm.trans other) (by decide)
        · cases live_b.symm.trans found
          exact ⟨_, _, complete, tracks, unhandled, broken⟩
  | deviceTracker =>
      refine iff_of_true tells_of_negative ?_
      rintro (⟨found, other, -⟩ | ⟨found, other, -⟩)
      · cases live_b.symm.trans found
        exact absurd (kind.symm.trans other) (by decide)
      · cases live_b.symm.trans found
        exact absurd (kind.symm.trans other) (by decide)

/-- A client has connected and then hung up, so that it cannot be written to. -/
def hungUp : Server := { Server.run [(.client, {})] with writes := [.failed] }

theorem consistent_hungUp : Consistent hungUp :=
  (consistent_of_reachable (reachable_run (by simp [Step.Allowed]))).effects
    (effects_writes _ [.failed])

theorem enqueue_tells_iff_hungUp :
    Tells (hungUp.enqueue 1 (Server.ascii "0012host:track-devices")
        { deviceList := Server.ascii "0000" }) 0 ↔
      ¬ClosesSilently hungUp 1 (Server.ascii "0012host:track-devices")
        { deviceList := Server.ascii "0000" } :=
  enqueue_tells_iff consistent_hungUp
    (s := { kind := .localSocket, id := 1, peer := some 1, wantRead := true }) rfl rfl rfl _ _

/-- The client's request for `track-devices` closes its own socket, and `enqueue` returns zero. -/
theorem enqueue_not_tells :
    Consistent hungUp ∧
      (hungUp.sockets 0).map (fun s => (s.kind, s.peer)) = some (.localSocket, some 1) ∧
      ¬Tells (hungUp.enqueue 1 (Server.ascii "0012host:track-devices")
        { deviceList := Server.ascii "0000" }) 0 := by
  refine ⟨consistent_hungUp, rfl, fun tells => ?_⟩
  have code : (hungUp.enqueue 1 (Server.ascii "0012host:track-devices")
      { deviceList := Server.ascii "0000" }).2 = 0 := by with_unfolding_all decide
  have gone : (hungUp.enqueue 1 (Server.ascii "0012host:track-devices")
      { deviceList := Server.ascii "0000" }).1.localSocketList = [] := by
    with_unfolding_all decide
  have negative := tells fun opened => by
    rw [Server.OpenAt, gone] at opened
    exact absurd opened.1 List.not_mem_nil
  rw [code] at negative
  exact absurd negative (by decide)

end Sockets
end AdbWide
