import AdbWide.CircularList
import AdbWide.Sockets.Model
import Mathlib.Data.List.Infix

/-!
# Trackers of the list of JDWP processes

A client that asks adbd for `track-jdwp` gets a tracker, which is on the list of local sockets and
on a list of its own, with a remote socket for its peer.  Only `jdwp_tracker_close` takes it off the
second list; `close_all_sockets` closes every socket as an ordinary local one.

Of the sockets only the trackers and their peers are here.  No other socket is the peer of one of
them, and what happens to another socket does not touch them.
-/

namespace AdbWide

namespace Jdwp
namespace Trackers

open Sockets (Message)

/-- A `JdwpTracker`.  Its `transport` is `NULL`, and it never has packets to write. -/
structure JdwpTracker where
  id : Nat
  peer : Option Nat := none
  needUpdate : Bool := true

/-- A remote socket. -/
structure RemoteSocket where
  id : Nat
  peer : Option Nat := none
  transport : Nat

/-- The sockets that were allocated and not freed, by numbers that are not used again, and the lists
they are on. -/
structure Adbd where
  trackers : Nat → Option JdwpTracker
  remotes : Nat → Option RemoteSocket
  fresh : Nat
  localSocketList : List Nat
  /-- `next` and `prev` of the trackers and of `_jdwp_trackers_list`, which is `none`. -/
  links : Links (Option Nat)
  /-- The remote sockets that are told when a transport goes. -/
  disconnects : Nat → List Nat
  /-- The packets that were sent, with their transports. -/
  sent : List (Nat × Message)

/-- As `init_jdwp` leaves it. -/
def start : Adbd where
  trackers _ := none
  remotes _ := none
  fresh := 0
  localSocketList := []
  links := ⟨fun _ => none, fun _ => none⟩
  disconnects _ := []
  sent := []

namespace Adbd

/-- `send_packet`. -/
def sendPacket (adbd : Adbd) (transport : Nat) (message : Message) : Adbd :=
  { adbd with sent := adbd.sent ++ [(transport, message)] }

/-- `remote_socket_enqueue`.  Here and below `none` stands for a use of `NULL` or of memory that was
freed. -/
def remoteSocketEnqueue (adbd : Adbd) (b : Nat) (data : List UInt8) : Option Adbd := do
  let s ← adbd.remotes b
  let peer ← adbd.trackers (← s.peer)
  some (adbd.sendPacket s.transport ⟨.wrte, peer.id, s.id, data⟩)

/-- `jdwp_tracker_ready`, with what `jdwp_process_list_msg` writes. -/
def jdwpTrackerReady (adbd : Adbd) (a : Nat) (msg : List UInt8) : Option Adbd := do
  let t ← adbd.trackers a
  if t.needUpdate then
    let told := { t with needUpdate := false }
    let adbd := { adbd with trackers := Function.update adbd.trackers a (some told) }
    adbd.remoteSocketEnqueue (← t.peer) msg
  else some adbd

/-! ## Closing -/

/-- `peer->peer = NULL` of a remote socket. -/
def clearRemote (adbd : Adbd) (b : Nat) : Option Adbd := do
  let s ← adbd.remotes b
  some { adbd with remotes := Function.update adbd.remotes b (some { s with peer := none }) }

/-- `peer->peer = NULL` of a tracker. -/
def clearTracker (adbd : Adbd) (a : Nat) : Option Adbd := do
  let t ← adbd.trackers a
  some { adbd with trackers := Function.update adbd.trackers a (some { t with peer := none }) }

/-- The end of `remote_socket_close`: `remove_transport_disconnect` and `free`. -/
def freeRemote (adbd : Adbd) (b : Nat) : Option Adbd := do
  let s ← adbd.remotes b
  some { adbd with
    remotes := Function.update adbd.remotes b none
    disconnects := Function.update adbd.disconnects s.transport
      ((adbd.disconnects s.transport).erase b) }

/-- `remove_socket` and `free`. -/
def freeSocket (adbd : Adbd) (a : Nat) : Adbd :=
  { adbd with
    trackers := Function.update adbd.trackers a none
    localSocketList := adbd.localSocketList.erase a }

/-- The end of `jdwp_tracker_close`. -/
def freeTracker (adbd : Adbd) (a : Nat) : Option Adbd := do
  let _ ← adbd.trackers a
  some { adbd.freeSocket a with links := adbd.links.unlink (some a) }

/-- `jdwp_tracker_close`.  The peer is closed with its own `peer` set to zero, so it is freed and
does nothing else. -/
def jdwpTrackerClose (adbd : Adbd) (a : Nat) : Option Adbd := do
  let s ← adbd.trackers a
  match s.peer with
  | none => adbd.freeTracker a
  | some peer => (← (← adbd.clearRemote peer).freeRemote peer).freeTracker a

/-- `remote_socket_close`; `remote_socket_disconnect` does the same. -/
def remoteSocketClose (adbd : Adbd) (b : Nat) : Option Adbd := do
  let s ← adbd.remotes b
  match s.peer with
  | none => adbd.freeRemote b
  | some peer => (← (← adbd.clearTracker peer).freeTracker peer).freeRemote b

/-- `remote_socket_shutdown`. -/
def remoteSocketShutdown (adbd : Adbd) (b : Nat) : Option Adbd := do
  let s ← adbd.remotes b
  match s.peer with
  | none => some (adbd.sendPacket s.transport ⟨.clse, 0, s.id, []⟩)
  | some a =>
      let peer ← adbd.trackers a
      some (adbd.sendPacket s.transport ⟨.clse, peer.id, s.id, []⟩)

/-- `local_socket_close_locked` of a tracker, which is not closing and has no packets: it is
destroyed at once. -/
def localSocketCloseLocked (adbd : Adbd) (a : Nat) : Option Adbd := do
  let s ← adbd.trackers a
  match s.peer with
  | none => some (adbd.freeSocket a)
  | some peer =>
      let adbd ← (← (← adbd.remoteSocketShutdown peer).clearRemote peer).freeRemote peer
      some (adbd.freeSocket a)

/-- The peer of a tracker is on the transport. -/
def onTransport (adbd : Adbd) (t : Nat) (a : Nat) : Bool :=
  (adbd.trackers a).any fun s =>
    s.peer.any fun b => (adbd.remotes b).any fun peer => peer.transport = t

/-- `close_all_sockets`, with so many rounds at most. -/
def closeAllSocketsLoop (t : Nat) : Nat → Adbd → Option Adbd
  | 0, _ => none
  | rounds + 1, adbd =>
      match adbd.localSocketList.find? (adbd.onTransport t) with
      | none => some adbd
      | some a => do closeAllSocketsLoop t rounds (← adbd.localSocketCloseLocked a)

/-- `close_all_sockets`.  Every round takes a socket off the list. -/
def closeAllSockets (adbd : Adbd) (t : Nat) : Option Adbd :=
  closeAllSocketsLoop t (adbd.localSocketList.length + 1) adbd

/-- `run_transport_disconnects`. -/
def runTransportDisconnects (adbd : Adbd) (t : Nat) : Option Adbd :=
  (adbd.disconnects t).foldlM remoteSocketClose adbd

/-! ## Opening and packets -/

/-- `create_jdwp_tracker_service_socket`, with the id that `install_local_socket` gives. -/
def createJdwpTrackerServiceSocket (adbd : Adbd) (id : Nat) : Nat × Adbd :=
  (adbd.fresh, { adbd with
    trackers := Function.update adbd.trackers adbd.fresh (some { id })
    fresh := adbd.fresh + 1
    localSocketList := adbd.localSocketList ++ [adbd.fresh]
    links := adbd.links.insertLast none (some adbd.fresh) })

/-- `create_remote_socket`, which becomes the peer of a tracker. -/
def createPeer (adbd : Adbd) (a id t : Nat) : Option Adbd := do
  let s ← adbd.trackers a
  some { adbd with
    trackers := Function.update adbd.trackers a (some { s with peer := some adbd.fresh })
    remotes := Function.update adbd.remotes adbd.fresh (some ⟨id, some a, t⟩)
    fresh := adbd.fresh + 1
    disconnects := Function.update adbd.disconnects t (adbd.disconnects t ++ [adbd.fresh]) }

/-- `find_local_socket`, as far as it finds a tracker. -/
def findLocalSocket (adbd : Adbd) (localId peerId : Nat) : Option Nat := do
  let a ← adbd.localSocketList.find? fun a => (adbd.trackers a).any (·.id = localId)
  let s ← adbd.trackers a
  if peerId = 0 then some a
  else
    let peer ← adbd.remotes (← s.peer)
    if peer.id = peerId then some a else none

/-- `handle_packet` for `A_OPEN` with `track-jdwp`. -/
def handleOpen (adbd : Adbd) (t arg0 arg1 id : Nat) (msg : List UInt8) : Option Adbd :=
  if arg0 ≠ 0 ∧ arg1 = 0 then do
    let (s, adbd) := adbd.createJdwpTrackerServiceSocket id
    let adbd ← adbd.createPeer s arg0 t
    (adbd.sendPacket t ⟨.okay, id, arg0, []⟩).jdwpTrackerReady s msg
  else some adbd

/-- `handle_packet` for `A_OKAY`. -/
def handleOkay (adbd : Adbd) (t arg0 arg1 : Nat) (msg : List UInt8) : Option Adbd :=
  if arg0 ≠ 0 ∧ arg1 ≠ 0 then
    match adbd.findLocalSocket arg1 0 with
    | none => some adbd
    | some a => do
        let s ← adbd.trackers a
        match s.peer with
        | none => (← adbd.createPeer a arg0 t).jdwpTrackerReady a msg
        | some b =>
            let peer ← adbd.remotes b
            if peer.id = arg0 then adbd.jdwpTrackerReady a msg else some adbd
  else some adbd

/-- `handle_packet` for `A_CLSE`. -/
def handleClse (adbd : Adbd) (t arg0 arg1 : Nat) : Option Adbd :=
  if arg1 ≠ 0 then
    match adbd.findLocalSocket arg1 arg0 with
    | none => some adbd
    | some a => do
        let s ← adbd.trackers a
        match s.peer with
        | none => adbd.jdwpTrackerClose a
        | some b =>
            let peer ← adbd.remotes b
            if arg0 = 0 ∧ peer.transport ≠ t then some adbd else adbd.jdwpTrackerClose a
  else some adbd

/-- `handle_packet` for `A_WRTE`: `jdwp_tracker_enqueue` closes the peer. -/
def handleWrte (adbd : Adbd) (arg0 arg1 : Nat) : Option Adbd :=
  if arg0 ≠ 0 ∧ arg1 ≠ 0 then
    match adbd.findLocalSocket arg1 arg0 with
    | none => some adbd
    | some a => do
        let s ← adbd.trackers a
        adbd.remoteSocketClose (← s.peer)
  else some adbd

/-- The loop of `jdwp_process_list_updated` from a node on, with so many rounds at most. -/
def updatedLoop (msg : List UInt8) : Nat → Option Nat → Adbd → Option Adbd
  | 0, _, _ => none
  | _ + 1, none, adbd => some adbd
  | rounds + 1, some a, adbd => do
      let t ← adbd.trackers a
      let adbd ← adbd.remoteSocketEnqueue (← t.peer) msg
      updatedLoop msg rounds (adbd.links.next (some a)) adbd

/-- `jdwp_process_list_updated`.  A list that is whole has no more trackers than there were
sockets. -/
def jdwpProcessListUpdated (adbd : Adbd) (msg : List UInt8) : Option Adbd :=
  updatedLoop msg (adbd.fresh + 1) (adbd.links.next none) adbd

end Adbd

/-- What happens to adbd.  Packets come on a transport that is online. -/
inductive Event where
  | packetOpen (t arg0 arg1 id : Nat) (msg : List UInt8)
  | packetOkay (t arg0 arg1 : Nat) (msg : List UInt8)
  | packetClse (t arg0 arg1 : Nat)
  | packetWrte (arg0 arg1 : Nat)
  | closePeer (b : Nat)
  | disconnects (t : Nat)
  | closeAllSockets (t : Nat)
  | processListUpdated (msg : List UInt8)

/-- What an event does, or `none` if adbd uses `NULL` or memory that was freed. -/
def next (adbd : Adbd) : Event → Option Adbd
  | .packetOpen t arg0 arg1 id msg => adbd.handleOpen t arg0 arg1 id msg
  | .packetOkay t arg0 arg1 msg => adbd.handleOkay t arg0 arg1 msg
  | .packetClse t arg0 arg1 => adbd.handleClse t arg0 arg1
  | .packetWrte arg0 arg1 => adbd.handleWrte arg0 arg1
  | .closePeer b => if (adbd.remotes b).isSome then adbd.remoteSocketClose b else some adbd
  | .disconnects t => adbd.runTransportDisconnects t
  | .closeAllSockets t => adbd.closeAllSockets t
  | .processListUpdated msg => adbd.jdwpProcessListUpdated msg

/-- One event after the other. -/
def run (events : List Event) : Option Adbd :=
  events.foldlM next start

/-! ## Trackers on their list -/

/-- There is a tracker at the node. -/
def Adbd.Lives (adbd : Adbd) (node : Option Nat) : Prop :=
  ∃ a, node = some a ∧ (adbd.trackers a).isSome

/-- The list has the trackers that were not freed, each once, and each of them has a peer. -/
structure Tracked (adbd : Adbd) : Prop where
  list : adbd.links.Collects none adbd.Lives
  peers : ∀ a s, adbd.trackers a = some s → s.peer ≠ none

/-- All sockets of a transport are closed, and a tracker has its peer there. -/
def Sweeps (adbd : Adbd) : Event → Prop
  | .closeAllSockets t => ∃ a, adbd.onTransport t a = true
  | _ => False

/-! ## What every event keeps -/

/-- Trackers and remote sockets are each other's peers, and each is on the lists that it belongs
on. -/
structure Kept (adbd : Adbd) : Prop where
  list : adbd.links.Collects none adbd.Lives
  peer : ∀ a s, adbd.trackers a = some s →
    ∃ b r, s.peer = some b ∧ adbd.remotes b = some r ∧ r.peer = some a
  back : ∀ b r, adbd.remotes b = some r →
    ∃ a s, r.peer = some a ∧ adbd.trackers a = some s ∧ s.peer = some b
  nodup : adbd.localSocketList.Nodup
  locals : ∀ a, a ∈ adbd.localSocketList ↔ (adbd.trackers a).isSome
  once : ∀ t, (adbd.disconnects t).Nodup
  told : ∀ t b, b ∈ adbd.disconnects t ↔ ∃ r, adbd.remotes b = some r ∧ r.transport = t
  fresh : ∀ n, adbd.fresh ≤ n → adbd.trackers n = none ∧ adbd.remotes n = none

section Closing

variable {adbd after : Adbd} {a b : Nat} {s : JdwpTracker} {r : RemoteSocket}

theorem Kept.tracked (kept : Kept adbd) : Tracked adbd where
  list := kept.list
  peers a s found := by
    obtain ⟨b, r, peer, -⟩ := kept.peer a s found
    simp [peer]

theorem Kept.send (kept : Kept adbd) (t : Nat) (message : Message) :
    Kept (adbd.sendPacket t message) :=
  ⟨kept.list, kept.peer, kept.back, kept.nodup, kept.locals, kept.once, kept.told, kept.fresh⟩

/-- A tracker and its peer are gone, and off all lists. -/
def Adbd.dropped (adbd : Adbd) (a b t : Nat) : Adbd :=
  { adbd with
    trackers := Function.update adbd.trackers a none
    remotes := Function.update adbd.remotes b none
    localSocketList := adbd.localSocketList.erase a
    disconnects := Function.update adbd.disconnects t ((adbd.disconnects t).erase b)
    links := adbd.links.unlink (some a) }

theorem jdwpTrackerClose_eq (found : adbd.trackers a = some s) (peer : s.peer = some b)
    (live : adbd.remotes b = some r) :
    adbd.jdwpTrackerClose a = some (adbd.dropped a b r.transport) := by
  simp [Adbd.jdwpTrackerClose, found, peer, Adbd.clearRemote, live, Adbd.freeRemote,
    Adbd.freeTracker, Adbd.freeSocket, Adbd.dropped]

theorem remoteSocketClose_eq (live : adbd.remotes b = some r) (peer : r.peer = some a)
    (found : adbd.trackers a = some s) :
    adbd.remoteSocketClose b = some (adbd.dropped a b r.transport) := by
  simp [Adbd.remoteSocketClose, found, peer, Adbd.clearTracker, live, Adbd.freeRemote,
    Adbd.freeTracker, Adbd.freeSocket, Adbd.dropped]

theorem dropped_trackers_iff {t c : Nat} {u : JdwpTracker} :
    (adbd.dropped a b t).trackers c = some u ↔ c ≠ a ∧ adbd.trackers c = some u := by
  by_cases same : c = a
  · simp [Adbd.dropped, same]
  · simp [Adbd.dropped, same]

theorem dropped_remotes_iff {t c : Nat} {q : RemoteSocket} :
    (adbd.dropped a b t).remotes c = some q ↔ c ≠ b ∧ adbd.remotes c = some q := by
  by_cases same : c = b
  · simp [Adbd.dropped, same]
  · simp [Adbd.dropped, same]

theorem dropped_disconnects (t : Nat) : (adbd.dropped a b t).disconnects =
    Function.update adbd.disconnects t ((adbd.disconnects t).erase b) := rfl

theorem Adbd.lives_iff {node : Option Nat} :
    adbd.Lives node ↔ ∃ a s, node = some a ∧ adbd.trackers a = some s := by
  simp only [Adbd.Lives, Option.isSome_iff_exists, exists_and_left]

theorem Kept.dropped (kept : Kept adbd) (found : adbd.trackers a = some s) (peer : s.peer = some b)
    (live : adbd.remotes b = some r) : Kept (adbd.dropped a b r.transport) := by
  have paired : r.peer = some a := by
    obtain ⟨b', r', peer', live', back⟩ := kept.peer a s found
    obtain rfl := Option.some.inj (peer.symm.trans peer')
    obtain rfl := Option.some.inj (live.symm.trans live')
    exact back
  refine ⟨?_, ?_, ?_, kept.nodup.erase a, ?_, ?_, ?_, ?_⟩
  · refine kept.list.unlink (Adbd.lives_iff.mpr ⟨a, s, rfl, found⟩) fun other => ?_
    simp only [Adbd.lives_iff, dropped_trackers_iff]
    constructor
    · rintro ⟨c, u, rfl, apart, there⟩
      exact ⟨fun same => apart (Option.some.inj same), c, u, rfl, there⟩
    · rintro ⟨apart, c, u, rfl, there⟩
      exact ⟨c, u, rfl, fun same => apart (congrArg some same), there⟩
  · intro c u there
    obtain ⟨apart, there⟩ := dropped_trackers_iff.mp there
    obtain ⟨d, q, its, live', back⟩ := kept.peer c u there
    refine ⟨d, q, its, dropped_remotes_iff.mpr ⟨?_, live'⟩, back⟩
    rintro rfl
    obtain rfl := Option.some.inj (live.symm.trans live')
    exact apart (Option.some.inj (back.symm.trans paired))
  · intro d q there
    obtain ⟨apart, there⟩ := dropped_remotes_iff.mp there
    obtain ⟨c, u, its, found', back⟩ := kept.back d q there
    refine ⟨c, u, its, dropped_trackers_iff.mpr ⟨?_, found'⟩, back⟩
    rintro rfl
    obtain rfl := Option.some.inj (found.symm.trans found')
    exact apart (Option.some.inj (back.symm.trans peer))
  · intro c
    change c ∈ adbd.localSocketList.erase a ↔ _
    rw [kept.nodup.mem_erase_iff, kept.locals, Option.isSome_iff_exists, Option.isSome_iff_exists]
    simp only [dropped_trackers_iff, exists_and_left]
  · intro t
    by_cases same : t = r.transport
    · rw [same, dropped_disconnects, Function.update_self]
      exact (kept.once _).erase b
    · rw [dropped_disconnects, Function.update_of_ne same]
      exact kept.once t
  · intro t d
    simp only [dropped_remotes_iff, and_assoc, exists_and_left]
    by_cases same : t = r.transport
    · rw [same, dropped_disconnects, Function.update_self, (kept.once _).mem_erase_iff, kept.told]
    · rw [dropped_disconnects, Function.update_of_ne same, kept.told]
      refine ⟨fun its => ⟨?_, its⟩, And.right⟩
      rintro rfl
      obtain ⟨q, live', on⟩ := its
      obtain rfl := Option.some.inj (live.symm.trans live')
      exact same on.symm
  · intro n beyond
    obtain ⟨noTracker, noRemote⟩ := kept.fresh n beyond
    constructor
    · refine Option.eq_none_iff_forall_ne_some.mpr fun u there => ?_
      exact nomatch noTracker.symm.trans (dropped_trackers_iff.mp there).2
    · refine Option.eq_none_iff_forall_ne_some.mpr fun q there => ?_
      exact nomatch noRemote.symm.trans (dropped_remotes_iff.mp there).2

/-- Trackers may be changed, but for their peers. -/
theorem Kept.modify (kept : Kept adbd) (found : adbd.trackers a = some s) (s' : JdwpTracker)
    (same : s'.peer = s.peer) :
    Kept { adbd with trackers := Function.update adbd.trackers a (some s') } := by
  have some_iff (c : Nat) : (Function.update adbd.trackers a (some s') c).isSome ↔
      (adbd.trackers c).isSome := by
    by_cases here : c = a
    · simp [here, found]
    · rw [Function.update_of_ne here]
  refine ⟨?_, ?_, ?_, kept.nodup, ?_, kept.once, kept.told, ?_⟩
  · refine kept.list.congr fun node => ?_
    simp only [Adbd.Lives, some_iff]
  · intro c u there
    by_cases here : c = a
    · rw [here] at there ⊢
      obtain rfl : s' = u := by simpa using there
      obtain ⟨b, r, peer, rest⟩ := kept.peer a s found
      exact ⟨b, r, same.trans peer, rest⟩
    · exact kept.peer c u ((Function.update_of_ne here _ _).symm.trans there)
  · intro b r live
    obtain ⟨c, u, its, there, back⟩ := kept.back b r live
    by_cases here : c = a
    · rw [here] at there its
      obtain rfl := Option.some.inj (found.symm.trans there)
      exact ⟨a, s', its, Function.update_self _ _ _, same.trans back⟩
    · exact ⟨c, u, its, (Function.update_of_ne here _ _).trans there, back⟩
  · exact fun c => (kept.locals c).trans (some_iff c).symm
  · intro n beyond
    obtain ⟨noTracker, noRemote⟩ := kept.fresh n beyond
    have elsewhere : n ≠ a := by
      rintro rfl
      exact nomatch noTracker.symm.trans found
    exact ⟨(Function.update_of_ne elsewhere _ _).trans noTracker, noRemote⟩

theorem remoteSocketEnqueue_eq (live : adbd.remotes b = some r) (peer : r.peer = some a)
    (found : adbd.trackers a = some s) (data : List UInt8) :
    adbd.remoteSocketEnqueue b data =
      some (adbd.sendPacket r.transport ⟨.wrte, s.id, r.id, data⟩) := by
  simp [Adbd.remoteSocketEnqueue, live, peer, found]

theorem Kept.ready (kept : Kept adbd) (found : adbd.trackers a = some s) (msg : List UInt8) :
    ∃ after, adbd.jdwpTrackerReady a msg = some after ∧ Kept after := by
  by_cases due : s.needUpdate
  · obtain ⟨b, r, peer, live, back⟩ := kept.peer a s found
    have told := kept.modify found { s with needUpdate := false } rfl
    refine ⟨_, ?_, told.send r.transport ⟨.wrte, s.id, r.id, msg⟩⟩
    have enqueued := @remoteSocketEnqueue_eq { adbd with
        trackers := Function.update adbd.trackers a (some { s with needUpdate := false }) }
      a b _ r live back (Function.update_self _ _ _) msg
    simpa [Adbd.jdwpTrackerReady, found, due, peer] using enqueued
  · exact ⟨adbd, by simp [Adbd.jdwpTrackerReady, found, due], kept⟩

/-! ## Opening -/

/-- There is a new tracker, with a remote socket for its peer. -/
def Adbd.opened (adbd : Adbd) (t arg0 id : Nat) : Adbd :=
  { adbd with
    trackers := Function.update adbd.trackers adbd.fresh (some ⟨id, some (adbd.fresh + 1), true⟩)
    remotes := Function.update adbd.remotes (adbd.fresh + 1) (some ⟨arg0, some adbd.fresh, t⟩)
    fresh := adbd.fresh + 1 + 1
    localSocketList := adbd.localSocketList ++ [adbd.fresh]
    links := adbd.links.insertLast none (some adbd.fresh)
    disconnects := Function.update adbd.disconnects t
      (adbd.disconnects t ++ [adbd.fresh + 1]) }

theorem handleOpen_eq {t arg0 arg1 id : Nat} (valid : arg0 ≠ 0 ∧ arg1 = 0) (msg : List UInt8) :
    adbd.handleOpen t arg0 arg1 id msg = ((adbd.opened t arg0 id).sendPacket t
      ⟨.okay, id, arg0, []⟩).jdwpTrackerReady adbd.fresh msg := by
  simp [Adbd.handleOpen, valid, Adbd.createJdwpTrackerServiceSocket, Adbd.createPeer,
    Adbd.opened]

theorem opened_disconnects (t arg0 id : Nat) : (adbd.opened t arg0 id).disconnects =
    Function.update adbd.disconnects t (adbd.disconnects t ++ [adbd.fresh + 1]) := rfl

theorem opened_trackers_iff (kept : Kept adbd) {t arg0 id c : Nat} {u : JdwpTracker} :
    (adbd.opened t arg0 id).trackers c = some u ↔
      adbd.trackers c = some u ∨ c = adbd.fresh ∧ u = ⟨id, some (adbd.fresh + 1), true⟩ := by
  by_cases same : c = adbd.fresh
  · simp [Adbd.opened, same, (kept.fresh _ (Nat.le_refl _)).1, eq_comm]
  · simp [Adbd.opened, same]

theorem opened_remotes_iff (kept : Kept adbd) {t arg0 id c : Nat} {q : RemoteSocket} :
    (adbd.opened t arg0 id).remotes c = some q ↔
      adbd.remotes c = some q ∨ c = adbd.fresh + 1 ∧ q = ⟨arg0, some adbd.fresh, t⟩ := by
  by_cases same : c = adbd.fresh + 1
  · simp [Adbd.opened, same, (kept.fresh _ (Nat.le_add_right _ 1)).2, eq_comm]
  · simp [Adbd.opened, same]

theorem Kept.opened (kept : Kept adbd) (t arg0 id : Nat) : Kept (adbd.opened t arg0 id) := by
  obtain ⟨noTracker, -⟩ := kept.fresh adbd.fresh (Nat.le_refl _)
  obtain ⟨-, noRemote⟩ := kept.fresh (adbd.fresh + 1) (Nat.le_add_right _ 1)
  refine ⟨?_, ?_, ?_, ?_, ?_, ?_, ?_, ?_⟩
  · have absent : ¬adbd.Lives (some adbd.fresh) := by
      rintro ⟨c, same, lives⟩
      obtain rfl := Option.some.inj same
      simp [noTracker] at lives
    refine kept.list.insertLast absent (Option.some_ne_none _) fun other => ?_
    simp only [Adbd.lives_iff, opened_trackers_iff kept]
    constructor
    · rintro ⟨c, u, rfl, there | ⟨rfl, -⟩⟩
      · exact .inl ⟨c, u, rfl, there⟩
      · exact .inr rfl
    · rintro (⟨c, u, rfl, there⟩ | rfl)
      · exact ⟨c, u, rfl, .inl there⟩
      · exact ⟨_, _, rfl, .inr ⟨rfl, rfl⟩⟩
  · intro c u there
    obtain there | ⟨rfl, rfl⟩ := (opened_trackers_iff kept).mp there
    · obtain ⟨b, r, peer, live, back⟩ := kept.peer c u there
      exact ⟨b, r, peer, (opened_remotes_iff kept).mpr (.inl live), back⟩
    · exact ⟨_, _, rfl, (opened_remotes_iff kept).mpr (.inr ⟨rfl, rfl⟩), rfl⟩
  · intro d q there
    obtain there | ⟨rfl, rfl⟩ := (opened_remotes_iff kept).mp there
    · obtain ⟨c, u, its, found, back⟩ := kept.back d q there
      exact ⟨c, u, its, (opened_trackers_iff kept).mpr (.inl found), back⟩
    · exact ⟨_, _, rfl, (opened_trackers_iff kept).mpr (.inr ⟨rfl, rfl⟩), rfl⟩
  · refine List.nodup_append.mpr ⟨kept.nodup, List.nodup_singleton _, ?_⟩
    rintro c listed d last rfl
    rw [List.mem_singleton.mp last, kept.locals, noTracker] at listed
    exact nomatch listed
  · intro c
    change c ∈ adbd.localSocketList ++ [adbd.fresh] ↔ _
    rw [List.mem_append, List.mem_singleton, kept.locals, Option.isSome_iff_exists,
      Option.isSome_iff_exists]
    simp only [opened_trackers_iff kept, exists_or, exists_and_left, exists_eq, and_true]
  · intro t'
    by_cases same : t' = t
    · rw [same, opened_disconnects, Function.update_self]
      refine List.nodup_append.mpr ⟨kept.once t, List.nodup_singleton _, ?_⟩
      rintro d told c last rfl
      obtain ⟨r, there, -⟩ := (kept.told t d).mp told
      rw [List.mem_singleton.mp last, noRemote] at there
      exact nomatch there
    · rw [opened_disconnects, Function.update_of_ne same]
      exact kept.once t'
  · intro t' d
    simp only [opened_remotes_iff kept, or_and_right, exists_or, ← kept.told]
    by_cases same : t' = t
    · rw [same, opened_disconnects, Function.update_self, List.mem_append, List.mem_singleton]
      simp
    · rw [opened_disconnects, Function.update_of_ne same]
      simp [Ne.symm same]
  · intro n beyond
    have beyond' : adbd.fresh + 1 + 1 ≤ n := beyond
    obtain ⟨noTracker, noRemote⟩ := kept.fresh n (by omega)
    constructor
    · refine (Function.update_of_ne ?_ _ _).trans noTracker
      omega
    · refine (Function.update_of_ne ?_ _ _).trans noRemote
      omega

/-! ## Closing in turn, and telling all -/

/-- The remote sockets that are told of a transport that goes are closed one after the other, each
with its tracker. -/
theorem Kept.close_all_remotes (kept : Kept adbd) {told : List Nat} (nodup : told.Nodup)
    (live : ∀ b ∈ told, (adbd.remotes b).isSome) :
    ∃ after, told.foldlM Adbd.remoteSocketClose adbd = some after ∧ Kept after := by
  induction told generalizing adbd with
  | nil => exact ⟨adbd, rfl, kept⟩
  | cons b told induction =>
      obtain ⟨absent, nodup⟩ := List.nodup_cons.mp nodup
      obtain ⟨r, there⟩ := Option.isSome_iff_exists.mp (live b List.mem_cons_self)
      obtain ⟨a, s, peer, found, back⟩ := kept.back b r there
      obtain ⟨after, closed, kept'⟩ := induction (kept.dropped found back there) nodup
        fun c mem => by
          obtain ⟨q, there'⟩ := Option.isSome_iff_exists.mp (live c (List.mem_cons_of_mem b mem))
          have apart : c ≠ b := fun same => absent (same ▸ mem)
          exact Option.isSome_iff_exists.mpr ⟨q, dropped_remotes_iff.mpr ⟨apart, there'⟩⟩
      refine ⟨after, ?_, kept'⟩
      rw [List.foldlM_cons, remoteSocketClose_eq there peer found]
      exact closed

/-- What a tracker is told when the list of processes changes. -/
def Adbd.update (adbd : Adbd) (msg : List UInt8) (node : Option Nat) : Option (Nat × Message) := do
  let s ← adbd.trackers (← node)
  let r ← adbd.remotes (← s.peer)
  some (r.transport, ⟨.wrte, s.id, r.id, msg⟩)

/-- The loop goes through the nodes to the end of the list, and tells each of them. -/
theorem Kept.updatedLoop_eq (kept : Kept adbd) (msg : List UInt8) {first : Option Nat}
    {nodes : List (Option Nat)} (path : adbd.links.Path first nodes none)
    (lives : ∀ node ∈ nodes, adbd.Lives node) {rounds : Nat} (enough : nodes.length < rounds) :
    Adbd.updatedLoop msg rounds (adbd.links.next first) adbd =
      some { adbd with sent := adbd.sent ++ nodes.filterMap (adbd.update msg) } := by
  induction nodes generalizing adbd first rounds with
  | nil =>
      obtain ⟨rounds, rfl⟩ := Nat.exists_eq_add_of_lt enough
      rw [path.1, Adbd.updatedLoop, List.filterMap_nil, List.append_nil]
  | cons node nodes induction =>
      obtain ⟨a, s, rfl, found⟩ := Adbd.lives_iff.mp (lives node List.mem_cons_self)
      obtain ⟨b, r, peer, live, back⟩ := kept.peer a s found
      have told : adbd.update msg (some a) = some (r.transport, ⟨.wrte, s.id, r.id, msg⟩) := by
        simp [Adbd.update, found, peer, live]
      obtain ⟨next_first, -, path⟩ := path
      cases rounds with
      | zero => exact absurd enough (Nat.not_lt_zero _)
      | succ rounds =>
          have rest := induction (kept.send r.transport ⟨.wrte, s.id, r.id, msg⟩) path
            (fun node mem => lives node (List.mem_cons_of_mem _ mem))
            (Nat.lt_of_succ_lt_succ enough)
          simp only [next_first, Adbd.updatedLoop, found, Option.bind_eq_bind, Option.bind_some,
            peer, remoteSocketEnqueue_eq live back found, List.filterMap_cons, told]
          refine rest.trans ?_
          rw [List.append_cons]
          rfl

/-- The list of processes is told to every tracker, in the order of their list. -/
theorem Kept.updated (kept : Kept adbd) (msg : List UInt8) :
    ∃ nodes, adbd.links.Ring none nodes ∧ (∀ node, node ∈ nodes ↔ adbd.Lives node) ∧
      adbd.jdwpProcessListUpdated msg =
        some { adbd with sent := adbd.sent ++ nodes.filterMap (adbd.update msg) } := by
  obtain ⟨nodes, ring, mem_iff⟩ := kept.list
  refine ⟨nodes, ring, mem_iff,
    kept.updatedLoop_eq msg ring.path (fun node => (mem_iff node).mp) ?_⟩
  have inside : nodes ⊆ (List.range adbd.fresh).map some := by
    intro node mem
    obtain ⟨a, s, rfl, found⟩ := Adbd.lives_iff.mp ((mem_iff node).mp mem)
    refine List.mem_map_of_mem (List.mem_range.mpr (Nat.lt_of_not_le fun beyond => ?_))
    exact nomatch (kept.fresh a beyond).1.symm.trans found
  have bound := ((List.nodup_cons.mp ring.nodup).2.subperm inside).length_le
  rw [List.length_map, List.length_range] at bound
  exact Nat.lt_succ_of_le bound

theorem findLocalSocket_live {localId peerId : Nat}
    (found : adbd.findLocalSocket localId peerId = some a) :
    ∃ s, adbd.trackers a = some s := by
  simp only [Adbd.findLocalSocket, Option.bind_eq_bind, Option.bind_eq_some_iff] at found
  obtain ⟨c, -, s, there, rest⟩ := found
  split at rest
  · exact ⟨s, Option.some.inj rest ▸ there⟩
  · simp only [Option.bind_eq_some_iff] at rest
    obtain ⟨b, -, r, -, rest⟩ := rest
    split at rest
    · exact ⟨s, Option.some.inj rest ▸ there⟩
    · exact nomatch rest

/-! ## Closing all sockets of a transport -/

/-- Trackers may have been freed, and are still where they were on their list. -/
structure Shrunk (adbd after : Adbd) : Prop where
  links : after.links = adbd.links
  freed : ∀ c, adbd.trackers c = none → after.trackers c = none

theorem Shrunk.trans {middle : Adbd} (first : Shrunk adbd middle) (second : Shrunk middle after) :
    Shrunk adbd after :=
  ⟨second.links.trans first.links, fun c gone => second.freed c (first.freed c gone)⟩

theorem shrunk_clearRemote (ran : adbd.clearRemote b = some after) : Shrunk adbd after := by
  obtain ⟨r, -, ran⟩ := Option.bind_eq_some_iff.mp ran
  obtain rfl := Option.some.inj ran
  exact ⟨rfl, fun _ => id⟩

theorem shrunk_freeRemote (ran : adbd.freeRemote b = some after) : Shrunk adbd after := by
  obtain ⟨r, -, ran⟩ := Option.bind_eq_some_iff.mp ran
  obtain rfl := Option.some.inj ran
  exact ⟨rfl, fun _ => id⟩

theorem shrunk_remoteSocketShutdown (ran : adbd.remoteSocketShutdown b = some after) :
    Shrunk adbd after := by
  obtain ⟨r, -, ran⟩ := Option.bind_eq_some_iff.mp ran
  cases peer : r.peer with
  | none =>
      rw [peer] at ran
      obtain rfl := Option.some.inj ran
      exact ⟨rfl, fun _ => id⟩
  | some a =>
      rw [peer] at ran
      obtain ⟨s, -, ran⟩ := Option.bind_eq_some_iff.mp ran
      obtain rfl := Option.some.inj ran
      exact ⟨rfl, fun _ => id⟩

theorem shrunk_freeSocket (adbd : Adbd) (a : Nat) : Shrunk adbd (adbd.freeSocket a) := by
  refine ⟨rfl, fun c gone => ?_⟩
  rw [Adbd.freeSocket]
  by_cases same : c = a
  · simp [same]
  · simp [same, gone]

theorem trackers_freeSocket (adbd : Adbd) (a : Nat) : (adbd.freeSocket a).trackers a = none := by
  simp [Adbd.freeSocket]

/-- A tracker that is closed as a local socket stays on its list. -/
theorem shrunk_localSocketCloseLocked (ran : adbd.localSocketCloseLocked a = some after) :
    Shrunk adbd after ∧ after.trackers a = none := by
  obtain ⟨s, -, ran⟩ := Option.bind_eq_some_iff.mp ran
  cases peer : s.peer with
  | none =>
      rw [peer] at ran
      obtain rfl := Option.some.inj ran
      exact ⟨shrunk_freeSocket adbd a, trackers_freeSocket adbd a⟩
  | some b =>
      rw [peer] at ran
      obtain ⟨told, shutdown, ran⟩ := Option.bind_eq_some_iff.mp ran
      obtain ⟨cleared, clear, ran⟩ := Option.bind_eq_some_iff.mp ran
      obtain ⟨freed, free, ran⟩ := Option.bind_eq_some_iff.mp ran
      obtain rfl := Option.some.inj ran
      have shrunk := ((shrunk_remoteSocketShutdown shutdown).trans
        (shrunk_clearRemote clear)).trans (shrunk_freeRemote free)
      exact ⟨shrunk.trans (shrunk_freeSocket freed a), trackers_freeSocket freed a⟩

theorem shrunk_closeAllSocketsLoop {t rounds : Nat}
    (ran : Adbd.closeAllSocketsLoop t rounds adbd = some after) : Shrunk adbd after := by
  induction rounds generalizing adbd with
  | zero => exact nomatch ran
  | succ rounds induction =>
      rw [Adbd.closeAllSocketsLoop] at ran
      split at ran
      · obtain rfl := Option.some.inj ran
        exact ⟨rfl, fun _ => id⟩
      · obtain ⟨middle, closed, ran⟩ := Option.bind_eq_some_iff.mp ran
        exact (shrunk_localSocketCloseLocked closed).1.trans (induction ran)

theorem onTransport_live {t : Nat} (here : adbd.onTransport t a = true) :
    ∃ s, adbd.trackers a = some s := by
  rw [Adbd.onTransport, Option.any_eq_true] at here
  obtain ⟨s, found, -⟩ := here
  exact ⟨s, found⟩

/-- If all sockets of the transport of a tracker are closed, the tracker is freed and stays on its
list. -/
theorem Kept.not_tracked (kept : Kept adbd) {t : Nat} (here : adbd.onTransport t a = true)
    (ran : adbd.closeAllSockets t = some after) : ¬Tracked after := by
  intro tracked
  obtain ⟨s, found⟩ := onTransport_live here
  have listed : a ∈ adbd.localSocketList := (kept.locals a).mpr (by simp [found])
  rw [Adbd.closeAllSockets, Adbd.closeAllSocketsLoop] at ran
  split at ran
  · next absent => exact List.find?_eq_none.mp absent a listed here
  · next c first =>
      obtain ⟨middle, closed, ran⟩ := Option.bind_eq_some_iff.mp ran
      obtain ⟨u, found⟩ := onTransport_live (List.find?_some first)
      obtain ⟨shrunk, gone⟩ := shrunk_localSocketCloseLocked closed
      have rest := shrunk_closeAllSocketsLoop ran
      have still : adbd.links.Collects none after.Lives :=
        (shrunk.trans rest).links ▸ tracked.list
      have lives : after.Lives (some c) :=
        (kept.list.unique still (some c)).mp (Adbd.lives_iff.mpr ⟨c, u, rfl, found⟩)
      obtain ⟨c', u', same, there⟩ := Adbd.lives_iff.mp lives
      obtain rfl := Option.some.inj same
      exact nomatch (rest.freed c gone).symm.trans there

/-! ## Runs -/

theorem Kept.open (kept : Kept adbd) (t arg0 arg1 id : Nat) (msg : List UInt8) :
    ∃ after, adbd.handleOpen t arg0 arg1 id msg = some after ∧ Kept after := by
  by_cases valid : arg0 ≠ 0 ∧ arg1 = 0
  · have opened := (kept.opened t arg0 id).send t ⟨.okay, id, arg0, []⟩
    have found : (adbd.opened t arg0 id).trackers adbd.fresh =
        some ⟨id, some (adbd.fresh + 1), true⟩ :=
      (opened_trackers_iff kept).mpr (.inr ⟨rfl, rfl⟩)
    obtain ⟨after, ran, kept'⟩ := opened.ready found msg
    exact ⟨after, (handleOpen_eq valid msg).trans ran, kept'⟩
  · exact ⟨adbd, if_neg valid, kept⟩

theorem Kept.okay (kept : Kept adbd) (t arg0 arg1 : Nat) (msg : List UInt8) :
    ∃ after, adbd.handleOkay t arg0 arg1 msg = some after ∧ Kept after := by
  rw [Adbd.handleOkay]
  split
  · cases found : adbd.findLocalSocket arg1 0 with
    | none => exact ⟨adbd, rfl, kept⟩
    | some a =>
        obtain ⟨s, there⟩ := findLocalSocket_live found
        obtain ⟨b, r, peer, live, -⟩ := kept.peer a s there
        simp only [there, Option.bind_eq_bind, Option.bind_some, peer, live]
        split
        · exact kept.ready there msg
        · exact ⟨adbd, rfl, kept⟩
  · exact ⟨adbd, rfl, kept⟩

/-- A tracker and its peer are closed together, whichever of them is closed first. -/
theorem Kept.close (kept : Kept adbd) (found : adbd.trackers a = some s) (peer : s.peer = some b)
    (live : adbd.remotes b = some r) (back : r.peer = some a) :
    (∃ after, adbd.jdwpTrackerClose a = some after ∧ Kept after) ∧
      ∃ after, adbd.remoteSocketClose b = some after ∧ Kept after :=
  ⟨⟨_, jdwpTrackerClose_eq found peer live, kept.dropped found peer live⟩,
    ⟨_, remoteSocketClose_eq live back found, kept.dropped found peer live⟩⟩

theorem Kept.clse (kept : Kept adbd) (t arg0 arg1 : Nat) :
    ∃ after, adbd.handleClse t arg0 arg1 = some after ∧ Kept after := by
  rw [Adbd.handleClse]
  split
  · cases found : adbd.findLocalSocket arg1 arg0 with
    | none => exact ⟨adbd, rfl, kept⟩
    | some a =>
        obtain ⟨s, there⟩ := findLocalSocket_live found
        obtain ⟨b, r, peer, live, back⟩ := kept.peer a s there
        simp only [there, Option.bind_eq_bind, Option.bind_some, peer, live]
        split
        · exact ⟨adbd, rfl, kept⟩
        · exact (kept.close there peer live back).1
  · exact ⟨adbd, rfl, kept⟩

theorem Kept.wrte (kept : Kept adbd) (arg0 arg1 : Nat) :
    ∃ after, adbd.handleWrte arg0 arg1 = some after ∧ Kept after := by
  rw [Adbd.handleWrte]
  split
  · cases found : adbd.findLocalSocket arg1 arg0 with
    | none => exact ⟨adbd, rfl, kept⟩
    | some a =>
        obtain ⟨s, there⟩ := findLocalSocket_live found
        obtain ⟨b, r, peer, live, back⟩ := kept.peer a s there
        simp only [there, Option.bind_eq_bind, Option.bind_some, peer]
        exact (kept.close there peer live back).2
  · exact ⟨adbd, rfl, kept⟩

/-- Every event that does not close all sockets of the transport of a tracker keeps the lists. -/
theorem Kept.after_event (kept : Kept adbd) {event : Event} (fine : ¬Sweeps adbd event) :
    ∃ after, next adbd event = some after ∧ Kept after := by
  cases event with
  | packetOpen t arg0 arg1 id msg => exact kept.open t arg0 arg1 id msg
  | packetOkay t arg0 arg1 msg => exact kept.okay t arg0 arg1 msg
  | packetClse t arg0 arg1 => exact kept.clse t arg0 arg1
  | packetWrte arg0 arg1 => exact kept.wrte arg0 arg1
  | closePeer b =>
      rw [Trackers.next]
      split
      · next lives =>
          obtain ⟨r, live⟩ := Option.isSome_iff_exists.mp lives
          obtain ⟨a, s, back, found, peer⟩ := kept.back b r live
          exact (kept.close found peer live back).2
      · exact ⟨adbd, rfl, kept⟩
  | disconnects t =>
      exact kept.close_all_remotes (kept.once t) fun b mem => by
        obtain ⟨r, live, -⟩ := (kept.told t b).mp mem
        exact Option.isSome_iff_exists.mpr ⟨r, live⟩
  | closeAllSockets t =>
      have none_found : adbd.localSocketList.find? (adbd.onTransport t) = none :=
        List.find?_eq_none.mpr fun a _ here => fine ⟨a, here⟩
      refine ⟨adbd, ?_, kept⟩
      rw [Trackers.next, Adbd.closeAllSockets, Adbd.closeAllSocketsLoop, none_found]
  | processListUpdated msg =>
      obtain ⟨nodes, -, -, told⟩ := kept.updated msg
      exact ⟨_, told, kept.list, kept.peer, kept.back, kept.nodup, kept.locals, kept.once,
        kept.told, kept.fresh⟩

theorem Kept.not_tracked_sweeps (kept : Kept adbd) {event : Event} (sweeps : Sweeps adbd event)
    (ran : next adbd event = some after) : ¬Tracked after := by
  cases event with
  | closeAllSockets t =>
      obtain ⟨a, here⟩ := sweeps
      exact kept.not_tracked here ran
  | _ => exact nomatch sweeps

theorem kept_start : Kept start where
  list := ⟨[], Links.ring_nil_iff.mpr ⟨rfl, rfl⟩, fun node => by
    simp [Adbd.lives_iff, start]⟩
  peer _ _ found := nomatch found
  back _ _ live := nomatch live
  nodup := List.nodup_nil
  locals a := by simp [start]
  once _ := List.nodup_nil
  told t b := by simp [start]
  fresh _ _ := ⟨rfl, rfl⟩

theorem run_concat (events : List Event) (event : Event) :
    run (events ++ [event]) = (run events).bind fun adbd => next adbd event := by
  rw [run, List.foldlM_append]
  refine congrArg _ (funext fun adbd => ?_)
  simp

/-- What every event of a run keeps holds throughout it. -/
theorem kept_run {events : List Event} (kept_next : ∀ front event adbd,
    front ++ [event] <+: events → run front = some adbd → Kept adbd →
      ∃ after, next adbd event = some after ∧ Kept after) :
    ∀ front, front <+: events → ∃ adbd, run front = some adbd ∧ Kept adbd := by
  intro front
  induction front using List.reverseRecOn with
  | nil => exact fun _ => ⟨start, rfl, kept_start⟩
  | append_singleton front event induction =>
      intro inside
      obtain ⟨adbd, ran, kept⟩ := induction ((List.prefix_append _ _).trans inside)
      obtain ⟨after, goes, kept'⟩ := kept_next front event adbd inside ran kept
      exact ⟨after, by rw [run_concat, ran]; exact goes, kept'⟩

/-- Throughout a run adbd uses no memory that it must not, and the trackers are those on their
list, each with a peer, if and only if no event of it closes all sockets of the transport of a
tracker. -/
theorem tracked_iff (events : List Event) :
    (∀ front, front <+: events → ∃ adbd, run front = some adbd ∧ Tracked adbd) ↔
      ∀ front event adbd, front ++ [event] <+: events → run front = some adbd →
        ¬Sweeps adbd event := by
  constructor
  · intro tracked
    have reached (front : List Event) (event : Event) (adbd : Adbd)
        (inside : front ++ [event] <+: events) (ran : run front = some adbd) :
        ∃ after, next adbd event = some after ∧ Tracked after := by
      obtain ⟨after, ran', whole⟩ := tracked (front ++ [event]) inside
      rw [run_concat, ran] at ran'
      exact ⟨after, ran', whole⟩
    have kept := kept_run fun front event adbd inside ran before => by
      obtain ⟨after, goes, whole⟩ := reached front event adbd inside ran
      exact before.after_event fun sweeps => before.not_tracked_sweeps sweeps goes whole
    intro front event adbd inside ran sweeps
    obtain ⟨adbd', ran', before⟩ := kept front ((List.prefix_append _ _).trans inside)
    obtain rfl := Option.some.inj (ran.symm.trans ran')
    obtain ⟨after, goes, whole⟩ := reached front event adbd inside ran
    exact before.not_tracked_sweeps sweeps goes whole
  · intro fine front inside
    obtain ⟨adbd, ran, kept⟩ := kept_run (fun front event adbd inside ran before =>
      before.after_event (fine front event adbd inside ran)) front inside
    exact ⟨adbd, ran, kept.tracked⟩

/-- A tracker is opened, and then all sockets of its transport are closed. -/
theorem not_tracked_closeAllSockets :
    ¬∀ front, front <+: [Event.packetOpen 0 7 0 1 [], .closeAllSockets 0] →
      ∃ adbd, run front = some adbd ∧ Tracked adbd := by
  intro tracked
  obtain ⟨after, ran, whole⟩ := tracked _ (List.prefix_refl _)
  obtain ⟨opened, goes, kept⟩ := @Kept.after_event start kept_start (.packetOpen 0 7 0 1 []) id
  have here : (next start (.packetOpen 0 7 0 1 [])).map (fun adbd => adbd.onTransport 0 0) =
      some true := by decide
  rw [goes] at here
  rw [run, List.foldlM_cons, goes] at ran
  change (next opened (.closeAllSockets 0)).bind (fun closed => some closed) = some after at ran
  obtain ⟨closed, closes, ran⟩ := Option.bind_eq_some_iff.mp ran
  obtain rfl := Option.some.inj ran
  exact kept.not_tracked (Option.some.inj here) closes whole

end Closing

end Trackers
end Jdwp
end AdbWide
