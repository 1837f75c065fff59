import AdbWide.Sockets.Packets

/-!
# Closing sockets

Closing a socket closes its peer with it.  `Closes` says all that a close can do: the sockets of a
set that contains the peer of each of its members are freed, or put on the closing list with
nothing but their packets left; everything else stays.

`Consistent` is the invariant of the socket layer, and closing keeps it.
-/

namespace AdbWide
namespace Sockets

/-! ## The invariant -/

/-- What holds of a local socket at an address. -/
structure LocalOk (server : Server) (address : Nat) (s : Asocket) : Prop where
  represents : ∃ packets, s.queue.Represents packets
  write_iff : s.wantWrite = true ↔ s.queue.first ≠ none
  owned : s.closing = false → s.queue.first ≠ none → s.peer ≠ none
  open_listed : s.closing = false → address ∈ server.localSocketList ∧ s.id ≠ 0
  closing_listed : s.closing = true →
    address ∈ server.localSocketClosingList ∧ s.id = 0 ∧ s.peer = none ∧ s.queue.first ≠ none
  idle : s.peer = none → s.wantRead = false
  notify_unpeered : s.notify = true → s.peer = none ∧ s.closing = false

/-- A local socket does not mind what else happens to the lists it is on. -/
theorem LocalOk.mono {server server' : Server} {a : Nat} {s : Asocket} (ok : LocalOk server a s)
    (listed : a ∈ server.localSocketList → a ∈ server'.localSocketList)
    (lingering : a ∈ server.localSocketClosingList → a ∈ server'.localSocketClosingList) :
    LocalOk server' a s :=
  ⟨ok.represents, ok.write_iff, ok.owned,
    fun stillOpen => (ok.open_listed stillOpen).imp_left listed,
    fun closing => (ok.closing_listed closing).imp_left lingering, ok.idle, ok.notify_unpeered⟩

/-- No socket is added to the disconnects of a transport. -/
def FewerDisconnects (server server' : Server) : Prop :=
  ∀ t c, c ∈ (server'.transports t).disconnects → c ∈ (server.transports t).disconnects

/-- The invariant of the socket layer. -/
structure Consistent (server : Server) : Prop where
  symmetric : ∀ a s b, server.sockets a = some s → s.peer = some b →
    ∃ r, server.sockets b = some r ∧ r.peer = some a
  irreflexive : ∀ a s, server.sockets a = some s → s.peer ≠ some a
  locals : ∀ a s, server.sockets a = some s → s.kind = .localSocket → LocalOk server a s
  listed : ∀ a ∈ server.localSocketList,
    ∃ s, server.sockets a = some s ∧ s.kind = .localSocket ∧ s.closing = false
  lingering : ∀ a ∈ server.localSocketClosingList,
    ∃ s, server.sockets a = some s ∧ s.kind = .localSocket ∧ s.closing = true
  list_nodup : server.localSocketList.Nodup
  closing_nodup : server.localSocketClosingList.Nodup
  unallocated : ∀ a, server.fresh ≤ a → server.sockets a = none
  nextId_ne : server.localSocketNextId ≠ 0
  smart_peer : ∀ a s b r, server.sockets a = some s → s.kind = .smartSocket →
    s.peer = some b → server.sockets b = some r → r.queue.first = none
  partner : ∀ a s b r, server.sockets a = some s → s.kind ≠ .localSocket →
    s.peer = some b → server.sockets b = some r → r.kind = .localSocket
  remote_transport : ∀ a s, server.sockets a = some s → s.kind = .remoteSocket →
    ∃ transport, s.transport = some transport
  unstreamed : ∀ a s b r, server.sockets a = some s → s.kind = .localSocket →
    s.peer = some b → server.sockets b = some r → r.kind ≠ .remoteSocket →
      (server.history a).origin = .none
  registered : ∀ t c, c ∈ (server.transports t).disconnects → c < server.fresh ∧
    ∀ s, server.sockets c = some s → s.kind = .remoteSocket ∧ s.transport = some t
  smart_id : ∀ a s, server.sockets a = some s → s.kind = .smartSocket → s.id = 0

/-- What the invariant says about a socket alone. -/
structure SocketOk (server : Server) (a : Nat) (s : Asocket) : Prop where
  locals : s.kind = .localSocket → LocalOk server a s
  remote_transport : s.kind = .remoteSocket → ∃ transport, s.transport = some transport
  registered : ∀ t, a ∈ (server.transports t).disconnects →
    s.kind = .remoteSocket ∧ s.transport = some t
  smart_id : s.kind = .smartSocket → s.id = 0

/-- What the invariant says about a socket and its peer. -/
structure PairOk (server : Server) (a : Nat) (s : Asocket) (b : Nat) (r : Asocket) : Prop where
  symmetric : r.peer = some a
  different : b ≠ a
  smart_peer : s.kind = .smartSocket → r.queue.first = none
  partner : s.kind ≠ .localSocket → r.kind = .localSocket
  unstreamed : s.kind = .localSocket → r.kind ≠ .remoteSocket → (server.history a).origin = .none

theorem Consistent.socketOk {server : Server} {a : Nat} {s : Asocket}
    (consistent : Consistent server) (live : server.sockets a = some s) : SocketOk server a s where
  locals := consistent.locals a s live
  remote_transport := consistent.remote_transport a s live
  registered t member := (consistent.registered t a member).2 s live
  smart_id := consistent.smart_id a s live

theorem Consistent.pairOk {server : Server} {a b : Nat} {s : Asocket}
    (consistent : Consistent server) (live : server.sockets a = some s) (peer : s.peer = some b) :
    ∃ r, server.sockets b = some r ∧ PairOk server a s b r := by
  obtain ⟨r, live_b, symmetric⟩ := consistent.symmetric a s b live peer
  refine ⟨r, live_b, symmetric, ?_,
    fun smart => consistent.smart_peer a s b r live smart peer live_b,
    fun other => consistent.partner a s b r live other peer live_b,
    fun isLocal => consistent.unstreamed a s b r live isLocal peer live_b⟩
  rintro rfl
  exact consistent.irreflexive b s live peer

/-- The invariant, by the lists, each socket and each pair. -/
theorem Consistent.of_pairs {server : Server}
    (listed : ∀ c ∈ server.localSocketList,
      ∃ q, server.sockets c = some q ∧ q.kind = .localSocket ∧ q.closing = false)
    (lingering : ∀ c ∈ server.localSocketClosingList,
      ∃ q, server.sockets c = some q ∧ q.kind = .localSocket ∧ q.closing = true)
    (list_nodup : server.localSocketList.Nodup)
    (closing_nodup : server.localSocketClosingList.Nodup)
    (unallocated : ∀ c, server.fresh ≤ c → server.sockets c = none)
    (nextId_ne : server.localSocketNextId ≠ 0)
    (allocated : ∀ t c, c ∈ (server.transports t).disconnects → c < server.fresh)
    (alone : ∀ c q, server.sockets c = some q → SocketOk server c q)
    (pairs : ∀ c q d, server.sockets c = some q → q.peer = some d →
      ∃ p, server.sockets d = some p ∧ PairOk server c q d p) : Consistent server := by
  have pair : ∀ {c q d p}, server.sockets c = some q → q.peer = some d →
      server.sockets d = some p → PairOk server c q d p := by
    intro c q d p live peer live_p
    obtain ⟨p', live_p', ok⟩ := pairs c q d live peer
    rw [live_p] at live_p'
    cases live_p'
    exact ok
  refine ⟨?_, ?_, ?_, listed, lingering, list_nodup, closing_nodup, unallocated, nextId_ne, ?_, ?_,
    ?_, ?_, ?_, ?_⟩
  · intro c q d live peer
    obtain ⟨p, live_p, ok⟩ := pairs c q d live peer
    exact ⟨p, live_p, ok.symmetric⟩
  · intro c q live peer
    obtain ⟨p, -, ok⟩ := pairs c q c live peer
    exact ok.different rfl
  · intro c q live
    exact (alone c q live).locals
  · intro c q d p live smart peer live_p
    exact (pair live peer live_p).smart_peer smart
  · intro c q d p live other peer live_p
    exact (pair live peer live_p).partner other
  · intro c q live
    exact (alone c q live).remote_transport
  · intro c q d p live isLocal peer live_p
    exact (pair live peer live_p).unstreamed isLocal
  · intro t c member
    exact ⟨allocated t c member, fun q live => (alone c q live).registered t member⟩
  · intro c q live
    exact (alone c q live).smart_id

/-- The parts of the state the invariant is about. -/
structure SameSockets (server server' : Server) : Prop where
  sockets : server'.sockets = server.sockets
  fresh : server'.fresh = server.fresh
  list : server'.localSocketList = server.localSocketList
  closingList : server'.localSocketClosingList = server.localSocketClosingList
  nextId : server'.localSocketNextId = server.localSocketNextId
  origin : ∀ a, (server'.history a).origin = (server.history a).origin
  disconnects : FewerDisconnects server server'

theorem SameSockets.of {server server' : Server}
    (same : (server'.sockets, server'.fresh, server'.localSocketList,
        server'.localSocketClosingList, server'.localSocketNextId,
        fun t => (server'.transports t).disconnects) =
      (server.sockets, server.fresh, server.localSocketList, server.localSocketClosingList,
        server.localSocketNextId, fun t => (server.transports t).disconnects))
    (origin : ∀ a, (server'.history a).origin = (server.history a).origin) :
    SameSockets server server' := by
  simp only [Prod.mk.injEq] at same
  obtain ⟨sockets, fresh, list, closingList, nextId, disconnects⟩ := same
  refine ⟨sockets, fresh, list, closingList, nextId, origin, fun t c => ?_⟩
  rw [congrFun disconnects t]
  exact id

theorem Consistent.congr {server server' : Server} (consistent : Consistent server)
    (same : SameSockets server server') : Consistent server' := by
  obtain ⟨sockets, fresh, list, closingList, nextId, origin, disconnects⟩ := same
  refine ⟨?_, ?_, ?_, ?_, ?_, ?_, ?_, ?_, ?_, ?_, ?_, ?_, ?_, ?_, ?_⟩
  · rw [sockets]
    exact consistent.symmetric
  · rw [sockets]
    exact consistent.irreflexive
  · rw [sockets]
    intro a s live isLocal
    refine (consistent.locals a s live isLocal).mono ?_ ?_
    · rw [list]
      exact id
    · rw [closingList]
      exact id
  · rw [sockets, list]
    exact consistent.listed
  · rw [sockets, closingList]
    exact consistent.lingering
  · rw [list]
    exact consistent.list_nodup
  · rw [closingList]
    exact consistent.closing_nodup
  · rw [sockets, fresh]
    exact consistent.unallocated
  · rw [nextId]
    exact consistent.nextId_ne
  · rw [sockets]
    exact consistent.smart_peer
  · rw [sockets]
    exact consistent.partner
  · rw [sockets]
    exact consistent.remote_transport
  · rw [sockets]
    intro a s b r live isLocal peer peerLive other
    rw [origin]
    exact consistent.unstreamed a s b r live isLocal peer peerLive other
  · rw [sockets, fresh]
    intro t c member
    exact consistent.registered t c (disconnects t c member)
  · rw [sockets]
    exact consistent.smart_id

/-! ## What a close can do -/

/-- A socket before and after it was closed, its own peer and the text of its notification
apart. -/
inductive Ended : Option Asocket → Option Asocket → Prop where
  | freed {before : Option Asocket} :
      (∀ s, before = some s → s.kind = .localSocket → s.closing = true ∨ s.queue.first = none) →
      Ended before none
  | lingers {s : Asocket} :
      s.kind = .localSocket → s.closing = false → s.queue.first ≠ none →
      Ended (some s)
        (some { s with
          closing := true, wantRead := false, id := 0, peer := none, notify := false })

/-- From `server` to `server'` exactly the sockets of `gone` were closed. -/
structure Closes (server server' : Server) (gone : Nat → Prop) : Prop where
  others : ∀ c, ¬gone c → server'.sockets c = server.sockets c
  ended : ∀ c, gone c → Ended (server.sockets c) (server'.sockets c)
  peers : ∀ c s d, gone c → server.sockets c = some s → s.peer = some d → gone d
  mem_list : ∀ c, c ∈ server'.localSocketList ↔ c ∈ server.localSocketList ∧ ¬gone c
  sublist : server'.localSocketList.Sublist server.localSocketList
  mem_closing : ∀ c, c ∈ server'.localSocketClosingList ↔
    c ∈ server.localSocketClosingList ∧ ¬gone c ∨ gone c ∧ server'.sockets c ≠ none
  closing_nodup : server'.localSocketClosingList.Nodup
  sent : ∃ closes, server'.sent = server.sent ++ closes ∧
    ∀ entry ∈ closes, entry.2.command = .clse
  fresh : server'.fresh = server.fresh
  nextId : server'.localSocketNextId = server.localSocketNextId
  received : server'.received = server.received
  history : server'.history = server.history
  installs : server'.installs = server.installs
  online : ∀ t, (server'.transports t).online = (server.transports t).online
  disconnects : FewerDisconnects server server'

theorem Ended.of_clearPeer {s : Asocket} {after : Option Asocket}
    (ended : Ended (some { s with peer := none }) after) : Ended (some s) after := by
  cases ended with
  | freed condition =>
      apply Ended.freed
      intro s' equal isLocal
      cases equal
      exact condition { s with peer := none } rfl isLocal
  | lingers isLocal stillOpen queued => exact Ended.lingers (s := s) isLocal stillOpen queued

theorem Ended.of_endNotify {s : Asocket} {after : Option Asocket}
    (ended : Ended (some { s with notify := false }) after) : Ended (some s) after := by
  cases ended with
  | freed condition =>
      apply Ended.freed
      intro s' equal isLocal
      cases equal
      exact condition { s with notify := false } rfl isLocal
  | lingers isLocal stillOpen queued => exact Ended.lingers (s := s) isLocal stillOpen queued

/-! ## One socket at a time -/

/-- What no close changes. -/
structure Untouched (server server' : Server) : Prop where
  fresh : server'.fresh = server.fresh
  nextId : server'.localSocketNextId = server.localSocketNextId
  received : server'.received = server.received
  history : server'.history = server.history
  installs : server'.installs = server.installs
  online : ∀ t, (server'.transports t).online = (server.transports t).online
  disconnects : FewerDisconnects server server'
  sent : ∃ closes, server'.sent = server.sent ++ closes ∧
    ∀ entry ∈ closes, entry.2.command = .clse

theorem Untouched.of {server server' : Server}
    (same : (server'.fresh, server'.localSocketNextId, server'.received, server'.history,
        server'.installs, server'.transports) =
      (server.fresh, server.localSocketNextId, server.received, server.history,
        server.installs, server.transports))
    (sent : ∃ closes, server'.sent = server.sent ++ closes ∧
      ∀ entry ∈ closes, entry.2.command = .clse) : Untouched server server' := by
  simp only [Prod.mk.injEq] at same
  obtain ⟨fresh, nextId, received, history, installs, transports⟩ := same
  exact ⟨fresh, nextId, received, history, installs, fun t => by rw [transports],
    fun t c => by rw [transports]; exact id, sent⟩

theorem Untouched.refl (server : Server) : Untouched server server :=
  .of rfl ⟨[], by simp⟩

theorem Untouched.trans {first second third : Server} (one : Untouched first second)
    (two : Untouched second third) : Untouched first third := by
  obtain ⟨closes, sent_eq, are_closes⟩ := one.sent
  obtain ⟨closes', sent_eq', are_closes'⟩ := two.sent
  refine ⟨two.fresh.trans one.fresh, two.nextId.trans one.nextId,
    two.received.trans one.received, two.history.trans one.history,
    two.installs.trans one.installs, fun t => (two.online t).trans (one.online t),
    fun t c member => one.disconnects t c (two.disconnects t c member),
    closes ++ closes', by rw [sent_eq', sent_eq, List.append_assoc], ?_⟩
  intro entry member
  rcases List.mem_append.mp member with earlier | later
  · exact are_closes entry earlier
  · exact are_closes' entry later

/-- The socket is prepared for its end, which would have been the same without. -/
structure Loosens (server server' : Server) (c : Nat) : Prop where
  others : ∀ d, d ≠ c → server'.sockets d = server.sockets d
  self : ∀ after, Ended (server'.sockets c) after → Ended (server.sockets c) after
  list : server'.localSocketList = server.localSocketList
  closingList : server'.localSocketClosingList = server.localSocketClosingList
  untouched : Untouched server server'

/-- The socket comes to its end. -/
structure Ends (server server' : Server) (c : Nat) : Prop where
  others : ∀ d, d ≠ c → server'.sockets d = server.sockets d
  self : Ended (server.sockets c) (server'.sockets c)
  mem_list : ∀ d, d ∈ server'.localSocketList ↔ d ∈ server.localSocketList ∧ d ≠ c
  sublist : server'.localSocketList.Sublist server.localSocketList
  mem_closing : ∀ d, d ∈ server'.localSocketClosingList ↔
    d ∈ server.localSocketClosingList ∧ d ≠ c ∨ d = c ∧ server'.sockets c ≠ none
  closing_nodup : server'.localSocketClosingList.Nodup
  untouched : Untouched server server'

/-- The lists have no duplicates and hold only local sockets. -/
structure ListsOk (server : Server) : Prop where
  list_nodup : server.localSocketList.Nodup
  closing_nodup : server.localSocketClosingList.Nodup
  list_local : ∀ c ∈ server.localSocketList,
    ∀ s, server.sockets c = some s → s.kind = .localSocket
  closing_local : ∀ c ∈ server.localSocketClosingList,
    ∀ s, server.sockets c = some s → s.kind = .localSocket

theorem Consistent.listsOk {server : Server} (consistent : Consistent server) :
    ListsOk server := by
  refine ⟨consistent.list_nodup, consistent.closing_nodup, ?_, ?_⟩
  · intro c member s live
    obtain ⟨s', live', isLocal, _⟩ := consistent.listed c member
    rw [live] at live'
    cases live'
    exact isLocal
  · intro c member s live
    obtain ⟨s', live', isLocal, _⟩ := consistent.lingering c member
    rw [live] at live'
    cases live'
    exact isLocal

theorem Ends.of_loosens {server server₁ server₂ : Server} {c : Nat}
    (loosens : Loosens server server₁ c) (ends : Ends server₁ server₂ c) :
    Ends server server₂ c := by
  refine ⟨?_, loosens.self _ ends.self, ?_, ?_, ?_, ends.closing_nodup,
    loosens.untouched.trans ends.untouched⟩
  · intro d different
    rw [ends.others d different, loosens.others d different]
  · intro d
    rw [ends.mem_list, loosens.list]
  · rw [← loosens.list]
    exact ends.sublist
  · intro d
    rw [ends.mem_closing, loosens.closingList]

theorem ends_finishClose {server : Server} {c : Nat} {s : Asocket} (lists : ListsOk server)
    (live : server.sockets c = some s) (isLocal : s.kind = .localSocket)
    (unpeered : s.peer = none) (unnotified : s.queue.first ≠ none → s.notify = false) :
    Ends server (server.finishClose c) c := by
  have mem_erase : ∀ d, d ∈ server.localSocketList.erase c ↔
      d ∈ server.localSocketList ∧ d ≠ c := by
    intro d
    rw [lists.list_nodup.mem_erase_iff, and_comm]
  have mem_erase' : ∀ d, d ∈ server.localSocketClosingList.erase c ↔
      d ∈ server.localSocketClosingList ∧ d ≠ c := by
    intro d
    rw [lists.closing_nodup.mem_erase_iff, and_comm]
  simp only [Server.finishClose, live]
  split
  case isTrue finished =>
    refine ⟨?_, ?_, mem_erase, List.erase_sublist, ?_, lists.closing_nodup.erase c,
      .of rfl ⟨[], ?_, by simp⟩⟩
    · intro d different
      simp [Server.free, Server.removeSocket, Server.modify, different]
    · simp only [Server.free, Function.update_self]
      rw [live]
      apply Ended.freed
      intro s' equal _
      cases equal
      exact finished
    · intro d
      simp [Server.free, Server.removeSocket, mem_erase']
    · simp [Server.free, Server.removeSocket, Server.modify]
  case isFalse rest =>
    rw [not_or, Bool.not_eq_true] at rest
    have lingering : Ended (some s) (some { s with
        closing := true, wantRead := false, id := 0, peer := none, notify := false }) :=
      .lingers isLocal rest.1 rest.2
    have absent : c ∉ server.localSocketClosingList.erase c := by simp [mem_erase']
    refine ⟨?_, ?_, mem_erase, List.erase_sublist, ?_, ?_,
      .of rfl ⟨[], ?_, by simp⟩⟩
    · intro d different
      simp [Server.removeSocket, Server.modify, different]
    · simpa [Server.removeSocket, Server.modify, live, unpeered, unnotified rest.2]
        using lingering
    · intro d
      simp [Server.removeSocket, Server.modify, live, mem_erase']
    · simp only [Server.removeSocket, Server.modify]
      rw [List.nodup_append]
      refine ⟨lists.closing_nodup.erase c, by simp, ?_⟩
      rintro d member e other rfl
      rw [List.mem_singleton.mp other] at member
      exact absent member
    · simp [Server.removeSocket, Server.modify]

/-- Changing fields that the end of a socket does not look at. -/
theorem loosens_modify {server : Server} {c : Nat} {change : Asocket → Asocket}
    (same : ∀ s after, Ended (some (change s)) after → Ended (some s) after) :
    Loosens server (server.modify c change) c := by
  refine ⟨?_, ?_, rfl, rfl, .of rfl ⟨[], by simp [Server.modify]⟩⟩
  · intro d different
    simp [Server.modify, different]
  · intro after ended
    simp only [Server.modify, Function.update_self] at ended
    cases live : server.sockets c with
    | none =>
        rw [live] at ended
        exact ended
    | some s =>
        rw [live] at ended
        exact same s after ended

theorem loosens_clearPeer (server : Server) (c : Nat) : Loosens server (server.clearPeer c) c :=
  loosens_modify fun _ _ ended => ended.of_clearPeer

theorem loosens_endNotify (server : Server) (c : Nat) (text : List UInt8) :
    Loosens server (server.endNotify c text) c := by
  have modified : Loosens server (server.modify c fun s => { s with notify := false }) c :=
    loosens_modify fun _ _ ended => ended.of_endNotify
  exact ⟨modified.others, modified.self, modified.list, modified.closingList,
    .of rfl modified.untouched.sent⟩

theorem ListsOk.ends {server server' : Server} {c : Nat} (lists : ListsOk server)
    (ends : Ends server server' c) : ListsOk server' := by
  refine ⟨lists.list_nodup.sublist ends.sublist, ends.closing_nodup, ?_, ?_⟩
  · intro d member s live
    obtain ⟨member', different⟩ := (ends.mem_list d).mp member
    rw [ends.others d different] at live
    exact lists.list_local d member' s live
  · intro d member s live
    rcases (ends.mem_closing d).mp member with ⟨member', different⟩ | ⟨rfl, _⟩
    · rw [ends.others d different] at live
      exact lists.closing_local d member' s live
    · have ended := ends.self
      rw [live] at ended
      generalize server.sockets d = before at ended
      cases ended with
      | lingers isLocal => exact isLocal

theorem ListsOk.modify {server : Server} {c : Nat} {change : Asocket → Asocket}
    (lists : ListsOk server) (same : ∀ s, (change s).kind = s.kind) :
    ListsOk (server.modify c change) := by
  have kinds : ∀ d s, (server.modify c change).sockets d = some s →
      ∃ s', server.sockets d = some s' ∧ s'.kind = s.kind := by
    intro d s live
    rcases eq_or_ne d c with rfl | different
    · rw [Server.sockets_modify_self, Option.map_eq_some_iff] at live
      obtain ⟨s', live', rfl⟩ := live
      exact ⟨s', live', (same s').symm⟩
    · rw [Server.sockets_modify_of_ne different] at live
      exact ⟨s, live, rfl⟩
  refine ⟨lists.list_nodup, lists.closing_nodup, ?_, ?_⟩
  · intro d member s live
    obtain ⟨s', live', kind⟩ := kinds d s live
    rw [← kind]
    exact lists.list_local d member s' live'
  · intro d member s live
    obtain ⟨s', live', kind⟩ := kinds d s live
    rw [← kind]
    exact lists.closing_local d member s' live'

/-- Freeing a socket that is on no list. -/
theorem ends_free {server server' : Server} {c : Nat} {s : Asocket} (lists : ListsOk server)
    (live : server.sockets c = some s) (other : s.kind ≠ .localSocket)
    (sockets_eq : server'.sockets = Function.update server.sockets c none)
    (list_eq : server'.localSocketList = server.localSocketList)
    (closing_eq : server'.localSocketClosingList = server.localSocketClosingList)
    (untouched : Untouched server server') : Ends server server' c := by
  have unlisted : c ∉ server.localSocketList := fun member =>
    other (lists.list_local c member s live)
  have unlisted' : c ∉ server.localSocketClosingList := fun member =>
    other (lists.closing_local c member s live)
  refine ⟨?_, ?_, ?_, ?_, ?_, ?_, untouched⟩
  · intro d different
    rw [sockets_eq, Function.update_of_ne different]
  · rw [sockets_eq, Function.update_self, live]
    apply Ended.freed
    intro s' equal isLocal
    cases equal
    exact absurd isLocal other
  · intro d
    rw [list_eq]
    refine ⟨fun member => ⟨member, ?_⟩, And.left⟩
    rintro rfl
    exact unlisted member
  · rw [list_eq]
  · intro d
    rw [closing_eq, sockets_eq, Function.update_self]
    simp only [ne_eq, not_true_eq_false, and_false, or_false]
    refine ⟨fun member => ⟨member, ?_⟩, And.left⟩
    rintro rfl
    exact unlisted' member
  · rw [closing_eq]
    exact lists.closing_nodup

theorem online_erase {server : Server} {transport t c : Nat} :
    (Function.update server.transports transport
      { server.transports transport with
        disconnects := (server.transports transport).disconnects.erase c } t).online =
      (server.transports t).online := by
  rcases eq_or_ne t transport with rfl | different
  · simp
  · simp [different]

theorem mem_disconnects_erase {server : Server} {transport c : Nat} (t d : Nat)
    (member : d ∈ (Function.update server.transports transport
      { server.transports transport with
        disconnects := (server.transports transport).disconnects.erase c } t).disconnects) :
    d ∈ (server.transports t).disconnects := by
  rcases eq_or_ne t transport with rfl | different
  · rw [Function.update_self] at member
    exact List.mem_of_mem_erase member
  · rwa [Function.update_of_ne different] at member

theorem ends_closeUnpeered {server : Server} {c : Nat} {s : Asocket} (lists : ListsOk server)
    (live : server.sockets c = some s)
    (unpeered : s.kind = .localSocket → s.peer = none) :
    Ends server (server.closeUnpeered c) c := by
  have same : Untouched server server := .refl server
  simp only [Server.closeUnpeered, live]
  cases kind : s.kind with
  | localSocket =>
      cases notified : s.notify with
      | false => exact ends_finishClose lists live kind (unpeered kind) fun _ => notified
      | true =>
          have loosens := loosens_endNotify server c Server.failClosed
          refine Ends.of_loosens loosens (ends_finishClose (s := { s with notify := false })
            ?_ ?_ kind (unpeered kind) fun _ => rfl)
          · have modified : ListsOk (server.modify c fun s => { s with notify := false }) :=
              lists.modify fun _ => rfl
            exact ⟨modified.list_nodup, modified.closing_nodup, modified.list_local,
              modified.closing_local⟩
          · simp [Server.endNotify, Server.writeStatus, Server.modify, live]
  | remoteSocket =>
      have other : s.kind ≠ .localSocket := by simp [kind]
      cases s.transport with
      | none =>
          exact ends_free lists live other rfl rfl rfl (.of rfl same.sent)
      | some transport =>
          exact ends_free lists live other rfl rfl rfl
            ⟨rfl, rfl, rfl, rfl, rfl, fun _ => online_erase, mem_disconnects_erase, same.sent⟩
  | smartSocket =>
      have other : s.kind ≠ .localSocket := by simp [kind]
      exact ends_free lists live other rfl rfl rfl (.of rfl same.sent)
  | deviceTracker =>
      have other : s.kind ≠ .localSocket := by simp [kind]
      exact ends_free lists live other rfl rfl rfl (.of rfl same.sent)

/-! ## Sockets in pairs -/

/-- The end of a socket without a peer. -/
theorem Closes.of_ends {server server' : Server} {a : Nat} (ends : Ends server server' a)
    (unpeered : ∀ s, server.sockets a = some s → s.peer = none) :
    Closes server server' (· = a) := by
  refine ⟨ends.others, ?_, ?_, ends.mem_list, ends.sublist, ?_, ends.closing_nodup,
    ends.untouched.sent, ends.untouched.fresh, ends.untouched.nextId, ends.untouched.received,
    ends.untouched.history, ends.untouched.installs, ends.untouched.online,
    ends.untouched.disconnects⟩
  · rintro c rfl
    exact ends.self
  · rintro c s d rfl live peer
    rw [unpeered s live] at peer
    cases peer
  · intro c
    rw [ends.mem_closing]
    apply or_congr Iff.rfl
    apply and_congr_right
    rintro rfl
    rfl

/-- The ends of two peers, one after the other. -/
theorem Closes.of_two_ends {server middle after : Server} {a b : Nat} (different : a ≠ b)
    (first : Ends server middle b) (second : Ends middle after a)
    (peer_a : ∀ s d, server.sockets a = some s → s.peer = some d → d = b)
    (peer_b : ∀ s d, server.sockets b = some s → s.peer = some d → d = a) :
    Closes server after (fun c => c = a ∨ c = b) := by
  have untouched := first.untouched.trans second.untouched
  have after_b : after.sockets b = middle.sockets b := second.others b different.symm
  refine ⟨?_, ?_, ?_, ?_, second.sublist.trans first.sublist, ?_, second.closing_nodup,
    untouched.sent, untouched.fresh, untouched.nextId, untouched.received, untouched.history,
    untouched.installs, untouched.online, untouched.disconnects⟩
  · intro c outside
    rw [not_or] at outside
    rw [second.others c outside.1, first.others c outside.2]
  · rintro c (rfl | rfl)
    · have ended := second.self
      rwa [first.others c different] at ended
    · rw [after_b]
      exact first.self
  · rintro c s d (rfl | rfl) live peer
    · exact .inr (peer_a s d live peer)
    · exact .inl (peer_b s d live peer)
  · intro c
    rw [second.mem_list, first.mem_list, not_or, and_assoc, and_comm (a := c ≠ b)]
  · intro c
    rw [second.mem_closing, first.mem_closing]
    constructor
    · rintro (⟨⟨member, not_b⟩ | ⟨rfl, lives⟩, not_a⟩ | ⟨rfl, lives⟩)
      · exact .inl ⟨member, not_or.mpr ⟨not_a, not_b⟩⟩
      · exact .inr ⟨.inr rfl, by rw [after_b]; exact lives⟩
      · exact .inr ⟨.inl rfl, lives⟩
    · rintro (⟨member, outside⟩ | ⟨rfl | rfl, lives⟩)
      · rw [not_or] at outside
        exact .inl ⟨.inl ⟨member, outside.2⟩, outside.1⟩
      · exact .inr ⟨rfl, lives⟩
      · rw [after_b] at lives
        exact .inl ⟨.inr ⟨rfl, lives⟩, different.symm⟩

theorem closes_alone {server server' : Server} {a : Nat} {s : Asocket}
    (live : server.sockets a = some s) (unpeered : s.peer = none) (ends : Ends server server' a) :
    Closes server server' (fun c => c = a ∨ s.peer = some c) := by
  have closes := Closes.of_ends ends (by
    intro s' live'
    rw [live] at live'
    cases live'
    exact unpeered)
  simpa [unpeered] using closes

theorem closes_pair {server middle after : Server} {a b : Nat} {s r : Asocket}
    (live : server.sockets a = some s) (peer : s.peer = some b)
    (live_b : server.sockets b = some r) (peer_b : r.peer = some a) (different : a ≠ b)
    (first : Ends server middle b) (second : Ends middle after a) :
    Closes server after (fun c => c = a ∨ s.peer = some c) := by
  have closes := Closes.of_two_ends different first second (by
    intro s' d live' peer'
    rw [live] at live'
    cases live'
    rw [peer] at peer'
    exact (Option.some.inj peer').symm) (by
    intro r' d live' peer'
    rw [live_b] at live'
    cases live'
    rw [peer_b] at peer'
    exact (Option.some.inj peer').symm)
  simpa [peer, eq_comm] using closes

theorem loosens_shutdown (server : Server) (b c : Nat) :
    Loosens server (server.shutdown b) c := by
  unfold Server.shutdown
  split
  · exact ⟨fun _ _ => rfl, fun _ ended => ended, rfl, rfl, .refl server⟩
  · split
    · exact ⟨fun _ _ => rfl, fun _ ended => ended, rfl, rfl,
        .of rfl ⟨_, rfl, by simp⟩⟩
    · exact ⟨fun _ _ => rfl, fun _ ended => ended, rfl, rfl, .refl server⟩

theorem Consistent.ne_peer {server : Server} (consistent : Consistent server) {a b : Nat}
    {s : Asocket} (live : server.sockets a = some s) (peer : s.peer = some b) : a ≠ b := by
  rintro rfl
  exact consistent.irreflexive a s live peer

theorem LocalOk.unnotified {server : Server} {a : Nat} {s : Asocket} (ok : LocalOk server a s)
    (queued : s.queue.first ≠ none) : s.notify = false := by
  cases notified : s.notify with
  | false => rfl
  | true =>
      obtain ⟨unpeered, stillOpen⟩ := ok.notify_unpeered notified
      exact absurd unpeered (ok.owned stillOpen queued)

/-- `local_socket_close_locked` closes the socket and its peer. -/
theorem closes_localSocketCloseLocked {server : Server} {a : Nat} {s : Asocket}
    (consistent : Consistent server) (live : server.sockets a = some s)
    (isLocal : s.kind = .localSocket) :
    Closes server (server.localSocketCloseLocked a) (fun c => c = a ∨ s.peer = some c) := by
  have ok := consistent.locals a s live isLocal
  have lists := consistent.listsOk
  simp only [Server.localSocketCloseLocked, live]
  cases peer : s.peer with
  | none =>
      have ends := ends_finishClose lists live isLocal peer ok.unnotified
      simpa only [peer] using closes_alone live peer ends
  | some b =>
      have different := consistent.ne_peer live peer
      obtain ⟨r, live_b, peer_b⟩ := consistent.symmetric a s b live peer
      have shut := loosens_shutdown server b b
      have live_shut : (server.shutdown b).sockets = server.sockets := by
        unfold Server.shutdown
        split
        · rfl
        · split <;> rfl
      have lists_shut : ListsOk (server.shutdown b) := by
        refine ⟨by rw [shut.list]; exact lists.list_nodup,
          by rw [shut.closingList]; exact lists.closing_nodup, ?_, ?_⟩
        · rw [shut.list, live_shut]
          exact lists.list_local
        · rw [shut.closingList, live_shut]
          exact lists.closing_local
      have first : Ends server (((server.shutdown b).clearPeer b).closeUnpeered b) b := by
        refine Ends.of_loosens shut (Ends.of_loosens (loosens_clearPeer _ b) ?_)
        apply ends_closeUnpeered (s := { r with peer := none })
        · exact lists_shut.modify fun _ => rfl
        · simp [Server.clearPeer, live_shut, live_b]
        · simp
      simp only
      generalize ((server.shutdown b).clearPeer b).closeUnpeered b = middle at first ⊢
      have second : Ends middle ((middle.clearPeer a).finishClose a) a := by
        refine Ends.of_loosens (loosens_clearPeer _ a) ?_
        apply ends_finishClose (s := { s with peer := none })
        · exact (lists.ends first).modify fun _ => rfl
        · simp [Server.clearPeer, first.others a different, live]
        · exact isLocal
        · rfl
        · exact ok.unnotified
      simpa only [peer] using closes_pair live peer live_b peer_b different first second

/-- `s->close(s)` closes the socket and its peer. -/
theorem closes_close {server : Server} {a : Nat} {s : Asocket} (consistent : Consistent server)
    (live : server.sockets a = some s) :
    Closes server (server.close a) (fun c => c = a ∨ s.peer = some c) := by
  have lists := consistent.listsOk
  simp only [Server.close, live]
  cases kind : s.kind with
  | localSocket =>
      have ok := consistent.locals a s live kind
      cases notified : s.notify with
      | false => exact closes_localSocketCloseLocked consistent live kind
      | true =>
          obtain ⟨unpeered, _⟩ := ok.notify_unpeered notified
          have live' : (server.endNotify a Server.failClosed).sockets a =
              some { s with notify := false } := by
            simp [Server.endNotify, Server.writeStatus, live]
          have lists' : ListsOk (server.endNotify a Server.failClosed) := by
            have modified : ListsOk (server.modify a fun s => { s with notify := false }) :=
              lists.modify fun _ => rfl
            exact ⟨modified.list_nodup, modified.closing_nodup, modified.list_local,
              modified.closing_local⟩
          have ends : Ends server
              ((server.endNotify a Server.failClosed).localSocketCloseLocked a) a := by
            refine Ends.of_loosens (loosens_endNotify _ a Server.failClosed) ?_
            simp only [Server.localSocketCloseLocked, live', unpeered]
            exact ends_finishClose lists' live' kind unpeered fun _ => rfl
          exact closes_alone live unpeered ends
  | remoteSocket | smartSocket | deviceTracker =>
      have other : s.kind ≠ .localSocket := by simp [kind]
      cases peer : s.peer with
      | none =>
          have ends := ends_closeUnpeered lists live fun isLocal => absurd isLocal other
          simpa only [peer] using closes_alone live peer ends
      | some b =>
          have different := consistent.ne_peer live peer
          obtain ⟨r, live_b, peer_b⟩ := consistent.symmetric a s b live peer
          have first : Ends server ((server.clearPeer b).closeUnpeered b) b := by
            refine Ends.of_loosens (loosens_clearPeer _ b) ?_
            apply ends_closeUnpeered (s := { r with peer := none })
            · exact lists.modify fun _ => rfl
            · simp [Server.clearPeer, live_b]
            · simp
          simp only
          generalize (server.clearPeer b).closeUnpeered b = middle at first ⊢
          have live_middle : middle.sockets a = some s := by
            rw [first.others a different, live]
          have second := ends_closeUnpeered (lists.ends first) live_middle
            fun isLocal => absurd isLocal other
          simpa only [peer] using closes_pair live peer live_b peer_b different first second

/-! ## Closing keeps the invariant -/

theorem Ended.none_left {after : Option Asocket} (ended : Ended none after) : after = none := by
  cases ended with
  | freed => rfl

/-- What is left of a closed socket. -/
theorem Ended.lingering {before : Option Asocket} {s : Asocket} (ended : Ended before (some s)) :
    ∃ r, before = some r ∧ r.kind = .localSocket ∧ r.closing = false ∧ r.queue.first ≠ none ∧
      s = { r with
        closing := true, wantRead := false, id := 0, peer := none, notify := false } := by
  cases ended with
  | lingers isLocal stillOpen queued => exact ⟨_, rfl, isLocal, stillOpen, queued, rfl⟩

theorem Consistent.closes {server server' : Server} {gone : Nat → Prop}
    (consistent : Consistent server) (closes : Closes server server' gone) :
    Consistent server' := by
  -- A socket with a peer was not closed.
  have kept : ∀ a s b, server'.sockets a = some s → s.peer = some b →
      ¬gone a ∧ server.sockets a = some s := by
    intro a s b live peer
    by_cases left : gone a
    · have ended := closes.ended a left
      rw [live] at ended
      obtain ⟨r, _, _, _, _, rfl⟩ := ended.lingering
      cases peer
    · exact ⟨left, by rw [← closes.others a left, live]⟩
  have peer_kept : ∀ a s b, ¬gone a → server.sockets a = some s → s.peer = some b → ¬gone b := by
    intro a s b stays live peer left
    obtain ⟨r, live_b, peer_b⟩ := consistent.symmetric a s b live peer
    exact stays (closes.peers b r a left live_b peer_b)
  refine .of_pairs ?_ ?_ (consistent.list_nodup.sublist closes.sublist) closes.closing_nodup ?_ ?_
    ?_ ?_ ?_
  · intro a member
    obtain ⟨member', stays⟩ := (closes.mem_list a).mp member
    rw [closes.others a stays]
    exact consistent.listed a member'
  · intro a member
    rcases (closes.mem_closing a).mp member with ⟨member', stays⟩ | ⟨left, lives⟩
    · rw [closes.others a stays]
      exact consistent.lingering a member'
    · obtain ⟨s, live⟩ := Option.ne_none_iff_exists'.mp lives
      have ended := closes.ended a left
      rw [live] at ended
      obtain ⟨r, _, isLocal, _, _, rfl⟩ := ended.lingering
      exact ⟨_, live, isLocal, rfl⟩
  · intro a unallocated
    rw [closes.fresh] at unallocated
    have absent := consistent.unallocated a unallocated
    by_cases left : gone a
    · have ended := closes.ended a left
      rw [absent] at ended
      exact ended.none_left
    · rw [closes.others a left, absent]
  · rw [closes.nextId]
    exact consistent.nextId_ne
  · intro t c member
    rw [closes.fresh]
    exact (consistent.registered t c (closes.disconnects t c member)).1
  · intro a s live
    by_cases left : gone a
    · have ended := closes.ended a left
      rw [live] at ended
      obtain ⟨r, live_r, isLocal_r, stillOpen, queued, rfl⟩ := ended.lingering
      refine ⟨fun _ => ?_, by simp [isLocal_r], fun t member => ?_, fun _ => rfl⟩
      · have ok := consistent.locals a r live_r isLocal_r
        have member := (closes.mem_closing a).mpr (.inr ⟨left, by simp [live]⟩)
        exact ⟨ok.represents, ok.write_iff, by simp, by simp,
          fun _ => ⟨member, rfl, rfl, queued⟩, fun _ => rfl, by simp⟩
      · have remote := (consistent.registered t a (closes.disconnects t a member)).2 r live_r
        rw [remote.1] at isLocal_r
        cases isLocal_r
    · rw [closes.others a left] at live
      obtain ⟨locals, remote_transport, registered, smart_id⟩ := consistent.socketOk live
      refine ⟨fun isLocal => (locals isLocal).mono ?_ ?_, remote_transport,
        fun t member => registered t (closes.disconnects t a member), smart_id⟩
      · intro member
        exact (closes.mem_list a).mpr ⟨member, left⟩
      · intro member
        exact (closes.mem_closing a).mpr (.inl ⟨member, left⟩)
  · intro a s b live peer
    obtain ⟨stays, live'⟩ := kept a s b live peer
    obtain ⟨r, live_b, symmetric, different, smart_peer, partner, unstreamed⟩ :=
      consistent.pairOk live' peer
    rw [← closes.history] at unstreamed
    exact ⟨r, by rw [closes.others b (peer_kept a s b stays live' peer), live_b], symmetric,
      different, smart_peer, partner, unstreamed⟩

end Sockets
end AdbWide
