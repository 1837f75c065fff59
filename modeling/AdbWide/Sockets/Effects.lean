import Mathlib.Logic.Relation
import AdbWide.Sockets.Closing

/-!
# What the socket layer can do

Everything the server does apart from taking packets is a sequence of the effects listed here, each
of which leads from one consistent state to another.  Each says all that changes, the records of
what was sent, read and written included, so that an invariant of the socket layer need only be
checked against this list.
-/

namespace AdbWide
namespace Sockets

/-- Nothing about sockets or traffic changes; the rest may. -/
structure SameTraffic (server server' : Server) : Prop where
  sockets : server'.sockets = server.sockets
  fresh : server'.fresh = server.fresh
  list : server'.localSocketList = server.localSocketList
  closingList : server'.localSocketClosingList = server.localSocketClosingList
  nextId : server'.localSocketNextId = server.localSocketNextId
  history : server'.history = server.history
  sent : server'.sent = server.sent
  received : server'.received = server.received
  installs : server'.installs = server.installs
  online : ∀ t, (server'.transports t).online = (server.transports t).online
  disconnects : FewerDisconnects server server'

theorem SameTraffic.of_sockets {server server' : Server}
    (sockets : server'.sockets = server.sockets)
    (same : (server'.fresh, server'.localSocketList, server'.localSocketClosingList,
        server'.localSocketNextId, server'.history, server'.sent, server'.received,
        server'.installs,
        fun t => ((server'.transports t).online, (server'.transports t).disconnects)) =
      (server.fresh, server.localSocketList, server.localSocketClosingList,
        server.localSocketNextId, server.history, server.sent, server.received, server.installs,
        fun t => ((server.transports t).online, (server.transports t).disconnects))) :
    SameTraffic server server' := by
  simp only [Prod.mk.injEq] at same
  obtain ⟨fresh, list, closingList, nextId, history, sent, received, installs, transports⟩ := same
  refine ⟨sockets, fresh, list, closingList, nextId, history, sent, received, installs,
    fun t => congrArg Prod.fst (congrFun transports t), fun t c => ?_⟩
  have disconnects : (server'.transports t).disconnects = (server.transports t).disconnects :=
    congrArg Prod.snd (congrFun transports t)
  rw [disconnects]
  exact id

/-- Fields of a socket change that say nothing about its streams. -/
structure Adjusts (s s' : Asocket) : Prop where
  kind : s'.kind = s.kind
  id : s'.id = s.id
  closing : s'.closing = s.closing
  peer : s'.peer = s.peer
  queue : s'.queue = s.queue
  wantWrite : s'.wantWrite = s.wantWrite
  wantRead : s'.wantRead = true → s.wantRead = true
  notify : s'.notify = true → s.notify = true
  transport : s.kind = .remoteSocket → s'.transport = s.transport

theorem Adjusts.of {s s' : Asocket}
    (same : (s'.kind, s'.id, s'.closing, s'.peer, s'.queue, s'.wantWrite) =
      (s.kind, s.id, s.closing, s.peer, s.queue, s.wantWrite))
    (wantRead : s'.wantRead = true → s.wantRead = true)
    (notify : s'.notify = true → s.notify = true)
    (transport : s.kind = .remoteSocket → s'.transport = s.transport) : Adjusts s s' := by
  simp only [Prod.mk.injEq] at same
  obtain ⟨kind, id, closing, peer, queue, wantWrite⟩ := same
  exact ⟨kind, id, closing, peer, queue, wantWrite, wantRead, notify, transport⟩

/-- A new socket that is not on a list. -/
def Server.createOther (server : Server) (s : Asocket) : Server :=
  { server with
    sockets := Function.update server.sockets server.fresh (some s)
    fresh := server.fresh + 1 }

/-- Record that a stream has been opened by a local socket, with the packet that says so. -/
def Server.openStream (server : Server) (address transport id : Nat) (payload : List UInt8) :
    Server :=
  (server.sendPacket transport ⟨.open, id, 0, payload⟩).record address
    fun h => { h with origin := .opened, input := [] }

/-- The effects of the socket layer. -/
inductive Effect (server : Server) : Server → Prop where
  | quiet {server' : Server} : SameTraffic server server' → Effect server server'
  | closes {server' : Server} (gone : Nat → Prop) :
      Closes server server' gone → Effect server server'
  | adjust (a : Nat) {s : Asocket} (change : Asocket → Asocket) :
      server.sockets a = some s → Adjusts s (change s) → Effect server (server.modify a change)
  /-- A socket that has no stream is told to read. -/
  | wake (a : Nat) {s : Asocket} {b : Nat} :
      server.sockets a = some s → s.kind = .localSocket → s.peer = some b →
      (server.history a).origin = .none →
      Effect server (server.modify a fun s => { s with wantRead := true })
  /-- Data is written for a socket that has no stream. -/
  | output (a : Nat) {s : Asocket} {b : Nat} {r : Asocket} (bytes : List UInt8) :
      server.sockets a = some s → s.kind = .localSocket → s.peer = some b →
      server.sockets b = some r → r.kind ≠ .smartSocket → (server.history a).origin = .none →
      Effect server (server.recordOutput a bytes)
  /-- Data of a socket that has no stream has been read. -/
  | input (a : Nat) {s : Asocket} (bytes : List UInt8) :
      server.sockets a = some s → s.kind = .localSocket → (server.history a).origin = .none →
      Effect server (server.record a fun h => { h with input := h.input ++ bytes })
  /-- A packet is queued for a socket that has no stream. -/
  | push (a : Nat) {s : Asocket} {b : Nat} {r : Asocket} (packet : List UInt8) :
      server.sockets a = some s → s.kind = .localSocket → s.peer = some b →
      server.sockets b = some r → r.kind ≠ .smartSocket → (server.history a).origin = .none →
      Effect server (server.enqueuePacket a packet)
  | drainSome (a : Nat) {s : Asocket} (queue : LinkedQueue (List UInt8))
      {packets packets' : List (List UInt8)} (bytes : List UInt8) :
      server.sockets a = some s → s.kind = .localSocket →
      s.queue.Represents packets → queue.Represents packets' →
      packets ≠ [] → packets' ≠ [] → packets.flatten = bytes ++ packets'.flatten →
      Effect server ((server.modify a fun s => { s with queue }).recordOutput a bytes)
  /-- A closing socket is destroyed when all its packets have been written. -/
  | drainLast (a : Nat) {s : Asocket} {packets : List (List UInt8)} :
      server.sockets a = some s → s.kind = .localSocket → s.closing = true →
      s.queue.Represents packets →
      Effect server (((server.recordOutput a packets.flatten).removeSocket a).free a)
  | drainAll (a : Nat) {s : Asocket} {b : Nat} {r : Asocket} (queue : LinkedQueue (List UInt8))
      {packets : List (List UInt8)} :
      server.sockets a = some s → s.kind = .localSocket → s.peer = some b →
      server.sockets b = some r → r.kind ≠ .remoteSocket →
      s.queue.Represents packets → queue.Represents [] →
      Effect server
        ((server.modify a fun s => { s with queue, wantWrite := false }).recordOutput a
          packets.flatten)
  /-- All packets of a stream have been written, which is answered by an `A_OKAY` packet. -/
  | drainAnswer (a : Nat) {s : Asocket} {b : Nat} {r : Asocket} {transport : Nat}
      (queue : LinkedQueue (List UInt8)) {packets : List (List UInt8)} :
      server.sockets a = some s → s.kind = .localSocket → s.peer = some b →
      server.sockets b = some r → r.kind = .remoteSocket → r.transport = some transport →
      s.queue.Represents packets → packets ≠ [] → queue.Represents [] →
      Effect server
        (((server.modify a fun s => { s with queue, wantWrite := false }).recordOutput a
          packets.flatten).sendPacket transport ⟨.okay, s.id, r.id, []⟩)
  /-- Data of a stream has been read, which is sent in an `A_WRTE` packet. -/
  | readSend (a : Nat) {s : Asocket} {b : Nat} {r : Asocket} {transport : Nat}
      (data : List UInt8) :
      server.sockets a = some s → s.kind = .localSocket → s.peer = some b →
      server.sockets b = some r → r.kind = .remoteSocket → r.transport = some transport →
      s.wantRead = true →
      Effect server
        (((server.record a fun h => { h with input := h.input ++ data }).sendPacket transport
          ⟨.wrte, s.id, r.id, data⟩).modify a fun s => { s with wantRead := false })
  | createLocal : Effect server server.createLocalSocket
  | createOther (s : Asocket) :
      s.kind ≠ .localSocket → s.kind ≠ .remoteSocket → s.peer = none → s.id = 0 →
      Effect server (server.createOther s)
  /-- A new client gets its smart socket. -/
  | join (a c : Nat) {s r : Asocket} :
      server.sockets a = some s → s.kind = .localSocket → s.closing = false → s.peer = none →
      s.notify = false → (server.history a).origin = .none →
      server.sockets c = some r → r.kind ≠ .localSocket → r.kind ≠ .remoteSocket →
      r.peer = none →
      Effect server (server.link a c)
  /-- A client is connected to a service of the host. -/
  | switch (a b c : Nat) {s r q : Asocket} :
      server.sockets a = some s → s.kind = .localSocket → s.peer = some b →
      server.sockets b = some r → r.kind = .smartSocket →
      server.sockets c = some q → q.peer = none →
      q.kind = .deviceTracker ∨
        q.kind = .localSocket ∧ q.closing = false ∧ q.notify = false ∧
          (server.history c).origin = .none →
      Effect server ((server.link a c).free b)
  /-- A new connection is forwarded to a transport. -/
  | openForward (a : Nat) {s : Asocket} (transport : Nat) (payload : List UInt8) :
      server.sockets a = some s → s.kind = .localSocket → s.closing = false → s.peer = none →
      (server.history a).origin = .none →
      Effect server (server.openStream a transport s.id payload)
  /-- A client is connected to a transport. -/
  | openClient (a b : Nat) {s r : Asocket} (transport : Nat) (payload : List UInt8) :
      server.sockets a = some s → s.kind = .localSocket → s.peer = some b →
      server.sockets b = some r → r.kind = .smartSocket →
      Effect server
        (((server.modify a fun s =>
          { s with
            notify := true, peer := none, transport := some transport,
            wantRead := false }).openStream a transport s.id payload).free b)

/-- A sequence of effects. -/
abbrev Effects : Server → Server → Prop := Relation.ReflTransGen Effect

/-! ## Effects keep the invariant -/

theorem SameTraffic.sameSockets {server server' : Server} (same : SameTraffic server server') :
    SameSockets server server' :=
  ⟨same.sockets, same.fresh, same.list, same.closingList, same.nextId,
    fun a => by rw [same.history], same.disconnects⟩

/-- The lists and counters of the socket layer stay as they are. -/
structure SameLists (server server' : Server) : Prop where
  fresh : server'.fresh = server.fresh
  list : server'.localSocketList = server.localSocketList
  closingList : server'.localSocketClosingList = server.localSocketClosingList
  nextId : server'.localSocketNextId = server.localSocketNextId
  disconnects : FewerDisconnects server server'

theorem SameLists.of {server server' : Server}
    (same : (server'.fresh, server'.localSocketList, server'.localSocketClosingList,
        server'.localSocketNextId, server'.transports) =
      (server.fresh, server.localSocketList, server.localSocketClosingList,
        server.localSocketNextId, server.transports)) : SameLists server server' := by
  simp only [Prod.mk.injEq] at same
  obtain ⟨fresh, list, closingList, nextId, transports⟩ := same
  exact ⟨fresh, list, closingList, nextId, fun t c => by rw [transports]; exact id⟩

theorem SameLists.localOk {server server' : Server} {a : Nat} {s : Asocket}
    (lists : SameLists server server') (ok : LocalOk server a s) : LocalOk server' a s := by
  refine ok.mono ?_ ?_
  · rw [lists.list]
    exact id
  · rw [lists.closingList]
    exact id

/-- No local socket is freed, opened or closed. -/
def KeepsLocals (server server' : Server) : Prop :=
  ∀ c q, server.sockets c = some q → q.kind = .localSocket →
    ∃ q', server'.sockets c = some q' ∧ q'.kind = .localSocket ∧ q'.closing = q.closing

theorem KeepsLocals.listed {server server' : Server} (keeps : KeepsLocals server server')
    (lists : SameLists server server') (consistent : Consistent server) :
    ∀ c ∈ server'.localSocketList,
      ∃ q, server'.sockets c = some q ∧ q.kind = .localSocket ∧ q.closing = false := by
  intro c member
  rw [lists.list] at member
  obtain ⟨q, live, isLocal, stillOpen⟩ := consistent.listed c member
  obtain ⟨q', live', isLocal', closing⟩ := keeps c q live isLocal
  exact ⟨q', live', isLocal', closing.trans stillOpen⟩

theorem KeepsLocals.lingering {server server' : Server} (keeps : KeepsLocals server server')
    (lists : SameLists server server') (consistent : Consistent server) :
    ∀ c ∈ server'.localSocketClosingList,
      ∃ q, server'.sockets c = some q ∧ q.kind = .localSocket ∧ q.closing = true := by
  intro c member
  rw [lists.closingList] at member
  obtain ⟨q, live, isLocal, closed⟩ := consistent.lingering c member
  obtain ⟨q', live', isLocal', closing⟩ := keeps c q live isLocal
  exact ⟨q', live', isLocal', closing.trans closed⟩

/-- Where the lists stay as they are, the invariant is that of each socket and of each pair. -/
theorem Consistent.of_sameLists {server server' : Server} (consistent : Consistent server)
    (lists : SameLists server server') (keeps : KeepsLocals server server')
    (absent : ∀ c, server.sockets c = none → server'.sockets c = none)
    (alone : ∀ c q, server'.sockets c = some q → SocketOk server c q)
    (pairs : ∀ c q d, server'.sockets c = some q → q.peer = some d →
      ∃ p, server'.sockets d = some p ∧ PairOk server' c q d p) : Consistent server' := by
  refine .of_pairs (keeps.listed lists consistent) (keeps.lingering lists consistent) ?_ ?_ ?_ ?_ ?_
    ?_ pairs
  · rw [lists.list]
    exact consistent.list_nodup
  · rw [lists.closingList]
    exact consistent.closing_nodup
  · intro c unallocated
    rw [lists.fresh] at unallocated
    exact absent c (consistent.unallocated c unallocated)
  · rw [lists.nextId]
    exact consistent.nextId_ne
  · intro t c member
    rw [lists.fresh]
    exact (consistent.registered t c (lists.disconnects t c member)).1
  · intro c q live
    obtain ⟨locals, remote_transport, registered, smart_id⟩ := alone c q live
    exact ⟨fun isLocal => lists.localOk (locals isLocal), remote_transport,
      fun t member => registered t (lists.disconnects t c member), smart_id⟩

/-- A socket changes and stays where it is. -/
structure SameSocket (s s' : Asocket) : Prop where
  kind : s'.kind = s.kind
  id : s'.id = s.id
  closing : s'.closing = s.closing

/-- One socket changes and keeps its kind and its peer. -/
theorem Consistent.update {server server' : Server} {a : Nat} {s : Asocket} (s' : Asocket)
    (consistent : Consistent server) (live : server.sockets a = some s)
    (sockets : server'.sockets = Function.update server.sockets a (some s'))
    (lists : SameLists server server')
    (origin : ∀ c q b, server.sockets c = some q → q.peer = some b →
      (server'.history c).origin = (server.history c).origin)
    (same : SameSocket s s') (peer : s'.peer = s.peer)
    (transport : s.kind = .remoteSocket → s'.transport = s.transport)
    (unqueued : ∀ b r, s.peer = some b → server.sockets b = some r → r.kind = .smartSocket →
      s'.queue.first = none)
    (ok : s.kind = .localSocket → LocalOk server a s → LocalOk server a s') :
    Consistent server' := by
  obtain ⟨kind, id, closing⟩ := same
  have at_a : server'.sockets a = some s' := by
    rw [sockets, Function.update_self]
  have others : ∀ c, c ≠ a → server'.sockets c = server.sockets c := by
    intro c different
    rw [sockets, Function.update_of_ne different]
  -- Every socket of the new state comes from one of the old with the same kind and peer.
  have before : ∀ c q, server'.sockets c = some q →
      c = a ∧ q = s' ∨ c ≠ a ∧ server.sockets c = some q := by
    intro c q live_q
    rcases eq_or_ne c a with rfl | different
    · rw [at_a] at live_q
      exact .inl ⟨rfl, (Option.some.inj live_q).symm⟩
    · rw [others c different] at live_q
      exact .inr ⟨different, live_q⟩
  have keeps : KeepsLocals server server' := by
    intro c q live_q isLocal
    rcases eq_or_ne c a with rfl | different
    · rw [live] at live_q
      cases live_q
      exact ⟨s', at_a, kind.trans isLocal, closing⟩
    · exact ⟨q, by rw [others c different, live_q], isLocal, rfl⟩
  -- A peer of another socket is still there, and if it is the one that changes it is its peer.
  have peered : ∀ c q d, server.sockets c = some q → q.peer = some d → c ≠ a →
      ∃ p, server'.sockets d = some p ∧ PairOk server' c q d p := by
    intro c q d live_q peer_q different
    obtain ⟨p, live_p, ok⟩ := consistent.pairOk live_q peer_q
    obtain ⟨symmetric, apart, smart_peer, partner, unstreamed⟩ := ok
    rw [← origin c q d live_q peer_q] at unstreamed
    rcases eq_or_ne d a with rfl | not_a
    · rw [live] at live_p
      cases live_p
      exact ⟨s', at_a, peer.trans symmetric, apart, unqueued c q symmetric live_q,
        fun other => kind.trans (partner other), fun isLocal other =>
          unstreamed isLocal (by rwa [← kind])⟩
    · exact ⟨p, by rw [others d not_a, live_p], symmetric, apart, smart_peer, partner, unstreamed⟩
  refine consistent.of_sameLists lists keeps ?_ ?_ ?_
  · intro c absent
    rw [others c ?_, absent]
    rintro rfl
    rw [live] at absent
    cases absent
  · intro c q live_q
    rcases before c q live_q with ⟨rfl, rfl⟩ | ⟨-, live'⟩
    · have ok_s := consistent.socketOk live
      refine ⟨fun isLocal => ?_, fun remote => ?_, fun t member => ?_, ?_⟩
      · rw [kind] at isLocal
        exact ok isLocal (ok_s.locals isLocal)
      · rw [kind] at remote
        rw [transport remote]
        exact ok_s.remote_transport remote
      · obtain ⟨remote, on_t⟩ := ok_s.registered t member
        rw [kind, transport remote]
        exact ⟨remote, on_t⟩
      · rw [kind, id]
        exact ok_s.smart_id
    · exact consistent.socketOk live'
  · intro c q d live_q peer_q
    rcases before c q live_q with ⟨rfl, rfl⟩ | ⟨different, live'⟩
    · rw [peer] at peer_q
      obtain ⟨p, live_p, symmetric, apart, smart_peer, partner, unstreamed⟩ :=
        consistent.pairOk live peer_q
      rw [← origin c s d live peer_q] at unstreamed
      exact ⟨p, by rw [others d apart, live_p], symmetric, apart, fun smart => smart_peer
        (kind.symm.trans smart), fun other => partner (by rwa [← kind]), fun isLocal =>
          unstreamed (kind.symm.trans isLocal)⟩
    · exact peered c q d live' peer_q different

/-- A new socket without a peer. -/
theorem Consistent.create {server server' : Server} {s : Asocket}
    (consistent : Consistent server)
    (sockets : server'.sockets = Function.update server.sockets server.fresh (some s))
    (fresh : server'.fresh = server.fresh + 1)
    (list : s.kind = .localSocket ∧
        server'.localSocketList = server.localSocketList ++ [server.fresh] ∧ s.closing = false ∨
      s.kind ≠ .localSocket ∧ server'.localSocketList = server.localSocketList)
    (closingList : server'.localSocketClosingList = server.localSocketClosingList)
    (nextId : server'.localSocketNextId ≠ 0)
    (origin : ∀ c, c ≠ server.fresh → (server'.history c).origin = (server.history c).origin)
    (disconnects : ∀ t c, c ∈ (server'.transports t).disconnects →
      c ∈ (server.transports t).disconnects ∨
        c = server.fresh ∧ s.kind = .remoteSocket ∧ s.transport = some t)
    (unpeered : s.peer = none)
    (transport : s.kind = .remoteSocket → ∃ transport, s.transport = some transport)
    (smart_id : s.kind = .smartSocket → s.id = 0)
    (ok : s.kind = .localSocket → LocalOk server' server.fresh s) :
    Consistent server' := by
  have absent : server.sockets server.fresh = none :=
    consistent.unallocated _ (Nat.le_refl _)
  have new_or_old : ∀ c q, server'.sockets c = some q →
      c = server.fresh ∧ q = s ∨ c ≠ server.fresh ∧ server.sockets c = some q := by
    intro c q live_q
    rw [sockets] at live_q
    rcases eq_or_ne c server.fresh with rfl | different
    · rw [Function.update_self] at live_q
      exact .inl ⟨rfl, (Option.some.inj live_q).symm⟩
    · rw [Function.update_of_ne different] at live_q
      exact .inr ⟨different, live_q⟩
  have old : ∀ c q, server.sockets c = some q → server'.sockets c = some q := by
    intro c q live_q
    rw [sockets, Function.update_of_ne, live_q]
    rintro rfl
    rw [absent] at live_q
    cases live_q
  have peered : ∀ c q d, server'.sockets c = some q → q.peer = some d →
      server.sockets c = some q := by
    intro c q d live_q peer_q
    rcases new_or_old c q live_q with ⟨rfl, rfl⟩ | ⟨different, live'⟩
    · rw [unpeered] at peer_q
      cases peer_q
    · exact live'
  have fresh_unlisted : server.fresh ∉ server.localSocketList := by
    intro member
    obtain ⟨q, live_q, _⟩ := consistent.listed _ member
    rw [absent] at live_q
    cases live_q
  have mem_list : ∀ c, c ∈ server.localSocketList → c ∈ server'.localSocketList := by
    intro c member
    rcases list with ⟨_, list_eq, _⟩ | ⟨_, list_eq⟩
    · rw [list_eq]
      exact List.mem_append_left _ member
    · rwa [list_eq]
  refine .of_pairs ?_ ?_ ?_ (by rw [closingList]; exact consistent.closing_nodup) ?_ nextId ?_ ?_ ?_
  · intro c member
    rcases list with ⟨isLocal, list_eq, stillOpen⟩ | ⟨_, list_eq⟩
    · rw [list_eq, List.mem_append, List.mem_singleton] at member
      rcases member with member | rfl
      · obtain ⟨q, live_q, rest⟩ := consistent.listed c member
        exact ⟨q, old c q live_q, rest⟩
      · exact ⟨s, by rw [sockets, Function.update_self], isLocal, stillOpen⟩
    · rw [list_eq] at member
      obtain ⟨q, live_q, rest⟩ := consistent.listed c member
      exact ⟨q, old c q live_q, rest⟩
  · intro c member
    rw [closingList] at member
    obtain ⟨q, live_q, rest⟩ := consistent.lingering c member
    exact ⟨q, old c q live_q, rest⟩
  · rcases list with ⟨_, list_eq, _⟩ | ⟨_, list_eq⟩
    · rw [list_eq, List.nodup_append]
      refine ⟨consistent.list_nodup, by simp, ?_⟩
      rintro c member d new rfl
      rw [List.mem_singleton.mp new] at member
      exact fresh_unlisted member
    · rw [list_eq]
      exact consistent.list_nodup
  · intro c unallocated
    rw [fresh] at unallocated
    rw [sockets, Function.update_of_ne (by omega)]
    exact consistent.unallocated c (by omega)
  · intro t c member
    rw [fresh]
    rcases disconnects t c member with before | ⟨rfl, _⟩
    · exact Nat.lt_succ_of_lt (consistent.registered t c before).1
    · exact Nat.lt_succ_self _
  · intro c q live_q
    rcases new_or_old c q live_q with ⟨rfl, rfl⟩ | ⟨different, live'⟩
    · refine ⟨ok, transport, fun t member => ?_, smart_id⟩
      rcases disconnects t _ member with before | ⟨_, remote, on_t⟩
      · exact absurd (consistent.registered t _ before).1 (Nat.lt_irrefl _)
      · exact ⟨remote, on_t⟩
    · obtain ⟨locals, remote_transport, registered, smart_id'⟩ := consistent.socketOk live'
      refine ⟨fun isLocal => (locals isLocal).mono (mem_list c) ?_, remote_transport,
        fun t member => ?_, smart_id'⟩
      · rw [closingList]
        exact id
      · rcases disconnects t c member with before | ⟨rfl, _⟩
        · exact registered t before
        · exact absurd rfl different
  · intro c q d live_q peer_q
    have live' := peered c q d live_q peer_q
    obtain ⟨p, live_p, symmetric, different, smart_peer, partner, unstreamed⟩ :=
      consistent.pairOk live' peer_q
    refine ⟨p, old d p live_p, symmetric, different, smart_peer, partner, ?_⟩
    rw [origin]
    · exact unstreamed
    · rintro rfl
      rw [absent] at live'
      cases live'

end Sockets
end AdbWide
