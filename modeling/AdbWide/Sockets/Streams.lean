import AdbWide.Sockets.Stream

/-!
# The streams of a server

A server whose packets all come from one transport keeps the ends of its streams in order as long as
its ids are not used again.  `Streaming` collects what holds of all its local sockets.  Most changes
make no new stream (`Plain`), and most of these touch one socket only (`Touch`).
-/

namespace AdbWide
namespace Sockets

namespace Server

/-- The packets given to the first transport. -/
def outbox (server : Server) : List Message :=
  server.sent.filterMap fun entry => if entry.1 = 0 then some entry.2 else none

/-- The packets received. -/
def inbox (server : Server) : List Message :=
  server.received.map Prod.snd

theorem outbox_append {server server' : Server} {extra : List (Nat × Message)}
    (sent : server'.sent = server.sent ++ extra) :
    server'.outbox = server.outbox ++
      extra.filterMap fun entry => if entry.1 = 0 then some entry.2 else none := by
  simp [outbox, sent]

end Server

/-! ## What holds of all streams -/

/-- The ids of the local sockets that were installed are different from each other. -/
structure Numbered (server : Server) : Prop where
  next : server.localSocketNextId = server.installs + 1
  le : ∀ a, (server.history a).id ≤ server.installs
  unique : ∀ a c, (server.history a).id ≠ 0 → (server.history a).id = (server.history c).id → a = c
  blank : ∀ a, (server.history a).id = 0 → server.history a = {}
  fresh : ∀ a, server.fresh ≤ a → (server.history a).id = 0
  installed : ∀ a s, server.sockets a = some s → s.kind = .localSocket →
    (server.history a).id ≠ 0 ∧ (s.closing = false → s.id = (server.history a).id)
  others : ∀ a s, server.sockets a = some s → s.kind ≠ .localSocket → (server.history a).id = 0

/-- The packets that were sent and received name sockets with streams. -/
structure Spoken (server : Server) : Prop where
  online : (server.transports 0).online = true
  remote : ∀ b r, server.sockets b = some r → r.kind = .remoteSocket →
    r.transport = some 0 ∧ ∀ a, r.peer = some a → (server.history a).mate = some r.id
  words : ∀ message ∈ server.outbox, message.IsStream → ∃ a,
    (server.history a).id = message.arg0 ∧ (server.history a).id ≠ 0 ∧
      (server.history a).mate = some message.arg1
  heard : ∀ message ∈ server.inbox, message.IsStream → ∃ a,
    (server.history a).id = message.arg1 ∧ (server.history a).id ≠ 0 ∧
      (server.history a).origin ≠ .none
  opens_nodup : (opens server.outbox).Nodup
  opens_own : ∀ id ∈ opens server.outbox, ∃ a,
    (server.history a).id = id ∧ (server.history a).id ≠ 0 ∧
      (server.history a).origin = .opened
  accepted_unique : ∀ a c, (server.history a).origin = .accepted →
    (server.history c).origin = .accepted →
      (server.history a).mate = (server.history c).mate → a = c

/-- A socket is served by its peer when the peer is not a smart socket. -/
def Served (server : Server) (s : Asocket) : Prop :=
  ∃ b r, s.peer = some b ∧ server.sockets b = some r ∧ r.kind ≠ .smartSocket

/-- Nothing is written to a new socket before it is served. -/
def Unwritten (server : Server) : Prop :=
  ∀ a s, server.sockets a = some s → s.kind = .localSocket → s.closing = false →
    (server.history a).origin = .none → ¬Served server s → (server.history a).output = []

/-- The streams are told apart. -/
structure Ordered (server : Server) : Prop where
  numbered : Numbered server
  spoken : Spoken server
  unwritten : Unwritten server

/-- All ends of streams are in order. -/
structure Streaming (server : Server) : Prop extends Ordered server where
  ends : ∀ a, StreamOk (server.history a) (server.sockets a) server.inbox server.outbox

/-! ## Changes that make no new stream -/

/-- A socket before and after a change. -/
structure Descends (s s' : Asocket) : Prop where
  kind : s'.kind = s.kind
  stillOpen : s'.closing = false → s.closing = false ∧ s'.id = s.id
  remote : s.kind = .remoteSocket → s'.id = s.id ∧ s'.transport = s.transport ∧ s'.peer = s.peer

theorem Descends.refl (s : Asocket) : Descends s s :=
  ⟨rfl, fun stillOpen => ⟨stillOpen, rfl⟩, fun _ => ⟨rfl, rfl, rfl⟩⟩

/-- No local or remote socket is made, no socket gets a mate, and the packets sent are those of
streams there are and streams that are opened. -/
structure Plain (server server' : Server) (extra : List Message) : Prop where
  fresh : server.fresh ≤ server'.fresh
  nextId : server'.localSocketNextId = server.localSocketNextId
  installs : server'.installs = server.installs
  online : (server'.transports 0).online = (server.transports 0).online
  received : server'.received = server.received
  outbox : server'.outbox = server.outbox ++ extra
  id : ∀ c, (server'.history c).id = (server.history c).id
  mate : ∀ c, (server'.history c).mate = (server.history c).mate
  origin : ∀ c, (server'.history c).origin = (server.history c).origin ∨
    (server.history c).origin = .none ∧ (server'.history c).origin = .opened
  blank : ∀ c, (server.history c).id = 0 → server'.history c = server.history c
  descends : ∀ c s', server'.sockets c = some s' →
    (∃ s, server.sockets c = some s ∧ Descends s s') ∨
      server.fresh ≤ c ∧ s'.kind ≠ .localSocket ∧ s'.kind ≠ .remoteSocket
  words : ∀ message ∈ extra, message.IsStream → ∃ a,
    (server.history a).id = message.arg0 ∧ (server.history a).id ≠ 0 ∧
      (server.history a).mate = some message.arg1
  opens_nodup : (opens extra).Nodup
  opens_own : ∀ id ∈ opens extra, ∃ a,
    (server.history a).id = id ∧ (server.history a).id ≠ 0 ∧
      (server.history a).origin = .none ∧ (server'.history a).origin = .opened

theorem Plain.inbox {server server' : Server} {extra : List Message}
    (plain : Plain server server' extra) : server'.inbox = server.inbox := by
  simp [Server.inbox, plain.received]

theorem Plain.origin_of_some {server server' : Server} {extra : List Message}
    (plain : Plain server server' extra) {c : Nat}
    (some_origin : (server.history c).origin ≠ .none) :
    (server'.history c).origin = (server.history c).origin := by
  rcases plain.origin c with same | ⟨none_before, _⟩
  · exact same
  · exact absurd none_before some_origin

theorem Plain.numbered {server server' : Server} {extra : List Message}
    (plain : Plain server server' extra) (numbered : Numbered server) : Numbered server' where
  next := by rw [plain.nextId, plain.installs, numbered.next]
  le := by
    intro a
    rw [plain.id, plain.installs]
    exact numbered.le a
  unique := by
    intro a c nonzero same
    rw [plain.id] at nonzero same
    rw [plain.id] at same
    exact numbered.unique a c nonzero same
  blank := by
    intro a zero
    rw [plain.id] at zero
    rw [plain.blank a zero]
    exact numbered.blank a zero
  fresh := by
    intro a unallocated
    rw [plain.id]
    exact numbered.fresh a (Nat.le_trans plain.fresh unallocated)
  installed := by
    intro a s' live' isLocal
    rw [plain.id]
    rcases plain.descends a s' live' with ⟨s, live, descends⟩ | ⟨_, other, _⟩
    · obtain ⟨nonzero, same⟩ := numbered.installed a s live (descends.kind.symm.trans isLocal)
      refine ⟨nonzero, fun stillOpen => ?_⟩
      obtain ⟨stillOpen', id_eq⟩ := descends.stillOpen stillOpen
      rw [id_eq, same stillOpen']
    · exact absurd isLocal other
  others := by
    intro a s' live' other
    rw [plain.id]
    rcases plain.descends a s' live' with ⟨s, live, descends⟩ | ⟨unallocated, _⟩
    · exact numbered.others a s live (by rwa [← descends.kind])
    · exact numbered.fresh a unallocated

theorem Plain.spoken {server server' : Server} {extra : List Message}
    (plain : Plain server server' extra) (numbered : Numbered server) (spoken : Spoken server) :
    Spoken server' where
  online := plain.online.trans spoken.online
  remote := by
    intro b r' live' remote
    rcases plain.descends b r' live' with ⟨r, live, descends⟩ | ⟨_, _, other⟩
    · have remote' := descends.kind.symm.trans remote
      obtain ⟨on, mated⟩ := spoken.remote b r live remote'
      obtain ⟨id_eq, transport_eq, peer_eq⟩ := descends.remote remote'
      refine ⟨transport_eq.trans on, fun a peer => ?_⟩
      rw [plain.mate, id_eq]
      exact mated a (peer_eq ▸ peer)
    · exact absurd remote other
  words := by
    intro message member isStream
    rw [plain.outbox, List.mem_append] at member
    have speaker := member.elim (fun earlier => spoken.words message earlier isStream)
      fun latest => plain.words message latest isStream
    obtain ⟨a, id_eq, nonzero, mate_eq⟩ := speaker
    exact ⟨a, by rw [plain.id, id_eq], by rwa [plain.id], by rw [plain.mate, mate_eq]⟩
  heard := by
    intro message member isStream
    rw [plain.inbox] at member
    obtain ⟨a, id_eq, nonzero, origin⟩ := spoken.heard message member isStream
    exact ⟨a, by rw [plain.id, id_eq], by rwa [plain.id], by rwa [plain.origin_of_some origin]⟩
  opens_nodup := by
    rw [plain.outbox, opens_append, List.nodup_append]
    refine ⟨spoken.opens_nodup, plain.opens_nodup, ?_⟩
    rintro id earlier id' latest rfl
    obtain ⟨a, id_eq, nonzero, origin⟩ := spoken.opens_own id earlier
    obtain ⟨c, id_eq', _, origin', _⟩ := plain.opens_own id latest
    have same := numbered.unique a c nonzero (id_eq.trans id_eq'.symm)
    rw [same, origin'] at origin
    cases origin
  opens_own := by
    intro id member
    rw [plain.outbox, opens_append, List.mem_append] at member
    rcases member with earlier | latest
    · obtain ⟨a, id_eq, nonzero, origin⟩ := spoken.opens_own id earlier
      refine ⟨a, by rw [plain.id, id_eq], by rwa [plain.id], ?_⟩
      rw [plain.origin_of_some (by simp [origin]), origin]
    · obtain ⟨a, id_eq, nonzero, _, origin⟩ := plain.opens_own id latest
      exact ⟨a, by rw [plain.id, id_eq], by rwa [plain.id], origin⟩
  accepted_unique := by
    intro a c accepted accepted' same
    have before : ∀ d, (server'.history d).origin = .accepted →
        (server.history d).origin = .accepted := by
      intro d accepted
      rcases plain.origin d with same | ⟨_, opened⟩
      · rw [← same, accepted]
      · rw [opened] at accepted
        cases accepted
    rw [plain.mate, plain.mate] at same
    exact spoken.accepted_unique a c (before a accepted) (before c accepted') same

/-- A local socket that stays without a stream is served after the change, or has the peer it had
and nothing new written to it. -/
def Steady (server server' : Server) : Prop :=
  ∀ c s s', server.sockets c = some s → server'.sockets c = some s' → s.kind = .localSocket →
    s'.closing = false → (server.history c).origin = .none → (server'.history c).origin = .none →
      Served server' s' ∨
        (s'.peer = s.peer ∨ s.peer = none) ∧
          (server'.history c).output = (server.history c).output

/-- A socket that is not served after the change was not served before it. -/
theorem Plain.unwritten {server server' : Server} {extra : List Message}
    (plain : Plain server server' extra) (consistent : Consistent server)
    (consistent' : Consistent server') (unwritten : Unwritten server)
    (steady : Steady server server') : Unwritten server' := by
  intro c s' live' isLocal stillOpen origin' unserved'
  have origin : (server.history c).origin = .none := by
    rcases plain.origin c with same | ⟨none_before, _⟩
    · rw [← same, origin']
    · exact none_before
  rcases plain.descends c s' live' with ⟨s, live, descends⟩ | ⟨_, other, _⟩
  · have isLocal' := descends.kind.symm.trans isLocal
    rcases steady c s s' live live' isLocal' stillOpen origin origin' with
      served | ⟨peer, output⟩
    · exact absurd served unserved'
    · rw [output]
      refine unwritten c s live isLocal' (descends.stillOpen stillOpen).1 origin ?_
      rintro ⟨b, r, peer_b, live_b, other⟩
      rcases peer with same | unpeered
      · rw [← same] at peer_b
        obtain ⟨r', live_b', _⟩ := consistent'.symmetric c s' b live' peer_b
        refine unserved' ⟨b, r', peer_b, live_b', ?_⟩
        rcases plain.descends b r' live_b' with ⟨r'', live_b'', descends_b⟩ | ⟨unallocated, _⟩
        · rw [live_b] at live_b''
          cases live_b''
          rwa [descends_b.kind]
        · rw [consistent.unallocated b unallocated] at live_b
          cases live_b
      · rw [unpeered] at peer_b
        cases peer_b
  · exact absurd isLocal other

theorem Plain.ordered {server server' : Server} {extra : List Message}
    (plain : Plain server server' extra) (consistent : Consistent server)
    (consistent' : Consistent server') (ordered : Ordered server)
    (steady : Steady server server') : Ordered server' :=
  ⟨plain.numbered ordered.numbered, plain.spoken ordered.numbered ordered.spoken,
    plain.unwritten consistent consistent' ordered.unwritten steady⟩

/-! ## One socket is touched -/

/-- One socket changes, with what has become of it, and sends packets of its stream. -/
structure Touch (server server' : Server) (a : Nat) (s s' : Asocket) (h' : History)
    (extra : List Message) : Prop where
  live : server.sockets a = some s
  sockets : server'.sockets = Function.update server.sockets a (some s')
  history : server'.history = Function.update server.history a h'
  outbox : server'.outbox = server.outbox ++ extra
  received : server'.received = server.received
  fresh : server'.fresh = server.fresh
  nextId : server'.localSocketNextId = server.localSocketNextId
  installs : server'.installs = server.installs
  online : (server'.transports 0).online = (server.transports 0).online
  kind : s'.kind = s.kind
  id : s'.id = s.id
  closing : s'.closing = s.closing
  peer : s'.peer = s.peer
  transport : s.kind = .remoteSocket → s'.transport = s.transport
  lineage : h'.id = (server.history a).id ∧ h'.origin = (server.history a).origin ∧
    h'.mate = (server.history a).mate
  blank : (server.history a).id = 0 → h' = server.history a
  words : ∀ message ∈ extra, message.IsStream ∧ message.arg0 = (server.history a).id ∧
    (server.history a).id ≠ 0 ∧ (server.history a).mate = some message.arg1

theorem Touch.of {server server' : Server} {a : Nat} {s s' : Asocket} {h' : History}
    {extra : List Message} (live : server.sockets a = some s)
    (sockets : server'.sockets = Function.update server.sockets a (some s'))
    (history : server'.history = Function.update server.history a h')
    (outbox : server'.outbox = server.outbox ++ extra)
    (rest : (server'.received, server'.fresh, server'.localSocketNextId, server'.installs,
        (server'.transports 0).online) =
      (server.received, server.fresh, server.localSocketNextId, server.installs,
        (server.transports 0).online))
    (shape : (s'.kind, s'.id, s'.closing, s'.peer, s'.transport) =
      (s.kind, s.id, s.closing, s.peer, s.transport))
    (lineage : (h'.id, h'.origin, h'.mate) =
      ((server.history a).id, (server.history a).origin, (server.history a).mate))
    (blank : (server.history a).id = 0 → h' = server.history a)
    (words : ∀ message ∈ extra, message.IsStream ∧ message.arg0 = (server.history a).id ∧
      (server.history a).id ≠ 0 ∧ (server.history a).mate = some message.arg1) :
    Touch server server' a s s' h' extra := by
  simp only [Prod.mk.injEq] at rest shape lineage
  obtain ⟨received, fresh, nextId, installs, online⟩ := rest
  obtain ⟨kind, id, closing, peer, transport⟩ := shape
  exact ⟨live, sockets, history, outbox, received, fresh, nextId, installs, online, kind, id,
    closing, peer, fun _ => transport, lineage, blank, words⟩

theorem Touch.history_of_ne {server server' : Server} {a c : Nat} {s s' : Asocket} {h' : History}
    {extra : List Message} (touch : Touch server server' a s s' h' extra) (different : c ≠ a) :
    server'.history c = server.history c := by
  rw [touch.history, Function.update_of_ne different]

theorem Touch.history_self {server server' : Server} {a : Nat} {s s' : Asocket} {h' : History}
    {extra : List Message} (touch : Touch server server' a s s' h' extra) :
    server'.history a = h' := by
  rw [touch.history, Function.update_self]

theorem opens_of_stream {extra : List Message} (stream : ∀ message ∈ extra, message.IsStream) :
    opens extra = [] := by
  rw [opens, List.map_eq_nil_iff, List.filter_eq_nil_iff]
  intro message member isOpen
  simp only [decide_eq_true_eq] at isOpen
  rcases stream message member with okay | wrte
  · rw [isOpen] at okay
    cases okay
  · rw [isOpen] at wrte
    cases wrte

theorem Touch.plain {server server' : Server} {a : Nat} {s s' : Asocket} {h' : History}
    {extra : List Message} (touch : Touch server server' a s s' h' extra) :
    Plain server server' extra := by
  have no_opens : opens extra = [] :=
    opens_of_stream fun message member => (touch.words message member).1
  refine ⟨Nat.le_of_eq touch.fresh.symm, touch.nextId, touch.installs, touch.online, touch.received,
    touch.outbox, ?_, ?_, ?_, ?_, ?_, ?_, by simp [no_opens], by simp [no_opens]⟩
  · intro c
    rcases eq_or_ne c a with rfl | different
    · rw [touch.history_self, touch.lineage.1]
    · rw [touch.history_of_ne different]
  · intro c
    rcases eq_or_ne c a with rfl | different
    · rw [touch.history_self, touch.lineage.2.2]
    · rw [touch.history_of_ne different]
  · intro c
    rcases eq_or_ne c a with rfl | different
    · exact .inl (by rw [touch.history_self, touch.lineage.2.1])
    · exact .inl (by rw [touch.history_of_ne different])
  · intro c zero
    rcases eq_or_ne c a with rfl | different
    · rw [touch.history_self, touch.blank zero]
    · rw [touch.history_of_ne different]
  · intro c q live_q
    rw [touch.sockets] at live_q
    rcases eq_or_ne c a with rfl | different
    · rw [Function.update_self] at live_q
      cases live_q
      exact .inl ⟨s, touch.live, touch.kind, fun stillOpen =>
        ⟨touch.closing ▸ stillOpen, touch.id⟩, fun remote =>
          ⟨touch.id, touch.transport remote, touch.peer⟩⟩
    · rw [Function.update_of_ne different] at live_q
      exact .inl ⟨q, live_q, .refl q⟩
  · intro message member _
    obtain ⟨_, sender, nonzero, mated⟩ := touch.words message member
    exact ⟨a, sender.symm, nonzero, mated⟩

theorem Ordered.touch {server server' : Server} {a : Nat} {s s' : Asocket} {h' : History}
    {extra : List Message} (ordered : Ordered server) (consistent : Consistent server)
    (consistent' : Consistent server') (touch : Touch server server' a s s' h' extra)
    (written : s.kind = .localSocket → s'.closing = false →
      (server.history a).origin = .none →
        Served server s ∨ h'.output = (server.history a).output) : Ordered server' := by
  refine touch.plain.ordered consistent consistent' ordered ?_
  intro c q q' live_q live_q' isLocal stillOpen origin _
  rw [touch.sockets] at live_q'
  rcases eq_or_ne c a with rfl | different
  · rw [Function.update_self] at live_q'
    cases live_q'
    rw [touch.live] at live_q
    cases live_q
    rcases written isLocal stillOpen origin with ⟨b, r, peer, live_b, other⟩ | output
    · refine .inl ⟨b, r, by rw [touch.peer, peer], ?_, other⟩
      rw [touch.sockets, Function.update_of_ne (consistent.ne_peer touch.live peer).symm, live_b]
    · exact .inr ⟨.inl touch.peer, by rw [touch.history_self, output]⟩
  · rw [Function.update_of_ne different, live_q] at live_q'
    cases live_q'
    exact .inr ⟨.inl rfl, by rw [touch.history_of_ne different]⟩

/-- The packets of the touched socket are not those of another. -/
theorem Touch.silent {server server' : Server} {a c : Nat} {s s' : Asocket} {h' : History}
    {extra : List Message} (touch : Touch server server' a s s' h' extra)
    (numbered : Numbered server) (different : c ≠ a) : Silent (server.history c).id extra := by
  intro message member _ same
  obtain ⟨_, sender, nonzero, _⟩ := touch.words message member
  exact different (numbered.unique a c nonzero (sender.symm.trans same)).symm

theorem Ordered.streaming_of_touch {server server' : Server} {a : Nat} {s : Asocket}
    (ordered : Ordered server) (s' : Asocket) (h' : History) (extra : List Message)
    (consistent : Consistent server) (consistent' : Consistent server')
    (touch : Touch server server' a s s' h' extra)
    (others : ∀ c, c ≠ a →
      StreamOk (server.history c) (server.sockets c) server.inbox server.outbox)
    (ok : StreamOk h' (some s') server.inbox (server.outbox ++ extra))
    (written : s.kind = .localSocket → s'.closing = false →
      (server.history a).origin = .none →
        Served server s ∨ h'.output = (server.history a).output) :
    Streaming server' := by
  refine ⟨ordered.touch consistent consistent' touch written, ?_⟩
  intro c
  rw [touch.plain.inbox, touch.plain.outbox, touch.sockets]
  rcases eq_or_ne c a with rfl | different
  · rw [touch.history_self, Function.update_self]
    exact ok
  · rw [touch.history_of_ne different, Function.update_of_ne different]
    exact (others c different).frame (.refl _) (touch.silent ordered.numbered different)

theorem Streaming.touch {server server' : Server} {a : Nat} {s : Asocket}
    (streaming : Streaming server) (s' : Asocket) (h' : History) (extra : List Message)
    (consistent : Consistent server) (consistent' : Consistent server')
    (touch : Touch server server' a s s' h' extra)
    (ok : StreamOk h' (some s') server.inbox (server.outbox ++ extra))
    (written : s.kind = .localSocket → s'.closing = false →
      (server.history a).origin = .none →
        Served server s ∨ h'.output = (server.history a).output) :
    Streaming server' :=
  streaming.toOrdered.streaming_of_touch s' h' extra consistent consistent' touch
    (fun c _ => streaming.ends c) ok written

end Sockets
end AdbWide
