import AdbWide.Sockets.Streams

/-!
# Effects on streams

Every effect of the socket layer keeps the streams of a server in order.
-/

namespace AdbWide
namespace Sockets

/-! ## Effects on one socket -/

section Touched

variable {server : Server} {a : Nat} {s : Asocket}

theorem Streaming.mate_of_none (streaming : Streaming server)
    (origin : (server.history a).origin = .none) : (server.history a).mate = none := by
  by_contra mated
  exact (streaming.ends a).mated mated origin

/-- A local socket whose peer is a remote socket is an end of a stream. -/
theorem Ordered.mate_of_remote (ordered : Ordered server) (consistent : Consistent server)
    {b : Nat} {r : Asocket} (live : server.sockets a = some s) (isLocal : s.kind = .localSocket)
    (peer : s.peer = some b) (live_b : server.sockets b = some r)
    (remote : r.kind = .remoteSocket) :
    (server.history a).mate = some r.id ∧ r.transport = some 0 ∧
      s.id = (server.history a).id ∧ (server.history a).id ≠ 0 := by
  obtain ⟨r', live_b', peer_b⟩ := consistent.symmetric a s b live peer
  rw [live_b] at live_b'
  cases live_b'
  obtain ⟨on, mated⟩ := ordered.spoken.remote b r live_b remote
  obtain ⟨nonzero, same⟩ := ordered.numbered.installed a s live isLocal
  have stillOpen := (consistent.locals a s live isLocal).stillOpen_of_peer peer
  exact ⟨mated a peer_b, on, same stillOpen, nonzero⟩

/-- A socket with packets is served. -/
theorem served_of_packets (consistent : Consistent server) (live : server.sockets a = some s)
    (isLocal : s.kind = .localSocket) (stillOpen : s.closing = false)
    (queued : s.queue.first ≠ none) : Served server s := by
  obtain ⟨b, peer⟩ := Option.ne_none_iff_exists'.mp
    ((consistent.locals a s live isLocal).owned stillOpen queued)
  obtain ⟨r, live_b, peer_b⟩ := consistent.symmetric a s b live peer
  refine ⟨b, r, peer, live_b, fun smart => queued ?_⟩
  exact consistent.smart_peer b r a s live_b smart peer_b live

theorem Streaming.adjust (streaming : Streaming server) (consistent : Consistent server)
    {change : Asocket → Asocket} (live : server.sockets a = some s)
    (adjusts : Adjusts s (change s)) : Streaming (server.modify a change) := by
  have ok := streaming.ends a
  rw [live] at ok
  refine streaming.touch (a := a) (s := s) (change s) (server.history a) [] consistent
    (consistent.effect (.adjust a change live adjusts)) ?_ ?_ fun _ _ _ => .inr rfl
  · exact
      ⟨live, Server.sockets_modify live, by simp [Server.modify],
        by simp [Server.outbox, Server.modify], rfl, rfl, rfl, rfl, rfl, adjusts.kind, adjusts.id,
        adjusts.closing, adjusts.peer, adjusts.transport, ⟨rfl, rfl, rfl⟩, fun _ => rfl, by simp⟩
  · exact ok.frame (.goesOn adjusts.closing adjusts.peer adjusts.queue adjusts.wantRead)
      (by simp [Silent])

/-- A change to a local socket that has no stream. -/
theorem Streaming.touch_idle {server' : Server} (streaming : Streaming server) (s' : Asocket)
    (h' : History) (consistent : Consistent server) (consistent' : Consistent server')
    (touch : Touch server server' a s s' h' []) (origin : (server.history a).origin = .none)
    (written : s'.closing = false → Served server s ∨ h'.output = (server.history a).output) :
    Streaming server' := by
  refine streaming.touch (a := a) (s := s) s' h' [] consistent consistent' touch ?_
    fun _ stillOpen _ => written stillOpen
  apply streamOk_of_none
  · rw [touch.lineage.2.1, origin]
  · rw [touch.lineage.2.2, streaming.mate_of_none origin]

theorem Streaming.wake {b : Nat} (streaming : Streaming server) (consistent : Consistent server)
    (live : server.sockets a = some s) (isLocal : s.kind = .localSocket) (peer : s.peer = some b)
    (origin : (server.history a).origin = .none) :
    Streaming (server.modify a fun s => { s with wantRead := true }) := by
  refine streaming.touch_idle (a := a) (s := s) { s with wantRead := true } (server.history a)
    consistent
    (consistent.effect (.wake a live isLocal peer origin)) ?_ origin fun _ => .inr rfl
  exact
    .of live (Server.sockets_modify live) (by simp [Server.modify])
      (by simp [Server.outbox, Server.modify]) rfl rfl rfl (fun _ => rfl) (by simp)

theorem Streaming.writeOutput {b : Nat} {r : Asocket} (streaming : Streaming server)
    (consistent : Consistent server) (live : server.sockets a = some s)
    (isLocal : s.kind = .localSocket) (peer : s.peer = some b)
    (live_b : server.sockets b = some r) (other : r.kind ≠ .smartSocket)
    (origin : (server.history a).origin = .none) (bytes : List UInt8) :
    Streaming (server.recordOutput a bytes) := by
  have nonzero := (streaming.numbered.installed a s live isLocal).1
  refine streaming.touch_idle (a := a) (s := s) s
    { server.history a with output := (server.history a).output ++ bytes } consistent
    (consistent.effect (.output a bytes live isLocal peer live_b other origin)) ?_ origin
    fun _ => .inl ⟨b, r, peer, live_b, other⟩
  exact
    .of live (by simp [Server.recordOutput, Server.record, ← live]) rfl
      (by simp [Server.outbox, Server.recordOutput, Server.record]) rfl rfl rfl
      (fun zero => absurd zero nonzero) (by simp)

theorem Streaming.readInput (streaming : Streaming server) (consistent : Consistent server)
    (live : server.sockets a = some s) (isLocal : s.kind = .localSocket)
    (origin : (server.history a).origin = .none) (bytes : List UInt8) :
    Streaming (server.record a fun h => { h with input := h.input ++ bytes }) := by
  have nonzero := (streaming.numbered.installed a s live isLocal).1
  refine streaming.touch_idle (a := a) (s := s) s
    { server.history a with input := (server.history a).input ++ bytes } consistent
    (consistent.effect (.input a bytes live isLocal origin)) ?_ origin fun _ => .inr rfl
  exact
    .of live (by simp [Server.record, ← live]) rfl (by simp [Server.outbox, Server.record]) rfl rfl
      rfl (fun zero => absurd zero nonzero) (by simp)

theorem Streaming.push {b : Nat} {r : Asocket} (streaming : Streaming server)
    (consistent : Consistent server) (live : server.sockets a = some s)
    (isLocal : s.kind = .localSocket) (peer : s.peer = some b)
    (live_b : server.sockets b = some r) (other : r.kind ≠ .smartSocket)
    (origin : (server.history a).origin = .none) (packet : List UInt8) :
    Streaming (server.enqueuePacket a packet) := by
  refine streaming.touch_idle (a := a) (s := s)
    { s with queue := s.queue.push packet, wantWrite := true }
    (server.history a) consistent
    (consistent.effect (.push a packet live isLocal peer live_b other origin)) ?_ origin
    fun _ => .inr rfl
  exact
    .of live (Server.sockets_modify live) (by simp [Server.enqueuePacket, Server.modify])
      (by simp [Server.outbox, Server.enqueuePacket, Server.modify]) rfl rfl rfl (fun _ => rfl)
      (by simp)

theorem Streaming.drainSome {queue : LinkedQueue (List UInt8)}
    {packets packets' : List (List UInt8)} {bytes : List UInt8} (streaming : Streaming server)
    (consistent : Consistent server) (live : server.sockets a = some s)
    (isLocal : s.kind = .localSocket) (before : s.queue.Represents packets)
    (after : queue.Represents packets') (nonempty : packets ≠ []) (nonempty' : packets' ≠ [])
    (flat : packets.flatten = bytes ++ packets'.flatten) :
    Streaming ((server.modify a fun s => { s with queue }).recordOutput a bytes) := by
  have nonzero := (streaming.numbered.installed a s live isLocal).1
  have queued : s.queue.first ≠ none := by simp [before.first_eq_none_iff, nonempty]
  have ok := streaming.ends a
  rw [live] at ok
  refine streaming.touch (a := a) (s := s) { s with queue }
    { server.history a with output := (server.history a).output ++ bytes } [] consistent
    (consistent.effect (.drainSome a queue bytes live isLocal before after nonempty nonempty' flat))
    ?_ ?_ fun _ stillOpen _ => .inl (served_of_packets consistent live isLocal stillOpen queued)
  · exact
      .of live (Server.sockets_modify live) rfl
        (by simp [Server.outbox, Server.modify, Server.recordOutput, Server.record]) rfl rfl rfl
        (fun zero => absurd zero nonzero) (by simp)
  · rw [List.append_nil]
    exact ok.drain before after nonempty flat

theorem Streaming.drainAll {b : Nat} {r : Asocket} {queue : LinkedQueue (List UInt8)}
    {packets : List (List UInt8)} (streaming : Streaming server)
    (consistent : Consistent server) (live : server.sockets a = some s)
    (isLocal : s.kind = .localSocket) (peer : s.peer = some b)
    (live_b : server.sockets b = some r) (not_remote : r.kind ≠ .remoteSocket)
    (before : s.queue.Represents packets) (after : queue.Represents []) :
    Streaming ((server.modify a fun s => { s with queue, wantWrite := false }).recordOutput a
      packets.flatten) := by
  have nonzero := (streaming.numbered.installed a s live isLocal).1
  have origin := consistent.unstreamed a s b r live isLocal peer live_b not_remote
  have stillOpen := (consistent.locals a s live isLocal).stillOpen_of_peer peer
  refine streaming.touch_idle (a := a) (s := s) { s with queue, wantWrite := false }
    { server.history a with output := (server.history a).output ++ packets.flatten } consistent
    (consistent.effect (.drainAll a queue live isLocal peer live_b not_remote before after)) ?_
    origin fun _ => ?_
  · exact
      .of live (Server.sockets_modify live) rfl
        (by simp [Server.outbox, Server.modify, Server.recordOutput, Server.record]) rfl rfl rfl
        (fun zero => absurd zero nonzero) (by simp)
  · cases packets with
    | nil => exact .inr (by simp)
    | cons packet packets =>
        have queued : s.queue.first ≠ none := by simp [before.first_eq_none_iff]
        exact .inl (served_of_packets consistent live isLocal stillOpen queued)

theorem Streaming.drainAnswer {b transport : Nat} {r : Asocket}
    {queue : LinkedQueue (List UInt8)} {packets : List (List UInt8)}
    (streaming : Streaming server) (consistent : Consistent server)
    (live : server.sockets a = some s) (isLocal : s.kind = .localSocket) (peer : s.peer = some b)
    (live_b : server.sockets b = some r) (remote : r.kind = .remoteSocket)
    (on : r.transport = some transport) (before : s.queue.Represents packets)
    (nonempty : packets ≠ []) (after : queue.Represents []) :
    Streaming (((server.modify a fun s => { s with queue, wantWrite := false }).recordOutput a
      packets.flatten).sendPacket transport ⟨.okay, s.id, r.id, []⟩) := by
  obtain ⟨mated, on', id_eq, nonzero⟩ :=
    streaming.toOrdered.mate_of_remote consistent live isLocal peer live_b remote
  rw [on] at on'
  cases on'
  have ok := streaming.ends a
  rw [live] at ok
  refine streaming.touch (a := a) (s := s) { s with queue, wantWrite := false }
    { server.history a with output := (server.history a).output ++ packets.flatten }
    [⟨.okay, (server.history a).id, r.id, []⟩] consistent
    (consistent.effect (.drainAnswer a queue live isLocal peer live_b remote on before nonempty
      after)) ?_ (ok.answer mated before after nonempty) fun _ _ origin => ?_
  · exact
      .of live (Server.sockets_modify live) rfl
        (by
          simp [Server.outbox, Server.modify, Server.recordOutput, Server.record,
            Server.sendPacket, id_eq])
        rfl rfl rfl (fun zero => absurd zero nonzero) (by simp [Message.IsStream, mated, nonzero])
  · rw [streaming.mate_of_none origin] at mated
    cases mated

theorem Streaming.readSend {b transport : Nat} {r : Asocket} (streaming : Streaming server)
    (consistent : Consistent server) (live : server.sockets a = some s)
    (isLocal : s.kind = .localSocket) (peer : s.peer = some b)
    (live_b : server.sockets b = some r) (remote : r.kind = .remoteSocket)
    (on : r.transport = some transport) (reads : s.wantRead = true) (bytes : List UInt8) :
    Streaming (((server.record a fun h => { h with input := h.input ++ bytes }).sendPacket
      transport ⟨.wrte, s.id, r.id, bytes⟩).modify a fun s => { s with wantRead := false }) := by
  obtain ⟨mated, on', id_eq, nonzero⟩ :=
    streaming.toOrdered.mate_of_remote consistent live isLocal peer live_b remote
  rw [on] at on'
  cases on'
  have ok := streaming.ends a
  rw [live] at ok
  refine streaming.touch (a := a) (s := s) { s with wantRead := false }
    { server.history a with input := (server.history a).input ++ bytes }
    [⟨.wrte, (server.history a).id, r.id, bytes⟩] consistent
    (consistent.effect (.readSend a bytes live isLocal peer live_b remote on reads)) ?_
    (ok.read mated reads bytes) fun _ _ _ => .inr rfl
  exact
    .of live (Server.sockets_modify live) rfl
      (by simp [Server.outbox, Server.modify, Server.record, Server.sendPacket, id_eq]) rfl rfl rfl
      (fun zero => absurd zero nonzero) (by simp [Message.IsStream, mated, nonzero])

end Touched

/-! ## Effects on other sockets -/

/-- Sockets without streams are changed, others come to their ends, and no packet of a stream is
sent. -/
theorem Streaming.rewire {server server' : Server} (streaming : Streaming server)
    (extra : List Message) (consistent : Consistent server)
    (consistent' : Consistent server') (plain : Plain server server' extra)
    (history : server'.history = server.history)
    (quiet : ∀ message ∈ extra, ¬message.IsStream)
    (changed : ∀ c, Milder (server.sockets c) (server'.sockets c) ∨
      (server.history c).origin = .none)
    (steady : ∀ c s s', server.sockets c = some s → server'.sockets c = some s' →
      s.kind = .localSocket → s'.closing = false → (server.history c).origin = .none →
        Served server' s' ∨ s'.peer = s.peer ∨ s.peer = none) :
    Streaming server' := by
  refine ⟨plain.ordered consistent consistent' streaming.toOrdered ?_, ?_⟩
  · intro c s s' live live' isLocal stillOpen origin _
    rcases steady c s s' live live' isLocal stillOpen origin with served | peer
    · exact .inl served
    · exact .inr ⟨peer, by rw [history]⟩
  · intro c
    rw [plain.inbox, plain.outbox, history]
    rcases changed c with milder | origin
    · exact (streaming.ends c).frame milder fun message member isStream =>
        absurd isStream (quiet message member)
    · exact streamOk_of_none origin (streaming.mate_of_none origin)

theorem Streaming.quiet {server server' : Server} (streaming : Streaming server)
    (consistent : Consistent server) (same : SameTraffic server server') : Streaming server' := by
  refine streaming.rewire [] consistent (consistent.congr same.sameSockets) ?_
    same.history (by simp) (fun c => .inl (by rw [same.sockets]; exact .refl _)) ?_
  · refine ⟨Nat.le_of_eq same.fresh.symm, same.nextId, same.installs, same.online 0, same.received,
      by simp [Server.outbox, same.sent], by simp [same.history], by simp [same.history],
      by simp [same.history], by simp [same.history], ?_, by simp, by simp [opens],
      by simp [opens]⟩
    intro c s live
    rw [same.sockets] at live
    exact .inl ⟨s, live, .refl s⟩
  · intro c s s' live live' _ _ _
    rw [same.sockets, live] at live'
    cases live'
    exact .inr (.inl rfl)

theorem Ended.milder {before after : Option Asocket} (ended : Ended before after) :
    Milder before after := by
  cases ended with
  | freed => exact .gone
  | lingers _ _ queued => exact .lingers rfl rfl rfl queued

theorem Closes.descends {server server' : Server} {gone : Nat → Prop}
    (closes : Closes server server' gone) {c : Nat} {s' : Asocket}
    (live' : server'.sockets c = some s') : ∃ s, server.sockets c = some s ∧ Descends s s' := by
  by_cases left : gone c
  · have ended := closes.ended c left
    rw [live'] at ended
    obtain ⟨s, live, isLocal, _, _, rfl⟩ := ended.lingering
    exact ⟨s, live, rfl, by simp, by simp [isLocal]⟩
  · rw [closes.others c left] at live'
    exact ⟨s', live', .refl s'⟩

theorem Closes.plain {server server' : Server} {gone : Nat → Prop}
    (closes : Closes server server' gone) :
    ∃ extra, Plain server server' extra ∧ ∀ message ∈ extra, ¬message.IsStream := by
  obtain ⟨sent, sent_eq, are_closes⟩ := closes.sent
  have only_closes : ∀ message ∈ sent.filterMap
      (fun entry => if entry.1 = 0 then some entry.2 else none), message.command = .clse := by
    intro message member
    obtain ⟨entry, inside, found⟩ := List.mem_filterMap.mp member
    split at found
    · cases found
      exact are_closes entry inside
    · cases found
  have no_opens : opens (sent.filterMap
      fun entry => if entry.1 = 0 then some entry.2 else none) = [] := by
    rw [opens, List.map_eq_nil_iff, List.filter_eq_nil_iff]
    intro message member
    simp [only_closes message member]
  refine ⟨_, ⟨Nat.le_of_eq closes.fresh.symm, closes.nextId, closes.installs, closes.online 0,
    closes.received, Server.outbox_append sent_eq, by simp [closes.history],
    by simp [closes.history], by simp [closes.history], by simp [closes.history],
    fun c s' live' => .inl (closes.descends live'), ?_, by simp [no_opens],
    by simp [no_opens]⟩, ?_⟩
  · intro message member isStream
    simp [Message.IsStream, only_closes message member] at isStream
  · intro message member isStream
    simp [Message.IsStream, only_closes message member] at isStream

theorem Closes.milder {server server' : Server} {gone : Nat → Prop}
    (closes : Closes server server' gone) (c : Nat) :
    Milder (server.sockets c) (server'.sockets c) := by
  by_cases left : gone c
  · exact (closes.ended c left).milder
  · rw [closes.others c left]
    exact .refl _

theorem Closes.steady {server server' : Server} {gone : Nat → Prop}
    (closes : Closes server server' gone) {c : Nat} {s s' : Asocket}
    (live : server.sockets c = some s) (live' : server'.sockets c = some s')
    (stillOpen : s'.closing = false) : s'.peer = s.peer := by
  by_cases left : gone c
  · have ended := closes.ended c left
    rw [live'] at ended
    obtain ⟨_, _, _, _, _, rfl⟩ := ended.lingering
    cases stillOpen
  · rw [closes.others c left, live] at live'
    cases live'
    rfl

theorem Streaming.closes {server server' : Server} {gone : Nat → Prop}
    (streaming : Streaming server) (consistent : Consistent server)
    (closes : Closes server server' gone) : Streaming server' := by
  obtain ⟨extra, plain, quiet⟩ := closes.plain
  exact streaming.rewire extra consistent (consistent.closes closes) plain closes.history quiet
    (fun c => .inl (closes.milder c))
    fun c s s' live live' _ stillOpen _ => .inr (.inl (closes.steady live live' stillOpen))

theorem Streaming.createOther {server : Server} {s : Asocket} (streaming : Streaming server)
    (consistent : Consistent server) (not_local : s.kind ≠ .localSocket)
    (not_remote : s.kind ≠ .remoteSocket) (unpeered : s.peer = none) (zero : s.id = 0) :
    Streaming (server.createOther s) := by
  have absent := consistent.unallocated server.fresh (Nat.le_refl _)
  have blank := streaming.numbered.blank server.fresh
    (streaming.numbered.fresh server.fresh (Nat.le_refl _))
  refine streaming.rewire [] consistent
    (consistent.effect (.createOther s not_local not_remote unpeered zero))
    ⟨Nat.le_succ _, rfl, rfl, rfl, rfl, by simp [Server.createOther, Server.outbox],
      fun _ => rfl, fun _ => rfl, fun _ => .inl rfl, fun _ _ => rfl, ?_, by simp, by simp [opens],
      by simp [opens]⟩ rfl (by simp) ?_ ?_
  · intro c q live
    rcases eq_or_ne c server.fresh with rfl | different
    · simp only [Server.createOther, Function.update_self, Option.some.injEq] at live
      exact .inr ⟨Nat.le_refl _, by rwa [← live], by rwa [← live]⟩
    · simp only [Server.createOther, Function.update_of_ne different] at live
      exact .inl ⟨q, live, .refl q⟩
  · intro c
    rcases eq_or_ne c server.fresh with rfl | different
    · exact .inr (by rw [blank])
    · simp only [Server.createOther, Function.update_of_ne different]
      exact .inl (.refl _)
  · intro c q q' live live' _ _ _
    have different : c ≠ server.fresh := by
      rintro rfl
      rw [absent] at live
      cases live
    simp only [Server.createOther, Function.update_of_ne different, live] at live'
    cases live'
    exact .inr (.inl rfl)

theorem Streaming.origin_of_other {server : Server} (streaming : Streaming server) {c : Nat}
    {r : Asocket} (live : server.sockets c = some r) (other : r.kind ≠ .localSocket) :
    (server.history c).origin = .none := by
  rw [streaming.numbered.blank c (streaming.numbered.others c r live other)]

theorem Streaming.join {server : Server} {a c : Nat} {s r : Asocket}
    (streaming : Streaming server) (consistent : Consistent server)
    (live : server.sockets a = some s) (isLocal : s.kind = .localSocket)
    (stillOpen : s.closing = false) (unpeered : s.peer = none) (unnotified : s.notify = false)
    (origin : (server.history a).origin = .none) (live_c : server.sockets c = some r)
    (not_local : r.kind ≠ .localSocket) (not_remote : r.kind ≠ .remoteSocket)
    (unpeered_c : r.peer = none) : Streaming (server.link a c) := by
  have different : c ≠ a := by
    rintro rfl
    rw [live] at live_c
    cases live_c
    exact not_local isLocal
  have at_a : (server.link a c).sockets a = some { s with peer := some c } := by
    simp [Server.link, Server.modify, different.symm, live]
  have at_c : (server.link a c).sockets c = some { r with peer := some a } := by
    simp [Server.link, Server.modify, different, live_c]
  have others : ∀ d, d ≠ a → d ≠ c → (server.link a c).sockets d = server.sockets d := by
    intro d not_a not_c
    simp [Server.link, Server.modify, not_a, not_c]
  refine streaming.rewire [] consistent
    (consistent.effect (.join a c live isLocal stillOpen unpeered unnotified origin live_c not_local
      not_remote unpeered_c))
    ⟨Nat.le_refl _, rfl, rfl, rfl, rfl, by simp [Server.link, Server.modify, Server.outbox],
      fun _ => rfl, fun _ => rfl, fun _ => .inl rfl, fun _ _ => rfl, ?_, by simp, by simp [opens],
      by simp [opens]⟩ rfl (by simp) ?_ ?_
  · intro d q live_q
    left
    rcases eq_or_ne d a with rfl | not_a
    · rw [at_a] at live_q
      cases live_q
      exact ⟨s, live, rfl, fun stillOpen => ⟨stillOpen, rfl⟩, by simp [isLocal]⟩
    · rcases eq_or_ne d c with rfl | not_c
      · rw [at_c] at live_q
        cases live_q
        exact ⟨r, live_c, rfl, fun stillOpen => ⟨stillOpen, rfl⟩, by simp [not_remote]⟩
      · rw [others d not_a not_c] at live_q
        exact ⟨q, live_q, .refl q⟩
  · intro d
    rcases eq_or_ne d a with rfl | not_a
    · exact .inr origin
    · rcases eq_or_ne d c with rfl | not_c
      · exact .inr (streaming.origin_of_other live_c not_local)
      · exact .inl (by rw [others d not_a not_c]; exact .refl _)
  · intro d q q' live_q live_q' isLocal_q _ _
    rcases eq_or_ne d a with rfl | not_a
    · rw [live] at live_q
      cases live_q
      exact .inr (.inr unpeered)
    · rcases eq_or_ne d c with rfl | not_c
      · rw [live_c] at live_q
        cases live_q
        exact absurd isLocal_q not_local
      · rw [others d not_a not_c, live_q] at live_q'
        cases live_q'
        exact .inr (.inl rfl)

theorem Streaming.switch {server : Server} {a b c : Nat} {s r q : Asocket}
    (streaming : Streaming server) (consistent : Consistent server)
    (live : server.sockets a = some s) (isLocal : s.kind = .localSocket) (peer : s.peer = some b)
    (live_b : server.sockets b = some r) (smart : r.kind = .smartSocket)
    (live_c : server.sockets c = some q) (unpeered_c : q.peer = none)
    (service : q.kind = .deviceTracker ∨ q.kind = .localSocket ∧ q.closing = false ∧
      q.notify = false ∧ (server.history c).origin = .none) :
    Streaming ((server.link a c).free b) := by
  have a_ne_b := consistent.ne_peer live peer
  have c_ne_a : c ≠ a := by
    rintro rfl
    rw [live] at live_c
    cases live_c
    rw [peer] at unpeered_c
    cases unpeered_c
  have not_smart : q.kind ≠ .smartSocket ∧ q.kind ≠ .remoteSocket := by
    rcases service with tracker | ⟨isLocal_c, _⟩
    · simp [tracker]
    · simp [isLocal_c]
  have c_ne_b : c ≠ b := by
    rintro rfl
    rw [live_b] at live_c
    cases live_c
    exact not_smart.1 smart
  have origin := consistent.unstreamed a s b r live isLocal peer live_b (by simp [smart])
  have origin_c : (server.history c).origin = .none := by
    rcases service with tracker | ⟨_, _, _, origin_c⟩
    · exact streaming.origin_of_other live_c (by simp [tracker])
    · exact origin_c
  have at_a : ((server.link a c).free b).sockets a = some { s with peer := some c } := by
    simp [Server.free, Server.link, Server.modify, a_ne_b, c_ne_a.symm, live]
  have at_b : ((server.link a c).free b).sockets b = none := by
    simp [Server.free]
  have at_c : ((server.link a c).free b).sockets c = some { q with peer := some a } := by
    simp [Server.free, Server.link, Server.modify, c_ne_b, c_ne_a, live_c]
  have others : ∀ d, d ≠ a → d ≠ b → d ≠ c →
      ((server.link a c).free b).sockets d = server.sockets d := by
    intro d not_a not_b not_c
    simp [Server.free, Server.link, Server.modify, not_a, not_b, not_c]
  refine streaming.rewire [] consistent
    (consistent.effect (.switch a b c live isLocal peer live_b smart live_c unpeered_c service))
    ⟨Nat.le_refl _, rfl, rfl, rfl, rfl,
      by simp [Server.free, Server.link, Server.modify, Server.outbox], fun _ => rfl,
      fun _ => rfl, fun _ => .inl rfl, fun _ _ => rfl, ?_, by simp, by simp [opens],
      by simp [opens]⟩ rfl (by simp) ?_ ?_
  · intro d p live_p
    left
    rcases eq_or_ne d a with rfl | not_a
    · rw [at_a] at live_p
      cases live_p
      exact ⟨s, live, rfl, fun stillOpen => ⟨stillOpen, rfl⟩, by simp [isLocal]⟩
    · rcases eq_or_ne d c with rfl | not_c
      · rw [at_c] at live_p
        cases live_p
        exact ⟨q, live_c, rfl, fun stillOpen => ⟨stillOpen, rfl⟩, by simp [not_smart.2]⟩
      · rcases eq_or_ne d b with rfl | not_b
        · rw [at_b] at live_p
          cases live_p
        · rw [others d not_a not_b not_c] at live_p
          exact ⟨p, live_p, .refl p⟩
  · intro d
    rcases eq_or_ne d a with rfl | not_a
    · exact .inr origin
    · rcases eq_or_ne d c with rfl | not_c
      · exact .inr origin_c
      · rcases eq_or_ne d b with rfl | not_b
        · exact .inl (by rw [at_b]; exact .gone)
        · exact .inl (by rw [others d not_a not_b not_c]; exact .refl _)
  · intro d p p' live_p live_p' _ _ _
    rcases eq_or_ne d a with rfl | not_a
    · rw [at_a] at live_p'
      cases live_p'
      exact .inl ⟨c, _, rfl, at_c, not_smart.1⟩
    · rcases eq_or_ne d c with rfl | not_c
      · rw [at_c] at live_p'
        cases live_p'
        exact .inl ⟨a, _, rfl, at_a, by simp [isLocal]⟩
      · rcases eq_or_ne d b with rfl | not_b
        · rw [at_b] at live_p'
          cases live_p'
        · rw [others d not_a not_b not_c, live_p] at live_p'
          cases live_p'
          exact .inr (.inl rfl)

/-- The history of one socket goes on, and those of the others stay. -/
theorem forall_history {server server' : Server} {a : Nat} (goesOn : History → History → Prop)
    (others : ∀ c, c ≠ a → server'.history c = server.history c) (same : ∀ h, goesOn h h)
    (self : goesOn (server.history a) (server'.history a)) (c : Nat) :
    goesOn (server.history c) (server'.history c) := by
  rcases eq_or_ne c a with rfl | different
  · exact self
  · rw [others c different]
    exact same _

theorem Streaming.destroy {server : Server} {a : Nat} {s : Asocket}
    {packets : List (List UInt8)} (streaming : Streaming server) (consistent : Consistent server)
    (live : server.sockets a = some s) (isLocal : s.kind = .localSocket)
    (closing : s.closing = true) (represents : s.queue.Represents packets) :
    Streaming (((server.recordOutput a packets.flatten).removeSocket a).free a) := by
  have nonzero := (streaming.numbered.installed a s live isLocal).1
  have sockets_self :
      (((server.recordOutput a packets.flatten).removeSocket a).free a).sockets a = none := by
    simp [Server.free]
  have sockets_of_ne : ∀ c, c ≠ a →
      (((server.recordOutput a packets.flatten).removeSocket a).free a).sockets c =
        server.sockets c := by
    intro c different
    simp [Server.free, Server.removeSocket, Server.modify, Server.recordOutput, Server.record,
      different]
  have history_self :
      (((server.recordOutput a packets.flatten).removeSocket a).free a).history a =
        { server.history a with output := (server.history a).output ++ packets.flatten } := by
    simp [Server.free, Server.removeSocket, Server.modify, Server.recordOutput, Server.record]
  have history_of_ne : ∀ c, c ≠ a →
      (((server.recordOutput a packets.flatten).removeSocket a).free a).history c =
        server.history c := by
    intro c different
    simp [Server.free, Server.removeSocket, Server.modify, Server.recordOutput, Server.record,
      different]
  have plain : Plain server (((server.recordOutput a packets.flatten).removeSocket a).free a)
      [] := by
    refine ⟨Nat.le_refl _, rfl, rfl, rfl, rfl, by simp [Server.free, Server.removeSocket,
      Server.modify, Server.recordOutput, Server.record, Server.outbox], ?_, ?_, ?_, ?_, ?_,
      by simp, by simp [opens], by simp [opens]⟩
    · exact forall_history (fun h h' => h'.id = h.id) history_of_ne (fun _ => rfl)
        (by rw [history_self])
    · exact forall_history (fun h h' => h'.mate = h.mate) history_of_ne (fun _ => rfl)
        (by rw [history_self])
    · exact forall_history
        (fun h h' => h'.origin = h.origin ∨ h.origin = .none ∧ h'.origin = .opened) history_of_ne
        (fun _ => .inl rfl) (.inl (by rw [history_self]))
    · intro c zero
      rcases eq_or_ne c a with rfl | different
      · exact absurd zero nonzero
      · rw [history_of_ne c different]
    · intro c q live_q
      rcases eq_or_ne c a with rfl | different
      · rw [sockets_self] at live_q
        cases live_q
      · rw [sockets_of_ne c different] at live_q
        exact .inl ⟨q, live_q, .refl q⟩
  refine ⟨plain.ordered consistent
    (consistent.effect (.drainLast a live isLocal closing represents)) streaming.toOrdered ?_, ?_⟩
  · intro c q q' live_q live_q' _ _ _ _
    rcases eq_or_ne c a with rfl | different
    · rw [sockets_self] at live_q'
      cases live_q'
    · rw [sockets_of_ne c different, live_q] at live_q'
      cases live_q'
      exact .inr ⟨.inl rfl, by rw [history_of_ne c different]⟩
  · intro c
    rw [plain.inbox, plain.outbox]
    rcases eq_or_ne c a with rfl | different
    · rw [history_self, sockets_self, List.append_nil]
      have ok := streaming.ends c
      rw [live] at ok
      exact ok.destroy represents
    · rw [history_of_ne c different, sockets_of_ne c different]
      exact (streaming.ends c).frame (.refl _) (by simp [Silent])

/-! ## New sockets and new streams -/

/-- A local socket that is not served opens a stream. -/
theorem Streaming.openStream {server server' : Server} {a : Nat} {s : Asocket}
    (streaming : Streaming server) (s' : Asocket) (consistent : Consistent server)
    (consistent' : Consistent server') (live : server.sockets a = some s)
    (isLocal : s.kind = .localSocket) (stillOpen : s.closing = false)
    (origin : (server.history a).origin = .none) (unserved : ¬Served server s)
    (unqueued : s.queue.first = none) (live' : server'.sockets a = some s')
    (kind : s'.kind = s.kind) (id : s'.id = s.id) (queue : s'.queue = s.queue)
    (others : ∀ c, c ≠ a → server'.sockets c = server.sockets c ∨ server'.sockets c = none)
    (history : server'.history = Function.update server.history a
      { server.history a with origin := .opened, input := [] })
    (transport : Nat) (payload : List UInt8)
    (sent : server'.sent = server.sent ++ [(transport, ⟨.open, s.id, 0, payload⟩)])
    (fresh : server'.fresh = server.fresh)
    (nextId : server'.localSocketNextId = server.localSocketNextId)
    (installs : server'.installs = server.installs)
    (online : (server'.transports 0).online = (server.transports 0).online)
    (received : server'.received = server.received) : Streaming server' := by
  obtain ⟨nonzero, same_id⟩ := streaming.numbered.installed a s live isLocal
  have id_eq := same_id stillOpen
  have history_self : server'.history a =
      { server.history a with origin := .opened, input := [] } := by
    rw [history, Function.update_self]
  have history_of_ne : ∀ c, c ≠ a → server'.history c = server.history c := by
    intro c different
    rw [history, Function.update_of_ne different]
  have sent_open : ∀ message ∈ [(transport, (⟨.open, s.id, 0, payload⟩ : Message))].filterMap
      (fun entry => if entry.1 = 0 then some entry.2 else none),
      message = ⟨.open, s.id, 0, payload⟩ := by
    intro message member
    obtain ⟨entry, inside, found⟩ := List.mem_filterMap.mp member
    rw [List.mem_singleton.mp inside] at found
    split at found
    · exact (Option.some.inj found).symm
    · cases found
  have plain : Plain server server'
      ([(transport, (⟨.open, s.id, 0, payload⟩ : Message))].filterMap
        fun entry => if entry.1 = 0 then some entry.2 else none) := by
    refine ⟨Nat.le_of_eq fresh.symm, nextId, installs, online, received,
      Server.outbox_append sent, ?_, ?_, ?_, ?_, ?_, ?_, ?_, ?_⟩
    · exact forall_history (fun h h' => h'.id = h.id) history_of_ne (fun _ => rfl)
        (by rw [history_self])
    · exact forall_history (fun h h' => h'.mate = h.mate) history_of_ne (fun _ => rfl)
        (by rw [history_self])
    · exact forall_history
        (fun h h' => h'.origin = h.origin ∨ h.origin = .none ∧ h'.origin = .opened) history_of_ne
        (fun _ => .inl rfl) (.inr ⟨origin, by rw [history_self]⟩)
    · intro c zero
      rcases eq_or_ne c a with rfl | different
      · exact absurd zero nonzero
      · rw [history_of_ne c different]
    · intro c q live_q
      left
      rcases eq_or_ne c a with rfl | different
      · rw [live'] at live_q
        cases live_q
        exact ⟨s, live, kind, fun _ => ⟨stillOpen, id⟩, by simp [isLocal]⟩
      · rcases others c different with same | dead
        · rw [same] at live_q
          exact ⟨q, live_q, .refl q⟩
        · rw [dead] at live_q
          cases live_q
    · intro message member isStream
      simp [Message.IsStream, sent_open message member] at isStream
    · by_cases zero : transport = 0
      · simp [opens, zero]
      · simp [opens, zero]
    · intro other member
      obtain ⟨message, inside, rfl⟩ := List.mem_map.mp member
      rw [sent_open message (List.mem_of_mem_filter inside)]
      exact ⟨a, id_eq.symm, nonzero, origin, by rw [history_self]⟩
  refine ⟨plain.ordered consistent consistent' streaming.toOrdered ?_, ?_⟩
  · intro c q q' live_q live_q' _ _ _ origin'
    have different : c ≠ a := by
      rintro rfl
      rw [history_self] at origin'
      cases origin'
    rcases others c different with same | dead
    · rw [same, live_q] at live_q'
      cases live_q'
      exact .inr ⟨.inl rfl, by rw [history_of_ne c different]⟩
    · rw [dead] at live_q'
      cases live_q'
  · intro c
    rw [plain.inbox, plain.outbox]
    rcases eq_or_ne c a with rfl | different
    · rw [history_self, live']
      refine streamOk_opened (streaming.mate_of_none origin)
        (streaming.unwritten c s live isLocal stillOpen origin unserved) (by rw [queue, unqueued])
        ?_
      intro message member isOkay same
      obtain ⟨d, id_d, nonzero_d, origin_d⟩ := streaming.spoken.heard message member (.inl isOkay)
      have is_c := streaming.numbered.unique d c nonzero_d (id_d.trans same)
      rw [is_c] at origin_d
      exact origin_d origin
    · rw [history_of_ne c different]
      refine (streaming.ends c).frame ?_ ?_
      · rcases others c different with same | dead
        · rw [same]
          exact .refl _
        · rw [dead]
          exact .gone
      · intro message member isStream
        simp [Message.IsStream, sent_open message member] at isStream

section CreateLocalSocket

variable {server : Server}

theorem createLocalSocket_sockets_self :
    server.createLocalSocket.sockets server.fresh =
      some { kind := .localSocket, id := server.localSocketNextId } := by
  simp [Server.createLocalSocket]

theorem createLocalSocket_sockets_of_ne {c : Nat} (different : c ≠ server.fresh) :
    server.createLocalSocket.sockets c = server.sockets c := by
  simp [Server.createLocalSocket, different]

theorem createLocalSocket_history_self :
    server.createLocalSocket.history server.fresh = { id := server.localSocketNextId } := by
  simp [Server.createLocalSocket]

theorem createLocalSocket_history_of_ne {c : Nat} (different : c ≠ server.fresh) :
    server.createLocalSocket.history c = server.history c := by
  simp [Server.createLocalSocket, different]

/-- The id of the new socket is larger than all before it. -/
theorem Numbered.nextId_ne (numbered : Numbered server) (c : Nat) :
    server.localSocketNextId ≠ (server.history c).id := by
  have next := numbered.next
  have below := numbered.le c
  omega

theorem Numbered.createLocalSocket_nextId (numbered : Numbered server)
    (few : server.installs + 1 < 2 ^ 32 - 1) :
    server.createLocalSocket.localSocketNextId = server.installs + 1 + 1 := by
  have next := numbered.next
  have small : (server.localSocketNextId + 1) % 2 ^ 32 = server.localSocketNextId + 1 :=
    Nat.mod_eq_of_lt (by omega)
  simp only [Server.createLocalSocket, Server.nextId, small]
  rw [if_neg (by omega)]
  omega

theorem Numbered.createLocalSocket_unique (numbered : Numbered server) {a c : Nat}
    (nonzero : (server.createLocalSocket.history a).id ≠ 0)
    (same : (server.createLocalSocket.history a).id = (server.createLocalSocket.history c).id) :
    a = c := by
  rcases eq_or_ne a server.fresh with rfl | a_ne
  · rcases eq_or_ne c server.fresh with rfl | c_ne
    · rfl
    · rw [createLocalSocket_history_self, createLocalSocket_history_of_ne c_ne] at same
      exact absurd same (numbered.nextId_ne c)
  · rcases eq_or_ne c server.fresh with rfl | c_ne
    · rw [createLocalSocket_history_self, createLocalSocket_history_of_ne a_ne] at same
      exact absurd same.symm (numbered.nextId_ne a)
    · rw [createLocalSocket_history_of_ne a_ne] at nonzero same
      rw [createLocalSocket_history_of_ne c_ne] at same
      exact numbered.unique a c nonzero same

theorem Numbered.createLocalSocket (numbered : Numbered server)
    (few : server.installs + 1 < 2 ^ 32 - 1) : Numbered server.createLocalSocket := by
  have next := numbered.next
  have installs_eq : server.createLocalSocket.installs = server.installs + 1 := rfl
  refine ⟨numbered.createLocalSocket_nextId few, ?_,
    fun a c => numbered.createLocalSocket_unique, ?_, ?_, ?_, ?_⟩
  · intro a
    rw [installs_eq]
    rcases eq_or_ne a server.fresh with rfl | different
    · rw [createLocalSocket_history_self]
      exact Nat.le_of_eq next
    · rw [createLocalSocket_history_of_ne different]
      exact Nat.le_succ_of_le (numbered.le a)
  · intro a zero
    rcases eq_or_ne a server.fresh with rfl | different
    · rw [createLocalSocket_history_self] at zero
      simp only at zero
      omega
    · rw [createLocalSocket_history_of_ne different] at zero ⊢
      exact numbered.blank a zero
  · intro a unallocated
    have after : server.fresh + 1 ≤ a := unallocated
    rw [createLocalSocket_history_of_ne (by omega)]
    exact numbered.fresh a (by omega)
  · intro a s live isLocal
    rcases eq_or_ne a server.fresh with rfl | different
    · rw [createLocalSocket_sockets_self] at live
      cases live
      rw [createLocalSocket_history_self]
      exact ⟨by simp only; omega, fun _ => rfl⟩
    · rw [createLocalSocket_sockets_of_ne different] at live
      rw [createLocalSocket_history_of_ne different]
      exact numbered.installed a s live isLocal
  · intro a s live other
    rcases eq_or_ne a server.fresh with rfl | different
    · rw [createLocalSocket_sockets_self] at live
      cases live
      exact absurd rfl other
    · rw [createLocalSocket_sockets_of_ne different] at live
      rw [createLocalSocket_history_of_ne different]
      exact numbered.others a s live other

theorem Spoken.createLocalSocket (spoken : Spoken server) (numbered : Numbered server)
    (consistent : Consistent server) : Spoken server.createLocalSocket := by
  have history_of_id : ∀ c, (server.history c).id ≠ 0 →
      server.createLocalSocket.history c = server.history c := by
    intro c nonzero
    refine createLocalSocket_history_of_ne ?_
    rintro rfl
    exact nonzero (numbered.fresh server.fresh (Nat.le_refl _))
  have ne_of_accepted : ∀ c, (server.createLocalSocket.history c).origin = .accepted →
      c ≠ server.fresh := by
    rintro c accepted rfl
    rw [createLocalSocket_history_self] at accepted
    cases accepted
  refine ⟨spoken.online, ?_, ?_, ?_, spoken.opens_nodup, ?_, ?_⟩
  · intro b r live remote
    have different : b ≠ server.fresh := by
      rintro rfl
      rw [createLocalSocket_sockets_self] at live
      cases live
      cases remote
    rw [createLocalSocket_sockets_of_ne different] at live
    obtain ⟨on, mated⟩ := spoken.remote b r live remote
    refine ⟨on, fun a peer => ?_⟩
    obtain ⟨s, live_a, _⟩ := consistent.symmetric b r a live peer
    rw [createLocalSocket_history_of_ne ?_]
    · exact mated a peer
    · rintro rfl
      rw [consistent.unallocated server.fresh (Nat.le_refl _)] at live_a
      cases live_a
  · intro message member isStream
    obtain ⟨a, id_eq, nonzero, mated⟩ := spoken.words message member isStream
    exact ⟨a, by rwa [history_of_id a nonzero], by rwa [history_of_id a nonzero],
      by rwa [history_of_id a nonzero]⟩
  · intro message member isStream
    obtain ⟨a, id_eq, nonzero, origin⟩ := spoken.heard message member isStream
    exact ⟨a, by rwa [history_of_id a nonzero], by rwa [history_of_id a nonzero],
      by rwa [history_of_id a nonzero]⟩
  · intro id member
    obtain ⟨a, id_eq, nonzero, origin⟩ := spoken.opens_own id member
    exact ⟨a, by rwa [history_of_id a nonzero], by rwa [history_of_id a nonzero],
      by rwa [history_of_id a nonzero]⟩
  · intro a c accepted accepted' same
    have a_ne := ne_of_accepted a accepted
    have c_ne := ne_of_accepted c accepted'
    rw [createLocalSocket_history_of_ne a_ne] at accepted same
    rw [createLocalSocket_history_of_ne c_ne] at accepted' same
    exact spoken.accepted_unique a c accepted accepted' same

theorem Unwritten.createLocalSocket (unwritten : Unwritten server)
    (consistent : Consistent server) : Unwritten server.createLocalSocket := by
  intro a s live isLocal stillOpen origin unserved
  rcases eq_or_ne a server.fresh with rfl | different
  · rw [createLocalSocket_history_self]
  · rw [createLocalSocket_sockets_of_ne different] at live
    rw [createLocalSocket_history_of_ne different] at origin ⊢
    refine unwritten a s live isLocal stillOpen origin ?_
    rintro ⟨b, r, peer, live_b, other⟩
    refine unserved ⟨b, r, peer, ?_, other⟩
    rw [createLocalSocket_sockets_of_ne, live_b]
    rintro rfl
    rw [consistent.unallocated server.fresh (Nat.le_refl _)] at live_b
    cases live_b

theorem Streaming.createLocalSocket (streaming : Streaming server)
    (consistent : Consistent server) (few : server.installs + 1 < 2 ^ 32 - 1) :
    Streaming server.createLocalSocket := by
  have outbox_eq : server.createLocalSocket.outbox = server.outbox := rfl
  have inbox_eq : server.createLocalSocket.inbox = server.inbox := rfl
  refine ⟨⟨streaming.numbered.createLocalSocket few,
    streaming.spoken.createLocalSocket streaming.numbered consistent,
    streaming.unwritten.createLocalSocket consistent⟩, ?_⟩
  intro a
  rw [outbox_eq, inbox_eq]
  rcases eq_or_ne a server.fresh with rfl | different
  · rw [createLocalSocket_history_self]
    exact streamOk_of_none rfl rfl
  · rw [createLocalSocket_history_of_ne different, createLocalSocket_sockets_of_ne different]
    exact streaming.ends a

end CreateLocalSocket

/-! ## Every effect keeps the streams in order -/

theorem Effect.installs_le {server server' : Server} (effect : Effect server server') :
    server.installs ≤ server'.installs := by
  cases effect with
  | quiet same => exact Nat.le_of_eq same.installs.symm
  | closes _ closes => exact Nat.le_of_eq closes.installs.symm
  | createLocal => exact Nat.le_succ _
  | adjust | wake | output | input | push | drainSome | drainLast | drainAll | drainAnswer
  | readSend | createOther | join | switch | openForward | openClient => exact Nat.le_refl _

theorem Streaming.effect {server server' : Server} (streaming : Streaming server)
    (consistent : Consistent server) (effect : Effect server server')
    (few : server'.installs < 2 ^ 32 - 1) : Streaming server' := by
  have consistent' := consistent.effect effect
  cases effect with
  | quiet same => exact streaming.quiet consistent same
  | closes gone closes => exact streaming.closes consistent closes
  | adjust a change live adjusts => exact streaming.adjust consistent live adjusts
  | wake a live isLocal peer origin => exact streaming.wake consistent live isLocal peer origin
  | output a bytes live isLocal peer live_b other origin =>
      exact streaming.writeOutput consistent live isLocal peer live_b other origin bytes
  | input a bytes live isLocal origin =>
      exact streaming.readInput consistent live isLocal origin bytes
  | push a packet live isLocal peer live_b other origin =>
      exact streaming.push consistent live isLocal peer live_b other origin packet
  | drainSome a queue bytes live isLocal before after nonempty nonempty' flat =>
      exact streaming.drainSome consistent live isLocal before after nonempty nonempty' flat
  | drainLast a live isLocal closing represents =>
      exact streaming.destroy consistent live isLocal closing represents
  | drainAll a queue live isLocal peer live_b not_remote before after =>
      exact streaming.drainAll consistent live isLocal peer live_b not_remote before after
  | drainAnswer a queue live isLocal peer live_b remote on before nonempty after =>
      exact streaming.drainAnswer consistent live isLocal peer live_b remote on before nonempty
        after
  | readSend a bytes live isLocal peer live_b remote on reads =>
      exact streaming.readSend consistent live isLocal peer live_b remote on reads bytes
  | createLocal => exact streaming.createLocalSocket consistent few
  | createOther s not_local not_remote unpeered zero =>
      exact streaming.createOther consistent not_local not_remote unpeered zero
  | join a c live isLocal stillOpen unpeered unnotified origin live_c not_local not_remote
      unpeered_c =>
      exact streaming.join consistent live isLocal stillOpen unpeered unnotified origin live_c
        not_local not_remote unpeered_c
  | switch a b c live isLocal peer live_b smart live_c unpeered_c service =>
      exact streaming.switch consistent live isLocal peer live_b smart live_c unpeered_c service
  | @openForward a s transport payload live isLocal stillOpen unpeered origin =>
      have unqueued : s.queue.first = none := by
        by_contra queued
        exact (consistent.locals a s live isLocal).owned stillOpen queued unpeered
      refine streaming.openStream s consistent consistent' live isLocal stillOpen origin ?_ unqueued
        live rfl rfl rfl (fun _ _ => .inl rfl) rfl transport payload rfl rfl rfl rfl rfl rfl
      rintro ⟨b, r, peer, _⟩
      rw [unpeered] at peer
      cases peer
  | @openClient a b s r transport payload live isLocal peer live_b smart =>
      obtain ⟨r', live_b', peer_b⟩ := consistent.symmetric a s b live peer
      rw [live_b] at live_b'
      cases live_b'
      have a_ne_b := consistent.ne_peer live peer
      have unqueued := consistent.smart_peer b r a s live_b smart peer_b live
      have stillOpen := (consistent.locals a s live isLocal).stillOpen_of_peer peer
      have origin := consistent.unstreamed a s b r live isLocal peer live_b (by simp [smart])
      refine streaming.openStream
        { s with notify := true, peer := none, transport := some transport, wantRead := false }
        consistent consistent' live isLocal stillOpen origin ?_ unqueued ?_ rfl rfl rfl ?_ rfl
        transport payload rfl rfl rfl rfl rfl rfl
      · rintro ⟨c, q, peer', live_c, other⟩
        rw [peer] at peer'
        cases peer'
        rw [live_b] at live_c
        cases live_c
        exact other smart
      · simp [Server.openStream, Server.record, Server.sendPacket, Server.free, Server.modify,
          a_ne_b, live]
      · intro c different
        rcases eq_or_ne c b with rfl | not_b
        · exact .inr (by simp [Server.free])
        · exact .inl (by simp [Server.openStream, Server.record, Server.sendPacket, Server.free,
            Server.modify, different, not_b])

end Sockets
end AdbWide
