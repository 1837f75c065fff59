import AdbWide.Sockets.Effects

/-!
# The invariant of the socket layer

Every effect keeps the sockets consistent.  The effects that leave the peers alone change a single
socket or make a new one; what is left is to give two sockets each other for peers, and to take a
smart socket away from its client.
-/

namespace AdbWide
namespace Sockets

/-! ## A socket with a peer -/

theorem LocalOk.stillOpen_of_peer {server : Server} {a b : Nat} {s : Asocket}
    (ok : LocalOk server a s) (peer : s.peer = some b) : s.closing = false := by
  by_contra closed
  rw [Bool.not_eq_false] at closed
  exact absurd (ok.closing_listed closed).2.2.1 (by simp [peer])

theorem LocalOk.unnotified_of_peer {server : Server} {a b : Nat} {s : Asocket}
    (ok : LocalOk server a s) (peer : s.peer = some b) : s.notify = false := by
  by_contra notified
  rw [Bool.not_eq_false] at notified
  exact absurd (ok.notify_unpeered notified).1 (by simp [peer])

/-! ## Two sockets at once -/

section Pair

variable {server server' : Server} {a b : Nat} {s s' r : Asocket} {after : Option Asocket}

/-- Two sockets change: what is there afterwards is one of them, or was there before. -/
theorem live_of_updates (sockets : server'.sockets =
      Function.update (Function.update server.sockets a (some s')) b after)
    {c : Nat} {q : Asocket} (live : server'.sockets c = some q) :
    c = a ∧ q = s' ∨ c = b ∧ after = some q ∨ c ≠ a ∧ c ≠ b ∧ server.sockets c = some q := by
  rw [sockets] at live
  rcases eq_or_ne c b with rfl | not_b
  · rw [Function.update_self] at live
    exact .inr (.inl ⟨rfl, live⟩)
  · rw [Function.update_of_ne not_b] at live
    rcases eq_or_ne c a with rfl | not_a
    · rw [Function.update_self] at live
      exact .inl ⟨rfl, (Option.some.inj live).symm⟩
    · rw [Function.update_of_ne not_a] at live
      exact .inr (.inr ⟨not_a, not_b, live⟩)

/-- The local sockets stay local, and open or closing, where the two do. -/
theorem KeepsLocals.of_updates (different : a ≠ b) (live_a : server.sockets a = some s)
    (live_b : server.sockets b = some r)
    (sockets : server'.sockets =
      Function.update (Function.update server.sockets a (some s')) b after)
    (same : SameSocket s s')
    (other : r.kind = .localSocket →
      ∃ r', after = some r' ∧ r'.kind = .localSocket ∧ r'.closing = r.closing) :
    KeepsLocals server server' := by
  intro c q live isLocal
  rw [sockets]
  rcases eq_or_ne c b with rfl | not_b
  · rw [live_b] at live
    cases live
    rw [Function.update_self]
    exact other isLocal
  · rw [Function.update_of_ne not_b]
    rcases eq_or_ne c a with rfl | not_a
    · rw [live_a] at live
      cases live
      rw [Function.update_self]
      exact ⟨s', rfl, same.kind.trans isLocal, same.closing⟩
    · rw [Function.update_of_ne not_a]
      exact ⟨q, live, isLocal, rfl⟩

/-- A socket is only the peer of its own peer. -/
theorem Consistent.peer_ne (consistent : Consistent server) (live : server.sockets a = some s)
    {c d : Nat} {q : Asocket} (other : s.peer ≠ some c) (live_q : server.sockets c = some q)
    (peer : q.peer = some d) : d ≠ a := by
  rintro rfl
  obtain ⟨p, live_p, peer_p⟩ := consistent.symmetric c q d live_q peer
  rw [live] at live_p
  cases live_p
  exact other peer_p

end Pair

/-! ## New peers -/

/-- Two sockets without peers become each other's peer. -/
theorem Consistent.attach {server server' : Server} {a b : Nat} {s r : Asocket} (s' : Asocket)
    (consistent : Consistent server) (different : a ≠ b)
    (live_a : server.sockets a = some s) (live_b : server.sockets b = some r)
    (sockets : server'.sockets = Function.update (Function.update server.sockets a (some s')) b
      (some { r with peer := some a }))
    (lists : SameLists server server')
    (origin : ∀ c, c ≠ a → (server'.history c).origin = (server.history c).origin)
    (isLocal : s.kind = .localSocket) (stillOpen : s.closing = false)
    (unpeered : s.peer = none) (unpeered_b : r.peer = none)
    (stillOpen_b : r.kind = .localSocket → r.closing = false ∧ r.notify = false)
    (same : SameSocket s s') (queue : s'.queue = s.queue) (wantWrite : s'.wantWrite = s.wantWrite)
    (notify : s'.notify = false) (peer : s'.peer = some b)
    (unstreamed : r.kind ≠ .remoteSocket → (server'.history a).origin = .none)
    (unstreamed_b : r.kind = .localSocket → (server.history b).origin = .none) :
    Consistent server' := by
  obtain ⟨kind, id, closing⟩ := same
  have ok := consistent.locals a s live_a isLocal
  have unqueued : s.queue.first = none := by
    by_contra queued
    exact ok.owned stillOpen queued unpeered
  have at_a : server'.sockets a = some s' := by
    rw [sockets, Function.update_of_ne different, Function.update_self]
  have at_b : server'.sockets b = some { r with peer := some a } := by
    rw [sockets, Function.update_self]
  have others : ∀ c, c ≠ a → c ≠ b → server'.sockets c = server.sockets c := by
    intro c not_a not_b
    rw [sockets, Function.update_of_ne not_b, Function.update_of_ne not_a]
  have keeps : KeepsLocals server server' :=
    .of_updates different live_a live_b sockets ⟨kind, id, closing⟩
      (fun isLocal_b => ⟨_, rfl, isLocal_b, rfl⟩)
  refine consistent.of_sameLists lists keeps ?_ ?_ ?_
  · intro c absent
    rw [others c ?_ ?_, absent]
    · rintro rfl
      rw [live_a] at absent
      cases absent
    · rintro rfl
      rw [live_b] at absent
      cases absent
  · intro c q live_q
    rcases live_of_updates sockets live_q with ⟨rfl, rfl⟩ | ⟨rfl, linked⟩ | ⟨-, -, live'⟩
    · have isLocal' := kind.trans isLocal
      refine ⟨fun _ => ?_, by simp [isLocal'], fun t member => ?_, by simp [isLocal']⟩
      · refine ⟨by rw [queue]; exact ok.represents, by rw [queue, wantWrite]; exact ok.write_iff,
          ?_, by rw [closing, id]; exact ok.open_listed, ?_, ?_, ?_⟩
        · simp [peer]
        · simp [closing, stillOpen]
        · simp [peer]
        · simp [notify]
      · have wrong := ((consistent.socketOk live_a).registered t member).1
        rw [isLocal] at wrong
        cases wrong
    · cases linked
      obtain ⟨locals, remote_transport, registered, smart_id⟩ := consistent.socketOk live_b
      refine ⟨fun isLocal_b => ?_, remote_transport, registered, smart_id⟩
      have ok_b := locals isLocal_b
      obtain ⟨open_b, quiet_b⟩ := stillOpen_b isLocal_b
      exact ⟨ok_b.represents, ok_b.write_iff, by simp, ok_b.open_listed, by simp [open_b], by simp,
        by simp [quiet_b]⟩
    · exact consistent.socketOk live'
  · intro c q d live_q peer_q
    rcases live_of_updates sockets live_q with
      ⟨rfl, rfl⟩ | ⟨rfl, linked⟩ | ⟨not_a, not_b, live'⟩
    · rw [peer] at peer_q
      cases peer_q
      exact ⟨_, at_b, rfl, different.symm, by simp [kind, isLocal], by simp [kind, isLocal],
        fun _ => unstreamed⟩
    · cases linked
      cases peer_q
      refine ⟨s', at_a, peer, different, fun _ => by rw [queue, unqueued],
        fun _ => kind.trans isLocal, fun isLocal_b _ => ?_⟩
      rw [origin c different.symm]
      exact unstreamed_b isLocal_b
    · have d_ne_a : d ≠ a := consistent.peer_ne live_a (by simp [unpeered]) live' peer_q
      have d_ne_b : d ≠ b := consistent.peer_ne live_b (by simp [unpeered_b]) live' peer_q
      obtain ⟨p, live_p, symmetric, d_ne, smart_peer, partner, before⟩ :=
        consistent.pairOk live' peer_q
      rw [← origin c not_a] at before
      exact ⟨p, by rw [others d d_ne_a d_ne_b, live_p], symmetric, d_ne, smart_peer, partner,
        before⟩

/-- A client loses its smart socket, which is freed. -/
theorem Consistent.detach {server server' : Server} {a b : Nat} {s r : Asocket} (s' : Asocket)
    (consistent : Consistent server)
    (live_a : server.sockets a = some s) (live_b : server.sockets b = some r)
    (sockets : server'.sockets = Function.update (Function.update server.sockets a (some s')) b
      none)
    (lists : SameLists server server')
    (origin : ∀ c, c ≠ a → (server'.history c).origin = (server.history c).origin)
    (isLocal : s.kind = .localSocket) (peered : s.peer = some b) (smart : r.kind = .smartSocket)
    (same : SameSocket s s') (queue : s'.queue = s.queue) (wantWrite : s'.wantWrite = s.wantWrite)
    (wantRead : s'.wantRead = false) (peer : s'.peer = none) :
    Consistent server' := by
  obtain ⟨kind, id, closing⟩ := same
  have ok := consistent.locals a s live_a isLocal
  have different := consistent.ne_peer live_a peered
  obtain ⟨r', live_b', peered_b⟩ := consistent.symmetric a s b live_a peered
  rw [live_b] at live_b'
  cases live_b'
  have unqueued : s.queue.first = none := consistent.smart_peer b r a s live_b smart peered_b live_a
  have stillOpen := ok.stillOpen_of_peer peered
  have at_a : server'.sockets a = some s' := by
    rw [sockets, Function.update_of_ne different, Function.update_self]
  have at_b : server'.sockets b = none := by
    rw [sockets, Function.update_self]
  have others : ∀ c, c ≠ a → c ≠ b → server'.sockets c = server.sockets c := by
    intro c not_a not_b
    rw [sockets, Function.update_of_ne not_b, Function.update_of_ne not_a]
  have keeps : KeepsLocals server server' :=
    .of_updates different live_a live_b sockets ⟨kind, id, closing⟩ (fun isLocal_b => by
      rw [smart] at isLocal_b
      cases isLocal_b)
  refine consistent.of_sameLists lists keeps ?_ ?_ ?_
  · intro c absent
    rcases eq_or_ne c a with rfl | not_a
    · rw [live_a] at absent
      cases absent
    · rcases eq_or_ne c b with rfl | not_b
      · exact at_b
      · rw [others c not_a not_b, absent]
  · intro c q live_q
    rcases live_of_updates sockets live_q with ⟨rfl, rfl⟩ | ⟨-, gone⟩ | ⟨-, -, live'⟩
    · have isLocal' := kind.trans isLocal
      refine ⟨fun _ => ?_, by simp [isLocal'], fun t member => ?_, by simp [isLocal']⟩
      · exact ⟨by rw [queue]; exact ok.represents, by rw [queue, wantWrite]; exact ok.write_iff,
          by simp [queue, unqueued], by rw [closing, id]; exact ok.open_listed,
          by simp [closing, stillOpen], fun _ => wantRead,
          fun _ => ⟨peer, closing.trans stillOpen⟩⟩
      · have wrong := ((consistent.socketOk live_a).registered t member).1
        rw [isLocal] at wrong
        cases wrong
    · cases gone
    · exact consistent.socketOk live'
  · intro c q d live_q peer_q
    rcases live_of_updates sockets live_q with ⟨rfl, rfl⟩ | ⟨-, gone⟩ | ⟨not_a, not_b, live'⟩
    · rw [peer] at peer_q
      cases peer_q
    · cases gone
    · have d_ne_a : d ≠ a :=
        consistent.peer_ne live_a (by simpa [peered] using not_b.symm) live' peer_q
      have d_ne_b : d ≠ b :=
        consistent.peer_ne live_b (by simpa [peered_b] using not_a.symm) live' peer_q
      obtain ⟨p, live_p, symmetric, d_ne, smart_peer, partner, before⟩ :=
        consistent.pairOk live' peer_q
      rw [← origin c not_a] at before
      exact ⟨p, by rw [others d d_ne_a d_ne_b, live_p], symmetric, d_ne, smart_peer, partner,
        before⟩

/-! ## Effects keep the invariant -/

theorem nextId_ne_zero (id : Nat) : Server.nextId id ≠ 0 := by
  unfold Server.nextId
  split <;> omega

theorem Consistent.createLocalSocket {server : Server} (consistent : Consistent server) :
    Consistent server.createLocalSocket := by
  refine consistent.create (s := { kind := .localSocket, id := server.localSocketNextId }) rfl rfl
    (.inl ⟨rfl, rfl, rfl⟩) rfl (nextId_ne_zero _) ?_ (fun _ _ => .inl) rfl (by simp) (by simp) ?_
  · intro c different
    simp [Server.createLocalSocket, different]
  · intro _
    exact ⟨⟨[], LinkedQueue.represents_empty⟩, by simp [LinkedQueue.empty],
      by simp [LinkedQueue.empty], fun _ => ⟨by simp [Server.createLocalSocket],
        consistent.nextId_ne⟩, by simp, fun _ => rfl, by simp⟩

/-- A closing socket whose packets have all been written. -/
theorem Consistent.destroy {server : Server} {a : Nat} {s : Asocket}
    (consistent : Consistent server) (live : server.sockets a = some s)
    (isLocal : s.kind = .localSocket) (closing : s.closing = true) (bytes : List UInt8) :
    Consistent (((server.recordOutput a bytes).removeSocket a).free a) := by
  have recorded : Consistent (server.recordOutput a bytes) := by
    refine consistent.congr (.of rfl ?_)
    intro c
    rcases eq_or_ne c a with rfl | different
    · simp [Server.recordOutput, Server.record]
    · simp [Server.recordOutput, Server.record, different]
  have ok := consistent.locals a s live isLocal
  have unpeered := (ok.closing_listed closing).2.2.1
  have live' : (server.recordOutput a bytes).sockets a = some s := live
  have ends := ends_finishClose recorded.listsOk live' isLocal unpeered ok.unnotified
  rw [Server.finishClose, live'] at ends
  simp only [closing, true_or, if_true] at ends
  refine recorded.closes (Closes.of_ends ends ?_)
  intro s' live''
  rw [live'] at live''
  cases live''
  exact unpeered

theorem Server.sockets_modify {server : Server} {a : Nat} {s : Asocket}
    {change : Asocket → Asocket} (live : server.sockets a = some s) :
    (server.modify a change).sockets = Function.update server.sockets a (some (change s)) := by
  simp [Server.modify, live]

/-- One local socket gets another queue, or wants other events. -/
theorem Consistent.requeue {server server' : Server} {a : Nat} {s s' : Asocket}
    (consistent : Consistent server) (live : server.sockets a = some s)
    (isLocal : s.kind = .localSocket)
    (sockets : server'.sockets = Function.update server.sockets a (some s'))
    (lists : SameLists server server')
    (origin : ∀ c, (server'.history c).origin = (server.history c).origin)
    (same : SameSocket s s') (peer : s'.peer = s.peer)
    (notify : s'.notify = true → s.notify = true)
    (wantRead : s'.wantRead = true → s.wantRead = true ∨ s.peer ≠ none)
    (represents : ∃ packets, s'.queue.Represents packets)
    (write_iff : s'.wantWrite = true ↔ s'.queue.first ≠ none)
    (queued : s'.queue.first ≠ none → s.queue.first ≠ none ∨
      s.closing = false ∧ ∃ b r, s.peer = some b ∧ server.sockets b = some r ∧
        r.kind ≠ .smartSocket)
    (unqueued : s.closing = true → s'.queue.first ≠ none) :
    Consistent server' := by
  refine consistent.update s' live sockets lists (fun c _ _ _ _ => origin c) same peer ?_ ?_ ?_
  · intro remote
    rw [isLocal] at remote
    cases remote
  · intro b r peered live_b smart
    by_contra nonempty
    obtain ⟨r', live_b', peered_b⟩ := consistent.symmetric a s b live peered
    rw [live_b] at live_b'
    cases live_b'
    rcases queued nonempty with before | ⟨_, d, p, peered', live_p, other⟩
    · exact before (consistent.smart_peer b r a s live_b smart peered_b live)
    · rw [peered] at peered'
      cases peered'
      rw [live_b] at live_p
      cases live_p
      exact other smart
  · intro _ ok
    refine ⟨represents, write_iff, ?_, by rw [same.closing, same.id]; exact ok.open_listed, ?_,
      ?_, ?_⟩
    · intro stillOpen nonempty
      rw [same.closing] at stillOpen
      rw [peer]
      rcases queued nonempty with before | ⟨_, b, r, peered, _⟩
      · exact ok.owned stillOpen before
      · simp [peered]
    · intro closed
      rw [same.closing] at closed
      obtain ⟨member, id_eq, unpeered, _⟩ := ok.closing_listed closed
      exact ⟨member, same.id.trans id_eq, peer.trans unpeered, unqueued closed⟩
    · intro unpeered
      rw [peer] at unpeered
      rw [← Bool.not_eq_true]
      intro reads
      rcases wantRead reads with before | peered
      · rw [ok.idle unpeered] at before
        cases before
      · exact peered unpeered
    · intro notified
      rw [peer, same.closing]
      exact ok.notify_unpeered (notify notified)

@[simp] theorem Server.origin_recordOutput (server : Server) (a : Nat) (bytes : List UInt8)
    (c : Nat) : ((server.recordOutput a bytes).history c).origin = (server.history c).origin := by
  rcases eq_or_ne c a with rfl | different
  · simp [Server.recordOutput, Server.record]
  · simp [Server.recordOutput, Server.record, different]

@[simp] theorem Server.origin_recordInput (server : Server) (a : Nat) (bytes : List UInt8)
    (c : Nat) :
    ((server.record a fun h => { h with input := h.input ++ bytes }).history c).origin =
      (server.history c).origin := by
  rcases eq_or_ne c a with rfl | different
  · simp [Server.record]
  · simp [Server.record, different]

theorem Consistent.effect {server server' : Server} (consistent : Consistent server)
    (effect : Effect server server') : Consistent server' := by
  cases effect with
  | quiet same => exact consistent.congr same.sameSockets
  | closes gone closes => exact consistent.closes closes
  | @adjust a s change live adjusts =>
      refine consistent.update (change s) live (Server.sockets_modify live) (.of rfl)
        (fun _ _ _ _ _ => rfl) ⟨adjusts.kind, adjusts.id, adjusts.closing⟩ adjusts.peer
        adjusts.transport ?_ ?_
      · intro b r peered live_b smart
        obtain ⟨r', live_b', peered_b⟩ := consistent.symmetric a s b live peered
        rw [live_b] at live_b'
        cases live_b'
        rw [adjusts.queue]
        exact consistent.smart_peer b r a s live_b smart peered_b live
      · intro _ ok
        refine ⟨by rw [adjusts.queue]; exact ok.represents,
          by rw [adjusts.queue, adjusts.wantWrite]; exact ok.write_iff,
          by rw [adjusts.queue, adjusts.closing, adjusts.peer]; exact ok.owned,
          by rw [adjusts.closing, adjusts.id]; exact ok.open_listed,
          by rw [adjusts.closing, adjusts.id, adjusts.peer, adjusts.queue]; exact
            ok.closing_listed, ?_, ?_⟩
        · intro unpeered
          rw [adjusts.peer] at unpeered
          rw [← Bool.not_eq_true]
          intro reads
          have before := adjusts.wantRead reads
          rw [ok.idle unpeered] at before
          cases before
        · intro notified
          rw [adjusts.peer, adjusts.closing]
          exact ok.notify_unpeered (adjusts.notify notified)
  | @wake a s b live isLocal peer =>
      have ok := consistent.locals a s live isLocal
      exact consistent.requeue live isLocal (Server.sockets_modify live) (.of rfl) (fun _ => rfl)
        ⟨rfl, rfl, rfl⟩ rfl id (fun _ => .inr (by simp [peer])) ok.represents ok.write_iff .inl
        fun closing => (ok.closing_listed closing).2.2.2
  | @output a s b r bytes =>
      exact consistent.congr (.of rfl (Server.origin_recordOutput server a bytes))
  | @input a s bytes =>
      exact consistent.congr (.of rfl (Server.origin_recordInput server a bytes))
  | @push a s b r packet live isLocal peer live_b other _ =>
      have ok := consistent.locals a s live isLocal
      obtain ⟨packets, represents⟩ := ok.represents
      have pushed := represents.push packet
      have nonempty : (s.queue.push packet).first ≠ none := by
        simp [pushed.first_eq_none_iff]
      exact consistent.requeue live isLocal (Server.sockets_modify live) (.of rfl) (fun _ => rfl)
        ⟨rfl, rfl, rfl⟩ rfl id .inl ⟨_, pushed⟩ (by simp [nonempty])
        (fun _ => .inr ⟨ok.stillOpen_of_peer peer, b, r, peer, live_b, other⟩) fun _ => nonempty
  | @drainSome a s queue packets packets' bytes live isLocal before after nonempty nonempty' _ =>
      have ok := consistent.locals a s live isLocal
      have queued : s.queue.first ≠ none := by simp [before.first_eq_none_iff, nonempty]
      have queued' : queue.first ≠ none := by simp [after.first_eq_none_iff, nonempty']
      exact consistent.requeue live isLocal (Server.sockets_modify live) (.of rfl)
        (Server.origin_recordOutput _ a bytes) ⟨rfl, rfl, rfl⟩ rfl id .inl ⟨_, after⟩
        (by simp [ok.write_iff, queued, queued']) (fun _ => .inl queued) fun _ => queued'
  | @drainLast a s packets live isLocal closing _ =>
      exact consistent.destroy live isLocal closing packets.flatten
  | @drainAll a s b r queue packets live isLocal peer live_b _ _ after =>
      have ok := consistent.locals a s live isLocal
      have unqueued : queue.first = none := by simp [after.first_eq_none_iff]
      exact consistent.requeue live isLocal (Server.sockets_modify live) (.of rfl)
        (Server.origin_recordOutput _ a _) ⟨rfl, rfl, rfl⟩ rfl id .inl ⟨_, after⟩
        (by simp [unqueued]) (by simp [unqueued]) (by simp [ok.stillOpen_of_peer peer])
  | @drainAnswer a s b r transport queue packets live isLocal peer live_b _ _ _ _ after =>
      have ok := consistent.locals a s live isLocal
      have unqueued : queue.first = none := by simp [after.first_eq_none_iff]
      exact consistent.requeue live isLocal (Server.sockets_modify live) (.of rfl)
        (Server.origin_recordOutput _ a _) ⟨rfl, rfl, rfl⟩ rfl id .inl ⟨_, after⟩
        (by simp [unqueued]) (by simp [unqueued]) (by simp [ok.stillOpen_of_peer peer])
  | @readSend a s b r transport data live isLocal peer live_b _ _ _ =>
      have ok := consistent.locals a s live isLocal
      refine consistent.requeue live isLocal (Server.sockets_modify live) (.of rfl)
        (Server.origin_recordInput server a data) ⟨rfl, rfl, rfl⟩ rfl id (by simp) ok.represents
        ok.write_iff .inl fun closing => (ok.closing_listed closing).2.2.2
  | createLocal => exact consistent.createLocalSocket
  | createOther s notLocal notRemote unpeered zero =>
      exact consistent.create rfl rfl (.inr ⟨notLocal, rfl⟩) rfl consistent.nextId_ne
        (fun _ _ => rfl) (fun _ _ => .inl) unpeered (fun remote => absurd remote notRemote)
        (fun _ => zero) fun isLocal => absurd isLocal notLocal
  | @join a c s r live isLocal stillOpen unpeered unnotified origin live_c notLocal notRemote
      unpeered_c =>
      have different : a ≠ c := by
        rintro rfl
        rw [live] at live_c
        cases live_c
        exact notLocal isLocal
      refine consistent.attach { s with peer := some c } different live live_c ?_ (.of rfl)
        (fun _ _ => rfl) isLocal stillOpen unpeered unpeered_c
        (fun isLocal' => absurd isLocal' notLocal) ⟨rfl, rfl, rfl⟩ rfl rfl unnotified rfl
        (fun _ => origin) fun isLocal' => absurd isLocal' notLocal
      simp [Server.link, Server.modify, live, live_c, different.symm]
  | @switch a b c s r q live isLocal peer live_b smart live_c unpeered_c service =>
      have ok := consistent.locals a s live isLocal
      have stillOpen := ok.stillOpen_of_peer peer
      have a_ne_b := consistent.ne_peer live peer
      have c_ne_a : c ≠ a := by
        rintro rfl
        rw [live] at live_c
        cases live_c
        rw [peer] at unpeered_c
        cases unpeered_c
      have c_ne_b : c ≠ b := by
        rintro rfl
        rw [live_b] at live_c
        cases live_c
        rcases service with tracker | ⟨isLocal', _⟩
        · rw [smart] at tracker
          cases tracker
        · rw [smart] at isLocal'
          cases isLocal'
      have origin := consistent.unstreamed a s b r live isLocal peer live_b (by simp [smart])
      -- The client is without a peer between its smart socket and the service.
      have alone : Consistent
          ((server.modify a fun s => { s with peer := none, wantRead := false }).free b) := by
        refine consistent.detach { s with peer := none, wantRead := false } live live_b ?_ (.of rfl)
          (fun _ _ => rfl) isLocal peer smart ⟨rfl, rfl, rfl⟩ rfl rfl rfl rfl
        simp [Server.free, Server.modify, live]
      refine alone.attach (s := { s with peer := none, wantRead := false })
        { s with peer := some c } c_ne_a.symm ?_ ?_ ?_ (.of rfl) (fun _ _ => rfl) isLocal stillOpen
        rfl unpeered_c ?_ ⟨rfl, rfl, rfl⟩ rfl rfl (ok.unnotified_of_peer peer) rfl
        (fun _ => origin) ?_
      · simp [Server.free, Server.modify, live, a_ne_b]
      · simp [Server.free, Server.modify, live_c, c_ne_a, c_ne_b]
      · simp only [Server.free, Server.modify, Server.link, live, Option.map_some,
          Function.update_of_ne c_ne_a, live_c]
        rw [Function.update_comm c_ne_b, Function.update_comm a_ne_b.symm,
          Function.update_idem]
      · intro isLocal'
        rcases service with tracker | ⟨_, open_c, quiet_c, _⟩
        · rw [isLocal'] at tracker
          cases tracker
        · exact ⟨open_c, quiet_c⟩
      · intro isLocal'
        rcases service with tracker | ⟨_, _, _, origin_c⟩
        · rw [isLocal'] at tracker
          cases tracker
        · exact origin_c
  | @openForward a s transport payload live isLocal stillOpen unpeered origin =>
      refine consistent.update s live ?_ (.of rfl) ?_ ⟨rfl, rfl, rfl⟩ rfl (fun _ => rfl) ?_
        fun _ ok => ok
      · simp [Server.openStream, Server.record, Server.sendPacket, ← live]
      · intro c q b live_q peer_q
        have different : c ≠ a := by
          rintro rfl
          rw [live] at live_q
          cases live_q
          rw [unpeered] at peer_q
          cases peer_q
        simp [Server.openStream, Server.record, Server.sendPacket, different]
      · intro b r peered
        rw [unpeered] at peered
        cases peered
  | @openClient a b s r transport payload live isLocal peer live_b smart =>
      refine consistent.detach { s with
        notify := true, peer := none, transport := some transport, wantRead := false }
        live live_b ?_ (.of rfl) ?_ isLocal peer smart ⟨rfl, rfl, rfl⟩ rfl rfl rfl rfl
      · simp [Server.openStream, Server.record, Server.sendPacket, Server.free, Server.modify, live]
      · intro c different
        simp [Server.openStream, Server.record, Server.sendPacket, Server.free, Server.modify,
          different]

theorem Consistent.effects {server server' : Server} (consistent : Consistent server)
    (effects : Effects server server') : Consistent server' := by
  induction effects with
  | refl => exact consistent
  | tail _ last induction => exact induction.effect last

end Sockets
end AdbWide
