import AdbWide.Sockets.StreamPackets

/-!
# What stays

Whatever a server does, the packets it has sent stay sent, and what has become of its sockets stays
so: a socket keeps its id, a stream its origin and its mate.  A socket gets a mate only by a packet.
-/

namespace AdbWide
namespace Sockets

/-! ## What is sent and received -/

/-- Some packets are received, packets of sockets are sent and local sockets are made. -/
structure Advances (server server' : Server) (heard : List Message) : Prop where
  inbox : server'.inbox = server.inbox ++ heard
  sent : ∃ extra, server'.sent = server.sent ++ extra ∧ ∀ entry ∈ extra, entry.2.IsSocket
  installs : server.installs ≤ server'.installs

section Advances

variable {server server' : Server} {heard : List Message} {message : Message} {transport : Nat}

theorem Advances.of_same (inbox : server'.inbox = server.inbox ++ heard)
    (sent : server'.sent = server.sent) (installs : server.installs ≤ server'.installs) :
    Advances server server' heard :=
  ⟨inbox, ⟨[], by simp [sent]⟩, installs⟩

theorem Advances.of_send (inbox : server'.inbox = server.inbox ++ heard)
    (sent : server'.sent = server.sent ++ [(transport, message)]) (isSocket : message.IsSocket)
    (installs : server.installs ≤ server'.installs) : Advances server server' heard :=
  ⟨inbox, ⟨_, sent, by simpa using isSocket⟩, installs⟩

theorem Advances.refl (server : Server) : Advances server server [] :=
  .of_same (by simp) rfl (Nat.le_refl _)

theorem Advances.trans {server'' : Server} (advances : Advances server server' heard)
    (advances' : Advances server' server'' []) : Advances server server'' heard := by
  obtain ⟨extra, sent, isSocket⟩ := advances.sent
  obtain ⟨extra', sent', isSocket'⟩ := advances'.sent
  refine ⟨?_, ⟨extra ++ extra', by rw [sent', sent, List.append_assoc], ?_⟩,
    Nat.le_trans advances.installs advances'.installs⟩
  · rw [advances'.inbox, advances.inbox, List.append_nil]
  · intro entry member
    rcases List.mem_append.mp member with earlier | later
    · exact isSocket entry earlier
    · exact isSocket' entry later

theorem Closes.advances {gone : Nat → Prop} (closes : Closes server server' gone) :
    Advances server server' [] := by
  obtain ⟨extra, sent, are_closes⟩ := closes.sent
  refine ⟨by simp [Server.inbox, closes.received], ⟨extra, sent, fun entry member => ?_⟩,
    Nat.le_of_eq closes.installs.symm⟩
  simp [Message.IsSocket, are_closes entry member]

theorem Effect.advances (effect : Effect server server') : Advances server server' [] := by
  have installs := effect.installs_le
  cases effect with
  | quiet same => exact .of_same (by simp [Server.inbox, same.received]) same.sent installs
  | closes _ closes => exact closes.advances
  | adjust | wake | output | input | push | drainSome | drainLast | drainAll | createLocal
  | createOther | join | switch => exact .of_same (List.append_nil _).symm rfl installs
  | drainAnswer | readSend | openForward | openClient =>
      exact .of_send (List.append_nil _).symm rfl (by simp [Message.IsSocket]) installs

theorem Effects.advances (effects : Effects server server') : Advances server server' [] := by
  induction effects with
  | refl => exact .refl _
  | tail _ last induction => exact induction.trans last.advances

theorem Receipt.advances (receipt : Receipt server transport message server') :
    Advances server server' [message] := by
  have inbox := Server.inbox_logged server transport message
  cases receipt with
  | inert | connect | resume | queued => exact .of_same inbox rfl (Nat.le_refl _)
  | accept => exact .of_send inbox rfl (by simp [Message.IsSocket]) (Nat.le_succ _)
  | written => exact .of_send inbox rfl (by simp [Message.IsSocket]) (Nat.le_refl _)
  | @broke a _ _ _ bytes _ _ _ _ _ _ _ _ closes =>
      have recorded : Advances server ((server.logged transport message).recordOutput a bytes)
          [message] := .of_same inbox rfl (Nat.le_refl _)
      exact recorded.trans closes.advances
  | stray _ _ _ _ _ _ _ _ effects =>
      have logged : Advances server (server.logged transport message) [message] :=
        .of_same inbox rfl (Nat.le_refl _)
      refine (logged.trans (Effects.advances effects)).trans
        (.of_send (List.append_nil _).symm rfl ?_ (Nat.le_refl _))
      simp [Message.IsSocket]

theorem Handles.advances (handles : Handles server transport message server') :
    Advances server server' [message] := by
  obtain ⟨middle, receipt, effects⟩ := handles
  exact receipt.advances.trans (Effects.advances effects)

/-- The packets for the first transport stay sent as well. -/
theorem Advances.outbox (advances : Advances server server' heard) :
    server.outbox <+: server'.outbox := by
  obtain ⟨extra, sent, _⟩ := advances.sent
  rw [Server.outbox_append sent]
  exact List.prefix_append _ _

theorem Advances.isSocket (advances : Advances server server' heard)
    (before : ∀ entry ∈ server.sent, entry.2.IsSocket) :
    ∀ entry ∈ server'.sent, entry.2.IsSocket := by
  obtain ⟨extra, sent, isSocket⟩ := advances.sent
  intro entry member
  rw [sent, List.mem_append] at member
  exact member.elim (before entry) (isSocket entry)

end Advances

/-! ## What has become of the sockets -/

/-- What has become of a socket, before and after some packets were received. -/
structure Lineage (heard : List Message) (h h' : History) : Prop where
  id : h.id ≠ 0 → h'.id = h.id
  origin : h.origin ≠ .none → h'.origin = h.origin
  mate : ∀ mate, h.mate = some mate → h'.mate = some mate
  /-- A socket that has opened a stream gets its mate by an `A_OKAY` packet. -/
  wed : ∀ mate, h'.mate = some mate →
    h.mate = some mate ∨ h'.origin = .accepted ∨
      h.mate = none ∧ ∃ message ∈ heard, message.command = .okay ∧ message.arg0 = mate ∧
        message.arg1 = h.id

section Lineage

variable {h h' : History} {heard : List Message}

theorem Lineage.of_same (id : h'.id = h.id) (origin : h.origin ≠ .none → h'.origin = h.origin)
    (mate : h'.mate = h.mate) : Lineage heard h h' :=
  ⟨fun _ => id, origin, by simp [mate], fun _ mated => .inl (mate.symm.trans mated)⟩

theorem Lineage.refl (h : History) : Lineage heard h h :=
  .of_same rfl (fun _ => rfl) rfl

theorem Lineage.of_blank (blank : h = {}) (wed : h'.mate ≠ none → h'.origin = .accepted) :
    Lineage heard h h' := by
  subst blank
  refine ⟨by simp, by simp, by simp, fun mate mated => .inr (.inl (wed ?_))⟩
  simp [mated]

theorem Lineage.trans {h'' : History} (lineage : Lineage heard h h')
    (lineage' : Lineage [] h' h'') : Lineage heard h h'' := by
  refine ⟨?_, ?_, fun mate mated => lineage'.mate mate (lineage.mate mate mated), ?_⟩
  · intro nonzero
    have same := lineage.id nonzero
    rw [lineage'.id (by rwa [same]), same]
  · intro some_origin
    have same := lineage.origin some_origin
    rw [lineage'.origin (by rwa [same]), same]
  · intro mate mated
    rcases lineage'.wed mate mated with before | accepted | ⟨_, message, member, _⟩
    · rcases lineage.wed mate before with earlier | accepted | answered
      · exact .inl earlier
      · refine .inr (.inl ?_)
        rw [lineage'.origin (by simp [accepted]), accepted]
      · exact .inr (.inr answered)
    · exact .inr (.inl accepted)
    · cases member

/-- The history of one socket changes. -/
theorem lineage_update {server server' : Server} {a : Nat}
    (history : server'.history = Function.update server.history a h')
    (lineage : Lineage heard (server.history a) h') (c : Nat) :
    Lineage heard (server.history c) (server'.history c) := by
  rw [history]
  rcases eq_or_ne c a with rfl | different
  · rw [Function.update_self]
    exact lineage
  · rw [Function.update_of_ne different]
    exact .refl _

end Lineage

section Continues

variable {server server' : Server} {message : Message}

theorem Effect.lineage (effect : Effect server server') (numbered : Numbered server)
    (consistent : Consistent server) (c : Nat) :
    Lineage [] (server.history c) (server'.history c) := by
  cases effect with
  | quiet same =>
      rw [same.history]
      exact .refl _
  | closes _ closes =>
      rw [closes.history]
      exact .refl _
  | adjust | wake | push | createOther | join | switch => exact .refl _
  | output | input | drainSome | drainLast | drainAll | drainAnswer | readSend =>
      refine lineage_update rfl ?_ c
      exact .of_same rfl (fun _ => rfl) rfl
  | createLocal =>
      have zero := numbered.fresh server.fresh (Nat.le_refl _)
      exact lineage_update rfl (.of_blank (numbered.blank server.fresh zero) (by simp)) c
  | openForward a transport payload _ _ _ _ origin =>
      refine lineage_update rfl ?_ c
      exact .of_same rfl (fun some_origin => absurd origin some_origin) rfl
  | openClient a b transport payload live isLocal peer live_b smart =>
      have origin := consistent.unstreamed a _ b _ live isLocal peer live_b (by simp [smart])
      refine lineage_update rfl ?_ c
      exact .of_same rfl (fun some_origin => absurd origin some_origin) rfl

theorem Effects.lineage (effects : Effects server server') (streaming : Streaming server)
    (consistent : Consistent server) (few : server'.installs < 2 ^ 32 - 1) (c : Nat) :
    Lineage [] (server.history c) (server'.history c) := by
  induction effects with
  | refl => exact .refl _
  | tail earlier last induction =>
      have before := last.installs_le
      have streaming' := streaming.effects consistent earlier (by omega)
      exact (induction (by omega)).trans
        (last.lineage streaming'.numbered (consistent.effects earlier) c)

theorem Receipt.lineage (receipt : Receipt server 0 message server') (streaming : Streaming server)
    (consistent : Consistent server) (legit : Legit server message) (c : Nat) :
    Lineage [message] (server.history c) (server'.history c) := by
  cases receipt with
  | inert | resume => exact .refl _
  | accept =>
      have zero := streaming.numbered.fresh server.fresh (Nat.le_refl _)
      have history : ((server.logged 0 message).acceptStream 0 message.arg0).history =
          Function.update server.history server.fresh
            { id := server.localSocketNextId, origin := .accepted, mate := some message.arg0 } := by
        simp [Server.acceptStream, Server.createLocalSocket, Server.createRemoteSocket,
          Server.link, Server.modify, Server.record, Server.sendPacket, Server.logged]
      have blank := streaming.numbered.blank server.fresh zero
      exact lineage_update history (.of_blank blank (by simp)) c
  | connect a command live isLocal stillOpen id unpeered =>
      have unmated := (streaming.ends a).unpeered _ live stillOpen unpeered
      obtain ⟨_, id_eq⟩ := streaming.numbered.installed a _ live isLocal
      refine lineage_update rfl ?_ c
      refine ⟨fun _ => rfl, fun _ => rfl, ?_, ?_⟩
      · intro mate mated
        have unmated' : (server.history a).mate = none := unmated
        exact absurd (unmated'.symm.trans mated) (by simp)
      · intro mate mated
        refine .inr (.inr ⟨unmated, message, by simp, command, Option.some.inj mated, ?_⟩)
        rw [← id, id_eq stillOpen]
  | written | queued =>
      refine lineage_update rfl ?_ c
      exact .of_same rfl (fun _ => rfl) rfl
  | broke _ _ _ _ _ closes =>
      refine lineage_update closes.history ?_ c
      exact .of_same rfl (fun _ => rfl) rfl
  | stray _ command live isLocal id peer live_b not_remote _ =>
      exact (streaming.not_stray consistent legit command live isLocal id peer live_b
        not_remote).elim

theorem Handles.lineage (handles : Handles server 0 message server') (streaming : Streaming server)
    (consistent : Consistent server) (legit : Legit server message)
    (few : server'.installs < 2 ^ 32 - 1) (c : Nat) :
    Lineage [message] (server.history c) (server'.history c) := by
  obtain ⟨middle, receipt, effects⟩ := handles
  have before := Effects.installs_le effects
  exact (receipt.lineage streaming consistent legit c).trans (Effects.lineage effects
    (streaming.receipt consistent legit receipt (by omega)) (consistent.receipt receipt) few c)

end Continues

end Sockets
end AdbWide
