import AdbWide.Sockets.StreamEffects

/-!
# Packets of streams

A packet from the other end of the transport keeps the streams in order when it names a stream there
is, answers nothing before it was asked, and asks for no stream twice.
-/

namespace AdbWide
namespace Sockets

/-! ## Packets that can be expected -/

/-- A packet that may come from a server whose streams are in order. -/
structure Legit (server : Server) (message : Message) : Prop where
  opens : message.command = .open → message.arg0 ∉ opens server.inbox
  sender : message.IsStream → message.arg0 ≠ 0
  receiver : message.IsStream → ∃ a, (server.history a).id = message.arg1 ∧
    (server.history a).id ≠ 0 ∧ (server.history a).origin ≠ .none
  first : message.command = .okay → ∀ a s, server.sockets a = some s →
    (server.history a).id = message.arg1 → (server.history a).mate = none →
      wrtes message.arg0 message.arg1 server.inbox = 0

theorem Message.eq_of {message : Message} {command : Command} {arg0 arg1 : Nat}
    (is_command : message.command = command) (is_arg0 : message.arg0 = arg0)
    (is_arg1 : message.arg1 = arg1) : message = ⟨command, arg0, arg1, message.payload⟩ := by
  subst is_command is_arg0 is_arg1
  rfl

theorem Server.inbox_logged (server : Server) (transport : Nat) (message : Message) :
    (server.logged transport message).inbox = server.inbox ++ [message] := by
  simp [Server.inbox, Server.logged]

/-- An open local socket is found by its id. -/
theorem findLocalSocket_open {server : Server} {a : Nat} {s : Asocket}
    (numbered : Numbered server) (consistent : Consistent server)
    (live : server.sockets a = some s) (isLocal : s.kind = .localSocket)
    (stillOpen : s.closing = false) : server.findLocalSocket s.id 0 = some a := by
  have member := ((consistent.locals a s live isLocal).open_listed stillOpen).1
  obtain ⟨nonzero, id_eq⟩ := numbered.installed a s live isLocal
  cases found : server.findLocalSocket s.id 0 with
  | none =>
      simp only [Server.findLocalSocket, true_or, if_true] at found
      split at found
      · rename_i missing
        have absent := List.find?_eq_none.mp missing a member
        simp [live] at absent
      · cases found
  | some c =>
      obtain ⟨q, live_c, isLocal_c, open_c, id_c, _⟩ := findLocalSocket_spec consistent found
      obtain ⟨_, id_eq_c⟩ := numbered.installed c q live_c isLocal_c
      have same := numbered.unique a c nonzero (by
        rw [← id_eq stillOpen, ← id_eq_c open_c, id_c])
      rw [same]

/-- The peer of an open socket with a mate is the remote socket with the mate's id. -/
theorem Streaming.remote_of_mate {server : Server} {a mate : Nat} {s : Asocket}
    (streaming : Streaming server) (consistent : Consistent server)
    (live : server.sockets a = some s) (isLocal : s.kind = .localSocket)
    (stillOpen : s.closing = false) (mated : (server.history a).mate = some mate) :
    ∃ b r, s.peer = some b ∧ server.sockets b = some r ∧ r.kind = .remoteSocket ∧ r.id = mate := by
  have peered : s.peer ≠ none := by
    intro unpeered
    rw [(streaming.ends a).unpeered s live stillOpen unpeered] at mated
    cases mated
  obtain ⟨b, peer⟩ := Option.ne_none_iff_exists'.mp peered
  obtain ⟨r, live_b, _⟩ := consistent.symmetric a s b live peer
  have remote : r.kind = .remoteSocket := by
    by_contra other
    have origin := consistent.unstreamed a s b r live isLocal peer live_b other
    rw [streaming.mate_of_none origin] at mated
    cases mated
  have same := (streaming.toOrdered.mate_of_remote consistent live isLocal peer live_b remote).1
  rw [mated] at same
  exact ⟨b, r, peer, live_b, remote, (Option.some.inj same).symm⟩

/-- A socket that waits for the answer to an `A_OPEN` packet is open and has no peer. -/
theorem Streaming.unpeered_of_waiting {server : Server} {a : Nat} {s : Asocket}
    (streaming : Streaming server) (consistent : Consistent server)
    (live : server.sockets a = some s) (isLocal : s.kind = .localSocket)
    (origin : (server.history a).origin = .opened) (unmated : (server.history a).mate = none) :
    s.closing = false ∧ s.peer = none := by
  have ok := consistent.locals a s live isLocal
  have unqueued := ((streaming.ends a).waiting origin unmated s live).1
  constructor
  · by_contra closed
    rw [Bool.not_eq_false] at closed
    exact (ok.closing_listed closed).2.2.2 unqueued
  · by_contra peered
    obtain ⟨b, peer⟩ := Option.ne_none_iff_exists'.mp peered
    obtain ⟨r, live_b, _⟩ := consistent.symmetric a s b live peer
    by_cases remote : r.kind = .remoteSocket
    · have mated :=
        (streaming.toOrdered.mate_of_remote consistent live isLocal peer live_b remote).1
      rw [unmated] at mated
      cases mated
    · rw [consistent.unstreamed a s b r live isLocal peer live_b remote] at origin
      cases origin

/-! ## Packets that do nothing -/

theorem Ordered.logged {server : Server} (ordered : Ordered server) (transport : Nat)
    {message : Message}
    (receiver : message.IsStream → ∃ a, (server.history a).id = message.arg1 ∧
      (server.history a).id ≠ 0 ∧ (server.history a).origin ≠ .none) :
    Ordered (server.logged transport message) := by
  obtain ⟨numbered, spoken, unwritten⟩ := ordered
  refine ⟨⟨numbered.next, numbered.le, numbered.unique, numbered.blank, numbered.fresh,
    numbered.installed, numbered.others⟩, ⟨spoken.online, spoken.remote, spoken.words, ?_,
      spoken.opens_nodup, spoken.opens_own, spoken.accepted_unique⟩, unwritten⟩
  intro other member isStream
  rw [Server.inbox_logged, List.mem_append] at member
  rcases member with earlier | latest
  · exact spoken.heard other earlier isStream
  · rw [List.mem_singleton.mp latest] at isStream ⊢
    exact receiver isStream

/-- What others hear of a packet for one socket. -/
theorem Streaming.hear_others {server : Server} {a : Nat} {message : Message}
    (streaming : Streaming server) (transport : Nat)
    (id_eq : (server.history a).id = message.arg1) (nonzero : (server.history a).id ≠ 0) (c : Nat)
    (different : c ≠ a) :
    StreamOk ((server.logged transport message).history c)
      ((server.logged transport message).sockets c) (server.logged transport message).inbox
      (server.logged transport message).outbox := by
  have elsewhere : message.arg1 ≠ (server.history c).id := by
    intro same
    exact different (streaming.numbered.unique a c nonzero (id_eq.trans same)).symm
  rw [Server.inbox_logged]
  refine (streaming.ends c).hear message ?_ ?_
  · intro mate s _ _ _
    simp [Message.isWrte, elsewhere]
  · intro _ _ s _ _
    exact elsewhere

theorem Streaming.inert {server : Server} {message : Message} (streaming : Streaming server)
    (consistent : Consistent server) (legit : Legit server message)
    (inert : Inert server 0 message) : Streaming (server.logged 0 message) := by
  have online := streaming.spoken.online
  refine ⟨streaming.toOrdered.logged 0 legit.receiver, fun c => ?_⟩
  rw [Server.inbox_logged]
  have isLocal : ∀ s, server.sockets c = some s → (server.history c).origin ≠ .none →
      s.kind = .localSocket := by
    intro s live origin
    by_contra other
    exact origin (streaming.origin_of_other live other)
  refine (streaming.ends c).hear message ?_ ?_
  · intro mate s mated live stillOpen
    by_contra heard
    simp only [Message.isWrte, Bool.not_eq_false, decide_eq_true_eq] at heard
    have isLocal := isLocal s live ((streaming.ends c).mated (by simp [mated]))
    obtain ⟨nonzero, id_eq⟩ := streaming.numbered.installed c s live isLocal
    have found := findLocalSocket_open streaming.numbered consistent live isLocal stillOpen
    obtain ⟨b, r, peer, live_b, remote, id_b⟩ :=
      streaming.remote_of_mate consistent live isLocal stillOpen mated
    rw [id_eq stillOpen, ← heard.2.2] at found
    have isStream : message.IsStream := .inr heard.1
    refine (inert online (legit.sender isStream) (by rw [heard.2.2]; exact nonzero) isStream c s
      found live).2 b r peer live_b remote ?_
    rw [id_b, heard.2.1]
  · intro origin unmated s live isOkay same
    have isLocal := isLocal s live (by simp [origin])
    obtain ⟨nonzero, id_eq⟩ := streaming.numbered.installed c s live isLocal
    obtain ⟨stillOpen, unpeered⟩ :=
      streaming.unpeered_of_waiting consistent live isLocal origin unmated
    have found := findLocalSocket_open streaming.numbered consistent live isLocal stillOpen
    rw [id_eq stillOpen, ← same] at found
    have isStream : message.IsStream := .inl isOkay
    exact (inert online (legit.sender isStream) (by rw [same]; exact nonzero) isStream c s found
      live).1 isOkay unpeered

/-! ## Packets for a connected socket -/

section Addressed

variable {server : Server} {message : Message} {a b : Nat} {s r : Asocket}

/-- The socket a packet names is an open end of the stream the packet belongs to. -/
theorem Addressed.stream (addressed : Addressed server message a b s r)
    (ordered : Ordered server) (consistent : Consistent server) :
    (server.history a).mate = some message.arg0 ∧ (server.history a).id = message.arg1 ∧
      (server.history a).id ≠ 0 ∧ s.closing = false := by
  obtain ⟨mated, _, id_eq, nonzero⟩ := ordered.mate_of_remote consistent addressed.live
    addressed.isLocal addressed.peer addressed.live_b addressed.remote
  refine ⟨by rw [mated, addressed.id_b], by rw [← id_eq, addressed.id], nonzero, ?_⟩
  exact (consistent.locals a s addressed.live addressed.isLocal).stillOpen_of_peer addressed.peer

theorem Streaming.resume (streaming : Streaming server) (consistent : Consistent server)
    (legit : Legit server message) (command : message.command = .okay)
    (addressed : Addressed server message a b s r) :
    Streaming ((server.logged 0 message).modify a fun s => { s with wantRead := true }) := by
  obtain ⟨mated, id_eq, nonzero, _⟩ := addressed.stream streaming.toOrdered consistent
  have ok := streaming.ends a
  rw [addressed.live] at ok
  have live : (server.logged 0 message).sockets a = some s := addressed.live
  refine (streaming.toOrdered.logged 0 legit.receiver).streaming_of_touch (a := a) (s := s)
    { s with wantRead := true } (server.history a) [] (consistent.logged 0 message)
    (consistent.receipt (.resume command addressed)) ?_
    (streaming.hear_others 0 id_eq nonzero) ?_ fun _ _ _ => .inr rfl
  · exact
      .of live (Server.sockets_modify live) (by simp [Server.modify, Server.logged])
        (by simp [Server.outbox, Server.modify]) rfl rfl rfl (fun _ => rfl) (by simp)
  · rw [List.append_nil, Server.inbox_logged, Message.eq_of command rfl id_eq.symm]
    exact ok.resume mated

theorem Streaming.written (streaming : Streaming server) (consistent : Consistent server)
    (legit : Legit server message) (command : message.command = .wrte)
    (addressed : Addressed server message a b s r) (unqueued : s.queue.Represents []) :
    Streaming (((server.logged 0 message).recordOutput a message.payload).sendPacket 0
      ⟨.okay, s.id, message.arg0, []⟩) := by
  obtain ⟨mated, id_eq, nonzero, stillOpen⟩ := addressed.stream streaming.toOrdered consistent
  have ok := streaming.ends a
  rw [addressed.live] at ok
  have live : (server.logged 0 message).sockets a = some s := addressed.live
  have id_s : s.id = (server.history a).id := addressed.id.trans id_eq.symm
  refine (streaming.toOrdered.logged 0 legit.receiver).streaming_of_touch (a := a) (s := s) s
    { server.history a with output := (server.history a).output ++ message.payload }
    [⟨.okay, (server.history a).id, message.arg0, []⟩] (consistent.logged 0 message)
    (consistent.receipt (.written command addressed unqueued)) ?_
    (streaming.hear_others 0 id_eq nonzero) ?_ fun _ _ origin => ?_
  · exact
      .of live (by simp [Server.sendPacket, Server.recordOutput, Server.record, ← live]) rfl
        (by simp [Server.outbox, Server.recordOutput, Server.record, Server.sendPacket, id_s]) rfl
        rfl rfl (fun zero => absurd zero nonzero)
        (by simpa [Message.IsStream, Server.logged] using ⟨nonzero, mated⟩)
  · rw [Server.inbox_logged]
    have named := Message.eq_of command rfl id_eq.symm
    have done := ok.written message.payload mated unqueued stillOpen
    rw [← named] at done
    exact done
  · have origin' : (server.history a).origin = .none := origin
    rw [streaming.mate_of_none origin'] at mated
    cases mated

theorem Streaming.queued {packets : List (List UInt8)} {bytes rest : List UInt8}
    (streaming : Streaming server) (consistent : Consistent server)
    (legit : Legit server message) (command : message.command = .wrte)
    (addressed : Addressed server message a b s r) (represents : s.queue.Represents packets)
    (parts : bytes ++ rest = message.payload) (order : packets ≠ [] → bytes = []) :
    Streaming (((server.logged 0 message).recordOutput a bytes).enqueuePacket a rest) := by
  obtain ⟨mated, id_eq, nonzero, stillOpen⟩ := addressed.stream streaming.toOrdered consistent
  have ok := streaming.ends a
  rw [addressed.live] at ok
  have live : (server.logged 0 message).sockets a = some s := addressed.live
  refine (streaming.toOrdered.logged 0 legit.receiver).streaming_of_touch (a := a) (s := s)
    { s with queue := s.queue.push rest, wantWrite := true }
    { server.history a with output := (server.history a).output ++ bytes } []
    (consistent.logged 0 message)
    (consistent.receipt (.queued bytes rest command addressed represents parts order)) ?_
    (streaming.hear_others 0 id_eq nonzero) ?_ fun _ _ origin => ?_
  · exact
      .of live (Server.sockets_modify live) rfl
        (by
          simp [Server.outbox, Server.recordOutput, Server.record, Server.enqueuePacket,
            Server.modify])
        rfl rfl rfl (fun zero => absurd zero nonzero) (by simp)
  · rw [List.append_nil, Server.inbox_logged]
    have named := Message.eq_of command rfl id_eq.symm
    have done := ok.queued bytes rest mated represents stillOpen order
    rw [parts, ← named] at done
    exact done
  · have origin' : (server.history a).origin = .none := origin
    rw [streaming.mate_of_none origin'] at mated
    cases mated

theorem Streaming.broke {bytes rest : List UInt8} {gone : Nat → Prop} {server' : Server}
    (streaming : Streaming server) (consistent : Consistent server)
    (legit : Legit server message) (command : message.command = .wrte)
    (addressed : Addressed server message a b s r) (unqueued : s.queue.Represents [])
    (parts : bytes ++ rest = message.payload) (left : gone a)
    (closes : Closes ((server.logged 0 message).recordOutput a bytes) server' gone) :
    Streaming server' := by
  obtain ⟨mated, id_eq, nonzero, stillOpen⟩ := addressed.stream streaming.toOrdered consistent
  have live : (server.logged 0 message).sockets a = some s := addressed.live
  have recorded := (consistent.logged 0 message).recordOutput a bytes
  have touch : Touch (server.logged 0 message)
      ((server.logged 0 message).recordOutput a bytes) a s s
      { server.history a with output := (server.history a).output ++ bytes } [] :=
    .of live (by simp [Server.recordOutput, Server.record, ← live]) rfl
      (by simp [Server.outbox, Server.recordOutput, Server.record]) rfl rfl rfl
      (fun zero => absurd zero nonzero) (by simp)
  have ordered : Ordered ((server.logged 0 message).recordOutput a bytes) := by
    refine (streaming.toOrdered.logged 0 legit.receiver).touch (consistent.logged 0 message)
      recorded touch fun _ _ origin => ?_
    have origin' : (server.history a).origin = .none := origin
    rw [streaming.mate_of_none origin'] at mated
    cases mated
  obtain ⟨extra, plain, quiet⟩ := closes.plain
  refine ⟨plain.ordered recorded (recorded.closes closes) ordered ?_, ?_⟩
  · intro c q q' live_q live_q' _ open_q _ _
    exact .inr ⟨.inl (closes.steady live_q live_q' open_q), by rw [closes.history]⟩
  · intro c
    rw [plain.inbox, plain.outbox, closes.history]
    have silent : ∀ id, Silent id extra := fun id other member isStream =>
      absurd isStream (quiet other member)
    rcases eq_or_ne c a with rfl | different
    · -- The queue was empty, so that nothing is left of the socket.
      have dead : server'.sockets c = none := by
        have ended := closes.ended c left
        cases after : server'.sockets c with
        | none => rfl
        | some q =>
            rw [after] at ended
            obtain ⟨p, live_p, _, _, queued, _⟩ := ended.lingering
            have same : some s = some p := live.symm.trans live_p
            cases same
            exact absurd (unqueued.first_eq_none_iff.mpr rfl) queued
      have ok := streaming.ends c
      rw [addressed.live] at ok
      have named := Message.eq_of command rfl id_eq.symm
      have done := ok.broke bytes rest mated unqueued stillOpen
      rw [parts, ← named] at done
      have inbox_eq : ((server.logged 0 message).recordOutput c bytes).inbox =
          server.inbox ++ [message] := Server.inbox_logged server 0 message
      rw [dead, touch.history_self, inbox_eq]
      exact done.frame .gone (silent _)
    · have milder := closes.milder c
      rw [touch.history_of_ne different]
      exact (streaming.hear_others 0 id_eq nonzero c different).frame milder (silent _)

end Addressed

/-! ## New connections -/

/-- The local socket `s` at `a` gets a mate, and a remote socket that stands for it. -/
structure Marries (server server' : Server) (a mate : Nat) (s s' : Asocket) (h' : History)
    (extra : List Message) : Prop where
  live : server.sockets a = some s
  isLocal : s.kind = .localSocket
  stillOpen : s.closing = false
  sockets : server'.sockets = Function.update (Function.update server.sockets a (some s'))
    server.fresh (some { kind := .remoteSocket, id := mate, transport := some 0, peer := some a })
  kind : s'.kind = s.kind
  id : s'.id = s.id
  history : server'.history = Function.update server.history a h'
  h_id : h'.id = (server.history a).id
  h_mate : h'.mate = some mate
  unmated : (server.history a).mate = none
  h_origin : h'.origin ≠ .none
  same_origin : (server.history a).origin ≠ .none → h'.origin = (server.history a).origin
  alone : h'.origin = .accepted → ∀ c, c ≠ a → (server.history c).origin = .accepted →
    (server.history c).mate ≠ some mate
  outbox : server'.outbox = server.outbox ++ extra
  words : ∀ message ∈ extra, message.IsStream ∧ message.arg0 = (server.history a).id ∧
    message.arg1 = mate
  received : server'.received = server.received
  fresh : server'.fresh = server.fresh + 1
  nextId : server'.localSocketNextId = server.localSocketNextId
  installs : server'.installs = server.installs
  online : (server'.transports 0).online = (server.transports 0).online

namespace Marries

variable {server server' : Server} {a mate : Nat} {s s' : Asocket} {h' : History}
  {extra : List Message}

theorem history_self (marries : Marries server server' a mate s s' h' extra) :
    server'.history a = h' := by
  rw [marries.history, Function.update_self]

theorem history_of_ne (marries : Marries server server' a mate s s' h' extra) {c : Nat}
    (different : c ≠ a) : server'.history c = server.history c := by
  rw [marries.history, Function.update_of_ne different]

theorem id_same (marries : Marries server server' a mate s s' h' extra) (c : Nat) :
    (server'.history c).id = (server.history c).id := by
  rcases eq_or_ne c a with rfl | different
  · rw [marries.history_self, marries.h_id]
  · rw [marries.history_of_ne different]

theorem mate_kept (marries : Marries server server' a mate s s' h' extra) {c m : Nat}
    (mated : (server.history c).mate = some m) : (server'.history c).mate = some m := by
  rcases eq_or_ne c a with rfl | different
  · rw [marries.unmated] at mated
    cases mated
  · rw [marries.history_of_ne different, mated]

theorem origin_kept (marries : Marries server server' a mate s s' h' extra) {c : Nat}
    (some_origin : (server.history c).origin ≠ .none) :
    (server'.history c).origin = (server.history c).origin := by
  rcases eq_or_ne c a with rfl | different
  · rw [marries.history_self, marries.same_origin some_origin]
  · rw [marries.history_of_ne different]

theorem inbox_eq (marries : Marries server server' a mate s s' h' extra) :
    server'.inbox = server.inbox := by
  simp [Server.inbox, marries.received]

theorem opens_eq (marries : Marries server server' a mate s s' h' extra) :
    opens server'.outbox = opens server.outbox := by
  have no_opens : opens extra = [] :=
    opens_of_stream fun message member => (marries.words message member).1
  rw [marries.outbox, opens_append, no_opens, List.append_nil]

theorem nonzero (marries : Marries server server' a mate s s' h' extra)
    (numbered : Numbered server) : (server.history a).id ≠ 0 :=
  (numbered.installed a s marries.live marries.isLocal).1

theorem ne_fresh (marries : Marries server server' a mate s s' h' extra)
    (numbered : Numbered server) : a ≠ server.fresh := by
  rintro rfl
  exact marries.nonzero numbered (numbered.fresh server.fresh (Nat.le_refl _))

theorem at_self (marries : Marries server server' a mate s s' h' extra)
    (numbered : Numbered server) : server'.sockets a = some s' := by
  rw [marries.sockets, Function.update_of_ne (marries.ne_fresh numbered), Function.update_self]

theorem at_fresh (marries : Marries server server' a mate s s' h' extra) :
    server'.sockets server.fresh =
      some { kind := .remoteSocket, id := mate, transport := some 0, peer := some a } := by
  rw [marries.sockets, Function.update_self]

theorem at_others (marries : Marries server server' a mate s s' h' extra) {c : Nat}
    (not_a : c ≠ a) (not_fresh : c ≠ server.fresh) : server'.sockets c = server.sockets c := by
  rw [marries.sockets, Function.update_of_ne not_fresh, Function.update_of_ne not_a]

/-- A socket is the one that marries, its remote socket, or one that was there. -/
theorem socket_cases (marries : Marries server server' a mate s s' h' extra)
    (numbered : Numbered server) {c : Nat} {q : Asocket} (live : server'.sockets c = some q) :
    c = a ∧ q = s' ∨
      c = server.fresh ∧
        q = { kind := .remoteSocket, id := mate, transport := some 0, peer := some a } ∨
      c ≠ a ∧ c ≠ server.fresh ∧ server.sockets c = some q := by
  rcases eq_or_ne c a with rfl | not_a
  · rw [marries.at_self numbered] at live
    exact .inl ⟨rfl, (Option.some.inj live).symm⟩
  · rcases eq_or_ne c server.fresh with rfl | not_fresh
    · rw [marries.at_fresh] at live
      exact .inr (.inl ⟨rfl, (Option.some.inj live).symm⟩)
    · rw [marries.at_others not_a not_fresh] at live
      exact .inr (.inr ⟨not_a, not_fresh, live⟩)

theorem numbered (marries : Marries server server' a mate s s' h' extra)
    (numbered : Numbered server) : Numbered server' := by
  have nonzero := marries.nonzero numbered
  refine ⟨?_, ?_, ?_, ?_, ?_, ?_, ?_⟩
  · rw [marries.nextId, marries.installs, numbered.next]
  · intro c
    rw [marries.id_same, marries.installs]
    exact numbered.le c
  · intro c d nonzero_c same
    rw [marries.id_same] at nonzero_c same
    rw [marries.id_same] at same
    exact numbered.unique c d nonzero_c same
  · intro c zero_c
    rw [marries.id_same] at zero_c
    have different : c ≠ a := by
      rintro rfl
      exact nonzero zero_c
    rw [marries.history_of_ne different]
    exact numbered.blank c zero_c
  · intro c unallocated
    rw [marries.fresh] at unallocated
    rw [marries.id_same]
    exact numbered.fresh c (by omega)
  · intro c q live_q isLocal_q
    rw [marries.id_same]
    rcases marries.socket_cases numbered live_q with ⟨rfl, rfl⟩ | ⟨rfl, rfl⟩ | ⟨_, _, live'⟩
    · obtain ⟨_, id_eq⟩ := numbered.installed c s marries.live marries.isLocal
      exact ⟨nonzero, fun _ => marries.id.trans (id_eq marries.stillOpen)⟩
    · cases isLocal_q
    · exact numbered.installed c q live' isLocal_q
  · intro c q live_q other
    rw [marries.id_same]
    rcases marries.socket_cases numbered live_q with ⟨rfl, rfl⟩ | ⟨rfl, rfl⟩ | ⟨_, _, live'⟩
    · exact absurd (marries.kind.trans marries.isLocal) other
    · exact numbered.fresh server.fresh (Nat.le_refl _)
    · exact numbered.others c q live' other

/-- No other stream was accepted from the mate. -/
theorem accepted_unique (marries : Marries server server' a mate s s' h' extra)
    (spoken : Spoken server) {c d : Nat} (accepted : (server'.history c).origin = .accepted)
    (accepted' : (server'.history d).origin = .accepted)
    (same : (server'.history c).mate = (server'.history d).mate) : c = d := by
  rcases eq_or_ne c a with rfl | c_ne
  · rcases eq_or_ne d c with rfl | d_ne
    · rfl
    · rw [marries.history_self] at accepted same
      rw [marries.history_of_ne d_ne] at accepted' same
      exact absurd (same.symm.trans marries.h_mate) (marries.alone accepted d d_ne accepted')
  · rcases eq_or_ne d a with rfl | d_ne
    · rw [marries.history_self] at accepted' same
      rw [marries.history_of_ne c_ne] at accepted same
      exact absurd (same.trans marries.h_mate) (marries.alone accepted' c c_ne accepted)
    · rw [marries.history_of_ne c_ne] at accepted same
      rw [marries.history_of_ne d_ne] at accepted' same
      exact spoken.accepted_unique c d accepted accepted' same

theorem spoken (marries : Marries server server' a mate s s' h' extra)
    (numbered : Numbered server) (spoken : Spoken server) : Spoken server' := by
  refine ⟨?_, ?_, ?_, ?_, ?_, ?_, fun c d => marries.accepted_unique spoken⟩
  · rw [marries.online, spoken.online]
  · intro c q live_q remote
    rcases marries.socket_cases numbered live_q with ⟨rfl, rfl⟩ | ⟨rfl, rfl⟩ | ⟨_, _, live'⟩
    · rw [marries.kind, marries.isLocal] at remote
      cases remote
    · refine ⟨rfl, fun d peer => ?_⟩
      cases peer
      rw [marries.history_self, marries.h_mate]
    · obtain ⟨on, mated⟩ := spoken.remote c q live' remote
      exact ⟨on, fun d peer => marries.mate_kept (mated d peer)⟩
  · intro message member isStream
    rw [marries.outbox, List.mem_append] at member
    rcases member with earlier | latest
    · obtain ⟨c, id_c, nonzero_c, mated⟩ := spoken.words message earlier isStream
      exact ⟨c, by rw [marries.id_same, id_c], by rwa [marries.id_same], marries.mate_kept mated⟩
    · obtain ⟨_, sender, receiver⟩ := marries.words message latest
      exact ⟨a, by rw [marries.id_same, sender],
        by rw [marries.id_same]; exact marries.nonzero numbered,
        by rw [marries.history_self, marries.h_mate, receiver]⟩
  · intro message member isStream
    rw [marries.inbox_eq] at member
    obtain ⟨c, id_c, nonzero_c, origin⟩ := spoken.heard message member isStream
    exact ⟨c, by rw [marries.id_same, id_c], by rwa [marries.id_same],
      by rwa [marries.origin_kept origin]⟩
  · rw [marries.opens_eq]
    exact spoken.opens_nodup
  · intro other member
    rw [marries.opens_eq] at member
    obtain ⟨c, id_c, nonzero_c, origin⟩ := spoken.opens_own other member
    exact ⟨c, by rw [marries.id_same, id_c], by rwa [marries.id_same],
      by rw [marries.origin_kept (by simp [origin]), origin]⟩

theorem unwritten (marries : Marries server server' a mate s s' h' extra)
    (consistent : Consistent server) (numbered : Numbered server)
    (unwritten : Unwritten server) : Unwritten server' := by
  intro c q live_q isLocal_q open_q origin_q unserved
  rcases marries.socket_cases numbered live_q with ⟨rfl, rfl⟩ | ⟨rfl, rfl⟩ | ⟨not_a, _, live'⟩
  · rw [marries.history_self] at origin_q
    exact absurd origin_q marries.h_origin
  · cases isLocal_q
  · rw [marries.history_of_ne not_a] at origin_q ⊢
    refine unwritten c q live' isLocal_q open_q origin_q ?_
    rintro ⟨b, r, peer, live_b, other⟩
    rcases eq_or_ne b a with rfl | b_ne
    · exact unserved ⟨b, s', peer, marries.at_self numbered, by
        simp [marries.kind, marries.isLocal]⟩
    · have b_not_fresh : b ≠ server.fresh := by
        rintro rfl
        rw [consistent.unallocated server.fresh (Nat.le_refl _)] at live_b
        cases live_b
      exact unserved ⟨b, r, peer, by rw [marries.at_others b_ne b_not_fresh, live_b], other⟩

theorem streaming (marries : Marries server server' a mate s s' h' extra)
    (consistent : Consistent server) (ordered : Ordered server)
    (others : ∀ c, c ≠ a →
      StreamOk (server.history c) (server.sockets c) server.inbox server.outbox)
    (ok : StreamOk h' (some s') server.inbox (server.outbox ++ extra)) : Streaming server' := by
  obtain ⟨numbered, spoken, unwritten⟩ := ordered
  refine ⟨⟨marries.numbered numbered, marries.spoken numbered spoken,
    marries.unwritten consistent numbered unwritten⟩, ?_⟩
  intro c
  rw [marries.inbox_eq, marries.outbox]
  rcases eq_or_ne c a with rfl | not_a
  · rw [marries.history_self, marries.at_self numbered]
    exact ok
  · rw [marries.history_of_ne not_a]
    rcases eq_or_ne c server.fresh with rfl | not_fresh
    · have blank := numbered.blank server.fresh (numbered.fresh server.fresh (Nat.le_refl _))
      exact streamOk_of_none (by rw [blank]) (by rw [blank])
    · rw [marries.at_others not_a not_fresh]
      refine (others c not_a).frame (.refl _) ?_
      intro message member _ same
      have sender := (marries.words message member).2.1
      exact not_a (numbered.unique a c (marries.nonzero numbered) (sender.symm.trans same)).symm

end Marries

theorem Streaming.connect {server : Server} {message : Message} {a : Nat} {s : Asocket}
    (streaming : Streaming server) (consistent : Consistent server)
    (legit : Legit server message) (command : message.command = .okay)
    (live : server.sockets a = some s) (isLocal : s.kind = .localSocket)
    (stillOpen : s.closing = false) (id_s : s.id = message.arg1) (unpeered : s.peer = none) :
    Streaming ((server.logged 0 message).connectStream a 0 message.arg0) := by
  obtain ⟨nonzero, same_id⟩ := streaming.numbered.installed a s live isLocal
  have id_eq : (server.history a).id = message.arg1 := (same_id stillOpen).symm.trans id_s
  have unmated := (streaming.ends a).unpeered s live stillOpen unpeered
  have absent := consistent.unallocated server.fresh (Nat.le_refl _)
  have a_ne : a ≠ server.fresh := by
    rintro rfl
    rw [live] at absent
    cases absent
  have some_origin : (server.history a).origin ≠ .none := by
    obtain ⟨c, id_c, nonzero_c, origin⟩ := legit.receiver (.inl command)
    have same := streaming.numbered.unique c a nonzero_c (id_c.trans id_eq.symm)
    rwa [same] at origin
  have opened : (server.history a).origin = .opened := by
    cases origin : (server.history a).origin with
    | none => exact absurd origin some_origin
    | opened => rfl
    | accepted => exact absurd unmated ((streaming.ends a).accepted origin)
  have silent : Silent (server.history a).id server.outbox := by
    intro other member isStream sender
    obtain ⟨c, id_c, nonzero_c, mated⟩ := streaming.spoken.words other member isStream
    have same := streaming.numbered.unique c a nonzero_c (id_c.trans sender)
    rw [same, unmated] at mated
    cases mated
  have unheard := legit.first command a s live id_eq unmated
  rw [← id_eq] at unheard
  have ok := streaming.ends a
  rw [live] at ok
  have marries : Marries (server.logged 0 message)
      ((server.logged 0 message).connectStream a 0 message.arg0) a message.arg0 s
      { s with peer := some server.fresh, notify := false, wantRead := true }
      { server.history a with mate := some message.arg0 } [] := by
    refine ⟨live, isLocal, stillOpen, ?_, rfl, rfl, rfl, rfl, rfl, unmated, some_origin,
      fun _ => rfl, ?_, ?_, by simp, rfl, rfl, rfl, rfl, ?_⟩
    · simp [Server.connectStream, Server.createRemoteSocket, Server.link, Server.modify,
        Server.record, Server.logged, a_ne, a_ne.symm, live, Function.update_comm a_ne]
    · intro accepted
      rw [opened] at accepted
      cases accepted
    · simp [Server.outbox, Server.connectStream, Server.createRemoteSocket, Server.link,
        Server.modify, Server.record]
    · simp [Server.connectStream, Server.createRemoteSocket, Server.link, Server.modify,
        Server.record]
  refine marries.streaming (consistent.logged 0 message)
    (streaming.toOrdered.logged 0 legit.receiver) (streaming.hear_others 0 id_eq nonzero) ?_
  rw [List.append_nil, Server.inbox_logged, Message.eq_of command rfl id_eq.symm]
  exact ok.connect opened unmated (by simp) rfl silent unheard

/-- A packet that is neither `A_OKAY` nor `A_WRTE` is nothing to the streams there are. -/
theorem Streaming.logged {server : Server} {message : Message} (streaming : Streaming server)
    (transport : Nat) (other : ¬message.IsStream) :
    Streaming (server.logged transport message) := by
  refine ⟨streaming.toOrdered.logged transport fun isStream => absurd isStream other, fun c => ?_⟩
  rw [Server.inbox_logged]
  refine (streaming.ends c).hear message ?_ ?_
  · intro mate s _ _ _
    by_contra heard
    simp only [Message.isWrte, Bool.not_eq_false, decide_eq_true_eq] at heard
    exact other (.inr heard.1)
  · intro _ _ s _ isOkay
    exact absurd (.inl isOkay) other

theorem Streaming.accept {server : Server} {message : Message} (streaming : Streaming server)
    (consistent : Consistent server) (legit : Legit server message)
    (command : message.command = .open) (few : server.installs + 1 < 2 ^ 32 - 1) :
    Streaming ((server.logged 0 message).acceptStream 0 message.arg0) := by
  have other : ¬message.IsStream := by simp [Message.IsStream, command]
  have consistent' := consistent.logged 0 message
  have created := (streaming.logged 0 other).createLocalSocket consistent' few
  have history_self : (server.logged 0 message).createLocalSocket.history server.fresh =
      { id := server.localSocketNextId } := createLocalSocket_history_self
  have history_of_ne : ∀ c, c ≠ server.fresh →
      (server.logged 0 message).createLocalSocket.history c = server.history c := by
    intro c different
    exact createLocalSocket_history_of_ne different
  have marries : Marries (server.logged 0 message).createLocalSocket
      ((server.logged 0 message).acceptStream 0 message.arg0) server.fresh message.arg0
      { kind := .localSocket, id := server.localSocketNextId }
      { kind := .localSocket, id := server.localSocketNextId, peer := some (server.fresh + 1),
        wantRead := true }
      { id := server.localSocketNextId, origin := .accepted, mate := some message.arg0 }
      [⟨.okay, server.localSocketNextId, message.arg0, []⟩] := by
    refine ⟨createLocalSocket_sockets_self, rfl, rfl, ?_, rfl, rfl, ?_, ?_, rfl, ?_, by simp, ?_,
      ?_, ?_, ?_, rfl, rfl, rfl, rfl, ?_⟩
    · have different : server.fresh ≠ server.fresh + 1 := by omega
      simp [Server.acceptStream, Server.createLocalSocket, Server.createRemoteSocket, Server.link,
        Server.modify, Server.record, Server.sendPacket, Server.logged,
        Function.update_comm different]
    · simp [Server.acceptStream, Server.createLocalSocket, Server.createRemoteSocket, Server.link,
        Server.modify, Server.record, Server.sendPacket, Server.logged]
    · rw [history_self]
    · rw [history_self]
    · simp [history_self]
    · -- The other end asks for a stream only once.
      intro _ c different accepted mated
      rw [history_of_ne c different] at accepted mated
      exact legit.opens command ((streaming.ends c).asked _ mated accepted)
    · simp [Server.outbox, Server.acceptStream, Server.createLocalSocket,
        Server.createRemoteSocket, Server.link, Server.modify, Server.record, Server.sendPacket,
        Server.logged]
    · simp [history_self, Message.IsStream]
    · simp [Server.acceptStream, Server.createLocalSocket, Server.createRemoteSocket, Server.link,
        Server.modify, Server.record, Server.sendPacket]
  have inbox_eq : (server.logged 0 message).createLocalSocket.inbox =
      server.inbox ++ [message] := Server.inbox_logged server 0 message
  refine marries.streaming consistent'.createLocalSocket created.toOrdered
    (fun c _ => created.ends c) ?_
  rw [inbox_eq]
  refine streamOk_accepted (by simp) LinkedQueue.represents_empty command rfl ?_ ?_
  · intro earlier member isStream sender
    obtain ⟨c, id_c, _, _⟩ := streaming.spoken.words earlier member isStream
    exact streaming.numbered.nextId_ne c (id_c.trans sender).symm
  · intro earlier member isStream receiver
    obtain ⟨c, id_c, _, _⟩ := streaming.spoken.heard earlier member isStream
    exact streaming.numbered.nextId_ne c (id_c.trans receiver).symm

/-! ## Every packet that can be expected keeps the streams in order -/

/-- Data for a socket that has no stream is not expected. -/
theorem Streaming.not_stray {server : Server} {message : Message} {a b : Nat} {s r : Asocket}
    (streaming : Streaming server) (consistent : Consistent server) (legit : Legit server message)
    (command : message.command = .wrte) (live : server.sockets a = some s)
    (isLocal : s.kind = .localSocket) (id_s : s.id = message.arg1) (peer : s.peer = some b)
    (live_b : server.sockets b = some r) (not_remote : r.kind ≠ .remoteSocket) : False := by
  have origin := consistent.unstreamed a s b r live isLocal peer live_b not_remote
  have stillOpen := (consistent.locals a s live isLocal).stillOpen_of_peer peer
  obtain ⟨_, id_eq⟩ := streaming.numbered.installed a s live isLocal
  obtain ⟨c, id_c, nonzero, some_origin⟩ := legit.receiver (.inr command)
  have same := streaming.numbered.unique c a nonzero (by rw [id_c, ← id_s, id_eq stillOpen])
  rw [same] at some_origin
  exact some_origin origin

theorem Streaming.receipt {server server' : Server} {message : Message}
    (streaming : Streaming server) (consistent : Consistent server) (legit : Legit server message)
    (receipt : Receipt server 0 message server') (few : server'.installs < 2 ^ 32 - 1) :
    Streaming server' := by
  cases receipt with
  | inert inert => exact streaming.inert consistent legit inert
  | accept command _ => exact streaming.accept consistent legit command few
  | connect a command live isLocal stillOpen id unpeered =>
      exact streaming.connect consistent legit command live isLocal stillOpen id unpeered
  | resume command addressed => exact streaming.resume consistent legit command addressed
  | written command addressed unqueued =>
      exact streaming.written consistent legit command addressed unqueued
  | queued bytes rest command addressed represents parts behind =>
      exact streaming.queued consistent legit command addressed represents parts behind
  | broke command addressed unqueued parts left closes =>
      exact streaming.broke consistent legit command addressed unqueued parts left closes
  | stray _ command live isLocal id peer live_b not_remote _ =>
      exact (streaming.not_stray consistent legit command live isLocal id peer live_b
        not_remote).elim

theorem Effects.installs_le {server server' : Server} (effects : Effects server server') :
    server.installs ≤ server'.installs := by
  induction effects with
  | refl => exact Nat.le_refl _
  | tail _ last induction => exact Nat.le_trans induction last.installs_le

theorem Streaming.effects {server server' : Server} (streaming : Streaming server)
    (consistent : Consistent server) (effects : Effects server server')
    (few : server'.installs < 2 ^ 32 - 1) : Streaming server' := by
  induction effects with
  | refl => exact streaming
  | tail earlier last induction =>
      have before := last.installs_le
      exact (induction (by omega)).effect (consistent.effects earlier) last few

theorem Streaming.handles {server server' : Server} {message : Message}
    (streaming : Streaming server) (consistent : Consistent server) (legit : Legit server message)
    (handles : Handles server 0 message server') (few : server'.installs < 2 ^ 32 - 1) :
    Streaming server' := by
  obtain ⟨middle, receipt, effects⟩ := handles
  have before := Effects.installs_le effects
  exact (streaming.receipt consistent legit receipt (by omega)).effects
    (consistent.receipt receipt) effects few

end Sockets
end AdbWide
