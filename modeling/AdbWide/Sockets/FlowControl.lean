import AdbWide.Sockets.Lineage

/-!
# Flow control at the receiver

A stream may send the next `A_WRTE` packet when the last one has been answered by `A_OKAY`.  The
server relies on the remote for that: `local_socket_enqueue` hangs whatever comes on the queue of
the socket.  An observer of a run notes which data was given to which socket and which sockets
have not yet answered.  As long as data reaches only streams whose queue is empty, no queue ever
holds more than what is left of one packet.
-/

namespace AdbWide
namespace Sockets

/-! ## Observed runs -/

/-- The local socket an `A_WRTE` packet is given to by `handle_packet`, with the data. -/
def Step.target (server : Server) : Step → Option (Nat × List UInt8)
  | .packet transport message =>
      if message.command = .wrte ∧ (server.transports transport).online ∧ message.arg0 ≠ 0 ∧
          message.arg1 ≠ 0 then
        (server.findLocalSocket message.arg1 message.arg0).map fun a => (a, message.payload)
      else none
  | _ => none

/-- An `A_OKAY` packet for the local socket was sent between two states. -/
def acknowledged (before after : Server) (a : Nat) : Bool :=
  (before.sockets a).any fun s =>
    (after.sent.drop before.sent.length).any fun entry =>
      entry.2.command = .okay ∧ entry.2.arg0 = s.id

/-- What an observer notes of a run. -/
structure Watch where
  /-- The data of the `A_WRTE` packets given to a local socket. -/
  handed : Nat → List (List UInt8)
  /-- The last of them has not been answered by `A_OKAY`. -/
  waiting : Nat → Bool
  /-- The sockets that were given data while they were waiting and were not closed for it. -/
  spared : List Nat

/-- What the observer notes of a step. -/
def Watch.next (watch : Watch) (before : Server) (step : Step) (after : Server) : Watch :=
  match step.target before with
  | none => { watch with waiting := fun c => watch.waiting c && !acknowledged before after c }
  | some (a, data) =>
      { handed := Function.update watch.handed a (watch.handed a ++ [data])
        waiting := fun c => (c = a || watch.waiting c) && !acknowledged before after c
        spared :=
          if watch.waiting a ∧ a ∈ after.localSocketList then watch.spared ++ [a]
          else watch.spared }

/-- A step of the server and of its observer. -/
def WatchedStep (before : Server × Watch) (label : Step × Outside) (after : Server × Watch) :
    Prop :=
  ServerStep before.1 label after.1 ∧ after.2 = before.2.next before.1 label.1 after.1

/-- The observer of a server that starts. -/
def watchStart : Server × Watch :=
  (.start, { handed := fun _ => [], waiting := fun _ => false, spared := [] })

/-- The queue of a local socket that was given data of `A_WRTE` packets holds data of the last one
only, and a stream that is given data before it has answered is closed. -/
structure FlowControlled (state : Server × Watch) : Prop where
  one : ∀ a s data, state.1.sockets a = some s → s.kind = .localSocket →
    (state.2.handed a).getLast? = some data →
      ∃ packets, s.queue.Represents packets ∧ packets.flatten <:+ data
  closed : state.2.spared = []

/-- Data reaches only sockets that are the end of a stream and have an empty queue. -/
def Orderly (state : Server × Watch) (label : Step × Outside) : Prop :=
  ∀ a data, label.1.target state.1 = some (a, data) →
    (state.1.history a).origin ≠ .none ∧
      ∀ s, state.1.sockets a = some s → s.queue.first = none

/-! ## What happens to the queue of a stream -/

/-- The queue of the end of a stream loses data at its front, and before it is empty an `A_OKAY`
packet is sent. -/
structure Drains (server server' : Server) (a : Nat) : Prop where
  below : a < server'.fresh
  origin : (server'.history a).origin ≠ .none
  sent : server.sent <+: server'.sent
  queue : ∀ s', server'.sockets a = some s' → s'.kind = .localSocket →
    ∃ s packets packets', server.sockets a = some s ∧ s.kind = .localSocket ∧
      (s'.closing = false → s.closing = false ∧ s'.id = s.id) ∧
      s.queue.Represents packets ∧ s'.queue.Represents packets' ∧
      packets'.flatten <:+ packets.flatten ∧
      (packets ≠ [] → packets' = [] → s'.closing = false →
        ∃ entry ∈ server'.sent.drop server.sent.length,
          entry.2.command = .okay ∧ entry.2.arg0 = s.id)

theorem Drains.trans {server server' server'' : Server} {a : Nat} (first : Drains server server' a)
    (second : Drains server' server'' a) : Drains server server'' a := by
  refine ⟨second.below, second.origin, first.sent.trans second.sent, ?_⟩
  intro s'' live'' isLocal''
  obtain ⟨s', packets', packets'', live', isLocal', open', before', after', suffix', answered'⟩ :=
    second.queue s'' live'' isLocal''
  obtain ⟨s, packets, middle, live, isLocal, opened, before, after, suffixed, answered⟩ :=
    first.queue s' live' isLocal'
  have same : middle = packets' := after.unique before'
  subst same
  refine ⟨s, packets, packets'', live, isLocal, ?_, before, after', suffix'.trans suffixed, ?_⟩
  · intro stillOpen''
    obtain ⟨stillOpen', id'⟩ := open' stillOpen''
    obtain ⟨stillOpen, id⟩ := opened stillOpen'
    exact ⟨stillOpen, id'.trans id⟩
  · intro queued empty stillOpen''
    obtain ⟨stillOpen', id'⟩ := open' stillOpen''
    obtain ⟨extra, sent⟩ := first.sent
    obtain ⟨extra', sent'⟩ := second.sent
    rw [← sent', ← sent, List.append_assoc, List.drop_left]
    rw [← sent', List.drop_left] at answered'
    rw [← sent, List.drop_left] at answered
    rcases eq_or_ne middle [] with none | some
    · obtain ⟨entry, member, command, id⟩ := answered queued none stillOpen'
      exact ⟨entry, List.mem_append_left _ member, command, id⟩
    · obtain ⟨entry, member, command, id⟩ := answered' some empty stillOpen''
      obtain ⟨-, same⟩ := opened stillOpen'
      exact ⟨entry, List.mem_append_right _ member, command, by rw [id, same]⟩

/-- A socket keeps its queue, or is freed. -/
def KeepsQueue (server server' : Server) (a : Nat) : Prop :=
  ∀ s', server'.sockets a = some s' →
    ∃ s, server.sockets a = some s ∧ SameSocket s s' ∧ s'.queue = s.queue

section KeepsQueue

variable {server server' : Server} {a : Nat}

theorem KeepsQueue.of_eq (same : server'.sockets a = server.sockets a) :
    KeepsQueue server server' a := by
  intro s' live'
  exact ⟨s', same ▸ live', ⟨rfl, rfl, rfl⟩, rfl⟩

theorem KeepsQueue.trans {server'' : Server} (first : KeepsQueue server server' a)
    (second : KeepsQueue server' server'' a) : KeepsQueue server server'' a := by
  intro s'' live''
  obtain ⟨s', live', same', queue'⟩ := second s'' live''
  obtain ⟨s, live, same, queue⟩ := first s' live'
  exact ⟨s, live, ⟨same'.kind.trans same.kind, same'.id.trans same.id,
    same'.closing.trans same.closing⟩, queue'.trans queue⟩

theorem KeepsQueue.modify (server : Server) (b : Nat) {change : Asocket → Asocket}
    (same : ∀ s, server.sockets b = some s →
      SameSocket s (change s) ∧ (change s).queue = s.queue) (a : Nat) :
    KeepsQueue server (server.modify b change) a := by
  rcases eq_or_ne a b with rfl | different
  · intro s' live'
    rw [Server.sockets_modify_self] at live'
    obtain ⟨s, live, rfl⟩ := Option.map_eq_some_iff.mp live'
    exact ⟨s, live, same s live⟩
  · exact .of_eq (Server.sockets_modify_of_ne different)

theorem KeepsQueue.link (server : Server) (left right a : Nat) :
    KeepsQueue server (server.link left right) a := by
  have first : KeepsQueue server (server.modify left fun s => { s with peer := some right }) a := by
    refine .modify server left ?_ a
    exact fun _ _ => ⟨⟨rfl, rfl, rfl⟩, rfl⟩
  refine first.trans (.modify _ right ?_ a)
  exact fun _ _ => ⟨⟨rfl, rfl, rfl⟩, rfl⟩

theorem KeepsQueue.free (server : Server) (b a : Nat) : KeepsQueue server (server.free b) a := by
  rcases eq_or_ne a b with rfl | different
  · intro s' live'
    simp [Server.free] at live'
  · exact .of_eq (by simp [Server.free, different])

theorem KeepsQueue.update {b : Nat} {s : Asocket} (other : a ≠ b)
    (sockets : server'.sockets = Function.update server.sockets b (some s)) :
    KeepsQueue server server' a :=
  .of_eq (by rw [sockets, Function.update_of_ne other])

theorem KeepsQueue.drains (keeps : KeepsQueue server server' a) (consistent : Consistent server)
    (below : a < server'.fresh) (origin : (server'.history a).origin ≠ .none)
    (sent : server.sent <+: server'.sent) : Drains server server' a := by
  refine ⟨below, origin, sent, fun s' live' isLocal' => ?_⟩
  obtain ⟨s, live, same, queue⟩ := keeps s' live'
  have isLocal : s.kind = .localSocket := same.kind ▸ isLocal'
  obtain ⟨packets, represents⟩ := (consistent.locals a s live isLocal).represents
  exact ⟨s, packets, packets, live, isLocal,
    fun stillOpen => ⟨same.closing ▸ stillOpen, same.id⟩, represents, queue ▸ represents,
    List.suffix_rfl, fun queued empty => absurd empty queued⟩

end KeepsQueue

theorem Closes.drains {server server' : Server} {gone : Nat → Prop} {a : Nat}
    (closes : Closes server server' gone) (consistent : Consistent server)
    (below : a < server.fresh) (origin : (server.history a).origin ≠ .none) :
    Drains server server' a := by
  obtain ⟨extra, sent, -⟩ := closes.sent
  have grows : server.sent <+: server'.sent := ⟨extra, sent.symm⟩
  have below' : a < server'.fresh := by rwa [closes.fresh]
  have origin' : (server'.history a).origin ≠ .none := by rwa [closes.history]
  by_cases ended : gone a
  · refine ⟨below', origin', grows, fun s' live' isLocal' => ?_⟩
    have end_eq := closes.ended a ended
    rw [live'] at end_eq
    generalize before : server.sockets a = socket at end_eq
    cases end_eq with
    | @lingers s isLocal stillOpen queued =>
        obtain ⟨packets, represents⟩ := (consistent.locals a s before isLocal).represents
        exact ⟨s, packets, packets, rfl, isLocal, by simp, represents, represents,
          List.suffix_rfl, by simp⟩
  · exact (KeepsQueue.of_eq (closes.others a ended)).drains consistent below' origin' grows

theorem origin_update {server server' : Server} {a b : Nat} {h' : History}
    (history : server'.history = Function.update server.history b h')
    (keep : (server.history b).origin ≠ .none → h'.origin ≠ .none)
    (origin : (server.history a).origin ≠ .none) : (server'.history a).origin ≠ .none := by
  rw [history]
  rcases eq_or_ne a b with rfl | different
  · rw [Function.update_self]
    exact keep origin
  · rwa [Function.update_of_ne different]

/-- A socket stays the end of a stream. -/
theorem Effect.origin_ne {server server' : Server} (effect : Effect server server')
    {a : Nat} (below : a < server.fresh) (origin : (server.history a).origin ≠ .none) :
    (server'.history a).origin ≠ .none := by
  cases effect with
  | quiet same => rwa [same.history]
  | closes _ closes => rwa [closes.history]
  | adjust | wake | push | createOther | join | switch => exact origin
  | output b | input b | drainSome b | drainLast b | drainAll b | drainAnswer b | readSend b =>
      refine origin_update (b := b) rfl ?_ origin
      exact id
  | createLocal => simpa [Server.createLocalSocket, Nat.ne_of_lt below] using origin
  | openForward b | openClient b =>
      refine origin_update (b := b) rfl ?_ origin
      simp

/-- The queue of one socket is replaced. -/
theorem Drains.of_queue {server server' : Server} {a b : Nat} {s s' : Asocket}
    {packets packets' : List (List UInt8)} (consistent : Consistent server)
    (below : a < server'.fresh) (origin : (server'.history a).origin ≠ .none)
    (sent : server.sent <+: server'.sent) (live : server.sockets b = some s)
    (sockets : server'.sockets = Function.update server.sockets b (some s'))
    (isLocal : s.kind = .localSocket) (same : SameSocket s s')
    (before : s.queue.Represents packets) (after : s'.queue.Represents packets')
    (suffix : packets'.flatten <:+ packets.flatten)
    (answered : a = b → packets ≠ [] → packets' = [] →
      ∃ entry ∈ server'.sent.drop server.sent.length,
        entry.2.command = .okay ∧ entry.2.arg0 = s.id) : Drains server server' a := by
  rcases eq_or_ne a b with rfl | different
  · refine ⟨below, origin, sent, fun s'' live'' _ => ?_⟩
    rw [sockets, Function.update_self] at live''
    cases live''
    exact ⟨s, packets, packets', live, isLocal,
      fun stillOpen => ⟨same.closing ▸ stillOpen, same.id⟩,
      before, after, suffix, fun queued empty _ => answered rfl queued empty⟩
  · exact (KeepsQueue.update different sockets).drains consistent below origin sent

theorem Effect.drains {server server' : Server} (effect : Effect server server')
    (consistent : Consistent server) {a : Nat} (below : a < server.fresh)
    (origin : (server.history a).origin ≠ .none) : Drains server server' a := by
  obtain ⟨extra, sent_eq, -⟩ := effect.advances.sent
  have sent : server.sent <+: server'.sent := ⟨extra, sent_eq.symm⟩
  have origin' := effect.origin_ne below origin
  cases effect with
  | quiet same =>
      exact (KeepsQueue.of_eq (by rw [same.sockets])).drains consistent (same.fresh ▸ below)
        origin' sent
  | closes gone closes => exact closes.drains consistent below origin
  | adjust b change live adjusts =>
      refine KeepsQueue.drains ?_ consistent below origin' sent
      refine KeepsQueue.modify server b (fun s live_s => ?_) a
      rw [live] at live_s
      cases live_s
      exact ⟨⟨adjusts.kind, adjusts.id, adjusts.closing⟩, adjusts.queue⟩
  | wake b live =>
      refine KeepsQueue.drains ?_ consistent below origin' sent
      refine .modify server b ?_ a
      exact fun _ _ => ⟨⟨rfl, rfl, rfl⟩, rfl⟩
  | output b | input b | openForward b =>
      refine KeepsQueue.drains ?_ consistent below origin' sent
      exact .of_eq rfl
  | push b packet live isLocal peer live_r other idle =>
      have different : a ≠ b := by
        rintro rfl
        exact origin idle
      refine KeepsQueue.drains ?_ consistent below origin' sent
      exact .of_eq (Server.sockets_modify_of_ne different)
  | drainSome b queue bytes live isLocal before after queued queued' flat =>
      exact .of_queue consistent below origin' sent live (Server.sockets_modify live) isLocal
        ⟨rfl, rfl, rfl⟩ before after ⟨bytes, flat.symm⟩ fun _ _ empty => absurd empty queued'
  | drainLast b live isLocal closing represents =>
      refine KeepsQueue.drains ?_ consistent below origin' sent
      rcases eq_or_ne a b with rfl | different
      · intro s' live'
        simp [Server.free] at live'
      · exact .of_eq (by simp [Server.free, Server.removeSocket, Server.modify, different,
          Server.recordOutput, Server.record])
  | @drainAll b s c r queue packets live isLocal peer live_r other before after =>
      have idle := consistent.unstreamed b s c r live isLocal peer live_r other
      refine .of_queue consistent below origin' sent live (Server.sockets_modify live) isLocal
        ⟨rfl, rfl, rfl⟩ before after List.nil_suffix ?_
      rintro rfl
      exact absurd idle origin
  | drainAnswer b queue live isLocal peer live_r remote on before queued after =>
      refine .of_queue consistent below origin' sent live (Server.sockets_modify live) isLocal
        ⟨rfl, rfl, rfl⟩ before after List.nil_suffix fun _ _ _ => ?_
      simp [Server.sendPacket, Server.recordOutput, Server.record, Server.modify]
  | readSend b data live =>
      refine KeepsQueue.drains ?_ consistent below origin' sent
      refine .modify _ b ?_ a
      exact fun _ _ => ⟨⟨rfl, rfl, rfl⟩, rfl⟩
  | createLocal =>
      refine KeepsQueue.drains ?_ consistent (Nat.lt_succ_of_lt below) origin' sent
      exact .update (Nat.ne_of_lt below) rfl
  | createOther s =>
      refine KeepsQueue.drains ?_ consistent (Nat.lt_succ_of_lt below) origin' sent
      exact .update (Nat.ne_of_lt below) rfl
  | join b c =>
      refine KeepsQueue.drains ?_ consistent below origin' sent
      exact .link server b c a
  | switch b c d =>
      refine KeepsQueue.drains ?_ consistent below origin' sent
      exact (KeepsQueue.link server b d a).trans (.free _ c a)
  | openClient b c transport payload =>
      refine KeepsQueue.drains ?_ consistent below origin' sent
      refine KeepsQueue.trans ?_ (.free _ c a)
      refine .modify server b ?_ a
      exact fun _ _ => ⟨⟨rfl, rfl, rfl⟩, rfl⟩

theorem Effects.drains {server server' : Server} (effects : Effects server server')
    (consistent : Consistent server) {a : Nat} (below : a < server.fresh)
    (origin : (server.history a).origin ≠ .none) : Drains server server' a := by
  induction effects with
  | refl => exact (KeepsQueue.of_eq rfl).drains consistent below origin List.prefix_rfl
  | tail earlier last induction =>
      exact induction.trans
        (last.drains (consistent.effects earlier) induction.below induction.origin)

/-- Packets other than `A_WRTE` only take data from queues. -/
theorem Receipt.drains {server server' : Server} {transport : Nat} {message : Message}
    (receipt : Receipt server transport message server') (other : message.command ≠ .wrte)
    (consistent : Consistent server) {a : Nat} (below : a < server.fresh)
    (origin : (server.history a).origin ≠ .none) : Drains server server' a := by
  obtain ⟨extra, sent_eq, -⟩ := receipt.advances.sent
  have sent : server.sent <+: server'.sent := ⟨extra, sent_eq.symm⟩
  cases receipt with
  | inert =>
      refine KeepsQueue.drains ?_ consistent below origin sent
      exact .of_eq rfl
  | accept =>
      have ne_fresh : a ≠ server.fresh := Nat.ne_of_lt below
      have ne_next : a ≠ server.fresh + 1 := Nat.ne_of_lt (Nat.lt_succ_of_lt below)
      have origin' : (((server.logged transport message).acceptStream transport
          message.arg0).history a).origin ≠ .none := by
        simpa [Server.acceptStream, Server.createLocalSocket, Server.createRemoteSocket,
          Server.link, Server.modify, Server.record, Server.sendPacket, Server.logged, ne_fresh]
          using origin
      refine KeepsQueue.drains ?_ consistent (Nat.lt_succ_of_lt (Nat.lt_succ_of_lt below)) origin'
        sent
      have made : KeepsQueue server server.createLocalSocket a := .update ne_fresh rfl
      have remote : KeepsQueue server.createLocalSocket
          (server.createLocalSocket.createRemoteSocket message.arg0 transport) a :=
        .update ne_next rfl
      refine ((made.trans remote).trans (.link _ server.fresh (server.fresh + 1) a)).trans ?_
      refine .modify _ server.fresh ?_ a
      exact fun _ _ => ⟨⟨rfl, rfl, rfl⟩, rfl⟩
  | connect b _ live =>
      have origin' : (((server.logged transport message).connectStream b transport
          message.arg0).history a).origin ≠ .none := by
        refine origin_update (b := b) rfl ?_ origin
        exact id
      refine KeepsQueue.drains ?_ consistent (Nat.lt_succ_of_lt below) origin' sent
      have made : KeepsQueue server (server.createRemoteSocket message.arg0 transport) a :=
        .update (Nat.ne_of_lt below) rfl
      refine (made.trans (.link _ b server.fresh a)).trans ?_
      refine .modify _ b ?_ a
      exact fun _ _ => ⟨⟨rfl, rfl, rfl⟩, rfl⟩
  | resume _ addressed =>
      refine KeepsQueue.drains ?_ consistent below origin sent
      refine .modify (server.logged transport message) _ ?_ a
      exact fun _ _ => ⟨⟨rfl, rfl, rfl⟩, rfl⟩
  | written command | queued _ _ command | broke command | stray _ command =>
      exact absurd command other

section Drains

variable {server : Server} {a : Nat}

theorem drains_modifyTransport (consistent : Consistent server) (below : a < server.fresh)
    (origin : (server.history a).origin ≠ .none) (transport : Nat)
    (change : TransportState → TransportState) :
    Drains server (server.modifyTransport transport change) a := by
  refine KeepsQueue.drains ?_ consistent below origin List.prefix_rfl
  exact .of_eq rfl

theorem drains_sendPacket (consistent : Consistent server) (below : a < server.fresh)
    (origin : (server.history a).origin ≠ .none) (transport : Nat) (message : Message) :
    Drains server (server.sendPacket transport message) a := by
  refine KeepsQueue.drains ?_ consistent below origin (List.prefix_append _ _)
  exact .of_eq rfl

theorem drains_handleOffline (consistent : Consistent server) (below : a < server.fresh)
    (origin : (server.history a).origin ≠ .none) (transport : Nat) :
    Drains server (server.handleOffline transport) a := by
  have marked := drains_modifyTransport consistent below origin transport
    fun t => { t with online := false }
  have offline := consistent.modifyTransport transport (fun t => { t with online := false })
    fun _ => rfl
  exact marked.trans (Effects.drains (effects_foldl_close _ offline) offline below origin)

theorem drains_handleSync (consistent : Consistent server) (below : a < server.fresh)
    (origin : (server.history a).origin ≠ .none) (transport : Nat) (message : Message) :
    Drains server (server.handleSync transport message) a := by
  simp only [Server.handleSync]
  split
  · have echoed := drains_sendPacket consistent below origin transport message
    exact echoed.trans (drains_sendPacket (consistent.sendPacket transport message) echoed.below
      echoed.origin transport _)
  · have marked := drains_modifyTransport consistent below origin transport
      fun t => { t with connectionState := .offline }
    have consistent' := consistent.modifyTransport transport
      (fun t => { t with connectionState := .offline }) fun _ => rfl
    have offline := drains_handleOffline consistent' marked.below marked.origin transport
    exact (marked.trans offline).trans
      (drains_sendPacket (consistent'.handleOffline transport) offline.below offline.origin _ _)

theorem drains_parseBanner (consistent : Consistent server) (below : a < server.fresh)
    (origin : (server.history a).origin ≠ .none) (transport : Nat)
    (banner deviceList : List UInt8) :
    Drains server (server.parseBanner transport banner deviceList) a := by
  have set : ∀ state, Drains server (server.modifyTransport transport
      fun t => { t with connectionState := state }) a :=
    fun state => drains_modifyTransport consistent below origin transport _
  have told : ∀ state, Drains server ((server.modifyTransport transport
      fun t => { t with connectionState := state }).updateTransports deviceList) a := by
    intro state
    have consistent' := consistent.modifyTransport transport
      (fun t => { t with connectionState := state }) fun _ => rfl
    exact (set state).trans
      (Effects.drains (effects_updateTransports consistent' deviceList) consistent' below origin)
  rcases server.parseBanner_cases transport banner deviceList with same | ⟨state, -, same⟩
  · rw [same]
    exact set .host
  · rw [same]
    exact told state

theorem drains_handleConnect (consistent : Consistent server) (below : a < server.fresh)
    (origin : (server.history a).origin ≠ .none) (transport : Nat) (message : Message)
    (deviceList : List UInt8) :
    Drains server (server.handleConnect transport message deviceList) a := by
  have finished : ∀ {middle : Server}, Consistent middle → Drains server middle a →
      Drains server ((middle.parseBanner transport message.payload deviceList).modifyTransport
        transport fun t => { t with online := true }) a := by
    intro middle consistent' drains
    have parsed := drains_parseBanner consistent' drains.below drains.origin transport
      message.payload deviceList
    exact (drains.trans parsed).trans (drains_modifyTransport
      (consistent'.parseBanner transport message.payload deviceList) parsed.below parsed.origin _ _)
  simp only [Server.handleConnect]
  split
  · exact finished consistent ((KeepsQueue.of_eq rfl).drains consistent below origin
      List.prefix_rfl)
  · have marked := drains_modifyTransport consistent below origin transport
      fun t => { t with connectionState := .offline }
    have consistent' := consistent.modifyTransport transport
      (fun t => { t with connectionState := .offline }) fun _ => rfl
    exact finished (consistent'.handleOffline transport)
      (marked.trans (drains_handleOffline consistent' marked.below marked.origin transport))

theorem drains_handleAuth (consistent : Consistent server) (below : a < server.fresh)
    (origin : (server.history a).origin ≠ .none) (transport : Nat) (message : Message)
    (answer : Option Message) : Drains server (server.handleAuth transport message answer) a := by
  have marked : ∀ middle, middle = (if message.arg0 = Server.authToken then
      server.modifyTransport transport fun t => { t with connectionState := .unauthorized }
      else server) → Consistent middle ∧ Drains server middle a := by
    rintro _ rfl
    split
    · exact ⟨consistent.modifyTransport transport _ fun _ => rfl,
        drains_modifyTransport consistent below origin transport _⟩
    · exact ⟨consistent, (KeepsQueue.of_eq rfl).drains consistent below origin List.prefix_rfl⟩
  obtain ⟨consistent', drains⟩ := marked _ rfl
  simp only [Server.handleAuth]
  cases answer with
  | none => exact drains
  | some answer =>
      exact drains.trans (drains_sendPacket consistent' drains.below drains.origin transport answer)

theorem drains_handlePacket (consistent : Consistent server) (below : a < server.fresh)
    (origin : (server.history a).origin ≠ .none) (transport : Nat) (message : Message)
    (outside : Outside) (untargeted : (Step.packet transport message).target server = none) :
    Drains server (server.handlePacket transport message outside) a := by
  have logged : Drains server { server with
      received := server.received ++ [(transport, message)], writes := outside.writes } a := by
    refine KeepsQueue.drains ?_ consistent below origin List.prefix_rfl
    exact .of_eq rfl
  have consistent' : Consistent { server with
      received := server.received ++ [(transport, message)], writes := outside.writes } :=
    consistent.congr (.of rfl fun _ => rfl)
  by_cases wrte : message.command = .wrte
  · simp only [Server.handlePacket, wrte, Server.handleWrite]
    simp only [Step.target, wrte, true_and] at untargeted
    split
    case isTrue asked =>
      rw [if_pos asked, Option.map_eq_none_iff] at untargeted
      have unfound : Server.findLocalSocket { server with
          received := server.received ++ [(transport, message)], writes := outside.writes }
          message.arg1 message.arg0 = none := untargeted
      rw [unfound]
      exact logged
    case isFalse => exact logged
  by_cases isSocket : message.IsSocket
  · obtain ⟨middle, receipt, effects⟩ :=
      handles_handlePacket consistent transport isSocket outside
    have drains := receipt.drains wrte consistent below origin
    exact drains.trans
      (Effects.drains effects (consistent.receipt receipt) drains.below drains.origin)
  · simp only [Server.handlePacket]
    cases command : message.command with
    | sync =>
        exact logged.trans (drains_handleSync consistent' below origin transport message)
    | cnxn =>
        exact logged.trans
          (drains_handleConnect consistent' below origin transport message outside.deviceList)
    | auth =>
        exact logged.trans
          (drains_handleAuth consistent' below origin transport message outside.authAnswer)
    | wrte => exact absurd command wrte
    | «open» | okay | clse | other => simp [Message.IsSocket, command] at isSocket

theorem drains_step {after : Server} {label : Step × Outside} (consistent : Consistent server)
    (below : a < server.fresh) (origin : (server.history a).origin ≠ .none)
    (step : ServerStep server label after) (untargeted : label.1.target server = none) :
    Drains server after a := by
  obtain ⟨step, outside⟩ := label
  obtain ⟨allowed, rfl⟩ := step
  cases step with
  | packet transport message =>
      exact drains_handlePacket consistent below origin transport message outside untargeted
  | event | client | forward | closeAll | disconnect | update =>
      exact Effects.drains (effects_step consistent allowed (by simp) outside) consistent below
        origin

end Drains

/-! ## Data for a stream -/

/-- Data given to a socket with an empty queue is written and answered, or what is left of it is
the only thing in the queue, or the socket is closed. -/
structure Delivers (server server' : Server) (b : Nat) (data : List UInt8) : Prop where
  others : ∀ a, a ≠ b → a < server.fresh → (server.history a).origin ≠ .none →
    Drains server server' a
  below : b < server'.fresh
  origin : (server'.history b).origin ≠ .none
  queue : ∀ s', server'.sockets b = some s' → s'.kind = .localSocket →
    ∃ packets', s'.queue.Represents packets' ∧ packets'.flatten <:+ data ∧
      (packets' = [] → s'.closing = false → acknowledged server server' b = true)

/-- Bytes of a socket are written, and packets may be sent. -/
theorem drains_recordOutput {server server' : Server} {a b : Nat} {bytes : List UInt8}
    (consistent : Consistent server) (below : a < server.fresh)
    (origin : (server.history a).origin ≠ .none) (sockets : server'.sockets a = server.sockets a)
    (fresh : server'.fresh = server.fresh)
    (history : server'.history = (server.recordOutput b bytes).history)
    (sent : server.sent <+: server'.sent) : Drains server server' a := by
  have origin' : (server'.history a).origin ≠ .none := by
    refine origin_update (b := b) history ?_ origin
    exact id
  exact (KeepsQueue.of_eq sockets).drains consistent (fresh ▸ below) origin' sent

theorem delivers_localSocketEnqueue {server : Server} {b : Nat} {s : Asocket}
    (consistent : Consistent server) (live : server.sockets b = some s)
    (isLocal : s.kind = .localSocket) (unqueued : s.queue.first = none)
    (origin : (server.history b).origin ≠ .none) (data : List UInt8) (transport arg0 : Nat) :
    Delivers server
      (if (server.localSocketEnqueue b data).2 = 0 then
        match (server.localSocketEnqueue b data).1.sockets b with
        | none => (server.localSocketEnqueue b data).1
        | some s =>
            (server.localSocketEnqueue b data).1.sendPacket transport ⟨.okay, s.id, arg0, []⟩
      else (server.localSocketEnqueue b data).1) b data := by
  have below : b < server.fresh := by
    by_contra beyond
    rw [consistent.unallocated b (Nat.le_of_not_lt beyond)] at live
    cases live
  have empty : s.queue.Represents [] := by
    obtain ⟨packets, represents⟩ := (consistent.locals b s live isLocal).represents
    rwa [represents.first_eq_none_iff.mp unqueued] at represents
  have parts := (writeLoop_spec false server.writes data).1
  simp only [Server.localSocketEnqueue, live, unqueued, Option.isSome_none, Bool.false_eq_true,
    if_false]
  generalize writeLoop false server.writes data = loop at parts
  have origin' : (({ server with writes := loop.writes }.recordOutput b loop.written).history
      b).origin ≠ .none := by
    rwa [Server.origin_recordOutput]
  cases loop.outcome with
  | done =>
      have still : ({ server with writes := loop.writes }.recordOutput b loop.written).sockets b =
          some s := live
      simp only [if_true, still]
      refine ⟨fun a _ below_a origin_a => ?_, below, origin', fun s' live' _ => ?_⟩
      · exact drains_recordOutput consistent below_a origin_a rfl rfl rfl (List.prefix_append _ _)
      · have same : s = s' := Option.some.inj (live.symm.trans live')
        subst same
        refine ⟨[], empty, List.nil_suffix, fun _ _ => ?_⟩
        simp [acknowledged, live, Server.sendPacket, Server.recordOutput, Server.record]
  | again =>
      simp only [Int.reduceEq, if_false]
      refine ⟨fun a different below_a origin_a => ?_, below, origin', fun s' live' _ => ?_⟩
      · refine drains_recordOutput consistent below_a origin_a ?_ rfl rfl List.prefix_rfl
        exact Server.sockets_modify_of_ne different
      · have pushed := empty.push loop.rest
        rw [Server.enqueuePacket, Server.sockets_modify_self] at live'
        obtain ⟨s'', live'', rfl⟩ := Option.map_eq_some_iff.mp live'
        have same : s = s'' := Option.some.inj (live.symm.trans live'')
        subst same
        refine ⟨_, pushed, ?_, by simp⟩
        simp only [List.nil_append, List.flatten_cons, List.flatten_nil, List.append_nil]
        exact ⟨loop.written, parts⟩
  | failed =>
      simp only [Int.reduceEq, if_false]
      have consistent' : Consistent
          ({ server with writes := loop.writes }.recordOutput b loop.written) :=
        consistent.congr (.of rfl (Server.origin_recordOutput _ b loop.written))
      have closes := closes_close consistent' (a := b) (s := s) live
      refine ⟨fun a _ below_a origin_a => ?_, by rwa [closes.fresh], by rwa [closes.history],
        fun s' live' _ => ?_⟩
      · have recorded : Drains server
            ({ server with writes := loop.writes }.recordOutput b loop.written) a :=
          drains_recordOutput consistent below_a origin_a rfl rfl rfl List.prefix_rfl
        exact recorded.trans (closes.drains consistent' recorded.below recorded.origin)
      · have ended := closes.ended b (.inl rfl)
        rw [live'] at ended
        generalize before : ({ server with writes := loop.writes }.recordOutput b
          loop.written).sockets b = socket at ended
        cases ended with
        | @lingers s'' _ _ queued =>
            have same : s = s'' := Option.some.inj (live.symm.trans before)
            subst same
            exact absurd unqueued queued

theorem delivers_handlePacket {server : Server} {b : Nat} {data : List UInt8}
    (consistent : Consistent server) {transport : Nat} {message : Message} (outside : Outside)
    (targeted : (Step.packet transport message).target server = some (b, data))
    (origin : (server.history b).origin ≠ .none)
    (unqueued : ∀ s, server.sockets b = some s → s.queue.first = none) :
    Delivers server (server.handlePacket transport message outside) b data := by
  simp only [Step.target] at targeted
  split at targeted
  case isFalse => cases targeted
  case isTrue asked =>
    obtain ⟨c, found, pair_eq⟩ := Option.map_eq_some_iff.mp targeted
    cases pair_eq
    obtain ⟨s, live, isLocal, -, -, -⟩ := findLocalSocket_spec consistent found
    have consistent' : Consistent { server with
        received := server.received ++ [(transport, message)], writes := outside.writes } :=
      consistent.congr (.of rfl fun _ => rfl)
    obtain ⟨others, below', origin', queue⟩ := delivers_localSocketEnqueue consistent' (b := b)
      live isLocal (unqueued s live) origin message.payload transport message.arg0
    have found' : Server.findLocalSocket { server with
        received := server.received ++ [(transport, message)], writes := outside.writes }
        message.arg1 message.arg0 = some b := found
    simp only [Server.handlePacket, asked.1, Server.handleWrite]
    rw [if_pos asked.2]
    simp only [found', Server.enqueue, live, isLocal]
    refine ⟨fun a different below_a origin_a => ?_, below', origin', queue⟩
    refine Drains.trans ?_ (others a different below_a origin_a)
    refine KeepsQueue.drains ?_ consistent below_a origin_a List.prefix_rfl
    exact .of_eq rfl

theorem Step.packet_of_target {server : Server} {step : Step} {b : Nat} {data : List UInt8}
    (targeted : step.target server = some (b, data)) :
    ∃ transport message, step = .packet transport message := by
  cases step with
  | packet transport message => exact ⟨transport, message, rfl⟩
  | event | client | forward | closeAll | disconnect | update => cases targeted

theorem Step.live_of_target {server : Server} (consistent : Consistent server) {step : Step}
    {b : Nat} {data : List UInt8} (targeted : step.target server = some (b, data)) :
    ∃ s, server.sockets b = some s ∧ s.kind = .localSocket ∧ s.closing = false := by
  obtain ⟨transport, message, rfl⟩ := Step.packet_of_target targeted
  simp only [Step.target] at targeted
  split at targeted
  case isFalse => cases targeted
  case isTrue =>
    obtain ⟨c, found, pair_eq⟩ := Option.map_eq_some_iff.mp targeted
    cases pair_eq
    obtain ⟨s, live, isLocal, stillOpen, -⟩ := findLocalSocket_spec consistent found
    exact ⟨s, live, isLocal, stillOpen⟩

/-! ## Every run -/

/-- What holds in every state of a run in which data reaches only streams with an empty queue. -/
structure Controlled (state : Server × Watch) : Prop where
  consistent : Consistent state.1
  streams : ∀ a, state.2.handed a ≠ [] →
    a < state.1.fresh ∧ (state.1.history a).origin ≠ .none
  held : ∀ a s data, state.1.sockets a = some s → s.kind = .localSocket →
    (state.2.handed a).getLast? = some data →
      ∃ packets, s.queue.Represents packets ∧ packets.flatten <:+ data
  queued : ∀ a, state.2.waiting a = true → state.2.handed a ≠ [] ∧
    ∀ s, state.1.sockets a = some s → s.kind = .localSocket → s.closing = false →
      s.queue.first ≠ none
  closed : state.2.spared = []

theorem controlled_start : Controlled watchStart where
  consistent := consistent_start
  streams := by simp [watchStart]
  held := by simp [watchStart]
  queued := by simp [watchStart]
  closed := rfl

/-- A socket that loses data from its queue keeps to what it was given. -/
theorem Controlled.drain {before : Server × Watch} {after : Server} {a : Nat}
    (controlled : Controlled before) (drains : Drains before.1 after a) :
    (∀ s data, after.sockets a = some s → s.kind = .localSocket →
      (before.2.handed a).getLast? = some data →
        ∃ packets, s.queue.Represents packets ∧ packets.flatten <:+ data) ∧
      (before.2.waiting a = true → acknowledged before.1 after a = false →
        ∀ s, after.sockets a = some s → s.kind = .localSocket → s.closing = false →
          s.queue.first ≠ none) := by
  constructor
  · intro s' data live' isLocal' last
    obtain ⟨s, packets, packets', live, isLocal, -, represents, represents', suffix, -⟩ :=
      drains.queue s' live' isLocal'
    obtain ⟨packets'', represents'', inside⟩ := controlled.held a s data live isLocal last
    rw [represents.unique represents''] at suffix
    exact ⟨packets', represents', suffix.trans inside⟩
  · intro waiting unanswered s' live' isLocal' stillOpen' empty
    obtain ⟨s, packets, packets', live, isLocal, opened, represents, represents', -, answered⟩ :=
      drains.queue s' live' isLocal'
    have nonempty : packets ≠ [] := by
      have some_first := (controlled.queued a waiting).2 s live isLocal (opened stillOpen').1
      rwa [ne_eq, represents.first_eq_none_iff] at some_first
    obtain ⟨entry, member, okay⟩ :=
      answered nonempty (represents'.first_eq_none_iff.mp empty) stillOpen'
    have seen : acknowledged before.1 after a = true := by
      rw [acknowledged, live, Option.any_some, List.any_eq_true]
      exact ⟨entry, member, decide_eq_true okay⟩
    rw [seen] at unanswered
    cases unanswered

theorem Controlled.untargeted {before : Server × Watch} {label : Step × Outside} {after : Server}
    (controlled : Controlled before) (step : ServerStep before.1 label after)
    (none : label.1.target before.1 = none) :
    Controlled (after, before.2.next before.1 label.1 after) := by
  have drains : ∀ a, before.2.handed a ≠ [] → Drains before.1 after a := by
    intro a handed
    obtain ⟨below, origin⟩ := controlled.streams a handed
    exact drains_step controlled.consistent below origin step none
  simp only [Watch.next, none]
  refine ⟨controlled.consistent.step step, ?_, ?_, ?_, controlled.closed⟩
  · intro a handed
    exact ⟨(drains a handed).below, (drains a handed).origin⟩
  · intro a s data live isLocal last
    have handed : before.2.handed a ≠ [] := by
      rintro empty
      simp [empty] at last
    exact (controlled.drain (drains a handed)).1 s data live isLocal last
  · intro a waiting
    simp only [Bool.and_eq_true, Bool.not_eq_true'] at waiting
    have handed := (controlled.queued a waiting.1).1
    exact ⟨handed, (controlled.drain (drains a handed)).2 waiting.1 waiting.2⟩

theorem Controlled.targeted {before : Server × Watch} {label : Step × Outside} {after : Server}
    {b : Nat} {data : List UInt8} (controlled : Controlled before)
    (step : ServerStep before.1 label after) (orderly : Orderly before label)
    (some : label.1.target before.1 = some (b, data)) :
    Controlled (after, before.2.next before.1 label.1 after) := by
  obtain ⟨origin, unqueued⟩ := orderly b data some
  have consistent' := controlled.consistent.step step
  have delivers : Delivers before.1 after b data := by
    obtain ⟨step', outside⟩ := label
    obtain ⟨transport, message, rfl⟩ := Step.packet_of_target some
    obtain ⟨-, rfl⟩ := step
    exact delivers_handlePacket controlled.consistent outside some origin unqueued
  have drains : ∀ a, a ≠ b → before.2.handed a ≠ [] → Drains before.1 after a := by
    intro a different handed
    obtain ⟨below_a, origin_a⟩ := controlled.streams a handed
    exact delivers.others a different below_a origin_a
  have idle : before.2.waiting b = false := by
    cases waiting : before.2.waiting b with
    | false => rfl
    | true =>
        obtain ⟨s, live, isLocal, stillOpen⟩ := Step.live_of_target controlled.consistent some
        exact absurd (unqueued s live)
          ((controlled.queued b waiting).2 s live isLocal stillOpen)
  simp only [Watch.next, some, idle, Bool.false_eq_true, false_and, if_false]
  refine ⟨consistent', ?_, ?_, ?_, controlled.closed⟩
  · intro a handed
    rcases eq_or_ne a b with rfl | different
    · exact ⟨delivers.below, delivers.origin⟩
    · simp only [ne_eq, Function.update_of_ne different] at handed
      exact ⟨(drains a different handed).below, (drains a different handed).origin⟩
  · intro a s given live isLocal last
    rcases eq_or_ne a b with rfl | different
    · simp only [Function.update_self, List.getLast?_append, List.getLast?_singleton,
        Option.some_or] at last
      cases last
      obtain ⟨packets, represents, inside, -⟩ := delivers.queue s live isLocal
      exact ⟨packets, represents, inside⟩
    · simp only [Function.update_of_ne different] at last
      have handed : before.2.handed a ≠ [] := by
        rintro empty
        simp [empty] at last
      exact (controlled.drain (drains a different handed)).1 s given live isLocal last
  · intro a waiting
    rcases eq_or_ne a b with rfl | different
    · refine ⟨by simp, fun s live isLocal stillOpen empty => ?_⟩
      obtain ⟨packets, represents, -, answered⟩ := delivers.queue s live isLocal
      have seen := answered (represents.first_eq_none_iff.mp empty) stillOpen
      simp [seen] at waiting
    · simp only [different, decide_false, Bool.false_or, Bool.and_eq_true,
        Bool.not_eq_true'] at waiting
      have handed := (controlled.queued a waiting.1).1
      simp only [Function.update_of_ne different]
      exact ⟨handed, (controlled.drain (drains a different handed)).2 waiting.1 waiting.2⟩

/-- In every run in which `A_WRTE` packets reach only streams whose queue is empty, every queue
holds data of at most one of them. -/
theorem flowControlled_of_orderly {labels : List (Step × Outside)} {state : Server × Watch}
    (trace : Trace (Guarded WatchedStep Orderly) watchStart labels state) :
    FlowControlled state := by
  have controlled : Controlled state := by
    refine trace.invariant Controlled controlled_start fun before label after ok last => ?_
    obtain ⟨orderly, step, watch_eq⟩ := last
    obtain ⟨server, watch⟩ := after
    have watch_eq' : watch = before.2.next before.1 label.1 server := watch_eq
    subst watch_eq'
    cases target : label.1.target before.1 with
    | none => exact ok.untargeted step target
    | some given => exact ok.targeted step orderly target
  exact ⟨controlled.held, controlled.closed⟩

/-- The state after a step that is allowed. -/
def watchApply (state : Server × Watch) (label : Step × Outside) : Server × Watch :=
  let after := label.1.apply label.2 state.1
  (after, state.2.next state.1 label.1 after)

instance (state : Server × Watch) (label : Step × Outside) : Decidable (Orderly state label) :=
  decidable_of_iff
    ((label.1.target state.1).all fun given =>
      decide ((state.1.history given.1).origin ≠ .none) &&
        (state.1.sockets given.1).all fun s => decide (s.queue.first = none))
    (by
      cases target : label.1.target state.1 with
      | none => simp [Orderly, target]
      | some given =>
          obtain ⟨a, data⟩ := given
          cases live : state.1.sockets a <;> simp [Orderly, target, live])

/-- Data is left in the queue, and it is all the stream was given. -/
theorem flowControlled_of_orderly_backlog :
    (backlog.foldl watchApply watchStart).2.waiting 0 = true ∧
      FlowControlled (backlog.foldl watchApply watchStart) := by
  have follows : Follows (Guarded WatchedStep Orderly) watchApply watchStart backlog := by
    exact ⟨⟨by decide, ⟨trivial, rfl⟩, rfl⟩, ⟨by decide, ⟨trivial, rfl⟩, rfl⟩,
      ⟨by with_unfolding_all decide, ⟨trivial, rfl⟩, rfl⟩, trivial⟩
  exact ⟨by with_unfolding_all decide, flowControlled_of_orderly (Trace.nil.foldl follows)⟩

/-- More data comes for the stream before it has answered. -/
def overrun : List (Step × Outside) :=
  backlog ++ [((.packet 0 ⟨.wrte, 7, 1, [43]⟩ : Step), ({} : Outside))]

/-- A remote that does not wait for `A_OKAY` gets the data of two packets into the queue, and its
stream is not closed. -/
theorem flowControl_fails_after_two_writes :
    (overrun.foldl watchApply watchStart).2.spared = [0] ∧
      ¬∀ labels state, Trace WatchedStep watchStart labels state → FlowControlled state := by
  refine ⟨by with_unfolding_all decide, fun controlled => ?_⟩
  have follows : Follows WatchedStep watchApply watchStart overrun := by
    exact ⟨⟨⟨trivial, rfl⟩, rfl⟩, ⟨⟨trivial, rfl⟩, rfl⟩, ⟨⟨trivial, rfl⟩, rfl⟩,
      ⟨⟨trivial, rfl⟩, rfl⟩, trivial⟩
  have trace := Trace.nil.foldl follows
  obtain ⟨s, live⟩ : ∃ s, (overrun.foldl watchApply watchStart).1.sockets 0 = some s :=
    Option.isSome_iff_exists.mp (by with_unfolding_all decide)
  have fields : ((overrun.foldl watchApply watchStart).1.sockets 0).map
      (fun s => (s.kind, s.queue.front)) = some (.localSocket, some [42]) := by
    with_unfolding_all decide
  simp only [live, Option.map_some, Option.some.injEq, Prod.mk.injEq] at fields
  obtain ⟨packets, represents, inside⟩ :=
    (controlled _ _ trace).one 0 s [43] live fields.1 (by with_unfolding_all decide)
  have front := represents.front_eq.symm.trans fields.2
  obtain ⟨rest, rfl⟩ := List.head?_eq_some_iff.mp front
  have same := inside.eq_of_length_le (by simp)
  simp at same

end Sockets
end AdbWide
