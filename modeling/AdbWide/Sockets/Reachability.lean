import AdbWide.Sockets.Receipts

/-!
# Reachable states of the server

Every step keeps the sockets consistent, so that the sockets of every reachable server are.
-/

namespace AdbWide
namespace Sockets

/-! ## Every step keeps the invariant -/

theorem Consistent.handleOffline {server : Server} (consistent : Consistent server)
    (transport : Nat) : Consistent (server.handleOffline transport) := by
  have offline := consistent.modifyTransport transport
    (fun t => { t with online := false }) fun _ => rfl
  exact offline.effects (effects_foldl_close _ offline)

theorem Consistent.handleSync {server : Server} (consistent : Consistent server)
    (transport : Nat) (message : Message) : Consistent (server.handleSync transport message) := by
  simp only [Server.handleSync]
  split
  · exact (consistent.sendPacket transport message).sendPacket transport _
  · have offline := consistent.modifyTransport transport
      (fun t => { t with connectionState := .offline }) fun _ => rfl
    exact (offline.handleOffline transport).sendPacket transport message

theorem Consistent.parseBanner {server : Server} (consistent : Consistent server)
    (transport : Nat) (banner deviceList : List UInt8) :
    Consistent (server.parseBanner transport banner deviceList) := by
  have set : ∀ state, Consistent (server.modifyTransport transport
      fun t => { t with connectionState := state }) :=
    fun state => consistent.modifyTransport transport _ fun _ => rfl
  have told : ∀ state, Consistent ((server.modifyTransport transport
      fun t => { t with connectionState := state }).updateTransports deviceList) :=
    fun state => (set state).effects (effects_updateTransports (set state) deviceList)
  rcases server.parseBanner_cases transport banner deviceList with same | ⟨state, -, same⟩
  · rw [same]
    exact set .host
  · rw [same]
    exact told state

theorem Consistent.handleConnect {server : Server} (consistent : Consistent server)
    (transport : Nat) (message : Message) (deviceList : List UInt8) :
    Consistent (server.handleConnect transport message deviceList) := by
  have offline := consistent.modifyTransport transport
    (fun t => { t with connectionState := .offline }) fun _ => rfl
  simp only [Server.handleConnect]
  refine Consistent.modifyTransport (Consistent.parseBanner ?_ transport _ _) transport _
    fun _ => rfl
  split
  · exact consistent
  · exact offline.handleOffline transport

theorem Consistent.handleAuth {server : Server} (consistent : Consistent server)
    (transport : Nat) (message : Message) (answer : Option Message) :
    Consistent (server.handleAuth transport message answer) := by
  have marked : Consistent (if message.arg0 = Server.authToken then
      server.modifyTransport transport fun t => { t with connectionState := .unauthorized }
      else server) := by
    split
    · exact consistent.modifyTransport transport _ fun _ => rfl
    · exact consistent
  simp only [Server.handleAuth]
  cases answer with
  | none => exact marked
  | some answer => exact marked.sendPacket transport answer

theorem Consistent.handlePacket {server : Server} (consistent : Consistent server)
    (transport : Nat) (message : Message) (outside : Outside) :
    Consistent (server.handlePacket transport message outside) := by
  by_cases isSocket : message.IsSocket
  · exact (handles_handlePacket consistent transport isSocket outside).consistent consistent
  · have logged : Consistent { server with
        received := server.received ++ [(transport, message)], writes := outside.writes } :=
      consistent.congr (.of rfl fun _ => rfl)
    simp only [Server.handlePacket]
    cases command : message.command with
    | sync => exact logged.handleSync transport message
    | cnxn => exact logged.handleConnect transport message outside.deviceList
    | auth => exact logged.handleAuth transport message outside.authAnswer
    | «open» | okay | clse | wrte | other => simp [Message.IsSocket, command] at isSocket

theorem Consistent.step {before after : Server} {label : Step × Outside}
    (consistent : Consistent before) (step : ServerStep before label after) :
    Consistent after := by
  obtain ⟨step, outside⟩ := label
  obtain ⟨allowed, rfl⟩ := step
  cases step with
  | packet transport message => exact consistent.handlePacket transport message outside
  | event | client | forward | closeAll | disconnect | update =>
      exact consistent.effects (effects_step consistent allowed (by simp) outside)

theorem consistent_start : Consistent Server.start where
  symmetric := by simp [Server.start]
  irreflexive := by simp [Server.start]
  locals := by simp [Server.start]
  listed := by simp [Server.start]
  lingering := by simp [Server.start]
  list_nodup := by simp [Server.start]
  closing_nodup := by simp [Server.start]
  unallocated := by simp [Server.start]
  nextId_ne := by simp [Server.start]
  smart_peer := by simp [Server.start]
  partner := by simp [Server.start]
  remote_transport := by simp [Server.start]
  unstreamed := by simp [Server.start]
  registered := by simp [Server.start]
  smart_id := by simp [Server.start]

/-- The sockets of every reachable server are consistent. -/
theorem consistent_of_reachable {server : Server}
    (reachable : Reachable ServerStep Server.start server) : Consistent server :=
  reachable.invariant Consistent consistent_start fun _ _ _ => Consistent.step

/-! ## The invariant of local and remote sockets -/

/-- A live local socket is on exactly one of the two lists, once, and looks as that list says. -/
def OnOneList (server : Server) (address : Nat) (s : Asocket) : Prop :=
  server.localSocketList.count address = 1 ∧
      server.localSocketClosingList.count address = 0 ∧ s.closing = false ∧ s.id ≠ 0 ∨
    server.localSocketList.count address = 0 ∧
      server.localSocketClosingList.count address = 1 ∧ s.closing = true ∧ s.id = 0 ∧
        s.peer = none ∧ s.queue.first ≠ none ∧ s.wantRead = false

/-- `pkt_last` is null with `pkt_first`, and otherwise the last packet of its chain. -/
def WellLinked (queue : LinkedQueue (List UInt8)) : Prop :=
  (queue.first = none ↔ queue.last = none) ∧
    ∀ first, queue.first = some first →
      ∃ cells, LinkedQueue.Chain queue.next (some first) cells ∧ queue.last = cells.getLast?

theorem Consistent.onOneList {server : Server} (consistent : Consistent server) {a : Nat}
    {s : Asocket} (live : server.sockets a = some s) (isLocal : s.kind = .localSocket) :
    OnOneList server a s := by
  have ok := consistent.locals a s live isLocal
  cases closing : s.closing with
  | false =>
      obtain ⟨member, id_ne⟩ := ok.open_listed closing
      refine .inl ⟨List.count_eq_one_of_mem consistent.list_nodup member,
        List.count_eq_zero.mpr ?_, closing, id_ne⟩
      intro member'
      obtain ⟨s', live', _, closing'⟩ := consistent.lingering a member'
      rw [live] at live'
      cases live'
      rw [closing] at closing'
      cases closing'
  | true =>
      obtain ⟨member, id_eq, unpeered, queued⟩ := ok.closing_listed closing
      refine .inr ⟨List.count_eq_zero.mpr ?_,
        List.count_eq_one_of_mem consistent.closing_nodup member, closing, id_eq, unpeered, queued,
        ok.idle unpeered⟩
      intro member'
      obtain ⟨s', live', _, closing'⟩ := consistent.listed a member'
      rw [live] at live'
      cases live'
      rw [closing] at closing'
      cases closing'

/-- In every reachable state the peers of local and remote sockets are symmetric, local sockets are
on exactly one list, their queues are well linked and wait for `FDE_WRITE` exactly when they are not
empty, and only sockets that have a peer or are closing have packets. -/
theorem sockets_wellFormed {server : Server}
    (reachable : Reachable ServerStep Server.start server) :
    (∀ a s b, server.sockets a = some s → s.kind = .localSocket ∨ s.kind = .remoteSocket →
      s.peer = some b → ∃ r, server.sockets b = some r ∧ r.peer = some a) ∧
    ∀ a s, server.sockets a = some s → s.kind = .localSocket →
      OnOneList server a s ∧ WellLinked s.queue ∧
        (s.queue.first ≠ none ↔ s.wantWrite = true) ∧
        (s.queue.first ≠ none → s.peer ≠ none ∨ s.closing = true) := by
  have consistent := consistent_of_reachable reachable
  constructor
  · intro a s b live _ peer
    exact consistent.symmetric a s b live peer
  · intro a s live isLocal
    have ok := consistent.locals a s live isLocal
    obtain ⟨packets, represents⟩ := ok.represents
    refine ⟨consistent.onOneList live isLocal, represents.linked, ok.write_iff.symm, ?_⟩
    intro queued
    cases closing : s.closing with
    | false => exact .inl (ok.owned closing queued)
    | true => exact .inr rfl

/-- The state after a list of steps. -/
def Server.run (labels : List (Step × Outside)) : Server :=
  labels.foldl (fun server label => label.1.apply label.2 server) .start

theorem reachable_foldl {labels : List (Step × Outside)} {server : Server}
    (reachable : Reachable ServerStep Server.start server)
    (allowed : ∀ label ∈ labels, ∀ server, label.1.Allowed server) :
    Reachable ServerStep Server.start
      (labels.foldl (fun server label => label.1.apply label.2 server) server) := by
  induction labels generalizing server with
  | nil => exact reachable
  | cons label labels induction =>
      obtain ⟨earlier, trace⟩ := reachable
      have next : Reachable ServerStep Server.start (label.1.apply label.2 server) :=
        ⟨earlier ++ [label], .snoc trace ⟨allowed label (by simp) server, rfl⟩⟩
      exact induction next fun l member => allowed l (List.mem_cons_of_mem _ member)

theorem reachable_run {labels : List (Step × Outside)}
    (allowed : ∀ label ∈ labels, ∀ server, label.1.Allowed server) :
    Reachable ServerStep Server.start (Server.run labels) :=
  reachable_foldl ⟨[], .nil⟩ allowed

/-- A device connects, opens a stream, and writes to it while the file descriptor blocks. -/
def backlog : List (Step × Outside) :=
  [(.packet 0 ⟨.cnxn, Server.aVersion, maxPayload, []⟩, {}), (.packet 0 ⟨.open, 7, 0, []⟩, {}),
    (.packet 0 ⟨.wrte, 7, 1, [42]⟩, {})]

theorem sockets_wellFormed_backlog :
    ((Server.run backlog).sockets 0).map (fun s => (s.kind, s.id, s.peer)) =
        some (.localSocket, 1, some 1) ∧
      ((Server.run backlog).sockets 0).bind (fun s => s.queue.first) = some 0 ∧
      ∀ s, (Server.run backlog).sockets 0 = some s → s.kind = .localSocket →
        OnOneList (Server.run backlog) 0 s ∧ WellLinked s.queue ∧
          (s.queue.first ≠ none ↔ s.wantWrite = true) ∧
          (s.queue.first ≠ none → s.peer ≠ none ∨ s.closing = true) :=
  ⟨by with_unfolding_all decide, by with_unfolding_all decide,
    (sockets_wellFormed (reachable_run (by simp [backlog, Step.Allowed]))).2 0⟩

end Sockets
end AdbWide
