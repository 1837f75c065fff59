import AdbWide.Sockets.Requests

/-!
# Requests behind each other

A client that wants a service of a device first asks for the transport and then for the service, on
one connection, and what it sends behind the second request is for the service.  All of it comes to
`local_socket_event_func`, which gives it to the smart socket packet by packet until the service has
taken the place of the smart socket.
-/

namespace AdbWide
namespace Sockets
namespace Server

/-! ## A freed socket stays freed -/

/-- No socket comes up where there was none. -/
def KeepsFreed (server server' : Server) : Prop :=
  ∀ address, server.sockets address = none → server'.sockets address = none

theorem KeepsFreed.trans {first second third : Server} (one : KeepsFreed first second)
    (two : KeepsFreed second third) : KeepsFreed first third :=
  fun address freed => two address (one address freed)

theorem KeepsFreed.of_sockets {server server' : Server}
    (same : server'.sockets = server.sockets) : KeepsFreed server server' := by
  intro address freed
  rw [same, freed]

theorem KeepsFreed.refl (server : Server) : KeepsFreed server server := .of_sockets rfl

theorem keepsFreed_modify (server : Server) (address : Nat) (change : Asocket → Asocket) :
    KeepsFreed server (server.modify address change) := by
  intro other freed
  rcases eq_or_ne other address with rfl | different
  · rw [sockets_modify_self, freed]
    rfl
  · rw [sockets_modify_of_ne different, freed]

theorem keepsFreed_clearPeer (server : Server) (address : Nat) :
    KeepsFreed server (server.clearPeer address) :=
  keepsFreed_modify server address _

theorem keepsFreed_free (server : Server) (address : Nat) :
    KeepsFreed server (server.free address) := by
  intro other freed
  simp only [free, Function.update_apply]
  split
  · rfl
  · exact freed

theorem keepsFreed_finishClose (server : Server) (address : Nat) :
    KeepsFreed server (server.finishClose address) := by
  have removed (server : Server) : KeepsFreed server (server.removeSocket address) :=
    (keepsFreed_modify server address _).trans (.of_sockets rfl)
  simp only [finishClose]
  split
  · exact .refl server
  · split
    · exact (removed server).trans (keepsFreed_free _ address)
    · exact (keepsFreed_modify server address _).trans ((removed _).trans (.of_sockets rfl))

theorem keepsFreed_endNotify (server : Server) (address : Nat) (text : List UInt8) :
    KeepsFreed server (server.endNotify address text) :=
  (keepsFreed_modify server address _).trans (.of_sockets rfl)

theorem keepsFreed_closeUnpeered (server : Server) (address : Nat) :
    KeepsFreed server (server.closeUnpeered address) := by
  have freed (middle : Server) (same : middle.sockets = server.sockets) :
      KeepsFreed server (middle.free address) :=
    (KeepsFreed.of_sockets same).trans (keepsFreed_free middle address)
  simp only [closeUnpeered]
  split
  · exact .refl server
  · split
    · split
      · exact (keepsFreed_endNotify server address _).trans (keepsFreed_finishClose _ address)
      · exact keepsFreed_finishClose server address
    · split
      · exact freed server rfl
      · exact freed _ rfl
    · exact freed server rfl
    · exact freed _ rfl

theorem keepsFreed_shutdown (server : Server) (address : Nat) :
    KeepsFreed server (server.shutdown address) := by
  simp only [shutdown]
  split
  · exact .refl server
  · split
    · exact .of_sockets rfl
    · exact .refl server

theorem keepsFreed_localSocketCloseLocked (server : Server) (address : Nat) :
    KeepsFreed server (server.localSocketCloseLocked address) := by
  simp only [localSocketCloseLocked]
  split
  · exact .refl server
  · split
    · exact keepsFreed_finishClose server address
    · next peer _ =>
        exact (keepsFreed_shutdown server peer).trans <| (keepsFreed_clearPeer _ peer).trans <|
          (keepsFreed_closeUnpeered _ peer).trans <| (keepsFreed_clearPeer _ address).trans <|
          keepsFreed_finishClose _ address

theorem keepsFreed_close (server : Server) (address : Nat) :
    KeepsFreed server (server.close address) := by
  simp only [close]
  split
  · exact .refl server
  · split
    · split
      · exact (keepsFreed_endNotify server address _).trans
          (keepsFreed_localSocketCloseLocked _ address)
      · exact keepsFreed_localSocketCloseLocked server address
    all_goals
      split
      · exact keepsFreed_closeUnpeered server address
      · next peer _ =>
          exact (keepsFreed_clearPeer server peer).trans
            ((keepsFreed_closeUnpeered _ peer).trans (keepsFreed_closeUnpeered _ address))

theorem keepsFreed_localSocketEnqueue (server : Server) (address : Nat) (packet : List UInt8) :
    KeepsFreed server (server.localSocketEnqueue address packet).1 := by
  simp only [localSocketEnqueue]
  split
  · exact .refl server
  · split
    · exact keepsFreed_modify server address _
    · split
      · exact .of_sockets rfl
      · exact (KeepsFreed.of_sockets rfl).trans (keepsFreed_modify _ address _)
      · refine KeepsFreed.trans ?_ (keepsFreed_close _ address)
        exact .of_sockets rfl

theorem keepsFreed_deviceTrackerSend (server : Server) (address : Nat)
    (deviceList : List UInt8) :
    KeepsFreed server (server.deviceTrackerSend address deviceList) := by
  simp only [deviceTrackerSend]
  split
  · exact .refl server
  · split
    · exact keepsFreed_localSocketEnqueue server _ deviceList
    · exact .refl server

theorem keepsFreed_ready (server : Server) (address : Nat) (deviceList : List UInt8) :
    KeepsFreed server (server.ready address deviceList) := by
  simp only [ready]
  split
  · exact .refl server
  · split
    · split
      · exact (keepsFreed_endNotify server address _).trans (keepsFreed_modify _ address _)
      · exact keepsFreed_modify server address _
    · split
      · exact .refl server
      · exact .of_sockets rfl
    · exact .refl server
    · split
      · exact (keepsFreed_modify server address _).trans
          (keepsFreed_deviceTrackerSend _ address deviceList)
      · exact .refl server

/-! ## A client and its smart socket -/

/-- What `local_socket_event_func` does with a packet: the peer is given it, and nothing more is
read while the peer takes no more. -/
def handOver (server : Server) (client smart : Nat) (packet : List UInt8) (outside : Outside) :
    Server × Int :=
  let (after, r) := server.enqueue smart packet outside
  (if 0 < r then after.modify client fun c => { c with wantRead := false } else after, r)

theorem readLoop_packet (first : UInt8) (others : List UInt8)
    (fits : (first :: others).length ≤ maxPayload) :
    readLoop [.got first others, .again] maxPayload = (first :: others, false) := by
  have whole : (first :: others).take maxPayload = first :: others := List.take_of_length_le fits
  have room : maxPayload = 4095 + 1 := rfl
  rw [room] at whole ⊢
  simp only [readLoop, whole]
  cases 4095 + 1 - (first :: others).length <;> simp [readLoop]

theorem eventRead_eq_handOver {server : Server} {client smart : Nat} {c : Asocket}
    {first : UInt8} {others : List UInt8} (outside : Outside)
    (live : server.sockets client = some c) (peer : c.peer = some smart)
    (fits : (first :: others).length ≤ maxPayload) (goesOn : outside.forceEof = false)
    (reads : outside.reads = [.got first others, .again]) :
    server.eventRead client outside =
      ((server.record client fun h => { h with input := h.input ++ first :: others }).handOver
        client smart (first :: others) outside).1 := by
  simp only [eventRead, live, reads, readLoop_packet first others fits, peer, handOver, goesOn]
  split
  · next negative => rw [if_neg (by omega)]
  · simp

/-- What a connection has brought about. -/
structure Served where
  server : Server
  /-- The requests that were acted on. -/
  requests : List (List UInt8)
  /-- The bytes the client's socket has left for the service that was opened. -/
  passedOn : List UInt8
  /-- The bytes behind a request in the packet that completed it. -/
  dropped : List UInt8

/-- The packets of a client given to its smart socket as long as it is there.  What is answered from
outside depends on the request; with a negative result the client has been closed. -/
def serve (answers : List UInt8 → Outside) (client smart : Nat) (server : Server) :
    List (List UInt8) → Served
  | [] => ⟨server, [], [], []⟩
  | packet :: packets =>
      match server.sockets smart with
      | none => ⟨server, [], packet ++ packets.flatten, []⟩
      | some s =>
          match progress s.request packet with
          | .complete text behind =>
              let (after, r) := server.handOver client smart packet (answers text)
              if r < 0 then ⟨after, [text], [], behind⟩
              else
                let rest := serve answers client smart after packets
                { rest with
                  requests := text :: rest.requests
                  dropped := behind ++ rest.dropped }
          | .overflow | .waiting | .malformed =>
              let (after, r) := server.handOver client smart packet {}
              if r < 0 then ⟨after, [], [], []⟩ else serve answers client smart after packets

/-! ## One packet -/

/-- A complete request is acted on, and the connection goes on with the packets behind. -/
def answer (answers : List UInt8 → Outside) (client smart : Nat) (server : Server) (s : Asocket)
    (text behind : List UInt8) (packets : List (List UInt8)) : Served :=
  let (next, r) := server.handleRequest smart s text (answers text)
  if r < 0 then ⟨next, [text], [], behind⟩
  else
    let rest := serve answers client smart
      (if 0 < r then next.modify client fun c => { c with wantRead := false } else next) packets
    { rest with requests := text :: rest.requests, dropped := behind ++ rest.dropped }

section

variable {answers : List UInt8 → Outside} {client smart : Nat} {server : Server} {s : Asocket}

theorem handOver_smart (live : server.sockets smart = some s) (kind : s.kind = .smartSocket)
    (packet : List UInt8) (outside : Outside) :
    server.handOver client smart packet outside =
      let (after, r) := server.smartSocketEnqueue smart s packet outside
      (if 0 < r then after.modify client fun c => { c with wantRead := false } else after, r) := by
  simp only [handOver, enqueue, live, kind]

theorem serve_waiting (live : server.sockets smart = some s) (kind : s.kind = .smartSocket)
    {held packet : List UInt8} (waiting : progress held packet = .waiting)
    (packets : List (List UInt8)) :
    serve answers client smart (server.hold smart held) (packet :: packets) =
      serve answers client smart (server.hold smart (held ++ packet)) packets := by
  have still := sockets_hold live held
  simp only [serve, still, waiting, handOver_smart still kind, smartSocketEnqueue_eq, hold_hold]
  rfl

theorem serve_complete (live : server.sockets smart = some s) (kind : s.kind = .smartSocket)
    {held packet text behind : List UInt8}
    (complete : progress held packet = .complete text behind) (packets : List (List UInt8)) :
    serve answers client smart (server.hold smart held) (packet :: packets) =
      answer answers client smart (server.hold smart (held ++ packet)) s text behind packets := by
  have still := sockets_hold live held
  simp only [serve, still, complete, handOver_smart still kind, smartSocketEnqueue_eq, hold_hold,
    answer, handleRequest_with]
  split
  · next negative => rw [if_neg (by omega)]
  · rfl

theorem serve_refused (live : server.sockets smart = some s) (kind : s.kind = .smartSocket)
    {held packet : List UInt8}
    (refused : progress held packet = .overflow ∨ progress held packet = .malformed)
    (packets : List (List UInt8)) :
    ∃ after, serve answers client smart (server.hold smart held) (packet :: packets) =
      ⟨after, [], [], []⟩ := by
  have still := sockets_hold live held
  rcases refused with refused | refused
  all_goals simp [serve, still, refused, handOver_smart still kind, smartSocketEnqueue_eq]

theorem serve_gone (gone : server.sockets smart = none) (packets : List (List UInt8)) :
    serve answers client smart server packets = ⟨server, [], packets.flatten, []⟩ := by
  cases packets with
  | nil => rfl
  | cons packet packets => simp [serve, gone]

/-! ## The packets of one request -/

/-- A request whose last byte ends a packet is acted on, and nothing is lost. -/
theorem serve_frame (live : server.sockets smart = some s) (kind : s.kind = .smartSocket)
    {text held : List UInt8} (request : IsRequest text) (before after : List (List UInt8))
    (filled : ∀ packet ∈ before, packet ≠ []) (unfinished : held.length < (frame text).length)
    (whole : held ++ before.flatten = frame text) :
    serve answers client smart (server.hold smart held) (before ++ after) =
      answer answers client smart (server.hold smart (frame text)) s text [] after := by
  induction before generalizing held with
  | nil =>
      rw [← whole] at unfinished
      simp at unfinished
  | cons packet before induction =>
      rw [List.flatten_cons, ← List.append_assoc] at whole
      have filled_before : ∀ packet ∈ before, packet ≠ [] :=
        fun other member => filled other (List.mem_cons_of_mem packet member)
      by_cases last : before = []
      · subst last
        rw [List.flatten_nil, List.append_nil] at whole
        have fits : held.length + packet.length ≤ maxPayload := by
          have short := request.short
          rw [← List.length_append, whole, length_frame, maxPayload]
          omega
        have ended : held ++ packet = frame text ++ [] := by rw [whole, List.append_nil]
        rw [List.singleton_append, ← whole]
        exact serve_complete live kind (progress_complete request ended fits) after
      · -- The next packet has a byte of the frame too.
        have more : 0 < before.flatten.length := by
          obtain ⟨next, rest, rfl⟩ := List.exists_cons_of_ne_nil last
          have nonempty := List.length_pos_of_ne_nil (filled_before next List.mem_cons_self)
          rw [List.flatten_cons, List.length_append]
          omega
        have unended : (held ++ packet).length < (frame text).length := by
          have size := congrArg List.length whole
          rw [List.length_append] at size
          omega
        rw [List.cons_append,
          serve_waiting live kind (progress_waiting request ⟨_, whole⟩ unended)]
        exact induction filled_before unended whole

/-- The packet in which a request ends, unless the packets before it leave no room for that. -/
theorem serve_cases (live : server.sockets smart = some s) (kind : s.kind = .smartSocket)
    {text held rest : List UInt8} (request : IsRequest text) (packets : List (List UInt8))
    (unfinished : held.length < (frame text).length)
    (stream : held ++ packets.flatten = frame text ++ rest) :
    (serve answers client smart (server.hold smart held) packets).requests = [] ∨
      ∃ before behind after, packets = before ++ after ∧
        held ++ before.flatten = frame text ++ behind ∧
        serve answers client smart (server.hold smart held) packets =
          answer answers client smart (server.hold smart (frame text ++ behind)) s text behind
            after := by
  induction packets generalizing held with
  | nil =>
      have size := congrArg List.length stream
      simp only [List.flatten_nil, List.append_nil, List.length_append] at size
      omega
  | cons packet packets induction =>
      rw [List.flatten_cons, ← List.append_assoc] at stream
      by_cases unended : (held ++ packet).length < (frame text).length
      · have part : held ++ packet <+: frame text :=
          List.prefix_of_prefix_length_le ⟨_, stream⟩ ⟨_, rfl⟩ (by omega)
        rw [serve_waiting live kind (progress_waiting request part unended)]
        rcases induction unended stream with none | ⟨before, behind, after, split, bytes, served⟩
        · exact .inl none
        · refine .inr ⟨packet :: before, behind, after, by rw [split, List.cons_append], ?_, served⟩
          rw [List.flatten_cons, ← List.append_assoc, bytes]
      · obtain ⟨behind, whole⟩ : frame text <+: held ++ packet :=
          List.prefix_of_prefix_length_le ⟨_, rfl⟩ ⟨_, stream⟩ (by omega)
        by_cases fits : held.length + packet.length ≤ maxPayload
        · refine .inr ⟨[packet], behind, packets, rfl, by simp [whole], ?_⟩
          rw [whole]
          exact serve_complete live kind (progress_complete request whole.symm fits) packets
        · have overflow : progress held packet = .overflow := by
            rw [progress, if_pos (by omega)]
          obtain ⟨after, refused⟩ : ∃ after, serve answers client smart (server.hold smart held)
              (packet :: packets) = ⟨after, [], [], []⟩ :=
            serve_refused live kind (.inl overflow) packets
          exact .inl (by rw [refused])

theorem serve_frame_unused (live : server.sockets smart = some s) (kind : s.kind = .smartSocket)
    (unused : s.request = []) {text : List UInt8} (request : IsRequest text)
    (before after : List (List UInt8)) (filled : ∀ packet ∈ before, packet ≠ [])
    (whole : before.flatten = frame text) :
    serve answers client smart server (before ++ after) =
      answer answers client smart (server.hold smart (frame text)) s text [] after := by
  have start : server.hold smart [] = server := by rw [← unused, hold_self live]
  have served : serve answers client smart (server.hold smart []) (before ++ after) = _ :=
    serve_frame live kind request before after filled (by simp) whole
  rwa [start] at served

theorem serve_cases_unused (live : server.sockets smart = some s) (kind : s.kind = .smartSocket)
    (unused : s.request = []) {text rest : List UInt8} (request : IsRequest text)
    (packets : List (List UInt8)) (stream : packets.flatten = frame text ++ rest) :
    (serve answers client smart server packets).requests = [] ∨
      ∃ before behind after, packets = before ++ after ∧
        before.flatten = frame text ++ behind ∧
        serve answers client smart server packets =
          answer answers client smart (server.hold smart (frame text ++ behind)) s text behind
            after := by
  have start : server.hold smart [] = server := by rw [← unused, hold_self live]
  have found : (serve answers client smart (server.hold smart []) packets).requests = [] ∨ _ :=
    serve_cases live kind request packets (by simp) stream
  rwa [start] at found

/-! ## No byte counts twice -/

theorem progress_size {held packet text behind : List UInt8}
    (complete : progress held packet = .complete text behind) :
    (frame text).length + behind.length ≤ held.length + packet.length := by
  simp only [progress] at complete
  split at complete
  · cases complete
  · split at complete
    · cases complete
    · split at complete
      · cases complete
      · split at complete
        · cases complete
        · next _ _ _ whole =>
            obtain ⟨rfl, rfl⟩ := Progress.complete.inj complete
            -- The text is at most as long as the length says, and shorter if there is a NUL in it.
            have shorter (bytes : List UInt8) : (cString bytes).length ≤ bytes.length :=
              (List.takeWhile_prefix _).length_le
            have size := shorter (((held ++ packet).drop 4).take (unhex ((held ++ packet).take 4)))
            rw [List.length_take] at size
            rw [length_frame, List.length_drop, ← List.length_append]
            omega

/-- The kind of the socket at an address. -/
def kindAt (server : Server) (address : Nat) : Option Kind :=
  (server.sockets address).map Asocket.kind

theorem kindAt_modify (server : Server) (address other : Nat) (change : Asocket → Asocket)
    (keeps : ∀ s, (change s).kind = s.kind) :
    (server.modify address change).kindAt other = server.kindAt other := by
  rcases eq_or_ne other address with rfl | different
  · cases live : server.sockets other <;> simp [kindAt, live, keeps]
  · rw [kindAt, sockets_modify_of_ne different, kindAt]

theorem freed_of_kindAt {server : Server} {address : Nat}
    (kind : server.kindAt address = some .smartSocket) :
    ((server.clearPeer address).close address).sockets address = none := by
  obtain ⟨s, live, isSmart⟩ := Option.map_eq_some_iff.mp kind
  simp [clearPeer, close, closeUnpeered, free, live, isSmart]

theorem connectToTransport_frees {server : Server} {peer transport address : Nat}
    (kind : server.kindAt address = some .smartSocket) (destination : List UInt8) :
    (server.connectToTransport address peer transport destination).sockets address = none := by
  simp only [connectToTransport]
  apply freed_of_kindAt
  simp only [connectToRemote]
  rw [← kind, ← kindAt_modify server peer address
    (fun s => { s with notify := true, peer := none, transport := some transport }) fun _ => rfl]
  split
  · rfl
  · split <;> rfl

theorem connectToHostService_frees {server : Server} {peer address : Nat}
    (unallocated : server.sockets server.fresh = none)
    (kind : server.kindAt address = some .smartSocket) (service : Kind)
    (deviceList : List UInt8) :
    (server.connectToHostService address peer service deviceList).sockets address = none := by
  have different : address ≠ server.fresh := by
    rintro rfl
    simp [kindAt, unallocated] at kind
  have created : (if service = .deviceTracker then server.createDeviceTracker
      else server.createLocalSocket).kindAt address = some .smartSocket := by
    rw [← kind]
    split <;> simp [kindAt, createDeviceTracker, createLocalSocket, different]
  simp only [connectToHostService]
  generalize (if service = .deviceTracker then server.createDeviceTracker
    else server.createLocalSocket) = middle at created
  apply keepsFreed_ready
  apply freed_of_kindAt
  calc ((middle.endNotify peer okayText).link peer server.fresh).kindAt address
      = ((middle.endNotify peer okayText).modify peer
          fun s => { s with peer := some server.fresh }).kindAt address :=
        kindAt_modify _ _ _ _ fun _ => rfl
    _ = (middle.endNotify peer okayText).kindAt address := kindAt_modify _ _ _ _ fun _ => rfl
    _ = middle.kindAt address := kindAt_modify middle peer address _ fun _ => rfl
    _ = some .smartSocket := created

/-- The request is for a transport, which `handle_host_request` leaves to the smart socket. -/
def IsTransportRequest (outside : Outside) (text : List UInt8) : Prop :=
  ∃ service, hostService text = some service ∧ (ascii "transport").isPrefixOf service = true ∧
    outside.hostHandled = false

theorem handleRequest_transport {server : Server} {address peer : Nat} {text : List UInt8}
    {outside : Outside} (transport : IsTransportRequest outside text)
    (peered : s.peer = some peer) :
    server.handleRequest address s text outside =
      (server.modify address fun s =>
        { s with request := [], transport := outside.acquired.or s.transport }, 0) := by
  obtain ⟨service, host, named, unhandled⟩ := transport
  simp [handleRequest, peered, host, named, unhandled]

/-- Any other request ends the time of the smart socket. -/
theorem handleRequest_frees {server : Server} {address : Nat} {text : List UInt8}
    {outside : Outside} (unallocated : server.sockets server.fresh = none)
    (kind : server.kindAt address = some .smartSocket)
    (other : ¬IsTransportRequest outside text)
    (accepted : 0 ≤ (server.handleRequest address s text outside).2) :
    (server.handleRequest address s text outside).1.sockets address = none := by
  simp only [handleRequest] at accepted ⊢
  cases peer : s.peer with
  | none => simp [peer] at accepted
  | some peer =>
      simp only [peer] at accepted ⊢
      cases host : hostService text with
      | some service =>
          simp only [host] at accepted ⊢
          by_cases handled : outside.hostHandled = true
          · simp [handled] at accepted
          · by_cases named : (ascii "transport").isPrefixOf service = true
            · exact absurd ⟨service, host, named, Bool.not_eq_true _ ▸ handled⟩ other
            · rw [if_neg handled, if_neg named] at accepted ⊢
              cases found : hostServiceKind service with
              | none => simp [found] at accepted
              | some made =>
                  simp only
                  exact connectToHostService_frees unallocated kind made outside.deviceList
      | none =>
          simp only [host] at accepted ⊢
          cases selected : s.transport with
          | none => simp [selected] at accepted
          | some transport =>
              simp only [selected] at accepted ⊢
              split at accepted
              · simp at accepted
              · next online =>
                  rw [if_neg online]
                  exact connectToTransport_frees kind text

theorem answer_transport {text : List UInt8} {peer : Nat}
    (transport : IsTransportRequest (answers text) text) (peered : s.peer = some peer)
    (behind : List UInt8) (packets : List (List UInt8)) :
    answer answers client smart server s text behind packets =
      let rest := serve answers client smart (server.modify smart fun s =>
        { s with request := [], transport := (answers text).acquired.or s.transport }) packets
      { rest with requests := text :: rest.requests, dropped := behind ++ rest.dropped } := by
  simp [answer, handleRequest_transport transport peered]

theorem answer_other {text : List UInt8} (other : ¬IsTransportRequest (answers text) text)
    (unallocated : server.sockets server.fresh = none)
    (kind : server.kindAt smart = some .smartSocket) :
    ∃ after, ∀ behind packets, answer answers client smart server s text behind packets =
      ⟨after, [text],
        if 0 ≤ (server.handleRequest smart s text (answers text)).2 then packets.flatten else [],
        behind⟩ := by
  by_cases accepted : 0 ≤ (server.handleRequest smart s text (answers text)).2
  · have gone := handleRequest_frees unallocated kind other accepted
    simp only [answer, if_neg (Int.not_lt.mpr accepted), if_pos accepted]
    split
    · refine ⟨(server.handleRequest smart s text (answers text)).1.modify client
        fun c => { c with wantRead := false }, fun behind packets => ?_⟩
      rw [serve_gone (keepsFreed_modify _ client _ smart gone)]
      simp
    · refine ⟨(server.handleRequest smart s text (answers text)).1, fun behind packets => ?_⟩
      rw [serve_gone gone]
      simp
  · refine ⟨(server.handleRequest smart s text (answers text)).1, fun behind packets => ?_⟩
    simp [answer, if_neg accepted, if_pos (Int.not_le.mp accepted)]

/-- How many bytes of the connection have been accounted for. -/
def Served.size (served : Served) : Nat :=
  (served.requests.flatMap frame).length + served.dropped.length + served.passedOn.length

theorem answer_size {r : Asocket} (live : server.sockets smart = some r)
    (kind : r.kind = .smartSocket) (unallocated : server.sockets server.fresh = none)
    (text behind : List UInt8) (packets : List (List UInt8))
    (rest : (serve answers client smart (server.modify smart fun s =>
      { s with request := [], transport := (answers text).acquired.or s.transport })
      packets).size ≤ packets.flatten.length) :
    (answer answers client smart server s text behind packets).size ≤
      (frame text).length + behind.length + packets.flatten.length := by
  by_cases transport : IsTransportRequest (answers text) text
  · cases peered : s.peer with
    | none => simp [answer, handleRequest, peered, Served.size, Nat.add_assoc]
    | some peer =>
        rw [answer_transport transport peered]
        simp only [Served.size, List.flatMap_cons, List.length_append] at rest ⊢
        omega
  · have smartly : server.kindAt smart = some .smartSocket := by simp [kindAt, live, kind]
    obtain ⟨after, served⟩ : ∃ after, ∀ behind packets,
        answer answers client smart server s text behind packets = ⟨after, [text], _, behind⟩ :=
      answer_other transport unallocated smartly
    rw [served]
    simp only [Served.size, List.flatMap_cons, List.flatMap_nil, List.append_nil]
    split
    · omega
    · simp only [List.length_nil]
      omega

/-- The bytes of a connection are enough for all that was acted on, passed on and dropped. -/
theorem serve_size (unallocated : server.sockets server.fresh = none)
    (packets : List (List UInt8))
    (smartly : ∀ s, server.sockets smart = some s → s.kind = .smartSocket) :
    (serve answers client smart server packets).size ≤
      ((server.sockets smart).elim [] Asocket.request).length + packets.flatten.length := by
  induction packets generalizing server with
  | nil => simp [serve, Served.size]
  | cons packet packets induction =>
      cases live : server.sockets smart with
      | none => simp [serve_gone live, Served.size]
      | some s =>
          have kind := smartly s live
          have refused (bad : progress s.request packet = .overflow ∨
              progress s.request packet = .malformed) :
              (serve answers client smart (server.hold smart s.request) (packet :: packets)).size =
                0 := by
            obtain ⟨after, served⟩ : ∃ after, serve answers client smart
                (server.hold smart s.request) (packet :: packets) = ⟨after, [], [], []⟩ :=
              serve_refused live kind bad packets
            rw [served]
            rfl
          have still := sockets_hold live (s.request ++ packet)
          have unallocated : (server.hold smart (s.request ++ packet)).sockets
              (server.hold smart (s.request ++ packet)).fresh = none :=
            keepsFreed_modify _ _ _ _ unallocated
          rw [← hold_self live, Option.elim_some, List.flatten_cons, List.length_append]
          cases found : progress s.request packet with
          | overflow =>
              rw [refused (.inl found)]
              exact Nat.zero_le _
          | malformed =>
              rw [refused (.inr found)]
              exact Nat.zero_le _
          | waiting =>
              rw [serve_waiting live kind found]
              have rest := induction unallocated (by simp [still, kind])
              rw [still, Option.elim_some, List.length_append] at rest
              omega
          | complete text behind =>
              rw [serve_complete live kind found]
              have size := progress_size found
              have rest := induction
                (keepsFreed_modify _ smart (fun s => { s with
                  request := [], transport := (answers text).acquired.or s.transport })
                  _ unallocated) (by simp [still, kind])
              rw [sockets_modify_self, still, Option.map_some, Option.elim_some, List.length_nil,
                Nat.zero_add] at rest
              have bound := answer_size (s := s) still kind unallocated text behind packets rest
              omega

end

/-! ## Two requests -/

theorem isTransportRequest_of_named {text : List UInt8} {outside : Outside}
    (named : ascii "host:transport" <+: text) (unhandled : outside.hostHandled = false) :
    IsTransportRequest outside text := by
  obtain ⟨rest, rfl⟩ := named
  refine ⟨ascii "transport" ++ rest, ?_, ?_, unhandled⟩
  · simp [hostService, ascii_hostTransport, ascii_hostSerial, ascii_hostUsb, ascii_hostLocal,
      ascii_host, ascii_transport]
  · simp

/-- A packet ends with the byte at which `n` bytes have come. -/
def EndsPacket (packets : List (List UInt8)) (n : Nat) : Prop :=
  ∃ before after, packets = before ++ after ∧ before.flatten.length = n

theorem EndsPacket.behind {before after : List (List UInt8)} {n : Nat}
    (ends : EndsPacket (before ++ after) (before.flatten.length + n)) (positive : 0 < n) :
    EndsPacket after n := by
  obtain ⟨first, second, split, size⟩ := ends
  rcases List.append_eq_append_iff.mp split with ⟨more, rfl, rfl⟩ | ⟨more, rfl, rfl⟩
  · refine ⟨more, second, rfl, ?_⟩
    simpa using size
  · simp only [List.flatten_append, List.length_append] at size
    omega

/-- A connection to a smart socket that has not been used: the first request is for a transport,
and the second is not. -/
structure Pipelined (answers : List UInt8 → Outside) (client smart : Nat) (server : Server)
    (s : Asocket) (first second : List UInt8) : Prop where
  unallocated : server.sockets server.fresh = none
  live : server.sockets smart = some s
  kind : s.kind = .smartSocket
  peer : s.peer = some client
  unused : s.request = []
  firstRequest : IsRequest first
  named : ascii "host:transport" <+: first
  succeeds : (answers first).hostHandled = false
  secondRequest : IsRequest second
  other : ¬IsTransportRequest (answers second) second

/-- The second request opens a service of the host, or one of the transport that was selected. -/
def Opens (answers : List UInt8 → Outside) (server : Server) (s : Asocket)
    (first second : List UInt8) : Prop :=
  match hostService second with
  | some service => (answers second).hostHandled = false ∧ (hostServiceKind service).isSome
  | none => ∃ transport, (answers first).acquired.or s.transport = some transport ∧
      (server.transports transport).connectionState ≠ .offline

/-- The two connections have come to the same. -/
def Served.Same (left right : Served) : Prop :=
  left.server = right.server ∧ left.requests = right.requests ∧ left.passedOn = right.passedOn

namespace Pipelined

variable {answers : List UInt8 → Outside} {client smart : Nat} {server : Server} {s : Asocket}
  {first second : List UInt8}

theorem isTransport (pipelined : Pipelined answers client smart server s first second) :
    IsTransportRequest (answers first) first :=
  isTransportRequest_of_named pipelined.named pipelined.succeeds

/-- The server after the first request. -/
def selected (answers : List UInt8 → Outside) (smart : Nat) (server : Server)
    (first : List UInt8) : Server :=
  server.modify smart fun s =>
    { s with request := [], transport := (answers first).acquired.or s.transport }

/-- The smart socket after the first request. -/
def chosen (answers : List UInt8 → Outside) (s : Asocket) (first : List UInt8) : Asocket :=
  { s with request := [], transport := (answers first).acquired.or s.transport }

theorem selected_live (pipelined : Pipelined answers client smart server s first second) :
    (selected answers smart server first).sockets smart = some (chosen answers s first) := by
  simp [selected, chosen, pipelined.live]

theorem selected_unallocated (pipelined : Pipelined answers client smart server s first second) :
    (selected answers smart server first).sockets (selected answers smart server first).fresh =
      none :=
  keepsFreed_modify _ _ _ _ pipelined.unallocated

theorem answer_first (pipelined : Pipelined answers client smart server s first second)
    (held behind : List UInt8) (packets : List (List UInt8)) :
    answer answers client smart (server.hold smart held) s first behind packets =
      let rest := serve answers client smart (selected answers smart server first) packets
      { rest with requests := first :: rest.requests, dropped := behind ++ rest.dropped } := by
  have merged : ((server.hold smart held).modify smart fun s =>
      { s with request := [], transport := (answers first).acquired.or s.transport }) =
      selected answers smart server first := by
    simp only [selected, hold, modify, Function.update_self, Function.update_idem,
      Option.map_map]
    rfl
  rw [answer_transport pipelined.isTransport pipelined.peer, merged]

/-- The second request is acted on; what is left is passed on unless the client was closed. -/
theorem answer_second (pipelined : Pipelined answers client smart server s first second)
    (held : List UInt8) :
    let middle := (selected answers smart server first).hold smart held
    ∃ after, ∀ behind packets,
      answer answers client smart middle (chosen answers s first) second behind packets =
        ⟨after, [second],
          if 0 ≤ (middle.handleRequest smart (chosen answers s first) second (answers second)).2
            then packets.flatten else [], behind⟩ := by
  have live := sockets_hold pipelined.selected_live held
  refine answer_other pipelined.other (keepsFreed_modify _ _ _ _ pipelined.selected_unallocated) ?_
  rw [kindAt, live, Option.map_some]
  exact congrArg some pipelined.kind

theorem accepted_of_opens (pipelined : Pipelined answers client smart server s first second)
    (opens : Opens answers server s first second) (held : List UInt8) :
    0 ≤ (((selected answers smart server first).hold smart held).handleRequest smart
      (chosen answers s first) second (answers second)).2 := by
  have other := pipelined.other
  simp only [handleRequest, chosen, pipelined.peer]
  unfold Opens at opens
  cases host : hostService second with
  | some service =>
      simp only [host] at opens ⊢
      obtain ⟨unhandled, known⟩ := opens
      have unnamed : ¬(ascii "transport").isPrefixOf service = true :=
        fun named => other ⟨service, host, named, unhandled⟩
      obtain ⟨kind, found⟩ := Option.isSome_iff_exists.mp known
      simp only [unhandled, Bool.false_eq_true, if_false, if_neg unnamed, found]
      exact Int.le_refl 0
  | none =>
      simp only [host] at opens ⊢
      obtain ⟨transport, acquired, online⟩ := opens
      have still : (((selected answers smart server first).hold smart held).transports
          transport).connectionState ≠ .offline := online
      rw [acquired]
      dsimp only
      rw [if_neg still]
      exact Int.one_nonneg

/-- Packets that end with the two requests bring about what the requests do. -/
theorem serve_ends (pipelined : Pipelined answers client smart server s first second)
    (before next after : List (List UInt8)) (filled : ∀ packet ∈ before ++ next, packet ≠ [])
    (one : before.flatten = frame first) (two : next.flatten = frame second) :
    serve answers client smart server (before ++ (next ++ after)) =
      let rest := answer answers client smart
        ((selected answers smart server first).hold smart (frame second))
        (chosen answers s first) second [] after
      { rest with requests := first :: rest.requests } := by
  rw [serve_frame_unused pipelined.live pipelined.kind pipelined.unused pipelined.firstRequest
      before (next ++ after)
      (fun packet member => filled packet (List.mem_append_left _ member)) one,
    pipelined.answer_first,
    serve_frame_unused pipelined.selected_live pipelined.kind rfl pipelined.secondRequest next after
      (fun packet member => filled packet (List.mem_append_right _ member)) two]
  rfl

/-- When nothing is dropped and both requests are acted on, each of them ends a packet. -/
theorem ends_of_whole (pipelined : Pipelined answers client smart server s first second)
    {packets : List (List UInt8)} {payload : List UInt8}
    (stream : packets.flatten = frame first ++ frame second ++ payload)
    (requests : (serve answers client smart server packets).requests = [first, second])
    (whole : (serve answers client smart server packets).dropped = []) :
    EndsPacket packets (frame first).length ∧
      EndsPacket packets (frame first ++ frame second).length := by
  rw [List.append_assoc] at stream
  rcases serve_cases_unused pipelined.live pipelined.kind pipelined.unused pipelined.firstRequest
      packets stream with none | ⟨before, behind, after, rfl, bytes, served⟩
  · rw [none] at requests
    cases requests
  · rw [served, pipelined.answer_first] at requests whole
    obtain ⟨rfl, dropped⟩ := List.append_eq_nil_iff.mp whole
    have rest : (serve answers client smart (selected answers smart server first)
        after).requests = [second] := (List.cons.inj requests).2
    rw [List.append_nil] at bytes
    have stream : after.flatten = frame second ++ payload := by
      rw [List.flatten_append, bytes] at stream
      exact List.append_cancel_left stream
    refine ⟨⟨before, after, rfl, by rw [bytes]⟩, ?_⟩
    rcases serve_cases_unused pipelined.selected_live pipelined.kind rfl pipelined.secondRequest
        after stream with none | ⟨next, behind, last, rfl, bytes₂, served⟩
    · rw [none] at rest
      cases rest
    · obtain ⟨final, second_served⟩ := pipelined.answer_second (frame second ++ behind)
      rw [served, second_served] at dropped
      have unlost : behind = [] := dropped
      rw [unlost, List.append_nil] at bytes₂
      exact ⟨before ++ next, last, by rw [List.append_assoc], by simp [bytes, bytes₂]⟩

/-- Packets that end with the two requests come to the same as the requests one by one. -/
theorem same_of_ends (pipelined : Pipelined answers client smart server s first second)
    {packets pieces : List (List UInt8)} (filled : ∀ packet ∈ packets, packet ≠ [])
    (stream : packets.flatten = frame first ++ frame second ++ pieces.flatten)
    (one : EndsPacket packets (frame first).length)
    (two : EndsPacket packets (frame first ++ frame second).length) :
    serve answers client smart server packets =
      serve answers client smart server (frame first :: frame second :: pieces) := by
  obtain ⟨before, rest, rfl, size⟩ := one
  rw [List.append_assoc] at stream
  have first_bytes : before.flatten = frame first := by
    rw [List.flatten_append] at stream
    exact (List.append_inj stream size).1
  have stream : rest.flatten = frame second ++ pieces.flatten := by
    rw [List.flatten_append, first_bytes] at stream
    exact List.append_cancel_left stream
  rw [List.length_append, ← size] at two
  obtain ⟨next, after, rfl, size₂⟩ := two.behind (by simp)
  have second_bytes : next.flatten = frame second ∧ after.flatten = pieces.flatten := by
    rw [List.flatten_append] at stream
    exact List.append_inj stream size₂
  obtain ⟨final, served⟩ := pipelined.answer_second (frame second)
  have filled_two : ∀ packet ∈ before ++ next, packet ≠ [] := by
    intro packet member
    refine filled packet ?_
    rw [← List.append_assoc]
    exact List.mem_append_left _ member
  have apart := pipelined.serve_ends [frame first] [frame second] pieces
    (by simp [frame, hexLength]) (by simp) (by simp)
  rw [pipelined.serve_ends before next after filled_two first_bytes second_bytes.1, served,
    second_bytes.2, ← served [] pieces]
  exact apart.symm

end Pipelined

/-- Two requests and what follows them come to the same however they are split, with nothing
dropped, exactly when a packet ends with each of the two requests. -/
theorem pipelined_iff {answers : List UInt8 → Outside} {client smart : Nat} {server : Server}
    {s : Asocket} {first second : List UInt8} {packets pieces : List (List UInt8)}
    (pipelined : Pipelined answers client smart server s first second)
    (filled : ∀ packet ∈ packets, packet ≠ [])
    (stream : packets.flatten = frame first ++ frame second ++ pieces.flatten) :
    let served := serve answers client smart server packets
    let apart := serve answers client smart server (frame first :: frame second :: pieces)
    let ends := EndsPacket packets (frame first).length ∧
      EndsPacket packets (frame first ++ frame second).length
    (served.Same apart ∧ served.dropped = [] ↔ ends) ∧
      (Opens answers server s first second → (served.Same apart ↔ ends)) := by
  intro served apart ends
  obtain ⟨final, second_served⟩ := pipelined.answer_second (frame second)
  have apart_eq : apart = _ := pipelined.serve_ends [frame first] [frame second] pieces
    (by simp [frame, hexLength]) (by simp) (by simp)
  rw [second_served] at apart_eq
  have whole : served.Same apart → served.dropped = [] → ends := by
    intro same undropped
    refine pipelined.ends_of_whole stream ?_ undropped
    rw [← show served = serve answers client smart server packets from rfl, same.2.1, apart_eq]
  have same_of_ends : ends → served.Same apart ∧ served.dropped = [] := by
    rintro ⟨one, two⟩
    have equal : served = apart := pipelined.same_of_ends filled stream one two
    refine ⟨?_, by rw [equal, apart_eq]⟩
    rw [equal]
    exact ⟨rfl, rfl, rfl⟩
  refine ⟨⟨fun both => whole both.1 both.2, same_of_ends⟩, fun opens => ?_⟩
  refine ⟨fun same => whole same ?_, fun ended => (same_of_ends ended).1⟩
  -- All bytes are accounted for, so that none is left to be dropped.
  have size : served.size ≤ _ := serve_size pipelined.unallocated packets
    fun s live => by
      rw [pipelined.live] at live
      rw [← Option.some.inj live, pipelined.kind]
  have passed : served.passedOn = pieces.flatten := by
    rw [same.2.2, apart_eq]
    exact if_pos (pipelined.accepted_of_opens opens _)
  have requests : served.requests = [first, second] := by rw [same.2.1, apart_eq]
  rw [Served.size, requests, passed, pipelined.live, Option.elim_some, pipelined.unused, stream]
    at size
  simp only [List.flatMap_cons, List.flatMap_nil, List.append_nil, List.length_append,
    List.length_nil] at size
  exact List.length_eq_zero_iff.mp (by omega)

/-- Every request for a transport gets the same one. -/
def oneTransport : List UInt8 → Outside := fun _ => { acquired := some 7 }

theorem pipelined_shell : Pipelined oneTransport 0 1 newClient
    { kind := .smartSocket, peer := some 0 } (ascii "host:transport-any") (ascii "shell:") where
  unallocated := rfl
  live := rfl
  kind := rfl
  peer := rfl
  unused := rfl
  firstRequest := ⟨by with_unfolding_all decide, by with_unfolding_all decide, by decide +kernel⟩
  named := by with_unfolding_all decide
  succeeds := rfl
  secondRequest := ⟨by with_unfolding_all decide, by with_unfolding_all decide, by decide +kernel⟩
  other := by
    rintro ⟨service, host, -⟩
    have none : hostService (ascii "shell:") = none := by with_unfolding_all decide
    rw [none] at host
    cases host

/-- The request for the transport in two packets, that for the shell in one, and a line for it. -/
def shellPackets : List (List UInt8) :=
  [ascii "0012host:trans", ascii "port-any", ascii "0006shell:", ascii "ls"]

theorem pipelined_iff_shell :
    (serve oneTransport 0 1 newClient shellPackets).Same
        (serve oneTransport 0 1 newClient [frame (ascii "host:transport-any"),
          frame (ascii "shell:"), ascii "ls"]) ↔
      EndsPacket shellPackets (frame (ascii "host:transport-any")).length ∧
        EndsPacket shellPackets
          (frame (ascii "host:transport-any") ++ frame (ascii "shell:")).length := by
  have filled : ∀ packet ∈ shellPackets, packet ≠ [] := by with_unfolding_all decide
  have stream : shellPackets.flatten =
      frame (ascii "host:transport-any") ++ frame (ascii "shell:") ++ [ascii "ls"].flatten := by
    with_unfolding_all decide
  have opens : Opens oneTransport newClient { kind := .smartSocket, peer := some 0 }
      (ascii "host:transport-any") (ascii "shell:") := by
    have none : hostService (ascii "shell:") = none := by with_unfolding_all decide
    rw [Opens, none]
    exact ⟨7, rfl, by with_unfolding_all decide⟩
  exact (pipelined_iff pipelined_shell filled stream).2 opens

/-- With both requests in one packet the second is never acted on, and what was meant for the shell
is taken for the start of a request. -/
theorem shell_request_dropped :
    [ascii "0012host:transport-any0006shell:", ascii "ls"].flatten =
        frame (ascii "host:transport-any") ++ frame (ascii "shell:") ++ [ascii "ls"].flatten ∧
      (serve oneTransport 0 1 newClient
        [ascii "0012host:transport-any0006shell:", ascii "ls"]).requests =
          [ascii "host:transport-any"] ∧
      ¬(serve oneTransport 0 1 newClient
        [ascii "0012host:transport-any0006shell:", ascii "ls"]).Same
          (serve oneTransport 0 1 newClient [frame (ascii "host:transport-any"),
            frame (ascii "shell:"), ascii "ls"]) := by
  refine ⟨by with_unfolding_all decide, by with_unfolding_all decide, ?_⟩
  rintro ⟨-, -, passed⟩
  revert passed
  with_unfolding_all decide

end Server
end Sockets
end AdbWide
