import AdbWide.Sockets.Model

/-!
# Data through the sockets

`enqueue` hands a packet to a socket, `ready` tells it that its peer takes more data, and
`local_socket_event_func` is called when the file descriptor of a local socket can be written or
read.  The request of a client arrives at a smart socket by the same way; it ends with the client's
socket connected to a service of the host, or to a transport by an `A_OPEN` packet.
-/

namespace AdbWide
namespace Sockets

/-- What a call of `adb_read` returns. -/
inductive ReadResult where
  /-- These bytes, or as many of them as there is room for. -/
  | got (first : UInt8) (others : List UInt8)
  /-- `EAGAIN`. -/
  | again
  /-- `EINTR`. -/
  | interrupted
  /-- Zero at the end of the file, or any other error. -/
  | ended
  deriving DecidableEq, Repr

/-- How a loop over `adb_write` ends. -/
inductive WriteOutcome where
  | done
  | again
  | failed
  deriving DecidableEq, Repr

/-- The state of a loop over `adb_write` at its end. -/
structure WriteLoop where
  written : List UInt8
  rest : List UInt8
  outcome : WriteOutcome
  /-- The results not used up. -/
  writes : List WriteResult
  deriving DecidableEq, Repr

/-- `while (p->len > 0) { r = adb_write(..); .. }`.  In `local_socket_event_func` an interrupted
call is made again, in `local_socket_enqueue` it counts as a failure. -/
def writeLoop (retry : Bool) : List WriteResult → List UInt8 → WriteLoop
  | writes, [] => ⟨[], [], .done, writes⟩
  | [], rest => ⟨[], rest, .again, []⟩
  | .wrote more :: writes, rest =>
      let loop := writeLoop retry writes (rest.drop (more + 1))
      { loop with written := rest.take (more + 1) ++ loop.written }
  | .again :: writes, rest => ⟨[], rest, .again, writes⟩
  | .interrupted :: writes, rest =>
      if retry then writeLoop retry writes rest else ⟨[], rest, .failed, writes⟩
  | .failed :: writes, rest => ⟨[], rest, .failed, writes⟩

/-- The state of the loop over the queue of a socket at its end. -/
structure DrainLoop where
  queue : LinkedQueue (List UInt8)
  written : List UInt8
  outcome : WriteOutcome
  writes : List WriteResult

/-- `while ((p = s->pkt_first) != 0) { .. }` of `local_socket_event_func`; every round takes a
packet off the queue, so that there are no more rounds than cells. -/
def drainLoop : Nat → List WriteResult → LinkedQueue (List UInt8) → DrainLoop
  | 0, writes, queue => ⟨queue, [], .again, writes⟩
  | rounds + 1, writes, queue =>
      match queue.front with
      | none => ⟨queue, [], .done, writes⟩
      | some packet =>
          let loop := writeLoop true writes packet
          match loop.outcome with
          | .done =>
              let drain := drainLoop rounds loop.writes queue.pop
              { drain with written := loop.written ++ drain.written }
          | .again | .failed =>
              ⟨queue.setFront loop.rest, loop.written, loop.outcome, loop.writes⟩

/-- The loop over `adb_read` with room for `avail` bytes: what was read, and whether the end was
seen. -/
def readLoop : List ReadResult → Nat → List UInt8 × Bool
  | _, 0 => ([], false)
  | [], _ => ([], false)
  | .got first others :: reads, avail =>
      let bytes := (first :: others).take avail
      let (more, ended) := readLoop reads (avail - bytes.length)
      (bytes ++ more, ended)
  | .again :: _, _ => ([], false)
  | .interrupted :: reads, avail => readLoop reads avail
  | .ended :: _, _ => ([], true)

/-- What the code outside the socket layer and the system answer during one step. -/
structure Outside where
  writes : List WriteResult := []
  reads : List ReadResult := []
  /-- `fde.force_eof`. -/
  forceEof : Bool := false
  /-- `service_to_fd` finds the service of an `A_OPEN` packet. -/
  serviceFound : Bool := true
  /-- `handle_host_request` returns zero. -/
  hostHandled : Bool := false
  /-- What `acquire_one_transport` returns. -/
  acquired : Option Nat := none
  /-- What `list_transports_msg` writes. -/
  deviceList : List UInt8 := []
  /-- The packet an `A_AUTH` packet is answered with. -/
  authAnswer : Option Message := none

namespace Server

/-! ## Enqueue and ready -/

/-- The end of `local_socket_enqueue`: hang the packet on the queue. -/
def enqueuePacket (server : Server) (address : Nat) (packet : List UInt8) : Server :=
  server.modify address fun s => { s with queue := s.queue.push packet, wantWrite := true }

/-- Bytes of a packet have been written to the file descriptor of a local socket. -/
def recordOutput (server : Server) (address : Nat) (bytes : List UInt8) : Server :=
  server.record address fun h => { h with output := h.output ++ bytes }

/-- `local_socket_enqueue`, with what it returns. -/
def localSocketEnqueue (server : Server) (address : Nat) (packet : List UInt8) : Server × Int :=
  match server.sockets address with
  | none => (server, 1)
  | some s =>
      if s.queue.first.isSome then (server.enqueuePacket address packet, 1)
      else
        let loop := writeLoop false server.writes packet
        let server := { server with writes := loop.writes }.recordOutput address loop.written
        match loop.outcome with
        | .done => (server, 0)
        | .again => (server.enqueuePacket address loop.rest, 1)
        | .failed => (server.close address, 1)

/-- `device_tracker_send`, whose argument is a tracker by its type; the peer of a tracker is a local
socket. -/
def deviceTrackerSend (server : Server) (address : Nat) (deviceList : List UInt8) : Server :=
  match server.sockets address with
  | none => server
  | some s =>
      match s.kind, s.peer with
      | .deviceTracker, some peer => (server.localSocketEnqueue peer deviceList).1
      | _, _ => server

/-- `OKAY`, written by `local_socket_ready_notify`. -/
def okayText : List UInt8 := "OKAY".toUTF8.toList

/-- `s->ready(s)`. -/
def ready (server : Server) (address : Nat) (deviceList : List UInt8) : Server :=
  match server.sockets address with
  | none => server
  | some s =>
      match s.kind with
      | .localSocket =>
          let server := if s.notify then server.endNotify address okayText else server
          server.modify address fun s => { s with wantRead := true }
      | .remoteSocket =>
          match s.transport with
          | none => server
          | some transport => server.sendPacket transport ⟨.okay, server.peerId s, s.id, []⟩
      | .smartSocket => server
      | .deviceTracker =>
          if s.updateNeeded then
            (server.modify address fun s => { s with updateNeeded := false }).deviceTrackerSend
              address deviceList
          else server

/-- `update_transports`. -/
def updateTransports (server : Server) (deviceList : List UInt8) : Server :=
  server.deviceTrackerList.foldl
    (fun server tracker => server.deviceTrackerSend tracker deviceList) server

/-- `connect_to_remote`. -/
def connectToRemote (server : Server) (address : Nat) (destination : List UInt8) : Server :=
  match server.sockets address with
  | none => server
  | some s =>
      match s.transport with
      | none => server
      | some transport =>
          (server.sendPacket transport ⟨.open, s.id, 0, destination ++ [0]⟩).record address
            fun h => { h with origin := .opened, input := [] }

/-! ## Requests of clients -/

/-- The value of a hexadecimal digit. -/
def hexDigit (c : UInt8) : Option Nat :=
  if 48 ≤ c ∧ c ≤ 57 then some (c.toNat - 48)
  else if 97 ≤ c ∧ c ≤ 102 then some (c.toNat - 97 + 10)
  else if 65 ≤ c ∧ c ≤ 70 then some (c.toNat - 65 + 10)
  else none

/-- `unhex`, from the value so far. -/
def unhexFrom (value : Nat) : List UInt8 → Nat
  | [] => value
  | c :: text =>
      match hexDigit c with
      | none => 0xffffffff
      | some digit => unhexFrom ((value * 16 + digit) % 2 ^ 32) text

/-- `unhex`. -/
def unhex (text : List UInt8) : Nat := unhexFrom 0 text

/-- The bytes of a string literal. -/
def ascii (text : String) : List UInt8 := text.toUTF8.toList

/-- The C string at the start of a buffer. -/
def cString (buffer : List UInt8) : List UInt8 := buffer.takeWhile (· ≠ 0)

/-- The text from the first colon on, as `strchr(text, ':')`. -/
def fromColon (text : List UInt8) : Option (List UInt8) :=
  match text.dropWhile (· ≠ 58) with
  | [] => none
  | rest => some rest

/-- The prefixes after which a serial holds no port. -/
def serialPrefixes : List (List UInt8) :=
  [ascii "usb:", ascii "product:", ascii "model:", ascii "device:"]

/-- The decimal digits. -/
def isDigit (c : UInt8) : Bool := 48 ≤ c ∧ c ≤ 57

/-- `skip_host_serial`: the text from the colon that ends the serial on. -/
def skipHostSerial (service : List UInt8) : Option (List UInt8) :=
  match serialPrefixes.find? (·.isPrefixOf service) with
  | some known => fromColon (service.drop known.length)
  | none =>
      match fromColon service with
      | none => none
      | some rest =>
          let afterPort := rest.tail.dropWhile isDigit
          if rest.tail.head?.any isDigit ∧ afterPort.head? = some 58 then some afterPort
          else some rest

/-- The request to the host in a text that starts with one of the `host` prefixes. -/
def hostService (text : List UInt8) : Option (List UInt8) :=
  if (ascii "host-serial:").isPrefixOf text then
    let service := text.drop (ascii "host-serial:").length
    match skipHostSerial service with
    | some rest => some rest.tail
    | none => some service
  else if (ascii "host-usb:").isPrefixOf text then some (text.drop (ascii "host-usb:").length)
  else if (ascii "host-local:").isPrefixOf text then
    some (text.drop (ascii "host-local:").length)
  else if (ascii "host:").isPrefixOf text then some (text.drop (ascii "host:").length)
  else none

/-- The kind of socket `host_service_to_socket` makes. -/
def hostServiceKind (name : List UInt8) : Option Kind :=
  if name = ascii "track-devices" then some .deviceTracker
  else if (ascii "wait-for-").isPrefixOf name then
    let target := name.drop (ascii "wait-for-").length
    if (ascii "local").isPrefixOf target ∨ (ascii "usb").isPrefixOf target ∨
        (ascii "any").isPrefixOf target then some .localSocket
    else none
  else if (ascii "connect:").isPrefixOf name then some .localSocket
  else none

/-- The end of `smart_socket_enqueue` for a service of the host: `peer` is given the service socket
for its peer, and the smart socket is freed. -/
def connectToHostService (server : Server) (address peer : Nat) (kind : Kind)
    (deviceList : List UInt8) : Server :=
  let service := server.fresh
  let server :=
    if kind = .deviceTracker then server.createDeviceTracker else server.createLocalSocket
  let server := server.endNotify peer okayText
  let server := server.link peer service
  let server := (server.clearPeer address).close address
  server.ready service deviceList

/-- The end of `smart_socket_enqueue` for a service of a transport: `peer` waits for the answer to
an `A_OPEN` packet, and the smart socket is freed. -/
def connectToTransport (server : Server) (address peer transport : Nat)
    (destination : List UInt8) : Server :=
  let server := server.modify peer fun s =>
    { s with notify := true, peer := none, transport := some transport }
  let server := server.connectToRemote peer destination
  (server.clearPeer address).close address

/-- The part of `smart_socket_enqueue` after the request is complete. -/
def handleRequest (server : Server) (address : Nat) (s : Asocket) (text : List UInt8)
    (outside : Outside) : Server × Int :=
  match s.peer with
  | none => (server.close address, -1)
  | some peer =>
      match hostService text with
      | some service =>
          if outside.hostHandled then (server.close address, -1)
          else if (ascii "transport").isPrefixOf service then
            (server.modify address fun s =>
              { s with request := [], transport := outside.acquired.or s.transport }, 0)
          else
            match hostServiceKind service with
            | none =>
                ((server.writeStatus peer (ascii "FAIL0014unknown host service")).close address,
                  -1)
            | some kind =>
                (server.connectToHostService address peer kind outside.deviceList, 0)
      | none =>
          match s.transport with
          | none =>
              ((server.writeStatus peer (ascii "FAIL0012device offline (x)")).close address, -1)
          | some transport =>
              if (server.transports transport).connectionState = .offline then
                ((server.writeStatus peer (ascii "FAIL0012device offline (x)")).close address, -1)
              else (server.connectToTransport address peer transport text, 1)

/-- `smart_socket_enqueue`, with what it returns. -/
def smartSocketEnqueue (server : Server) (address : Nat) (s : Asocket) (packet : List UInt8)
    (outside : Outside) : Server × Int :=
  if maxPayload < s.request.length + packet.length then (server.close address, -1)
  else
    let request := s.request ++ packet
    let server := server.modify address fun s => { s with request }
    if request.length < 4 then (server, 0)
    else
      let len := unhex (request.take 4)
      if len < 1 ∨ 1024 < len then (server.close address, -1)
      else if request.length < len + 4 then (server, 0)
      else server.handleRequest address s (cString ((request.drop 4).take len)) outside

/-- `s->enqueue(s, p)`, with what it returns. -/
def enqueue (server : Server) (address : Nat) (packet : List UInt8) (outside : Outside) :
    Server × Int :=
  match server.sockets address with
  | none => (server, 1)
  | some s =>
      match s.kind with
      | .localSocket => server.localSocketEnqueue address packet
      | .remoteSocket =>
          match s.transport with
          | none => (server, 1)
          | some transport =>
              (server.sendPacket transport ⟨.wrte, server.peerId s, s.id, packet⟩, 1)
      | .smartSocket => server.smartSocketEnqueue address s packet outside
      | .deviceTracker => (server.close address, -1)

/-! ## Events of file descriptors -/

/-- The `FDE_WRITE` part of `local_socket_event_func`, and whether the function goes on. -/
def eventWrite (server : Server) (address : Nat) (s : Asocket) (deviceList : List UInt8) :
    Server × Bool :=
  let drain := drainLoop (s.queue.fresh + 1) server.writes s.queue
  let server := { server with writes := drain.writes }.recordOutput address drain.written
  let server := server.modify address fun s => { s with queue := drain.queue }
  match drain.outcome with
  | .again => (server, false)
  | .failed => (server.close address, false)
  | .done =>
      if s.closing then (server.close address, false)
      else
        let server := server.modify address fun s => { s with wantWrite := false }
        match s.peer with
        | none => (server, true)
        | some peer => (server.ready peer deviceList, true)

/-- The `FDE_READ` part of `local_socket_event_func`. -/
def eventRead (server : Server) (address : Nat) (outside : Outside) : Server :=
  match server.sockets address with
  | none => server
  | some s =>
      let (data, ended) := readLoop outside.reads maxPayload
      match s.peer with
      -- What a socket without a peer reads is thrown away.
      | none => if ended then server.close address else server
      | some peer =>
          let server := server.record address fun h => { h with input := h.input ++ data }
          match data with
          | [] => if ended then server.close address else server
          | _ :: _ =>
              let (server, r) := server.enqueue peer data outside
              if r < 0 then server
              else
                let server :=
                  if 0 < r then server.modify address fun s => { s with wantRead := false }
                  else server
                if (outside.forceEof ∧ r = 0) ∨ ended then server.close address else server

/-- `local_socket_event_func` with the given events. -/
def localSocketEventFunc (server : Server) (address : Nat) (write read : Bool)
    (outside : Outside) : Server :=
  match server.sockets address with
  | none => server
  | some s =>
      let (server, goesOn) :=
        if write then server.eventWrite address s outside.deviceList else (server, true)
      if goesOn ∧ read then server.eventRead address outside else server

end Server
end Sockets
end AdbWide
