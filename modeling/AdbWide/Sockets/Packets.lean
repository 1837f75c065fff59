import AdbWide.Execution
import AdbWide.Sockets.Traffic

/-!
# Packets and the steps of the server

`handle_packet` acts on the packets of a transport.  The other steps of the server are the events of
its file descriptors, new clients, and transports that go away.
-/

namespace AdbWide
namespace Sockets
namespace Server

/-- `s->transport == t || (s->peer && s->peer->transport == t)`. -/
def onTransport (server : Server) (transport address : Nat) : Bool :=
  (server.sockets address).any (fun s => s.transport = some transport) ∨
    (server.peerOf address).any (fun peer => peer.transport = some transport)

/-- The restarting loop of `close_all_sockets`. -/
def closeAllSocketsLoop (transport : Nat) : Nat → Server → Server
  | 0, server => server
  | rounds + 1, server =>
      match server.localSocketList.find? (server.onTransport transport) with
      | none => server
      | some address =>
          closeAllSocketsLoop transport rounds (server.localSocketCloseLocked address)

/-- `close_all_sockets`; every round takes a socket off the list. -/
def closeAllSockets (server : Server) (transport : Nat) : Server :=
  closeAllSocketsLoop transport (server.localSocketList.length + 1) server

/-- `run_transport_disconnects`, as far as sockets are registered. -/
def runTransportDisconnects (server : Server) (transport : Nat) : Server :=
  (server.transports transport).disconnects.foldl close server

/-- Change the state of a transport. -/
def modifyTransport (server : Server) (transport : Nat)
    (change : TransportState → TransportState) : Server :=
  { server with
    transports := Function.update server.transports transport
      (change (server.transports transport)) }

/-- `handle_offline`. -/
def handleOffline (server : Server) (transport : Nat) : Server :=
  (server.modifyTransport transport fun t => { t with online := false }).runTransportDisconnects
    transport

/-- The part of `parse_banner` that sets `connection_state`: the text before the first colon, or
the whole banner. -/
def parseBanner (server : Server) (transport : Nat) (banner deviceList : List UInt8) : Server :=
  let type := (cString banner).takeWhile (· ≠ 58)
  let set (state : ConnectionState) :=
    server.modifyTransport transport fun t => { t with connectionState := state }
  if type = ascii "bootloader" then (set .bootloader).updateTransports deviceList
  else if type = ascii "device" then (set .device).updateTransports deviceList
  else if type = ascii "recovery" then (set .recovery).updateTransports deviceList
  else if type = ascii "sideload" then (set .sideload).updateTransports deviceList
  else set .host

/-- `parse_banner` finds a host, or a device the device trackers are told about. -/
theorem parseBanner_cases (server : Server) (transport : Nat) (banner deviceList : List UInt8) :
    server.parseBanner transport banner deviceList =
        server.modifyTransport transport (fun t => { t with connectionState := .host }) ∨
      ∃ state ∈ [ConnectionState.bootloader, .device, .recovery, .sideload],
        server.parseBanner transport banner deviceList =
          (server.modifyTransport transport fun t =>
            { t with connectionState := state }).updateTransports deviceList := by
  unfold parseBanner
  dsimp only
  split_ifs
  · exact .inr ⟨.bootloader, by simp, rfl⟩
  · exact .inr ⟨.device, by simp, rfl⟩
  · exact .inr ⟨.recovery, by simp, rfl⟩
  · exact .inr ⟨.sideload, by simp, rfl⟩
  · exact .inl rfl

/-- `A_VERSION`. -/
def aVersion : Nat := 0x01000000

/-- `ADB_AUTH_TOKEN`. -/
def authToken : Nat := 1

/-- `send_connect`. -/
def sendConnect (server : Server) (transport : Nat) : Server :=
  server.sendPacket transport ⟨.cnxn, aVersion, maxPayload, ascii "host::" ++ [0]⟩

/-- `A_SYNC` in `handle_packet`. -/
def handleSync (server : Server) (transport : Nat) (message : Message) : Server :=
  if message.arg0 ≠ 0 then (server.sendPacket transport message).sendConnect transport
  else
    let server :=
      server.modifyTransport transport fun t => { t with connectionState := .offline }
    (server.handleOffline transport).sendPacket transport message

/-- `A_CNXN` in `handle_packet`. -/
def handleConnect (server : Server) (transport : Nat) (message : Message)
    (deviceList : List UInt8) : Server :=
  let server :=
    if (server.transports transport).connectionState = .offline then server
    else
      (server.modifyTransport transport
        fun t => { t with connectionState := .offline }).handleOffline transport
  let server := server.parseBanner transport message.payload deviceList
  server.modifyTransport transport fun t => { t with online := true }

/-- `A_AUTH` in `handle_packet`; the keys and the answer are made outside. -/
def handleAuth (server : Server) (transport : Nat) (message : Message)
    (answer : Option Message) : Server :=
  let server :=
    if message.arg0 = authToken then
      server.modifyTransport transport fun t => { t with connectionState := .unauthorized }
    else server
  match answer with
  | none => server
  | some answer => server.sendPacket transport answer

/-- `A_OPEN` in `handle_packet`. -/
def handleOpen (server : Server) (transport : Nat) (message : Message) (outside : Outside) :
    Server :=
  if (server.transports transport).online ∧ message.arg0 ≠ 0 ∧ message.arg1 = 0 then
    if outside.serviceFound then
      let address := server.fresh
      let id := server.localSocketNextId
      let server := server.createLocalSocket
      let remote := server.fresh
      let server := (server.createRemoteSocket message.arg0 transport).link address remote
      let server := server.record address fun h =>
        { h with origin := .accepted, mate := some message.arg0 }
      let server := server.sendPacket transport ⟨.okay, id, message.arg0, []⟩
      server.ready address outside.deviceList
    else server.sendPacket transport ⟨.clse, 0, message.arg0, []⟩
  else server

/-- `A_OKAY` in `handle_packet`. -/
def handleOkay (server : Server) (transport : Nat) (message : Message) (outside : Outside) :
    Server :=
  if (server.transports transport).online ∧ message.arg0 ≠ 0 ∧ message.arg1 ≠ 0 then
    match server.findLocalSocket message.arg1 0 with
    | none => server
    | some address =>
        match server.sockets address with
        | none => server
        | some s =>
            match s.peer with
            | none =>
                let remote := server.fresh
                let server :=
                  (server.createRemoteSocket message.arg0 transport).link address remote
                let server := server.record address fun h => { h with mate := some message.arg0 }
                server.ready address outside.deviceList
            | some _ =>
                if server.peerId s = message.arg0 then server.ready address outside.deviceList
                else server
  else server

/-- `A_CLSE` in `handle_packet`. -/
def handleClose (server : Server) (transport : Nat) (message : Message) : Server :=
  if (server.transports transport).online ∧ message.arg1 ≠ 0 then
    match server.findLocalSocket message.arg1 message.arg0 with
    | none => server
    | some address =>
        if message.arg0 = 0 ∧
            (server.peerOf address).any (fun peer => peer.transport ≠ some transport) then server
        else server.close address
  else server

/-- `A_WRTE` in `handle_packet`. -/
def handleWrite (server : Server) (transport : Nat) (message : Message) (outside : Outside) :
    Server :=
  if (server.transports transport).online ∧ message.arg0 ≠ 0 ∧ message.arg1 ≠ 0 then
    match server.findLocalSocket message.arg1 message.arg0 with
    | none => server
    | some address =>
        let (server, r) := server.enqueue address message.payload outside
        if r = 0 then
          match server.sockets address with
          | none => server
          | some s => server.sendPacket transport ⟨.okay, s.id, message.arg0, []⟩
        else server
  else server

/-- `handle_packet`. -/
def handlePacket (server : Server) (transport : Nat) (message : Message) (outside : Outside) :
    Server :=
  let server := { server with
    received := server.received ++ [(transport, message)]
    writes := outside.writes }
  match message.command with
  | .sync => server.handleSync transport message
  | .cnxn => server.handleConnect transport message outside.deviceList
  | .auth => server.handleAuth transport message outside.authAnswer
  | .open => server.handleOpen transport message outside
  | .okay => server.handleOkay transport message outside
  | .clse => server.handleClose transport message
  | .wrte => server.handleWrite transport message outside
  | .other _ => server

/-- A server without sockets, whose transports are all offline. -/
def start : Server where
  sockets := fun _ => none
  fresh := 0
  localSocketList := []
  localSocketClosingList := []
  localSocketNextId := 1
  transports := fun _ => {}
  deviceTrackerList := []
  writes := []
  sent := []
  received := []
  history := fun _ => {}
  status := []
  installs := 0

end Server

/-- What happens to the server from outside. -/
inductive Step where
  /-- `transport_socket_events`. -/
  | packet (transport : Nat) (message : Message)
  /-- `local_socket_event_func`. -/
  | event (address : Nat) (write read : Bool)
  /-- `ss_listener_event_func`: a client of the server. -/
  | client
  /-- `listener_event_func`: a connection that is forwarded to a transport. -/
  | forward (transport : Nat) (destination : List UInt8)
  /-- `close_all_sockets` of the input thread. -/
  | closeAll (transport : Nat)
  /-- `run_transport_disconnects` when a transport is removed. -/
  | disconnect (transport : Nat)
  /-- `update_transports` when a transport is registered or removed. -/
  | update

/-- The events a socket is called for are among those it wants, apart from an `FDE_READ` that was
pending when the socket was closed, and what `connect_to_remote` is asked for fits a packet. -/
def Step.Allowed (server : Server) : Step → Prop
  | .event address write read =>
      ∃ s, server.sockets address = some s ∧ s.kind = .localSocket ∧
        (write = true → s.wantWrite = true) ∧
          (read = true → s.wantRead = true ∨ s.closing = true)
  | .forward _ destination => destination.length + 1 ≤ maxPayload - 1
  | _ => True

/-- What the server does. -/
def Step.apply (outside : Outside) (server : Server) : Step → Server
  | .packet transport message => server.handlePacket transport message outside
  | .event address write read =>
      { server with writes := outside.writes }.localSocketEventFunc address write read outside
  | .client =>
      let address := server.fresh
      let server := server.createLocalSocket
      let smart := server.fresh
      (server.createSmartSocket.link address smart).ready address outside.deviceList
  | .forward transport destination =>
      let address := server.fresh
      let server := server.createLocalSocket.modify address fun s =>
        { s with transport := some transport }
      server.connectToRemote address destination
  | .closeAll transport => server.closeAllSockets transport
  | .disconnect transport => server.runTransportDisconnects transport
  | .update => { server with writes := outside.writes }.updateTransports outside.deviceList

/-- One step of the server, with whatever is answered from outside. -/
def ServerStep (before : Server) (label : Step × Outside) (after : Server) : Prop :=
  label.1.Allowed before ∧ after = label.1.apply label.2 before

end Sockets
end AdbWide
