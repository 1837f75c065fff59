import Mathlib.Algebra.Group.Nat.Defs
import AdbWide.LinkedQueue

/-!
# Sockets of the server

An `asocket` is one end of a stream inside the server.  A local socket stands for a file
descriptor, a remote socket for a stream of some transport, a smart socket for a client that has
not yet said what it wants, and a device tracker for a client that is sent the list of devices.
This file embeds the four kinds with their `enqueue`, `ready`, `shutdown` and `close` functions.

Sockets live at addresses that are never used again.  An operation on a freed socket does nothing.
What `adb_write` returns is taken from a list of results; past its end every call would block.
-/

namespace AdbWide
namespace Sockets

/-- `MAX_PAYLOAD`. -/
def maxPayload : Nat := 4096

/-- The commands `handle_packet` knows. -/
inductive Command where
  | sync
  | cnxn
  | auth
  | open
  | okay
  | clse
  | wrte
  | other (word : Nat)
  deriving DecidableEq, Repr

/-- A packet on a transport, without what `send_packet` computes from the rest. -/
structure Message where
  command : Command
  arg0 : Nat
  arg1 : Nat
  payload : List UInt8
  deriving DecidableEq, Repr

/-- Which functions the pointers of an `asocket` are set to. -/
inductive Kind where
  | localSocket
  | remoteSocket
  | smartSocket
  | deviceTracker
  deriving DecidableEq, Repr

/-- `asocket`, with the fields `aremotesocket` and `device_tracker` add to it. -/
structure Asocket where
  kind : Kind
  /-- `ready` and `close` are `local_socket_ready_notify` and `local_socket_close_notify`. -/
  notify : Bool := false
  id : Nat := 0
  closing : Bool := false
  peer : Option Nat := none
  transport : Option Nat := none
  /-- The packets of a local socket from `pkt_first` to `pkt_last`, each with what is left of it. -/
  queue : LinkedQueue (List UInt8) := .empty
  /-- `FDE_READ` is wanted. -/
  wantRead : Bool := false
  /-- `FDE_WRITE` is wanted. -/
  wantWrite : Bool := false
  /-- The data in the only packet of a smart socket. -/
  request : List UInt8 := []
  /-- `update_needed` of a device tracker. -/
  updateNeeded : Bool := false

/-- What a call of `adb_write` returns. -/
inductive WriteResult where
  /-- One more byte than this, or all there are. -/
  | wrote (more : Nat)
  /-- `EAGAIN`. -/
  | again
  /-- `EINTR`. -/
  | interrupted
  /-- Zero, or any other error. -/
  | failed
  deriving DecidableEq, Repr

/-- `connection_state`. -/
inductive ConnectionState where
  | offline
  | bootloader
  | device
  | host
  | recovery
  | noPerm
  | sideload
  | unauthorized
  deriving DecidableEq, Repr

/-- The part of an `atransport` the sockets depend on. -/
structure TransportState where
  online : Bool := false
  connectionState : ConnectionState := .offline
  /-- The remote sockets on the list of disconnects. -/
  disconnects : List Nat := []

/-- How a local socket came to be one end of a stream of a transport. -/
inductive Origin where
  | none
  /-- By `connect_to_remote`. -/
  | opened
  /-- By an `A_OPEN` packet. -/
  | accepted
  deriving DecidableEq, Repr

/-- What has become of the local socket at an address, kept when the socket is freed. -/
structure History where
  /-- The id it was installed with. -/
  id : Nat := 0
  origin : Origin := .none
  /-- The id of the remote socket it was connected to. -/
  mate : Option Nat := none
  /-- What has been read from its file descriptor, since its stream was opened if it was. -/
  input : List UInt8 := []
  /-- What has been written to its file descriptor from packets. -/
  output : List UInt8 := []

/-- The global state of the socket layer, with a record of what went in and out. -/
structure Server where
  sockets : Nat → Option Asocket
  /-- The address the next socket gets. -/
  fresh : Nat
  localSocketList : List Nat
  localSocketClosingList : List Nat
  localSocketNextId : Nat
  transports : Nat → TransportState
  deviceTrackerList : List Nat
  /-- The results of the coming calls of `adb_write`. -/
  writes : List WriteResult
  /-- The packets given to `send_packet`, each with its transport. -/
  sent : List (Nat × Message)
  /-- The packets given to `handle_packet`, each with its transport. -/
  received : List (Nat × Message)
  history : Nat → History
  /-- The status texts written past the queues. -/
  status : List (Nat × List UInt8)
  /-- How often `install_local_socket` was called. -/
  installs : Nat

namespace Server

/-! ## Small steps on the state -/

/-- Change the fields of a socket. -/
def modify (server : Server) (address : Nat) (change : Asocket → Asocket) : Server :=
  { server with
    sockets := Function.update server.sockets address ((server.sockets address).map change) }

@[simp] theorem sockets_modify_self (server : Server) (address : Nat)
    (change : Asocket → Asocket) :
    (server.modify address change).sockets address = (server.sockets address).map change := by
  simp [modify]

theorem sockets_modify_of_ne {server : Server} {address other : Nat}
    {change : Asocket → Asocket} (different : other ≠ address) :
    (server.modify address change).sockets other = server.sockets other := by
  simp [modify, different]

/-- `free(s)`. -/
def free (server : Server) (address : Nat) : Server :=
  { server with sockets := Function.update server.sockets address none }

/-- `send_packet`. -/
def sendPacket (server : Server) (transport : Nat) (message : Message) : Server :=
  { server with sent := server.sent ++ [(transport, message)] }

/-- `adb_write` of a status text, whose result nobody looks at. -/
def writeStatus (server : Server) (address : Nat) (text : List UInt8) : Server :=
  { server with status := server.status ++ [(address, text)] }

/-- Record a change in what has become of a local socket. -/
def record (server : Server) (address : Nat) (change : History → History) : Server :=
  { server with
    history := Function.update server.history address (change (server.history address)) }

/-- `s->peer = 0`. -/
def clearPeer (server : Server) (address : Nat) : Server :=
  server.modify address fun s => { s with peer := none }

/-- The peer of a socket. -/
def peerOf (server : Server) (address : Nat) : Option Asocket :=
  (server.sockets address).bind fun s => s.peer.bind server.sockets

/-- `s->peer->id`. -/
def peerId (server : Server) (s : Asocket) : Nat :=
  match s.peer.bind server.sockets with
  | some peer => peer.id
  | none => 0

/-! ## The lists of local sockets -/

/-- `find_local_socket`. -/
def findLocalSocket (server : Server) (localId peerId : Nat) : Option Nat :=
  let named (address : Nat) : Bool := (server.sockets address).any fun s => s.id = localId
  match server.localSocketList.find? named with
  | none => none
  | some address =>
      if peerId = 0 ∨ (server.peerOf address).any (fun peer => peer.id = peerId) then some address
      else none

/-- `remove_socket`. -/
def removeSocket (server : Server) (address : Nat) : Server :=
  { server.modify address fun s => { s with id := 0 } with
    localSocketList := server.localSocketList.erase address
    localSocketClosingList := server.localSocketClosingList.erase address }

/-- The id after the given one: 32 bits, and never zero. -/
def nextId (id : Nat) : Nat :=
  if (id + 1) % 2 ^ 32 = 0 then 1 else (id + 1) % 2 ^ 32

/-- `create_local_socket`, with `install_local_socket`.  The new socket is at the old `fresh`. -/
def createLocalSocket (server : Server) : Server :=
  { server with
    sockets := Function.update server.sockets server.fresh
      (some { kind := .localSocket, id := server.localSocketNextId })
    fresh := server.fresh + 1
    localSocketList := server.localSocketList ++ [server.fresh]
    localSocketNextId := nextId server.localSocketNextId
    history := Function.update server.history server.fresh { id := server.localSocketNextId }
    installs := server.installs + 1 }

/-- `create_remote_socket`.  The new socket is at the old `fresh`. -/
def createRemoteSocket (server : Server) (id transport : Nat) : Server :=
  let state := server.transports transport
  { server with
    sockets := Function.update server.sockets server.fresh
      (some { kind := .remoteSocket, id, transport := some transport })
    fresh := server.fresh + 1
    transports := Function.update server.transports transport
      { state with disconnects := state.disconnects ++ [server.fresh] } }

/-- `create_smart_socket`. -/
def createSmartSocket (server : Server) : Server :=
  { server with
    sockets := Function.update server.sockets server.fresh (some { kind := .smartSocket })
    fresh := server.fresh + 1 }

/-- `create_device_tracker`. -/
def createDeviceTracker (server : Server) : Server :=
  { server with
    sockets := Function.update server.sockets server.fresh
      (some { kind := .deviceTracker, updateNeeded := true })
    fresh := server.fresh + 1
    deviceTrackerList := server.fresh :: server.deviceTrackerList }

/-- Make two sockets each other's peer. -/
def link (server : Server) (left right : Nat) : Server :=
  (server.modify left fun s => { s with peer := some right }).modify right
    fun s => { s with peer := some left }

/-! ## Closing -/

/-- The end of `local_socket_close_locked`: destroy the socket, or put it on the closing list while
it has packets to write. -/
def finishClose (server : Server) (address : Nat) : Server :=
  match server.sockets address with
  | none => server
  | some s =>
      if s.closing ∨ s.queue.first = none then
        -- `local_socket_destroy`
        (server.removeSocket address).free address
      else
        let server := server.modify address fun s => { s with closing := true, wantRead := false }
        let server := server.removeSocket address
        { server with
          localSocketClosingList := server.localSocketClosingList ++ [address] }

/-- `FAIL0006closed`, written by `local_socket_close_notify`. -/
def failClosed : List UInt8 := "FAIL0006closed".toUTF8.toList

/-- Take back `local_socket_ready_notify` and `local_socket_close_notify`, with the text they
write. -/
def endNotify (server : Server) (address : Nat) (text : List UInt8) : Server :=
  (server.modify address fun s => { s with notify := false }).writeStatus address text

/-- `s->close(s)` of a socket whose `peer` has just been set to zero. -/
def closeUnpeered (server : Server) (address : Nat) : Server :=
  match server.sockets address with
  | none => server
  | some s =>
      match s.kind with
      | .localSocket =>
          if s.notify then (server.endNotify address failClosed).finishClose address
          else server.finishClose address
      | .remoteSocket =>
          match s.transport with
          | none => server.free address
          | some transport =>
              let state := server.transports transport
              { server with
                transports := Function.update server.transports transport
                  { state with disconnects := state.disconnects.erase address } }.free address
      | .smartSocket => server.free address
      | .deviceTracker =>
          { server with
            deviceTrackerList := server.deviceTrackerList.erase address }.free address

/-- `s->shutdown(s)`: only remote sockets have one, `remote_socket_shutdown`. -/
def shutdown (server : Server) (address : Nat) : Server :=
  match server.sockets address with
  | none => server
  | some s =>
      match s.kind, s.transport with
      | .remoteSocket, some transport =>
          server.sendPacket transport ⟨.clse, server.peerId s, s.id, []⟩
      | _, _ => server

/-- `local_socket_close_locked`. -/
def localSocketCloseLocked (server : Server) (address : Nat) : Server :=
  match server.sockets address with
  | none => server
  | some s =>
      match s.peer with
      | none => server.finishClose address
      | some peer =>
          let server := server.shutdown peer
          let server := server.clearPeer peer
          let server := server.closeUnpeered peer
          let server := server.clearPeer address
          server.finishClose address

/-- `s->close(s)`.  The functions of the other kinds close the peer first and then free the
socket; `remote_socket_disconnect` does the same as `remote_socket_close`. -/
def close (server : Server) (address : Nat) : Server :=
  match server.sockets address with
  | none => server
  | some s =>
      match s.kind with
      | .localSocket =>
          if s.notify then (server.endNotify address failClosed).localSocketCloseLocked address
          else server.localSocketCloseLocked address
      | .remoteSocket | .smartSocket | .deviceTracker =>
          match s.peer with
          | none => server.closeUnpeered address
          | some peer =>
              ((server.clearPeer peer).closeUnpeered peer).closeUnpeered address

end Server
end Sockets
end AdbWide
