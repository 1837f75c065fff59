import AdbWide.CircularList
import AdbWide.Execution
import AdbWide.Sockets.Traffic

/-!
# The listeners

The server listens at one port for its own clients, the smart socket, and at others for connections
that it forwards to a device.  A listener is a node of `listener_list` and, while it belongs to a
transport, has a second node in the list of those who want to know when the transport goes away.
The remote sockets of the transport are in the same list.

Listeners, remote sockets and transports are allocated and freed here.  Whatever reads or writes a
node checks first that the node still exists.
-/

namespace AdbWide
namespace Listeners

open Sockets.Server (ascii)

/-- What has the links of `listener_list`: the static head, and the allocated listeners. -/
inductive Node where
  | listenerList
  | listener (address : Nat)
  deriving DecidableEq, Repr

/-- What is an `adisconnect`: the head in each transport, and what listeners and remote sockets
have. -/
inductive Adisconnect where
  | disconnects (transport : Nat)
  | listener (address : Nat)
  | remote (address : Nat)
  deriving DecidableEq, Repr

/-- The fields of `alistener` besides the links of its two nodes. -/
structure Alistener where
  fd : Nat
  localName : List UInt8
  connectTo : List UInt8
  transport : Option Nat
  /-- The listener that `disconnect.func` is to be called for.  There is none as long as nothing
  has been assigned to the two fields. -/
  callback : Option Nat
  deriving DecidableEq, Repr

/-- `l->connect_to[0] == '*'`. -/
def Alistener.special (l : Alistener) : Bool := (ascii "*").isPrefixOf l.connectTo

/-- Why a function does not return. -/
inductive Fault where
  /-- `fatal` was called. -/
  | fatal
  | nullPointer
  | useAfterFree
  /-- The fuel has run out. -/
  | endless
  deriving DecidableEq, Repr

/-- `install_status_t`. -/
inductive InstallStatus where
  | ok
  | internalError
  | cannotBind
  | cannotRebind
  deriving DecidableEq, Repr

/-- What the system answers to `install_listener`. -/
structure Outside where
  /-- `calloc` and `strdup` find memory. -/
  memory : Bool := true
  /-- What `calloc` returns. -/
  address : Nat
  /-- The file descriptor of the new server socket, or nothing if it could not be made. -/
  server : Option Nat
  deriving DecidableEq, Repr

/-- `local_name_to_fd`, which knows no other names on Win32. -/
def localNameToFd (outside : Outside) (name : List UInt8) : Option Nat :=
  if (ascii "tcp:").isPrefixOf name then outside.server else none

/-- What is allocated, and how it is linked. -/
structure Table where
  listeners : Nat → Option Alistener
  /-- The remote sockets, with their transports. -/
  remotes : Nat → Option Nat
  /-- The transports, from their registration on. -/
  transports : Nat → Bool
  /-- The links of `listener_list`. -/
  links : Links Node
  /-- The links of all lists of disconnects. -/
  disconnects : Links Adisconnect

namespace Table

/-! ## Memory -/

/-- The listener at an address. -/
def dereference (table : Table) (address : Nat) : Except Fault Alistener :=
  match table.listeners address with
  | some l => .ok l
  | none => .error .useAfterFree

/-- The node is in memory that has not been freed. -/
def allocated (table : Table) : Node → Bool
  | .listenerList => true
  | .listener address => (table.listeners address).isSome

/-- The node is in memory that has not been freed. -/
def allocatedDisconnect (table : Table) : Adisconnect → Bool
  | .disconnects transport => table.transports transport
  | .listener address => (table.listeners address).isSome
  | .remote address => (table.remotes address).isSome

def access (table : Table) (node : Node) : Except Fault Unit :=
  if table.allocated node then .ok () else .error .useAfterFree

def accessDisconnect (table : Table) (dis : Adisconnect) : Except Fault Unit :=
  if table.allocatedDisconnect dis then .ok () else .error .useAfterFree

def store (table : Table) (address : Nat) (l : Alistener) : Table :=
  { table with listeners := Function.update table.listeners address (some l) }

/-! ## Disconnects -/

/-- `dis->prev->next = dis->next; dis->next->prev = dis->prev; dis->next = dis->prev = dis;` -/
def unlinkDisconnect (links : Links Adisconnect) (dis : Adisconnect) : Links Adisconnect :=
  let next := Function.update links.next (links.prev dis) (links.next dis)
  let prev := Function.update links.prev (next dis) (links.prev dis)
  { next := Function.update next dis dis, prev := Function.update prev dis dis }

/-- `dis->next = head; dis->prev = dis->next->prev; dis->prev->next = dis;
dis->next->prev = dis;` -/
def linkDisconnect (links : Links Adisconnect) (head dis : Adisconnect) : Links Adisconnect :=
  let next := Function.update links.next dis head
  let prev := Function.update links.prev dis (links.prev head)
  let next := Function.update next (prev dis) dis
  { next, prev := Function.update prev (next dis) dis }

def addTransportDisconnect (table : Table) (transport : Nat) (dis : Adisconnect) :
    Except Fault Table := do
  table.accessDisconnect (.disconnects transport)
  table.accessDisconnect (table.disconnects.prev (.disconnects transport))
  return { table with
    disconnects := linkDisconnect table.disconnects (.disconnects transport) dis }

def removeTransportDisconnect (table : Table) (dis : Adisconnect) : Except Fault Table := do
  table.accessDisconnect (table.disconnects.prev dis)
  table.accessDisconnect (table.disconnects.next dis)
  return { table with disconnects := unlinkDisconnect table.disconnects dis }

/-! ## Freeing listeners -/

def freeListener (table : Table) (address : Nat) : Except Fault Table := do
  let l ← table.dereference address
  -- `l->next` is not zero: only listeners that have been put into the list get here
  table.access (table.links.next (.listener address))
  table.access (table.links.prev (.listener address))
  let table := { table with links := table.links.detach (.listener address) }
  let table ←
    if l.transport.isSome then table.removeTransportDisconnect (.listener address)
    else pure table
  return { table with listeners := Function.update table.listeners address none }

def listenerDisconnect (table : Table) (address : Nat) : Except Fault Table :=
  table.freeListener address

/-- The loop over `listener_list` of `remove_listener` and `install_listener`, standing at a
node. -/
def findListener (table : Table) (localName : List UInt8) :
    Nat → Node → Except Fault (Option Nat)
  | 0, _ => .error .endless
  | _ + 1, .listenerList => .ok none
  | fuel + 1, .listener address => do
      let l ← table.dereference address
      if localName = l.localName then
        return some address
      else
        table.findListener localName fuel (table.links.next (.listener address))

/-- `remove_listener`, which makes no use of its second argument. -/
def removeListener (table : Table) (localName : List UInt8) (fuel : Nat) :
    Except Fault (Int × Table) := do
  match ← table.findListener localName fuel (table.links.next .listenerList) with
  | some address => return (0, ← table.listenerDisconnect address)
  | none => return (-1, table)

/-- The loop of `remove_all_listeners`, standing at a node. -/
def removeAllListenersFrom : Nat → Node → Table → Except Fault Table
  | 0, _, _ => .error .endless
  | _ + 1, .listenerList, table => .ok table
  | fuel + 1, .listener address, table => do
      let l ← table.dereference address
      let next := table.links.next (.listener address)
      if l.special then
        removeAllListenersFrom fuel next table
      else
        removeAllListenersFrom fuel next (← table.listenerDisconnect address)

def removeAllListeners (table : Table) (fuel : Nat) : Except Fault Table :=
  removeAllListenersFrom fuel (table.links.next .listenerList) table

/-! ## Installing listeners -/

/-- A listener is moved from the disconnects of one transport to those of another. -/
def moveListener (table : Table) (address : Nat) (l : Alistener) (transport : Option Nat) :
    Except Fault Table := do
  -- the links in a listener that never had a transport are zero
  if l.transport = none then
    .error .nullPointer
  else
    let table ← table.removeTransportDisconnect (.listener address)
    let table := table.store address { l with transport }
    match transport with
    | none => .error .nullPointer
    | some target => table.addTransportDisconnect target (.listener address)

/-- A listener gets another target, and perhaps another transport. -/
def redirectListener (table : Table) (address : Nat) (l : Alistener) (transport : Option Nat) :
    Except Fault Table :=
  let table := table.store address l
  if l.transport = transport then .ok table else table.moveListener address l transport

/-- `install_listener` for a name that is in use. -/
def rebindListener (table : Table) (outside : Outside) (address : Nat) (connectTo : List UInt8)
    (transport : Option Nat) (noRebind : Bool) : Except Fault (InstallStatus × Table) := do
  let l ← table.dereference address
  if l.special then
    return (.internalError, table)
  else if noRebind then
    return (.cannotRebind, table)
  else if outside.memory = false then
    return (.internalError, table)
  else
    return (.ok, ← table.redirectListener address { l with connectTo } transport)

/-- A listener is put at a new address and at the end of `listener_list`. -/
def linkListener (table : Table) (address : Nat) (l : Alistener) : Except Fault Table := do
  let table := table.store address l
  table.access (table.links.prev .listenerList)
  return { table with links := table.links.insertLast .listenerList (.listener address) }

/-- `install_listener` for a new name. -/
def newListener (table : Table) (outside : Outside) (localName connectTo : List UInt8)
    (transport : Option Nat) : Except Fault (InstallStatus × Table) :=
  if outside.memory = false then
    .error .fatal
  else
    match localNameToFd outside localName with
    | none => .ok (.cannotBind, table)
    | some fd => do
        let address := outside.address
        let l : Alistener := { fd, localName, connectTo, transport, callback := none }
        let table ← table.linkListener address l
        match transport with
        | none => return (.ok, table)
        | some target =>
            let table := table.store address { l with callback := some address }
            return (.ok, ← table.addTransportDisconnect target (.listener address))

def installListener (table : Table) (outside : Outside) (localName connectTo : List UInt8)
    (transport : Option Nat) (noRebind : Bool) (fuel : Nat) :
    Except Fault (InstallStatus × Table) := do
  match ← table.findListener localName fuel (table.links.next .listenerList) with
  | some address => table.rebindListener outside address connectTo transport noRebind
  | none => table.newListener outside localName connectTo transport

/-! ## Remote sockets and transports -/

/-- `create_remote_socket` at an address. -/
def createRemoteSocket (table : Table) (transport address : Nat) : Except Fault Table :=
  { table with
    remotes := Function.update table.remotes address (some transport) }.addTransportDisconnect
      transport (.remote address)

/-- `remote_socket_disconnect` and `remote_socket_close`.  Closing the peer, which has been told
that it has no peer, touches none of the lists. -/
def remoteSocketDisconnect (table : Table) (address : Nat) : Except Fault Table := do
  table.accessDisconnect (.remote address)
  let table ← table.removeTransportDisconnect (.remote address)
  return { table with remotes := Function.update table.remotes address none }

/-- `dis->func( dis->opaque, t )`. -/
def callDisconnect (table : Table) : Adisconnect → Except Fault Table
  -- nobody assigns a function to the head
  | .disconnects _ => .error .nullPointer
  | .listener address => do
      let l ← table.dereference address
      match l.callback with
      | some target => table.listenerDisconnect target
      | none => .error .nullPointer
  | .remote address => table.remoteSocketDisconnect address

/-- The loop of `run_transport_disconnects`, standing at a node. -/
def runDisconnectsFrom (transport : Nat) : Nat → Adisconnect → Table → Except Fault Table
  | 0, _, _ => .error .endless
  | fuel + 1, dis, table =>
      if dis = .disconnects transport then
        .ok table
      else do
        table.accessDisconnect dis
        let next := table.disconnects.next dis
        runDisconnectsFrom transport fuel next (← table.callDisconnect dis)

def runTransportDisconnects (table : Table) (transport : Nat) (fuel : Nat) : Except Fault Table :=
  do
    table.accessDisconnect (.disconnects transport)
    runDisconnectsFrom transport fuel (table.disconnects.next (.disconnects transport)) table

/-- `transport_registration_func` for a new transport, as far as the lists are concerned. -/
def registerTransport (table : Table) (transport : Nat) : Table :=
  { table with
    transports := Function.update table.transports transport true
    disconnects :=
      { next := Function.update table.disconnects.next (.disconnects transport)
          (.disconnects transport)
        prev := Function.update table.disconnects.prev (.disconnects transport)
          (.disconnects transport) } }

/-- `transport_registration_func` for a transport that is to go. -/
def removeTransport (table : Table) (transport : Nat) (fuel : Nat) : Except Fault Table := do
  let table ← table.runTransportDisconnects transport fuel
  return { table with transports := Function.update table.transports transport false }

/-- Nothing has been allocated, and `listener_list` is its own neighbour. -/
def empty (disconnects : Links Adisconnect) : Table where
  listeners := fun _ => none
  remotes := fun _ => none
  transports := fun _ => false
  links := { next := id, prev := id }
  disconnects := disconnects

end Table

/-- `"*smartsocket*"`. -/
def smartsocket : List UInt8 := ascii "*smartsocket*"

/-- The calls that change the lists. -/
inductive Call where
  /-- The one of `install_listener` in `adb_main`. -/
  | installSmartsocket (localName : List UInt8)
  /-- Those of `install_listener` for a transport. -/
  | installListener (localName connectTo : List UInt8) (transport : Nat) (noRebind : Bool)
  | removeListener (localName : List UInt8)
  | removeAllListeners
  | runTransportDisconnects (transport : Nat)
  | registerTransport (transport : Nat)
  | removeTransport (transport : Nat)
  | createRemoteSocket (transport address : Nat)
  | remoteSocketClose (address : Nat)
  deriving DecidableEq, Repr

/-- A call that returns.  What is given to it exists, and what `calloc` returns does not yet. -/
inductive CallStep : Table → Call → Table → Prop where
  -- `adb_main` makes its call before any other
  | installSmartsocket {table after : Table} {localName : List UInt8} {outside : Outside}
      {status : InstallStatus} :
      (∀ address, table.listeners address = none) →
      Returns (table.installListener outside localName smartsocket none false) (status, after) →
      CallStep table (.installSmartsocket localName) after
  | installListener {table after : Table} {localName connectTo : List UInt8} {transport : Nat}
      {noRebind : Bool} {outside : Outside} {status : InstallStatus} :
      table.transports transport = true → table.listeners outside.address = none →
      Returns (table.installListener outside localName connectTo (some transport) noRebind)
        (status, after) →
      CallStep table (.installListener localName connectTo transport noRebind) after
  | removeListener {table after : Table} {localName : List UInt8} {status : Int} :
      Returns (table.removeListener localName) (status, after) →
      CallStep table (.removeListener localName) after
  | removeAllListeners {table after : Table} :
      Returns table.removeAllListeners after → CallStep table .removeAllListeners after
  | runTransportDisconnects {table after : Table} {transport : Nat} :
      table.transports transport = true →
      Returns (table.runTransportDisconnects transport) after →
      CallStep table (.runTransportDisconnects transport) after
  | registerTransport {table : Table} {transport : Nat} :
      table.transports transport = false →
      CallStep table (.registerTransport transport) (table.registerTransport transport)
  | removeTransport {table after : Table} {transport : Nat} :
      table.transports transport = true →
      Returns (table.removeTransport transport) after →
      CallStep table (.removeTransport transport) after
  | createRemoteSocket {table after : Table} {transport address : Nat} :
      table.transports transport = true → table.remotes address = none →
      table.createRemoteSocket transport address = .ok after →
      CallStep table (.createRemoteSocket transport address) after
  | remoteSocketClose {table after : Table} {address : Nat} :
      (table.remotes address).isSome →
      table.remoteSocketDisconnect address = .ok after →
      CallStep table (.remoteSocketClose address) after

end Listeners
end AdbWide
