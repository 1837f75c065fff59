import AdbWide.Wire.Pump

/-!
# The handler of both programs

`handle_packet` is compiled into the server on the host and into the daemon on the device.  The
host answers requests for authentication by its private keys, the device makes them, checks the
signatures and asks the framework about keys it does not know.  This file embeds the handler with
everything of a packet it looks at: the header, the array behind it, and, where the array is taken
for a C string, whatever lies behind that in memory.

The stubs `adb_auth.h` has for the functions of the other program are the branches of the functions
here.  What the system and the libraries answer is a `Surroundings`.
-/

namespace AdbWide
namespace Handler

open Sockets (Server Message Outside ConnectionState TransportState maxPayload)
open Sockets.Server (ascii cString authToken aVersion)
open Wire (Apacket sizeofAmessage checkHeader checkData)

/-- Which program it is, and for the device `auth_enabled`. -/
inductive Build where
  | host
  | device (authEnabled : Bool)
  deriving DecidableEq, Repr

/-- `TOKEN_SIZE`. -/
def tokenSize : Nat := 20

/-- `RSANUMBYTES`. -/
def rsaNumBytes : Nat := 256

/-- `ADB_AUTH_SIGNATURE`. -/
def authSignature : Nat := 2

/-- `ADB_AUTH_RSAPUBLICKEY`. -/
def authRsaPublicKey : Nat := 3

/-- What `/dev/urandom` gives. -/
inductive Random where
  /-- `fopen` fails. -/
  | unopened
  /-- What there is for `fread`. -/
  | read (bytes : List UInt8)
  deriving DecidableEq, Repr

/-- The part of an `atransport` that is about the other side. -/
structure Identity where
  product : Option (List UInt8) := none
  model : Option (List UInt8) := none
  device : Option (List UInt8) := none
  /-- The private key that was tried last. -/
  key : Option Nat := none
  token : List UInt8 := List.replicate tokenSize 0
  failedAuthAttempts : Nat := 0
  /-- The file descriptor of `auth_fde` while it is active. -/
  authFde : Option Nat := none

/-- The state of a program, with a record of what it asked for. -/
structure Node where
  server : Server
  identities : Nat → Identity
  usbTransport : Option Nat
  /-- `framework_fd`, if it is not negative. -/
  frameworkFd : Option Nat
  needsRetry : Bool
  /-- The transports whose `auth_fde` is in `fd_table`. -/
  fdTable : Nat → Option Nat
  /-- `FATAL` was called. -/
  halted : Bool
  /-- The names given to `create_local_service_socket`. -/
  services : List (List UInt8)
  /-- What was written to the framework, with the transport that sent the key. -/
  told : List (Nat × List UInt8)

/-- What the system and the libraries answer during one step. -/
structure Surroundings where
  outside : Outside := {}
  /-- `create_local_service_socket` does not return zero. -/
  findsService : List UInt8 → Bool := fun _ => true
  property : String → List UInt8 := fun _ => []
  /-- `adb_device_banner`. -/
  deviceBanner : List UInt8 := ascii "device"
  /-- `key_list` of the host. -/
  keyList : List Nat := []
  /-- `RSA_sign`; nothing if it fails. -/
  rsaSign : Nat → List UInt8 → List UInt8 := fun _ _ => []
  /-- What is in the file with the public key of the user. -/
  userKeyFile : Option (List UInt8) := none
  random : Random := .unopened
  /-- What `load_keys` finds on the device. -/
  publicKeys : List (List UInt8) := []
  /-- `RSA_verify` of a key, a signature and a token. -/
  rsaVerify : List UInt8 → List UInt8 → List UInt8 → Bool := fun _ _ _ => false
  /-- `unix_write` to the framework does not fail. -/
  frameworkTakes : Bool := true

/-! ## The packet in memory -/

/-- The bytes from `p->data` on. -/
def memory (p : Apacket) (behind : List UInt8) : List UInt8 := p.data ++ behind

/-- `key[len - 1]`.  The byte in front of the array is the last one of the header. -/
def lastByte (p : Apacket) (behind : List UInt8) : UInt8 :=
  (p.msg.bytes ++ memory p behind).getD (sizeofAmessage + p.msg.dataLength.toNat - 1) 0

/-- The name of the service in an `A_OPEN` packet, after its last byte was set to zero. -/
def serviceName (p : Apacket) (behind : List UInt8) : List UInt8 :=
  let last := if 0 < p.msg.dataLength.toNat then p.msg.dataLength.toNat - 1 else 0
  cString ((memory p behind).set last 0)

/-! ## Keys and tokens -/

/-- `adb_auth_nextkey`. -/
def adbAuthNextkey (world : Surroundings) (current : Option Nat) : Build → Option Nat
  | .host =>
      match current with
      | none => world.keyList.head?
      | some key => (world.keyList.dropWhile (· ≠ key)).tail.head?
  | .device _ => none

/-- `adb_auth_sign`: the signature, or nothing. -/
def adbAuthSign (world : Surroundings) (key : Nat) (token : List UInt8) : Build → List UInt8
  | .host => world.rsaSign key token
  | .device _ => []

/-- `adb_auth_get_userkey`: what it writes, or nothing. -/
def adbAuthGetUserkey (world : Surroundings) : Build → List UInt8
  | .host =>
      match world.userKeyFile with
      | none => []
      | some file => if maxPayload < file.length + 1 then [] else file ++ [0]
  | .device _ => []

/-- `adb_auth_generate_token`: the new content of the token, and what it returns. -/
def adbAuthGenerateToken (random : Random) (token : List UInt8) : Build → List UInt8 × Nat
  | .host => (token, 0)
  | .device _ =>
      match random with
      | .unopened => (token, 0)
      | .read bytes =>
          let got := bytes.take tokenSize
          ((got ++ token.drop got.length).take tokenSize,
            if got.length = tokenSize then tokenSize else 0)

/-- `adb_auth_verify`. -/
def adbAuthVerify (world : Surroundings) (token sig : List UInt8) : Build → Bool
  | .host => false
  | .device _ =>
      sig.length = rsaNumBytes ∧ world.publicKeys.any fun key => world.rsaVerify key sig token

/-- `fill_connect_data`. -/
def fillConnectData (world : Surroundings) : Build → List UInt8
  | .host => ascii "host::" ++ [0]
  | .device _ =>
      let entry (name : String) := ascii name ++ ascii "=" ++ world.property name ++ ascii ";"
      world.deviceBanner ++ ascii "::" ++ entry "ro.product.name" ++ entry "ro.product.model" ++
        entry "ro.product.device" ++ [0]

/-! ## The banner -/

/-- What is behind the first colon. -/
def afterColon (text : List UInt8) : Option (List UInt8) :=
  (Sockets.Server.fromColon text).map List.tail

/-- The tokens `adb_strtok_r` finds between semicolons one after the other; `token` is what has been
seen of the first. -/
def strtokLoop : List UInt8 → List UInt8 → List (List UInt8)
  | token, [] => if token = [] then [] else [token]
  | token, c :: text =>
      if c = 59 then
        if token = [] then strtokLoop [] text else token :: strtokLoop [] text
      else strtokLoop (token ++ [c]) text

/-- `qual_overwrite`. -/
def qualOverwrite (src : List UInt8) : Option (List UInt8) := if src = [] then none else some src

/-- A property of the banner. -/
def Identity.setProperty (identity : Identity) (token : List UInt8) : Identity :=
  match token.dropWhile (· ≠ 61) with
  | [] => identity
  | _ :: value =>
      let key := token.takeWhile (· ≠ 61)
      if key = ascii "ro.product.name" then { identity with product := qualOverwrite value }
      else if key = ascii "ro.product.model" then { identity with model := qualOverwrite value }
      else if key = ascii "ro.product.device" then { identity with device := qualOverwrite value }
      else identity

/-- The part of `parse_banner` that sets the qualifiers. -/
def Identity.parseBanner (identity : Identity) (banner : List UInt8) : Identity :=
  match (afterColon (cString banner)).bind afterColon with
  | none => identity
  | some properties => (strtokLoop [] properties).foldl Identity.setProperty identity

/-- The state `parse_banner` sets. -/
def bannerState (banner : List UInt8) : ConnectionState :=
  let type := (cString banner).takeWhile (· ≠ 58)
  if type = ascii "bootloader" then .bootloader
  else if type = ascii "device" then .device
  else if type = ascii "recovery" then .recovery
  else if type = ascii "sideload" then .sideload
  else .host

namespace Node

/-! ## Small steps on the state -/

/-- Change what is known about the other side of a transport. -/
def modifyIdentity (node : Node) (t : Nat) (change : Identity → Identity) : Node :=
  { node with
    identities := Function.update node.identities t (change (node.identities t)) }

/-- Change the state of a transport. -/
def modifyTransport (node : Node) (t : Nat) (change : TransportState → TransportState) : Node :=
  { node with server := node.server.modifyTransport t change }

/-- `send_packet`. -/
def sendPacket (node : Node) (t : Nat) (message : Message) : Node :=
  { node with server := node.server.sendPacket t message }

/-- Send a packet, if there is something to put into it. -/
def sendFilled (node : Node) (t : Nat) (type : Nat) (data : List UInt8) : Node :=
  if data = [] then node else node.sendPacket t ⟨.auth, type, 0, data⟩

/-- `send_connect`. -/
def sendConnect (build : Build) (world : Surroundings) (node : Node) (t : Nat) : Node :=
  node.sendPacket t ⟨.cnxn, aVersion, maxPayload, fillConnectData world build⟩

/-- `send_auth_request`. -/
def sendAuthRequest (build : Build) (random : Random) (node : Node) (t : Nat) : Node :=
  let (token, ret) := adbAuthGenerateToken random (node.identities t).token build
  let node := node.modifyIdentity t fun identity => { identity with token }
  if ret = tokenSize then node.sendPacket t ⟨.auth, authToken, 0, token⟩ else node

/-- `handle_online`. -/
def handleOnline (node : Node) (t : Nat) : Node :=
  node.modifyTransport t fun state => { state with online := true }

/-- `adb_auth_verified`. -/
def adbAuthVerified (build : Build) (world : Surroundings) (node : Node) (t : Nat) : Node :=
  (node.handleOnline t).sendConnect build world t

/-- `usb_disconnected`, if it is among the disconnects of the transport: it is added when
`usb_transport` is set. -/
def usbDisconnected (node : Node) (t : Nat) : Node :=
  if node.usbTransport = some t then { node with usbTransport := none, needsRetry := false }
  else node

/-- `run_transport_disconnects`. -/
def runTransportDisconnects (node : Node) (t : Nat) : Node :=
  { node with server := node.server.runTransportDisconnects t }.usbDisconnected t

/-- `handle_offline`. -/
def handleOffline (node : Node) (t : Nat) : Node :=
  (node.modifyTransport t fun state => { state with online := false }).runTransportDisconnects t

/-- `parse_banner`; `update_transports` does nothing on the device. -/
def parseBanner (build : Build) (world : Surroundings) (node : Node) (t : Nat)
    (banner : List UInt8) : Node :=
  let node := node.modifyIdentity t fun identity => identity.parseBanner banner
  match build with
  | .host =>
      { node with server := node.server.parseBanner t banner world.outside.deviceList }
  | .device _ =>
      node.modifyTransport t fun state => { state with connectionState := bannerState banner }

/-! ## The framework of the device -/

/-- `fdevent_install` of `auth_fde`. -/
def installAuthFde (node : Node) (t fd : Nat) : Node :=
  { node.modifyIdentity t fun identity => { identity with authFde := some fd } with
    fdTable := Function.update node.fdTable fd (some t) }

/-- `fdevent_remove` of `auth_fde`. -/
def removeAuthFde (node : Node) (t : Nat) : Node :=
  match (node.identities t).authFde with
  | none => node
  | some fd =>
      if node.fdTable fd = some t then
        { node.modifyIdentity t fun identity => { identity with authFde := none } with
          fdTable := Function.update node.fdTable fd none }
      else { node with halted := true }

/-- `adb_auth_confirm_key` of the device. -/
def confirmKey (world : Surroundings) (node : Node) (t : Nat) (p : Apacket)
    (behind : List UInt8) : Node :=
  let node :=
    if node.usbTransport = none then { node with usbTransport := some t } else node
  match node.frameworkFd with
  | none => { node with needsRetry := true }
  | some fd =>
      if lastByte p behind ≠ 0 then node
      else
        let msg := ascii "PK" ++ cString (memory p behind)
        if maxPayload ≤ msg.length then node
        else if world.frameworkTakes then
          { node with told := node.told ++ [(t, msg)] }.installAuthFde t fd
        else node

/-- `adb_auth_confirm_key`. -/
def adbAuthConfirmKey (build : Build) (world : Surroundings) (node : Node) (t : Nat) (p : Apacket)
    (behind : List UInt8) : Node :=
  match build with
  | .host => node
  | .device _ => node.confirmKey world t p behind

/-- `adb_auth_event` for `FDE_READ`; what is read is nothing if `unix_read` fails. -/
def adbAuthEvent (build : Build) (world : Surroundings) (node : Node)
    (response : Option (List UInt8)) : Node :=
  match response with
  | none =>
      let node :=
        match node.usbTransport with
        | none => node
        | some usb => node.removeAuthFde usb
      { node with frameworkFd := none }
  | some response =>
      if response = ascii "OK" then
        match node.usbTransport with
        | none => node
        | some usb => node.adbAuthVerified build world usb
      else node

/-- `adb_auth_listener`, when a framework was accepted at a file descriptor. -/
def adbAuthListener (build : Build) (world : Surroundings) (node : Node) (fd : Nat) : Node :=
  let node := { node with frameworkFd := some fd }
  if node.needsRetry then
    let node := { node with needsRetry := false }
    match node.usbTransport with
    | none => node
    | some usb => node.sendAuthRequest build world.random usb
  else node

/-! ## The packets -/

/-- `A_SYNC` in `handle_packet`. -/
def handleSync (build : Build) (world : Surroundings) (node : Node) (t : Nat)
    (message : Message) : Node :=
  if message.arg0 ≠ 0 then
    let node := node.sendPacket t message
    match build with
    | .host => node.sendConnect build world t
    | .device _ => node
  else
    let node := node.modifyTransport t fun state => { state with connectionState := .offline }
    (node.handleOffline t).sendPacket t message

/-- `A_CNXN` in `handle_packet`. -/
def handleConnect (build : Build) (world : Surroundings) (node : Node) (t : Nat)
    (banner : List UInt8) : Node :=
  let node :=
    if (node.server.transports t).connectionState = .offline then node
    else
      (node.modifyTransport t
        fun state => { state with connectionState := .offline }).handleOffline t
  let node := node.parseBanner build world t banner
  match build with
  | .host => node.handleOnline t
  | .device false => (node.handleOnline t).sendConnect build world t
  | .device true => node.sendAuthRequest build world.random t

/-- `A_AUTH` in `handle_packet`. -/
def handleAuth (build : Build) (world : Surroundings) (node : Node) (t : Nat) (p : Apacket)
    (behind : List UInt8) : Node :=
  if p.msg.arg0.toNat = authToken then
    let node := node.modifyTransport t fun state => { state with connectionState := .unauthorized }
    let key := adbAuthNextkey world (node.identities t).key build
    let node := node.modifyIdentity t fun identity => { identity with key }
    match key with
    | some key => node.sendFilled t authSignature (adbAuthSign world key p.payload build)
    | none => node.sendFilled t authRsaPublicKey (adbAuthGetUserkey world build)
  else if p.msg.arg0.toNat = authSignature then
    if adbAuthVerify world (node.identities t).token p.payload build then
      (node.adbAuthVerified build world t).modifyIdentity t
        fun identity => { identity with failedAuthAttempts := 0 }
    else
      let node := node.modifyIdentity t fun identity =>
        { identity with failedAuthAttempts := (identity.failedAuthAttempts + 1) % 2 ^ 32 }
      node.sendAuthRequest build world.random t
  else if p.msg.arg0.toNat = authRsaPublicKey then node.adbAuthConfirmKey build world t p behind
  else node

/-- `A_OPEN` in `handle_packet`. -/
def handleOpen (world : Surroundings) (node : Node) (t : Nat) (p : Apacket)
    (behind : List UInt8) : Node :=
  if (node.server.transports t).online ∧ p.msg.arg0.toNat ≠ 0 ∧ p.msg.arg1.toNat = 0 then
    let name := serviceName p behind
    { node with
      services := node.services ++ [name]
      server := node.server.handleOpen t p.frame.message
        { world.outside with serviceFound := world.findsService name } }
  else node

/-- Note a packet, and what `adb_write` will return while it is handled. -/
def noted (node : Node) (world : Surroundings) (t : Nat) (message : Message) : Node :=
  { node with
    server := { node.server with
      received := node.server.received ++ [(t, message)]
      writes := world.outside.writes } }

/-- `handle_packet`. -/
def handlePacket (build : Build) (world : Surroundings) (node : Node) (t : Nat) (p : Apacket)
    (behind : List UInt8) : Node :=
  let message := p.frame.message
  let node := node.noted world t message
  match message.command with
  | .sync => node.handleSync build world t message
  | .cnxn => node.handleConnect build world t (memory p behind)
  | .auth => node.handleAuth build world t p behind
  | .open => node.handleOpen world t p behind
  | .okay => { node with server := node.server.handleOkay t message world.outside }
  | .clse => { node with server := node.server.handleClose t message }
  | .wrte => { node with server := node.server.handleWrite t message world.outside }
  | .other _ => node

/-- A program that has just started. -/
def start : Node where
  server := .start
  identities := fun _ => {}
  usbTransport := none
  frameworkFd := none
  needsRetry := false
  fdTable := fun _ => none
  halted := false
  services := []
  told := []

end Node

/-- What happens to the program from outside. -/
inductive Step where
  /-- `transport_socket_events`, with what lies behind the packet. -/
  | packet (t : Nat) (p : Apacket) (behind : List UInt8)
  /-- The other steps of the socket layer. -/
  | sockets (step : Sockets.Step)
  /-- `run_transport_disconnects` when a transport is removed. -/
  | disconnect (t : Nat)
  /-- `adb_auth_listener` accepts a framework at a file descriptor. -/
  | framework (fd : Nat)
  /-- `adb_auth_event` for a file descriptor, with what `unix_read` reads if it does not fail. -/
  | reply (fd : Nat) (response : Option (List UInt8))

/-- The step is not one that has a constructor of its own in `Step`. -/
def OnlySockets : Sockets.Step → Prop
  | .packet _ _ | .disconnect _ => False
  | _ => True

/-- Packets have passed `check_header` and `check_data`; the framework is there on the device only,
and its replies are seen where an `auth_fde` is installed. -/
def Step.Allowed (build : Build) (node : Node) : Step → Prop
  | .packet _ p _ => checkHeader p ∧ checkData p
  | .sockets step => OnlySockets step ∧ step.Allowed node.server
  | .disconnect _ => True
  | .framework _ => build ≠ .host
  | .reply fd response =>
      build ≠ .host ∧ node.fdTable fd ≠ none ∧ ∀ bytes, response = some bytes → bytes.length ≤ 2

/-- What the program does. -/
def Step.apply (build : Build) (world : Surroundings) (node : Node) : Step → Node
  | .packet t p behind => node.handlePacket build world t p behind
  | .sockets step => { node with server := step.apply world.outside node.server }
  | .disconnect t => node.runTransportDisconnects t
  | .framework fd => node.adbAuthListener build world fd
  | .reply _ response => node.adbAuthEvent build world response

/-- One step of the program, as long as it runs. -/
def NodeStep (build : Build) (before : Node) (label : Step × Surroundings) (after : Node) : Prop :=
  before.halted = false ∧ label.1.Allowed build before ∧
    after = label.1.apply build label.2 before

end Handler
end AdbWide
