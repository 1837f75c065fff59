import AdbWide.Handler.Handshake

/-!
# How a connection is made

The server says hello, the device asks for a signature, and the server tries its private keys one
after the other.  With the first key the device knows both come online; when all of them have been
refused, the device asks the framework about the public key.  Whatever order the packets are
delivered in, the connection is made or refused after two packets for each key and three more.
-/

namespace AdbWide
namespace Handler

open Sockets (Server Message ConnectionState TransportState maxPayload)
open Sockets.Server (ascii cString authToken aVersion)
open Wire (Apacket checkHeader checkData commandOf sizeofAmessage)

namespace Setting

variable {setting : Setting} {world : Surroundings}

/-- The device accepts a signature of a token. -/
def verifies (setting : Setting) (token sig : List UInt8) : Bool :=
  sig.length = rsaNumBytes ∧ setting.publicKeys.any fun key => setting.rsaVerify key sig token

/-- The device knows the public key of a private key. -/
def Known (setting : Setting) (key : Nat) : Prop :=
  ∀ token, token.length = tokenSize → setting.verifies token (setting.rsaSign key token) = true

/-- The keys are distinct, they can sign, each of them is known to the device or is not, and there
is a public key to show to the user. -/
structure Sound (setting : Setting) (file : List UInt8) : Prop where
  nodup : setting.keyList.Nodup
  signs : ∀ key ∈ setting.keyList, ∀ token, setting.rsaSign key token ≠ []
  fits : ∀ key ∈ setting.keyList, ∀ token, (setting.rsaSign key token).length ≤ maxPayload
  steady : ∀ key ∈ setting.keyList, ∀ token, token.length = tokenSize →
    setting.verifies token (setting.rsaSign key token) = true → setting.Known key
  userKeyFile : setting.userKeyFile = some file
  short : file.length + 2 < maxPayload
  plain : 0 ∉ file

theorem Device.verify_eq (device : setting.Device world) (token sig : List UInt8) :
    adbAuthVerify world token sig (.device true) = setting.verifies token sig := by
  rw [adbAuthVerify, verifies, device.publicKeys, device.rsaVerify]

theorem Host.userkey (host : setting.Host world) {file : List UInt8} (sound : setting.Sound file) :
    adbAuthGetUserkey world .host = file ++ [0] := by
  have short := sound.short
  rw [adbAuthGetUserkey, host.userKeyFile, sound.userKeyFile]
  dsimp only
  rw [if_neg (by omega)]

end Setting

/-! ## What one packet does -/

/-- `A_CNXN` of the host. -/
def hostHello : Message := ⟨.cnxn, aVersion, maxPayload, ascii "host::" ++ [0]⟩

/-- A request for a signature of a token. -/
def tokenRequest (token : List UInt8) : Message := ⟨.auth, authToken, 0, token⟩

/-- A signature. -/
def signatureReply (sig : List UInt8) : Message := ⟨.auth, authSignature, 0, sig⟩

/-- A public key. -/
def keyReply (key : List UInt8) : Message := ⟨.auth, authRsaPublicKey, 0, key⟩

section Packets

variable {node : Node} {world : Surroundings} {t : Nat} {p : Apacket} {behind : List UInt8}

theorem crossing_of_sent {before after : Node} {message : Message}
    (sent : after.server.sent = before.server.sent ++ [(t, message)])
    (command : message.command ≠ .sync) : crossing t before after = [message] := by
  rw [crossing, sent, List.drop_left]
  simp [command]

theorem crossing_of_same {before after : Node} (same : after.server.sent = before.server.sent) :
    crossing t before after = [] := by
  simp [crossing, same]

/-- What a program keeps while it answers. -/
structure Keeps (before after : Node) : Prop where
  halted : after.halted = before.halted
  usb : after.usbTransport = before.usbTransport
  framework : after.frameworkFd = before.frameworkFd
  told : after.told = before.told

theorem command_of_frame {message : Message} (frame : p.frame.message = message) :
    commandOf p.msg.command = message.command := congrArg Message.command frame

/-- The device answers a hello by a token. -/
theorem device_hello {token : List UInt8} (frame : p.frame.message = hostHello)
    (fresh : (node.server.transports t).connectionState = .offline)
    (made : world.random.token = some token) :
    let after := node.handlePacket (.device true) world t p behind
    after.server.sent = node.server.sent ++ [(t, tokenRequest token)] ∧
      (after.identities t).token = token ∧
        (after.server.transports t).online = (node.server.transports t).online ∧
          Keeps node after := by
  have cnxn := command_of_frame frame
  have offline : ((node.noted world t p.frame.message).server.transports t).connectionState =
      .offline := fresh
  dsimp only
  rw [handlePacket_of_cnxn cnxn]
  simp only [Node.handleConnect, offline, if_true, sendAuthRequest_of_made made]
  refine ⟨rfl, ?_, ?_, rfl, rfl, rfl, rfl⟩
  · simp [Node.sendPacket, Node.modifyIdentity]
  · simp [Node.sendPacket, Server.sendPacket, Node.modifyIdentity, Node.parseBanner,
      Node.modifyTransport, Server.modifyTransport, Node.noted]

/-- Filling a packet does not change a transport. -/
theorem transports_sendFilled (type : Nat) (data : List UInt8) :
    (node.sendFilled t type data).server.transports = node.server.transports ∧
      (node.sendFilled t type data).server.deviceTrackerList = node.server.deviceTrackerList ∧
        (node.sendFilled t type data).halted = node.halted := by
  unfold Node.sendFilled
  split <;> exact ⟨rfl, rfl, rfl⟩

/-- While the host answers a token, its transport stays as online as it is. -/
theorem host_token_frame (auth : commandOf p.msg.command = .auth)
    (type : p.msg.arg0.toNat = authToken) :
    let after := node.handlePacket .host world t p behind
    (after.server.transports t).online = (node.server.transports t).online ∧
      (after.server.transports t).disconnects = (node.server.transports t).disconnects ∧
        after.server.deviceTrackerList = node.server.deviceTrackerList ∧
          after.halted = node.halted := by
  have marked : ∀ change : Identity → Identity,
      ((((node.noted world t p.frame.message).modifyTransport t
        fun state => { state with connectionState := .unauthorized }).modifyIdentity t
          change).server.transports t) =
        { node.server.transports t with connectionState := .unauthorized } := by
    intro change
    simp [Node.modifyIdentity, Node.modifyTransport, Server.modifyTransport, Node.noted]
  dsimp only
  rw [handlePacket_of_auth auth, Node.handleAuth, if_pos type]
  dsimp only
  split
  · obtain ⟨transports, trackers, halted⟩ := transports_sendFilled _ _
    rw [transports, trackers, halted, marked]
    exact ⟨rfl, rfl, rfl, rfl⟩
  · obtain ⟨transports, trackers, halted⟩ := transports_sendFilled _ _
    rw [transports, trackers, halted, marked]
    exact ⟨rfl, rfl, rfl, rfl⟩

/-- The host answers a token by a signature with the next key. -/
theorem host_signs {token : List UInt8} {number : Nat}
    (frame : p.frame.message = tokenRequest token)
    (next : adbAuthNextkey world (node.identities t).key .host = some number)
    (signed : world.rsaSign number token ≠ []) :
    let after := node.handlePacket .host world t p behind
    after.server.sent = node.server.sent ++ [(t, signatureReply (world.rsaSign number token))] ∧
      (after.identities t).key = some number := by
  have auth := command_of_frame frame
  have type : p.msg.arg0.toNat = authToken := congrArg Message.arg0 frame
  have payload : p.payload = token := congrArg Message.payload frame
  have isAuth : (Step.packet t p behind).isAuth t authToken = true :=
    isAuth_packet.mpr ⟨rfl, auth, type⟩
  have answered := (@answered_handlePacket node t world p behind isAuth).1 number next
  rw [Answered, payload, if_neg signed] at answered
  exact ⟨answered, by rw [key_handlePacket, if_pos isAuth, next]⟩

/-- The host answers a token by the public key when it has no more keys. -/
theorem host_offers {token : List UInt8} (frame : p.frame.message = tokenRequest token)
    (next : adbAuthNextkey world (node.identities t).key .host = none)
    (given : adbAuthGetUserkey world .host ≠ []) :
    (node.handlePacket .host world t p behind).server.sent =
      node.server.sent ++ [(t, keyReply (adbAuthGetUserkey world .host))] := by
  have auth := command_of_frame frame
  have type : p.msg.arg0.toNat = authToken := congrArg Message.arg0 frame
  have isAuth : (Step.packet t p behind).isAuth t authToken = true :=
    isAuth_packet.mpr ⟨rfl, auth, type⟩
  have answered := (@answered_handlePacket node t world p behind isAuth).2 next
  rw [Answered, if_neg given] at answered
  exact answered

/-- The device answers a signature it does not accept by a new token. -/
theorem device_refuses {token sig : List UInt8} (frame : p.frame.message = signatureReply sig)
    (refused : adbAuthVerify world (node.identities t).token sig (.device true) = false)
    (made : world.random.token = some token) :
    let after := node.handlePacket (.device true) world t p behind
    after.server.sent = node.server.sent ++ [(t, tokenRequest token)] ∧
      (after.identities t).token = token ∧
        (after.server.transports t).online = (node.server.transports t).online ∧
          Keeps node after := by
  have auth := command_of_frame frame
  have type : p.msg.arg0.toNat = authSignature := congrArg Message.arg0 frame
  have payload : p.payload = sig := congrArg Message.payload frame
  have not_token : p.msg.arg0.toNat ≠ authToken := by rw [type]; decide
  have refused' : ¬adbAuthVerify world
      ((node.noted world t p.frame.message).identities t).token p.payload (.device true) =
        true := by
    rw [payload]
    exact Bool.eq_false_iff.mp refused
  dsimp only
  rw [handlePacket_of_auth auth, Node.handleAuth, if_neg not_token, if_pos type,
    if_neg refused', sendAuthRequest_of_made made]
  refine ⟨rfl, ?_, rfl, rfl, rfl, rfl, rfl⟩
  simp [Node.sendPacket, Node.modifyIdentity]

/-- The device answers a signature it accepts by its hello, and the transport is online. -/
theorem device_accepts {sig : List UInt8} (frame : p.frame.message = signatureReply sig)
    (accepted : adbAuthVerify world (node.identities t).token sig (.device true) = true) :
    let after := node.handlePacket (.device true) world t p behind
    after.server.sent = node.server.sent ++ [helloOf world t] ∧
      (after.server.transports t).online = true ∧ Keeps node after := by
  have auth := command_of_frame frame
  have type : p.msg.arg0.toNat = authSignature := congrArg Message.arg0 frame
  have payload : p.payload = sig := congrArg Message.payload frame
  have not_token : p.msg.arg0.toNat ≠ authToken := by rw [type]; decide
  have accepted' : adbAuthVerify world
      ((node.noted world t p.frame.message).identities t).token p.payload (.device true) =
        true := by
    rw [payload]
    exact accepted
  dsimp only
  rw [handlePacket_of_auth auth, Node.handleAuth, if_neg not_token, if_pos type, if_pos accepted']
  refine ⟨rfl, ?_, rfl, rfl, rfl, rfl⟩
  simp [Node.modifyIdentity, Node.adbAuthVerified, Node.sendConnect, Node.sendPacket,
    Server.sendPacket, Node.handleOnline, Node.modifyTransport, Server.modifyTransport]

/-- The device asks the framework about a public key, now or when there is one. -/
theorem device_key {file : List UInt8} (frame : p.frame.message = keyReply (file ++ [0]))
    (header : checkHeader p) (plain : 0 ∉ file) (short : file.length + 2 < maxPayload)
    (takes : world.frameworkTakes = true) (free : node.usbTransport = none) :
    let after := node.handlePacket (.device true) world t p behind
    after.server.sent = node.server.sent ∧
      (after.server.transports t).online = (node.server.transports t).online ∧
        after.usbTransport = some t ∧ after.halted = node.halted ∧
          (node.frameworkFd = none → after.needsRetry = true) ∧
            ∀ fd, node.frameworkFd = some fd →
              after.told = node.told ++ [(t, ascii "PK" ++ file)] := by
  have auth := command_of_frame frame
  have type : p.msg.arg0.toNat = authRsaPublicKey := congrArg Message.arg0 frame
  have payload : p.payload = file ++ [0] := congrArg Message.payload frame
  have not_token : p.msg.arg0.toNat ≠ authToken := by rw [type]; decide
  have not_signature : p.msg.arg0.toNat ≠ authSignature := by rw [type]; decide
  have text : cString (memory p behind) = file := by
    rw [cString_memory (by simp [payload]), payload, cString_stops plain]
  have last : lastByte p behind = 0 := by
    have front : p.msg.bytes.length = sizeofAmessage := by
      simp [Wire.Amessage.bytes, sizeofAmessage]
    rw [lastByte_eq header, payload, ← List.append_assoc, List.length_append,
      List.length_singleton, List.getD_eq_getElem?_getD, List.getElem?_append_right]
    · simp [front]
    · simp [front]
  have length : ¬maxPayload ≤ (ascii "PK" ++ file).length := by
    have two : (ascii "PK").length = 2 := by with_unfolding_all decide
    rw [List.length_append, two]
    omega
  dsimp only
  rw [handlePacket_of_auth auth, Node.handleAuth, if_neg not_token, if_neg not_signature,
    if_pos type, Node.adbAuthConfirmKey]
  obtain ⟨server, -, usb⟩ := confirmKey_spec world (node.noted world t p.frame.message) t p behind
  have free' : (node.noted world t p.frame.message).usbTransport = none := free
  refine ⟨by rw [server]; rfl, by rw [server]; rfl, ?_⟩
  rw [usb, free']
  refine ⟨rfl, ?_⟩
  simp only [Node.confirmKey, free', if_true]
  cases framework : node.frameworkFd with
  | none =>
      have none' : (node.noted world t p.frame.message).frameworkFd = none := framework
      rw [none']
      exact ⟨rfl, fun _ => rfl, fun _ impossible => by cases impossible⟩
  | some fd =>
      have some' : (node.noted world t p.frame.message).frameworkFd = some fd := framework
      simp only [some', last, text, if_neg length, takes, if_true, ne_eq, not_true_eq_false,
        if_false]
      refine ⟨rfl, ?_, fun _ _ => rfl⟩
      intro impossible
      cases impossible

/-- With no sockets on the transport and no device trackers, `A_CNXN` makes the server send
nothing. -/
theorem sent_handleConnect {server : Server} (message : Message) (deviceList : List UInt8)
    (disconnects : (server.transports t).disconnects = [])
    (trackers : server.deviceTrackerList = []) :
    (server.handleConnect t message deviceList).sent = server.sent := by
  have closed : ∀ server : Server, (server.transports t).disconnects = [] →
      server.handleOffline t =
        server.modifyTransport t fun state => { state with online := false } := by
    intro server none
    have none' : ((server.modifyTransport t
        fun state => { state with online := false }).transports t).disconnects = [] := by
      simpa [Server.modifyTransport] using none
    rw [Server.handleOffline, Server.runTransportDisconnects, none']
    rfl
  have parsed : ∀ server : Server, server.deviceTrackerList = [] →
      (server.parseBanner t message.payload deviceList).sent = server.sent := by
    intro server none
    rcases server.parseBanner_cases t message.payload deviceList with same | ⟨state, -, same⟩
    · rw [same]
      rfl
    · have none' : (server.modifyTransport t
          fun t => { t with connectionState := state }).deviceTrackerList = [] := none
      rw [same, Server.updateTransports, none']
      rfl
  unfold Server.handleConnect
  dsimp only
  split
  · exact parsed server trackers
  · have reset := closed (server.modifyTransport t
      fun state => { state with connectionState := .offline })
      (by simpa [Server.modifyTransport] using disconnects)
    rw [reset]
    exact parsed _ trackers

theorem halted_handleConnect (banner : List UInt8) :
    (node.handleConnect .host world t banner).halted = node.halted := by
  have offline : ∀ node : Node, (node.handleOffline t).halted = node.halted := by
    intro node
    unfold Node.handleOffline Node.runTransportDisconnects Node.usbDisconnected
    split <;> rfl
  unfold Node.handleConnect
  dsimp only
  split
  · rfl
  · exact offline _

/-- The host answers the hello of the device by nothing, and shows it online. -/
theorem host_hello (cnxn : commandOf p.msg.command = .cnxn)
    (disconnects : (node.server.transports t).disconnects = [])
    (trackers : node.server.deviceTrackerList = []) :
    let after := node.handlePacket .host world t p behind
    after.server.sent = node.server.sent ∧
      (after.identities t).key = (node.identities t).key ∧
        (after.server.transports t).online = true ∧ after.halted = node.halted := by
  dsimp only
  refine ⟨?_, ?_, ?_, ?_⟩
  · have handled := @server_handleConnect world (node.noted world t p.frame.message) t
      (memory p behind) ⟨.cnxn, 0, 0, memory p behind⟩ rfl
    rw [handlePacket_of_cnxn cnxn, handled]
    exact sent_handleConnect _ _ disconnects trackers
  · rw [key_handlePacket, if_neg (by simp [isAuth_packet, cnxn])]
  · obtain ⟨state, statuses⟩ := @statuses_handlePacket_of_cnxn node world t p behind cnxn
    have own := congrArg Prod.fst (congrFun statuses t)
    rw [Function.update_self] at own
    exact own
  · rw [handlePacket_of_cnxn cnxn]
    exact halted_handleConnect _

end Packets

/-! ## The stages -/

section Stages

variable {setting : Setting} {t u : Nat} {framework : Option Nat}
  {told : List (Nat × List UInt8)} {file : List UInt8}

/-- What holds in every stage. -/
structure Standing (t : Nat) (framework : Option Nat) (told : List (Nat × List UInt8))
    (state : Connected) : Prop where
  host_runs : state.host.halted = false
  device_runs : state.device.halted = false
  disconnects : (state.host.server.transports t).disconnects = []
  trackers : state.host.server.deviceTrackerList = []
  framework_eq : state.device.frameworkFd = framework
  told_eq : state.device.told = told

/-- Neither side is online, and no key is to be confirmed. -/
structure Apart (t u : Nat) (state : Connected) : Prop where
  host : (state.host.server.transports t).online = false
  device : (state.device.server.transports u).online = false
  usb : state.device.usbTransport = none

/-- So many of the keys have been refused. -/
def Refused (setting : Setting) (tried : Nat) : Prop :=
  ∀ key ∈ setting.keyList.take tried, ¬setting.Known key

/-- Both are online by the first key the device knows. -/
structure Joined (setting : Setting) (t u : Nat) (state : Connected) : Prop where
  host : (state.host.server.transports t).online = true
  device : (state.device.server.transports u).online = true
  profile : (state.host.identities t).profile = setting.profile
  key : ∃ tried key, setting.keyList[tried]? = some key ∧ setting.Known key ∧
    Refused setting tried ∧ (state.host.identities t).key = some key

/-- All keys have been refused, and the user is asked. -/
structure Asked (setting : Setting) (t u : Nat) (framework : Option Nat)
    (told : List (Nat × List UInt8)) (file : List UInt8) (state : Connected) : Prop where
  refused : ∀ key ∈ setting.keyList, ¬setting.Known key
  host : (state.host.server.transports t).online = false
  device : (state.device.server.transports u).online = false
  usb : state.device.usbTransport = some u
  retry : framework = none → state.device.needsRetry = true
  told_eq : ∀ fd, framework = some fd → state.device.told = told ++ [(u, ascii "PK" ++ file)]

/-- The stages of a handshake, with the number of packets that are still to be delivered. -/
inductive Stage (setting : Setting) (t u : Nat) (framework : Option Nat)
    (told : List (Nat × List UInt8)) (file : List UInt8) : Nat → Connected → Prop where
  | hailing {state : Connected} :
      Standing t framework told state → Apart t u state →
      (state.device.server.transports u).connectionState = .offline →
      (state.host.identities t).key = none →
      state.toHost = [] → state.toDevice = [hostHello] →
      Stage setting t u framework told file (2 * setting.keyList.length + 3) state
  | asking {state : Connected} {tried left : Nat} {token : List UInt8} :
      Standing t framework told state → Apart t u state → Refused setting tried →
      tried + left = setting.keyList.length → token.length = tokenSize →
      (state.device.identities u).token = token →
      (state.host.identities t).key = offered setting.keyList (setting.keyList.length + tried) →
      state.toHost = [tokenRequest token] → state.toDevice = [] →
      Stage setting t u framework told file (2 * left + 2) state
  | signing {state : Connected} {tried left key : Nat} {token : List UInt8} :
      Standing t framework told state → Apart t u state → Refused setting tried →
      tried + (left + 1) = setting.keyList.length → token.length = tokenSize →
      (state.device.identities u).token = token → setting.keyList[tried]? = some key →
      (state.host.identities t).key = some key →
      state.toHost = [] → state.toDevice = [signatureReply (setting.rsaSign key token)] →
      Stage setting t u framework told file (2 * left + 3) state
  | greeting {state : Connected} {tried key : Nat} :
      Standing t framework told state → (state.device.server.transports u).online = true →
      Refused setting tried → setting.keyList[tried]? = some key → setting.Known key →
      (state.host.identities t).key = some key →
      state.toHost = [setting.hello] → state.toDevice = [] →
      Stage setting t u framework told file 1 state
  | offering {state : Connected} :
      Standing t framework told state → Apart t u state →
      Refused setting setting.keyList.length →
      state.toHost = [] → state.toDevice = [keyReply (file ++ [0])] →
      Stage setting t u framework told file 1 state
  | joined {state : Connected} :
      Joined setting t u state → state.toHost = [] → state.toDevice = [] →
      Stage setting t u framework told file 0 state
  | asked {state : Connected} :
      Asked setting t u framework told file state → state.toHost = [] → state.toDevice = [] →
      Stage setting t u framework told file 0 state

/-- A packet is delivered to a program, and the device makes a token if it has to. -/
def Delivery (setting : Setting) (t u : Nat) (_ : Connected) : Turn → Prop
  | .host label => label.1.receives t ∧ setting.Host label.2
  | .device label => label.1.receives u ∧ label.2.random.token ≠ none ∧ label.2.frameworkTakes
  | .loss => False

/-- The host is given the first packet on the way to it. -/
structure HostTakes (setting : Setting) (t : Nat) (state after : Connected) (p : Apacket)
    (behind : List UInt8) (world : Surroundings) : Prop where
  queue : state.toHost = p.frame.message :: after.toHost
  surroundings : setting.Host world
  host : after.host = state.host.handlePacket .host world t p behind
  device : after.device = state.device
  sent : after.toDevice = state.toDevice ++ crossing t state.host after.host

/-- The device is given the first packet on the way to it. -/
structure DeviceTakes (setting : Setting) (u : Nat) (state after : Connected) (p : Apacket)
    (behind : List UInt8) (world : Surroundings) : Prop where
  queue : state.toDevice = p.frame.message :: after.toDevice
  surroundings : setting.Device world
  header : checkHeader p
  random : ∃ token, world.random.token = some token
  frameworkTakes : world.frameworkTakes = true
  device : after.device = state.device.handlePacket (.device true) world u p behind
  host : after.host = state.host
  sent : after.toHost = state.toHost ++ crossing u state.device after.device

/-- A delivery is one to the host or one to the device. -/
theorem delivery_cases {state after : Connected} {turn : Turn}
    (step : Guarded (ConnectedStep setting t u) (Delivery setting t u) state turn after) :
    (∃ p behind world, HostTakes setting t state after p behind world) ∨
      ∃ p behind world, DeviceTakes setting u state after p behind world := by
  obtain ⟨delivery, step⟩ := step
  cases step with
  | @host label host toHost moves takes =>
      left
      obtain ⟨step', world⟩ := label
      rw [Takes, if_pos delivery.1] at takes
      obtain ⟨p, behind, received, queue⟩ := takes
      cases received
      exact ⟨p, behind, world, queue, delivery.2, moves.2.2, rfl, rfl⟩
  | @device label device toDevice moves surroundings takes =>
      right
      obtain ⟨step', world⟩ := label
      rw [Takes, if_pos delivery.1] at takes
      obtain ⟨p, behind, received, queue⟩ := takes
      cases received
      exact ⟨p, behind, world, queue, surroundings, moves.2.1.1,
        Option.ne_none_iff_exists'.mp delivery.2.1, delivery.2.2, moves.2.2, rfl, rfl⟩
  | loss => exact delivery.elim

/-- The device is standing as before. -/
theorem Standing.device {state after : Connected} (standing : Standing t framework told state)
    (host : after.host = state.host) (keeps : Keeps state.device after.device) :
    Standing t framework told after where
  host_runs := host ▸ standing.host_runs
  device_runs := keeps.halted.trans standing.device_runs
  disconnects := host ▸ standing.disconnects
  trackers := host ▸ standing.trackers
  framework_eq := keeps.framework.trans standing.framework_eq
  told_eq := keeps.told.trans standing.told_eq

/-- The tokens that are made have the size of tokens. -/
theorem length_of_made {random : Random} {token : List UInt8} (made : random.token = some token) :
    token.length = tokenSize := by
  cases random with
  | unopened => cases made
  | read bytes =>
      simp only [Random.token, Option.ite_none_right_eq_some, Option.some.injEq] at made
      obtain ⟨enough, rfl⟩ := made
      rw [List.length_take, Nat.min_eq_left enough]

/-- The device has just been sent a hello. -/
theorem step_hailing {state after : Connected} {p : Apacket} {behind : List UInt8}
    {world : Surroundings} (standing : Standing t framework told state) (apart : Apart t u state)
    (fresh : (state.device.server.transports u).connectionState = .offline)
    (key : (state.host.identities t).key = none) (to_host : state.toHost = [])
    (to_device : state.toDevice = [hostHello])
    (takes : DeviceTakes setting u state after p behind world) :
    Stage setting t u framework told file (2 * setting.keyList.length + 2) after := by
  obtain ⟨token, made⟩ := takes.random
  obtain ⟨frame, rest⟩ := List.cons.inj (to_device.symm.trans takes.queue)
  obtain ⟨sent, stored, online, keeps⟩ :=
    @device_hello state.device world u p behind token frame.symm fresh made
  rw [← takes.device] at sent stored online keeps
  have none_refused : Refused setting 0 := by simp [Refused]
  refine .asking (standing.device takes.host keeps) ⟨?_, ?_, ?_⟩ none_refused (Nat.zero_add _)
    (length_of_made made) stored ?_ ?_ rest.symm
  · rw [takes.host]
    exact apart.host
  · rw [online]
    exact apart.device
  · rw [keeps.usb]
    exact apart.usb
  · rw [takes.host, key, Nat.add_zero, eq_comm, offered_eq_none]
    exact Nat.mod_eq_of_lt (Nat.lt_succ_self _)
  · rw [takes.sent, to_host, crossing_of_sent sent (by simp [tokenRequest])]
    rfl

/-- The host is standing as before. -/
theorem Standing.host {state after : Connected} (standing : Standing t framework told state)
    (device : after.device = state.device) (halted : after.host.halted = state.host.halted)
    (disconnects : (after.host.server.transports t).disconnects =
      (state.host.server.transports t).disconnects)
    (trackers : after.host.server.deviceTrackerList = state.host.server.deviceTrackerList) :
    Standing t framework told after where
  host_runs := halted.trans standing.host_runs
  device_runs := device ▸ standing.device_runs
  disconnects := disconnects.trans standing.disconnects
  trackers := trackers.trans standing.trackers
  framework_eq := device ▸ standing.framework_eq
  told_eq := device ▸ standing.told_eq

/-- The key that is offered after so many others. -/
theorem offered_after {keys : List Nat} {tried : Nat} (inside : tried ≤ keys.length) :
    offered keys (keys.length + (tried + 1)) = keys[tried]? := by
  have place : keys.length + (tried + 1) = 1 * (keys.length + 1) + tried := by omega
  rw [place, offered_add, offered, Nat.mod_eq_of_lt (Nat.lt_succ_of_le inside)]

/-- The host has been asked for a signature. -/
theorem step_asking (sound : setting.Sound file) {state after : Connected} {p : Apacket}
    {behind : List UInt8} {world : Surroundings} {tried left : Nat} {token : List UInt8}
    (standing : Standing t framework told state) (apart : Apart t u state)
    (refused : Refused setting tried) (length : tried + left = setting.keyList.length)
    (size : token.length = tokenSize) (stored : (state.device.identities u).token = token)
    (key : (state.host.identities t).key =
      offered setting.keyList (setting.keyList.length + tried))
    (to_host : state.toHost = [tokenRequest token]) (to_device : state.toDevice = [])
    (takes : HostTakes setting t state after p behind world) :
    Stage setting t u framework told file (2 * left + 1) after := by
  obtain ⟨frame, rest⟩ := List.cons.inj (to_host.symm.trans takes.queue)
  have auth := command_of_frame frame.symm
  have type : p.msg.arg0.toNat = authToken := congrArg Message.arg0 frame.symm
  have frames := @host_token_frame state.host world t p behind auth type
  rw [← takes.host] at frames
  obtain ⟨online, disconnects, trackers, halted⟩ := frames
  have standing' := standing.host takes.device halted disconnects trackers
  have apart' : Apart t u after :=
    ⟨online.trans apart.host, takes.device ▸ apart.device, takes.device ▸ apart.usb⟩
  have next : adbAuthNextkey world (state.host.identities t).key .host =
      setting.keyList[tried]? := by
    rw [key, adbAuthNextkey_offered sound.nodup takes.surroundings.keyList]
    exact offered_after (by omega)
  cases left with
  | zero =>
      have last : setting.keyList[tried]? = none := List.getElem?_eq_none (by omega)
      have userkey := takes.surroundings.userkey sound
      have sent := @host_offers state.host world t p behind token frame.symm (next.trans last)
        (by simp [userkey])
      rw [← takes.host, userkey] at sent
      have all : tried = setting.keyList.length := length
      refine .offering standing' apart' (all ▸ refused) rest.symm ?_
      rw [takes.sent, to_device, crossing_of_sent sent (by simp [keyReply])]
      rfl
  | succ left =>
      have inside : tried < setting.keyList.length := by omega
      have number := List.getElem?_eq_getElem inside
      have member : setting.keyList[tried] ∈ setting.keyList := List.getElem_mem inside
      have signed : world.rsaSign setting.keyList[tried] token ≠ [] := by
        rw [takes.surroundings.rsaSign]
        exact sound.signs _ member token
      obtain ⟨sent, key'⟩ := @host_signs state.host world t p behind token _ frame.symm
        (next.trans number) signed
      rw [← takes.host, takes.surroundings.rsaSign] at sent
      rw [← takes.host] at key'
      refine .signing standing' apart' refused length size (takes.device ▸ stored) number key'
        rest.symm ?_
      rw [takes.sent, to_device, crossing_of_sent sent (by simp [signatureReply])]
      rfl

/-- The device has been sent a signature. -/
theorem step_signing (sound : setting.Sound file) {state after : Connected} {p : Apacket}
    {behind : List UInt8} {world : Surroundings} {tried left key : Nat} {token : List UInt8}
    (standing : Standing t framework told state) (apart : Apart t u state)
    (refused : Refused setting tried) (length : tried + (left + 1) = setting.keyList.length)
    (size : token.length = tokenSize) (stored : (state.device.identities u).token = token)
    (number : setting.keyList[tried]? = some key)
    (key_eq : (state.host.identities t).key = some key)
    (to_host : state.toHost = [])
    (to_device : state.toDevice = [signatureReply (setting.rsaSign key token)])
    (takes : DeviceTakes setting u state after p behind world) :
    ∃ rank, rank ≤ 2 * left + 2 ∧ Stage setting t u framework told file rank after := by
  obtain ⟨frame, rest⟩ := List.cons.inj (to_device.symm.trans takes.queue)
  have member : key ∈ setting.keyList := List.mem_of_getElem? number
  by_cases verified : setting.verifies token (setting.rsaSign key token) = true
  · have known := sound.steady key member token size verified
    have accepted : adbAuthVerify world (state.device.identities u).token
        (setting.rsaSign key token) (.device true) = true := by
      rw [takes.surroundings.verify_eq, stored, verified]
    obtain ⟨sent, online, keeps⟩ :=
      @device_accepts state.device world u p behind _ frame.symm accepted
    rw [← takes.device] at sent online keeps
    refine ⟨1, by omega, .greeting (standing.device takes.host keeps) online refused number known
      (takes.host ▸ key_eq) ?_ rest.symm⟩
    have hello : helloOf world u = (u, setting.hello) := by
      rw [helloOf, Setting.hello, takes.surroundings.banner_eq]
    rw [hello] at sent
    rw [takes.sent, to_host, crossing_of_sent sent (by simp [Setting.hello])]
    rfl
  · have unknown : ¬setting.Known key := fun known => verified (known token size)
    have rejected : adbAuthVerify world (state.device.identities u).token
        (setting.rsaSign key token) (.device true) = false := by
      rw [takes.surroundings.verify_eq, stored]
      exact Bool.eq_false_iff.mpr verified
    obtain ⟨token', made⟩ := takes.random
    obtain ⟨sent, stored', online, keeps⟩ :=
      @device_refuses state.device world u p behind token' _ frame.symm rejected made
    rw [← takes.device] at sent stored' online keeps
    have apart' : Apart t u after :=
      ⟨takes.host ▸ apart.host, online.trans apart.device, keeps.usb.trans apart.usb⟩
    have refused' : Refused setting (tried + 1) := by
      intro other inside
      rw [List.take_add_one, number, List.mem_append] at inside
      rcases inside with earlier | now
      · exact refused other earlier
      · rw [Option.toList_some, List.mem_singleton] at now
        exact now ▸ unknown
    refine ⟨2 * left + 2, le_rfl, .asking (standing.device takes.host keeps) apart' refused'
      (by omega) (length_of_made made) stored' ?_ ?_ rest.symm⟩
    · rw [takes.host, key_eq, ← number]
      exact (offered_after (by omega)).symm
    · rw [takes.sent, to_host, crossing_of_sent sent (by simp [tokenRequest])]
      rfl

/-- The host has been sent the hello of the device. -/
theorem step_greeting {state after : Connected} {p : Apacket} {behind : List UInt8}
    {world : Surroundings} {tried key : Nat} (standing : Standing t framework told state)
    (device : (state.device.server.transports u).online = true) (refused : Refused setting tried)
    (number : setting.keyList[tried]? = some key) (known : setting.Known key)
    (key_eq : (state.host.identities t).key = some key) (to_host : state.toHost = [setting.hello])
    (to_device : state.toDevice = []) (takes : HostTakes setting t state after p behind world) :
    Stage setting t u framework told file 0 after := by
  obtain ⟨frame, rest⟩ := List.cons.inj (to_host.symm.trans takes.queue)
  have cnxn := command_of_frame frame.symm
  have payload : p.payload = setting.banner := congrArg Message.payload frame.symm
  obtain ⟨sent, key', online, -⟩ := @host_hello state.host world t p behind cnxn
    standing.disconnects standing.trackers
  have same : cString (memory p behind) = cString setting.banner := by
    rw [← payload]
    exact cString_memory (payload ▸ setting.zero_mem_banner) behind
  have profile : (after.host.identities t).profile = setting.profile := by
    rw [takes.host, handlePacket_of_cnxn cnxn, identities_handleConnect, Function.update_self]
    exact setting.profile_parseBanner _ same
  rw [← takes.host] at sent key' online
  refine .joined ⟨online, takes.device ▸ device, profile,
    ⟨tried, key, number, known, refused, key'.trans key_eq⟩⟩ rest.symm ?_
  rw [takes.sent, to_device, crossing_of_same sent]
  rfl

/-- The device has been sent the public key of the user. -/
theorem step_offering (sound : setting.Sound file) {state after : Connected} {p : Apacket}
    {behind : List UInt8} {world : Surroundings} (standing : Standing t framework told state)
    (apart : Apart t u state) (refused : Refused setting setting.keyList.length)
    (to_host : state.toHost = []) (to_device : state.toDevice = [keyReply (file ++ [0])])
    (takes : DeviceTakes setting u state after p behind world) :
    Stage setting t u framework told file 0 after := by
  obtain ⟨frame, rest⟩ := List.cons.inj (to_device.symm.trans takes.queue)
  obtain ⟨sent, online, usb, -, retry, asks⟩ := @device_key state.device world u p behind file
    frame.symm takes.header sound.plain sound.short takes.frameworkTakes apart.usb
  rw [← takes.device] at sent online usb retry asks
  rw [standing.framework_eq] at retry asks
  rw [standing.told_eq] at asks
  rw [Refused, List.take_length] at refused
  refine .asked ⟨refused, takes.host ▸ apart.host, online.trans apart.device, usb, retry, asks⟩
    ?_ rest.symm
  rw [takes.sent, to_host, crossing_of_same sent]
  rfl

/-- With every packet that is delivered, one less is to be delivered. -/
theorem Stage.step (sound : setting.Sound file) {state after : Connected} {turn : Turn}
    {rank : Nat} (stage : Stage setting t u framework told file rank state)
    (step : Guarded (ConnectedStep setting t u) (Delivery setting t u) state turn after) :
    ∃ rank', rank' + 1 ≤ rank ∧ Stage setting t u framework told file rank' after := by
  obtain ⟨p, behind, world, takes⟩ | ⟨p, behind, world, takes⟩ := delivery_cases step
  · have filled : state.toHost ≠ [] := by simp [takes.queue]
    cases stage with
    | hailing _ _ _ _ to_host | signing _ _ _ _ _ _ _ _ to_host | offering _ _ _ to_host
    | joined _ to_host | asked _ to_host => exact absurd to_host filled
    | asking standing apart refused length size stored key to_host to_device =>
        exact ⟨_, le_rfl, step_asking sound standing apart refused length size stored key to_host
          to_device takes⟩
    | greeting standing device refused number known key_eq to_host to_device =>
        exact ⟨0, le_rfl, step_greeting standing device refused number known key_eq to_host
          to_device takes⟩
  · have filled : state.toDevice ≠ [] := by simp [takes.queue]
    cases stage with
    | asking _ _ _ _ _ _ _ _ to_device | greeting _ _ _ _ _ _ _ to_device
    | joined _ _ to_device | asked _ _ to_device => exact absurd to_device filled
    | hailing standing apart fresh key to_host to_device =>
        exact ⟨_, le_rfl, step_hailing standing apart fresh key to_host to_device takes⟩
    | signing standing apart refused length size stored number key_eq to_host to_device =>
        obtain ⟨rank', bound, stage⟩ := step_signing sound standing apart refused length size stored
          number key_eq to_host to_device takes
        exact ⟨rank', by omega, stage⟩
    | offering standing apart refused to_host to_device =>
        exact ⟨0, le_rfl, step_offering sound standing apart refused to_host to_device takes⟩

/-- A packet that carries a message. -/
def carrying (word arg0 arg1 : UInt32) (payload : List UInt8) : Apacket :=
  packetOf ⟨word, arg0, arg1, UInt32.ofNat payload.length, Wire.checksum payload,
    word ^^^ 0xffffffff⟩ payload

theorem carrying_spec (word arg0 arg1 : UInt32) {payload : List UInt8}
    (fits : payload.length ≤ maxPayload) :
    (carrying word arg0 arg1 payload).frame.message =
        ⟨commandOf word, arg0.toNat, arg1.toNat, payload⟩ ∧
      checkHeader (carrying word arg0 arg1 payload) ∧
        checkData (carrying word arg0 arg1 payload) := by
  have length : (UInt32.ofNat payload.length).toNat = payload.length := by
    rw [UInt32.toNat_ofNat']
    exact Nat.mod_eq_of_lt (Nat.lt_of_le_of_lt fits (by decide))
  have whole : (carrying word arg0 arg1 payload).payload = payload := by
    simp only [carrying, packetOf, Apacket.payload, length]
    rw [List.take_take, Nat.min_eq_left fits, List.take_left]
  refine ⟨?_, ?_, ?_⟩
  · simp only [Apacket.frame, Wire.Frame.message, whole]
    rfl
  · simp [checkHeader, carrying, packetOf, length, fits]
  · simp [checkData, whole]
    rfl

/-- A packet on the way to the host can be delivered. -/
theorem host_canTake {state : Connected} {message : Message} {rest : List Message} {p : Apacket}
    (runs : state.host.halted = false) (queue : state.toHost = message :: rest)
    (carries : p.frame.message = message ∧ checkHeader p ∧ checkData p)
    (command : message.command ≠ .sync) :
    ∃ turn after, Guarded (ConnectedStep setting t u) (Delivery setting t u) state turn after := by
  obtain ⟨frame, accepted⟩ := carries
  have other : commandOf p.msg.command ≠ .sync := by rwa [command_of_frame frame]
  have receives : (Step.packet t p []).receives t = true := by simp [Step.receives, other]
  let world : Surroundings :=
    { keyList := setting.keyList, rsaSign := setting.rsaSign, userKeyFile := setting.userKeyFile }
  have takes : Takes t (.packet t p []) state.toHost rest := by
    rw [Takes, if_pos receives]
    exact ⟨p, [], rfl, by rw [queue, frame]⟩
  exact ⟨.host (.packet t p [], world), _, ⟨receives, rfl, rfl, rfl⟩,
    .host ⟨runs, accepted, rfl⟩ takes⟩

/-- A packet on the way to the device can be delivered. -/
theorem device_canTake {state : Connected} {message : Message} {rest : List Message} {p : Apacket}
    (runs : state.device.halted = false) (queue : state.toDevice = message :: rest)
    (carries : p.frame.message = message ∧ checkHeader p ∧ checkData p)
    (command : message.command ≠ .sync) :
    ∃ turn after, Guarded (ConnectedStep setting t u) (Delivery setting t u) state turn after := by
  obtain ⟨frame, accepted⟩ := carries
  have other : commandOf p.msg.command ≠ .sync := by rwa [command_of_frame frame]
  have receives : (Step.packet u p []).receives u = true := by simp [Step.receives, other]
  let world : Surroundings :=
    { publicKeys := setting.publicKeys
      rsaVerify := setting.rsaVerify
      deviceBanner := setting.type.text
      property := setting.property
      random := .read (List.replicate tokenSize 0) }
  have takes : Takes u (.packet u p []) state.toDevice rest := by
    rw [Takes, if_pos receives]
    exact ⟨p, [], rfl, by rw [queue, frame]⟩
  have random : world.random.token ≠ none := by simp [world, Random.token]
  exact ⟨.device (.packet u p [], world), _, ⟨receives, random, rfl⟩,
    .device ⟨runs, accepted, rfl⟩ ⟨rfl, rfl, rfl, rfl⟩ takes⟩

/-- As long as packets are to be delivered, one can be. -/
theorem Stage.progress (sound : setting.Sound file) {state : Connected} {rank : Nat}
    (stage : Stage setting t u framework told file rank state) :
    (∃ turn after, Guarded (ConnectedStep setting t u) (Delivery setting t u) state turn after) ∨
      Joined setting t u state ∨ Asked setting t u framework told file state := by
  cases stage with
  | hailing standing _ _ _ _ to_device =>
      exact .inl (device_canTake standing.device_runs to_device
        (carrying_spec 0x4e584e43 0x01000000 4096 (by with_unfolding_all decide))
        (by simp [hostHello]))
  | asking standing _ _ _ size _ _ to_host =>
      exact .inl (host_canTake standing.host_runs to_host
        (carrying_spec 0x48545541 1 0 (by rw [size]; decide)) (by simp [tokenRequest]))
  | signing standing _ _ _ _ _ number _ _ to_device =>
      exact .inl (device_canTake standing.device_runs to_device
        (carrying_spec 0x48545541 2 0 (sound.fits _ (List.mem_of_getElem? number) _))
        (by simp [signatureReply]))
  | greeting standing _ _ _ _ _ to_host =>
      have short := @fillConnectData_short
        { property := setting.property, deviceBanner := setting.type.text } setting.type true rfl
        setting.valid
      exact .inl (host_canTake standing.host_runs to_host
        (carrying_spec 0x4e584e43 0x01000000 4096 (Nat.le_trans short (by decide)))
        (by simp [Setting.hello]))
  | offering standing _ _ _ to_device =>
      have short := sound.short
      exact .inl (device_canTake standing.device_runs to_device
        (carrying_spec 0x48545541 3 0 (by rw [List.length_append, List.length_singleton]; omega))
        (by simp [keyReply]))
  | joined joined => exact .inr (.inl joined)
  | asked asked => exact .inr (.inr asked)

/-- Both programs have started, and the hello of the host is on its way. -/
structure Hails (t u : Nat) (framework : Option Nat) (told : List (Nat × List UInt8))
    (state : Connected) : Prop extends Standing t framework told state, Apart t u state where
  fresh : (state.device.server.transports u).connectionState = .offline
  key : (state.host.identities t).key = none
  toHost : state.toHost = []
  toDevice : state.toDevice = [hostHello]

/-- Every run of deliveries after the hello of the host is in some stage. -/
theorem stage_run (sound : setting.Sound file) {hailing final : Connected} {turns : List Turn}
    (hails : Hails t u framework told hailing)
    (trace : Trace (Guarded (ConnectedStep setting t u) (Delivery setting t u)) hailing turns
      final) :
    ∃ rank, turns.length + rank ≤ 2 * setting.keyList.length + 3 ∧
      Stage setting t u framework told file rank final := by
  induction trace with
  | nil =>
      exact ⟨_, by simp, .hailing hails.toStanding hails.toApart hails.fresh hails.key
        hails.toHost hails.toDevice⟩
  | snoc _ last induction =>
      obtain ⟨rank, bound, stage⟩ := induction
      obtain ⟨rank', falls, stage'⟩ := stage.step sound last
      refine ⟨rank', ?_, stage'⟩
      rw [List.length_append, List.length_singleton]
      omega

/-- Some run of deliveries leaves nothing to be delivered. -/
theorem exists_delivered (sound : setting.Sound file) {hailing : Connected}
    (hails : Hails t u framework told hailing) :
    ∃ turns final,
      Trace (Guarded (ConnectedStep setting t u) (Delivery setting t u)) hailing turns final ∧
        ∀ turn after,
          ¬Guarded (ConnectedStep setting t u) (Delivery setting t u) final turn after := by
  apply exists_maximal
  intro turns final trace
  obtain ⟨rank, bound, -⟩ := stage_run sound hails trace
  exact Nat.le_trans (Nat.le_add_right _ _) bound

/-- After the hello of the host, however the packets are delivered, no more than two for each
private key and three more are, and the next one can be delivered until the two programs are
joined by the first key the device knows, or the user is asked because it knows none. -/
theorem handshake (sound : setting.Sound file) {hailing final : Connected} {turns : List Turn}
    (hails : Hails t u framework told hailing)
    (trace : Trace (Guarded (ConnectedStep setting t u) (Delivery setting t u)) hailing turns
      final) :
    turns.length ≤ 2 * setting.keyList.length + 3 ∧
      ((∃ turn after,
          Guarded (ConnectedStep setting t u) (Delivery setting t u) final turn after) ∨
        Joined setting t u final ∨ Asked setting t u framework told file final) := by
  obtain ⟨rank, bound, stage⟩ := stage_run sound hails trace
  exact ⟨by omega, stage.progress sound⟩

/-- The hello is on its way when the host has handled the first packet of its output thread. -/
theorem hails_of_sync {label : Step × Surroundings} {after : Connected} {p : Apacket}
    {behind : List UInt8} (step : ConnectedStep setting t u .start (.host label) after)
    (packet : label.1 = .packet t p behind) (sync : commandOf p.msg.command = .sync)
    (first : p.msg.arg0.toNat ≠ 0) : Hails t u none [] after := by
  obtain ⟨step', world⟩ := label
  cases packet
  cases step with
  | @host _ host toHost moves takes =>
      rw [Takes, if_neg (by simp [Step.receives, sync])] at takes
      have named : p.frame.message.command = .sync := sync
      have nonzero : p.frame.message.arg0 ≠ 0 := first
      have handled : Node.handlePacket .host world Node.start t p behind =
          ((Node.start.noted world t p.frame.message).sendPacket t p.frame.message).sendConnect
            .host world t := by
        simp only [Node.handlePacket, named, Node.handleSync, if_pos nonzero]
      have applied := moves.2.2.trans handled
      subst applied
      refine
        { host_runs := rfl
          device_runs := rfl
          disconnects := rfl
          trackers := rfl
          framework_eq := rfl
          told_eq := rfl
          host := rfl
          device := rfl
          usb := rfl
          fresh := rfl
          key := rfl
          toHost := takes
          toDevice := ?_ }
      change [] ++ (([] ++ [(t, p.frame.message)] ++ [(t, hostHello)]).filter _).map _ = _
      simp [named, hostHello]

end Stages

/-! ## Two keys -/

/-- A host with two keys, of which the device knows the second.  The key, the token and padding
stand for a signature. -/
def secondKnown : Setting where
  keyList := [8, 9]
  rsaSign := fun key token =>
    (UInt8.ofNat key :: (token ++ List.replicate rsaNumBytes 0)).take rsaNumBytes
  userKeyFile := some [65]
  publicKeys := [[9]]
  rsaVerify := fun key sig _ => sig.head? = key.head?
  type := .device
  property := fun _ => []
  valid := fun _ _ => ⟨by simp, by simp, by simp⟩

theorem rsaSign_secondKnown (key : Nat) (token : List UInt8) :
    (secondKnown.rsaSign key token).length = rsaNumBytes ∧
      (secondKnown.rsaSign key token).head? = some (UInt8.ofNat key) := by
  change ((UInt8.ofNat key :: (token ++ List.replicate rsaNumBytes 0)).take rsaNumBytes).length =
      rsaNumBytes ∧
    ((UInt8.ofNat key :: (token ++ List.replicate rsaNumBytes 0)).take rsaNumBytes).head? = _
  constructor
  · rw [List.length_take, List.length_cons, List.length_append, List.length_replicate]
    omega
  · rw [List.head?_take, if_neg (by decide), List.head?_cons]

theorem verifies_secondKnown (key : Nat) (token : List UInt8) :
    secondKnown.verifies token (secondKnown.rsaSign key token) = true ↔ UInt8.ofNat key = 9 := by
  obtain ⟨length, head⟩ := rsaSign_secondKnown key token
  rw [Setting.verifies, length]
  change decide (rsaNumBytes = rsaNumBytes ∧ ([[9]].any fun known =>
    decide ((secondKnown.rsaSign key token).head? = known.head?)) = true) = true ↔ _
  rw [head]
  simp

theorem sound_secondKnown : secondKnown.Sound [65] where
  nodup := by decide
  signs key _ token empty := by
    have length := (rsaSign_secondKnown key token).1
    rw [empty] at length
    exact absurd length (by decide)
  fits key _ token := by
    rw [(rsaSign_secondKnown key token).1]
    decide
  steady key _ token _ verified := by
    intro other _
    rw [verifies_secondKnown] at verified ⊢
    exact verified
  userKeyFile := rfl
  short := by decide
  plain := by decide

/-- The first packet of the output thread of the host. -/
def syncStart : Step × Surroundings := (.packet 0 (carrying Wire.aSync 1 1 []) [], {})

/-- The two programs when the host has handled it. -/
def hailingSample : Connected where
  host := syncStart.1.apply .host syncStart.2 .start
  device := .start
  toHost := []
  toDevice := crossing 0 .start (syncStart.1.apply .host syncStart.2 .start)

theorem step_syncStart :
    ConnectedStep secondKnown 0 0 .start (.host syncStart) hailingSample := by
  have accepted := (@carrying_spec Wire.aSync 1 1 [] (Nat.zero_le _)).2
  have takes : Takes 0 syncStart.1 Connected.start.toHost [] := by
    rw [Takes, if_neg (by decide)]
    rfl
  exact .host ⟨rfl, accepted, rfl⟩ takes

theorem hails_sample : Hails 0 0 none [] hailingSample :=
  hails_of_sync step_syncStart rfl (by decide) (by decide)

theorem not_asked_sample {final : Connected} :
    ¬Asked secondKnown 0 0 none [] [65] final :=
  fun asked => asked.refused 9 (by decide) fun token _ => (verifies_secondKnown 9 token).mpr rfl

/-- The host and the device are joined by the second key. -/
theorem handshake_secondKnown :
    ∃ turns final, Trace (Guarded (ConnectedStep secondKnown 0 0) (Delivery secondKnown 0 0))
      hailingSample turns final ∧ Joined secondKnown 0 0 final := by
  obtain ⟨turns, final, trace, stuck⟩ := exists_delivered sound_secondKnown hails_sample
  refine ⟨turns, final, trace, ?_⟩
  obtain ⟨turn, after, next⟩ | joined | asked :=
    (handshake sound_secondKnown hails_sample trace).2
  · exact absurd next (stuck turn after)
  · exact joined
  · exact absurd asked not_asked_sample

/-! ## What the host shows -/

/-- The host shows the device online only after the device has authorised it, and with the
properties of the device. -/
theorem online_after_authorised {setting : Setting} {t u : Nat} {turns : List Turn}
    {state : Connected} (trace : Trace (ConnectedStep setting t u) .start turns state)
    (online : (state.host.server.transports t).online = true) :
    (state.host.identities t).profile = setting.profile ∧
      OnceAuthorised setting t u turns state :=
  (greeted_run trace).shown online

theorem online_after_authorised_secondKnown :
    ∃ turns state, (state.host.server.transports 0).online = true ∧
      (state.host.identities 0).profile = secondKnown.profile ∧
        OnceAuthorised secondKnown 0 0 turns state := by
  obtain ⟨turns, final, trace, stuck⟩ := exists_delivered sound_secondKnown hails_sample
  obtain ⟨rank, -, stage⟩ := stage_run sound_secondKnown hails_sample trace
  have whole : Trace (ConnectedStep secondKnown 0 0) .start ([] ++ [.host syncStart] ++ turns)
      final := (Trace.nil.snoc step_syncStart).append trace.unguard
  obtain ⟨turn, after, next⟩ | joined | asked := stage.progress sound_secondKnown
  · exact absurd next (stuck turn after)
  · exact ⟨_, final, joined.host, online_after_authorised whole joined.host⟩
  · exact absurd asked not_asked_sample

end Handler
end AdbWide
