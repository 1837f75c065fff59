import AdbWide.Handler.Authorised
import AdbWide.Handler.KeyCycle
import AdbWide.Sockets.Lineage

/-!
# Who says hello

On the host a transport comes online by `A_CNXN`, and the device says `A_CNXN` to a transport that
has just been authorised and to no other.
-/

namespace AdbWide
namespace Handler

open Sockets (Server Message Consistent ConnectionState TransportState maxPayload)
open Sockets.Server (ascii cString authToken aVersion)
open Wire (Apacket checkHeader checkData commandOf)

/-- The packets sent from one state to another are all as described, if the sockets were in order,
and the sockets stay in order. -/
def Says (said : Nat × Message → Prop) (before after : Node) : Prop :=
  Consistent before.server → Consistent after.server ∧
    ∃ extra, after.server.sent = before.server.sent ++ extra ∧ ∀ entry ∈ extra, said entry

namespace Says

variable {said : Nat × Message → Prop} {before between after node : Node} {t : Nat}

theorem refl (node : Node) : Says said node node :=
  fun consistent => ⟨consistent, [], (List.append_nil _).symm, nofun⟩

theorem trans (first : Says said before between) (second : Says said between after) :
    Says said before after := by
  intro consistent
  obtain ⟨consistent, extra, sent, described⟩ := first consistent
  obtain ⟨consistent, extra', sent', described'⟩ := second consistent
  refine ⟨consistent, extra ++ extra', by rw [sent', sent, List.append_assoc], ?_⟩
  intro entry member
  rcases List.mem_append.mp member with earlier | later
  · exact described entry earlier
  · exact described' entry later

/-- Nothing is sent, and the sockets are what they were. -/
theorem of_server (same : after.server = before.server) : Says said before after := by
  intro consistent
  rw [same]
  exact ⟨consistent, [], (List.append_nil _).symm, nofun⟩

theorem sendPacket {message : Message} (described : said (t, message)) :
    Says said node (node.sendPacket t message) :=
  fun consistent => ⟨consistent.sendPacket t message, [(t, message)], rfl, by simpa using described⟩

theorem modifyTransport {change : TransportState → TransportState}
    (same : ∀ state, (change state).disconnects = state.disconnects) :
    Says said node (node.modifyTransport t change) :=
  fun consistent => ⟨consistent.modifyTransport t change same, [], (List.append_nil _).symm, nofun⟩

/-- The packets of sockets are described. -/
theorem of_effects (sockets : ∀ entry : Nat × Message, entry.2.IsSocket → said entry)
    (effects : Consistent before.server → Sockets.Effects before.server after.server) :
    Says said before after := by
  intro consistent
  obtain ⟨extra, sent, isSocket⟩ := (Sockets.Effects.advances (effects consistent)).sent
  exact ⟨consistent.effects (effects consistent), extra, sent, fun entry member =>
    sockets entry (isSocket entry member)⟩

theorem runTransportDisconnects (sockets : ∀ entry : Nat × Message, entry.2.IsSocket → said entry)
    (node : Node) (t : Nat) : Says said node (node.runTransportDisconnects t) := by
  have closed : Says said node
      { node with server := node.server.runTransportDisconnects t } :=
    .of_effects sockets fun consistent => Sockets.effects_foldl_close _ consistent
  refine closed.trans (.of_server ?_)
  unfold Node.runTransportDisconnects Node.usbDisconnected
  split <;> rfl

theorem handleOffline (sockets : ∀ entry : Nat × Message, entry.2.IsSocket → said entry)
    (node : Node) (t : Nat) : Says said node (node.handleOffline t) := by
  have offline : Says said node
      (node.modifyTransport t fun state => { state with online := false }) :=
    .modifyTransport fun _ => rfl
  exact offline.trans (.runTransportDisconnects sockets _ t)

/-- A request for authentication is an `A_AUTH` packet. -/
theorem sendAuthRequest {build : Build} {random : Random}
    (described : ∀ token, said (t, ⟨.auth, authToken, 0, token⟩)) :
    Says said node (node.sendAuthRequest build random t) := by
  have stored : ∀ token, Says said node
      (node.modifyIdentity t fun identity => { identity with token }) :=
    fun _ => .of_server rfl
  unfold Node.sendAuthRequest
  dsimp only
  split
  · exact (stored _).trans (.sendPacket (described _))
  · exact stored _

end Says

section Device

variable {node : Node} {world : Surroundings} {t : Nat} {p : Apacket} {behind : List UInt8}

/-- The packets that have to do with sockets are handled by the socket layer alone. -/
theorem server_handlePacket_of_isSocket {build : Build} (header : checkHeader p)
    (isSocket : p.frame.message.IsSocket) :
    (node.handlePacket build world t p behind).server =
      node.server.handlePacket t p.frame.message (answers world node t p) := by
  have named : p.frame.message.command = commandOf p.msg.command := rfl
  obtain ⟨sync, cnxn, auth⟩ := isSocket
  rw [named] at sync cnxn auth
  unfold Node.handlePacket Server.handlePacket
  cases command : commandOf p.msg.command with
  | sync => exact absurd command sync
  | cnxn => exact absurd command cnxn
  | auth => exact absurd command auth
  | «open» =>
      simp only [named, command]
      unfold Node.handleOpen
      rw [serviceName_eq header]
      split
      · rfl
      · rename_i refused
        exact (if_neg refused).symm
  | okay | clse | wrte | other =>
      simp only [named, command]
      rfl

/-- Not an `A_CNXN` packet. -/
def NoHello (entry : Nat × Message) : Prop := entry.2.command ≠ .cnxn

theorem noHello_of_isSocket (entry : Nat × Message) (isSocket : entry.2.IsSocket) :
    NoHello entry := isSocket.2.1

theorem says_handleSync {message : Message} (sync : message.command = .sync) :
    Says NoHello node (node.handleSync (.device true) world t message) := by
  have described : NoHello (t, message) := by simp [NoHello, sync]
  unfold Node.handleSync
  split
  · exact .sendPacket described
  · have reset : Says NoHello node
        (node.modifyTransport t fun state => { state with connectionState := .offline }) :=
      .modifyTransport fun _ => rfl
    exact (reset.trans (.handleOffline noHello_of_isSocket _ t)).trans (.sendPacket described)

/-- `A_CNXN` ends with a request for authentication, and before it no `A_CNXN` is sent. -/
theorem says_handleConnect (banner : List UInt8) :
    Says NoHello node (node.handleConnect (.device true) world t banner) := by
  have parsed : ∀ node : Node,
      Says NoHello node (node.parseBanner (.device true) world t banner) := by
    intro node
    have identified : Says NoHello node
        (node.modifyIdentity t fun identity => identity.parseBanner banner) := .of_server rfl
    exact identified.trans (.modifyTransport fun _ => rfl)
  have asked : ∀ node : Node,
      Says NoHello node (node.sendAuthRequest (.device true) world.random t) := fun node =>
    .sendAuthRequest fun token => by simp [NoHello]
  by_cases offline : (node.server.transports t).connectionState = .offline
  · simp only [Node.handleConnect, offline, if_true]
    exact (parsed node).trans (asked _)
  · have reset : Says NoHello node
        (node.modifyTransport t fun state => { state with connectionState := .offline }) :=
      .modifyTransport fun _ => rfl
    simp only [Node.handleConnect, offline, if_false]
    exact ((reset.trans (.handleOffline noHello_of_isSocket _ t)).trans (parsed _)).trans (asked _)

/-- A packet about authentication that does not verify a signature is not answered by `A_CNXN`. -/
theorem says_handleAuth
    (unverified : p.msg.arg0.toNat = authSignature →
      ¬adbAuthVerify world (node.identities t).token p.payload (.device true)) :
    Says NoHello node (node.handleAuth (.device true) world t p behind) := by
  unfold Node.handleAuth
  split
  · have marked : Says NoHello node
        (node.modifyTransport t fun state => { state with connectionState := .unauthorized }) :=
      .modifyTransport fun _ => rfl
    simp only [adbAuthNextkey, adbAuthGetUserkey, Node.sendFilled, if_true]
    exact marked.trans (.of_server rfl)
  · split
    · rename_i signature
      have counted : Says NoHello node (node.modifyIdentity t fun identity =>
          { identity with failedAuthAttempts := (identity.failedAuthAttempts + 1) % 2 ^ 32 }) :=
        .of_server rfl
      rw [if_neg (unverified signature)]
      exact counted.trans (.sendAuthRequest fun token => by simp [NoHello])
    · split
      · exact .of_server (confirmKey_spec _ _ _ _ _).1
      · exact .refl node

/-- The packet a transport is sent when it has been authorised. -/
def helloOf (world : Surroundings) (t : Nat) : Nat × Message :=
  (t, ⟨.cnxn, aVersion, maxPayload, fillConnectData world (.device true)⟩)

theorem says_adbAuthVerified :
    Says (· = helloOf world t) node (node.adbAuthVerified (.device true) world t) := by
  have online : Says (· = helloOf world t) node (node.handleOnline t) :=
    .modifyTransport fun _ => rfl
  exact online.trans (.sendPacket rfl)

/-- Every packet of a step of the device says hello only to a transport that the step authorises,
and with the properties of the device. -/
def Greets (before : Node) (label : Step × Surroundings) (after : Node) (entry : Nat × Message) :
    Prop :=
  entry.2.command = .cnxn →
    Authorises entry.1 before label after ∧ entry = helloOf label.2 entry.1

theorem Says.greets {before after : Node} {label : Step × Surroundings} {reached : Node}
    (quiet : Says NoHello before reached) : Says (Greets before label after) before reached := by
  intro consistent
  obtain ⟨consistent, extra, sent, described⟩ := quiet consistent
  exact ⟨consistent, extra, sent, fun entry member hello =>
    absurd hello (described entry member)⟩

theorem Says.greets_of_authorises {before after node : Node} {label : Step × Surroundings}
    (authorises : Authorises t before label after) :
    Says (Greets before label after) node (node.adbAuthVerified (.device true) label.2 t) := by
  intro consistent
  obtain ⟨consistent, extra, sent, described⟩ :=
    @says_adbAuthVerified node label.2 t consistent
  refine ⟨consistent, extra, sent, ?_⟩
  rintro entry member -
  rw [described entry member]
  exact ⟨authorises, rfl⟩

/-- What a packet makes the device say. -/
theorem greets_packet (after : Node) (header : checkHeader p) :
    Says (Greets node (.packet t p behind, world) after) node
      (node.handlePacket (.device true) world t p behind) := by
  have named : p.frame.message.command = commandOf p.msg.command := rfl
  have noted : Says NoHello node (node.noted world t p.frame.message) :=
    fun consistent => ⟨consistent.congr (.of rfl fun _ => rfl), [], (List.append_nil _).symm,
      nofun⟩
  by_cases isSocket : p.frame.message.IsSocket
  · have handled : Says NoHello node (node.handlePacket (.device true) world t p behind) := by
      intro consistent
      have handles := Sockets.handles_handlePacket consistent t isSocket (answers world node t p)
      obtain ⟨extra, sent, sockets⟩ := handles.advances.sent
      rw [server_handlePacket_of_isSocket header isSocket]
      exact ⟨handles.consistent consistent, extra, sent, fun entry member =>
        noHello_of_isSocket entry (sockets entry member)⟩
    exact handled.greets
  · cases command : commandOf p.msg.command with
    | sync =>
        have sync : p.frame.message.command = .sync := command
        have handled : Says NoHello node (node.handlePacket (.device true) world t p behind) := by
          simp only [Node.handlePacket, sync]
          exact noted.trans (says_handleSync sync)
        exact handled.greets
    | cnxn =>
        rw [handlePacket_of_cnxn command]
        exact (noted.trans (says_handleConnect _)).greets
    | auth =>
        by_cases verified : p.msg.arg0.toNat = authSignature ∧
            adbAuthVerify world (node.identities t).token p.payload (.device true)
        · obtain ⟨signature, verified⟩ := verified
          have own : (Step.packet t p behind).isAuth t authSignature = true :=
            isAuth_packet.mpr ⟨rfl, command, signature⟩
          have authorises : Authorises t node (.packet t p behind, world) after :=
            .signature own verified
          have not_token : p.msg.arg0.toNat ≠ authToken := by rw [signature]; decide
          rw [handlePacket_of_auth command, Node.handleAuth, if_neg not_token, if_pos signature,
            if_pos (by exact verified)]
          exact (noted.greets.trans (.greets_of_authorises authorises)).trans (.of_server rfl)
        · rw [handlePacket_of_auth command]
          have unverified : p.msg.arg0.toNat = authSignature → ¬adbAuthVerify world
              ((node.noted world t p.frame.message).identities t).token p.payload
                (.device true) :=
            fun signature holds => verified ⟨signature, holds⟩
          exact (noted.trans (says_handleAuth unverified)).greets
    | «open» | okay | clse | wrte | other =>
        exact absurd ⟨by simp [named, command], by simp [named, command],
          by simp [named, command]⟩ isSocket

/-- What a step of the device says. -/
theorem greets_step {before after : Node} {label : Step × Surroundings}
    (step : NodeStep (.device true) before label after) :
    Says (Greets before label after) before after := by
  obtain ⟨step', world⟩ := label
  obtain ⟨-, allowed, applied⟩ := step
  cases step' with
  | packet t p behind =>
      have greets := @greets_packet before world t p behind after allowed.1
      rwa [applied] at greets ⊢
  | sockets step' =>
      have unpacketed : ∀ t message, step' ≠ .packet t message := by
        rintro other message rfl
        exact allowed.1
      have effects : Says NoHello before after := by
        rw [applied]
        exact .of_effects noHello_of_isSocket fun consistent =>
          Sockets.effects_step consistent allowed.2 unpacketed world.outside
      exact effects.greets
  | disconnect t =>
      rw [applied]
      exact (Says.runTransportDisconnects noHello_of_isSocket before t).greets
  | framework fd =>
      have asked : Says NoHello before (before.adbAuthListener (.device true) world fd) := by
        unfold Node.adbAuthListener
        dsimp only
        split
        · split
          · exact .of_server rfl
          · have retried : Says NoHello before
                { before with frameworkFd := some fd, needsRetry := false } := .of_server rfl
            exact retried.trans (.sendAuthRequest fun token => by simp [NoHello])
        · exact .of_server rfl
      rw [applied]
      exact asked.greets
  | reply fd response =>
      rw [applied, Step.apply, Node.adbAuthEvent.eq_def]
      split
      · split
        · exact .of_server rfl
        · rename_i usb _
          refine .of_server ?_
          change (before.removeAuthFde usb).server = before.server
          unfold Node.removeAuthFde
          split
          · rfl
          · split <;> rfl
      · split
        case isTrue ok =>
          subst ok
          split
          · exact .refl before
          · rename_i usb claimed
            exact .greets_of_authorises (.confirmation claimed)
        case isFalse => exact .refl before

/-- The sockets of a device are in order in every run. -/
theorem consistent_device {labels : List (Step × Surroundings)} {final : Node}
    (trace : Trace (NodeStep (.device true)) .start labels final) : Consistent final.server :=
  trace.invariant (fun node => Consistent node.server) Sockets.consistent_start
    fun _ _ _ consistent step => (greets_step step consistent).1

end Device

/-! ## The host -/

/-- A packet other than `A_CNXN` brings no transport online. -/
theorem online_handlePacket {server : Server} {t other : Nat} {message : Message}
    {outside : Sockets.Outside} (not_cnxn : message.command ≠ .cnxn)
    (online : ((server.handlePacket other message outside).transports t).online = true) :
    (server.transports t).online = true := by
  have kept : ((server.handlePacket other message outside).statuses t).1 = true →
      (server.statuses t).1 = true := by
    obtain ⟨command, arg0, arg1, payload⟩ := message
    simp only [Server.handlePacket]
    cases command with
    | cnxn => exact absurd rfl not_cnxn
    | sync =>
        simp only [Server.statuses_handleSync]
        split
        · exact id
        · rcases eq_or_ne t other with rfl | different
          · simp
          · rw [Function.update_of_ne different]
            exact id
    | auth =>
        simp only [Server.statuses_handleAuth]
        split
        · rcases eq_or_ne t other with rfl | different
          · rw [Function.update_self]
            exact id
          · rw [Function.update_of_ne different]
            exact id
        · exact id
    | «open» =>
        simp only [Server.statuses_handleOpen]
        exact id
    | okay =>
        simp only [Server.statuses_handleOkay]
        exact id
    | clse =>
        simp only [Server.statuses_handleClose]
        exact id
    | wrte =>
        simp only [Server.statuses_handleWrite]
        exact id
    | other => exact id
  exact kept online

/-- What the host shows of a device. -/
def Identity.profile (identity : Identity) :
    Option (List UInt8) × Option (List UInt8) × Option (List UInt8) :=
  (identity.product, identity.model, identity.device)

section Host

variable {node : Node} {world : Surroundings} {t other : Nat} {p : Apacket} {behind : List UInt8}

theorem profile_modifyIdentity {change : Identity → Identity}
    (same : (change (node.identities other)).profile = (node.identities other).profile) :
    ((node.modifyIdentity other change).identities t).profile = (node.identities t).profile := by
  rcases eq_or_ne t other with rfl | different
  · simpa [Node.modifyIdentity] using same
  · simp [Node.modifyIdentity, different]

theorem profile_sendAuthRequest (random : Random) :
    ((node.sendAuthRequest .host random other).identities t).profile =
      (node.identities t).profile := by
  have stored : ∀ token, ((node.modifyIdentity other
      fun identity => { identity with token }).identities t).profile =
        (node.identities t).profile := fun _ => profile_modifyIdentity rfl
  unfold Node.sendAuthRequest
  dsimp only
  split <;> exact stored _

theorem profile_handleAuth :
    ((node.handleAuth .host world other p behind).identities t).profile =
      (node.identities t).profile := by
  unfold Node.handleAuth
  split
  · dsimp only
    split
    · rw [identities_sendFilled]
      exact profile_modifyIdentity rfl
    · rw [identities_sendFilled]
      exact profile_modifyIdentity rfl
  · split
    · simp only [adbAuthVerify, Bool.false_eq_true, if_false]
      exact (profile_sendAuthRequest _).trans (profile_modifyIdentity rfl)
    · split <;> rfl

/-- `A_CNXN` brings its transport online and sets the profile by its banner. -/
theorem identities_handleConnect (banner : List UInt8) :
    (node.handleConnect .host world other banner).identities =
      Function.update node.identities other ((node.identities other).parseBanner banner) := by
  have reset : (if (node.server.transports other).connectionState = .offline then node
      else (node.modifyTransport other
        fun state => { state with connectionState := .offline }).handleOffline other).identities =
      node.identities := by
    split
    · rfl
    · rw [identities_handleOffline]
      rfl
  calc (node.handleConnect .host world other banner).identities
      _ = Function.update _ other ((Node.identities _ other).parseBanner banner) := rfl
      _ = _ := by rw [reset]

theorem statuses_handlePacket_of_cnxn (cnxn : commandOf p.msg.command = .cnxn) :
    ∃ state : ConnectionState, (node.handlePacket .host world other p behind).server.statuses =
      Function.update node.server.statuses other (true, state) := by
  have handled := @server_handleConnect world (node.noted world other p.frame.message) other
    (memory p behind) ⟨.cnxn, 0, 0, memory p behind⟩ rfl
  obtain ⟨state, -, connected⟩ :=
    @Server.statuses_handleConnect (node.noted world other p.frame.message).server other
      ⟨.cnxn, 0, 0, memory p behind⟩ world.outside.deviceList
  rw [handlePacket_of_cnxn cnxn, handled]
  exact ⟨state, connected⟩

/-- A packet changes the profile of a transport only if it is its `A_CNXN`. -/
theorem profile_handlePacket
    (not_hello : (Step.packet other p behind).isConnect t = false) :
    ((node.handlePacket .host world other p behind).identities t).profile =
      (node.identities t).profile := by
  have named : p.frame.message.command = commandOf p.msg.command := rfl
  unfold Node.handlePacket
  cases command : commandOf p.msg.command with
  | sync =>
      simp only [named, command]
      unfold Node.handleSync
      split
      · rfl
      · exact congrArg (fun identities : Nat → Identity => (identities t).profile)
          (identities_handleOffline _ other)
  | cnxn =>
      have different : t ≠ other := by
        rintro rfl
        simp [Step.isConnect, command] at not_hello
      simp only [named, command]
      rw [identities_handleConnect, Function.update_of_ne different]
      rfl
  | auth =>
      simp only [named, command]
      exact profile_handleAuth
  | «open» =>
      simp only [named, command]
      unfold Node.handleOpen
      split <;> rfl
  | okay | clse | wrte | other =>
      simp only [named, command]
      rfl

/-- A step changes the profile of a transport and brings it online only by its `A_CNXN`. -/
theorem hello_step {before after : Node} {label : Step × Surroundings}
    (step : NodeStep .host before label after) (not_hello : label.1.isConnect t = false) :
    (after.identities t).profile = (before.identities t).profile ∧
      ((after.server.transports t).online = true →
        (before.server.transports t).online = true) := by
  obtain ⟨step', world⟩ := label
  obtain ⟨-, allowed, rfl⟩ := step
  cases step' with
  | packet other p behind =>
      refine ⟨profile_handlePacket not_hello, fun online => ?_⟩
      by_cases cnxn : commandOf p.msg.command = .cnxn
      · have different : t ≠ other := by
          rintro rfl
          simp [Step.isConnect, cnxn] at not_hello
        obtain ⟨state, statuses⟩ :=
          @statuses_handlePacket_of_cnxn before world other p behind cnxn
        change ((before.handlePacket .host world other p behind).server.statuses t).1 = true
          at online
        rw [statuses, Function.update_of_ne different] at online
        exact online
      · rw [Step.apply, server_handlePacket world before other allowed.1 (.inl cnxn)] at online
        exact online_handlePacket cnxn online
  | sockets step' =>
      have same : (step'.apply world.outside before.server).statuses = before.server.statuses := by
        refine Sockets.statuses_apply ?_
        rintro other message rfl
        exact allowed.1
      exact ⟨rfl, (Quiet.server same).online⟩
  | disconnect other =>
      refine ⟨?_, (Quiet.runTransportDisconnects before other).online⟩
      have same : (before.runTransportDisconnects other).identities = before.identities := by
        unfold Node.runTransportDisconnects Node.usbDisconnected
        split <;> rfl
      exact congrArg (fun identities : Nat → Identity => (identities t).profile) same
  | framework => exact absurd rfl allowed
  | reply => exact absurd rfl allowed.1

end Host

end Handler
end AdbWide
