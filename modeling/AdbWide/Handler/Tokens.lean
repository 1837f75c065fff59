import AdbWide.Handler.Payload
import AdbWide.Sockets.Online

/-!
# Tokens of the device

When authentication is required, the device answers `A_CNXN` with a token, and a transport comes
online when a signature of the token it has stored is verified, or when the framework confirms a
key.  The stored token is all zero at first, and it is left behind when no new one can be made.  An
observer of a run notes for every transport the tokens it has been sent since its last `A_CNXN`
packet.
-/

namespace AdbWide
namespace Handler

open Sockets (Server Message ConnectionState TransportState maxPayload)
open Sockets.Server (ascii cString authToken)
open Wire (Apacket commandOf)

/-- The token `adb_auth_generate_token` makes of what `/dev/urandom` gives. -/
def Random.token : Random → Option (List UInt8)
  | .unopened => none
  | .read bytes => if tokenSize ≤ bytes.length then some (bytes.take tokenSize) else none

/-- `/dev/urandom` ends before the token is complete. -/
def Random.Short : Random → Prop
  | .unopened => False
  | .read bytes => bytes.length < tokenSize

/-- `handle_packet` is called for an `A_CNXN` packet of a transport. -/
def Step.isConnect (t : Nat) : Step → Bool
  | .packet other p _ => other = t ∧ commandOf p.msg.command = .cnxn
  | _ => false

/-- `handle_packet` is called for an `A_AUTH` packet of a transport. -/
def Step.isAuth (t type : Nat) : Step → Bool
  | .packet other p _ =>
      other = t ∧ commandOf p.msg.command = .auth ∧ p.msg.arg0.toNat = type
  | _ => false

/-- The tokens that were made and sent to a transport between two states. -/
def challenges (random : Random) (before after : Node) (t : Nat) : List (List UInt8) :=
  ((after.server.sent.drop before.server.sent.length).filter fun entry =>
    entry.1 = t ∧ entry.2.command = .auth ∧ entry.2.arg0 = authToken ∧
      random.token = some entry.2.payload).map fun entry => entry.2.payload

/-- For every transport the tokens it was sent since its last `A_CNXN` packet, if there was one. -/
abbrev Sessions := Nat → Option (List (List UInt8))

/-- What the observer notes of a step. -/
def Sessions.next (sessions : Sessions) (before : Node) (label : Step × Surroundings)
    (after : Node) : Sessions := fun t =>
  if label.1.isConnect t then some (challenges label.2.random before after t)
  else (sessions t).map (· ++ challenges label.2.random before after t)

/-- A step of a device that requires authentication, and of the observer. -/
def DeviceStep (before : Node × Sessions) (label : Step × Surroundings)
    (after : Node × Sessions) : Prop :=
  NodeStep (.device true) before.1 label after.1 ∧
    after.2 = before.2.next before.1 label after.1

/-- The device and the observer at the start. -/
def deviceStart : Node × Sessions := (.start, fun _ => none)

/-- A new token may replace one that was sent before. -/
def Step.renews : Step → Bool
  | .packet _ p _ => commandOf p.msg.command = .auth ∧ p.msg.arg0.toNat = authSignature
  | .framework _ => true
  | _ => false

/-- Signatures and keys come from transports that have sent `A_CNXN`, a token is made for every
`A_CNXN` packet, and none that replaces another is cut short. -/
structure Orderly (state : Node × Sessions) (label : Step × Surroundings) : Prop where
  signature : ∀ t, label.1.isAuth t authSignature → state.2 t ≠ none
  key : ∀ t, label.1.isAuth t authRsaPublicKey → state.2 t ≠ none
  made : ∀ t, label.1.isConnect t → label.2.random.token ≠ none
  complete : label.1.renews → ¬label.2.random.Short

/-- A signature that brings a transport online belongs to a token that was made for the transport
and sent to it after its last `A_CNXN` packet. -/
def Fresh (before : Node × Sessions) (label : Step × Surroundings) (after : Node × Sessions) :
    Prop :=
  ∀ t p behind, label.1 = .packet t p behind → label.1.isAuth t authSignature →
    (before.1.server.transports t).online = false →
      (after.1.server.transports t).online = true →
        ∃ tokens token, before.2 t = some tokens ∧ token ∈ tokens ∧
          adbAuthVerify label.2 token p.payload (.device true)

/-! ## Steps that leave a transport alone -/

/-- A transport keeps its token, and neither comes online nor becomes the one whose key is to be
confirmed. -/
structure Quiet (before after : Node) (t : Nat) : Prop where
  token : (after.identities t).token = (before.identities t).token
  online : (after.server.transports t).online = true → (before.server.transports t).online = true
  usb : after.usbTransport = some t → before.usbTransport = some t

namespace Quiet

variable {before between after node : Node} {t other : Nat}

theorem refl (node : Node) (t : Nat) : Quiet node node t := ⟨rfl, id, id⟩

theorem trans (first : Quiet before between t) (second : Quiet between after t) :
    Quiet before after t :=
  ⟨second.token.trans first.token, first.online ∘ second.online, first.usb ∘ second.usb⟩

/-- The sockets change, and the transports keep their state. -/
theorem server {server' : Server} (statuses : server'.statuses = node.server.statuses) :
    Quiet node { node with server := server' } t :=
  ⟨rfl, fun online => (congrArg Prod.fst (congrFun statuses t)).symm.trans online, id⟩

theorem modifyIdentity {change : Identity → Identity}
    (keeps : (change (node.identities other)).token = (node.identities other).token) :
    Quiet node (node.modifyIdentity other change) t := by
  refine ⟨?_, id, id⟩
  rcases eq_or_ne t other with rfl | different
  · simpa [Node.modifyIdentity] using keeps
  · simp [Node.modifyIdentity, different]

theorem modifyTransport {change : TransportState → TransportState}
    (keeps : (change (node.server.transports other)).online = true →
      (node.server.transports other).online = true) :
    Quiet node (node.modifyTransport other change) t := by
  refine ⟨rfl, ?_, id⟩
  rcases eq_or_ne t other with rfl | different
  · simpa [Node.modifyTransport, Server.modifyTransport] using keeps
  · simp [Node.modifyTransport, Server.modifyTransport, different]

theorem sendPacket (node : Node) (message : Message) :
    Quiet node (node.sendPacket other message) t :=
  ⟨rfl, id, id⟩

theorem runTransportDisconnects (node : Node) (other : Nat) :
    Quiet node (node.runTransportDisconnects other) t := by
  have closed : Quiet node { node with server := node.server.runTransportDisconnects other } t :=
    .server Server.statuses_runTransportDisconnects
  refine closed.trans ?_
  unfold Node.runTransportDisconnects Node.usbDisconnected
  split
  · exact ⟨rfl, id, fun usb => nomatch usb⟩
  · exact .refl _ t

theorem handleOffline (node : Node) (other : Nat) : Quiet node (node.handleOffline other) t :=
  (Quiet.modifyTransport (by simp)).trans (.runTransportDisconnects _ other)

end Quiet

theorem token_parseBanner (identity : Identity) (banner : List UInt8) :
    (identity.parseBanner banner).token = identity.token := by
  obtain ⟨_, _, _, parsed⟩ := exists_parseBanner identity banner
  rw [parsed]

/-! ## What has been sent -/

section sent

variable {server : Server} {a t : Nat}

theorem sent_clearPeer : (server.clearPeer a).sent = server.sent := rfl

theorem sent_finishClose : (server.finishClose a).sent = server.sent := by
  unfold Server.finishClose
  split
  · rfl
  · split <;> rfl

theorem sent_closeUnpeered : (server.closeUnpeered a).sent = server.sent := by
  unfold Server.closeUnpeered
  split
  · rfl
  · split
    · split <;> exact sent_finishClose
    · split <;> rfl
    · rfl
    · rfl

theorem sent_shutdown : server.sent <+: (server.shutdown a).sent := by
  unfold Server.shutdown
  split
  · exact List.prefix_rfl
  · split
    · exact List.prefix_append _ _
    · exact List.prefix_rfl

theorem sent_localSocketCloseLocked (server : Server) (a : Nat) :
    server.sent <+: (server.localSocketCloseLocked a).sent := by
  unfold Server.localSocketCloseLocked
  split
  · exact List.prefix_rfl
  · split
    · simp only [sent_finishClose, List.prefix_rfl]
    · rename_i peer _
      rw [sent_finishClose]
      change _ <+: (Server.closeUnpeered _ peer).sent
      rw [sent_closeUnpeered]
      exact sent_shutdown

/-- Closing a socket takes no packet back. -/
theorem sent_close : server.sent <+: (server.close a).sent := by
  unfold Server.close
  split
  · exact List.prefix_rfl
  · split
    · split
      · exact sent_localSocketCloseLocked (server.endNotify a _) a
      · exact sent_localSocketCloseLocked server a
    all_goals
      split
      · simp only [sent_closeUnpeered, List.prefix_rfl]
      · simp only [sent_closeUnpeered, sent_clearPeer, List.prefix_rfl]

theorem sent_foldl_close (addresses : List Nat) (server : Server) :
    server.sent <+: (addresses.foldl Server.close server).sent := by
  induction addresses generalizing server with
  | nil => exact List.prefix_rfl
  | cons address addresses induction => exact sent_close.trans (induction _)

theorem sent_handleOffline (node : Node) (t : Nat) :
    node.server.sent <+: (node.handleOffline t).server.sent := by
  have closed : node.server.sent <+: (node.server.handleOffline t).sent :=
    sent_foldl_close _ (node.server.modifyTransport t fun state => { state with online := false })
  unfold Node.handleOffline Node.runTransportDisconnects Node.usbDisconnected
  split <;> exact closed

end sent

/-! ## New tokens -/

section sendAuthRequest

variable {node : Node} {random : Random} {t other : Nat}

theorem sendAuthRequest_of_made {token : List UInt8} (made : random.token = some token) :
    node.sendAuthRequest (.device true) random t =
      (node.modifyIdentity t fun identity => { identity with token }).sendPacket t
        ⟨.auth, authToken, 0, token⟩ := by
  cases random with
  | unopened => cases made
  | read bytes =>
      simp only [Random.token, Option.ite_none_right_eq_some, Option.some.injEq] at made
      obtain ⟨enough, rfl⟩ := made
      have length : (bytes.take tokenSize).length = tokenSize := by
        rw [List.length_take, Nat.min_eq_left enough]
      have stored :
          (bytes.take tokenSize ++ (node.identities t).token.drop tokenSize).take tokenSize =
            bytes.take tokenSize := by
        conv_lhs => arg 1; rw [← length]
        exact List.take_left
      simp only [Node.sendAuthRequest, adbAuthGenerateToken, length, stored, if_true]

theorem sendAuthRequest_of_unmade (unmade : random.token = none) (whole : ¬random.Short) :
    node.sendAuthRequest (.device true) random t = node := by
  cases random with
  | unopened =>
      simp [Node.sendAuthRequest, adbAuthGenerateToken, tokenSize, Node.modifyIdentity]
  | read bytes =>
      simp only [Random.Short, Nat.not_lt] at whole
      simp [Random.token, whole] at unmade

theorem quiet_sendAuthRequest (different : t ≠ other) :
    Quiet node (node.sendAuthRequest (.device true) random other) t := by
  unfold Node.sendAuthRequest
  dsimp only
  split
  · exact ⟨by simp [Node.sendPacket, Node.modifyIdentity, different], id, id⟩
  · exact ⟨by simp [Node.modifyIdentity, different], id, id⟩

theorem transports_sendAuthRequest (node : Node) (random : Random) (t : Nat) :
    (node.sendAuthRequest (.device true) random t).server.transports = node.server.transports := by
  unfold Node.sendAuthRequest
  dsimp only
  split <;> rfl

/-- The token that was made is stored and sent. -/
theorem token_of_made {before : Node} {token : List UInt8}
    (grown : before.server.sent <+: node.server.sent) (made : random.token = some token) :
    ((node.sendAuthRequest (.device true) random t).identities t).token = token ∧
      token ∈ challenges random before (node.sendAuthRequest (.device true) random t) t := by
  obtain ⟨extra, sent⟩ := grown
  rw [sendAuthRequest_of_made made]
  refine ⟨by simp [Node.sendPacket, Node.modifyIdentity], ?_⟩
  refine List.mem_map.mpr ⟨(t, ⟨.auth, authToken, 0, token⟩), List.mem_filter.mpr ⟨?_, ?_⟩, rfl⟩
  · change _ ∈ List.drop _ (node.server.sent ++ [(t, _)])
    rw [← sent, List.append_assoc, List.drop_left]
    simp
  · simpa using made

/-- A token that was not cut short is the last one that was sent, or the one from before. -/
theorem token_of_whole {before : Node} {tokens : List (List UInt8)}
    (grown : before.server.sent <+: node.server.sent) (whole : ¬random.Short)
    (known : (node.identities t).token ∈ tokens) :
    ((node.sendAuthRequest (.device true) random t).identities t).token ∈
      tokens ++ challenges random before (node.sendAuthRequest (.device true) random t) t := by
  cases made : random.token with
  | none =>
      rw [sendAuthRequest_of_unmade made whole]
      exact List.mem_append_left _ known
  | some token =>
      obtain ⟨stored, sent⟩ := token_of_made grown made
      rw [stored]
      exact List.mem_append_right _ sent

end sendAuthRequest

/-! ## The packets of the device -/

/-- The key of a packet is written to the framework. -/
def sendsKey (world : Surroundings) (node : Node) (p : Apacket) (behind : List UInt8) : Bool :=
  node.frameworkFd.isSome ∧ lastByte p behind = 0 ∧
    (ascii "PK" ++ cString (memory p behind)).length < maxPayload ∧ world.frameworkTakes

/-- The transport becomes `usb_transport` if there is none. -/
def Node.claimed (node : Node) (t : Nat) : Node :=
  { node with usbTransport := node.usbTransport.or (some t) }

section packets

variable {node : Node} {world : Surroundings} {t other : Nat} {p : Apacket} {behind : List UInt8}

theorem quiet_handleSync (message : Message) :
    Quiet node (node.handleSync (.device true) world other message) t := by
  unfold Node.handleSync
  split
  · exact .sendPacket node message
  · have reset : Quiet node
        (node.modifyTransport other fun state => { state with connectionState := .offline }) t :=
      .modifyTransport id
    exact (reset.trans (.handleOffline _ other)).trans (.sendPacket _ message)

/-- `A_CNXN` ends with a request for authentication. -/
theorem exists_handleConnect (world : Surroundings) (node : Node) (other : Nat)
    (banner : List UInt8) :
    ∃ reset : Node, node.handleConnect (.device true) world other banner =
        reset.sendAuthRequest (.device true) world.random other ∧
      (∀ t, Quiet node reset t) ∧ node.server.sent <+: reset.server.sent := by
  have parsed : ∀ node : Node, ∀ t,
      Quiet node (node.parseBanner (.device true) world other banner) t := fun node t =>
    (Quiet.modifyIdentity (token_parseBanner _ banner)).trans (.modifyTransport id)
  by_cases offline : (node.server.transports other).connectionState = .offline
  · refine ⟨node.parseBanner (.device true) world other banner, ?_, parsed node, List.prefix_rfl⟩
    simp only [Node.handleConnect, offline, if_true]
  · refine ⟨((node.modifyTransport other
      fun state => { state with connectionState := .offline }).handleOffline other).parseBanner
        (.device true) world other banner, ?_, fun t => ?_, ?_⟩
    · simp only [Node.handleConnect, offline, if_false]
    · have reset : Quiet node
          (node.modifyTransport other fun state => { state with connectionState := .offline }) t :=
        .modifyTransport id
      exact (reset.trans (.handleOffline _ other)).trans (parsed _ t)
    · exact sent_handleOffline
        (node.modifyTransport other fun state => { state with connectionState := .offline }) other

/-- What `adb_auth_confirm_key` does: it claims the confirmation for the transport if no other has,
and the key reaches the framework or not. -/
theorem confirmKey_cases :
    (∃ fd, sendsKey world node p behind ∧ node.confirmKey world other p behind =
      { node.claimed other with
        told := node.told ++ [(other, ascii "PK" ++ cString (memory p behind))] }.installAuthFde
          other fd) ∨
    (¬sendsKey world node p behind ∧ ∃ retry, node.confirmKey world other p behind =
      { node.claimed other with needsRetry := retry }) := by
  have claims : (if node.usbTransport = none then { node with usbTransport := some other }
      else node) = node.claimed other := by
    obtain ⟨_, _, usb, _⟩ := node
    cases usb <;> rfl
  unfold Node.confirmKey
  rw [claims]
  cases framework : node.frameworkFd with
  | none =>
      refine .inr ⟨by simp [sendsKey, framework], true, ?_⟩
      simp [Node.claimed, framework]
  | some fd =>
      have framework' : (node.claimed other).frameworkFd = some fd := framework
      simp only [framework']
      split
      · rename_i endless
        exact .inr ⟨by simp [sendsKey, endless], node.needsRetry, by rw [← framework']; rfl⟩
      · rename_i ends
        split
        · rename_i long
          refine .inr ⟨?_, node.needsRetry, by rw [← framework']; rfl⟩
          simp only [sendsKey, not_lt.mpr long, false_and, and_false, decide_false,
            Bool.false_eq_true, not_false_eq_true]
        · rename_i short
          split
          · rename_i taken
            refine .inl ⟨fd, ?_, rfl⟩
            simp only [sendsKey, framework, not_not.mp ends, not_le.mp short, taken]
            rfl
          · rename_i refused
            exact .inr ⟨by simp [sendsKey, refused], node.needsRetry, by rw [← framework']; rfl⟩

theorem token_installAuthFde (node : Node) (other fd t : Nat) :
    ((node.installAuthFde other fd).identities t).token = (node.identities t).token := by
  have keeps : Quiet node
      (node.modifyIdentity other fun identity => { identity with authFde := some fd }) t :=
    .modifyIdentity rfl
  exact keeps.token

theorem confirmKey_spec (world : Surroundings) (node : Node) (other : Nat) (p : Apacket)
    (behind : List UInt8) :
    (node.confirmKey world other p behind).server = node.server ∧
      (∀ t, ((node.confirmKey world other p behind).identities t).token =
        (node.identities t).token) ∧
      (node.confirmKey world other p behind).usbTransport = node.usbTransport.or (some other) := by
  obtain ⟨fd, -, sent⟩ | ⟨-, retry, unsent⟩ := confirmKey_cases
  · rw [sent]
    exact ⟨rfl, fun t => token_installAuthFde _ other fd t, rfl⟩
  · rw [unsent]
    exact ⟨rfl, fun _ => rfl, rfl⟩

theorem quiet_confirmKey (different : t ≠ other) :
    Quiet node (node.confirmKey world other p behind) t := by
  obtain ⟨server, token, usb⟩ := confirmKey_spec world node other p behind
  refine ⟨token t, fun online => by rwa [server] at online, fun same => ?_⟩
  rw [usb] at same
  cases claimed : node.usbTransport with
  | none =>
      rw [claimed] at same
      exact absurd (Option.some.inj same).symm different
  | some usb => rwa [claimed] at same

theorem quiet_adbAuthVerified {build : Build} (different : t ≠ other) :
    Quiet node (node.adbAuthVerified build world other) t :=
  ⟨rfl, fun online => by
    simpa [Node.adbAuthVerified, Node.sendConnect, Node.sendPacket, Node.handleOnline,
      Node.modifyTransport, Server.modifyTransport, Server.sendPacket, different] using online, id⟩

/-- `A_AUTH` packets leave the other transports alone, and their own too unless they hold a
signature or a key. -/
theorem quiet_handleAuth (leaves : t ≠ other ∨ (p.msg.arg0.toNat ≠ authSignature ∧
      p.msg.arg0.toNat ≠ authRsaPublicKey)) :
    Quiet node (node.handleAuth (.device true) world other p behind) t := by
  unfold Node.handleAuth
  split
  · have unauthorized : Quiet node
        (node.modifyTransport other fun state => { state with connectionState := .unauthorized })
        t := .modifyTransport id
    -- the device has neither a private key nor a public key of a user
    simp only [adbAuthNextkey, adbAuthGetUserkey, Node.sendFilled, if_true]
    exact unauthorized.trans (.modifyIdentity rfl)
  · split
    · rename_i signature
      have different := leaves.resolve_right fun other => other.1 signature
      split
      · exact (quiet_adbAuthVerified different).trans (.modifyIdentity rfl)
      · exact (Quiet.modifyIdentity rfl).trans (quiet_sendAuthRequest different)
    · split
      · rename_i key
        exact quiet_confirmKey (leaves.resolve_right fun other => other.2 key)
      · exact .refl node t

end packets

/-! ## What the observer knows -/

/-- The token of a transport is one it was sent since its last `A_CNXN` packet, and before the
first it is neither online nor waits for a confirmation. -/
structure Tracked (node : Node) (session : Option (List (List UInt8))) (t : Nat) : Prop where
  known : ∀ tokens, session = some tokens → (node.identities t).token ∈ tokens
  shut : session = none →
    (node.server.transports t).online = false ∧ node.usbTransport ≠ some t

namespace Tracked

variable {before after node : Node} {session : Option (List (List UInt8))}
  {extra tokens : List (List UInt8)} {t : Nat}

theorem of_mem (known : (after.identities t).token ∈ tokens) : Tracked after (some tokens) t := by
  refine ⟨fun other same => ?_, fun none => (nomatch none)⟩
  cases same
  exact known

theorem quiet (tracked : Tracked before session t) (quiet : Quiet before after t) :
    Tracked after (session.map (· ++ extra)) t := by
  cases session with
  | none =>
      obtain ⟨offline, usb⟩ := tracked.shut rfl
      refine ⟨fun tokens same => (nomatch same), fun _ => ⟨?_, fun same => usb (quiet.usb same)⟩⟩
      by_contra online
      exact absurd (quiet.online (by simpa using online)) (by simp [offline])
  | some tokens =>
      refine of_mem ?_
      rw [quiet.token]
      exact List.mem_append_left _ (tracked.known tokens rfl)

/-- A transport that has sent `A_CNXN` may come online as long as it keeps its token. -/
theorem opened (tracked : Tracked before session t) (some : session ≠ none)
    (token : (after.identities t).token = (before.identities t).token) :
    Tracked after (session.map (· ++ extra)) t := by
  obtain ⟨tokens, rfl⟩ := Option.ne_none_iff_exists'.mp some
  refine of_mem ?_
  rw [token]
  exact List.mem_append_left _ (tracked.known tokens rfl)

/-- A transport that has sent `A_CNXN` is sent a new token. -/
theorem renewed (tracked : Tracked before session t) (some : session ≠ none)
    (token : (node.identities t).token = (before.identities t).token)
    (grown : before.server.sent <+: node.server.sent) {random : Random} (whole : ¬random.Short) :
    Tracked (node.sendAuthRequest (.device true) random t)
      (session.map
        (· ++ challenges random before (node.sendAuthRequest (.device true) random t) t)) t := by
  obtain ⟨tokens, rfl⟩ := Option.ne_none_iff_exists'.mp some
  refine of_mem (token_of_whole grown whole ?_)
  rw [token]
  exact tracked.known tokens rfl

end Tracked

/-! ## Steps of the device -/

section steps

variable {node : Node} {sessions : Sessions} {t : Nat}

theorem isConnect_packet {other : Nat} {p : Apacket} {behind : List UInt8} :
    (Step.packet other p behind).isConnect t = true ↔
      other = t ∧ commandOf p.msg.command = .cnxn := by
  simp [Step.isConnect]

theorem isAuth_packet {other type : Nat} {p : Apacket} {behind : List UInt8} :
    (Step.packet other p behind).isAuth t type = true ↔
      other = t ∧ commandOf p.msg.command = .auth ∧ p.msg.arg0.toNat = type := by
  simp [Step.isAuth]

/-- A step that leaves a transport alone and is not its `A_CNXN` packet. -/
theorem Tracked.next {after : Node} {label : Step × Surroundings}
    (tracked : Tracked node (sessions t) t) (quiet : Quiet node after t)
    (connect : label.1.isConnect t = false) :
    Tracked after (sessions.next node label after t) t := by
  rw [Sessions.next, connect]
  exact tracked.quiet quiet

theorem handlePacket_of_cnxn {build : Build} {world : Surroundings} {other : Nat} {p : Apacket}
    {behind : List UInt8} (cnxn : commandOf p.msg.command = .cnxn) :
    node.handlePacket build world other p behind =
      (node.noted world other p.frame.message).handleConnect build world other
        (memory p behind) := by
  have named : p.frame.message.command = .cnxn := cnxn
  simp only [Node.handlePacket, named]

theorem handlePacket_of_auth {build : Build} {world : Surroundings} {other : Nat} {p : Apacket}
    {behind : List UInt8} (auth : commandOf p.msg.command = .auth) :
    node.handlePacket build world other p behind =
      (node.noted world other p.frame.message).handleAuth build world other p behind := by
  have named : p.frame.message.command = .auth := auth
  simp only [Node.handlePacket, named]

/-- Packets that are neither about the connection nor about authentication. -/
theorem quiet_handlePacket {world : Surroundings} {other : Nat} {p : Apacket}
    {behind : List UInt8} (cnxn : commandOf p.msg.command ≠ .cnxn)
    (auth : commandOf p.msg.command ≠ .auth) :
    Quiet node (node.handlePacket (.device true) world other p behind) t := by
  have named : p.frame.message.command = commandOf p.msg.command := rfl
  have noted : Quiet node (node.noted world other p.frame.message) t := ⟨rfl, id, id⟩
  unfold Node.handlePacket
  cases command : commandOf p.msg.command with
  | cnxn => exact absurd command cnxn
  | auth => exact absurd command auth
  | sync =>
      simp only [named, command]
      exact noted.trans (quiet_handleSync _)
  | «open» =>
      simp only [named, command]
      refine noted.trans ?_
      unfold Node.handleOpen
      split
      · have opened : Quiet (node.noted world other p.frame.message)
            { node.noted world other p.frame.message with
              server := (node.noted world other p.frame.message).server.handleOpen other
                p.frame.message { world.outside with
                  serviceFound := world.findsService (serviceName p behind) } } t :=
          .server Server.statuses_handleOpen
        exact ⟨opened.token, opened.online, opened.usb⟩
      · exact .refl _ t
  | okay =>
      simp only [named, command]
      exact noted.trans (.server Server.statuses_handleOkay)
  | clse =>
      simp only [named, command]
      exact noted.trans (.server Server.statuses_handleClose)
  | wrte =>
      simp only [named, command]
      exact noted.trans (.server Server.statuses_handleWrite)
  | other =>
      simp only [named, command]
      exact noted

/-- A signature or a key of a transport that has sent `A_CNXN`. -/
theorem tracked_handleAuth {world : Surroundings} {p : Apacket} {behind : List UInt8}
    (tracked : Tracked node (sessions t) t) (some : sessions t ≠ none)
    (whole : p.msg.arg0.toNat = authSignature → ¬world.random.Short)
    (holds : p.msg.arg0.toNat = authSignature ∨ p.msg.arg0.toNat = authRsaPublicKey) :
    Tracked (node.handleAuth (.device true) world t p behind)
      ((sessions t).map (· ++ challenges world.random node
        (node.handleAuth (.device true) world t p behind) t)) t := by
  rcases holds with signature | key
  · have notToken : p.msg.arg0.toNat ≠ authToken := by rw [signature]; decide
    unfold Node.handleAuth
    rw [if_neg notToken, if_pos signature]
    split
    · refine tracked.opened some ?_
      simp [Node.modifyIdentity, Node.adbAuthVerified, Node.sendConnect, Node.sendPacket,
        Node.handleOnline, Node.modifyTransport]
    · refine tracked.renewed some ?_ ?_ (whole signature)
      · simp [Node.modifyIdentity]
      · exact List.prefix_rfl
  · have notToken : p.msg.arg0.toNat ≠ authToken := by rw [key]; decide
    have notSignature : p.msg.arg0.toNat ≠ authSignature := by rw [key]; decide
    unfold Node.handleAuth
    rw [if_neg notToken, if_neg notSignature, if_pos key]
    exact tracked.opened some ((confirmKey_spec world node t p behind).2.1 t)

theorem tracked_packet {world : Surroundings} {other : Nat} {p : Apacket} {behind : List UInt8}
    (tracked : Tracked node (sessions t) t)
    (orderly : Orderly (node, sessions) (.packet other p behind, world)) :
    Tracked (node.handlePacket (.device true) world other p behind)
      (sessions.next node (.packet other p behind, world)
        (node.handlePacket (.device true) world other p behind) t) t := by
  have noted : Quiet node (node.noted world other p.frame.message) t := ⟨rfl, id, id⟩
  by_cases cnxn : commandOf p.msg.command = .cnxn
  · rw [handlePacket_of_cnxn cnxn]
    obtain ⟨reset, requests, quiet, grown⟩ :=
      exists_handleConnect world (node.noted world other p.frame.message) other (memory p behind)
    rw [requests]
    by_cases same : other = t
    · subst same
      have connect : (Step.packet other p behind).isConnect other = true :=
        isConnect_packet.mpr ⟨rfl, cnxn⟩
      have grown' : node.server.sent <+: reset.server.sent := grown
      obtain ⟨token, made⟩ := Option.ne_none_iff_exists'.mp (orderly.made other connect)
      obtain ⟨stored, sent⟩ := token_of_made grown' made
      rw [Sessions.next, if_pos connect]
      exact .of_mem (stored ▸ sent)
    · refine tracked.next ?_ (by simp [Step.isConnect, same])
      exact noted.trans ((quiet t).trans (quiet_sendAuthRequest (Ne.symm same)))
  · by_cases auth : commandOf p.msg.command = .auth
    · rw [handlePacket_of_auth auth]
      by_cases leaves : t ≠ other ∨ (p.msg.arg0.toNat ≠ authSignature ∧
          p.msg.arg0.toNat ≠ authRsaPublicKey)
      · exact tracked.next (noted.trans (quiet_handleAuth leaves)) (by simp [Step.isConnect, cnxn])
      · obtain ⟨same, holds⟩ := not_or.mp leaves
        have same : t = other := not_not.mp same
        subst same
        have holds : p.msg.arg0.toNat = authSignature ∨ p.msg.arg0.toNat = authRsaPublicKey := by
          by_contra neither
          exact holds (not_or.mp neither)
        have opened : sessions t ≠ none := by
          rcases holds with signature | key
          · exact orderly.signature t (isAuth_packet.mpr ⟨rfl, auth, signature⟩)
          · exact orderly.key t (isAuth_packet.mpr ⟨rfl, auth, key⟩)
        have whole : p.msg.arg0.toNat = authSignature → ¬world.random.Short :=
          fun signature => orderly.complete (by simp [Step.renews, auth, signature])
        have tracked' : Tracked (node.noted world t p.frame.message) (sessions t) t :=
          ⟨tracked.known, tracked.shut⟩
        rw [Sessions.next, if_neg (by simp [Step.isConnect, cnxn])]
        exact tracked_handleAuth tracked' opened whole holds
    · exact tracked.next (quiet_handlePacket cnxn auth) (by simp [Step.isConnect, cnxn])

/-- A framework is accepted: the transport whose key is to be confirmed may be sent a token. -/
theorem tracked_framework {world : Surroundings} {fd : Nat} (tracked : Tracked node (sessions t) t)
    (whole : ¬world.random.Short) :
    Tracked (node.adbAuthListener (.device true) world fd)
      (sessions.next node (.framework fd, world)
        (node.adbAuthListener (.device true) world fd) t) t := by
  have accepted : Quiet node { node with frameworkFd := some fd } t := ⟨rfl, id, id⟩
  unfold Node.adbAuthListener
  dsimp only
  split
  · split
    · exact tracked.next ⟨rfl, id, id⟩ rfl
    · rename_i usb claimed
      by_cases same : usb = t
      · subst same
        rw [Sessions.next, if_neg (by simp [Step.isConnect])]
        refine tracked.renewed ?_ ?_ ?_ whole
        · exact fun none => (tracked.shut none).2 claimed
        · rfl
        · exact List.prefix_rfl
      · have retried : Quiet node { node with frameworkFd := some fd, needsRetry := false } t :=
          ⟨rfl, id, id⟩
        exact tracked.next (retried.trans (quiet_sendAuthRequest (Ne.symm same))) rfl
  · exact tracked.next accepted rfl

theorem quiet_removeAuthFde (other : Nat) : Quiet node (node.removeAuthFde other) t := by
  unfold Node.removeAuthFde
  split
  · exact .refl node t
  · split
    · have removed : Quiet node
          (node.modifyIdentity other fun identity => { identity with authFde := none }) t :=
        .modifyIdentity rfl
      exact ⟨removed.token, removed.online, removed.usb⟩
    · exact ⟨rfl, id, id⟩

theorem tracked_reply {world : Surroundings} {fd : Nat} {response : Option (List UInt8)}
    (tracked : Tracked node (sessions t) t) :
    Tracked (node.adbAuthEvent (.device true) world response)
      (sessions.next node (.reply fd response, world)
        (node.adbAuthEvent (.device true) world response) t) t := by
  unfold Node.adbAuthEvent
  split
  · split
    · exact tracked.next ⟨rfl, id, id⟩ rfl
    · rename_i usb _
      have removed : Quiet node (node.removeAuthFde usb) t := quiet_removeAuthFde usb
      exact tracked.next ⟨removed.token, removed.online, removed.usb⟩ rfl
  · split
    · split
      · exact tracked.next (.refl node t) rfl
      · rename_i usb claimed
        by_cases same : usb = t
        · subst same
          rw [Sessions.next, if_neg (by simp [Step.isConnect])]
          exact tracked.opened (fun none => (tracked.shut none).2 claimed) rfl
        · exact tracked.next (quiet_adbAuthVerified (Ne.symm same)) rfl
    · exact tracked.next (.refl node t) rfl

theorem tracked_step {label : Step × Surroundings} {after : Node × Sessions}
    (tracked : Tracked node (sessions t) t) (orderly : Orderly (node, sessions) label)
    (step : DeviceStep (node, sessions) label after) : Tracked after.1 (after.2 t) t := by
  obtain ⟨step, world⟩ := label
  obtain ⟨node', sessions'⟩ := after
  obtain ⟨⟨-, allowed, applied⟩, noted⟩ := step
  simp only at applied noted
  subst noted
  subst applied
  dsimp only
  cases step with
  | packet other p behind => exact tracked_packet tracked orderly
  | sockets step =>
      refine tracked.next ?_ ?_
      · refine .server (Sockets.statuses_apply ?_)
        rintro other message rfl
        exact allowed.1
      · rfl
  | disconnect other =>
      refine tracked.next ?_ ?_
      · exact .runTransportDisconnects node other
      · rfl
  | framework fd => exact tracked_framework tracked (orderly.complete rfl)
  | reply fd response => exact tracked_reply tracked

end steps

/-! ## Freshness -/

theorem tracked_trace {labels : List (Step × Surroundings)} {state : Node × Sessions}
    (trace : Trace (Guarded DeviceStep Orderly) deviceStart labels state) (t : Nat) :
    Tracked state.1 (state.2 t) t := by
  refine trace.invariant (fun state => Tracked state.1 (state.2 t) t) ?_ ?_
  · exact ⟨fun _ same => (nomatch same), fun _ => ⟨rfl, fun same => (nomatch same)⟩⟩
  · rintro before label after tracked ⟨orderly, step⟩
    exact tracked_step tracked orderly step

/-- A signature that brings a transport online is verified against the token it has stored. -/
theorem verified_of_online {node : Node} {world : Surroundings} {t : Nat} {p : Apacket}
    {behind : List UInt8} (auth : commandOf p.msg.command = .auth)
    (signature : p.msg.arg0.toNat = authSignature)
    (offline : (node.server.transports t).online = false)
    (online : ((node.handlePacket (.device true) world t p behind).server.transports t).online =
      true) :
    adbAuthVerify world (node.identities t).token p.payload (.device true) := by
  have notToken : p.msg.arg0.toNat ≠ authToken := by rw [signature]; decide
  rw [handlePacket_of_auth auth, Node.handleAuth, if_neg notToken, if_pos signature] at online
  by_contra unverified
  rw [if_neg (by exact unverified), transports_sendAuthRequest] at online
  exact Bool.noConfusion (offline.symm.trans online)

/-- As long as signatures and keys come after `A_CNXN`, a token is made for every `A_CNXN` packet,
and none that replaces another is cut short, a transport comes online by signatures only of tokens
that were made for it and sent to it after its last `A_CNXN` packet, and not before its first. -/
theorem fresh_of_orderly {labels : List (Step × Surroundings)} {state : Node × Sessions}
    (trace : Trace (Guarded DeviceStep Orderly) deviceStart labels state) :
    (∀ t, state.2 t = none → (state.1.server.transports t).online = false) ∧
      ∀ label after, Guarded DeviceStep Orderly state label after → Fresh state label after := by
  refine ⟨fun t none => ((tracked_trace trace t).shut none).1, ?_⟩
  rintro ⟨step, world⟩ after ⟨orderly, step, -⟩ t p behind rfl isAuth offline online
  obtain ⟨-, auth, signature⟩ := isAuth_packet.mp isAuth
  obtain ⟨tokens, session⟩ := Option.ne_none_iff_exists'.mp (orderly.signature t isAuth)
  rw [step.2.2] at online
  exact ⟨tokens, _, session, (tracked_trace trace t).known tokens session,
    verified_of_online auth signature offline online⟩

/-- The device and the observer after a step. -/
def deviceApply (state : Node × Sessions) (label : Step × Surroundings) : Node × Sessions :=
  let after := label.1.apply (.device true) label.2 state.1
  (after, state.2.next state.1 label after)

theorem deviceStep_apply {state : Node × Sessions} {label : Step × Surroundings}
    (running : state.1.halted = false) (allowed : label.1.Allowed (.device true) state.1) :
    DeviceStep state label (deviceApply state label) :=
  ⟨⟨running, allowed, rfl⟩, rfl⟩

/-- An `A_AUTH` packet with the given data. -/
def authPacket (type : UInt32) (bytes : List UInt8) : Apacket :=
  packetOf ⟨0x48545541, type, 0, UInt32.ofNat bytes.length, Wire.checksum bytes,
    0x48545541 ^^^ 0xffffffff⟩ bytes

/-- Stands for the signature of a token by the key the device knows. -/
def signatureOf (token : List UInt8) : List UInt8 := token ++ List.replicate (256 - tokenSize) 7

/-- A device that knows one key, with the given randomness. -/
def keyed (random : Random) : Surroundings where
  random := random
  publicKeys := [[7]]
  rsaVerify := fun _ sig token => sig = signatureOf token

/-- The host connects. -/
def hello : Step × Surroundings :=
  (.packet 0 (connectPacket (ascii "host::" ++ [0])) [], keyed (.read (List.replicate tokenSize 5)))

/-- The host sends the signature of a token. -/
def signed (token : List UInt8) : Step × Surroundings :=
  (.packet 0 (authPacket 2 (signatureOf token)) [], keyed .unopened)

theorem fresh_of_orderly_hello :
    let before := deviceApply deviceStart hello
    let label := signed (List.replicate tokenSize 5)
    ((deviceApply before label).1.server.transports 0).online = true ∧
      Fresh before label (deviceApply before label) := by
  intro before label
  have connects : commandOf (connectPacket (ascii "host::" ++ [0])).msg.command = .cnxn := by
    decide
  have trace : Trace (Guarded DeviceStep Orderly) deviceStart [hello] before := by
    refine .snoc .nil ⟨⟨?_, ?_, ?_, ?_⟩, deviceStep_apply rfl ⟨?_, ?_⟩⟩
    · simp [hello, Step.isAuth, connects]
    · simp [hello, Step.isAuth, connects]
    · intro t _
      decide
    · simp [hello, Step.renews, connects]
    · with_unfolding_all decide
    · with_unfolding_all decide
  have guarded : Guarded DeviceStep Orderly before label (deviceApply before label) := by
    refine ⟨⟨?_, ?_, ?_, ?_⟩, deviceStep_apply (by decide) ⟨?_, ?_⟩⟩
    · intro t isAuth
      obtain ⟨rfl, -⟩ := isAuth_packet.mp isAuth
      decide
    · intro t isAuth
      obtain ⟨-, -, key⟩ := isAuth_packet.mp isAuth
      exact absurd key (by decide)
    · intro t isConnect
      obtain ⟨-, cnxn⟩ := isConnect_packet.mp isConnect
      exact absurd cnxn (by decide)
    · exact fun _ short => short
    · decide +kernel
    · decide +kernel
  exact ⟨by decide +kernel, (fresh_of_orderly trace).2 _ _ guarded⟩

/-- Before any `A_CNXN` packet, a signature of the token that is all zero brings a transport
online. -/
theorem freshness_fails_before_connect :
    let label := signed (List.replicate tokenSize 0)
    ((deviceApply deviceStart label).1.server.transports 0).online = true ∧
      (deviceApply deviceStart label).2 0 = none ∧
      ¬∀ labels state, Trace DeviceStep deviceStart labels state →
        ∀ label after, DeviceStep state label after → Fresh state label after := by
  intro label
  have online : ((deviceApply deviceStart label).1.server.transports 0).online = true := by
    decide +kernel
  refine ⟨online, by decide, fun fresh => ?_⟩
  have step : DeviceStep deviceStart label (deviceApply deviceStart label) :=
    deviceStep_apply rfl ⟨by decide +kernel, by decide +kernel⟩
  obtain ⟨tokens, token, session, -⟩ :=
    fresh [] deviceStart .nil label _ step 0 _ _ rfl (by decide) rfl online
  exact nomatch session

end Handler
end AdbWide
