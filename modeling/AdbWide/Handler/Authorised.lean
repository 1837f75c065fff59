import AdbWide.Handler.Confirmation

/-!
# Services of a device that requires authentication

`A_OPEN` is the packet by which the other side gets a service.  In every run of the device the
transport that gets one has been authorised before, by a signature or by the framework, and has
been online ever since.
-/

namespace AdbWide
namespace Handler

open Sockets (Server)
open Sockets.Server (ascii authToken)
open Wire (Apacket commandOf checkHeader checkData)

/-- A step by which a transport is authorised: a signature of the token it has stored by a key the
device knows, or `OK` from the framework for the transport whose key is to be confirmed. -/
inductive Authorises (t : Nat) : Node → Step × Surroundings → Node → Prop where
  | signature {before after : Node} {p : Apacket} {behind : List UInt8} {world : Surroundings} :
      (Step.packet t p behind).isAuth t authSignature →
      adbAuthVerify world (before.identities t).token p.payload (.device true) →
      Authorises t before (.packet t p behind, world) after
  | confirmation {before after : Node} {fd : Nat} {world : Surroundings} :
      before.usbTransport = some t →
      Authorises t before (.reply fd (some (ascii "OK")), world) after

/-- A step by which a transport offers its key for confirmation. -/
def OffersKey (t : Nat) (_ : Node) (label : Step × Surroundings) (_ : Node) : Prop :=
  label.1.isAuth t authRsaPublicKey

section Steps

variable {node : Node} {world : Surroundings} {t other : Nat} {p : Apacket} {behind : List UInt8}

/-- `A_CNXN` brings no transport online. -/
theorem online_handleConnect {banner : List UInt8}
    (online : ((node.handleConnect (.device true) world other banner).server.transports t).online =
      true) : (node.server.transports t).online = true := by
  obtain ⟨reset, requests, quiet, -⟩ := exists_handleConnect world node other banner
  rw [requests, transports_sendAuthRequest] at online
  exact (quiet t).online online

/-- A packet brings a transport online only if it is about authentication. -/
theorem auth_of_online (offline : ¬(node.server.transports t).online = true)
    (online : ((node.handlePacket (.device true) world other p behind).server.transports t).online =
      true) : commandOf p.msg.command = .auth := by
  by_contra not_auth
  apply offline
  by_cases cnxn : commandOf p.msg.command = .cnxn
  · rw [handlePacket_of_cnxn cnxn] at online
    have noted : Quiet node (node.noted world other p.frame.message) t := ⟨rfl, id, id⟩
    exact noted.online (online_handleConnect online)
  · have quiet : Quiet node (node.handlePacket (.device true) world other p behind) t :=
      quiet_handlePacket cnxn not_auth
    exact quiet.online online

/-- A packet about authentication brings a transport online only by a signature of its own. -/
theorem isAuth_of_online (auth : commandOf p.msg.command = .auth)
    (offline : ¬(node.server.transports t).online = true)
    (online : ((node.handlePacket (.device true) world other p behind).server.transports t).online =
      true) : (Step.packet other p behind).isAuth t authSignature = true := by
  have noted : Quiet node (node.noted world other p.frame.message) t := ⟨rfl, id, id⟩
  rw [handlePacket_of_auth auth] at online
  by_contra not_signature
  apply offline
  apply noted.online
  by_cases key : t = other ∧ p.msg.arg0.toNat = authRsaPublicKey
  · obtain ⟨rfl, key⟩ := key
    have not_token : p.msg.arg0.toNat ≠ authToken := by rw [key]; decide
    have not_signature : p.msg.arg0.toNat ≠ authSignature := by rw [key]; decide
    rw [Node.handleAuth, if_neg not_token, if_neg not_signature, if_pos key,
      Node.adbAuthConfirmKey, (confirmKey_spec _ _ _ _ _).1] at online
    exact online
  · have leaves : t ≠ other ∨ (p.msg.arg0.toNat ≠ authSignature ∧
        p.msg.arg0.toNat ≠ authRsaPublicKey) := by
      rw [isAuth_packet] at not_signature
      by_cases own : t = other
      · exact .inr ⟨fun signature => not_signature ⟨own.symm, auth, signature⟩,
          fun offers => key ⟨own, offers⟩⟩
      · exact .inl own
    exact (quiet_handleAuth leaves).online online

/-- A transport comes online by being authorised. -/
theorem authorises_of_online {before after : Node} {label : Step × Surroundings}
    (step : NodeStep (.device true) before label after)
    (offline : ¬(before.server.transports t).online = true)
    (online : (after.server.transports t).online = true) : Authorises t before label after := by
  obtain ⟨step', world⟩ := label
  obtain ⟨-, allowed, rfl⟩ := step
  cases step' with
  | packet other p behind =>
      have auth := auth_of_online offline online
      have own := isAuth_of_online auth offline online
      obtain ⟨rfl, -, signature⟩ := isAuth_packet.mp own
      exact .signature own (verified_of_online auth signature (by simpa using offline) online)
  | sockets step' =>
      have same : (step'.apply world.outside before.server).statuses = before.server.statuses := by
        refine Sockets.statuses_apply ?_
        rintro other message rfl
        exact allowed.1
      exact absurd ((Quiet.server same).online online) offline
  | disconnect other =>
      exact absurd ((Quiet.runTransportDisconnects before other).online online) offline
  | framework fd =>
      have same : (before.adbAuthListener (.device true) world fd).server.transports =
          before.server.transports := by
        unfold Node.adbAuthListener
        dsimp only
        split
        · split
          · rfl
          · exact transports_sendAuthRequest _ _ _
        · rfl
      rw [Step.apply, same] at online
      exact absurd online offline
  | reply fd response =>
      by_contra not_confirmed
      apply offline
      rw [Step.apply, Node.adbAuthEvent.eq_def] at online
      split at online
      · split at online
        · exact online
        · exact (quiet_removeAuthFde _).online online
      · split at online
        case isTrue ok =>
          subst ok
          split at online
          · exact online
          · rename_i usb claimed
            by_cases same : usb = t
            · exact absurd (.confirmation (same ▸ claimed)) not_confirmed
            · exact (quiet_adbAuthVerified (Ne.symm same)).online online
        case isFalse => exact online

/-- A transport becomes the one whose key is to be confirmed by offering its key. -/
theorem offersKey_of_usb {before after : Node} {label : Step × Surroundings}
    (step : NodeStep (.device true) before label after)
    (free : ¬before.usbTransport = some t) (claimed : after.usbTransport = some t) :
    OffersKey t before label after := by
  obtain ⟨step', world⟩ := label
  obtain ⟨-, -, rfl⟩ := step
  cases step' with
  | packet other p behind =>
      by_cases key : commandOf p.msg.command = .auth ∧ p.msg.arg0.toNat = authRsaPublicKey
      · obtain ⟨auth, key⟩ := key
        have not_token : p.msg.arg0.toNat ≠ authToken := by rw [key]; decide
        have not_signature : p.msg.arg0.toNat ≠ authSignature := by rw [key]; decide
        rw [Step.apply, handlePacket_of_auth auth, Node.handleAuth, if_neg not_token,
          if_neg not_signature, if_pos key, Node.adbAuthConfirmKey,
          (confirmKey_spec _ _ _ _ _).2.2] at claimed
        have claimed' : before.usbTransport.or (some other) = some t := claimed
        cases earlier : before.usbTransport with
        | none =>
            rw [earlier, Option.none_or] at claimed'
            exact isAuth_packet.mpr ⟨Option.some.inj claimed', auth, key⟩
        | some usb =>
            rw [earlier, Option.some_or] at claimed'
            exact absurd (earlier.trans claimed') free
      · exact absurd ((Calm.handlePacket before other (not_and_or.mp key)).usb t claimed) free
  | sockets => exact absurd claimed free
  | disconnect other =>
      exact absurd ((Calm.runTransportDisconnects before other).usb t claimed) free
  | framework fd => exact absurd ((Calm.adbAuthListener before fd).usb t claimed) free
  | reply fd response => exact absurd ((Calm.adbAuthEvent before response).usb t claimed) free

end Steps

/-! ## Services -/

section Services

variable {node : Node} {build : Build} {world : Surroundings} {t : Nat} {p : Apacket}
  {behind : List UInt8}

theorem services_sendAuthRequest (random : Random) :
    (node.sendAuthRequest build random t).services = node.services := by
  unfold Node.sendAuthRequest
  dsimp only
  split <;> rfl

theorem services_runTransportDisconnects :
    (node.runTransportDisconnects t).services = node.services := by
  unfold Node.runTransportDisconnects Node.usbDisconnected
  split <;> rfl

theorem services_parseBanner (banner : List UInt8) :
    (node.parseBanner build world t banner).services = node.services := by
  cases build <;> rfl

theorem services_handleConnect (banner : List UInt8) :
    (node.handleConnect build world t banner).services = node.services := by
  have reset : (if (node.server.transports t).connectionState = .offline then node
      else (node.modifyTransport t
        fun state => { state with connectionState := .offline }).handleOffline t).services =
      node.services := by
    split
    · rfl
    · exact services_runTransportDisconnects
  unfold Node.handleConnect
  rcases build with _ | _ | _
  · exact (services_parseBanner banner).trans reset
  · exact (services_parseBanner banner).trans reset
  · exact (services_sendAuthRequest _).trans ((services_parseBanner banner).trans reset)

theorem services_handleAuth :
    (node.handleAuth build world t p behind).services = node.services := by
  have filled : ∀ (node : Node) (type : Nat) (data : List UInt8),
      (node.sendFilled t type data).services = node.services := by
    intro node type data
    unfold Node.sendFilled
    split <;> rfl
  unfold Node.handleAuth
  split
  · dsimp only
    split <;> exact filled _ _ _
  · split
    · split
      · rfl
      · exact services_sendAuthRequest _
    · split
      · cases build with
        | host => rfl
        | device enabled =>
            rw [Node.adbAuthConfirmKey]
            obtain ⟨fd, -, confirmed⟩ | ⟨-, retry, confirmed⟩ :=
              @confirmKey_cases node world t p behind
            · rw [confirmed]
              rfl
            · rw [confirmed]
              rfl
      · rfl

/-- A packet opens a service only if it is `A_OPEN` and its transport is online. -/
theorem services_handlePacket :
    (node.handlePacket build world t p behind).services = node.services ∨
      commandOf p.msg.command = .open ∧ (node.server.transports t).online = true ∧
        (node.handlePacket build world t p behind).services =
          node.services ++ [serviceName p behind] := by
  have named : p.frame.message.command = commandOf p.msg.command := rfl
  unfold Node.handlePacket
  cases command : commandOf p.msg.command with
  | sync =>
      left
      simp only [named, command]
      unfold Node.handleSync
      split
      · cases build <;> rfl
      · exact services_runTransportDisconnects
  | cnxn =>
      left
      simp only [named, command]
      exact services_handleConnect _
  | auth =>
      left
      simp only [named, command]
      exact services_handleAuth
  | «open» =>
      simp only [named, command]
      unfold Node.handleOpen
      split
      case isTrue accepted => exact .inr ⟨trivial, accepted.1, rfl⟩
      case isFalse => exact .inl rfl
  | okay | clse | wrte | other =>
      left
      simp only [named, command]
      rfl

/-- A step opens a service only for a transport that is online. -/
theorem online_of_services {before after : Node} {label : Step × Surroundings}
    (step : NodeStep build before label after) (opens : after.services ≠ before.services) :
    ∃ t p behind, label.1 = .packet t p behind ∧ commandOf p.msg.command = .open ∧
      after.services = before.services ++ [serviceName p behind] ∧
        (before.server.transports t).online = true := by
  obtain ⟨step', world⟩ := label
  obtain ⟨-, -, rfl⟩ := step
  cases step' with
  | packet t p behind =>
      rcases services_handlePacket with same | ⟨command, online, more⟩
      · exact absurd same opens
      · exact ⟨t, p, behind, rfl, command, more, online⟩
  | sockets => exact absurd rfl opens
  | disconnect t => exact absurd services_runTransportDisconnects opens
  | framework fd =>
      refine absurd ?_ opens
      simp only [Step.apply, Node.adbAuthListener]
      split
      · split
        · rfl
        · exact services_sendAuthRequest _
      · rfl
  | reply fd response =>
      have removed : ∀ usb, (before.removeAuthFde usb).services = before.services := by
        intro usb
        unfold Node.removeAuthFde
        split
        · rfl
        · split <;> rfl
      refine absurd ?_ opens
      simp only [Step.apply, Node.adbAuthEvent]
      split
      · split
        · rfl
        · exact removed _
      · split
        · split <;> rfl
        · rfl

/-- In every run of a device that requires authentication, a service is opened only by `A_OPEN` of
a transport that was authorised before and has been online ever since, and a transport whose key
the framework is asked about has offered a key before and has waited ever since. -/
theorem authorised_since {labels : List (Step × Surroundings)} {before after : Node}
    {label : Step × Surroundings}
    (trace : Trace (NodeStep (.device true)) .start labels before)
    (step : NodeStep (.device true) before label after) :
    (after.services ≠ before.services → ∃ t p behind, label.1 = .packet t p behind ∧
      commandOf p.msg.command = .open ∧
        after.services = before.services ++ [serviceName p behind] ∧
          Since (NodeStep (.device true)) (Authorises t)
            (fun node => (node.server.transports t).online = true) .start labels before) ∧
      ∀ t, before.usbTransport = some t →
        Since (NodeStep (.device true)) (OffersKey t) (·.usbTransport = some t) .start labels
          before := by
  constructor
  · intro opens
    obtain ⟨t, p, behind, packet, command, more, online⟩ := online_of_services step opens
    refine ⟨t, p, behind, packet, command, more, ?_⟩
    exact trace.since nofun (fun _ _ _ => authorises_of_online) online
  · intro t claimed
    exact trace.since nofun (fun _ _ _ => offersKey_of_usb) claimed

/-- The host opens a shell. -/
def opensShell : Step × Surroundings :=
  (.packet 0 (packetOf ⟨0x4e45504f, 1, 0, 7, Wire.checksum (ascii "shell:" ++ [0]),
    0x4e45504f ^^^ 0xffffffff⟩ (ascii "shell:" ++ [0])) [], keyed .unopened)

/-- The host connects, signs the token it is sent, and opens a shell. -/
theorem authorised_since_shell :
    let connected := hello.1.apply (.device true) hello.2 .start
    let label := signed (List.replicate tokenSize 5)
    Since (NodeStep (.device true)) (Authorises 0)
      (fun node => (node.server.transports 0).online = true) .start [hello, label]
      (label.1.apply (.device true) label.2 connected) := by
  intro connected label
  have connects : NodeStep (.device true) .start hello connected :=
    ⟨rfl, ⟨by with_unfolding_all decide, by with_unfolding_all decide⟩, rfl⟩
  have signs : NodeStep (.device true) connected label
      (label.1.apply (.device true) label.2 connected) :=
    ⟨by decide +kernel, ⟨by decide +kernel, by decide +kernel⟩, rfl⟩
  have opens : NodeStep (.device true) (label.1.apply (.device true) label.2 connected) opensShell
      (opensShell.1.apply (.device true) opensShell.2
        (label.1.apply (.device true) label.2 connected)) :=
    ⟨by decide +kernel, ⟨by decide +kernel, by decide +kernel⟩, rfl⟩
  obtain ⟨t, p, behind, packet, -, -, since⟩ :=
    (authorised_since (.snoc (.snoc .nil connects) signs) opens).1 (by decide +kernel)
  obtain ⟨rfl, -, -⟩ := Step.packet.inj packet
  exact since

end Services

end Handler
end AdbWide
