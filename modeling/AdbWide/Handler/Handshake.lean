import AdbWide.Handler.Hello

/-!
# The server and a device

The server on the host and the daemon on the device take their steps in any order.  What one of
them sends on the transport between them reaches the other in the order it was sent, unless it is
lost.  The other transports of both are left to do anything.

The hello of the device comes only after the device has authorised the host, and what the server
shows of the device is what was in the hello.
-/

namespace AdbWide
namespace Handler

open Sockets (Server Message Consistent maxPayload)
open Sockets.Server (ascii cString authToken aVersion)
open Wire (Apacket checkHeader checkData commandOf)

/-- What the two programs are given. -/
structure Setting where
  /-- The private keys of the host. -/
  keyList : List Nat
  rsaSign : Nat → List UInt8 → List UInt8
  userKeyFile : Option (List UInt8)
  /-- The keys the device knows. -/
  publicKeys : List (List UInt8)
  rsaVerify : List UInt8 → List UInt8 → List UInt8 → Bool
  /-- What the device says of itself. -/
  type : BannerType
  property : String → List UInt8
  valid : ∀ name ∈ cnxnProps, PropertyValue (property name)

namespace Setting

variable {setting : Setting} {world : Surroundings}

/-- The surroundings of the host. -/
structure Host (setting : Setting) (world : Surroundings) : Prop where
  keyList : world.keyList = setting.keyList
  rsaSign : world.rsaSign = setting.rsaSign
  userKeyFile : world.userKeyFile = setting.userKeyFile

/-- The surroundings of the device. -/
structure Device (setting : Setting) (world : Surroundings) : Prop where
  publicKeys : world.publicKeys = setting.publicKeys
  rsaVerify : world.rsaVerify = setting.rsaVerify
  deviceBanner : world.deviceBanner = setting.type.text
  property : world.property = setting.property

/-- The banner of the device. -/
def banner (setting : Setting) : List UInt8 :=
  fillConnectData { property := setting.property, deviceBanner := setting.type.text } (.device true)

/-- The hello of the device. -/
def hello (setting : Setting) : Message := ⟨.cnxn, aVersion, maxPayload, setting.banner⟩

/-- What the host is to show of the device. -/
def profile (setting : Setting) : Option (List UInt8) × Option (List UInt8) × Option (List UInt8) :=
  (given (setting.property "ro.product.name"), given (setting.property "ro.product.model"),
    given (setting.property "ro.product.device"))

theorem Device.banner_eq (device : setting.Device world) :
    fillConnectData world (.device true) = setting.banner := by
  simp only [banner, fillConnectData, device.deviceBanner, device.property]

/-- The host takes the properties out of the banner. -/
theorem profile_parseBanner (setting : Setting) (identity : Identity) {banner : List UInt8}
    (same : cString banner = cString setting.banner) :
    (identity.parseBanner banner).profile = setting.profile := by
  have plain : ∀ name ∈ cnxnProps, 59 ∉ ascii name ∧ 59 ∉ setting.property name :=
    fun name member => ⟨(cnxnProps_facts name member).2.2.1,
      (setting.valid name member).separated⟩
  have whole := @cString_fillConnectData
    { property := setting.property, deviceBanner := setting.type.text } setting.type true rfl
    setting.valid
  have parsed : identity.parseBanner banner =
      (strtokLoop [] (cnxnProps.flatMap (propertyText setting.property))).foldl
        Identity.setProperty identity := by
    rw [Identity.parseBanner, same, Setting.banner, whole,
      afterColon_append setting.type.text_facts.2.2, Option.bind_some,
      afterColon_append (by simp)]
  rw [parsed, strtokLoop_properties plain, foldl_setProperty]
  rfl

/-- The banner ends inside the packet. -/
theorem zero_mem_banner (setting : Setting) : 0 ∈ setting.banner := by
  simp [banner, fillConnectData]

end Setting

/-! ## The two programs -/

/-- The two programs, and the packets on their way between them. -/
structure Connected where
  host : Node
  device : Node
  toHost : List Message
  toDevice : List Message

/-- Whose step it is. -/
inductive Turn where
  | host (label : Step × Surroundings)
  | device (label : Step × Surroundings)
  /-- Packets are lost. -/
  | loss

/-- The packets a program has sent on a transport during a step.  `SYNC` packets stay inside it. -/
def crossing (t : Nat) (before after : Node) : List Message :=
  ((after.server.sent.drop before.server.sent.length).filter fun entry =>
    entry.1 = t ∧ entry.2.command ≠ .sync).map Prod.snd

/-- The step is the receipt of a packet from the other side. -/
def Step.receives (t : Nat) : Step → Bool
  | .packet other p _ => other = t ∧ commandOf p.msg.command ≠ .sync
  | _ => false

/-- A packet from the other side is the first of those on their way. -/
def Takes (t : Nat) (step : Step) (queue queue' : List Message) : Prop :=
  if step.receives t then
    ∃ p behind, step = .packet t p behind ∧ queue = p.frame.message :: queue'
  else queue' = queue

/-- One step of the host, which knows the device as transport `t`, of the device, which knows the
host as transport `u`, or of the connection. -/
inductive ConnectedStep (setting : Setting) (t u : Nat) : Connected → Turn → Connected → Prop where
  | host {state : Connected} {label : Step × Surroundings} {host : Node} {toHost : List Message} :
      NodeStep .host state.host label host → Takes t label.1 state.toHost toHost →
      ConnectedStep setting t u state (.host label)
        { state with host, toHost, toDevice := state.toDevice ++ crossing t state.host host }
  | device {state : Connected} {label : Step × Surroundings} {device : Node}
      {toDevice : List Message} :
      NodeStep (.device true) state.device label device → setting.Device label.2 →
      Takes u label.1 state.toDevice toDevice →
      ConnectedStep setting t u state (.device label)
        { state with device, toDevice, toHost := state.toHost ++ crossing u state.device device }
  | loss {state : Connected} {toHost toDevice : List Message} :
      toHost.Sublist state.toHost → toDevice.Sublist state.toDevice →
      ConnectedStep setting t u state .loss { state with toHost, toDevice }

/-- Both programs have just started. -/
def Connected.start : Connected where
  host := .start
  device := .start
  toHost := []
  toDevice := []

/-- The device authorises the host. -/
def DeviceAuthorises (u : Nat) (before : Connected) (turn : Turn) (after : Connected) : Prop :=
  ∃ label, turn = .device label ∧ Authorises u before.device label after.device

/-- The device has authorised the host at some time before. -/
def OnceAuthorised (setting : Setting) (t u : Nat) : List Turn → Connected → Prop :=
  Since (ConnectedStep setting t u) (DeviceAuthorises u) (fun _ => True) .start

/-! ## Nobody is shown who has not authorised the host -/

section Safety

variable {setting : Setting} {t u : Nat} {turns : List Turn} {state : Connected}

/-- What has been said by a device that has authorised the host is its hello. -/
structure Greeted (setting : Setting) (t u : Nat) (turns : List Turn) (state : Connected) : Prop
    where
  consistent : Consistent state.device.server
  coming : ∀ message ∈ state.toHost, message.command = .cnxn →
    message = setting.hello ∧ OnceAuthorised setting t u turns state
  shown : (state.host.server.transports t).online = true →
    (state.host.identities t).profile = setting.profile ∧ OnceAuthorised setting t u turns state

theorem greeted_start : Greeted setting t u [] .start where
  consistent := Sockets.consistent_start
  coming := nofun
  shown := nofun

/-- What crosses over in a step of the device is its hello, if it is a hello. -/
theorem crossing_hello {before after : Node} {label : Step × Surroundings}
    (step : NodeStep (.device true) before label after) (device : setting.Device label.2)
    (consistent : Consistent before.server) {message : Message}
    (member : message ∈ crossing u before after) (hello : message.command = .cnxn) :
    message = setting.hello ∧ Authorises u before label after := by
  obtain ⟨-, extra, sent, greets⟩ := greets_step step consistent
  rw [crossing, sent, List.drop_left] at member
  obtain ⟨entry, found, rfl⟩ := List.mem_map.mp member
  obtain ⟨inside, own⟩ := List.mem_filter.mp found
  obtain ⟨authorises, says_hello⟩ := greets entry inside hello
  have own : entry.1 = u := by simpa using (of_decide_eq_true own).1
  rw [own] at authorises says_hello
  refine ⟨?_, authorises⟩
  rw [says_hello, helloOf, Setting.hello, device.banner_eq]

/-- The host shows what is in the hello it receives. -/
theorem shown_of_hello {before after : Node} {label : Step × Surroundings}
    (step : NodeStep .host before label after) {p : Apacket} {behind : List UInt8}
    (received : label.1 = .packet t p behind) (hello : p.frame.message = setting.hello) :
    (after.identities t).profile = setting.profile := by
  obtain ⟨step', world⟩ := label
  obtain ⟨-, allowed, rfl⟩ := step
  cases received
  have cnxn : commandOf p.msg.command = .cnxn := congrArg Message.command hello
  have payload : p.payload = setting.banner := congrArg Message.payload hello
  have same : cString (memory p behind) = cString setting.banner := by
    rw [← payload]
    exact cString_memory (payload ▸ setting.zero_mem_banner) behind
  rw [Step.apply, handlePacket_of_cnxn cnxn, identities_handleConnect, Function.update_self]
  exact setting.profile_parseBanner _ same

theorem greeted_step {turn : Turn} {after : Connected}
    (trace : Trace (ConnectedStep setting t u) .start turns state)
    (greeted : Greeted setting t u turns state)
    (step : ConnectedStep setting t u state turn after) :
    Greeted setting t u (turns ++ [turn]) after := by
  have kept : OnceAuthorised setting t u turns state →
      OnceAuthorised setting t u (turns ++ [turn]) after :=
    fun authorised => .lasts authorised step trivial
  cases step with
  | @host label host toHost moves takes =>
      refine ⟨greeted.consistent, ?_, ?_⟩
      · intro message member hello
        have earlier : message ∈ state.toHost := by
          unfold Takes at takes
          split at takes
          · obtain ⟨p, behind, -, queue⟩ := takes
            rw [queue]
            exact List.mem_cons_of_mem _ member
          · rwa [takes] at member
        exact (greeted.coming message earlier hello).imp_right kept
      · intro online
        by_cases connects : label.1.isConnect t = true
        · have receives : label.1.receives t = true := by
            obtain ⟨step', world⟩ := label
            cases step' with
            | packet other p behind =>
                obtain ⟨own, cnxn⟩ := isConnect_packet.mp connects
                simp [Step.receives, own, cnxn]
            | sockets | disconnect | framework | reply =>
                exact absurd connects (by simp [Step.isConnect])
          rw [Takes, if_pos receives] at takes
          obtain ⟨p, behind, received, queue⟩ := takes
          rw [received, isConnect_packet] at connects
          have inside : p.frame.message ∈ state.toHost := by
            rw [queue]
            exact List.mem_cons_self
          obtain ⟨hello, authorised⟩ := greeted.coming _ inside connects.2
          exact ⟨shown_of_hello moves received hello, kept authorised⟩
        · obtain ⟨profile, online_before⟩ := hello_step moves (Bool.eq_false_iff.mpr connects)
          obtain ⟨shown, authorised⟩ := greeted.shown (online_before online)
          exact ⟨profile.trans shown, kept authorised⟩
  | @device label device toDevice moves surroundings takes =>
      refine ⟨(greets_step moves greeted.consistent).1, ?_, ?_⟩
      · intro message member hello
        rcases List.mem_append.mp member with earlier | now
        · exact (greeted.coming message earlier hello).imp_right kept
        · obtain ⟨same, authorises⟩ :=
            crossing_hello moves surroundings greeted.consistent now hello
          exact ⟨same, .begins trace (.device moves surroundings takes) ⟨label, rfl, authorises⟩
            trivial⟩
      · intro online
        exact (greeted.shown online).imp_right kept
  | loss fewer_to_host fewer_to_device =>
      refine ⟨greeted.consistent, ?_, ?_⟩
      · intro message member hello
        exact (greeted.coming message (fewer_to_host.mem member) hello).imp_right kept
      · intro online
        exact (greeted.shown online).imp_right kept

/-- In every run, what the host hears of the device and shows comes from its hello. -/
theorem greeted_run (trace : Trace (ConnectedStep setting t u) .start turns state) :
    Greeted setting t u turns state := by
  induction trace with
  | nil => exact greeted_start
  | snoc earlier last induction => exact greeted_step earlier induction last

end Safety

end Handler
end AdbWide
