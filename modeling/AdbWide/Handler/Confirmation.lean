import AdbWide.Handler.Tokens

/-!
# Keys confirmed by the framework

The device writes a public key it does not know to the framework and waits for `OK`.  Which
transport comes online then is kept in `usb_transport`, which is set by the first transport that
sends a key and kept until that one disconnects; the argument `adb_auth_event` is installed with is
not looked at.  An observer notes whose key was written last and has not been answered.
-/

namespace AdbWide
namespace Handler

open Sockets (Server Message)
open Sockets.Server (ascii authToken)
open Wire (Apacket commandOf)

/-- The transport whose key was written to the framework last, if it has not been answered. -/
abbrev Pending := Option Nat

/-- What the observer notes of a step: two bytes are an answer, and a framework that has gone gives
none. -/
def Pending.next (pending : Pending) (before : Node) (step : Step) (after : Node) : Pending :=
  match step with
  | .reply _ none => none
  | .reply _ (some response) => if response.length = 2 then none else pending
  | _ =>
      if before.told.length < after.told.length then after.told.getLast?.map Prod.fst else pending

/-- A step of a device and of the observer. -/
def ConfirmStep (enabled : Bool) (before : Node × Pending) (label : Step × Surroundings)
    (after : Node × Pending) : Prop :=
  NodeStep (.device enabled) before.1 label after.1 ∧
    after.2 = before.2.next before.1 label.1 after.1

/-- A key is written only for `usb_transport`, one that is not written does not take
`usb_transport` while the key of another transport is unanswered, and the framework confirms only
what it was asked about. -/
structure Exclusive (state : Node × Pending) (label : Step × Surroundings) : Prop where
  written : ∀ t p behind, label.1 = .packet t p behind → label.1.isAuth t authRsaPublicKey →
    sendsKey label.2 state.1 p behind →
      state.1.usbTransport = none ∨ state.1.usbTransport = some t
  refused : ∀ t p behind, label.1 = .packet t p behind → label.1.isAuth t authRsaPublicKey →
    ¬sendsKey label.2 state.1 p behind →
      state.1.usbTransport ≠ none ∨ state.2 = none ∨ state.2 = some t
  asked : ∀ fd, label.1 = .reply fd (some (ascii "OK")) →
    state.1.usbTransport = none ∨ state.2 ≠ none

/-- `OK` brings a transport online only if its key was written last and has not been answered. -/
def Bound (before : Node × Pending) (label : Step × Surroundings) (after : Node × Pending) : Prop :=
  ∀ fd, label.1 = .reply fd (some (ascii "OK")) →
    ∀ t, (before.1.server.transports t).online = false →
      (after.1.server.transports t).online = true → before.2 = some t

/-! ## Steps that are not about keys -/

/-- Nothing is written to the framework, and no transport becomes `usb_transport`. -/
structure Calm (before after : Node) : Prop where
  told : after.told = before.told
  usb : ∀ t, after.usbTransport = some t → before.usbTransport = some t

namespace Calm

variable {before between after node : Node} {t : Nat} {build : Build} {world : Surroundings}

theorem refl (node : Node) : Calm node node := ⟨rfl, fun _ => id⟩

theorem trans (first : Calm before between) (second : Calm between after) : Calm before after :=
  ⟨second.told.trans first.told, fun t same => first.usb t (second.usb t same)⟩

theorem sendAuthRequest (node : Node) (random : Random) (t : Nat) :
    Calm node (node.sendAuthRequest build random t) := by
  unfold Node.sendAuthRequest
  dsimp only
  split <;> exact ⟨rfl, fun _ => id⟩

theorem runTransportDisconnects (node : Node) (t : Nat) :
    Calm node (node.runTransportDisconnects t) := by
  unfold Node.runTransportDisconnects Node.usbDisconnected
  split
  · exact ⟨rfl, fun _ same => (nomatch same)⟩
  · exact ⟨rfl, fun _ => id⟩

theorem handleOffline (node : Node) (t : Nat) : Calm node (node.handleOffline t) := by
  obtain ⟨told, usb⟩ := runTransportDisconnects
    (node.modifyTransport t fun state => { state with online := false }) t
  exact ⟨told, usb⟩

theorem parseBanner (build : Build) (world : Surroundings) (node : Node) (t : Nat)
    (banner : List UInt8) : Calm node (node.parseBanner build world t banner) := by
  cases build <;> exact ⟨rfl, fun _ => id⟩

theorem handleSync (node : Node) (t : Nat) (message : Message) :
    Calm node (node.handleSync build world t message) := by
  unfold Node.handleSync
  split
  · cases build <;> exact ⟨rfl, fun _ => id⟩
  · obtain ⟨told, usb⟩ := handleOffline
      (node.modifyTransport t fun state => { state with connectionState := .offline }) t
    exact ⟨told, usb⟩

theorem handleConnect (node : Node) (t : Nat) (banner : List UInt8) :
    Calm node (node.handleConnect build world t banner) := by
  have reset : Calm node (if (node.server.transports t).connectionState = .offline then node
      else (node.modifyTransport t
        fun state => { state with connectionState := .offline }).handleOffline t) := by
    split
    · exact .refl node
    · obtain ⟨told, usb⟩ := handleOffline
        (node.modifyTransport t fun state => { state with connectionState := .offline }) t
      exact ⟨told, usb⟩
  have parsed := reset.trans (parseBanner build world _ t banner)
  unfold Node.handleConnect
  rcases build with _ | _ | _
  · exact ⟨parsed.told, parsed.usb⟩
  · exact ⟨parsed.told, parsed.usb⟩
  · exact parsed.trans (.sendAuthRequest _ _ t)

theorem handleAuth (node : Node) (t : Nat) {p : Apacket} {behind : List UInt8}
    (other : p.msg.arg0.toNat ≠ authRsaPublicKey) :
    Calm node (node.handleAuth build world t p behind) := by
  have filled : ∀ (node : Node) (type : Nat) (data : List UInt8),
      Calm node (node.sendFilled t type data) := by
    intro node type data
    unfold Node.sendFilled
    split <;> exact ⟨rfl, fun _ => id⟩
  unfold Node.handleAuth
  split
  · dsimp only
    split
    · refine .trans ?_ (filled _ _ _)
      exact ⟨rfl, fun _ => id⟩
    · refine .trans ?_ (filled _ _ _)
      exact ⟨rfl, fun _ => id⟩
  · split
    · split
      · exact ⟨rfl, fun _ => id⟩
      · refine .trans ?_ (.sendAuthRequest _ _ t)
        exact ⟨rfl, fun _ => id⟩
    · exact .refl node

/-- Only a packet with a key is about keys. -/
theorem handlePacket (node : Node) (t : Nat) {p : Apacket} {behind : List UInt8}
    (other : commandOf p.msg.command ≠ .auth ∨ p.msg.arg0.toNat ≠ authRsaPublicKey) :
    Calm node (node.handlePacket build world t p behind) := by
  have named : p.frame.message.command = commandOf p.msg.command := rfl
  have noted : Calm node (node.noted world t p.frame.message) := ⟨rfl, fun _ => id⟩
  unfold Node.handlePacket
  cases command : commandOf p.msg.command with
  | sync =>
      simp only [named, command]
      exact noted.trans (.handleSync _ t _)
  | cnxn =>
      simp only [named, command]
      exact noted.trans (.handleConnect _ t _)
  | auth =>
      simp only [named, command]
      exact noted.trans (.handleAuth _ t (other.resolve_left (not_not_intro command)))
  | «open» =>
      simp only [named, command]
      unfold Node.handleOpen
      split <;> exact ⟨rfl, fun _ => id⟩
  | okay | clse | wrte | other =>
      simp only [named, command]
      exact ⟨rfl, fun _ => id⟩

theorem removeAuthFde (node : Node) (t : Nat) : Calm node (node.removeAuthFde t) := by
  unfold Node.removeAuthFde
  split
  · exact .refl node
  · split <;> exact ⟨rfl, fun _ => id⟩

theorem adbAuthEvent (node : Node) (response : Option (List UInt8)) :
    Calm node (node.adbAuthEvent build world response) := by
  unfold Node.adbAuthEvent
  split
  · split
    · exact ⟨rfl, fun _ => id⟩
    · rename_i usb _
      obtain ⟨told, usb⟩ := Calm.removeAuthFde node usb
      exact ⟨told, usb⟩
  · split
    · split <;> exact ⟨rfl, fun _ => id⟩
    · exact .refl node

theorem adbAuthListener (node : Node) (fd : Nat) :
    Calm node (node.adbAuthListener build world fd) := by
  unfold Node.adbAuthListener
  dsimp only
  split
  · split
    · exact ⟨rfl, fun _ => id⟩
    · refine .trans ?_ (.sendAuthRequest _ _ _)
      exact ⟨rfl, fun _ => id⟩
  · exact ⟨rfl, fun _ => id⟩

end Calm

/-! ## The binding -/

/-- A key that has not been answered is the one of `usb_transport`. -/
def Binding (state : Node × Pending) : Prop :=
  ∀ t usb, state.2 = some t → state.1.usbTransport = some usb → t = usb

theorem Binding.calm {before after : Node} {pending pending' : Pending}
    (binding : Binding (before, pending)) (calm : Calm before after)
    (kept : pending' = pending ∨ pending' = none) : Binding (after, pending') := by
  intro t usb waiting claimed
  rcases kept with rfl | rfl
  · exact binding t usb waiting (calm.usb usb claimed)
  · exact nomatch waiting

/-- A step that writes nothing to the framework gives no key to wait for. -/
theorem Pending.next_of_calm (pending : Pending) {before after : Node} (step : Step)
    (calm : Calm before after) :
    pending.next before step after = pending ∨ pending.next before step after = none := by
  unfold Pending.next
  split
  · exact .inr rfl
  · split
    · exact .inr rfl
    · exact .inl rfl
  · rw [calm.told, if_neg (Nat.lt_irrefl _)]
    exact .inl rfl

theorem binding_key (node : Node) {pending : Pending} {world : Surroundings} {t : Nat}
    {p : Apacket} {behind : List UInt8} (binding : Binding (node, pending))
    (written : sendsKey world node p behind →
      node.usbTransport = none ∨ node.usbTransport = some t)
    (refused : ¬sendsKey world node p behind →
      node.usbTransport ≠ none ∨ pending = none ∨ pending = some t) :
    Binding (node.confirmKey world t p behind,
      pending.next node (.packet t p behind) (node.confirmKey world t p behind)) := by
  intro waiting usb waits claimed
  obtain ⟨fd, sends, confirmed⟩ | ⟨keeps, retry, confirmed⟩ := confirmKey_cases
  · -- the key that is waited for now is this one, and so is the transport
    rw [confirmed] at waits claimed
    have claimed : node.usbTransport.or (some t) = some usb := claimed
    have waits : some t = some waiting := by
      simpa [Pending.next, Node.installAuthFde, Node.modifyIdentity] using waits
    rcases written sends with free | own
    · rw [free] at claimed
      exact Option.some.inj (waits.symm.trans claimed)
    · rw [own] at claimed
      exact Option.some.inj (waits.symm.trans claimed)
  · rw [confirmed] at waits claimed
    have claimed : node.usbTransport.or (some t) = some usb := claimed
    have waits : pending = some waiting := by
      simpa [Pending.next, Node.claimed] using waits
    cases own : node.usbTransport with
    | none =>
        rw [own] at claimed
        rcases (refused keeps).resolve_left (not_not_intro own) with nothing | same
        · exact absurd (nothing.symm.trans waits) (by simp)
        · exact Option.some.inj ((waits.symm.trans same).trans claimed)
    | some first =>
        rw [own] at claimed
        exact binding waiting usb waits (own.trans claimed)

theorem binding_step {enabled : Bool} {before after : Node × Pending}
    {label : Step × Surroundings} (binding : Binding before) (exclusive : Exclusive before label)
    (step : ConfirmStep enabled before label after) : Binding after := by
  obtain ⟨node, pending⟩ := before
  obtain ⟨node', pending'⟩ := after
  obtain ⟨step, world⟩ := label
  obtain ⟨⟨-, -, applied⟩, noted⟩ := step
  simp only at applied noted
  subst noted
  cases step with
  | packet t p behind =>
      by_cases key : commandOf p.msg.command = .auth ∧ p.msg.arg0.toNat = authRsaPublicKey
      · have isAuth : (Step.packet t p behind).isAuth t authRsaPublicKey :=
          isAuth_packet.mpr ⟨rfl, key.1, key.2⟩
        have notToken : p.msg.arg0.toNat ≠ authToken := by rw [key.2]; decide
        have notSignature : p.msg.arg0.toNat ≠ authSignature := by rw [key.2]; decide
        have confirms : node' =
            (node.noted world t p.frame.message).confirmKey world t p behind := by
          rw [applied]
          simp only [Step.apply]
          rw [handlePacket_of_auth key.1, Node.handleAuth, if_neg notToken, if_neg notSignature,
            if_pos key.2]
          rfl
        rw [confirms]
        exact binding_key (node.noted world t p.frame.message) binding
          (exclusive.written t p behind rfl isAuth) (exclusive.refused t p behind rfl isAuth)
      · have calm : Calm node node' := by
          rw [applied]
          exact .handlePacket node t (not_and_or.mp key)
        exact binding.calm calm (pending.next_of_calm _ calm)
  | sockets step =>
      have calm : Calm node node' := by
        rw [applied]
        exact ⟨rfl, fun _ => id⟩
      exact binding.calm calm (pending.next_of_calm _ calm)
  | disconnect t =>
      have calm : Calm node node' := by
        rw [applied]
        exact .runTransportDisconnects node t
      exact binding.calm calm (pending.next_of_calm _ calm)
  | framework fd =>
      have calm : Calm node node' := by
        rw [applied]
        exact .adbAuthListener node fd
      exact binding.calm calm (pending.next_of_calm _ calm)
  | reply fd response =>
      have calm : Calm node node' := by
        rw [applied]
        exact .adbAuthEvent node response
      exact binding.calm calm (pending.next_of_calm _ calm)

/-- `OK` brings no transport online but `usb_transport`. -/
theorem usb_of_online {build : Build} {world : Surroundings} {node : Node} {t : Nat}
    (offline : (node.server.transports t).online = false)
    (online : ((node.adbAuthEvent build world (some (ascii "OK"))).server.transports t).online =
      true) : node.usbTransport = some t := by
  simp only [Node.adbAuthEvent, if_true] at online
  split at online
  · exact absurd (offline.symm.trans online) (by decide)
  · rename_i usb claimed
    by_contra other
    have different : t ≠ usb := fun same => other (claimed.trans (congrArg some same.symm))
    have before := (quiet_adbAuthVerified different).online online
    exact absurd (offline.symm.trans before) (by decide)

/-- As long as keys are written for `usb_transport` only, none claims it past an unanswered key of
another transport, and `OK` answers a key, it brings online only the transport whose key was written
last and has not been answered. -/
theorem bound_of_exclusive {enabled : Bool} {labels : List (Step × Surroundings)}
    {state : Node × Pending}
    (trace : Trace (Guarded (ConfirmStep enabled) Exclusive) (Node.start, none) labels state) :
    ∀ label after, Guarded (ConfirmStep enabled) Exclusive state label after →
      Bound state label after := by
  have binding : Binding state := by
    refine trace.invariant Binding (by simp [Binding]) ?_
    rintro before label after binding ⟨exclusive, step⟩
    exact binding_step binding exclusive step
  rintro ⟨step, world⟩ after ⟨exclusive, ⟨-, -, applied⟩, -⟩ fd rfl t offline online
  rw [applied] at online
  have usb := usb_of_online offline online
  rcases exclusive.asked fd rfl with free | waiting
  · exact absurd (free.symm.trans usb) (by simp)
  · obtain ⟨waiting, waits⟩ := Option.ne_none_iff_exists'.mp waiting
    rw [waits, binding waiting t waits usb]

/-- The device and the observer after a step. -/
def confirmApply (state : Node × Pending) (label : Step × Surroundings) : Node × Pending :=
  let after := label.1.apply (.device true) label.2 state.1
  (after, state.2.next state.1 label.1 after)

theorem confirmStep_apply {state : Node × Pending} {label : Step × Surroundings}
    (running : state.1.halted = false) (allowed : label.1.Allowed (.device true) state.1) :
    ConfirmStep true state label (confirmApply state label) :=
  ⟨⟨running, allowed, rfl⟩, rfl⟩

/-- A transport connects. -/
def connects (t : Nat) : Step × Surroundings :=
  (.packet t (connectPacket (ascii "host::" ++ [0])) [], keyed (.read (List.replicate tokenSize 5)))

/-- A transport sends its public key. -/
def sendsPublicKey (t : Nat) : Step × Surroundings :=
  (.packet t (authPacket 3 (ascii "key" ++ [0])) [], {})

/-- Two transports connect, a framework is there, and the first transport sends its key. -/
def asking : List (Step × Surroundings) :=
  [connects 0, connects 1, (.framework 3, {}), sendsPublicKey 0]

/-- The framework confirms a key. -/
def confirms : Step × Surroundings := (.reply 3 (some (ascii "OK")), {})

/-- Steps that are neither keys nor confirmations. -/
theorem Exclusive.of_other (state : Node × Pending) {label : Step × Surroundings}
    (key : ∀ t, label.1.isAuth t authRsaPublicKey = false)
    (reply : ∀ fd, label.1 ≠ .reply fd (some (ascii "OK"))) : Exclusive state label where
  written t _ _ _ isAuth := absurd isAuth (by simp [key t])
  refused t _ _ _ isAuth := absurd isAuth (by simp [key t])
  asked fd same := absurd same (reply fd)

theorem exclusive_connects (state : Node × Pending) (t : Nat) : Exclusive state (connects t) := by
  refine .of_other state (fun other => ?_) (by simp [connects])
  have cnxn : commandOf (connectPacket (ascii "host::" ++ [0])).msg.command = .cnxn := by
    decide
  simp [connects, Step.isAuth, cnxn]

/-- The framework may answer once it has been asked. -/
theorem confirmStep_confirms {state : Node × Pending} (running : state.1.halted = false)
    (asked : state.1.fdTable 3 ≠ none) :
    ConfirmStep true state confirms (confirmApply state confirms) := by
  refine confirmStep_apply running ⟨by decide, asked, ?_⟩
  rintro bytes same
  cases same
  with_unfolding_all decide

theorem bound_of_exclusive_asking :
    let before := asking.foldl confirmApply (Node.start, none)
    ((confirmApply before confirms).1.server.transports 0).online = true ∧
      Bound before confirms (confirmApply before confirms) := by
  intro before
  have follows : Follows (Guarded (ConfirmStep true) Exclusive) confirmApply (Node.start, none)
      asking := by
    refine ⟨⟨exclusive_connects _ 0, confirmStep_apply rfl ⟨?_, ?_⟩⟩,
      ⟨exclusive_connects _ 1, confirmStep_apply (by decide) ⟨?_, ?_⟩⟩,
      ⟨.of_other _ (fun _ => rfl) (by simp), confirmStep_apply (by decide) ?_⟩,
      ⟨⟨?_, ?_, ?_⟩, confirmStep_apply (by decide) ⟨?_, ?_⟩⟩, trivial⟩
    · with_unfolding_all decide
    · with_unfolding_all decide
    · with_unfolding_all decide
    · with_unfolding_all decide
    · simp [Step.Allowed]
    · intro t p behind _ _ _
      exact .inl (by decide)
    · intro t p behind _ _ _
      exact .inr (.inl (by decide))
    · simp [sendsPublicKey]
    · with_unfolding_all decide
    · with_unfolding_all decide
  have guarded : Guarded (ConfirmStep true) Exclusive before confirms
      (confirmApply before confirms) := by
    refine ⟨⟨?_, ?_, ?_⟩,
      confirmStep_confirms (by with_unfolding_all decide) (by with_unfolding_all decide)⟩
    · intro t p behind same
      exact nomatch same
    · intro t p behind same
      exact nomatch same
    · intro fd _
      exact .inr (by with_unfolding_all decide)
  exact ⟨by with_unfolding_all decide, bound_of_exclusive (Trace.nil.foldl follows) _ _ guarded⟩

/-- When the keys of two transports are unanswered, the first one comes online for the key of the
second. -/
theorem binding_fails_for_two_keys :
    let before := (asking ++ [sendsPublicKey 1]).foldl confirmApply (Node.start, none)
    before.2 = some 1 ∧ ((confirmApply before confirms).1.server.transports 0).online = true ∧
      ¬∀ labels state, Trace (ConfirmStep true) (Node.start, none) labels state →
        ∀ label after, ConfirmStep true state label after → Bound state label after := by
  intro before
  have online : ((confirmApply before confirms).1.server.transports 0).online = true := by
    with_unfolding_all decide
  have waits : before.2 = some 1 := by with_unfolding_all decide
  refine ⟨waits, online, fun bound => ?_⟩
  have follows : Follows (ConfirmStep true) confirmApply (Node.start, none)
      (asking ++ [sendsPublicKey 1]) := by
    refine ⟨confirmStep_apply rfl ⟨?_, ?_⟩, confirmStep_apply (by decide) ⟨?_, ?_⟩,
      confirmStep_apply (by decide) ?_, confirmStep_apply (by decide) ⟨?_, ?_⟩,
      confirmStep_apply (by with_unfolding_all decide) ⟨?_, ?_⟩, trivial⟩
    on_goal 5 => simp [Step.Allowed]
    all_goals with_unfolding_all decide
  have confirmed : ConfirmStep true before confirms (confirmApply before confirms) :=
    confirmStep_confirms (by with_unfolding_all decide) (by with_unfolding_all decide)
  have first := bound _ before (Trace.nil.foldl follows) confirms _ confirmed 3 rfl 0
    (by with_unfolding_all decide) online
  exact absurd (waits.symm.trans first) (by decide)

end Handler
end AdbWide
