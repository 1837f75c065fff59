import AdbWide.CircularList
import AdbWide.Handler.Banner
import AdbWide.Handler.Tokens

/-!
# The private keys of the host

Every `A_AUTH` packet with a token is answered by the next of the private keys, and after the last
of them by the public key.  The cursor is a pointer to a node of `key_list` that the transport
keeps.
-/

namespace AdbWide
namespace Handler

open Sockets (Message Server)
open Sockets.Server (authToken)
open Wire (Apacket checkHeader checkData commandOf)

/-! ## The list of keys -/

section Walk

/-- `adb_auth_nextkey` over the links of `key_list`; nothing if its loop does not end. -/
def adbAuthNextkeyWalk {ν : Type} [DecidableEq ν] (links : Links ν) (keyList : ν)
    (current : Option ν) (fuel : Nat) : Option (Option ν) :=
  if links.next keyList = keyList then some none
  else
    match current with
    | none => some (some (links.next keyList))
    | some current =>
        match links.search keyList (· = current) fuel (links.next keyList) with
        | none => none
        | some none => some none
        | some (some item) =>
            if links.next item = keyList then some none else some (some (links.next item))

variable {links : Links Nat} {keyList : Nat} {world : Surroundings}

/-- The loop ends, and finds the key that comes behind the current one on the list. -/
theorem adbAuthNextkeyWalk_eq (ring : links.Ring keyList world.keyList) (current : Option Nat)
    {fuel : Nat} (enough : world.keyList.length < fuel) :
    adbAuthNextkeyWalk links keyList current fuel = some (adbAuthNextkey world current .host) := by
  have outside := (List.nodup_cons.mp ring.nodup).1
  have first := ring.path.next_eq
  unfold adbAuthNextkeyWalk
  by_cases empty : world.keyList = []
  · rw [empty, List.headD_nil] at first
    rw [if_pos first]
    cases current <;> simp [adbAuthNextkey, empty]
  · obtain ⟨head, rest, keys⟩ := List.exists_cons_of_ne_nil empty
    have other : head ≠ keyList := by
      rintro rfl
      exact outside (by simp [keys])
    rw [keys, List.headD_cons] at first
    rw [first, if_neg other]
    cases current with
    | none => simp [adbAuthNextkey, keys]
    | some current =>
        have searched : links.search keyList (· = current) fuel (links.next keyList) =
            some (world.keyList.find? (· = current)) := ring.search_find enough
        rw [first] at searched
        dsimp only
        rw [searched]
        by_cases member : current ∈ world.keyList
        · obtain ⟨front, back, split, absent⟩ := List.eq_append_cons_of_mem member
          have path := ring.path
          rw [split] at path outside
          have found : world.keyList.find? (· = current) = some current := by
            rw [split, List.find?_append, List.find?_eq_none.mpr (by
              intro other inside same
              rw [decide_eq_true_eq] at same
              exact absent (same ▸ inside))]
            simp
          have behind := (takeWhile_ne_append absent back).2
          rw [found]
          simp only [adbAuthNextkey, split, behind, List.tail_cons, path.split.2.next_eq]
          cases back with
          | nil => simp
          | cons next back =>
              have other : next ≠ keyList := by
                rintro rfl
                exact outside (by simp)
              simp [other]
        · have missed : world.keyList.find? (· = current) = none := by
            rw [List.find?_eq_none]
            intro other inside same
            rw [decide_eq_true_eq] at same
            exact member (same ▸ inside)
          have dropped : world.keyList.dropWhile (· ≠ current) = [] := by
            rw [List.dropWhile_eq_nil_iff]
            intro other inside
            rw [decide_eq_true_eq]
            rintro rfl
            exact member inside
          rw [missed]
          simp only [adbAuthNextkey, dropped, List.tail_nil, List.head?_nil]

end Walk

/-! ## The schedule -/

section Schedule

variable {keys : List Nat} {world : Surroundings}

/-- What is offered at a place of the schedule: a key, or nothing where the public key is sent. -/
def offered (keys : List Nat) (k : Nat) : Option Nat := keys[k % (keys.length + 1)]?

theorem offered_eq_none {k : Nat} :
    offered keys k = none ↔ k % (keys.length + 1) = keys.length := by
  have bound : k % (keys.length + 1) < keys.length + 1 := Nat.mod_lt k (Nat.succ_pos _)
  rw [offered, List.getElem?_eq_none_iff]
  omega

/-- The schedule repeats itself. -/
theorem offered_add (keys : List Nat) (round k : Nat) :
    offered keys (round * (keys.length + 1) + k) = offered keys k := by
  rw [offered, offered, Nat.add_comm, Nat.add_mul_mod_self_right]

/-- Behind a key is what the schedule has in the next place. -/
theorem adbAuthNextkey_offered (distinct : keys.Nodup) (list : world.keyList = keys) (k : Nat) :
    adbAuthNextkey world (offered keys k) .host = offered keys (k + 1) := by
  have bound : k % (keys.length + 1) < keys.length + 1 := Nat.mod_lt k (Nat.succ_pos _)
  rcases Nat.lt_or_ge (k % (keys.length + 1)) keys.length with inside | last
  · have next : (k + 1) % (keys.length + 1) = k % (keys.length + 1) + 1 := by
      rw [Nat.add_mod, Nat.mod_eq_of_lt (show 1 < keys.length + 1 by omega),
        Nat.mod_eq_of_lt (by omega)]
    rw [offered, offered, next]
    generalize k % (keys.length + 1) = i at inside
    have split : keys = keys.take i ++ keys[i] :: keys.drop (i + 1) := by
      rw [← List.drop_eq_getElem_cons inside, List.take_append_drop]
    have absent : keys[i] ∉ keys.take i := by
      intro member
      rw [split] at distinct
      exact List.disjoint_of_nodup_append distinct member List.mem_cons_self
    have behind := (takeWhile_ne_append absent (keys.drop (i + 1))).2
    rw [← split] at behind
    rw [List.getElem?_eq_getElem inside]
    simp only [adbAuthNextkey, list, behind, List.tail_cons, List.head?_drop]
  · have exhausted : offered keys k = none := offered_eq_none.mpr (by omega)
    have next : (k + 1) % (keys.length + 1) = 0 := by
      rw [Nat.add_mod, show k % (keys.length + 1) = keys.length by omega, Nat.add_mod_mod,
        Nat.mod_self]
    rw [exhausted, offered, next]
    simp only [adbAuthNextkey, list, List.head?_eq_getElem?]

end Schedule

/-! ## The key of a transport -/

section Frame

variable {node : Node} {t other : Nat}

theorem key_modifyIdentity {change : Identity → Identity}
    (keeps : (change (node.identities other)).key = (node.identities other).key) :
    ((node.modifyIdentity other change).identities t).key = (node.identities t).key := by
  rcases eq_or_ne t other with rfl | different
  · simpa [Node.modifyIdentity] using keeps
  · simp [Node.modifyIdentity, different]

theorem key_parseBanner (world : Surroundings) (banner : List UInt8) :
    ((node.parseBanner .host world other banner).identities t).key = (node.identities t).key := by
  have kept : ((node.identities other).parseBanner banner).key = (node.identities other).key := by
    obtain ⟨_, _, _, parsed⟩ := exists_parseBanner (node.identities other) banner
    rw [parsed]
  have moved : ((node.modifyIdentity other fun identity =>
      identity.parseBanner banner).identities t).key = (node.identities t).key :=
    key_modifyIdentity kept
  exact moved

theorem key_handleConnect (world : Surroundings) (banner : List UInt8) :
    ((node.handleConnect .host world other banner).identities t).key =
      (node.identities t).key := by
  unfold Node.handleConnect
  split
  · exact key_parseBanner world banner
  · refine (key_parseBanner world banner).trans ?_
    rw [identities_handleOffline]
    rfl

theorem identities_sendFilled (type : Nat) (data : List UInt8) :
    (node.sendFilled other type data).identities = node.identities := by
  unfold Node.sendFilled
  split <;> rfl

theorem key_sendAuthRequest (build : Build) (random : Random) :
    ((node.sendAuthRequest build random other).identities t).key = (node.identities t).key := by
  have moved : ∀ token : List UInt8, ((node.modifyIdentity other fun identity =>
      { identity with token }).identities t).key = (node.identities t).key :=
    fun _ => key_modifyIdentity rfl
  unfold Node.sendAuthRequest
  dsimp only
  split
  · exact moved _
  · exact moved _

/-- A request for authentication moves the key of its transport, other packets of the kind do
not. -/
theorem key_handleAuth (world : Surroundings) (p : Apacket) (behind : List UInt8) :
    ((node.handleAuth .host world other p behind).identities t).key =
      if other = t ∧ p.msg.arg0.toNat = authToken then
        adbAuthNextkey world (node.identities t).key .host
      else (node.identities t).key := by
  unfold Node.handleAuth
  by_cases token : p.msg.arg0.toNat = authToken
  · simp only [token, if_true, and_true]
    have moved : ∀ key : Option Nat, ((((node.modifyTransport other
        fun state => { state with connectionState := .unauthorized }).modifyIdentity other
          fun identity => { identity with key }).identities t).key) =
        if other = t then key else (node.identities t).key := by
      intro key
      rcases eq_or_ne other t with rfl | different
      · simp [Node.modifyIdentity]
      · simp [Node.modifyIdentity, Node.modifyTransport, different, different.symm]
    split
    · rw [identities_sendFilled, moved]
      split
      · next same => rw [← same]; rfl
      · rfl
    · rw [identities_sendFilled, moved]
      split
      · next same => rw [← same]; rfl
      · rfl
  · simp only [token, if_false, and_false]
    -- the host verifies no signature and confirms no key
    split
    · simp only [adbAuthVerify, Bool.false_eq_true, if_false]
      have counted : ((node.modifyIdentity other fun identity => { identity with
          failedAuthAttempts := (identity.failedAuthAttempts + 1) % 2 ^ 32 }).identities t).key =
            (node.identities t).key := key_modifyIdentity rfl
      exact (key_sendAuthRequest .host world.random).trans counted
    · split <;> rfl

/-- The key of a transport after a packet. -/
theorem key_handlePacket (world : Surroundings) (p : Apacket) (behind : List UInt8) :
    ((node.handlePacket .host world other p behind).identities t).key =
      if (Step.packet other p behind).isAuth t authToken then
        adbAuthNextkey world (node.identities t).key .host
      else (node.identities t).key := by
  have named : p.frame.message.command = commandOf p.msg.command := rfl
  have isAuth := @isAuth_packet t other authToken p behind
  unfold Node.handlePacket
  cases command : commandOf p.msg.command with
  | auth =>
      simp only [named, command]
      rw [key_handleAuth]
      simp only [isAuth, command, true_and]
      rfl
  | cnxn =>
      simp only [named, command]
      rw [key_handleConnect, if_neg (by simp [isAuth, command])]
      rfl
  | sync =>
      have kept : ∀ message, ((node.noted world other p.frame.message).handleSync .host world other
          message).identities = node.identities := by
        intro message
        unfold Node.handleSync
        split
        · rfl
        · exact identities_handleOffline _ _
      simp only [named, command]
      rw [kept, if_neg (by simp [isAuth, command])]
  | «open» =>
      have kept : ((node.noted world other p.frame.message).handleOpen world other p
          behind).identities = node.identities := by
        unfold Node.handleOpen
        split <;> rfl
      simp only [named, command]
      rw [kept, if_neg (by simp [isAuth, command])]
  | okay | clse | wrte | other =>
      simp only [named, command]
      rw [if_neg (by simp [isAuth, command])]
      rfl

/-- The key of a transport after a step of the server. -/
theorem key_step {label : Step × Surroundings} {after : Node}
    (step : NodeStep .host node label after) :
    (after.identities t).key =
      if label.1.isAuth t authToken then adbAuthNextkey label.2 (node.identities t).key .host
      else (node.identities t).key := by
  obtain ⟨step', world⟩ := label
  obtain ⟨-, allowed, rfl⟩ := step
  cases step' with
  | packet other p behind => exact key_handlePacket world p behind
  | sockets => rfl
  | disconnect other =>
      have kept : (node.runTransportDisconnects other).identities = node.identities := by
        unfold Node.runTransportDisconnects Node.usbDisconnected
        split <;> rfl
      exact congrArg Identity.key (congrFun kept t)
  | framework => exact absurd rfl allowed
  | reply => exact absurd rfl allowed.1

end Frame

/-! ## The keys in a run -/

section Run

variable {keys : List Nat} {start before after : Node} {t : Nat}

/-- How many requests for authentication a transport has sent. -/
def requests (t : Nat) (labels : List (Step × Surroundings)) : Nat :=
  labels.countP fun label => label.1.isAuth t authToken

theorem requests_append (t : Nat) (labels : List (Step × Surroundings))
    (label : Step × Surroundings) :
    requests t (labels ++ [label]) =
      requests t labels + if label.1.isAuth t authToken then 1 else 0 := by
  rw [requests, List.countP_append, List.countP_singleton, ← requests]

/-- The key of a transport follows the schedule, which it enters at its end. -/
theorem key_trace {labels : List (Step × Surroundings)} (distinct : keys.Nodup)
    (list : ∀ label ∈ labels, label.2.keyList = keys) (fresh : (start.identities t).key = none)
    (trace : Trace (NodeStep .host) start labels before) :
    (before.identities t).key = offered keys (keys.length + requests t labels) := by
  induction trace with
  | nil =>
      rw [fresh, eq_comm, offered_eq_none]
      exact Nat.mod_eq_of_lt (Nat.lt_succ_self _)
  | @snoc labels between after label _ last induction =>
      have key := induction fun other member => list other (List.mem_append_left _ member)
      have same := list label (List.mem_append_right _ List.mem_cons_self)
      rw [key_step last, key, requests_append]
      split
      · rw [adbAuthNextkey_offered distinct same, Nat.add_assoc]
      · rfl

/-- A packet of authentication has been sent to a transport, if there is something to put into
it. -/
def Answered (before after : Node) (t type : Nat) (data : List UInt8) : Prop :=
  after.server.sent =
    before.server.sent ++ if data = [] then [] else [(t, ⟨.auth, type, 0, data⟩)]

theorem answered_sendFilled (node : Node) (t type : Nat) (data : List UInt8) :
    Answered node (node.sendFilled t type data) t type data := by
  unfold Answered Node.sendFilled
  split
  · rw [List.append_nil]
  · rfl

/-- A request for authentication is answered by the next key, or by the public key. -/
theorem answered_handlePacket {world : Surroundings} {p : Apacket} {behind : List UInt8}
    (token : (Step.packet t p behind).isAuth t authToken) :
    let key := adbAuthNextkey world (before.identities t).key .host
    let after := before.handlePacket .host world t p behind
    (∀ number, key = some number →
      Answered before after t authSignature (world.rsaSign number p.payload)) ∧
    (key = none → Answered before after t authRsaPublicKey (adbAuthGetUserkey world .host)) := by
  obtain ⟨-, auth, type⟩ := isAuth_packet.mp token
  dsimp only
  rw [handlePacket_of_auth auth, Node.handleAuth, if_pos type]
  constructor
  · intro number key
    have same : adbAuthNextkey world ((((before.noted world t p.frame.message).modifyTransport t
        fun state => { state with connectionState := .unauthorized }).identities t).key) .host =
          some number := key
    simp only [same]
    exact answered_sendFilled _ t authSignature _
  · intro key
    have same : adbAuthNextkey world ((((before.noted world t p.frame.message).modifyTransport t
        fun state => { state with connectionState := .unauthorized }).identities t).key) .host =
          none := key
    simp only [same]
    exact answered_sendFilled _ t authRsaPublicKey _

/-- From a key to the next one, each of the keys is offered once, and then the public key is. -/
theorem offered_round (keys : List Nat) (round : Nat) :
    (List.range keys.length).map (fun i => offered keys (round * (keys.length + 1) + i)) =
        keys.map some ∧
      offered keys (round * (keys.length + 1) + keys.length) = none := by
  constructor
  · apply List.ext_getElem
    · simp
    · intro i inside _
      have small : i < keys.length := by simpa using inside
      simp [offered, Nat.mod_eq_of_lt (Nat.lt_succ_of_lt small), small]
  · rw [offered_add, offered_eq_none]
    exact Nat.mod_eq_of_lt (Nat.lt_succ_self _)

/-- The requests for authentication of a transport are answered by the keys of the host in turn,
and by the public key when all of them have been offered.  The loop over the links of the list
finds the keys. -/
theorem answered_in_turn (distinct : keys.Nodup) (fresh : (start.identities t).key = none)
    {labels : List (Step × Surroundings)} (list : ∀ label ∈ labels, label.2.keyList = keys)
    (trace : Trace (NodeStep .host) start labels before) {world : Surroundings} {p : Apacket}
    {behind : List UInt8} (same : world.keyList = keys)
    (token : (Step.packet t p behind).isAuth t authToken)
    (step : NodeStep .host before (.packet t p behind, world) after) :
    let k := requests t labels
    (∀ inside : k % (keys.length + 1) < keys.length,
      Answered before after t authSignature
        (world.rsaSign keys[k % (keys.length + 1)] p.payload)) ∧
    (¬k % (keys.length + 1) < keys.length →
      Answered before after t authRsaPublicKey (adbAuthGetUserkey world .host)) ∧
    (after.identities t).key = offered keys k ∧
    (∀ links keyList fuel, Links.Ring links keyList keys → keys.length < fuel →
      adbAuthNextkeyWalk links keyList (before.identities t).key fuel =
        some (after.identities t).key) ∧
    ∀ round,
      (List.range keys.length).map (fun i => offered keys (round * (keys.length + 1) + i)) =
          keys.map some ∧
        offered keys (round * (keys.length + 1) + keys.length) = none := by
  intro k
  have turn : offered keys (keys.length + k + 1) = offered keys k := by
    have place : keys.length + k + 1 = 1 * (keys.length + 1) + k := by omega
    rw [place, offered_add]
  have next : adbAuthNextkey world (before.identities t).key .host = offered keys k := by
    rw [key_trace distinct list fresh trace, adbAuthNextkey_offered distinct same]
    exact turn
  have key := key_step (t := t) step
  rw [if_pos token, next] at key
  obtain ⟨-, -, rfl⟩ := step
  obtain ⟨signs, gives⟩ := answered_handlePacket token
  rw [next] at signs gives
  refine ⟨fun inside => ?_, fun last => ?_, key, fun links keyList fuel ring enough => ?_,
    offered_round keys⟩
  · exact signs _ (List.getElem?_eq_getElem inside)
  · refine gives (offered_eq_none.mpr ?_)
    have bound : k % (keys.length + 1) < keys.length + 1 := Nat.mod_lt k (Nat.succ_pos _)
    omega
  · subst same
    rw [adbAuthNextkeyWalk_eq ring _ enough, next, key]

/-- A host with two keys, for which a key and the token stand for the signature. -/
def twoKeys : Surroundings where
  keyList := [8, 9]
  rsaSign := fun key token => UInt8.ofNat key :: token

/-- The device asks for a signature of a token. -/
def request : Step × Surroundings := (.packet 0 (authPacket 1 [5]) [], twoKeys)

/-- The second request is answered by the second key. -/
theorem answered_in_turn_second :
    let before := request.1.apply .host twoKeys .start
    Answered before (request.1.apply .host twoKeys before) 0 authSignature [9, 5] := by
  intro before
  have accepted : checkHeader (authPacket 1 [5]) ∧ checkData (authPacket 1 [5]) := by
    with_unfolding_all decide
  have asked : NodeStep .host .start request before := ⟨rfl, accepted, rfl⟩
  have again : NodeStep .host before request (request.1.apply .host twoKeys before) :=
    ⟨by with_unfolding_all decide, accepted, rfl⟩
  have distinct : [8, 9].Nodup := by decide
  have second := (answered_in_turn distinct rfl (by simp [request, twoKeys]) (.snoc .nil asked)
    rfl (by with_unfolding_all decide) again).1
  have turn : requests 0 ([] ++ [request]) = 1 := by with_unfolding_all decide
  have payload : (authPacket 1 [5]).payload = [5] := by with_unfolding_all decide
  simp only [turn, payload] at second
  exact second (by decide)

end Run

end Handler
end AdbWide
