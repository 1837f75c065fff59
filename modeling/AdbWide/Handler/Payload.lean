import Mathlib.Data.List.TakeWhile
import AdbWide.Handler.Model

/-!
# What a packet says and what lies behind it

`get_apacket` leaves the array of a packet as it finds it, and the readers fill `data_length` bytes
of it.  The name in an `A_OPEN` packet is ended before it is used, and a public key is used only
if it ends by itself.  The banner of an `A_CNXN` packet is used as it comes: without a zero among
its bytes, `parse_banner` goes on with what is left in memory.
-/

namespace AdbWide
namespace Handler

open Sockets (Server Message Outside maxPayload)
open Sockets.Server (ascii cString fromColon authToken)
open Wire (Amessage Apacket sizeofAmessage checkHeader checkData commandOf)

/-- The effect of a packet is the same whatever lies behind its payload. -/
def Confined (build : Build) (world : Surroundings) (node : Node) (t : Nat) (p : Apacket) : Prop :=
  ∀ q behind behind', q.msg = p.msg → q.payload = p.payload →
    node.handlePacket build world t p behind = node.handlePacket build world t q behind'

/-- A list is cut at the first place where something stands. -/
theorem takeWhile_ne_append {α : Type} [DecidableEq α] {mark : α} {front : List α}
    (absent : mark ∉ front) (rest : List α) :
    (front ++ mark :: rest).takeWhile (· ≠ mark) = front ∧
      (front ++ mark :: rest).dropWhile (· ≠ mark) = mark :: rest := by
  have inside : ∀ other ∈ front, decide (other ≠ mark) = true := by
    intro other member
    rw [decide_eq_true_eq]
    rintro rfl
    exact absent member
  rw [List.takeWhile_append_of_pos inside, List.dropWhile_append_of_pos inside]
  simp

/-! ## What stays inside the payload -/

section inside

variable {p : Apacket}

theorem memory_eq (p : Apacket) (behind : List UInt8) :
    memory p behind = p.payload ++ (p.data.drop p.msg.dataLength.toNat ++ behind) := by
  rw [memory, Apacket.payload, ← List.append_assoc, List.take_append_drop]

theorem length_payload (header : checkHeader p) : p.payload.length = p.msg.dataLength.toNat := by
  simp only [checkHeader, Bool.decide_and, Bool.and_eq_true, decide_eq_true_eq] at header
  rw [Apacket.payload, List.length_take, p.length_data, Nat.min_eq_left header.2]

theorem cString_stops {text : List UInt8} (inside : 0 ∉ text) (rest : List UInt8) :
    cString (text ++ 0 :: rest) = text := by
  rw [cString, (takeWhile_ne_append inside rest).1]

/-- A C string does not go past a zero. -/
theorem cString_append {text : List UInt8} (ends : 0 ∈ text) (behind : List UInt8) :
    cString (text ++ behind) = cString text := by
  obtain ⟨before, after, rfl, inside⟩ := List.eq_append_cons_of_mem ends
  rw [List.append_assoc, List.cons_append, cString_stops inside, cString_stops inside]

theorem cString_memory (ends : 0 ∈ p.payload) (behind : List UInt8) :
    cString (memory p behind) = cString p.payload := by
  rw [memory_eq, cString_append ends]

theorem serviceName_eq (header : checkHeader p) (behind : List UInt8) :
    serviceName p behind = cString (p.payload.set (p.payload.length - 1) 0) := by
  have length := length_payload header
  rw [serviceName, memory_eq]
  rcases Nat.eq_zero_or_pos p.msg.dataLength.toNat with empty | filled
  · have nothing : p.payload = [] := List.length_eq_zero_iff.mp (length.trans empty)
    have array : p.data ≠ [] := by
      intro none
      simpa [none, maxPayload] using p.length_data
    obtain ⟨c, rest, data⟩ := List.exists_cons_of_ne_nil array
    simp [empty, nothing, data, cString]
  · simp only [filled, if_true]
    rw [List.set_append_left _ _ (by omega), length]
    refine cString_append ?_ _
    exact List.mem_of_getElem? (List.getElem?_set_self (by omega))

theorem lastByte_eq (header : checkHeader p) (behind : List UInt8) :
    lastByte p behind =
      (p.msg.bytes ++ p.payload).getD (sizeofAmessage + p.payload.length - 1) 0 := by
  have length := length_payload header
  have front : p.msg.bytes.length = sizeofAmessage := by simp [Wire.Amessage.bytes, sizeofAmessage]
  have bound : sizeofAmessage + p.msg.dataLength.toNat - 1 < (p.msg.bytes ++ p.payload).length := by
    rw [List.length_append, front, length]
    simp only [sizeofAmessage]
    omega
  rw [lastByte, memory_eq, ← List.append_assoc, length, List.getD_eq_getElem?_getD,
    List.getElem?_append_left bound, List.getD_eq_getElem?_getD]

theorem command_eq_of_auth {word : UInt32} (auth : commandOf word = .auth) : word = 0x48545541 := by
  unfold commandOf at auth
  split_ifs at auth
  assumption

/-- A public key that ends by itself ends inside the payload: in an empty `A_AUTH` packet the byte
in front of the array is the last one of `magic` and not zero. -/
theorem mem_payload_of_lastByte (header : checkHeader p) (auth : commandOf p.msg.command = .auth)
    (behind : List UInt8) (ends : lastByte p behind = 0) : 0 ∈ p.payload := by
  have front : p.msg.bytes.length = sizeofAmessage := by simp [Wire.Amessage.bytes, sizeofAmessage]
  rw [lastByte_eq header, List.getD_eq_getElem?_getD] at ends
  rcases Nat.eq_zero_or_pos p.payload.length with empty | filled
  · simp only [checkHeader, Bool.decide_and, Bool.and_eq_true, decide_eq_true_eq] at header
    rw [empty, Nat.add_zero, List.getElem?_append_left (by rw [front]; decide)] at ends
    simp [Amessage.bytes, wordBytes, sizeofAmessage, header.1, command_eq_of_auth auth] at ends
  · rw [List.getElem?_append_right (by rw [front]; omega), front,
      show sizeofAmessage + p.payload.length - 1 - sizeofAmessage = p.payload.length - 1 by omega,
      List.getElem?_eq_getElem (by omega), Option.getD_some] at ends
    rw [← ends]
    exact List.getElem_mem _

end inside

section same

variable {p q : Apacket} {behind behind' : List UInt8}

theorem confirmKey_eq (header : checkHeader p) (auth : commandOf p.msg.command = .auth)
    (msg : q.msg = p.msg) (payload : q.payload = p.payload) (world : Surroundings) (node : Node)
    (t : Nat) : node.confirmKey world t p behind = node.confirmKey world t q behind' := by
  have header' : checkHeader q := by rwa [checkHeader, msg]
  have last : lastByte q behind' = lastByte p behind := by
    rw [lastByte_eq header', lastByte_eq header, msg, payload]
  unfold Node.confirmKey
  rw [last]
  by_cases ends : lastByte p behind = 0
  · have inside := mem_payload_of_lastByte header auth behind ends
    rw [cString_memory inside, cString_memory (payload ▸ inside), payload]
  · simp only [ends, ne_eq, not_false_eq_true, if_true]

theorem handleAuth_eq (header : checkHeader p) (auth : commandOf p.msg.command = .auth)
    (msg : q.msg = p.msg) (payload : q.payload = p.payload) (build : Build) (world : Surroundings)
    (node : Node) (t : Nat) :
    node.handleAuth build world t p behind = node.handleAuth build world t q behind' := by
  have confirmed : node.adbAuthConfirmKey build world t p behind =
      node.adbAuthConfirmKey build world t q behind' := by
    cases build with
    | host => rfl
    | device => exact confirmKey_eq header auth msg payload world node t
  unfold Node.handleAuth
  rw [confirmed, msg, payload]

/-- `parse_banner` takes the banner for a C string. -/
theorem parseBanner_congr {banner banner' : List UInt8} (same : cString banner = cString banner')
    (build : Build) (world : Surroundings) (node : Node) (t : Nat) :
    node.parseBanner build world t banner = node.parseBanner build world t banner' := by
  unfold Node.parseBanner Identity.parseBanner bannerState Sockets.Server.parseBanner
  rw [same]

/-- A packet whose banner ends, if it has one, has the effect its payload says. -/
theorem confined_of_ends (build : Build) (world : Surroundings) (node : Node) (t : Nat)
    (header : checkHeader p) (ends : commandOf p.msg.command ≠ .cnxn ∨ 0 ∈ p.payload) :
    Confined build world node t p := by
  intro q behind behind' msg payload
  have header' : checkHeader q := by rwa [checkHeader, msg]
  have frame : q.frame = p.frame := Prod.ext msg payload
  unfold Node.handlePacket
  rw [frame]
  have named : p.frame.message.command = commandOf p.msg.command := rfl
  cases command : commandOf p.msg.command with
  | cnxn =>
      have inside : 0 ∈ p.payload := ends.resolve_left (not_not_intro command)
      simp only [named, command, Node.handleConnect]
      rw [parseBanner_congr]
      rw [cString_memory inside, cString_memory (payload ▸ inside), payload]
  | auth =>
      simp only [named, command]
      exact handleAuth_eq header command msg payload build world _ t
  | «open» =>
      simp only [named, command, Node.handleOpen]
      rw [serviceName_eq header, serviceName_eq header', msg, payload, frame]
  | sync | okay | clse | wrte | other => simp only [named, command]

end same

/-! ## The server of the host -/

/-- The packet an `A_AUTH` packet is answered with on the host. -/
def authAnswer (world : Surroundings) (node : Node) (t : Nat) (p : Apacket) : Option Message :=
  let filled (type : Nat) (data : List UInt8) : Option Message :=
    if data = [] then none else some ⟨.auth, type, 0, data⟩
  if p.msg.arg0.toNat = authToken then
    match adbAuthNextkey world (node.identities t).key .host with
    | some key => filled authSignature (adbAuthSign world key p.payload .host)
    | none => filled authRsaPublicKey (adbAuthGetUserkey world .host)
  else none

/-- What the socket layer is answered while a packet is handled. -/
def answers (world : Surroundings) (node : Node) (t : Nat) (p : Apacket) : Outside :=
  { world.outside with
    serviceFound := world.findsService (cString (p.payload.set (p.payload.length - 1) 0))
    authAnswer := authAnswer world node t p }

theorem server_handleOffline (node : Node) (t : Nat) :
    (node.handleOffline t).server = node.server.handleOffline t := by
  unfold Node.handleOffline Node.runTransportDisconnects Node.usbDisconnected
  split <;> rfl

/-- Nothing is sent when there is no key or signature to send. -/
theorem server_sendFilled (node : Node) (t type : Nat) (data : List UInt8) :
    (node.sendFilled t type data).server =
      match if data = [] then none else some (⟨.auth, type, 0, data⟩ : Message) with
      | none => node.server
      | some answer => node.server.sendPacket t answer := by
  unfold Node.sendFilled
  split <;> rfl

theorem server_handleAuth (world : Surroundings) (node : Node) (t : Nat) (p : Apacket)
    (behind : List UInt8) :
    (node.handleAuth .host world t p behind).server =
      node.server.handleAuth t p.frame.message (authAnswer world node t p) := by
  have arg0 : p.frame.message.arg0 = p.msg.arg0.toNat := rfl
  unfold Node.handleAuth Server.handleAuth authAnswer
  rw [arg0]
  by_cases token : p.msg.arg0.toNat = authToken
  · simp only [token, if_true]
    cases key : adbAuthNextkey world (node.identities t).key .host <;>
      simp only [Node.modifyTransport, key, server_sendFilled] <;> rfl
  · simp only [token, if_false]
    -- the host verifies no signature, generates no token and confirms no key
    split
    · simp only [adbAuthVerify, Bool.false_eq_true, if_false]
      rfl
    · split <;> rfl

theorem server_handleConnect (world : Surroundings) (node : Node) (t : Nat) {banner : List UInt8}
    {message : Message} (same : cString banner = cString message.payload) :
    (node.handleConnect .host world t banner).server =
      node.server.handleConnect t message world.outside.deviceList := by
  unfold Node.handleConnect Server.handleConnect
  dsimp only
  rw [parseBanner_congr same]
  by_cases offline : (node.server.transports t).connectionState = .offline
  · simp only [offline, if_true]
    rfl
  · simp only [offline, if_false]
    have reset : ((node.modifyTransport t
        fun state => { state with connectionState := .offline }).handleOffline t).server =
        (node.server.modifyTransport t
          fun state => { state with connectionState := .offline }).handleOffline t :=
      server_handleOffline _ t
    rw [← reset]
    rfl

/-- On the host, a packet whose banner ends has the effect on the sockets that `handle_packet` has
for the socket layer. -/
theorem server_handlePacket (world : Surroundings) (node : Node) (t : Nat) {p : Apacket}
    (header : checkHeader p) (ends : commandOf p.msg.command ≠ .cnxn ∨ 0 ∈ p.payload)
    (behind : List UInt8) :
    (node.handlePacket .host world t p behind).server =
      node.server.handlePacket t p.frame.message (answers world node t p) := by
  have named : p.frame.message.command = commandOf p.msg.command := rfl
  unfold Node.handlePacket Server.handlePacket
  cases command : commandOf p.msg.command with
  | sync =>
      simp only [named, command]
      unfold Node.handleSync Server.handleSync
      split
      · rfl
      · rw [Node.sendPacket, server_handleOffline]
        rfl
  | cnxn =>
      have inside : 0 ∈ p.payload := ends.resolve_left (not_not_intro command)
      simp only [named, command]
      exact server_handleConnect world _ t (cString_memory inside behind)
  | auth =>
      simp only [named, command]
      exact server_handleAuth world _ t p behind
  | «open» =>
      simp only [named, command]
      unfold Node.handleOpen
      rw [serviceName_eq header]
      split
      · rfl
      · rename_i refused
        exact (if_neg refused).symm
  | okay | clse | wrte | other =>
      simp only [named, command]
      rfl

/-! ## A banner that does not end -/

/-- What is left in memory by chance: the end of a banner. -/
def remnant (c : UInt8) : List UInt8 := ascii "::;ro.product.name=" ++ [c, 0]

theorem afterColon_append {text : List UInt8} (inside : 58 ∉ text) (rest : List UInt8) :
    afterColon (text ++ 58 :: rest) = some rest := by
  rw [afterColon, fromColon, (takeWhile_ne_append inside rest).2]
  rfl

/-- The properties behind two colons are the last ones of any banner. -/
theorem afterColons_append (text properties : List UInt8) :
    ∃ front, (afterColon (text ++ 58 :: 58 :: properties)).bind afterColon =
      some (front ++ properties) := by
  by_cases one : 58 ∈ text
  · obtain ⟨first, rest, rfl, before⟩ := List.eq_append_cons_of_mem one
    rw [List.append_assoc, List.cons_append, afterColon_append before, Option.bind_some]
    by_cases two : 58 ∈ rest
    · obtain ⟨second, rest, rfl, before⟩ := List.eq_append_cons_of_mem two
      refine ⟨rest ++ [58, 58], ?_⟩
      rw [List.append_assoc, List.cons_append, afterColon_append before]
      simp
    · exact ⟨[58], by rw [afterColon_append two]; rfl⟩
  · refine ⟨[], ?_⟩
    rw [afterColon_append one, Option.bind_some]
    have second : afterColon ([] ++ 58 :: properties) = some properties :=
      afterColon_append (by simp) properties
    exact second

theorem strtokLoop_append (token text rest : List UInt8) :
    strtokLoop token (text ++ 59 :: rest) = strtokLoop token text ++ strtokLoop [] rest := by
  induction text generalizing token with
  | nil =>
      simp only [List.nil_append, strtokLoop, if_true]
      split <;> simp
  | cons c text induction =>
      simp only [List.cons_append, strtokLoop]
      split
      · split
        · exact induction []
        · rw [induction, List.cons_append]
      · exact induction _

theorem strtokLoop_last {token text : List UInt8} (inside : 59 ∉ text)
    (filled : token ++ text ≠ []) :
    strtokLoop token text = [token ++ text] := by
  induction text generalizing token with
  | nil => simpa [strtokLoop] using filled
  | cons c text induction =>
      have other : c ≠ 59 := fun same => inside (same ▸ List.mem_cons_self)
      rw [strtokLoop, if_neg other,
        induction (fun member => inside (List.mem_cons_of_mem _ member))]
      · simp
      · simp

/-- The product name is what the last property says. -/
theorem product_setProperty (identity : Identity) (c : UInt8) :
    (identity.setProperty (ascii "ro.product.name" ++ [61, c])).product = some [c] := by
  have key : ∀ d ∈ ascii "ro.product.name", decide (d ≠ 61) = true := by decide +kernel
  rw [Identity.setProperty, List.dropWhile_append_of_pos key, List.takeWhile_append_of_pos key]
  simp [qualOverwrite]

theorem product_parseBanner {text : List UInt8} (inside : 0 ∉ text) (identity : Identity)
    {c : UInt8} (letter : c ≠ 0 ∧ c ≠ 59) (rest : List UInt8) :
    (identity.parseBanner (text ++ (remnant c ++ rest))).product = some [c] := by
  have name :
      ascii "::;ro.product.name=" = 58 :: 58 :: 59 :: (ascii "ro.product.name" ++ [61]) := by
    with_unfolding_all decide
  have read : cString (text ++ (remnant c ++ rest)) =
      text ++ 58 :: 58 :: 59 :: (ascii "ro.product.name" ++ [61, c]) := by
    have known : 0 ∉ ascii "ro.product.name" := by with_unfolding_all decide
    have ends : 0 ∉ text ++ 58 :: 58 :: 59 :: (ascii "ro.product.name" ++ [61, c]) := by
      simp [inside, known, letter.1.symm]
    rw [← cString_stops ends rest]
    simp [remnant, name]
  obtain ⟨front, found⟩ := afterColons_append text (59 :: (ascii "ro.product.name" ++ [61, c]))
  have last : 59 ∉ ascii "ro.product.name" ++ [61, c] := by
    have known : 59 ∉ ascii "ro.product.name" := by with_unfolding_all decide
    simp [known, letter.2.symm]
  simp only [Identity.parseBanner, read, found]
  rw [strtokLoop_append, strtokLoop_last last (by simp), List.foldl_append, List.foldl_cons,
    List.foldl_nil, List.nil_append, product_setProperty]

/-! ## Confinement -/

theorem identities_handleOffline (node : Node) (t : Nat) :
    (node.handleOffline t).identities = node.identities := by
  unfold Node.handleOffline Node.runTransportDisconnects Node.usbDisconnected
  split <;> rfl

/-- `parse_banner` sets no more than the three qualifiers. -/
theorem exists_setProperty (identity : Identity) (token : List UInt8) :
    ∃ product model device, identity.setProperty token =
      { identity with product, model, device } := by
  unfold Identity.setProperty
  split
  · exact ⟨_, _, _, rfl⟩
  · dsimp only
    split_ifs
    · exact ⟨_, _, _, rfl⟩
    · exact ⟨_, _, _, rfl⟩
    · exact ⟨_, _, _, rfl⟩
    · exact ⟨_, _, _, rfl⟩

theorem exists_parseBanner (identity : Identity) (banner : List UInt8) :
    ∃ product model device, identity.parseBanner banner =
      { identity with product, model, device } := by
  unfold Identity.parseBanner
  split
  · exact ⟨_, _, _, rfl⟩
  · next properties _ =>
      generalize strtokLoop [] properties = tokens
      induction tokens generalizing identity with
      | nil => exact ⟨_, _, _, rfl⟩
      | cons token tokens induction =>
          obtain ⟨_, _, _, set⟩ := exists_setProperty identity token
          obtain ⟨product, model, device, sets⟩ := induction (identity.setProperty token)
          refine ⟨product, model, device, ?_⟩
          rw [List.foldl_cons, sets, set]

theorem identities_parseBanner (build : Build) (world : Surroundings) (node : Node) (t : Nat)
    (banner : List UInt8) :
    (node.parseBanner build world t banner).identities t =
      (node.identities t).parseBanner banner := by
  cases build <;> simp [Node.parseBanner, Node.modifyIdentity, Node.modifyTransport]

theorem product_sendAuthRequest (build : Build) (random : Random) (node : Node) (t : Nat) :
    ((node.sendAuthRequest build random t).identities t).product =
      (node.identities t).product := by
  unfold Node.sendAuthRequest
  dsimp only
  split <;> simp [Node.sendPacket, Node.modifyIdentity]

/-- What an `A_CNXN` packet says about the product is what the banner says. -/
theorem product_handleConnect (build : Build) (world : Surroundings) (node : Node) (t : Nat)
    (banner : List UInt8) :
    ((node.handleConnect build world t banner).identities t).product =
      ((node.identities t).parseBanner banner).product := by
  have reset : (if (node.server.transports t).connectionState = .offline then node
      else (node.modifyTransport t
        fun state => { state with connectionState := .offline }).handleOffline t).identities =
      node.identities := by
    split
    · rfl
    · rw [identities_handleOffline]
      rfl
  rw [← congrFun reset t, ← identities_parseBanner build world]
  unfold Node.handleConnect
  rcases build with _ | _ | _
  · rfl
  · rfl
  · exact product_sendAuthRequest _ _ _ _

/-- A packet with the given bytes in its array as far as there is room. -/
def packetOf (msg : Amessage) (bytes : List UInt8) : Apacket where
  msg := msg
  data := (bytes ++ List.replicate maxPayload 0).take maxPayload
  length_data := by simp

/-- The bytes there is no room for. -/
def overflow (bytes : List UInt8) : List UInt8 :=
  (bytes ++ List.replicate maxPayload 0).drop maxPayload

theorem memory_packetOf (msg : Amessage) (bytes : List UInt8) :
    memory (packetOf msg bytes) (overflow bytes) = bytes ++ List.replicate maxPayload 0 :=
  List.take_append_drop _ _

theorem payload_packetOf {p : Apacket} (header : checkHeader p) (bytes : List UInt8) :
    (packetOf p.msg (p.payload ++ bytes)).payload = p.payload := by
  have length := length_payload header
  have fits : p.payload.length ≤ maxPayload := by
    rw [Apacket.payload, List.length_take, p.length_data]
    exact Nat.min_le_right _ _
  change List.take p.msg.dataLength.toNat (List.take maxPayload _) = p.payload
  rw [List.take_take, ← length, Nat.min_eq_left fits, List.append_assoc, List.take_left]

/-- A banner that does not end is read on into the memory behind it. -/
theorem not_confined_of_endless (build : Build) (world : Surroundings) (node : Node) (t : Nat)
    {p : Apacket} (header : checkHeader p) (cnxn : commandOf p.msg.command = .cnxn)
    (endless : 0 ∉ p.payload) : ¬Confined build world node t p := by
  intro confined
  have product : ∀ c : UInt8, c ≠ 0 ∧ c ≠ 59 →
      ((node.handlePacket build world t p []).identities t).product = some [c] := by
    intro c letter
    rw [confined (packetOf p.msg (p.payload ++ remnant c)) [] (overflow (p.payload ++ remnant c))
      rfl (payload_packetOf header _)]
    have command : (packetOf p.msg (p.payload ++ remnant c)).frame.message.command = .cnxn := cnxn
    unfold Node.handlePacket
    simp only [command]
    rw [product_handleConnect, memory_packetOf, List.append_assoc,
      product_parseBanner endless _ letter]
  have same : some [97] = some [(98 : UInt8)] :=
    (product 97 (by decide)).symm.trans (product 98 (by decide))
  exact absurd same (by decide)

/-- The effect of a packet that passes the checks depends on its header and its payload only,
unless it is an `A_CNXN` packet whose banner does not end inside the payload. -/
theorem confined_iff (build : Build) (world : Surroundings) (node : Node) (t : Nat) {p : Apacket}
    (accepted : checkHeader p ∧ checkData p) :
    Confined build world node t p ↔ commandOf p.msg.command ≠ .cnxn ∨ 0 ∈ p.payload := by
  constructor
  · intro confined
    by_contra neither
    obtain ⟨cnxn, endless⟩ := not_or.mp neither
    exact not_confined_of_endless build world node t accepted.1 (not_not.mp cnxn) endless confined
  · exact confined_of_ends build world node t accepted.1

/-- An `A_CNXN` packet with the given banner. -/
def connectPacket (banner : List UInt8) : Apacket :=
  packetOf ⟨0x4e584e43, 0x01000000, 4096, UInt32.ofNat banner.length, Wire.checksum banner,
    0x4e584e43 ^^^ 0xffffffff⟩ banner

theorem confined_iff_device :
    Confined .host {} .start 0 (connectPacket (ascii "device::" ++ [0])) :=
  (confined_iff .host {} .start 0 (by with_unfolding_all decide)).mpr
    (.inr (by with_unfolding_all decide))

/-- The name of the product can be set by what an empty `A_CNXN` packet leaves in its array. -/
theorem confinement_fails_without_banner :
    checkHeader (connectPacket []) ∧ checkData (connectPacket []) ∧
      ¬Confined .host {} .start 0 (connectPacket []) ∧
      ¬∀ build node, Reachable (NodeStep build) Node.start node → ∀ world t p,
        checkHeader p → checkData p → Confined build world node t p := by
  have unconfined : ¬Confined .host {} .start 0 (connectPacket []) :=
    not_confined_of_endless .host {} .start 0 (by decide) (by decide)
      (by decide)
  refine ⟨by decide, by decide, unconfined, fun confined => unconfined ?_⟩
  exact confined .host .start ⟨[], .nil⟩ {} 0 _ (by decide) (by decide)

end Handler
end AdbWide
