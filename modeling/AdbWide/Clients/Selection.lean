import AdbWide.FixedBuffer
import AdbWide.Sockets.Requests

/-!
# Selecting a device

A client names the device it wants by a serial.  `switch_socket_transport` sends the serial to the
server in a request, `smart_socket_enqueue` and `handle_host_request` take the request apart again,
and `acquire_one_transport` looks for the transport.
-/

namespace AdbWide
namespace Clients

open Sockets (ConnectionState)
open Sockets.Server

/-! ## The transports of the server -/

/-- `transport_type`. -/
inductive TransportType where
  | usb
  | localTransport
  | any
  | host
  deriving DecidableEq, Repr

/-- The part of an `atransport` that `acquire_one_transport` looks at, with its place in memory. -/
structure Atransport where
  address : Nat
  type : TransportType
  connectionState : ConnectionState
  serial : Option (List UInt8) := none
  devpath : Option (List UInt8) := none
  product : Option (List UInt8) := none
  model : Option (List UInt8) := none
  device : Option (List UInt8) := none
  deriving DecidableEq, Repr

/-- `qual_char_is_invalid`. -/
def qualCharIsInvalid (c : UInt8) : Bool :=
  ¬((65 ≤ c ∧ c ≤ 90) ∨ (97 ≤ c ∧ c ≤ 122) ∨ (48 ≤ c ∧ c ≤ 57))

/-- `qual_match`, for a text to test that is not `NULL`. -/
def qualMatch (toTest pre : List UInt8) (qual : Option (List UInt8)) (sanitizeQual : Bool) :
    Bool :=
  match qual with
  | none => toTest = []
  | some qual =>
      if toTest = [] then qual = []
      else
        let sanitized := qual.map fun c => if sanitizeQual ∧ qualCharIsInvalid c then 95 else c
        toTest = pre ++ sanitized

namespace Atransport

/-- The transport goes by the given serial. -/
def isNamed (t : Atransport) (serial : List UInt8) : Bool :=
  t.serial = some serial ∨ t.devpath = some serial ∨
    qualMatch serial (ascii "product:") t.product false ∨
    qualMatch serial (ascii "model:") t.model true ∨
    qualMatch serial (ascii "device:") t.device false

/-- The transport is of the kind or has the serial that is asked for. -/
def isWanted (t : Atransport) (ttype : TransportType) : Option (List UInt8) → Bool
  | some serial => t.isNamed serial
  | none =>
      (ttype = .usb ∧ t.type = .usb) ∨ (ttype = .localTransport ∧ t.type = .localTransport) ∨
        ttype = .any

end Atransport

/-- The message when two transports are found. -/
def ambiguousMessage (ttype : TransportType) : Option (List UInt8) → List UInt8
  | some _ => ascii "more than one device"
  | none =>
      match ttype with
      | .usb => ascii "more than one device"
      | .localTransport => ascii "more than one emulator"
      | .any | .host => ascii "more than one device and emulator"

/-- The loop of `acquire_one_transport` over `transport_list`, with the transport found so far and
the message to give if it is none. -/
def searchTransports (ttype : TransportType) (serial : Option (List UInt8)) :
    List Atransport → Option Atransport → List UInt8 → Except (List UInt8) Atransport
  | [], some t, _ => .ok t
  | [], none, message => .error message
  | t :: list, result, message =>
      if t.connectionState = .noPerm then
        searchTransports ttype serial list result (ascii "insufficient permissions for device")
      else if t.isWanted ttype serial then
        match result with
        | some _ => .error (ambiguousMessage ttype serial)
        | none => searchTransports ttype serial list (some t) message
      else searchTransports ttype serial list result message

/-- `acquire_one_transport` for `CS_ANY`. -/
def acquireOneTransport (list : List Atransport) (ttype : TransportType)
    (serial : Option (List UInt8)) : Except (List UInt8) Atransport := do
  let t ← searchTransports ttype serial list none (ascii "device not found")
  if t.connectionState = .unauthorized then
    .error (ascii
      "device unauthorized. Please check the confirmation dialog on your device.")
  else if t.connectionState = .offline then .error (ascii "device offline")
  else .ok t

/-! ## Requests to the host -/

/-- What `smart_socket_enqueue` hands to `handle_host_request`. -/
structure HostRequest where
  service : List UInt8
  ttype : TransportType := .any
  serial : Option (List UInt8) := none
  deriving DecidableEq, Repr

/-- How `smart_socket_enqueue` takes the prefix of a request apart. -/
def hostRequest (text : List UInt8) : Option HostRequest :=
  if (ascii "host-serial:").isPrefixOf text then
    let service := text.drop (ascii "host-serial:").length
    match skipHostSerial service with
    | some rest =>
        some { service := rest.tail, serial := some (service.take (service.length - rest.length)) }
    | none => some { service }
  else if (ascii "host-usb:").isPrefixOf text then
    some { service := text.drop (ascii "host-usb:").length, ttype := .usb }
  else if (ascii "host-local:").isPrefixOf text then
    some { service := text.drop (ascii "host-local:").length, ttype := .localTransport }
  else if (ascii "host:").isPrefixOf text then
    some { service := text.drop (ascii "host:").length }
  else none

/-- The service is the one the socket layer goes by. -/
theorem hostRequest_service (text : List UInt8) :
    (hostRequest text).map HostRequest.service = hostService text := by
  simp only [hostRequest, hostService]
  split
  · cases skipHostSerial (text.drop (ascii "host-serial:").length) <;> rfl
  · split
    · rfl
    · split
      · rfl
      · split <;> rfl

/-- The transport a `transport` request to `handle_host_request` is for. -/
def transportTarget (request : HostRequest) : TransportType × Option (List UInt8) :=
  let service := request.service
  if (ascii "transport-usb").isPrefixOf service then (.usb, request.serial)
  else if (ascii "transport-local").isPrefixOf service then (.localTransport, request.serial)
  else if (ascii "transport-any").isPrefixOf service then (.any, request.serial)
  else if (ascii "transport:").isPrefixOf service then
    (.any, some (service.drop (ascii "transport:").length))
  else (.any, request.serial)

/-- `sendfailmsg`. -/
def sendfailmsg (reason : List UInt8) : List UInt8 :=
  ascii "FAIL" ++ frame (reason.take 0xffff)

/-- What the server makes of the bytes of a request for a transport: the transport the smart socket
is given, and what is written to the client. -/
def selectTransport (list : List Atransport) (bytes : List UInt8) :
    Option Atransport × List UInt8 :=
  match progress [] bytes with
  | .complete text _ =>
      match hostRequest text with
      | some request =>
          if (ascii "transport").isPrefixOf request.service then
            let target := transportTarget request
            match acquireOneTransport list target.1 target.2 with
            | .ok t => (some t, ascii "OKAY")
            | .error reason => (none, sendfailmsg reason)
          else (none, [])
      | none => (none, [])
  | .overflow | .waiting | .malformed => (none, [])

/-! ## The client -/

/-- What `switch_socket_transport` finds in `service[64]`, where `beyond` is the memory behind it;
nothing for a client that needs no transport. -/
def switchService (serial : Option (List UInt8)) (ttype : TransportType) (beyond : List UInt8) :
    Option (List UInt8) :=
  let written (text : List UInt8) := some (FixedBuffer.readBack 0 64 text beyond)
  match serial, ttype with
  | some serial, _ => written (ascii "host:transport:" ++ serial)
  | none, .usb => written (ascii "host:transport-usb")
  | none, .localTransport => written (ascii "host:transport-local")
  | none, .any => written (ascii "host:transport-any")
  | none, .host => none

/-- The first four characters of `%04x`. -/
def hexHeader (n : Nat) : List UInt8 :=
  if n < 65536 then hexLength n else hexHeader (n / 16)
  termination_by n

/-- How the connection to the server behaves. -/
structure Link where
  /-- Both calls of `writex` succeed. -/
  written : Bool
  /-- The status can be read. -/
  heard : Bool
  deriving DecidableEq, Repr

/-- `switch_socket_transport`, with the transport that is attached to the smart socket. -/
def switchSocketTransport (list : List Atransport) (serial : Option (List UInt8))
    (ttype : TransportType) (beyond : List UInt8) (link : Link) : Int × Option Atransport :=
  match switchService serial ttype beyond with
  | none => (0, none)
  | some service =>
      if link.written then
        let (attached, reply) := selectTransport list (hexHeader service.length ++ service)
        -- `adb_status`
        if link.heard ∧ reply.take 4 = ascii "OKAY" then (0, attached) else (-1, attached)
      else (-1, none)

/-! ## What is selected -/

theorem searchTransports_cases {ttype : TransportType} {serial : Option (List UInt8)}
    (list : List Atransport) {result : Option Atransport} {message : List UInt8} {t : Atransport}
    (found : searchTransports ttype serial list result message = .ok t) :
    result = some t ∨ t ∈ list ∧ t.isWanted ttype serial = true := by
  induction list generalizing result message with
  | nil =>
      cases result with
      | none => cases found
      | some other => exact .inl (congrArg some (Except.ok.inj found))
  | cons head list induction =>
      simp only [searchTransports] at found
      split at found
      · exact (induction found).imp_right fun ⟨member, wanted⟩ =>
          ⟨List.mem_cons_of_mem head member, wanted⟩
      · split at found
        · next wanted =>
            cases result with
            | some other => cases found
            | none =>
                rcases induction found with same | ⟨member, wanted⟩
                · obtain rfl := Option.some.inj same
                  exact .inr ⟨List.mem_cons_self, wanted⟩
                · exact .inr ⟨List.mem_cons_of_mem head member, wanted⟩
        · exact (induction found).imp_right fun ⟨member, wanted⟩ =>
            ⟨List.mem_cons_of_mem head member, wanted⟩

theorem acquireOneTransport_named {list : List Atransport} {ttype : TransportType}
    {serial : List UInt8} {t : Atransport}
    (acquired : acquireOneTransport list ttype (some serial) = .ok t) :
    t ∈ list ∧ t.isNamed serial = true := by
  rw [acquireOneTransport] at acquired
  cases searched : searchTransports ttype (some serial) list none (ascii "device not found") with
  | error message =>
      rw [searched] at acquired
      cases acquired
  | ok other =>
      rw [searched] at acquired
      simp only [bind, Except.bind] at acquired
      have same : other = t := by
        split at acquired
        · cases acquired
        · split at acquired
          · cases acquired
          · exact Except.ok.inj acquired
      rcases searchTransports_cases list searched with none | found
      · cases none
      · rw [← same]
        exact found

theorem ascii_transportColon :
    ascii "transport:" = [116, 114, 97, 110, 115, 112, 111, 114, 116, 58] := by
  with_unfolding_all decide

theorem ascii_hostTransportColon : ascii "host:transport:" =
    [104, 111, 115, 116, 58, 116, 114, 97, 110, 115, 112, 111, 114, 116, 58] := by
  with_unfolding_all decide

theorem hostRequest_transport (name : List UInt8) :
    hostRequest (ascii "host:transport:" ++ name) =
      some { service := ascii "transport:" ++ name } := by
  simp [hostRequest, ascii_hostTransportColon, ascii_hostSerial, ascii_hostUsb, ascii_hostLocal,
    ascii_host, ascii_transportColon]

theorem transportTarget_transport (name : List UInt8) :
    transportTarget { service := ascii "transport:" ++ name } = (.any, some name) := by
  have usb : ascii "transport-usb" =
      [116, 114, 97, 110, 115, 112, 111, 114, 116, 45, 117, 115, 98] := by with_unfolding_all decide
  have loopback : ascii "transport-local" =
      [116, 114, 97, 110, 115, 112, 111, 114, 116, 45, 108, 111, 99, 97, 108] := by
    with_unfolding_all decide
  have any : ascii "transport-any" =
      [116, 114, 97, 110, 115, 112, 111, 114, 116, 45, 97, 110, 121] := by with_unfolding_all decide
  simp [transportTarget, usb, loopback, any, ascii_transportColon]

theorem progress_frame {service : List UInt8} (request : IsRequest service) :
    progress [] (frame service) = .complete service [] := by
  refine progress_complete request (by rw [List.nil_append, List.append_nil]) ?_
  have short := request.short
  simp only [List.length_nil, length_frame, Sockets.maxPayload]
  omega

theorem selectTransport_transport (list : List Atransport) {name : List UInt8}
    (request : IsRequest (ascii "host:transport:" ++ name)) :
    selectTransport list (frame (ascii "host:transport:" ++ name)) =
      match acquireOneTransport list .any (some name) with
      | .ok t => (some t, ascii "OKAY")
      | .error reason => (none, sendfailmsg reason) := by
  have named : (ascii "transport").isPrefixOf (ascii "transport:" ++ name) = true := by
    have longer : ascii "transport:" = ascii "transport" ++ [58] := by with_unfolding_all decide
    rw [longer, List.append_assoc, List.isPrefixOf_iff_prefix]
    exact List.prefix_append _ _
  simp only [selectTransport, progress_frame request, hostRequest_transport,
    transportTarget_transport, named, if_true]

theorem take_sendfailmsg (reason : List UInt8) : (sendfailmsg reason).take 4 ≠ ascii "OKAY" := by
  have four : (ascii "FAIL").length = 4 := by with_unfolding_all decide
  have fail : (sendfailmsg reason).take 4 = ascii "FAIL" := by
    rw [sendfailmsg]
    exact List.take_left' four
  rw [fail]
  with_unfolding_all decide

/-- With a request that is not too long, what is attached has the name in the request. -/
theorem switchSocketTransport_request (list : List Atransport) {serial name : List UInt8}
    {ttype : TransportType} {beyond : List UInt8}
    (service : switchService (some serial) ttype beyond = some (ascii "host:transport:" ++ name))
    (request : IsRequest (ascii "host:transport:" ++ name)) (link : Link) :
    switchSocketTransport list (some serial) ttype beyond link =
      if link.written then
        match acquireOneTransport list .any (some name) with
        | .ok t => (if link.heard then 0 else -1, some t)
        | .error _ => (-1, none)
      else (-1, none) := by
  have header : hexHeader (ascii "host:transport:" ++ name).length ++
      (ascii "host:transport:" ++ name) = frame (ascii "host:transport:" ++ name) := by
    have short := request.short
    rw [hexHeader, if_pos (by omega), frame]
  have okay : (ascii "OKAY").take 4 = ascii "OKAY" := by with_unfolding_all decide
  simp only [switchSocketTransport, service, header, selectTransport_transport list request]
  cases acquireOneTransport list .any (some name) with
  | ok t =>
      simp only [okay, and_true]
      cases link.heard <;> rfl
  | error reason => simp only [take_sendfailmsg reason, and_false, if_false]

/-- The request for a serial, as far as it fits. -/
theorem isRequest_transport {name : List UInt8} (plain : 0 ∉ name) (short : name.length ≤ 1009) :
    IsRequest (ascii "host:transport:" ++ name) := by
  rw [ascii_hostTransportColon]
  refine ⟨by simp, by simp only [List.length_append, List.length_cons, List.length_nil]; omega, ?_⟩
  intro byte member
  rcases List.mem_append.mp member with inside | inside
  · have letters : ∀ byte ∈ ([104, 111, 115, 116, 58, 116, 114, 97, 110, 115, 112, 111, 114, 116,
        58] : List UInt8), byte ≠ 0 := by simp
    exact letters byte inside
  · rintro rfl
    exact plain inside

theorem length_hostTransport (serial : List UInt8) :
    (ascii "host:transport:" ++ serial).length = 15 + serial.length := by
  rw [ascii_hostTransportColon, List.length_append]
  rfl

/-- What a serial that fills the buffer can become. -/
def spoiledSerial (serial : List UInt8) : List UInt8 :=
  if serial.length = 49 then serial ++ [120] else serial.take 49

theorem switchService_spoiled {serial : List UInt8} (plain : 0 ∉ serial)
    (long : 49 ≤ serial.length) (ttype : TransportType) :
    switchService (some serial) ttype
        (FixedBuffer.spoiler 0 120 64 (ascii "host:transport:" ++ serial)) =
      some (ascii "host:transport:" ++ spoiledSerial serial) := by
  have size := length_hostTransport serial
  have inside : 0 ∉ ascii "host:transport:" ++ serial := by
    rw [ascii_hostTransportColon]
    simpa using plain
  simp only [switchService, spoiledSerial]
  rw [FixedBuffer.readBack_spoiler inside (by omega) (by decide), size]
  split
  · next full => rw [if_pos (by omega), List.append_assoc]
  · next longer =>
      have header : (ascii "host:transport:").length = 15 := by with_unfolding_all decide
      rw [if_neg (by omega), List.take_append, header]
      congr 2
      exact List.take_of_length_le (by rw [header]; decide)

theorem spoiledSerial_ne {serial : List UInt8} (long : 49 ≤ serial.length) :
    spoiledSerial serial ≠ serial := by
  intro same
  have size := congrArg List.length same
  simp only [spoiledSerial] at size
  split at size
  · simp at size
  · rw [List.length_take] at size
    omega

/-- The device a client selects is the one it named, for every server and whatever there is in
memory, exactly when the serial has at most 48 bytes. -/
theorem switchSocketTransport_named_iff {serial : List UInt8} (plain : 0 ∉ serial) :
    (∀ list ttype beyond link,
      (switchSocketTransport list (some serial) ttype beyond link).1 = 0 →
        ∃ t, (switchSocketTransport list (some serial) ttype beyond link).2 = some t ∧
          t.isNamed serial = true ∧
          acquireOneTransport list .any (some serial) = .ok t) ↔
      serial.length ≤ 48 := by
  have size := length_hostTransport serial
  constructor
  · intro named
    by_contra short
    have long : 49 ≤ serial.length := by omega
    -- The only device of the server has the serial that is sent.
    have service := switchService_spoiled plain long .any
    have request : IsRequest (ascii "host:transport:" ++ spoiledSerial serial) := by
      refine isRequest_transport ?_ ?_
      · rw [spoiledSerial]
        split
        · simpa using plain
        · exact fun inside => plain (List.mem_of_mem_take inside)
      · rw [spoiledSerial]
        split
        · rw [List.length_append, List.length_singleton]
          omega
        · rw [List.length_take]
          omega
    let impostor : Atransport :=
      { address := 0, type := .usb, connectionState := .device,
        serial := some (spoiledSerial serial) }
    have acquired : acquireOneTransport [impostor] .any (some (spoiledSerial serial)) =
        .ok impostor := by
      simp [acquireOneTransport, searchTransports, Atransport.isWanted, Atransport.isNamed,
        impostor, bind, Except.bind]
    have attached := switchSocketTransport_request [impostor] service request ⟨true, true⟩
    rw [acquired] at attached
    obtain ⟨t, -, -, found⟩ := named [impostor] .any _ ⟨true, true⟩ (by rw [attached]; rfl)
    obtain ⟨member, same⟩ := acquireOneTransport_named found
    have nonempty : serial ≠ [] := by
      rintro rfl
      simp at long
    rw [List.mem_singleton] at member
    simp [member, impostor, Atransport.isNamed, qualMatch, nonempty] at same
    exact spoiledSerial_ne long same
  · intro short list ttype beyond link success
    have service : switchService (some serial) ttype beyond =
        some (ascii "host:transport:" ++ serial) :=
      congrArg some (FixedBuffer.readBack_of_lt (by omega) beyond)
    have request := isRequest_transport plain (by omega)
    rw [switchSocketTransport_request list service request] at success ⊢
    split at success
    · next written =>
        cases acquired : acquireOneTransport list .any (some serial) with
        | error reason => simp [acquired] at success
        | ok t =>
            rw [if_pos written]
            exact ⟨t, rfl, (acquireOneTransport_named acquired).2, rfl⟩
    · simp at success

theorem switchSocketTransport_emulator :
    0 ∉ ascii "emulator-5554" ∧ ∀ list ttype beyond link,
      (switchSocketTransport list (some (ascii "emulator-5554")) ttype beyond link).1 = 0 →
        ∃ t, (switchSocketTransport list (some (ascii "emulator-5554")) ttype beyond link).2 =
            some t ∧ t.isNamed (ascii "emulator-5554") = true ∧
          acquireOneTransport list .any (some (ascii "emulator-5554")) = .ok t := by
  have plain : 0 ∉ ascii "emulator-5554" := by with_unfolding_all decide
  exact ⟨plain, (switchSocketTransport_named_iff plain).mpr (by with_unfolding_all decide)⟩

/-- A client that names a device by 60 bytes is given the one whose serial is the first 49 of
them. -/
theorem switchSocketTransport_misdirected :
    ∃ t, switchSocketTransport
        [ { address := 0, type := .usb, connectionState := .device,
            serial := some (List.replicate 60 97) },
          { address := 1, type := .usb, connectionState := .device,
            serial := some (List.replicate 49 97) }]
        (some (List.replicate 60 97)) .any [0] ⟨true, true⟩ = (0, some t) ∧
      t.address = 1 ∧ t.isNamed (List.replicate 60 97) = false := by
  refine ⟨{
    address := 1, type := .usb, connectionState := .device,
    serial := some (List.replicate 49 97) }, ?_, rfl, ?_⟩
  · with_unfolding_all decide
  · with_unfolding_all decide

end Clients
end AdbWide
