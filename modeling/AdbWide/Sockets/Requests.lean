import Mathlib.Data.List.TakeWhile
import AdbWide.Sockets.Packets

/-!
# Requests in pieces

A client sends the length of its request as four hexadecimal digits and then the request.  The
bytes come in packets of any size; `smart_socket_enqueue` collects them until the request is
complete and acts on it.  A client that asks for a transport sends a second request behind the
first, and the payload of the service it opens behind the second.
-/

namespace AdbWide
namespace Sockets
namespace Server

/-! ## The frame of a request -/

/-- A digit of `%x`. -/
def hexChar (digit : Nat) : UInt8 :=
  if digit < 10 then UInt8.ofNat (48 + digit) else UInt8.ofNat (87 + digit)

/-- `%04x` of a number of at most four digits. -/
def hexLength (n : Nat) : List UInt8 :=
  [hexChar (n / 4096 % 16), hexChar (n / 256 % 16), hexChar (n / 16 % 16), hexChar (n % 16)]

/-- What `_adb_connect` writes for a service. -/
def frame (service : List UInt8) : List UInt8 := hexLength service.length ++ service

theorem hexDigit_hexChar {digit : Nat} (small : digit < 16) :
    hexDigit (hexChar digit) = some digit := by
  have all : ∀ digit : Fin 16, hexDigit (hexChar digit) = some digit.val := by decide
  exact all ⟨digit, small⟩

theorem unhex_hexLength {n : Nat} (small : n < 65536) : unhex (hexLength n) = n := by
  have digit (value : Nat) : hexDigit (hexChar (value % 16)) = some (value % 16) :=
    hexDigit_hexChar (Nat.mod_lt value (by decide))
  simp only [unhex, hexLength, unhexFrom, digit]
  omega

@[simp] theorem length_hexLength (n : Nat) : (hexLength n).length = 4 := rfl

@[simp] theorem length_frame (service : List UInt8) :
    (frame service).length = service.length + 4 := by
  simp [frame, Nat.add_comm]

/-- A text the server can be asked for: neither empty nor too long, and without a NUL. -/
structure IsRequest (service : List UInt8) : Prop where
  nonempty : 1 ≤ service.length
  short : service.length ≤ 1024
  plain : ∀ byte ∈ service, byte ≠ 0

theorem IsRequest.cString {service : List UInt8} (request : IsRequest service) :
    cString service = service := by
  refine List.takeWhile_eq_self_iff.mpr fun byte member => ?_
  simpa using request.plain byte member

/-! ### The words a request starts with -/

theorem ascii_hostSerial :
    ascii "host-serial:" = [104, 111, 115, 116, 45, 115, 101, 114, 105, 97, 108, 58] := by
  with_unfolding_all decide

theorem ascii_hostUsb : ascii "host-usb:" = [104, 111, 115, 116, 45, 117, 115, 98, 58] := by
  with_unfolding_all decide

theorem ascii_hostLocal :
    ascii "host-local:" = [104, 111, 115, 116, 45, 108, 111, 99, 97, 108, 58] := by
  with_unfolding_all decide

theorem ascii_host : ascii "host:" = [104, 111, 115, 116, 58] := by
  with_unfolding_all decide

theorem ascii_transport :
    ascii "transport" = [116, 114, 97, 110, 115, 112, 111, 114, 116] := by
  with_unfolding_all decide

theorem ascii_hostTransport : ascii "host:transport" =
    [104, 111, 115, 116, 58, 116, 114, 97, 110, 115, 112, 111, 114, 116] := by
  with_unfolding_all decide

/-! ## What a packet brings -/

/-- What `smart_socket_enqueue` finds in the bytes it holds. -/
inductive Progress where
  /-- They do not fit one packet. -/
  | overflow
  | waiting
  /-- The length is not a length. -/
  | malformed
  /-- A request, and the bytes behind it. -/
  | complete (text behind : List UInt8)
  deriving DecidableEq, Repr

/-- The tests of `smart_socket_enqueue` on the bytes it held and a new packet. -/
def progress (held packet : List UInt8) : Progress :=
  if maxPayload < held.length + packet.length then .overflow
  else
    let request := held ++ packet
    if request.length < 4 then .waiting
    else
      let len := unhex (request.take 4)
      if len < 1 ∨ 1024 < len then .malformed
      else if request.length < len + 4 then .waiting
      else .complete (cString ((request.drop 4).take len)) (request.drop (len + 4))

/-- The packet of a smart socket holds these bytes. -/
def hold (server : Server) (address : Nat) (bytes : List UInt8) : Server :=
  server.modify address fun s => { s with request := bytes }

theorem smartSocketEnqueue_eq (server : Server) (address : Nat) (s : Asocket)
    (packet : List UInt8) (outside : Outside) :
    server.smartSocketEnqueue address s packet outside =
      match progress s.request packet with
      | .overflow => (server.close address, -1)
      | .waiting => (server.hold address (s.request ++ packet), 0)
      | .malformed => ((server.hold address (s.request ++ packet)).close address, -1)
      | .complete text _ =>
          (server.hold address (s.request ++ packet)).handleRequest address s text outside := by
  simp only [smartSocketEnqueue, progress, hold]
  split
  · rfl
  · split
    · rfl
    · split
      · rfl
      · split <;> rfl

theorem unhex_frame {service : List UInt8} (request : IsRequest service)
    (behind : List UInt8) : unhex ((frame service ++ behind).take 4) = service.length := by
  have header : (frame service ++ behind).take 4 = hexLength service.length := by
    rw [frame, List.append_assoc]
    exact List.take_left' (length_hexLength _)
  have short := request.short
  rw [header, unhex_hexLength (by omega)]

theorem progress_waiting {held packet service : List UInt8} (request : IsRequest service)
    (part : held ++ packet <+: frame service)
    (unfinished : (held ++ packet).length < (frame service).length) :
    progress held packet = .waiting := by
  have short := request.short
  rw [length_frame] at unfinished
  have fits : ¬maxPayload < held.length + packet.length := by
    rw [← List.length_append, maxPayload]
    omega
  rw [progress, if_neg fits]
  dsimp only
  by_cases header : (held ++ packet).length < 4
  · rw [if_pos header]
  · -- The four digits are there, and they are those of the frame.
    have digits : unhex ((held ++ packet).take 4) = service.length := by
      obtain ⟨more, whole⟩ := part
      rw [← unhex_frame request [], List.append_nil, ← whole,
        List.take_append_of_le_length (by omega : 4 ≤ (held ++ packet).length)]
    have sized : ¬(service.length < 1 ∨ 1024 < service.length) := by
      have nonempty := request.nonempty
      omega
    rw [if_neg header, digits, if_neg sized, if_pos unfinished]

theorem progress_complete {held packet service behind : List UInt8}
    (request : IsRequest service) (stream : held ++ packet = frame service ++ behind)
    (fits : held.length + packet.length ≤ maxPayload) :
    progress held packet = .complete service behind := by
  have nonempty := request.nonempty
  have short := request.short
  have size : (held ++ packet).length = service.length + 4 + behind.length := by
    rw [stream, List.length_append, length_frame]
  have digits : unhex ((held ++ packet).take 4) = service.length := by
    rw [stream, unhex_frame request]
  have text : ((held ++ packet).drop 4).take service.length = service := by
    rw [stream, frame, List.append_assoc]
    exact List.take_left
  have rest : (held ++ packet).drop (service.length + 4) = behind := by
    rw [stream, ← length_frame]
    exact List.drop_left
  rw [progress, if_neg (by omega)]
  dsimp only
  rw [if_neg (by omega), digits, if_neg (by omega), if_neg (by omega), text, rest,
    request.cString]

/-! ## A request in packets -/

@[simp] theorem hold_hold (server : Server) (address : Nat) (first second : List UInt8) :
    (server.hold address first).hold address second = server.hold address second := by
  simp only [hold, modify, Function.update_self, Function.update_idem, Option.map_map]
  rfl

theorem sockets_hold {server : Server} {address : Nat} {s : Asocket}
    (live : server.sockets address = some s) (bytes : List UInt8) :
    (server.hold address bytes).sockets address = some { s with request := bytes } := by
  rw [hold, sockets_modify_self, live]
  rfl

theorem handleRequest_with (server : Server) (address : Nat) (s : Asocket)
    (bytes text : List UInt8) (outside : Outside) :
    server.handleRequest address { s with request := bytes } text outside =
      server.handleRequest address s text outside :=
  rfl

/-- The request a call of `smart_socket_enqueue` acts on. -/
def dispatched (s : Asocket) (packet : List UInt8) : Option (List UInt8) :=
  match progress s.request packet with
  | .complete text _ => some text
  | .overflow | .waiting | .malformed => none

/-- `smart_socket_enqueue` on one packet after the other, as long as the socket is there.  Every
call is kept with what it returned and the request it acted on. -/
def smartSocketCalls (server : Server) (address : Nat) :
    List (List UInt8 × Outside) → Server × List (Int × Option (List UInt8))
  | [] => (server, [])
  | (packet, outside) :: packets =>
      match server.sockets address with
      | none => (server, [])
      | some s =>
          let (after, r) := server.smartSocketEnqueue address s packet outside
          let (final, calls) := smartSocketCalls after address packets
          (final, (r, dispatched s packet) :: calls)

/-- The bytes of packets, in order. -/
def bytesOf (packets : List (List UInt8 × Outside)) : List UInt8 := packets.flatMap Prod.fst

@[simp] theorem bytesOf_nil : bytesOf [] = [] := rfl

@[simp] theorem bytesOf_cons (packet : List UInt8) (outside : Outside)
    (packets : List (List UInt8 × Outside)) :
    bytesOf ((packet, outside) :: packets) = packet ++ bytesOf packets := rfl

@[simp] theorem bytesOf_append (first second : List (List UInt8 × Outside)) :
    bytesOf (first ++ second) = bytesOf first ++ bytesOf second :=
  List.flatMap_append

theorem hold_self {server : Server} {address : Nat} {s : Asocket}
    (live : server.sockets address = some s) : server.hold address s.request = server := by
  rw [hold, modify, live]
  exact congrArg (fun sockets => { server with sockets })
    (Function.update_eq_self_iff.mpr live.symm)

theorem smartSocketCalls_append (server : Server) (address : Nat)
    (first second : List (List UInt8 × Outside)) :
    server.smartSocketCalls address (first ++ second) =
      (((server.smartSocketCalls address first).1.smartSocketCalls address second).1,
        (server.smartSocketCalls address first).2 ++
          ((server.smartSocketCalls address first).1.smartSocketCalls address second).2) := by
  induction first generalizing server with
  | nil => rfl
  | cons head first induction =>
      obtain ⟨packet, outside⟩ := head
      rw [List.cons_append]
      cases live : server.sockets address with
      | none =>
          cases second with
          | nil => simp [smartSocketCalls, live]
          | cons next second => simp [smartSocketCalls, live]
      | some s => simp [smartSocketCalls, live, induction]

/-- Before the request is complete its packets are only collected. -/
theorem smartSocketCalls_waiting {server : Server} {address : Nat} {s : Asocket}
    {service held : List UInt8} (live : server.sockets address = some s)
    (request : IsRequest service) (packets : List (List UInt8 × Outside))
    (part : held ++ bytesOf packets <+: frame service)
    (unfinished : (held ++ bytesOf packets).length < (frame service).length) :
    (server.hold address held).smartSocketCalls address packets =
      (server.hold address (held ++ bytesOf packets), packets.map fun _ => (0, none)) := by
  induction packets generalizing held with
  | nil => simp [smartSocketCalls]
  | cons head packets induction =>
      obtain ⟨packet, outside⟩ := head
      rw [bytesOf_cons, ← List.append_assoc] at part unfinished
      have first : held ++ packet <+: frame service := (List.prefix_append _ _).trans part
      have waiting : progress held packet = .waiting := by
        refine progress_waiting request first ?_
        rw [List.length_append] at unfinished
        omega
      have rest := induction part unfinished
      rw [smartSocketCalls, sockets_hold live]
      simp only [smartSocketEnqueue_eq, dispatched, waiting, hold_hold, rest, List.map_cons,
        bytesOf_cons, List.append_assoc]

/-- However the bytes of a request come, they are collected up to the last packet, and that one has
the request acted on. -/
theorem request_dispatched_once {server : Server} {address : Nat} {s : Asocket}
    {service : List UInt8} {packets : List (List UInt8 × Outside)}
    (live : server.sockets address = some s) (unused : s.request = [])
    (request : IsRequest service) (filled : ∀ packet ∈ packets, packet.1 ≠ [])
    (stream : bytesOf packets = frame service) :
    ∃ before packet outside, packets = before ++ [(packet, outside)] ∧
      (∀ part rest, before = part ++ rest →
        server.smartSocketCalls address part =
          (server.hold address (bytesOf part), part.map fun _ => (0, none))) ∧
      server.smartSocketCalls address packets =
        let dispatch :=
          (server.hold address (frame service)).handleRequest address s service outside
        (dispatch.1, before.map (fun _ => (0, none)) ++ [(dispatch.2, some service)]) := by
  have self : server.hold address [] = server := by rw [← unused, hold_self live]
  have some_packet : packets ≠ [] := by
    rintro rfl
    have size := congrArg List.length stream
    simp at size
  obtain ⟨before, ⟨packet, outside⟩, rfl⟩ :=
    (List.eq_nil_or_concat' packets).resolve_left some_packet
  have size : 0 < packet.length :=
    List.length_pos_of_ne_nil (filled (packet, outside) (by simp))
  rw [bytesOf_append, bytesOf_cons, bytesOf_nil, List.append_nil] at stream
  have collected : ∀ part rest, before = part ++ rest →
      server.smartSocketCalls address part =
        (server.hold address (bytesOf part), part.map fun _ => (0, none)) := by
    rintro part rest rfl
    have whole : bytesOf part ++ (bytesOf rest ++ packet) = frame service := by
      rw [← stream, bytesOf_append, List.append_assoc]
    have unfinished : (bytesOf part).length < (frame service).length := by
      rw [← whole, List.length_append, List.length_append]
      omega
    have waiting := smartSocketCalls_waiting live request part
      (by rw [List.nil_append]; exact ⟨_, whole⟩) unfinished
    rwa [self] at waiting
  refine ⟨before, packet, outside, rfl, collected, ?_⟩
  have complete : progress (bytesOf before) packet = .complete service [] := by
    refine progress_complete request (by rw [stream, List.append_nil]) ?_
    have short := request.short
    rw [← List.length_append, stream, length_frame, maxPayload]
    omega
  rw [smartSocketCalls_append, collected before [] (List.append_nil before).symm]
  simp [smartSocketCalls, sockets_hold live, smartSocketEnqueue_eq, dispatched, complete, stream,
    handleRequest_with]

/-- A client has connected to a server whose transports are all devices: its local socket is at 0,
and its smart socket at 1. -/
def newClient : Server :=
  Step.client.apply {} { start with transports := fun _ => { connectionState := .device } }

/-- `host:version` in three packets. -/
def versionPackets : List (List UInt8 × Outside) :=
  [(ascii "00", {}), (ascii "0chos", {}), (ascii "t:version", {})]

theorem request_dispatched_once_version :
    ∃ before packet outside, versionPackets = before ++ [(packet, outside)] ∧
      (newClient.smartSocketCalls 1 versionPackets).2.map Prod.snd =
        before.map (fun _ => none) ++ [some (ascii "host:version")] := by
  have request : IsRequest (ascii "host:version") :=
    ⟨by with_unfolding_all decide, by with_unfolding_all decide, by decide +kernel⟩
  have live : newClient.sockets 1 = some { kind := .smartSocket, peer := some 0 } := rfl
  have filled : ∀ packet ∈ versionPackets, packet.1 ≠ [] := by with_unfolding_all decide
  have stream : bytesOf versionPackets = frame (ascii "host:version") := by
    with_unfolding_all decide
  obtain ⟨before, packet, outside, split, -, calls⟩ :=
    request_dispatched_once live rfl request filled stream
  refine ⟨before, packet, outside, split, ?_⟩
  rw [calls]
  simp

end Server
end Sockets
end AdbWide
