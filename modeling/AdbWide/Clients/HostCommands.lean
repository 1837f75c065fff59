import AdbWide.CText
import AdbWide.Clients.Forward

/-!
# Commands to the host

`format_host_command` puts the serial of a device in front of a command, with a colon between them.
The serial may hold a colon itself, and `skip_host_serial` has to find the one behind it.
-/

namespace AdbWide
namespace Clients

open Sockets (maxPayload)
open Sockets.Server

/-! ## The code -/

/-- The text that `format_host_command` formats. -/
def hostCommand (command : List UInt8) (ttype : TransportType) (serial : Option (List UInt8)) :
    List UInt8 :=
  match serial with
  | some serial => ascii "host-serial:" ++ serial ++ ascii ":" ++ command
  | none =>
      let pre :=
        match ttype with
        | .usb => ascii "host-usb"
        | .localTransport => ascii "host-local"
        | .any | .host => ascii "host"
      pre ++ ascii ":" ++ command

/-- `format_host_command`, into a buffer that is the whole block. -/
def formatHostCommand {size : Nat} (buffer : Block UInt8 size) (command : List UInt8)
    (ttype : TransportType) (serial : Option (List UInt8)) : Except Fault (Block UInt8 size) :=
  buffer.put 0 (Formatted.msvc size (hostCommand command ttype serial)).written

/-! ## The serials -/

/-- A serial that is a name, a host and a port, or a qualifier of a device. -/
inductive HostSerial : List UInt8 → Prop where
  | name {name : List UInt8} (nonempty : name ≠ []) (uncoloned : 58 ∉ name)
      (free : name ∉ reservedSerials) : HostSerial name
  | port {host port : List UInt8} (uncoloned : 58 ∉ host) (nonempty : port ≠ [])
      (digits : ∀ byte ∈ port, isDigit byte = true) : HostSerial (host ++ 58 :: port)
  | qualifier {word text : List UInt8} (reserved : word ∈ reservedSerials)
      (uncoloned : 58 ∉ text) : HostSerial (word ++ 58 :: text)

/-- The colon behind the serial is found. -/
theorem HostSerial.skipHostSerial {serial command : List UInt8} (form : HostSerial serial)
    (plain : 0 ∉ serial) (letter : command.head?.any isDigit = false) :
    skipHostSerial (serial ++ 58 :: command) = some (58 :: command) := by
  cases form with
  | name nonempty uncoloned free =>
      exact (IsSerial.mk nonempty plain (.inl uncoloned)).skipHostSerial free letter
  | @port host port uncoloned nonempty digits =>
      have free : host ++ 58 :: port ∉ reservedSerials := fun reserved =>
        reserved_uncoloned _ reserved (by simp)
      have serial : IsSerial (host ++ 58 :: port) :=
        { nonempty := by simp
          plain
          form := .inr ⟨host, port, rfl, uncoloned, nonempty, digits⟩ }
      exact serial.skipHostSerial free letter
  | qualifier reserved uncoloned =>
      rw [List.append_assoc, List.cons_append, skipHostSerial_of_reserved reserved,
        fromColon_append uncoloned]

theorem ascii_colon : ascii ":" = [58] := by
  with_unfolding_all decide

/-- A command for a device is taken apart into the serial and the command. -/
theorem hostRequest_hostCommand {serial command : List UInt8} (form : HostSerial serial)
    (plain : 0 ∉ serial) (letter : command.head?.any isDigit = false) (ttype : TransportType) :
    hostRequest (hostCommand command ttype (some serial)) =
      some { service := command, serial := some serial } := by
  have text : hostCommand command ttype (some serial) =
      ascii "host-serial:" ++ serial ++ 58 :: command := by
    rw [hostCommand, ascii_colon, List.append_assoc _ [58], List.singleton_append]
  rw [text, hostRequest_serial serial command command (form.skipHostSerial plain letter)]
  have front : (serial ++ 58 :: command).take
      ((serial ++ 58 :: command).length - (58 :: command).length) = serial := by
    rw [List.length_append, Nat.add_sub_cancel, List.take_left]
  rw [front]

theorem hostCommand_plain {serial command : List UInt8} (plain : 0 ∉ serial)
    (plain' : 0 ∉ command) (ttype : TransportType) :
    0 ∉ hostCommand command ttype (some serial) := by
  rw [hostCommand, ascii_hostSerial, ascii_colon]
  simp [plain, plain']

/-- What `format_host_command` puts in a buffer that is large enough is sent to the server in any
pieces, and is taken apart there into the serial and the command. -/
theorem formatHostCommand_round_trip {size : Nat} (buffer : Block UInt8 size)
    (serial command : List UInt8) (form : HostSerial serial) (plain : 0 ∉ serial)
    (plain' : 0 ∉ command) (letter : command.head?.any isDigit = false) (ttype : TransportType)
    (large : (hostCommand command ttype (some serial)).length < size) :
    ∃ buffer', formatHostCommand buffer command ttype (some serial) = .ok buffer' ∧
      hostRequest buffer'.text = some { service := command, serial := some serial } ∧
      (buffer'.text.length ≤ 1024 → ∀ held packet, held ++ packet = frame buffer'.text →
        progress held packet = .complete buffer'.text []) := by
  obtain ⟨buffer', puts, shown⟩ := buffer.put_shows (hostCommand_plain plain plain' ttype) large
  have text : buffer'.text = hostCommand command ttype (some serial) := shown.text_eq
  refine ⟨buffer', ?_, ?_, ?_⟩
  · rw [formatHostCommand, Formatted.msvc_of_lt large]
    exact puts
  · rw [text, hostRequest_hostCommand form plain letter]
  · intro short held packet pieces
    rw [text] at short pieces ⊢
    have request : IsRequest (hostCommand command ttype (some serial)) :=
      { nonempty := by
          rw [hostCommand, ascii_hostSerial]
          simp
        short
        plain := fun byte member zero =>
          hostCommand_plain plain plain' ttype (zero ▸ member) }
    have length := congrArg List.length pieces
    rw [List.length_append, length_frame] at length
    refine progress_complete request (by rw [pieces, List.append_nil]) ?_
    rw [maxPayload]
    omega

/-- A host that looks like the prefix of a qualifier, with a port. -/
theorem formatHostCommand_round_trip_usb :
    let serial := [117, 115, 98] ++ 58 :: [53, 53]
    ∃ buffer', formatHostCommand (⟨List.replicate 64 0, rfl⟩ : Block UInt8 64) [120] .any
        (some serial) = .ok buffer' ∧
      hostRequest buffer'.text = some { service := [120], serial := some serial } ∧
      (buffer'.text.length ≤ 1024 → ∀ held packet, held ++ packet = frame buffer'.text →
        progress held packet = .complete buffer'.text []) :=
  formatHostCommand_round_trip _ _ _ (.port (by decide) (by decide) (by simp [isDigit])) (by decide)
    (by decide) (by decide) _ (by rw [hostCommand, ascii_hostSerial, ascii_colon]; decide)

end Clients
end AdbWide
