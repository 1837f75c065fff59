import AdbWide.CText
import AdbWide.Clients.Forward
import AdbWide.Sync.ModeText

/-!
# Connecting and disconnecting

`connect_device` takes an address apart into a host and a port and makes a serial of them.  A
`disconnect:` request looks the transport up by the address as it was typed, with the default port
behind it if it has none.
-/

namespace AdbWide
namespace Clients

open Sockets.Server
open Sync (decimal)

/-! ## The port -/

/-- What `sscanf(text, "%d", &port)` does: it returns `EOF`, zero, or one and stores a number. -/
inductive Scanned where
  | eof
  | mismatch
  | number (value : Int)
  deriving DecidableEq, Repr

/-- The digits of a `%d`, behind its sign. -/
def scanDigits (negative : Bool) (text : List UInt8) : Scanned :=
  match text with
  | [] => .eof
  | c :: _ =>
      if isDigit c then
        let value : Nat :=
          (text.takeWhile isDigit).foldl (fun value c => value * 10 + Sync.digitValue c) 0
        .number (signed (if negative then -(value : Int) else value))
      else .mismatch

/-- `%d`, for a number that wraps around in an `int`. -/
def scanInt (text : List UInt8) : Scanned :=
  match text.dropWhile fun c => c = 32 ∨ 9 ≤ c ∧ c ≤ 13 with
  | 45 :: rest => scanDigits true rest
  | 43 :: rest => scanDigits false rest
  | rest => scanDigits false rest

/-! ## Registered transports -/

/-- The part of an `atransport` that connecting and disconnecting look at. -/
structure NamedTransport where
  address : Nat
  type : TransportType
  adbPort : Int
  serial : Option (List UInt8)
  deriving DecidableEq, Repr

/-- `pending_list` and `transport_list`. -/
structure TransportLists where
  pending : List NamedTransport := []
  transports : List NamedTransport := []
  deriving DecidableEq, Repr

/-- A transport of the list has the serial. -/
def hasSerial (list : List NamedTransport) (serial : List UInt8) : Bool :=
  list.any (·.serial = some serial)

/-- `register_socket_transport` for a transport that is not local, at the address that `calloc`
returns. -/
def registerSocketTransport (lists : TransportLists) (address : Nat) (serial : List UInt8) :
    Option NamedTransport :=
  if hasSerial lists.pending serial ∨ hasSerial lists.transports serial then none
  else some { address, type := .localTransport, adbPort := 0, serial := some serial }

/-- `find_transport`. -/
def findTransport (list : List NamedTransport) (serial : List UInt8) : Option NamedTransport :=
  list.find? (·.serial = some serial)

/-! ## Connecting -/

/-- What is in memory that the code does not write before it reads it. -/
structure Leftover where
  /-- The last byte of `hostbuf` and what is behind it. -/
  hostbuf : List UInt8
  port : Int
  /-- What is behind the buffer that the serial is formatted into. -/
  serial : List UInt8

/-- How `connect_device` takes an address apart. -/
inductive Attempt where
  | badHostName
  /-- The text from the colon on holds no number. -/
  | badPortNumber (portstr : List UInt8)
  /-- The host and the port to connect to, and whether the port has been stored. -/
  | dial (hostbuf : List UInt8) (port : Int) (stored : Bool)
  deriving DecidableEq, Repr

/-- The first half of `connect_device`. -/
def takeApart (host : List UInt8) (leftover : Leftover) : Attempt :=
  match fromColon host with
  | some portstr =>
      let offset := host.length - portstr.length
      if 100 ≤ offset then .badHostName
      else
        match scanInt portstr.tail with
        | .mismatch => .badPortNumber portstr
        | .eof => .dial (host.take offset) leftover.port false
        | .number port => .dial (host.take offset) port true
  | none => .dial (FixedBuffer.readBack 0 99 host leftover.hostbuf) 5555 true

/-- `%s:%d` in `serial[100]`, as it is read there. -/
def chosenSerial (hostbuf : List UInt8) (port : Int) (leftover : Leftover) : List UInt8 :=
  FixedBuffer.readBack 0 100 (hostbuf ++ 58 :: decimal port) leftover.serial

/-- What `connect_device` answers, and the transport it has registered. -/
structure Connected where
  message : List UInt8
  registered : Option NamedTransport := none
  deriving DecidableEq, Repr

/-- `connect_device`; `connects` is the outcome of `socket_network_client_timeout`. -/
def connectDevice (host : List UInt8) (leftover : Leftover) (connects : List UInt8 → Int → Bool)
    (lists : TransportLists) (address : Nat) : Connected :=
  match takeApart host leftover with
  | .badHostName => { message := ascii "bad host name " ++ host }
  | .badPortNumber portstr => { message := ascii "bad port number " ++ portstr }
  | .dial hostbuf port _ =>
      let serial := chosenSerial hostbuf port leftover
      if connects hostbuf port then
        match registerSocketTransport lists address serial with
        | none => { message := ascii "already connected to " ++ serial }
        | some t => { message := ascii "connected to " ++ serial, registered := some t }
      else
        { message := ascii "unable to connect to " ++ host ++ ascii ":" ++ decimal port }

/-! ## Disconnecting -/

/-- The serial that `handle_host_request` looks up; `beyond` is what is behind the first 99 bytes of
its `hostbuf`. -/
def lookedUp (serial beyond : List UInt8) : List UInt8 :=
  match fromColon serial with
  | some _ => serial
  | none => FixedBuffer.readBack 0 99 (serial ++ ascii ":5555") beyond

/-- `disconnect:` of `handle_host_request`: the answer, and `transport_list` after it. -/
def disconnect (serial beyond : List UInt8) (transports : List NamedTransport) :
    List UInt8 × List NamedTransport :=
  match serial with
  | [] => ([], transports.filter fun t => ¬(t.type = .localTransport ∧ t.adbPort = 0))
  | _ =>
      let serial := lookedUp serial beyond
      match findTransport transports serial with
      | some t => ([], transports.erase t)
      | none => (ascii "No such device " ++ serial, transports)

/-! ## The property and the condition -/

/-- The port is stored before it is used, and a transport that is registered is the one that a later
`disconnect:` with the same address finds and unregisters. -/
structure Agrees (host : List UInt8) : Prop where
  stored : ∀ leftover hostbuf port stored,
    takeApart host leftover = .dial hostbuf port stored → stored = true
  unregisters : ∀ leftover connects lists address t,
    (connectDevice host leftover connects lists address).registered = some t →
      ∀ beyond transports, t ∈ transports →
        (∀ other ∈ transports, other.serial = t.serial → other = t) →
        findTransport transports (lookedUp host beyond) = some t ∧
          disconnect host beyond transports = ([], transports.erase t)

/-- `connect_device` does not try to connect: the host is too long, or no number follows it. -/
inductive Refused : List UInt8 → Prop where
  | host {host rest : List UInt8} (uncoloned : 58 ∉ host) (long : 100 ≤ host.length) :
      Refused (host ++ 58 :: rest)
  | port {host rest : List UInt8} (uncoloned : 58 ∉ host) (mismatch : scanInt rest = .mismatch) :
      Refused (host ++ 58 :: rest)

/-- The address is a host, or a host and a port written as `%d` writes it, and fits the buffers. -/
inductive Mirrored : List UInt8 → Prop where
  | host {host : List UInt8} (nonempty : host ≠ []) (uncoloned : 58 ∉ host)
      (short : host.length ≤ 93) : Mirrored host
  | port {host : List UInt8} {port : Int} (uncoloned : 58 ∉ host) (lower : -2 ^ 31 ≤ port)
      (upper : port < 2 ^ 31) (short : (host ++ 58 :: decimal port).length ≤ 99) :
      Mirrored (host ++ 58 :: decimal port)

/-! ## Numbers -/

theorem decimal_eq (number : Int) :
    decimal number = (if number < 0 then [45] else []) ++ Sync.digits number.natAbs := rfl

theorem mem_decimal {number : Int} {byte : UInt8} (member : byte ∈ decimal number) :
    byte ≠ 0 := by
  rw [decimal_eq, List.mem_append] at member
  rcases member with sign | digit
  · split at sign
    · rw [List.mem_singleton.mp sign]
      decide
    · cases sign
  · obtain ⟨value, small, rfl⟩ := Sync.mem_digits digit
    exact (Sync.digit_facts value small).2.2.2.1

theorem digit_isDigit : ∀ value < 10, isDigit (48 + value).toUInt8 = true := by
  decide

theorem digits_ne_nil (number : Nat) : Sync.digits number ≠ [] := by
  rw [Sync.digits, ne_eq, List.map_eq_nil_iff]
  exact Nat.toDigits_ne_nil

theorem scanDigits_digits (negative : Bool) (number : Nat) :
    scanDigits negative (Sync.digits number) =
      .number (signed (if negative then -(number : Int) else number)) := by
  have all : ∀ byte ∈ Sync.digits number, isDigit byte = true := by
    intro byte member
    obtain ⟨value, small, rfl⟩ := Sync.mem_digits member
    exact digit_isDigit value small
  have value : ((Sync.digits number).takeWhile isDigit).foldl
      (fun value c => value * 10 + Sync.digitValue c) 0 = number := by
    rw [List.takeWhile_eq_self_iff.mpr all]
    exact Sync.value_digits number
  obtain ⟨first, rest, split⟩ := List.exists_cons_of_ne_nil (digits_ne_nil number)
  rw [split] at all value ⊢
  rw [scanDigits, if_pos (all first List.mem_cons_self), value]

/-- `sscanf` reads what `snprintf` wrote. -/
theorem scanInt_decimal {port : Int} (lower : -2 ^ 31 ≤ port) (upper : port < 2 ^ 31) :
    scanInt (decimal port) = .number port := by
  rw [decimal_eq]
  by_cases negative : port < 0
  · rw [if_pos negative]
    have scanned : scanInt ([45] ++ Sync.digits port.natAbs) =
        scanDigits true (Sync.digits port.natAbs) := rfl
    rw [scanned, scanDigits_digits, if_pos rfl, signed_of_lt (by omega) (by omega)]
    congr 1
    omega
  · rw [if_neg negative, List.nil_append]
    have scanned : scanInt (Sync.digits port.natAbs) =
        scanDigits false (Sync.digits port.natAbs) := by
      obtain ⟨first, rest, front⟩ := List.exists_cons_of_ne_nil (digits_ne_nil port.natAbs)
      obtain ⟨value, small, rfl⟩ := Sync.mem_digits (front ▸ List.mem_cons_self)
      obtain ⟨-, -, -, -, notMinus, notPlus, notSpace⟩ := Sync.digit_facts value small
      rw [front, scanInt, List.dropWhile_cons_of_neg (by simpa using notSpace)]
      split
      · next same => exact absurd (List.cons.inj same).1 notMinus
      · next same => exact absurd (List.cons.inj same).1 notPlus
      · rfl
    rw [scanned, scanDigits_digits, if_neg (by decide), signed_of_lt (by omega) (by omega)]
    congr 1
    omega

theorem scanInt_bounds {text : List UInt8} {value : Int} (scanned : scanInt text = .number value) :
    -2 ^ 31 ≤ value ∧ value < 2 ^ 31 := by
  have digits {negative : Bool} {text : List UInt8}
      (scanned : scanDigits negative text = .number value) :
      -2 ^ 31 ≤ value ∧ value < 2 ^ 31 := by
    cases text with
    | nil => cases scanned
    | cons c text =>
        rw [scanDigits] at scanned
        split at scanned
        · rw [← Scanned.number.inj scanned]
          exact signed_bounds _
        · cases scanned
  rw [scanInt] at scanned
  split at scanned
  · exact digits scanned
  · exact digits scanned
  · exact digits scanned

/-! ## The two serials -/

theorem fromColon_of_uncoloned {host : List UInt8} (uncoloned : 58 ∉ host) :
    fromColon host = none := by
  have all : ∀ byte ∈ host, decide (byte ≠ 58) = true := by
    intro byte member
    rw [decide_eq_true_eq]
    rintro rfl
    exact uncoloned member
  rw [fromColon, List.dropWhile_eq_nil_iff.mpr all]

/-- An address with a colon is taken apart at the first one. -/
theorem takeApart_coloned {host : List UInt8} (uncoloned : 58 ∉ host) (rest : List UInt8)
    (leftover : Leftover) :
    takeApart (host ++ 58 :: rest) leftover =
      if 100 ≤ host.length then .badHostName
      else
        match scanInt rest with
        | .mismatch => .badPortNumber (58 :: rest)
        | .eof => .dial host leftover.port false
        | .number port => .dial host port true := by
  have offset : (host ++ 58 :: rest).length - (58 :: rest).length = host.length := by
    rw [List.length_append, Nat.add_sub_cancel]
  rw [takeApart, fromColon_append uncoloned]
  simp only [offset, List.take_left, List.tail_cons]

theorem takeApart_uncoloned {host : List UInt8} (uncoloned : 58 ∉ host) (leftover : Leftover) :
    takeApart host leftover =
      .dial (FixedBuffer.readBack 0 99 host leftover.hostbuf) 5555 true := by
  rw [takeApart, fromColon_of_uncoloned uncoloned]

theorem lookedUp_coloned {host : List UInt8} (uncoloned : 58 ∉ host) (rest beyond : List UInt8) :
    lookedUp (host ++ 58 :: rest) beyond = host ++ 58 :: rest := by
  rw [lookedUp, fromColon_append uncoloned]

theorem lookedUp_uncoloned {host : List UInt8} (uncoloned : 58 ∉ host) (beyond : List UInt8) :
    lookedUp host beyond = FixedBuffer.readBack 0 99 (host ++ 58 :: decimal 5555) beyond := by
  have port : ascii ":5555" = 58 :: decimal 5555 := by with_unfolding_all decide
  rw [lookedUp, fromColon_of_uncoloned uncoloned, port]

theorem connectDevice_dial {host hostbuf : List UInt8} {leftover : Leftover} {port : Int}
    {stored : Bool} (apart : takeApart host leftover = .dial hostbuf port stored)
    {connects : List UInt8 → Int → Bool} {lists : TransportLists} {address : Nat}
    {t : NamedTransport}
    (registered : (connectDevice host leftover connects lists address).registered = some t) :
    t.serial = some (chosenSerial hostbuf port leftover) := by
  rw [connectDevice, apart] at registered
  dsimp only at registered
  split at registered
  · rw [registerSocketTransport] at registered
    split at registered
    · cases registered
    · next other found =>
        split at found
        · cases found
        · obtain rfl := Option.some.inj found
          obtain rfl := Option.some.inj registered
          rfl
  · cases registered

theorem findTransport_of_only {transports : List NamedTransport} {t : NamedTransport}
    {serial : List UInt8} (member : t ∈ transports) (named : t.serial = some serial)
    (only : ∀ other ∈ transports, other.serial = t.serial → other = t) :
    findTransport transports serial = some t := by
  rw [findTransport]
  cases found : transports.find? (·.serial = some serial) with
  | none =>
      rw [List.find?_eq_none] at found
      exact absurd (by simpa using named) (found t member)
  | some other =>
      have same : other.serial = some serial := by simpa using List.find?_some found
      rw [only other (List.mem_of_find?_eq_some found) (same.trans named.symm)]

/-- The transport is unregistered when the same serial is chosen and looked up. -/
theorem disconnect_of_serial {host beyond : List UInt8} (nonempty : host ≠ [])
    {transports : List NamedTransport} {t : NamedTransport} (member : t ∈ transports)
    (named : t.serial = some (lookedUp host beyond))
    (only : ∀ other ∈ transports, other.serial = t.serial → other = t) :
    findTransport transports (lookedUp host beyond) = some t ∧
      disconnect host beyond transports = ([], transports.erase t) := by
  have found := findTransport_of_only member named only
  refine ⟨found, ?_⟩
  cases host with
  | nil => exact absurd rfl nonempty
  | cons c host =>
      rw [disconnect, found]
      exact nonempty

theorem Refused.takeApart {host : List UInt8} (refused : Refused host) (leftover : Leftover)
    {hostbuf : List UInt8} {port : Int} {stored : Bool} :
    takeApart host leftover ≠ .dial hostbuf port stored := by
  cases refused with
  | host uncoloned long =>
      rw [takeApart_coloned uncoloned, if_pos long]
      exact Attempt.noConfusion
  | port uncoloned mismatch =>
      rw [takeApart_coloned uncoloned, mismatch]
      split
      · exact Attempt.noConfusion
      · exact Attempt.noConfusion

theorem chosen_plain {host : List UInt8} (plain : 0 ∉ host) (port : Int) :
    0 ∉ host ++ 58 :: decimal port := by
  rw [List.mem_append, List.mem_cons]
  rintro (inside | colon | digit)
  · exact plain inside
  · exact absurd colon (by decide)
  · exact mem_decimal digit rfl

theorem length_decimal_default : (decimal 5555).length = 4 := by
  decide

/-- Both sides use the address itself, with the default port behind it if it has none. -/
theorem Mirrored.serial {host : List UInt8} (mirrored : Mirrored host) (leftover : Leftover) :
    host ≠ [] ∧ ∃ hostbuf port, takeApart host leftover = .dial hostbuf port true ∧
      ∀ beyond, chosenSerial hostbuf port leftover = lookedUp host beyond := by
  cases mirrored with
  | host nonempty uncoloned short =>
      refine ⟨nonempty, host, 5555, ?_, fun beyond => ?_⟩
      · rw [takeApart_uncoloned uncoloned, FixedBuffer.readBack_of_lt (by omega)]
      · have length : (host ++ 58 :: decimal 5555).length = host.length + 5 := by
          rw [List.length_append, List.length_cons, length_decimal_default]
        rw [chosenSerial, lookedUp_uncoloned uncoloned, FixedBuffer.readBack_of_lt (by omega),
          FixedBuffer.readBack_of_lt (by omega)]
  | @port host port uncoloned lower upper short =>
      have front : ¬100 ≤ host.length := by
        rw [List.length_append] at short
        omega
      refine ⟨by simp, host, port, ?_, fun beyond => ?_⟩
      · rw [takeApart_coloned uncoloned, if_neg front, scanInt_decimal lower upper]
      · rw [chosenSerial, lookedUp_coloned uncoloned, FixedBuffer.readBack_of_lt (by omega)]

theorem agrees_of_mirrored {host : List UInt8} (mirrored : Mirrored host) : Agrees host where
  stored leftover hostbuf port stored apart := by
    obtain ⟨-, hostbuf', port', apart', -⟩ := mirrored.serial leftover
    rw [apart'] at apart
    cases apart
    rfl
  unregisters leftover connects lists address t registered beyond transports member only := by
    obtain ⟨nonempty, hostbuf, port, apart, same⟩ := mirrored.serial leftover
    have named := connectDevice_dial apart registered
    rw [same beyond] at named
    exact disconnect_of_serial nonempty member named only

theorem agrees_of_refused {host : List UInt8} (refused : Refused host) : Agrees host where
  stored leftover hostbuf port stored apart := absurd apart (refused.takeApart leftover)
  unregisters leftover connects lists address t registered := by
    cases apart : takeApart host leftover with
    | dial hostbuf port stored => exact absurd apart (refused.takeApart leftover)
    | badHostName =>
        rw [connectDevice, apart] at registered
        cases registered
    | badPortNumber portstr =>
        rw [connectDevice, apart] at registered
        cases registered

/-- A connection with no transport registered before. -/
theorem Agrees.looked_up {host hostbuf : List UInt8} {port : Int} {stored : Bool}
    {leftover : Leftover} (agrees : Agrees host)
    (apart : takeApart host leftover = .dial hostbuf port stored) (beyond : List UInt8) :
    chosenSerial hostbuf port leftover = lookedUp host beyond := by
  have registered : (connectDevice host leftover (fun _ _ => true) {} 0).registered =
      some ⟨0, .localTransport, 0, some (chosenSerial hostbuf port leftover)⟩ := by
    rw [connectDevice, apart]
    rfl
  have found := (agrees.unregisters _ _ _ _ _ registered beyond [_] List.mem_cons_self
    fun other member _ => List.mem_singleton.mp member).1
  have named := List.find?_some found
  simpa using named

/-- `disconnect:` without an address is about all transports. -/
theorem not_agrees_nil : ¬Agrees [] := by
  intro agrees
  have registered : (connectDevice [] ⟨[], 0, []⟩ (fun _ _ => true) {} 0).registered =
      some ⟨0, .localTransport, 0, some (58 :: decimal 5555)⟩ := by
    decide
  have removed := (agrees.unregisters _ _ _ _ _ registered []
    [⟨0, .localTransport, 0, some (58 :: decimal 5555)⟩, ⟨1, .localTransport, 0, none⟩]
    List.mem_cons_self (by decide)).2
  exact absurd removed (by decide)

/-- The serial that is chosen is the one that is looked up, and the port is stored, exactly for the
addresses that are written as the serial is. -/
theorem agrees_iff {host : List UInt8} (plain : 0 ∉ host) :
    Agrees host ↔ Refused host ∨ Mirrored host := by
  constructor
  · intro agrees
    by_cases coloned : 58 ∈ host
    · obtain ⟨front, rest, rfl, uncoloned⟩ := List.eq_append_cons_of_mem coloned
      have front_plain : 0 ∉ front := fun member => plain (List.mem_append_left _ member)
      by_cases long : 100 ≤ front.length
      · exact .inl (.host uncoloned long)
      · have apart (leftover : Leftover) := takeApart_coloned uncoloned rest leftover
        simp only [if_neg long] at apart
        cases scanned : scanInt rest with
        | mismatch => exact .inl (.port uncoloned scanned)
        | eof =>
            rw [scanned] at apart
            exact absurd (agrees.stored _ _ _ _ (apart ⟨[], 0, []⟩)) Bool.false_ne_true
        | number port =>
            rw [scanned] at apart
            have constant (beyond : List UInt8) :
                FixedBuffer.readBack 0 100 (front ++ 58 :: decimal port) beyond =
                  front ++ 58 :: rest := by
              rw [← lookedUp_coloned uncoloned rest []]
              exact agrees.looked_up (apart ⟨[], 0, beyond⟩) []
            obtain ⟨short, same⟩ := FixedBuffer.of_readBack_constant (chosen_plain front_plain port)
              (by decide : (1 : UInt8) ≠ 0) constant
            obtain ⟨lower, upper⟩ := scanInt_bounds scanned
            rw [← same]
            exact .inr (.port uncoloned lower upper (by omega))
    · by_cases empty : host = []
      · subst empty
        exact absurd agrees not_agrees_nil
      · have constant (beyond : List UInt8) :
            FixedBuffer.readBack 0 99 (host ++ 58 :: decimal 5555) beyond =
              chosenSerial (FixedBuffer.readBack 0 99 host []) 5555 ⟨[], 0, []⟩ := by
          rw [← lookedUp_uncoloned coloned]
          exact (agrees.looked_up (takeApart_uncoloned coloned ⟨[], 0, []⟩) beyond).symm
        obtain ⟨short, -⟩ := FixedBuffer.of_readBack_constant (chosen_plain plain 5555)
          (by decide : (1 : UInt8) ≠ 0) constant
        rw [List.length_append, List.length_cons, length_decimal_default] at short
        exact .inr (.host empty coloned (by omega))
  · rintro (refused | mirrored)
    · exact agrees_of_refused refused
    · exact agrees_of_mirrored mirrored

/-- A host with a port, one without, and one with a port that is no number. -/
theorem agrees_iff_three : Agrees [104, 58, 53] ∧ Agrees [104] ∧ Agrees [104, 58, 120] := by
  refine ⟨(agrees_iff (by decide)).mpr (.inr ?_), (agrees_iff (by decide)).mpr (.inr ?_),
    (agrees_iff (by decide)).mpr (.inl ?_)⟩
  · have written : ([104, 58, 53] : List UInt8) = [104] ++ 58 :: decimal 5 := by decide
    rw [written]
    exact .port (by decide) (by decide) (by decide) (by decide)
  · exact .host (by decide) (by decide) (by decide)
  · have written : ([104, 58, 120] : List UInt8) = [104] ++ 58 :: [120] := rfl
    rw [written]
    exact .port (by decide) (by decide)

/-- With a leading zero in the port, `connect_device` chooses another serial than `disconnect:`
looks up, and without a port behind the colon it uses a port that nothing has stored. -/
theorem not_agrees_zero : ¬Agrees [104, 58, 48, 53] ∧ ¬Agrees [104, 58] := by
  constructor
  · intro agrees
    have apart : takeApart [104, 58, 48, 53] ⟨[], 0, []⟩ = .dial [104] 5 true := by decide
    exact absurd (agrees.looked_up apart []) (by decide)
  · intro agrees
    have apart : takeApart [104, 58] ⟨[], 0, []⟩ = .dial [104] 0 false := by decide
    exact absurd (agrees.stored _ _ _ _ apart) Bool.false_ne_true

end Clients
end AdbWide
