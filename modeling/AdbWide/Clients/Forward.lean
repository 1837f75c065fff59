import AdbWide.Clients.Selection
import AdbWide.Listeners.Requests

/-!
# Forward commands

`adb forward` puts its arguments and the device they are for into one text.  The server takes the
text apart again: `smart_socket_enqueue` the part that says which device, `handle_host_request` the
rest.
-/

namespace AdbWide
namespace Clients

open Sockets.Server
open Listeners (Request parseRequest parseForward parseSpec behind)

/-! ## The command -/

/-- The device a command is for: `-s` with a serial, `-d`, `-e`, or none of them. -/
inductive Target where
  | serial (name : List UInt8)
  | usb
  | localTransport
  | any
  deriving DecidableEq, Repr

namespace Target

/-- What `acquire_one_transport` is to be given for the type. -/
def ttype : Target → TransportType
  | .serial _ => .any
  | .usb => .usb
  | .localTransport => .localTransport
  | .any => .any

/-- What `acquire_one_transport` is to be given for the serial. -/
def name : Target → Option (List UInt8)
  | .serial name => some name
  | .usb | .localTransport | .any => none

/-- The text for `host_prefix`. -/
def text : Target → List UInt8
  | .serial name => ascii "host-serial:" ++ name
  | .usb => ascii "host-usb"
  | .localTransport => ascii "host-local"
  | .any => ascii "host"

end Target

/-- The options of `adb forward`. -/
structure ForwardOptions where
  list : Bool := false
  remove : Bool := false
  removeAll : Bool := false
  noRebind : Bool := false
  deriving DecidableEq, Repr

/-- The loop over the options, with the arguments behind them; nothing for `usage()`. -/
def parseOptions (options : ForwardOptions) :
    List (List UInt8) → Option (ForwardOptions × List (List UInt8))
  | [] => some (options, [])
  | arg :: args =>
      if arg.head? = some 45 then
        if arg = ascii "--list" then parseOptions { options with list := true } args
        else if arg = ascii "--remove" then parseOptions { options with remove := true } args
        else if arg = ascii "--remove-all" then
          parseOptions { options with removeAll := true } args
        else if arg = ascii "--no-rebind" then
          parseOptions { options with noRebind := true } args
        else none
      else some (options, arg :: args)

/-- The memory behind the two buffers of the command. -/
structure Memory where
  behindHost : List UInt8
  behindBuf : List UInt8

/-- The text of the command in `buf[4096]`; nothing for `usage()`. -/
def forwardCommand (target : Target) (args : List (List UInt8)) (memory : Memory) :
    Option (List UInt8) :=
  match parseOptions {} args with
  | none => none
  | some (options, args) =>
      if 1 < options.list.toNat + options.remove.toNat + options.removeAll.toNat +
          options.noRebind.toNat then none
      else
        -- `host_prefix[64]`
        let host := FixedBuffer.readBack 0 64 target.text memory.behindHost
        let written (text : List UInt8) := some (FixedBuffer.readBack 0 4096 text memory.behindBuf)
        if options.list then
          match args with
          | [] => written (host ++ ascii ":list-forward")
          | _ => none
        else if options.removeAll then
          match args with
          | [] => written (host ++ ascii ":killforward-all")
          | _ => none
        else if options.remove then
          match args with
          | [localName] => written (host ++ ascii ":killforward:" ++ localName)
          | _ => none
        else
          match args with
          | [localName, remote] =>
              let command := if options.noRebind then ascii "forward:norebind:" else ascii "forward"
              written
                (host ++ ascii ":" ++ command ++ ascii ":" ++ localName ++ ascii ";" ++ remote)
          | _ => none

/-- What `_adb_connect` writes to the server, if the text has an allowed length. -/
def connectBytes (service : List UInt8) : Option (List UInt8) :=
  if service.length < 1 ∨ 1024 < service.length then none else some (frame service)

/-- What the server is asked for: the type and the serial for `acquire_one_transport`, and the
listeners to install or to remove. -/
structure ForwardRequest where
  ttype : TransportType
  serial : Option (List UInt8)
  request : Request
  deriving DecidableEq, Repr

/-- How the server takes the bytes of a client apart. -/
def forwardRequest (bytes : List UInt8) : Option ForwardRequest :=
  match progress [] bytes with
  | .complete text _ =>
      (hostRequest text).map fun host => ⟨host.ttype, host.serial, parseRequest host.service⟩
  | .overflow | .waiting | .malformed => none

/-- What becomes of a command. -/
def forwarded (target : Target) (args : List (List UInt8)) (memory : Memory) :
    Option ForwardRequest :=
  ((forwardCommand target args memory).bind connectBytes).bind forwardRequest

/-! ## Requests about listeners -/

theorem ascii_norebind :
    ascii "norebind:" = [110, 111, 114, 101, 98, 105, 110, 100, 58] := by
  with_unfolding_all decide

theorem takeWhile_stop {c : UInt8} {text : List UInt8} (outside : c ∉ text) (rest : List UInt8) :
    (text ++ c :: rest).takeWhile (· ≠ c) = text := by
  rw [List.takeWhile_append_of_pos, List.takeWhile_cons_of_neg (by simp), List.append_nil]
  intro byte member
  have other : byte ≠ c := fun same => outside (same ▸ member)
  simpa using other

theorem dropWhile_stop {c : UInt8} {text : List UInt8} (outside : c ∉ text) (rest : List UInt8) :
    (text ++ c :: rest).dropWhile (· ≠ c) = c :: rest := by
  rw [List.dropWhile_append_of_pos, List.dropWhile_cons_of_neg (by simp)]
  intro byte member
  have other : byte ≠ c := fun same => outside (same ▸ member)
  simpa using other

theorem split_behind {c : UInt8} {text : List UInt8} (member : c ∈ text) :
    text = text.takeWhile (· ≠ c) ++ c :: behind c text := by
  have whole := (List.takeWhile_append_dropWhile (p := fun x => decide (x ≠ c)) (l := text)).symm
  cases rest : text.dropWhile (· ≠ c) with
  | nil =>
      rw [rest, List.append_nil] at whole
      rw [whole] at member
      simpa using List.mem_takeWhile_imp member
  | cons head tail =>
      have stopped : head = c := by
        have found := List.head?_dropWhile_not (fun x => decide (x ≠ c)) text
        rw [rest] at found
        simpa using found
      rw [rest, stopped] at whole
      rw [behind, rest, List.tail_cons]
      exact whole

theorem parseSpec_forward {noRebind flag : Bool} {spec localName remote : List UInt8}
    (parsed : parseSpec noRebind spec = .forward flag localName remote) :
    flag = noRebind ∧ spec = localName ++ 59 :: remote := by
  unfold parseSpec at parsed
  split at parsed
  · next member =>
      dsimp only at parsed
      split at parsed
      · cases parsed
      · obtain ⟨rfl, rfl, rfl⟩ := Request.forward.inj parsed
        exact ⟨rfl, split_behind member⟩
  · cases parsed

/-- The text of a request to install a listener. -/
def installText (noRebind : Bool) (localName remote : List UInt8) : List UInt8 :=
  ascii "forward:" ++ ((if noRebind then ascii "norebind:" else []) ++ (localName ++ 59 :: remote))

theorem behind_forward (arguments : List UInt8) :
    behind 58 (ascii "forward:" ++ arguments) = arguments := by
  simp [behind, Listeners.ascii_forward]

theorem behind_norebind (arguments : List UInt8) :
    behind 58 (ascii "norebind:" ++ arguments) = arguments := by
  simp [behind, ascii_norebind]

theorem eq_installText {service : List UInt8} {noRebind : Bool} {localName remote : List UInt8}
    (parsed : parseRequest service = .forward noRebind localName remote) :
    service = installText noRebind localName remote := by
  unfold parseRequest at parsed
  split at parsed
  · cases parsed
  split at parsed
  · cases parsed
  split at parsed
  swap
  · cases parsed
  next named =>
    dsimp only at parsed
    split at parsed
    · split at parsed <;> cases parsed
    · next alive =>
        rcases named with forward | killforward
        · obtain ⟨arguments, rfl⟩ := List.isPrefixOf_iff_prefix.mp forward
          rw [behind_forward, parseForward] at parsed
          rw [installText]
          split at parsed
          · next rebinds =>
              obtain ⟨spec, rfl⟩ := List.isPrefixOf_iff_prefix.mp rebinds
              rw [behind_norebind] at parsed
              obtain ⟨rfl, rfl⟩ := parseSpec_forward parsed
              rw [if_pos rfl]
          · obtain ⟨rfl, rfl⟩ := parseSpec_forward parsed
            rw [if_neg Bool.false_ne_true, List.nil_append]
        · obtain ⟨arguments, rfl⟩ := List.isPrefixOf_iff_prefix.mp killforward
          simp [Listeners.ascii_kill, Listeners.ascii_killforward] at alive

/-- A local and a remote end that a listener can be asked for. -/
structure IsSpec (localName remote : List UInt8) : Prop where
  localNonempty : localName ≠ []
  localPlain : 0 ∉ localName
  localUnsplit : 59 ∉ localName
  localRebinds : ¬ascii "norebind:" <+: localName
  remoteNonempty : remote ≠ []
  remotePlain : 0 ∉ remote
  remoteUnsplit : 59 ∉ remote
  remoteOrdinary : ¬ascii "*" <+: remote

theorem IsSpec.not_norebind {localName remote : List UInt8} (spec : IsSpec localName remote) :
    ¬(ascii "norebind:").isPrefixOf (localName ++ 59 :: remote) = true := by
  intro named
  rw [List.isPrefixOf_iff_prefix] at named
  rcases List.prefix_or_prefix_of_prefix named (List.prefix_append _ _) with inside | inside
  · exact spec.localRebinds inside
  · -- The word would go on with the semicolon.
    obtain ⟨more, whole⟩ := named
    obtain ⟨rest, word⟩ := inside
    rw [← word, List.append_assoc] at whole
    have behind := List.append_cancel_left whole
    cases rest with
    | nil =>
        rw [List.append_nil] at word
        exact spec.localRebinds ⟨[], by rw [List.append_nil, word]⟩
    | cons head rest =>
        obtain ⟨rfl, -⟩ := List.cons.inj behind
        have stops : 59 ∉ ascii "norebind:" := by with_unfolding_all decide
        exact stops (word ▸ by simp)

theorem IsSpec.parseRequest {localName remote : List UInt8} (spec : IsSpec localName remote) :
    parseRequest (installText false localName remote) = .forward false localName remote := by
  have named : (ascii "forward:").isPrefixOf (installText false localName remote) = true := by
    simp [installText]
  have not_list : installText false localName remote ≠ ascii "list-forward" := by
    simp [installText, Listeners.ascii_forward, Listeners.ascii_listForward]
  have not_all : installText false localName remote ≠ ascii "killforward-all" := by
    simp [installText, Listeners.ascii_forward, Listeners.ascii_killforwardAll]
  have alive : ¬(ascii "kill").isPrefixOf (installText false localName remote) = true := by
    rw [Listeners.not_kill_of_forward named]
    exact Bool.false_ne_true
  have ordinary : ¬(ascii "*").isPrefixOf remote = true := by
    rw [List.isPrefixOf_iff_prefix]
    exact spec.remoteOrdinary
  have rest : behind 59 (localName ++ 59 :: remote) = remote := by
    rw [behind, dropWhile_stop spec.localUnsplit, List.tail_cons]
  rw [Listeners.parseRequest, if_neg not_list, if_neg not_all, if_pos (.inl named)]
  dsimp only
  rw [if_neg alive, installText, behind_forward, if_neg Bool.false_ne_true, List.nil_append,
    parseForward, if_neg spec.not_norebind, parseSpec, if_pos (by simp)]
  dsimp only
  rw [takeWhile_stop spec.localUnsplit, rest,
    if_neg (not_or.mpr ⟨spec.localNonempty, not_or.mpr ⟨spec.remoteNonempty, ordinary⟩⟩)]

/-! ## Serials -/

/-- A serial is a name, or a host and a port. -/
structure IsSerial (name : List UInt8) : Prop where
  nonempty : name ≠ []
  plain : 0 ∉ name
  form : 58 ∉ name ∨ ∃ host port, name = host ++ 58 :: port ∧ 58 ∉ host ∧ port ≠ [] ∧
    ∀ byte ∈ port, isDigit byte = true

/-- The words that `skip_host_serial` takes for the start of a longer serial. -/
def reservedSerials : List (List UInt8) :=
  [ascii "usb", ascii "product", ascii "model", ascii "device"]

theorem serialPrefixes_eq : serialPrefixes = reservedSerials.map (· ++ [58]) := by
  with_unfolding_all decide

theorem fromColon_append {name : List UInt8} (uncoloned : 58 ∉ name) (rest : List UInt8) :
    fromColon (name ++ 58 :: rest) = some (58 :: rest) := by
  rw [fromColon, dropWhile_stop uncoloned]

/-- The text before the first colon is determined by any text that starts with it. -/
theorem eq_of_colon_append {word name rest : List UInt8} (uncoloned : 58 ∉ word)
    (clean : 58 ∉ name) (starts : word ++ [58] <+: name ++ 58 :: rest) : word = name := by
  obtain ⟨more, whole⟩ := starts
  rw [List.append_assoc, List.singleton_append] at whole
  rw [← takeWhile_stop uncoloned more, whole, takeWhile_stop clean]

theorem reserved_uncoloned : ∀ word ∈ reservedSerials, 58 ∉ word := by
  with_unfolding_all decide

/-- The known start of a text, which is all of it up to the first colon. -/
theorem find_serialPrefixes {name : List UInt8} (uncoloned : 58 ∉ name) (rest : List UInt8) :
    serialPrefixes.find? (·.isPrefixOf (name ++ 58 :: rest)) =
      if name ∈ reservedSerials then some (name ++ [58]) else none := by
  split
  · next reserved =>
      cases found : serialPrefixes.find? (·.isPrefixOf (name ++ 58 :: rest)) with
      | none =>
          have unknown := List.find?_eq_none.mp found (name ++ [58])
            (serialPrefixes_eq ▸ List.mem_map_of_mem reserved)
          simp at unknown
      | some known =>
          have starts := List.find?_some found
          have member := List.mem_of_find?_eq_some found
          rw [serialPrefixes_eq] at member
          obtain ⟨word, inside, rfl⟩ := List.mem_map.mp member
          rw [eq_of_colon_append (reserved_uncoloned word inside) uncoloned
            (List.isPrefixOf_iff_prefix.mp starts)]
  · next free =>
      rw [List.find?_eq_none]
      intro known member starts
      rw [serialPrefixes_eq] at member
      obtain ⟨word, inside, rfl⟩ := List.mem_map.mp member
      have same := eq_of_colon_append (reserved_uncoloned word inside) uncoloned
        (List.isPrefixOf_iff_prefix.mp starts)
      exact free (same ▸ inside)

theorem skipHostSerial_of_reserved {word : List UInt8} (reserved : word ∈ reservedSerials)
    (rest : List UInt8) : skipHostSerial (word ++ 58 :: rest) = fromColon rest := by
  rw [skipHostSerial, find_serialPrefixes (reserved_uncoloned word reserved), if_pos reserved]
  have whole : word ++ 58 :: rest = word ++ [58] ++ rest := by simp
  simp only [whole, List.drop_left]

/-- A serial that is no reserved word is found again in front of a service. -/
theorem IsSerial.skipHostSerial {name rest : List UInt8} (serial : IsSerial name)
    (free : name ∉ reservedSerials) (letter : rest.head?.any isDigit = false) :
    skipHostSerial (name ++ 58 :: rest) = some (58 :: rest) := by
  rcases serial.form with uncoloned | ⟨host, port, rfl, uncoloned, nonempty, digits⟩
  · rw [Sockets.Server.skipHostSerial, find_serialPrefixes uncoloned, if_neg free]
    dsimp only
    rw [fromColon_append uncoloned]
    simp [letter]
  · have closed : 58 ∉ port := fun member => by simpa [isDigit] using digits 58 member
    rw [List.append_assoc, List.cons_append]
    by_cases reserved : host ∈ reservedSerials
    · rw [skipHostSerial_of_reserved reserved, fromColon_append closed]
    · rw [Sockets.Server.skipHostSerial, find_serialPrefixes uncoloned, if_neg reserved]
      dsimp only
      rw [fromColon_append uncoloned]
      obtain ⟨first, more, rfl⟩ := List.exists_cons_of_ne_nil nonempty
      have port_end : (first :: more ++ 58 :: rest).dropWhile isDigit = 58 :: rest := by
        rw [List.dropWhile_append_of_pos digits, List.dropWhile_cons_of_neg (by decide)]
      have digit := digits first List.mem_cons_self
      simp only [List.tail_cons, port_end]
      simp [digit]

namespace Target

/-- The serial, if there is one, has the form of one. -/
def Valid : Target → Prop
  | .serial name => IsSerial name
  | .usb | .localTransport | .any => True

/-- The serial, if there is one, fits `host_prefix` and is none of the reserved words. -/
def Readable : Target → Prop
  | .serial name => name.length ≤ 51 ∧ name ∉ reservedSerials
  | .usb | .localTransport | .any => True

end Target

theorem hostRequest_serial (name rest service : List UInt8)
    (skipped : skipHostSerial (name ++ 58 :: rest) = some (58 :: service)) :
    hostRequest (ascii "host-serial:" ++ name ++ 58 :: rest) =
      some {
        service
        serial := some ((name ++ 58 :: rest).take
          ((name ++ 58 :: rest).length - (58 :: service).length)) } := by
  have named : (ascii "host-serial:").isPrefixOf (ascii "host-serial:" ++ (name ++ 58 :: rest)) =
      true := by
    simp
  rw [List.append_assoc, hostRequest, if_pos named]
  simp only [List.drop_left, skipped, List.tail_cons]

theorem hostRequest_target {target : Target} (valid : target.Valid) (readable : target.Readable)
    {service : List UInt8} (letter : service.head?.any isDigit = false) :
    hostRequest (target.text ++ 58 :: service) =
      some { service, ttype := target.ttype, serial := target.name } := by
  have usb : ascii "host-usb" = [104, 111, 115, 116, 45, 117, 115, 98] := by
    with_unfolding_all decide
  have loopback : ascii "host-local" = [104, 111, 115, 116, 45, 108, 111, 99, 97, 108] := by
    with_unfolding_all decide
  have host : ascii "host" = [104, 111, 115, 116] := by with_unfolding_all decide
  cases target with
  | serial name =>
      rw [Target.text, hostRequest_serial name service service
        (valid.skipHostSerial readable.2 letter)]
      simp [Target.ttype, Target.name]
  | usb =>
      simp [hostRequest, Target.text, Target.ttype, Target.name, ascii_hostSerial, ascii_hostUsb,
        usb]
  | localTransport =>
      simp [hostRequest, Target.text, Target.ttype, Target.name, ascii_hostSerial, ascii_hostUsb,
        ascii_hostLocal, loopback]
  | any =>
      simp [hostRequest, Target.text, Target.ttype, Target.name, ascii_hostSerial, ascii_hostUsb,
        ascii_hostLocal, ascii_host, host]

theorem fromColon_suffix {text rest : List UInt8} (found : fromColon text = some rest) :
    rest <:+ text ∧ rest.head? = some 58 := by
  rw [fromColon] at found
  split at found
  · cases found
  · next colon =>
      obtain rfl := Option.some.inj found
      refine ⟨List.dropWhile_suffix _, ?_⟩
      have stopped := List.head?_dropWhile_not (fun byte => decide (byte ≠ 58)) text
      cases dropped : text.dropWhile (fun byte => decide (byte ≠ 58)) with
      | nil => exact absurd dropped colon
      | cons head tail =>
          rw [dropped] at stopped
          simpa using stopped

/-- What `skip_host_serial` finds is the text from some colon on. -/
theorem skipHostSerial_suffix {service rest : List UInt8}
    (skipped : skipHostSerial service = some rest) :
    rest <:+ service ∧ rest.head? = some 58 := by
  rw [skipHostSerial] at skipped
  split at skipped
  · obtain ⟨suffix, head⟩ := fromColon_suffix skipped
    exact ⟨suffix.trans (List.drop_suffix _ _), head⟩
  · split at skipped
    · cases skipped
    · next found =>
        obtain ⟨suffix, head⟩ := fromColon_suffix found
        dsimp only at skipped
        split at skipped
        · next port =>
            obtain rfl := Option.some.inj skipped
            exact ⟨(List.dropWhile_suffix _).trans ((List.tail_suffix _).trans suffix), port.2⟩
        · obtain rfl := Option.some.inj skipped
          exact ⟨suffix, head⟩

/-- A request with a serial names it in front of the service, and any other is some end of the
text. -/
theorem hostRequest_cases {text : List UInt8} {request : HostRequest}
    (found : hostRequest text = some request) :
    (∃ name service, text = ascii "host-serial:" ++ name ++ 58 :: service ∧
        request = { service, serial := some name }) ∨
      request.serial = none ∧ request.service <:+ text := by
  rw [hostRequest] at found
  split at found
  · next starts =>
      obtain ⟨service, rfl⟩ := List.isPrefixOf_iff_prefix.mp starts
      rw [List.drop_left] at found
      dsimp only at found
      split at found
      · next rest skipped =>
          obtain ⟨⟨name, whole⟩, head⟩ := skipHostSerial_suffix skipped
          obtain rfl := Option.some.inj found
          obtain ⟨tail, rfl⟩ := List.head?_eq_some_iff.mp head
          refine .inl ⟨name, tail, by rw [← whole, List.append_assoc], ?_⟩
          rw [← whole]
          simp
      · obtain rfl := Option.some.inj found
        exact .inr ⟨rfl, List.suffix_append _ _⟩
  · split at found
    · obtain rfl := Option.some.inj found
      exact .inr ⟨rfl, List.drop_suffix _ _⟩
    · split at found
      · obtain rfl := Option.some.inj found
        exact .inr ⟨rfl, List.drop_suffix _ _⟩
      · split at found
        · obtain rfl := Option.some.inj found
          exact .inr ⟨rfl, List.drop_suffix _ _⟩
        · cases found

/-- The text of a request is what was found in it. -/
theorem eq_of_hostRequest {text name : List UInt8} {request : HostRequest}
    (found : hostRequest text = some request) (named : request.serial = some name) :
    text = ascii "host-serial:" ++ name ++ 58 :: request.service := by
  rcases hostRequest_cases found with ⟨name', service, whole, rfl⟩ | ⟨nameless, -⟩
  · obtain rfl := Option.some.inj named
    exact whole
  · rw [nameless] at named
    cases named

theorem hostRequest_suffix {text : List UInt8} {request : HostRequest}
    (found : hostRequest text = some request) : request.service <:+ text := by
  rcases hostRequest_cases found with ⟨name, service, rfl, rfl⟩ | ⟨-, suffix⟩
  · exact ⟨ascii "host-serial:" ++ name ++ [58], by simp⟩
  · exact suffix

/-! ## From the arguments to the server -/

/-- The arguments of `adb forward [--no-rebind] <local> <remote>`. -/
def installArgs (noRebind : Bool) (localName remote : List UInt8) : List (List UInt8) :=
  (if noRebind then [ascii "--no-rebind"] else []) ++ [localName, remote]

/-- The arguments of `adb forward --remove <local>`. -/
def removeArgs (localName : List UInt8) : List (List UInt8) := [ascii "--remove", localName]

/-- What is written behind `host_prefix` to install a listener. -/
def installCommand (noRebind : Bool) (localName remote : List UInt8) : List UInt8 :=
  ascii ":" ++ (if noRebind then ascii "forward:norebind:" else ascii "forward") ++ ascii ":" ++
    localName ++ ascii ";" ++ remote

/-- What is written behind `host_prefix` to remove one. -/
def removeCommand (localName : List UInt8) : List UInt8 := ascii ":killforward:" ++ localName

theorem installCommand_false (localName remote : List UInt8) :
    installCommand false localName remote = 58 :: installText false localName remote := by
  have colon : ascii ":" = [58] := by with_unfolding_all decide
  have semicolon : ascii ";" = [59] := by with_unfolding_all decide
  have forward : ascii "forward:" = ascii "forward" ++ [58] := by with_unfolding_all decide
  simp [installCommand, installText, colon, semicolon, forward]

theorem removeCommand_eq (localName : List UInt8) :
    removeCommand localName = 58 :: (ascii "killforward:" ++ localName) := by
  have colon : ascii ":killforward:" = 58 :: ascii "killforward:" := by with_unfolding_all decide
  rw [removeCommand, colon, List.cons_append]

section

variable {target : Target} {memory : Memory} {localName remote : List UInt8} {noRebind : Bool}

theorem forwardCommand_install (dashless : localName.head? ≠ some 45) :
    forwardCommand target (installArgs noRebind localName remote) memory =
      some (FixedBuffer.readBack 0 4096
        (FixedBuffer.readBack 0 64 target.text memory.behindHost ++
          installCommand noRebind localName remote) memory.behindBuf) := by
  have dash : (ascii "--no-rebind").head? = some 45 := by with_unfolding_all decide
  have not_list : ascii "--no-rebind" ≠ ascii "--list" := by with_unfolding_all decide
  have not_remove : ascii "--no-rebind" ≠ ascii "--remove" := by with_unfolding_all decide
  have not_all : ascii "--no-rebind" ≠ ascii "--remove-all" := by with_unfolding_all decide
  cases noRebind with
  | false =>
      simp [forwardCommand, installArgs, parseOptions, dashless, installCommand]
  | true =>
      simp [forwardCommand, installArgs, parseOptions, dashless, installCommand, dash, not_list,
        not_remove, not_all]

theorem forwardCommand_remove (dashless : localName.head? ≠ some 45) :
    forwardCommand target (removeArgs localName) memory =
      some (FixedBuffer.readBack 0 4096
        (FixedBuffer.readBack 0 64 target.text memory.behindHost ++ removeCommand localName)
        memory.behindBuf) := by
  have dash : (ascii "--remove").head? = some 45 := by with_unfolding_all decide
  have not_list : ascii "--remove" ≠ ascii "--list" := by with_unfolding_all decide
  simp [forwardCommand, removeArgs, parseOptions, dashless, removeCommand, dash, not_list]

/-- A text that is sent as it is. -/
theorem forwardRequest_frame {text : List UInt8} (request : IsRequest text) :
    (connectBytes text).bind forwardRequest =
      (hostRequest text).map fun host => ⟨host.ttype, host.serial, parseRequest host.service⟩ := by
  have nonempty := request.nonempty
  have short := request.short
  rw [connectBytes, if_neg (by omega), Option.bind_some, forwardRequest, progress_frame request]

theorem forwarded_cases {args : List (List UInt8)} {text : List UInt8} {result : ForwardRequest}
    (written : forwardCommand target args memory = some text) (plain : 0 ∉ text)
    (understood : forwarded target args memory = some result) :
    text.length ≤ 1024 ∧ ∃ host, hostRequest text = some host ∧
      result = ⟨host.ttype, host.serial, parseRequest host.service⟩ := by
  rw [forwarded, written, Option.bind_some] at understood
  by_cases sized : text.length < 1 ∨ 1024 < text.length
  · rw [connectBytes, if_pos sized] at understood
    cases understood
  · have request : IsRequest text := by
      refine ⟨by omega, by omega, ?_⟩
      rintro byte member rfl
      exact plain member
    rw [forwardRequest_frame request] at understood
    obtain ⟨host, found, same⟩ := Option.map_eq_some_iff.mp understood
    exact ⟨by omega, host, found, same.symm⟩

theorem Target.Valid.plain (valid : target.Valid) : 0 ∉ target.text := by
  cases target with
  | serial name =>
      rw [Target.text, ascii_hostSerial]
      simpa using IsSerial.plain valid
  | usb | localTransport | any =>
      simp only [Target.text]
      with_unfolding_all decide

theorem Target.Readable.fits (readable : target.Readable) : target.text.length < 64 := by
  cases target with
  | serial name =>
      have short := readable.1
      rw [Target.text, ascii_hostSerial, List.length_append]
      simp only [List.length_cons, List.length_nil]
      omega
  | usb | localTransport | any =>
      simp only [Target.text]
      with_unfolding_all decide

/-- What is behind the prefix comes to `handle_host_request` if the prefix can be read. -/
theorem forwarded_of_readable {args : List (List UInt8)} {service : List UInt8}
    (valid : target.Valid) (readable : target.Readable)
    (written : forwardCommand target args memory = some (FixedBuffer.readBack 0 4096
      (FixedBuffer.readBack 0 64 target.text memory.behindHost ++ 58 :: service)
      memory.behindBuf))
    (plain : 0 ∉ service) (letter : service.head?.any isDigit = false)
    (short : (target.text ++ 58 :: service).length ≤ 1024) :
    forwarded target args memory =
      some ⟨target.ttype, target.name, parseRequest service⟩ := by
  rw [FixedBuffer.readBack_of_lt readable.fits, FixedBuffer.readBack_of_lt (by omega)] at written
  have request : IsRequest (target.text ++ 58 :: service) := by
    refine ⟨?_, short, ?_⟩
    · rw [List.length_append, List.length_cons]
      omega
    · rintro byte member rfl
      rcases List.mem_append.mp member with inside | inside
      · exact valid.plain inside
      · rw [List.mem_cons] at inside
        exact inside.elim (by decide) plain
  rw [forwarded, written, Option.bind_some, forwardRequest_frame request,
    hostRequest_target valid readable letter, Option.map_some]

/-- If what is behind the prefix comes to `handle_host_request` whatever there is in memory, then
the prefix can be read. -/
theorem readable_of_forwarded {args : List (List UInt8)} {service : List UInt8}
    {request : Request} (valid : target.Valid)
    (written : ∀ memory, forwardCommand target args memory = some (FixedBuffer.readBack 0 4096
      (FixedBuffer.readBack 0 64 target.text memory.behindHost ++ 58 :: service)
      memory.behindBuf))
    (plain : 0 ∉ service) (unique : ∀ other, parseRequest other = request → other = service)
    (understood : ∀ memory,
      forwarded target args memory = some ⟨target.ttype, target.name, request⟩) :
    target.Readable := by
  cases target with
  | usb | localTransport | any => trivial
  | serial name =>
      -- What is sent is the text that was meant.
      have whole (beyond : List UInt8) :
          ∃ host, hostRequest ((Target.serial name).text ++ 58 :: service) = some host ∧
            host.serial = some name ∧ host.service = service ∧
            FixedBuffer.readBack 0 64 (Target.serial name).text beyond =
              (Target.serial name).text := by
        have host_plain : 0 ∉ FixedBuffer.readBack 0 64 (Target.serial name).text beyond :=
          FixedBuffer.readBack_plain valid.plain beyond
        have inner :
            0 ∉ FixedBuffer.readBack 0 64 (Target.serial name).text beyond ++ 58 :: service := by
          simp [host_plain, plain]
        obtain ⟨short, host, found, same⟩ := forwarded_cases (written ⟨beyond, []⟩)
          (FixedBuffer.readBack_plain inner []) (understood ⟨beyond, []⟩)
        obtain ⟨-, serial, parsed⟩ := ForwardRequest.mk.inj same
        have sent := eq_of_hostRequest found serial.symm
        rw [unique host.service parsed.symm] at sent
        have fits : (FixedBuffer.readBack 0 64 (Target.serial name).text beyond ++
            58 :: service).length < 4096 := by
          by_contra full
          rw [FixedBuffer.readBack_of_le inner (Nat.not_lt.mp full), List.length_append,
            List.length_take] at short
          omega
        rw [FixedBuffer.readBack_of_lt fits] at sent found
        rw [sent] at found
        exact ⟨host, found, serial.symm, unique host.service parsed.symm,
          List.append_cancel_right sent⟩
      refine ⟨?_, fun reserved => ?_⟩
      · have letter : (120 : UInt8) ≠ 0 := by decide
        have fits : (Target.serial name).text.length < 64 :=
          (FixedBuffer.readBack_eq_self_iff valid.plain letter).mp
            fun beyond => (whole beyond).choose_spec.2.2.2
        rw [Target.text, ascii_hostSerial, List.length_append] at fits
        simp only [List.length_cons, List.length_nil] at fits
        omega
      · -- A reserved word would take the serial up to the colon in the service.
        obtain ⟨host, found, serial, same, -⟩ := whole []
        cases colon : fromColon service with
        | none =>
            rw [Target.text, List.append_assoc, hostRequest, if_pos (by simp)] at found
            simp only [List.drop_left, skipHostSerial_of_reserved reserved, colon] at found
            obtain rfl := Option.some.inj found
            cases serial
        | some rest =>
            obtain ⟨suffix, head⟩ := fromColon_suffix colon
            obtain ⟨tail, rfl⟩ := List.head?_eq_some_iff.mp head
            rw [Target.text, hostRequest_serial name service tail
              (by rw [skipHostSerial_of_reserved reserved, colon])] at found
            obtain rfl := Option.some.inj found
            have shorter := suffix.length_le
            have equal : tail.length = service.length := congrArg List.length same
            rw [List.length_cons] at shorter
            omega

/-! ## Names that look like options -/

/-- The options `adb forward` knows. -/
def optionNames : List (List UInt8) :=
  [ascii "--list", ascii "--remove", ascii "--remove-all", ascii "--no-rebind"]

/-- The options are taken off the arguments, and what is left does not look like one. -/
theorem parseOptions_cases {options parsed : ForwardOptions} {args rest : List (List UInt8)}
    (found : parseOptions options args = some (parsed, rest)) :
    ∃ used, args = used ++ rest ∧ (∀ arg ∈ used, arg ∈ optionNames) ∧
      ∀ arg, rest.head? = some arg → arg.head? ≠ some 45 := by
  induction args generalizing options with
  | nil =>
      obtain ⟨-, rfl⟩ := Prod.mk.inj (Option.some.inj found)
      exact ⟨[], rfl, by simp, by simp⟩
  | cons arg args induction =>
      have after {options : ForwardOptions} (known : arg ∈ optionNames)
          (found : parseOptions options args = some (parsed, rest)) :
          ∃ used, arg :: args = used ++ rest ∧ (∀ arg ∈ used, arg ∈ optionNames) ∧
            ∀ arg, rest.head? = some arg → arg.head? ≠ some 45 := by
        obtain ⟨used, split, names, plain⟩ := induction found
        refine ⟨arg :: used, by rw [split, List.cons_append], ?_, plain⟩
        intro other member
        rcases List.mem_cons.mp member with rfl | inside
        · exact known
        · exact names other inside
      rw [parseOptions] at found
      split at found
      · split at found
        · next same => exact after (by simp [optionNames, same]) found
        · split at found
          · next same => exact after (by simp [optionNames, same]) found
          · split at found
            · next same => exact after (by simp [optionNames, same]) found
            · split at found
              · next same => exact after (by simp [optionNames, same]) found
              · cases found
      · next dashless =>
          obtain ⟨-, rfl⟩ := Prod.mk.inj (Option.some.inj found)
          refine ⟨[], rfl, by simp, ?_⟩
          intro other head
          obtain rfl := Option.some.inj head
          exact dashless

/-- A local end that looks like an option is taken for one. -/
theorem parseOptions_dash {options parsed : ForwardOptions} {rest : List (List UInt8)}
    (dash : localName.head? = some 45)
    (found : parseOptions options (installArgs noRebind localName remote) = some (parsed, rest)) :
    rest = [remote] ∨ rest = [] ∧ remote ∈ optionNames := by
  obtain ⟨used, split, names, plain⟩ := parseOptions_cases found
  have flag : (ascii "--no-rebind").head? = some 45 := by with_unfolding_all decide
  have suffix : rest <:+ installArgs noRebind localName remote := ⟨used, split.symm⟩
  have short : rest <:+ [remote] := by
    have two : rest <:+ [localName, remote] := by
      cases noRebind with
      | false => exact suffix
      | true =>
          rcases List.suffix_cons_iff.mp suffix with rfl | inside
          · exact absurd flag (plain _ rfl)
          · exact inside
    rcases List.suffix_cons_iff.mp two with rfl | inside
    · exact absurd dash (plain _ rfl)
    · exact inside
  rcases List.suffix_cons_iff.mp short with one | none
  · exact .inl one
  · have empty : rest = [] := List.suffix_nil.mp none
    refine .inr ⟨empty, names remote ?_⟩
    rw [empty, List.append_nil] at split
    rw [← split, installArgs]
    simp

/-- The commands such a local end can lead to. -/
theorem forwardCommand_dash {text : List UInt8} (dash : localName.head? = some 45)
    (written : forwardCommand target (installArgs noRebind localName remote) memory =
      some text) :
    ∃ command, text = FixedBuffer.readBack 0 4096
        (FixedBuffer.readBack 0 64 target.text memory.behindHost ++ command) memory.behindBuf ∧
      (command = ascii ":killforward:" ++ remote ∨ remote ∈ optionNames ∧
        (command = ascii ":list-forward" ∨ command = ascii ":killforward-all")) := by
  rw [forwardCommand] at written
  split at written
  · cases written
  · next options rest found =>
      have few := parseOptions_dash dash found
      split at written
      · cases written
      dsimp only at written
      split at written
      · rcases few with rfl | ⟨rfl, known⟩
        · cases written
        · exact ⟨_, (Option.some.inj written).symm, .inr ⟨known, .inl rfl⟩⟩
      split at written
      · rcases few with rfl | ⟨rfl, known⟩
        · cases written
        · exact ⟨_, (Option.some.inj written).symm, .inr ⟨known, .inr rfl⟩⟩
      split at written
      · rcases few with rfl | ⟨rfl, known⟩
        · refine ⟨_, ?_, .inl rfl⟩
          rw [← List.append_assoc]
          exact (Option.some.inj written).symm
        · cases written
      · rcases few with rfl | ⟨rfl, known⟩ <;> cases written

/-- A text has one character before its last so many. -/
theorem eq_of_suffix_cons {first second : UInt8} {text rest : List UInt8}
    (one : first :: rest <:+ text) (two : second :: rest <:+ text) : first = second := by
  have inside := List.suffix_of_suffix_length_le one two (Nat.le_refl _)
  exact (List.cons.inj (inside.eq_of_length rfl)).1

theorem no_semicolon_before_option : ∀ name ∈ optionNames,
    ∀ command ∈ [ascii ":list-forward", ascii ":killforward-all"],
      (59 :: name).length ≤ command.length ∧ ¬59 :: name <:+ command := by
  with_unfolding_all decide

/-- None of these commands asks for the listener. -/
theorem not_installed_of_dash (valid : target.Valid) (spec : IsSpec localName remote)
    (short : remote.length ≤ 1024) (dash : localName.head? = some 45)
    {ttype : TransportType} {serial : Option (List UInt8)} :
    forwarded target (installArgs noRebind localName remote) ⟨[], []⟩ ≠
      some ⟨ttype, serial, .forward noRebind localName remote⟩ := by
  intro understood
  cases written : forwardCommand target (installArgs noRebind localName remote) ⟨[], []⟩ with
  | none =>
      rw [forwarded, written] at understood
      cases understood
  | some text =>
      obtain ⟨command, text_eq, commands⟩ := forwardCommand_dash dash written
      have host_plain : 0 ∉ FixedBuffer.readBack 0 64 target.text [] :=
        FixedBuffer.readBack_plain valid.plain []
      have command_plain : 0 ∉ command ∧ command.length ≤ 1037 := by
        have size : (ascii ":killforward:").length = 13 := by with_unfolding_all decide
        have letters : 0 ∉ ascii ":killforward:" := by with_unfolding_all decide
        rcases commands with rfl | ⟨-, rfl | rfl⟩
        · rw [List.length_append, List.mem_append]
          exact ⟨not_or.mpr ⟨letters, spec.remotePlain⟩, by omega⟩
        · with_unfolding_all decide
        · with_unfolding_all decide
      have inner : 0 ∉ FixedBuffer.readBack 0 64 target.text [] ++ command :=
        fun member => (List.mem_append.mp member).elim host_plain command_plain.1
      have host_size : (FixedBuffer.readBack 0 64 target.text []).length ≤ 64 :=
        FixedBuffer.length_readBack_nil
      have fits : (FixedBuffer.readBack 0 64 target.text [] ++ command).length < 4096 := by
        rw [List.length_append]
        omega
      rw [FixedBuffer.readBack_of_lt fits] at text_eq
      obtain ⟨-, host, found, same⟩ := forwarded_cases written (text_eq ▸ inner) understood
      have service := eq_installText (ForwardRequest.mk.inj same).2.2.symm
      have semicolon : 59 :: remote <:+ text := by
        refine List.IsSuffix.trans ?_ (hostRequest_suffix found)
        rw [service, installText]
        exact (List.suffix_append _ _).trans
          ((List.suffix_append _ _).trans (List.suffix_append _ _))
      rw [text_eq] at semicolon
      rcases commands with rfl | ⟨known, listed⟩
      · have colon : ascii ":killforward:" = ascii ":killforward" ++ [58] := by
          with_unfolding_all decide
        have other : 58 :: remote <:+ FixedBuffer.readBack 0 64 target.text [] ++
            (ascii ":killforward:" ++ remote) := by
          rw [colon, List.append_assoc, List.singleton_append]
          exact (List.suffix_append _ _).trans (List.suffix_append _ _)
        exact absurd (eq_of_suffix_cons semicolon other) (by decide)
      · have member : command ∈ [ascii ":list-forward", ascii ":killforward-all"] := by
          simpa using listed
        obtain ⟨size, different⟩ := no_semicolon_before_option remote known command member
        exact different (List.suffix_of_suffix_length_le semicolon (List.suffix_append _ _) size)

theorem not_removed_of_dash (dash : localName.head? = some 45) :
    forwarded target (removeArgs localName) memory = none := by
  have known : (ascii "--remove").head? = some 45 := by with_unfolding_all decide
  have not_list : ascii "--remove" ≠ ascii "--list" := by with_unfolding_all decide
  have usage : forwardCommand target (removeArgs localName) memory = none := by
    simp only [forwardCommand, removeArgs, parseOptions, known, not_list, dash, if_true, if_false]
    by_cases list : localName = ascii "--list"
    · rw [if_pos list]
      rfl
    · by_cases remove : localName = ascii "--remove"
      · rw [if_neg list, if_pos remove]
        rfl
      · by_cases all : localName = ascii "--remove-all"
        · rw [if_neg list, if_neg remove, if_pos all]
          rfl
        · by_cases rebind : localName = ascii "--no-rebind"
          · rw [if_neg list, if_neg remove, if_neg all, if_pos rebind]
            rfl
          · rw [if_neg list, if_neg remove, if_neg all, if_neg rebind]
  rw [forwarded, usage]
  rfl

/-! ## What the server understands -/

theorem installText_plain (spec : IsSpec localName remote) :
    0 ∉ installText false localName remote := by
  have letters : 0 ∉ ascii "forward:" := by with_unfolding_all decide
  simp [installText, letters, spec.localPlain, spec.remotePlain]

/-- With `--no-rebind` there is a colon too many. -/
theorem not_installed_of_noRebind (valid : target.Valid) (spec : IsSpec localName remote)
    (short : (target.text ++ installCommand true localName remote).length ≤ 1024)
    (dashless : localName.head? ≠ some 45) {ttype : TransportType}
    {serial : Option (List UInt8)} :
    forwarded target (installArgs true localName remote) ⟨[], []⟩ ≠
      some ⟨ttype, serial, .forward true localName remote⟩ := by
  intro understood
  have command : installCommand true localName remote =
      ascii ":forward:norebind" ++ 58 :: 58 :: (localName ++ 59 :: remote) := by
    have colon : ascii ":" = [58] := by with_unfolding_all decide
    have semicolon : ascii ";" = [59] := by with_unfolding_all decide
    have words : ascii ":forward:norebind" ++ [58] = 58 :: ascii "forward:norebind:" := by
      with_unfolding_all decide
    have longer : ascii ":forward:norebind" ++ 58 :: 58 :: (localName ++ 59 :: remote) =
        (ascii ":forward:norebind" ++ [58]) ++ 58 :: (localName ++ 59 :: remote) := by simp
    rw [longer, words]
    simp [installCommand, colon, semicolon]
  have written : forwardCommand target (installArgs true localName remote) ⟨[], []⟩ = _ :=
    forwardCommand_install dashless
  have host_plain : 0 ∉ FixedBuffer.readBack 0 64 target.text [] :=
    FixedBuffer.readBack_plain valid.plain []
  have inner : 0 ∉ FixedBuffer.readBack 0 64 target.text [] ++
      installCommand true localName remote := by
    have letters : 0 ∉ ascii ":forward:norebind" := by with_unfolding_all decide
    rw [command]
    simp [host_plain, letters, spec.localPlain, spec.remotePlain]
  have fits : (FixedBuffer.readBack 0 64 target.text [] ++
      installCommand true localName remote).length < 4096 := by
    have host_size : (FixedBuffer.readBack 0 64 target.text []).length ≤ 64 :=
      FixedBuffer.length_readBack_nil
    rw [List.length_append] at short ⊢
    omega
  dsimp only at written
  rw [FixedBuffer.readBack_of_lt fits] at written
  obtain ⟨-, host, found, same⟩ := forwarded_cases written inner understood
  have service := eq_installText (ForwardRequest.mk.inj same).2.2.symm
  -- The name of the option is followed by one colon in what is parsed, and by two in what is sent.
  have one : 100 :: 58 :: (localName ++ 59 :: remote) <:+
      FixedBuffer.readBack 0 64 target.text [] ++ installCommand true localName remote := by
    have words : ascii "norebind:" = ascii "norebin" ++ [100, 58] := by with_unfolding_all decide
    refine List.IsSuffix.trans ?_ (hostRequest_suffix found)
    rw [service, installText, if_pos rfl, words, List.append_assoc]
    exact (List.suffix_append _ _).trans (List.suffix_append _ _)
  have two : 58 :: 58 :: (localName ++ 59 :: remote) <:+
      FixedBuffer.readBack 0 64 target.text [] ++ installCommand true localName remote := by
    rw [command]
    exact (List.suffix_append _ _).trans (List.suffix_append _ _)
  exact absurd (eq_of_suffix_cons one two) (by decide)

end

/-- What the server is asked for is what the user said, whatever there is in memory, exactly when
the option that spoils the command is not used, the local end does not look like an option, and the
serial can be read. -/
theorem forward_understood_iff {target : Target} (valid : target.Valid)
    {localName remote : List UInt8} (spec : IsSpec localName remote) :
    (∀ noRebind, (target.text ++ installCommand noRebind localName remote).length ≤ 1024 →
      ((∀ memory, forwarded target (installArgs noRebind localName remote) memory =
          some ⟨target.ttype, target.name, .forward noRebind localName remote⟩) ↔
        noRebind = false ∧ localName.head? ≠ some 45 ∧ target.Readable)) ∧
    ((target.text ++ removeCommand localName).length ≤ 1024 →
      ((∀ memory, forwarded target (removeArgs localName) memory =
          some ⟨target.ttype, target.name, .killforward localName⟩) ↔
        localName.head? ≠ some 45 ∧ target.Readable)) := by
  have letter : (installText false localName remote).head?.any isDigit = false := by
    rw [installText, Listeners.ascii_forward]
    rfl
  have kill_letter : (ascii "killforward:" ++ localName).head?.any isDigit = false := by
    rw [Listeners.ascii_killforward]
    rfl
  have kill_plain : 0 ∉ ascii "killforward:" ++ localName := by
    have letters : 0 ∉ ascii "killforward:" := by with_unfolding_all decide
    simp [letters, spec.localPlain]
  refine ⟨fun noRebind short => ⟨fun understood => ?_, ?_⟩, fun short => ⟨fun understood => ?_, ?_⟩⟩
  · have remote_short : remote.length ≤ 1024 := by
      simp only [installCommand, List.length_append] at short
      omega
    have dashless : localName.head? ≠ some 45 :=
      fun dash => not_installed_of_dash valid spec remote_short dash (understood ⟨[], []⟩)
    cases noRebind with
    | true =>
        exact absurd (understood ⟨[], []⟩) (not_installed_of_noRebind valid spec short dashless)
    | false =>
        refine ⟨rfl, dashless, readable_of_forwarded valid (fun memory => ?_)
          (installText_plain spec) (fun other parsed => eq_installText parsed) understood⟩
        rw [← installCommand_false]
        exact forwardCommand_install dashless
  · rintro ⟨rfl, dashless, readable⟩ memory
    rw [installCommand_false] at short
    rw [← spec.parseRequest]
    refine forwarded_of_readable valid readable ?_ (installText_plain spec) letter short
    rw [← installCommand_false]
    exact forwardCommand_install dashless
  · have dashless : localName.head? ≠ some 45 := by
      intro dash
      have understood := understood ⟨[], []⟩
      rw [not_removed_of_dash dash] at understood
      cases understood
    refine ⟨dashless, readable_of_forwarded valid (fun memory => ?_) kill_plain
      (fun other parsed => ?_) understood⟩
    · rw [← removeCommand_eq]
      exact forwardCommand_remove dashless
    · have origin := Listeners.parseRequest_from other
      rw [parsed] at origin
      exact origin
  · rintro ⟨dashless, readable⟩ memory
    rw [removeCommand_eq] at short
    rw [← Listeners.parseRequest_killforward spec.localNonempty]
    refine forwarded_of_readable valid readable ?_ kill_plain kill_letter short
    rw [← removeCommand_eq]
    exact forwardCommand_remove dashless

theorem forward_understood_emulator :
    (∀ memory, forwarded (.serial (ascii "emulator-5554"))
        (installArgs false (ascii "tcp:5000") (ascii "tcp:6000")) memory =
      some ⟨.any, some (ascii "emulator-5554"),
        .forward false (ascii "tcp:5000") (ascii "tcp:6000")⟩) ∧
    (∀ memory, forwarded (.serial (ascii "emulator-5554")) (removeArgs (ascii "tcp:5000")) memory =
      some ⟨.any, some (ascii "emulator-5554"), .killforward (ascii "tcp:5000")⟩) := by
  have valid : (Target.serial (ascii "emulator-5554")).Valid :=
    ⟨by with_unfolding_all decide, by with_unfolding_all decide,
      .inl (by with_unfolding_all decide)⟩
  have readable : (Target.serial (ascii "emulator-5554")).Readable :=
    ⟨by with_unfolding_all decide, by with_unfolding_all decide⟩
  have spec : IsSpec (ascii "tcp:5000") (ascii "tcp:6000") :=
    ⟨by with_unfolding_all decide, by with_unfolding_all decide,
      by with_unfolding_all decide, by with_unfolding_all decide,
      by with_unfolding_all decide, by with_unfolding_all decide,
      by with_unfolding_all decide, by with_unfolding_all decide⟩
  have dashless : (ascii "tcp:5000").head? ≠ some 45 := by with_unfolding_all decide
  obtain ⟨install, remove⟩ := forward_understood_iff valid spec
  exact ⟨(install false (by with_unfolding_all decide)).mpr ⟨rfl, dashless, readable⟩,
    (remove (by with_unfolding_all decide)).mpr ⟨dashless, readable⟩⟩

/-- `adb forward --no-rebind tcp:5000 tcp:6000` asks for a listener with a colon before its name,
and a serial of 60 bytes comes to the server as 52 of them. -/
theorem forward_misunderstood :
    forwarded .any (installArgs true (ascii "tcp:5000") (ascii "tcp:6000")) ⟨[], []⟩ =
        some ⟨.any, none, .forward true (ascii ":tcp:5000") (ascii "tcp:6000")⟩ ∧
      forwarded (.serial (List.replicate 60 97))
          (installArgs false (ascii "tcp:5000") (ascii "tcp:6000")) ⟨[0], []⟩ =
        some ⟨.any, some (List.replicate 52 97),
          .forward false (ascii "tcp:5000") (ascii "tcp:6000")⟩ ∧
      ¬forwarded .any (installArgs true (ascii "tcp:5000") (ascii "tcp:6000")) ⟨[], []⟩ =
        some ⟨.any, none, .forward true (ascii "tcp:5000") (ascii "tcp:6000")⟩ := by
  with_unfolding_all decide

end Clients
end AdbWide
