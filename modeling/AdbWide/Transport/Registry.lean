import AdbWide.CircularList
import AdbWide.Execution

/-!
# The list of transports

Transports live on two circular lists, `pending_list` and `transport_list`, both guarded by
`transport_lock`.  Any thread may register a transport: it is linked into the pending list and a
message asks the main loop to move it over.  The main loop, on behalf of a `disconnect:` request,
and the thread that polls USB unlink transports again.  When the last reference to a transport is
dropped, another message asks the main loop to unlink and free it.

That last step unlinks the transport whether or not it still is on the list.  If it is not, the
links it kept are those of the moment it was unlinked: following them brings back what has been
unlinked next to it since, or writes to a block that has been freed since and may be another
transport's by then.  The threads of a transport may outlive it, too.  This file proves that these
are the only ways the list goes wrong.
-/

namespace AdbWide
namespace Transport

/-- What has list links: the two static heads and the blocks that hold a transport. -/
inductive Node where
  | transportList
  | pendingList
  | transport (address : Nat)
  deriving DecidableEq, Repr

/-- `transport_type`; no transport has another type. -/
inductive TransportType where
  | kTransportUsb
  | kTransportLocal
  deriving DecidableEq, Repr

/-- The fields of `atransport` that decide what happens to the lists. -/
structure Atransport where
  type : TransportType
  /-- The port of an emulator's transport, and zero for all others. -/
  adbPort : Int
  /-- The device handle of a USB transport. -/
  usb : Option Nat
  /-- `connection_state == CS_NOPERM`, which no code sets after the transport was made. -/
  noPerm : Bool
  serial : Option String
  refCount : Int
  deriving DecidableEq, Repr

/-- What `calloc` and `init_socket_transport` make for `register_socket_transport`. -/
def initSocketTransport (serial : String) (port : Int) ( isLocal : Bool) : Atransport where
  type := .kTransportLocal
  adbPort := if isLocal then port else 0
  usb := none
  noPerm := false
  serial := some serial
  refCount := 0

/-- What `calloc` and `init_usb_transport` make for `register_usb_transport`. -/
def initUsbTransport (usb : Nat) (serial : Option String) (writeable : Bool) : Atransport where
  type := .kTransportUsb
  adbPort := 0
  usb := some usb
  noPerm := !writeable
  serial := serial
  refCount := 0

/-- How far the transport in a block has come. -/
inductive Standing where
  /-- There is none: the block has never been allocated, or it has been freed. -/
  | free
  /-- Linked into the pending list; its registration has not been processed. -/
  | pending
  /-- Its registration has been processed. -/
  | registered
  /-- Unlinked by one of the `unregister` functions. -/
  | unregistered
  deriving DecidableEq, Repr

/-- The registration has been processed and the removal has not. -/
def Standing.Processed (standing : Standing) : Prop :=
  standing = .registered ∨ standing = .unregistered

/-- How many registrations of the transport are to be sent or read. -/
def Standing.registrations : Standing → Nat
  | .pending => 1
  | _ => 0

/-- The `action` of a `tmsg`: `1` and `0`. -/
inductive Action where
  | register
  | remove
  deriving DecidableEq, Repr

/-- `struct tmsg`. -/
structure Tmsg where
  transport : Nat
  action : Action
  deriving DecidableEq, Repr

/-- Where the main loop stands between a `find_transport` and the end of the
`unregister_transport` that follows it. -/
inductive MainLoop where
  | idle
  /-- `find_transport` has returned this transport. -/
  | found (transport : Nat)
  /-- `unregister_transport` has unlinked it and still holds its reference. -/
  | unlinked (transport : Nat)
  deriving DecidableEq, Repr

/-- The shared state.  A transport is known by the address of its block. -/
structure Registry where
  /-- The links of all nodes. -/
  links : Links Node
  transports : Nat → Atransport
  standing : Nat → Standing
  /-- Linked into the pending list by a thread that has still to send the registration. -/
  unsent : List Nat
  /-- The messages sent and not yet read. -/
  channel : List Tmsg
  /-- How many threads that were given this address have not dropped their reference. -/
  threads : Nat → Nat
  main : MainLoop

namespace Registry

/-- Both lists are empty and nothing has been allocated. -/
def start (transports : Nat → Atransport) : Registry where
  links := { next := id, prev := id }
  transports := transports
  standing := fun _ => .free
  unsent := []
  channel := []
  threads := fun _ => 0
  main := .idle

/-- The critical section common to `register_socket_transport` and `register_usb_transport`, for
the block that `calloc` has returned. -/
def linkPending (registry : Registry) (address : Nat) (atransport : Atransport) : Registry :=
  { registry with
    links := registry.links.insertLast .pendingList (.transport address)
    transports := Function.update registry.transports address atransport
    standing := Function.update registry.standing address .pending
    unsent := registry.unsent ++ [address] }

/-- The send that ends both: `register_transport`. -/
def registerTransport (registry : Registry) (transport : Nat) : Registry :=
  { registry with
    unsent := registry.unsent.erase transport
    channel := registry.channel ++ [⟨transport, .register⟩] }

/-- `transport_unref_locked`, as far as the lists are concerned. -/
def transportUnrefLocked (registry : Registry) (transport : Nat) : Registry :=
  let atransport := registry.transports transport
  let atransport := { atransport with refCount := atransport.refCount - 1 }
  let registry :=
    { registry with transports := Function.update registry.transports transport atransport }
  if atransport.refCount = 0 then
    { registry with channel := registry.channel ++ [⟨transport, .remove⟩] }
  else
    registry

/-- `t->next->prev = t->prev; t->prev->next = t->next;` -/
def unlinkTransport (registry : Registry) (transport : Nat) (standing : Standing) : Registry :=
  { registry with
    links := registry.links.unlink (.transport transport)
    standing := Function.update registry.standing transport standing }

/-- `transport_registration_func` for action 1: start the threads of an accessible device and move
the transport to the master list. -/
def processRegister (registry : Registry) (transport : Nat) : Registry :=
  let atransport := registry.transports transport
  let registry :=
    if atransport.noPerm then registry
    else
      { registry with
        transports := Function.update registry.transports transport
          { atransport with refCount := 2 }
        threads := Function.update registry.threads transport (registry.threads transport + 2) }
  { registry with
    links := (registry.links.unlink (.transport transport)).insertLast .transportList
      (.transport transport)
    standing := Function.update registry.standing transport .registered }

/-- A field test on the node a walk has come to; the static heads have only zeros. -/
def test (registry : Registry) (wanted : Atransport → Bool) : Node → Bool
  | .transport address => wanted (registry.transports address)
  | .transportList | .pendingList => false

/-- The walk of one of the lists that looks for a transport. -/
def searchList (registry : Registry) (head : Node) (wanted : Atransport → Bool) (fuel : Nat) :
    Option (Option Node) :=
  registry.links.search head (registry.test wanted) fuel (registry.links.next head)

/-- A network device, which `unregister_all_tcp_transports` is after. -/
def isTcp (atransport : Atransport) : Bool :=
  atransport.type = .kTransportLocal ∧ atransport.adbPort = 0

/-- A round of the loop of `unregister_all_tcp_transports` at `node`, with the node it goes on to.
The walk stays where it ends. -/
def unregisterAllTcpRound (registry : Registry) : Node → Registry × Node
  | .transportList => (registry, .transportList)
  | .pendingList => (registry, registry.links.next .pendingList)
  | .transport address =>
      let next := registry.links.next (.transport address)
      if isTcp (registry.transports address) then
        ((registry.unlinkTransport address .unregistered).transportUnrefLocked address, next)
      else
        (registry, next)

/-- The loop of `unregister_all_tcp_transports`. -/
def unregisterAllTcpFrom : Nat → Registry × Node → Option Registry
  | 0, _ => none
  | fuel + 1, (registry, node) =>
      if node = .transportList then some registry
      else unregisterAllTcpFrom fuel (registry.unregisterAllTcpRound node)

/-- Where the loop stands after some rounds. -/
def unregisterAllTcpAfter (registry : Registry) : Nat → Registry × Node
  | 0 => (registry, registry.links.next .transportList)
  | rounds + 1 =>
      let (registry, node) := registry.unregisterAllTcpAfter rounds
      registry.unregisterAllTcpRound node

/-- A node and the two that its links lead to: what the unlinking of a transport reads and
writes. -/
def around (registry : Registry) (node : Node) : List Node :=
  [node, registry.links.next node, registry.links.prev node]

end Registry

open Registry

/-- Who does what.  A registration comes with the address that `calloc` has returned. -/
inductive Event where
  | registerSocketTransport (address : Nat) (serial : String) (port : Int) ( isLocal : Bool)
  | registerUsbTransport (address usb : Nat) (serial : Option String) (writeable : Bool)
  | sendRegistration (transport : Nat)
  | processRegistration (transport : Nat)
  | findTransport (serial : String)
  | unregisterTransport (transport : Nat)
  | unregisterTransportUnref (transport : Nat)
  | unregisterAllTcpTransports
  | unregisterUsbTransport (usb : Nat)
  | threadUse (transport : Nat)
  | threadUnref (transport : Nat)
  | processRemoval (transport : Nat)
  deriving DecidableEq, Repr

/-- The nodes that a step uses. -/
def Uses (registry : Registry) (node : Node) : Event → Prop
  | .registerSocketTransport _ serial _ _ =>
      registry.links.Walked .pendingList (registry.test (·.serial = some serial)) node ∨
        registry.links.Walked .transportList (registry.test (·.serial = some serial)) node ∨
        node = registry.links.prev .pendingList
  | .registerUsbTransport _ _ _ _ => node = registry.links.prev .pendingList
  | .sendRegistration _ => False
  | .processRegistration transport =>
      registry.main = .idle ∧ registry.channel.head? = some ⟨transport, .register⟩ ∧
        (node ∈ registry.around (.transport transport) ∨ node = registry.links.prev .transportList)
  | .findTransport serial =>
      registry.main = .idle ∧
        registry.links.Walked .transportList (registry.test (·.serial = some serial)) node
  | .unregisterTransport transport =>
      registry.main = .found transport ∧ node ∈ registry.around (.transport transport)
  | .unregisterTransportUnref transport =>
      registry.main = .unlinked transport ∧ node = .transport transport
  | .unregisterAllTcpTransports =>
      registry.main = .idle ∧ ∃ rounds,
        (registry.unregisterAllTcpAfter rounds).2 ≠ .transportList ∧
        node ∈ (registry.unregisterAllTcpAfter rounds).1.around
          (registry.unregisterAllTcpAfter rounds).2
  | .unregisterUsbTransport usb =>
      ∃ found, registry.links.Walked .transportList
          (registry.test fun t => t.usb = some usb ∧ t.noPerm) found ∧
        node ∈ registry.around found
  | .threadUse transport | .threadUnref transport =>
      registry.threads transport ≠ 0 ∧ node = .transport transport
  | .processRemoval transport =>
      registry.main = .idle ∧ registry.channel.head? = some ⟨transport, .remove⟩ ∧
        node ∈ registry.around (.transport transport)

/-- One critical section, send or message of some thread. -/
inductive RegistryStep : Registry → Event → Registry → Prop where
  /-- A step that uses freed memory may do anything. -/
  | usesFreed {registry : Registry} {event : Event} (address : Nat) (after : Registry) :
      Uses registry (.transport address) event → registry.standing address = .free →
      RegistryStep registry event after
  | registerSocketTransport {registry : Registry} (address : Nat) (serial : String) (port : Int)
      ( isLocal : Bool) (fuel : Nat) :
      registry.standing address = .free →
      registry.searchList .pendingList (·.serial = some serial) fuel = some none →
      registry.searchList .transportList (·.serial = some serial) fuel = some none →
      RegistryStep registry (.registerSocketTransport address serial port isLocal)
        (registry.linkPending address (initSocketTransport serial port isLocal))
  | registerUsbTransport {registry : Registry} (address usb : Nat) (serial : Option String)
      (writeable : Bool) :
      registry.standing address = .free →
      RegistryStep registry (.registerUsbTransport address usb serial writeable)
        (registry.linkPending address (initUsbTransport usb serial writeable))
  | sendRegistration {registry : Registry} (transport : Nat) :
      transport ∈ registry.unsent →
      RegistryStep registry (.sendRegistration transport)
        (registry.registerTransport transport)
  | processRegistration {registry : Registry} (transport : Nat) {channel : List Tmsg} :
      registry.main = .idle → registry.channel = ⟨transport, .register⟩ :: channel →
      RegistryStep registry (.processRegistration transport)
        ({ registry with channel }.processRegister transport)
  | findTransport {registry : Registry} (serial : String) (fuel transport : Nat) :
      registry.main = .idle →
      registry.searchList .transportList (·.serial = some serial) fuel =
        some (some (.transport transport)) →
      RegistryStep registry (.findTransport serial) { registry with main := .found transport }
  | unregisterTransport {registry : Registry} (transport : Nat) :
      registry.main = .found transport →
      RegistryStep registry (.unregisterTransport transport)
        { registry.unlinkTransport transport .unregistered with main := .unlinked transport }
  | unregisterTransportUnref {registry : Registry} (transport : Nat) :
      registry.main = .unlinked transport →
      RegistryStep registry (.unregisterTransportUnref transport)
        { registry.transportUnrefLocked transport with main := .idle }
  | unregisterAllTcpTransports {registry after : Registry} (fuel : Nat) :
      registry.main = .idle →
      unregisterAllTcpFrom fuel (registry, registry.links.next .transportList) = some after →
      RegistryStep registry .unregisterAllTcpTransports after
  | unregisterUsbTransport {registry : Registry} (usb fuel transport : Nat) :
      registry.searchList .transportList (fun t => t.usb = some usb ∧ t.noPerm) fuel =
        some (some (.transport transport)) →
      RegistryStep registry (.unregisterUsbTransport usb)
        (registry.unlinkTransport transport .unregistered)
  /-- `kick_transport` and what else a thread does with its transport but for the lists. -/
  | threadUse {registry : Registry} (transport : Nat) :
      registry.threads transport ≠ 0 →
      RegistryStep registry (.threadUse transport) registry
  | threadUnref {registry : Registry} (transport : Nat) :
      registry.threads transport ≠ 0 →
      RegistryStep registry (.threadUnref transport)
        ({ registry with
            threads := Function.update registry.threads transport
              (registry.threads transport - 1) }.transportUnrefLocked transport)
  | processRemoval {registry : Registry} (transport : Nat) {channel : List Tmsg} :
      registry.main = .idle → registry.channel = ⟨transport, .remove⟩ :: channel →
      RegistryStep registry (.processRemoval transport)
        ({ registry with channel }.unlinkTransport transport .free)

/-! ## The property and the condition -/

/-- The node is a transport of the given standing. -/
def IsAt (standings : Nat → Standing) (standing : Standing) (node : Node) : Prop :=
  ∃ address, node = .transport address ∧ standings address = standing

/-- `transport_list` is a well-formed circular list of exactly the transports whose registration
has been processed and which have been neither unregistered nor removed, each once. -/
def ListIntact (registry : Registry) : Prop :=
  registry.links.Collects .transportList (IsAt registry.standing .registered)

/-- The node is one of the two heads or is on one of the two lists. -/
def OnList (registry : Registry) (node : Node) : Prop :=
  (node = .pendingList ∨ IsAt registry.standing .pending node) ∨
    (node = .transportList ∨ IsAt registry.standing .registered node)

/-- The transport is still on the list; or neither of the two neighbours it had when it was
unlinked has been freed, and whichever of them is on a list is still linked to the other one. -/
def NeighboursKept (registry : Registry) (transport : Nat) : Prop :=
  registry.standing transport = .registered ∨
    (¬IsAt registry.standing .free (registry.links.next (.transport transport)) ∧
      ¬IsAt registry.standing .free (registry.links.prev (.transport transport))) ∧
    (OnList registry (registry.links.next (.transport transport)) →
      registry.links.prev (registry.links.next (.transport transport)) =
        registry.links.prev (.transport transport)) ∧
    (OnList registry (registry.links.prev (.transport transport)) →
      registry.links.next (registry.links.prev (.transport transport)) =
        registry.links.next (.transport transport))

/-- The condition on the two steps that unlink a transport without having just met it on the
list, and on the threads that may outlive theirs. -/
def UnlinksKept (registry : Registry) : Event → Prop
  | .unregisterTransport transport | .processRemoval transport =>
      NeighboursKept registry transport
  | .threadUse transport | .threadUnref transport => registry.standing transport ≠ .free
  | _ => True

/-! ## The invariant -/

/-- Both lists are well formed and hold what they should, and no message is about a transport that
has not come far enough or has been freed. -/
structure Sound (registry : Registry) : Prop where
  pendingList : registry.links.Collects .pendingList (IsAt registry.standing .pending)
  transportList : ListIntact registry
  registering : ∀ transport,
    registry.unsent.count transport + registry.channel.count ⟨transport, .register⟩ =
      (registry.standing transport).registrations
  /-- A removal is asked for once, when the last reference is gone. -/
  removing : ∀ transport, ⟨transport, .remove⟩ ∈ registry.channel →
    (registry.standing transport).Processed ∧ (registry.transports transport).refCount ≤ 0 ∧
      registry.channel.count ⟨transport, .remove⟩ = 1
  unreferenced : ∀ transport, registry.standing transport = .pending →
    (registry.transports transport).refCount ≤ 0
  holding : ∀ transport,
    registry.main = .found transport ∨ registry.main = .unlinked transport →
      (registry.standing transport).Processed

@[simp] theorem isAt_transport {standings : Nat → Standing} {standing : Standing}
    {address : Nat} :
    IsAt standings standing (.transport address) ↔ standings address = standing := by
  simp [IsAt]

@[simp] theorem not_isAt_transportList {standings : Nat → Standing} {standing : Standing} :
    ¬IsAt standings standing .transportList := by
  simp [IsAt]

@[simp] theorem not_isAt_pendingList {standings : Nat → Standing} {standing : Standing} :
    ¬IsAt standings standing .pendingList := by
  simp [IsAt]

theorem IsAt.unique {standings : Nat → Standing} {standing standing' : Standing} {node : Node}
    (first : IsAt standings standing node) (second : IsAt standings standing' node) :
    standing = standing' := by
  obtain ⟨address, rfl, rfl⟩ := first
  simpa using second

/-- Giving a transport another standing adds it to those of that standing. -/
theorem isAt_update_same {standings : Nat → Standing} {standing : Standing} {address : Nat}
    (node : Node) :
    IsAt (Function.update standings address standing) standing node ↔
      IsAt standings standing node ∨ node = .transport address := by
  cases node with
  | transportList => simp
  | pendingList => simp
  | transport other =>
      rcases eq_or_ne other address with rfl | different
      · simp
      · simp [different]

/-- Giving a transport another standing takes it away from those of its old one. -/
theorem isAt_update_other {standings : Nat → Standing} {standing standing' : Standing}
    {address : Nat} (changed : standing' ≠ standing) (node : Node) :
    IsAt (Function.update standings address standing') standing node ↔
      node ≠ .transport address ∧ IsAt standings standing node := by
  cases node with
  | transportList => simp
  | pendingList => simp
  | transport other =>
      rcases eq_or_ne other address with rfl | different
      · simp [changed]
      · simp [different]

/-- A standing other than the transport's old and new one is not concerned. -/
theorem isAt_update_apart {standings : Nat → Standing} {standing standing' : Standing}
    {address : Nat} (before : standings address ≠ standing) (after : standing' ≠ standing)
    (node : Node) :
    IsAt (Function.update standings address standing') standing node ↔
      IsAt standings standing node := by
  rw [isAt_update_other after]
  refine ⟨And.right, fun holds => ⟨?_, holds⟩⟩
  rintro rfl
  exact before (isAt_transport.mp holds)

theorem sound_start (transports : Nat → Atransport) : Sound (Registry.start transports) where
  pendingList := ⟨[], Links.ring_nil_iff.mpr ⟨rfl, rfl⟩, by simp [IsAt, Registry.start]⟩
  transportList := ⟨[], Links.ring_nil_iff.mpr ⟨rfl, rfl⟩, by simp [IsAt, Registry.start]⟩
  registering := by simp [Registry.start, Standing.registrations]
  removing := by simp [Registry.start]
  unreferenced := by simp [Registry.start]
  holding := by simp [Registry.start]

/-! ## What each operation keeps -/

namespace Standing

variable {standing : Standing}

theorem Processed.ne_pending (processed : standing.Processed) : standing ≠ .pending := by
  rintro rfl
  rcases processed with registered | unregistered
  · cases registered
  · cases unregistered

theorem Processed.ne_free (processed : standing.Processed) : standing ≠ .free := by
  rintro rfl
  rcases processed with registered | unregistered
  · cases registered
  · cases unregistered

theorem Processed.registrations_eq (processed : standing.Processed) :
    standing.registrations = 0 := by
  rcases processed with rfl | rfl
  · rfl
  · rfl

/-- Nothing is processed twice, and a block without a transport has nothing to be processed. -/
theorem pending_of_registrations (counted : standing.registrations ≠ 0) : standing = .pending := by
  cases standing with
  | pending => rfl
  | free | registered | unregistered => exact absurd rfl counted

end Standing

/-- A change of standing that leaves processed transports processed. -/
theorem processed_update {standings : Nat → Standing} {standing : Standing} {address other : Nat}
    (changed : (standings address).Processed → standing.Processed)
    (processed : (standings other).Processed) :
    (Function.update standings address standing other).Processed := by
  rcases eq_or_ne other address with rfl | different
  · simpa using changed processed
  · simpa [different] using processed

theorem Sound.linkPending {registry : Registry} {address : Nat} (sound : Sound registry)
    (free : registry.standing address = .free) {atransport : Atransport}
    (unreferenced : atransport.refCount ≤ 0) :
    Sound (registry.linkPending address atransport) := by
  have unprocessed : ¬(registry.standing address).Processed := fun processed =>
    processed.ne_free free
  refine ⟨?_, ?_, ?_, ?_, ?_, ?_⟩
  · exact sound.pendingList.insertLast (by simp [free]) (by simp) isAt_update_same
  · have apart : (registry.links.insertLast .pendingList (.transport address)).Collects
        .transportList (IsAt registry.standing .registered) := by
      apply sound.transportList.insertLast_apart sound.pendingList
      case fresh => simp [free]
      case apart =>
          intro other pending registered
          cases pending.unique registered
      all_goals simp
    exact apart.congr (isAt_update_apart (by simp [free]) (by simp))
  · intro transport
    have counted := sound.registering transport
    rcases eq_or_ne transport address with rfl | different
    · rw [free] at counted
      simp only [Registry.linkPending, List.count_append, Function.update_self,
        List.count_singleton_self]
      simp only [Standing.registrations] at counted ⊢
      omega
    · simpa [Registry.linkPending, List.count_append, different, Ne.symm different] using counted
  · intro transport removing
    obtain ⟨processed, rest⟩ := sound.removing transport removing
    have different : transport ≠ address := by
      rintro rfl
      exact unprocessed processed
    simpa [Registry.linkPending, different] using And.intro processed rest
  · intro transport pending
    rcases eq_or_ne transport address with rfl | different
    · simpa [Registry.linkPending] using unreferenced
    · simp only [Registry.linkPending, Function.update_of_ne different] at pending ⊢
      exact sound.unreferenced transport pending
  · intro transport holding
    exact processed_update (fun processed => absurd processed unprocessed)
      (sound.holding transport holding)

theorem Sound.registerTransport {registry : Registry} {transport : Nat} (sound : Sound registry)
    (unsent : transport ∈ registry.unsent) : Sound (registry.registerTransport transport) := by
  refine ⟨sound.pendingList, sound.transportList, ?_, ?_, sound.unreferenced, sound.holding⟩
  · intro other
    have counted := sound.registering other
    rcases eq_or_ne other transport with rfl | different
    · have present := List.count_pos_iff.mpr unsent
      simp only [Registry.registerTransport, List.count_append, List.count_erase_self,
        List.count_singleton_self]
      omega
    · simpa [Registry.registerTransport, List.count_append, different, Ne.symm different]
        using counted
  · intro other removing
    have earlier : ⟨other, .remove⟩ ∈ registry.channel := by
      simpa [Registry.registerTransport] using removing
    simpa [Registry.registerTransport, List.count_append] using sound.removing other earlier

@[simp] theorem standing_transportUnrefLocked (registry : Registry) (transport : Nat) :
    (registry.transportUnrefLocked transport).standing = registry.standing := by
  simp only [Registry.transportUnrefLocked]
  split
  · rfl
  · rfl

theorem Sound.transportUnrefLocked {registry : Registry} (transport : Nat)
    (sound : Sound registry) (allocated : registry.standing transport ≠ .free) :
    Sound (registry.transportUnrefLocked transport) := by
  have lower (other : Nat) : (Function.update registry.transports transport
      { registry.transports transport with
        refCount := (registry.transports transport).refCount - 1 } other).refCount ≤
        (registry.transports other).refCount := by
    rcases eq_or_ne other transport with rfl | different
    · simp only [Function.update_self]
      omega
    · simp [different]
  have unreferenced (other : Nat) (pending : registry.standing other = .pending) :=
    Int.le_trans (lower other) (sound.unreferenced other pending)
  simp only [Registry.transportUnrefLocked]
  split
  case isTrue last =>
      -- The count was one, so that no removal has been asked for.
      have processed : (registry.standing transport).Processed := by
        have pending := sound.unreferenced transport
        cases standing_eq : registry.standing transport with
        | free => exact absurd standing_eq allocated
        | pending => exact absurd (pending standing_eq) (by omega)
        | registered => exact .inl rfl
        | unregistered => exact .inr rfl
      have unasked : ⟨transport, .remove⟩ ∉ registry.channel := fun asked => by
        have := (sound.removing transport asked).2.1
        omega
      refine ⟨sound.pendingList, sound.transportList, ?_, ?_, unreferenced, sound.holding⟩
      · intro other
        simpa [List.count_append] using sound.registering other
      · intro other removing
        rcases eq_or_ne other transport with rfl | different
        · refine ⟨processed, ?_, ?_⟩
          · simp [last]
          · simp [List.count_append, List.count_eq_zero_of_not_mem unasked]
        · have earlier : ⟨other, .remove⟩ ∈ registry.channel := by
            simpa [different] using removing
          simpa [List.count_append, different, Ne.symm different] using
            sound.removing other earlier
  case isFalse =>
      refine ⟨sound.pendingList, sound.transportList, sound.registering, ?_, unreferenced,
        sound.holding⟩
      intro other removing
      obtain ⟨processed, unreferenced', once⟩ := sound.removing other removing
      exact ⟨processed, Int.le_trans (lower other) unreferenced', once⟩

/-- Taking a transport off the list, or taking it out again while its old neighbours are as it left
them, keeps both lists. -/
theorem Sound.unlink {registry : Registry} {transport : Nat} (standing : Standing)
    (sound : Sound registry) (processed : (registry.standing transport).Processed)
    (kept : NeighboursKept registry transport) (unlisted : standing ≠ .registered)
    (unlisted' : standing ≠ .pending) :
    (registry.links.unlink (.transport transport)).Collects .pendingList
        (IsAt (Function.update registry.standing transport standing) .pending) ∧
      (registry.links.unlink (.transport transport)).Collects .transportList
        (IsAt (Function.update registry.standing transport standing) .registered) := by
  have pending_iff := isAt_update_apart processed.ne_pending unlisted'
  constructor
  · refine Links.Collects.congr ?_ pending_iff
    rcases kept with registered | ⟨-, next_kept, prev_kept⟩
    · -- The neighbours are on the other list.
      have neighbours := sound.transportList.neighbours (isAt_transport.mpr registered)
      apply sound.pendingList.unlink_apart
      · rintro (next_eq | pending)
        · simp [next_eq] at neighbours
        · rcases neighbours.1 with next_eq | registered'
          · simp [next_eq] at pending
          · cases pending.unique registered'
      · rintro (prev_eq | pending)
        · simp [prev_eq] at neighbours
        · rcases neighbours.2 with prev_eq | registered'
          · simp [prev_eq] at pending
          · cases pending.unique registered'
    · exact sound.pendingList.unlink_apart (fun on => next_kept (.inl on))
        (fun on => prev_kept (.inl on))
  · by_cases registered : registry.standing transport = .registered
    · exact sound.transportList.unlink (isAt_transport.mpr registered)
        (isAt_update_other unlisted)
    · rcases kept with registered' | ⟨-, next_kept, prev_kept⟩
      · exact absurd registered' registered
      · have apart := sound.transportList.unlink_apart (fun on => next_kept (.inr on))
          (fun on => prev_kept (.inr on))
        exact apart.congr (isAt_update_apart registered unlisted)

theorem Sound.unregister {registry : Registry} {transport : Nat} (sound : Sound registry)
    (processed : (registry.standing transport).Processed)
    (kept : NeighboursKept registry transport) :
    Sound (registry.unlinkTransport transport .unregistered) := by
  obtain ⟨pendingList, transportList⟩ := sound.unlink .unregistered processed kept (by simp)
    (by simp)
  have gone : Standing.unregistered.Processed := .inr rfl
  refine ⟨pendingList, transportList, ?_, ?_, ?_, ?_⟩
  · intro other
    have counted := sound.registering other
    rcases eq_or_ne other transport with rfl | different
    · rw [processed.registrations_eq] at counted
      simpa [Registry.unlinkTransport, gone.registrations_eq] using counted
    · simpa [Registry.unlinkTransport, different] using counted
  · intro other removing
    obtain ⟨processed', rest⟩ := sound.removing other removing
    exact ⟨processed_update (fun _ => gone) processed', rest⟩
  · intro other pending
    rcases eq_or_ne other transport with rfl | different
    · simp [Registry.unlinkTransport] at pending
    · simp only [Registry.unlinkTransport, Function.update_of_ne different] at pending
      exact sound.unreferenced other pending
  · intro other holding
    exact processed_update (fun _ => gone) (sound.holding other holding)

/-- Freeing a transport whose removal has been read. -/
theorem Sound.processRemoval {registry : Registry} {transport : Nat} {channel : List Tmsg}
    (sound : Sound registry) (idle : registry.main = .idle)
    (channel_eq : registry.channel = ⟨transport, .remove⟩ :: channel)
    (kept : NeighboursKept registry transport) :
    Sound ({ registry with channel }.unlinkTransport transport .free) := by
  obtain ⟨processed, -, once⟩ := sound.removing transport (by simp [channel_eq])
  obtain ⟨pendingList, transportList⟩ := sound.unlink .free processed kept (by simp)
    (by simp)
  refine ⟨pendingList, transportList, ?_, ?_, ?_, by simp [Registry.unlinkTransport, idle]⟩
  · intro other
    have counted := sound.registering other
    rw [channel_eq, List.count_cons_of_ne (by simp)] at counted
    rcases eq_or_ne other transport with rfl | different
    · rw [processed.registrations_eq] at counted
      simpa [Registry.unlinkTransport, Standing.registrations] using counted
    · simpa [Registry.unlinkTransport, different] using counted
  · intro other removing
    have different : other ≠ transport := by
      rintro rfl
      rw [channel_eq, List.count_cons_self] at once
      have asked : 0 < channel.count ⟨other, .remove⟩ := List.count_pos_iff.mpr removing
      omega
    have earlier := sound.removing other (channel_eq ▸ List.mem_cons_of_mem _ removing)
    rw [channel_eq, List.count_cons_of_ne (by simp [Ne.symm different])] at earlier
    simpa [Registry.unlinkTransport, different] using earlier
  · intro other pending
    rcases eq_or_ne other transport with rfl | different
    · simp [Registry.unlinkTransport] at pending
    · simp only [Registry.unlinkTransport, Function.update_of_ne different] at pending
      exact sound.unreferenced other pending

/-- The transport of a registration that has arrived is on the pending list. -/
theorem Sound.pending {registry : Registry} {transport : Nat} {channel : List Tmsg}
    (sound : Sound registry)
    (channel_eq : registry.channel = ⟨transport, .register⟩ :: channel) :
    registry.standing transport = .pending := by
  have counted := sound.registering transport
  rw [channel_eq, List.count_cons_self] at counted
  exact Standing.pending_of_registrations (by omega)

/-- Moving a pending transport over to the master list. -/
theorem Sound.move {registry : Registry} {transport : Nat} {channel : List Tmsg}
    (sound : Sound registry)
    (channel_eq : registry.channel = ⟨transport, .register⟩ :: channel) :
    Sound { registry with
      channel
      links := (registry.links.unlink (.transport transport)).insertLast .transportList
        (.transport transport)
      standing := Function.update registry.standing transport .registered } := by
  have counted := sound.registering transport
  rw [channel_eq, List.count_cons_self] at counted
  have pending := sound.pending channel_eq
  have neighbours := sound.pendingList.neighbours (isAt_transport.mpr pending)
  -- First the pending list gives the transport up, then the master list takes it.
  have left : (registry.links.unlink (.transport transport)).Collects .pendingList
      (IsAt (Function.update registry.standing transport .registered) .pending) :=
    sound.pendingList.unlink (isAt_transport.mpr pending) (isAt_update_other (by simp))
  have untouched : (registry.links.unlink (.transport transport)).Collects .transportList
      (IsAt registry.standing .registered) := by
    apply sound.transportList.unlink_apart
    · rintro (next_eq | registered)
      · simp [next_eq] at neighbours
      · rcases neighbours.1 with next_eq | pending'
        · simp [next_eq] at registered
        · cases pending'.unique registered
    · rintro (prev_eq | registered)
      · simp [prev_eq] at neighbours
      · rcases neighbours.2 with prev_eq | pending'
        · simp [prev_eq] at registered
        · cases pending'.unique registered
  have processed : (registry.standing transport).Processed → Standing.registered.Processed :=
    fun _ => .inl rfl
  refine ⟨?_, ?_, ?_, ?_, ?_, ?_⟩
  · apply left.insertLast_apart untouched
    case apart =>
        intro other registered pending'
        cases pending'.unique ((isAt_update_same other).mpr (.inl registered))
    all_goals simp
  · exact untouched.insertLast (by simp [pending]) (by simp) isAt_update_same
  · intro other
    rcases eq_or_ne other transport with rfl | different
    · simp only [pending, Standing.registrations] at counted
      simp only [Function.update_self, Standing.registrations]
      omega
    · have counted' := sound.registering other
      rw [channel_eq, List.count_cons_of_ne (by simp [Ne.symm different])] at counted'
      simpa [different] using counted'
  · intro other removing
    have earlier := sound.removing other (channel_eq ▸ List.mem_cons_of_mem _ removing)
    rw [channel_eq, List.count_cons_of_ne (by simp)] at earlier
    exact ⟨processed_update processed earlier.1, earlier.2⟩
  · intro other pending'
    rcases eq_or_ne other transport with rfl | different
    · simp at pending'
    · simp only [Function.update_of_ne different] at pending'
      exact sound.unreferenced other pending'
  · intro other holding
    exact processed_update processed (sound.holding other holding)

theorem Sound.processRegister {registry : Registry} {transport : Nat} {channel : List Tmsg}
    (sound : Sound registry)
    (channel_eq : registry.channel = ⟨transport, .register⟩ :: channel) :
    Sound ({ registry with channel }.processRegister transport) := by
  have moved := sound.move channel_eq
  -- No removal of a pending transport has been asked for.
  have different {other : Nat} (removing : ⟨other, .remove⟩ ∈ channel) : other ≠ transport := by
    rintro rfl
    have earlier := sound.removing other (channel_eq ▸ List.mem_cons_of_mem _ removing)
    exact earlier.1.ne_pending (sound.pending channel_eq)
  simp only [Registry.processRegister]
  split
  · exact moved
  · refine ⟨moved.pendingList, moved.transportList, moved.registering, ?_, ?_, moved.holding⟩
    · intro other removing
      simpa [different removing] using moved.removing other removing
    · intro other pending
      have kept := moved.unreferenced other pending
      rcases eq_or_ne other transport with rfl | different
      · simp at pending
      · simpa [different] using kept

theorem Sound.dropThread {registry : Registry} (transport : Nat) (sound : Sound registry) :
    Sound { registry with
      threads := Function.update registry.threads transport (registry.threads transport - 1) } :=
  ⟨sound.pendingList, sound.transportList, sound.registering, sound.removing, sound.unreferenced,
    sound.holding⟩

/-- Where the loop of `unregister_all_tcp_transports` may stand: at the head or at a registered
transport. -/
def AtListed (registry : Registry) (node : Node) : Prop :=
  node = .transportList ∨ IsAt registry.standing .registered node

theorem Sound.unregisterAllTcpRound {registry : Registry} {node : Node} (sound : Sound registry)
    (position : AtListed registry node) :
    Sound (registry.unregisterAllTcpRound node).1 ∧
      AtListed (registry.unregisterAllTcpRound node).1 (registry.unregisterAllTcpRound node).2 := by
  rcases position with rfl | ⟨address, rfl, registered⟩
  · exact ⟨sound, .inl rfl⟩
  · have next_position := (sound.transportList.neighbours (isAt_transport.mpr registered)).1
    simp only [Registry.unregisterAllTcpRound]
    split
    · have unlinked := sound.unregister (.inl registered) (.inl registered)
      refine ⟨unlinked.transportUnrefLocked address (by simp [Registry.unlinkTransport]), ?_⟩
      rw [AtListed, standing_transportUnrefLocked]
      refine next_position.imp_right fun next_registered => ?_
      have other := sound.transportList.next_ne (isAt_transport.mpr registered)
      exact (isAt_update_other (by simp) _).mpr ⟨other, next_registered⟩
    · exact ⟨sound, next_position⟩

theorem Sound.unregisterAllTcpAfter {registry : Registry} (sound : Sound registry)
    (rounds : Nat) :
    Sound (registry.unregisterAllTcpAfter rounds).1 ∧
      AtListed (registry.unregisterAllTcpAfter rounds).1
        (registry.unregisterAllTcpAfter rounds).2 := by
  induction rounds with
  | zero => exact ⟨sound, sound.transportList.next_head⟩
  | succ rounds induction =>
      exact induction.1.unregisterAllTcpRound induction.2

theorem unregisterAllTcpRound_free {registry : Registry} {node : Node} {address : Nat}
    (position : AtListed registry node) (free : registry.standing address = .free) :
    (registry.unregisterAllTcpRound node).1.standing address = .free := by
  rcases position with rfl | ⟨other, rfl, registered⟩
  · exact free
  · have different : address ≠ other := by
      rintro rfl
      rw [free] at registered
      cases registered
    simp only [Registry.unregisterAllTcpRound]
    split
    · simp [Registry.unlinkTransport, different, free]
    · exact free

/-- The loop does not come to use what was free before it. -/
theorem Sound.unregisterAllTcpAfter_free {registry : Registry} {address : Nat}
    (sound : Sound registry) (free : registry.standing address = .free) (rounds : Nat) :
    (registry.unregisterAllTcpAfter rounds).1.standing address = .free := by
  induction rounds with
  | zero => exact free
  | succ rounds induction =>
      exact unregisterAllTcpRound_free (sound.unregisterAllTcpAfter rounds).2 induction

theorem Sound.unregisterAllTcpFrom {registry after : Registry} {fuel : Nat} {node : Node}
    (sound : Sound registry) (position : AtListed registry node)
    (result : Registry.unregisterAllTcpFrom fuel (registry, node) = some after) :
    Sound after := by
  induction fuel generalizing registry node with
  | zero => simp [Registry.unregisterAllTcpFrom] at result
  | succ fuel induction =>
      rw [Registry.unregisterAllTcpFrom] at result
      split at result
      · exact Option.some.inj result ▸ sound
      · obtain ⟨sound', position'⟩ := sound.unregisterAllTcpRound position
        exact induction sound' position' result

/-! ## No step uses a block that has been freed -/

/-- Whoever is at the head or on the list has his neighbours there. -/
theorem Sound.around_allocated {registry : Registry} {node other : Node} (sound : Sound registry)
    (position : AtListed registry node) (near : other ∈ registry.around node) :
    ¬IsAt registry.standing .free other := by
  have listed : AtListed registry other := by
    simp only [Registry.around, List.mem_cons, List.not_mem_nil, or_false] at near
    rcases position with rfl | registered
    · rcases near with rfl | rfl | rfl
      · exact .inl rfl
      · exact sound.transportList.next_head
      · exact sound.transportList.prev_head
    · rcases near with rfl | rfl | rfl
      · exact .inr registered
      · exact (sound.transportList.neighbours registered).1
      · exact (sound.transportList.neighbours registered).2
  intro free
  rcases listed with rfl | registered
  · simp at free
  · cases free.unique registered

theorem Sound.around_kept {registry : Registry} {transport : Nat} {other : Node}
    (sound : Sound registry) (processed : (registry.standing transport).Processed)
    (kept : NeighboursKept registry transport)
    (near : other ∈ registry.around (.transport transport)) :
    ¬IsAt registry.standing .free other := by
  rcases kept with registered | ⟨⟨next_allocated, prev_allocated⟩, -, -⟩
  · exact sound.around_allocated (.inr (isAt_transport.mpr registered)) near
  · simp only [Registry.around, List.mem_cons, List.not_mem_nil, or_false] at near
    rcases near with rfl | rfl | rfl
    · simpa using processed.ne_free
    · exact next_allocated
    · exact prev_allocated

/-- A pending transport and its neighbours are allocated. -/
theorem Sound.around_pending {registry : Registry} {transport : Nat} {other : Node}
    (sound : Sound registry) (pending : registry.standing transport = .pending)
    (near : other ∈ registry.around (.transport transport)) :
    ¬IsAt registry.standing .free other := by
  have neighbours := sound.pendingList.neighbours (isAt_transport.mpr pending)
  intro free
  simp only [Registry.around, List.mem_cons, List.not_mem_nil, or_false] at near
  rcases near with rfl | rfl | rfl
  · rw [isAt_transport, pending] at free
    cases free
  · rcases neighbours.1 with at_head | pending'
    · simp [at_head] at free
    · cases free.unique pending'
  · rcases neighbours.2 with at_head | pending'
    · simp [at_head] at free
    · cases free.unique pending'

theorem Sound.walked_allocated {registry : Registry} {wanted : Node → Bool} {node : Node}
    (sound : Sound registry) (walked : registry.links.Walked .transportList wanted node) :
    ¬IsAt registry.standing .free node := by
  intro free
  cases free.unique (sound.transportList.walked_mem walked)

theorem Sound.last_pending_allocated {registry : Registry} (sound : Sound registry) :
    ¬IsAt registry.standing .free (registry.links.prev .pendingList) := by
  intro free
  rcases sound.pendingList.prev_head with at_head | pending
  · simp [at_head] at free
  · cases free.unique pending

theorem Sound.uses_allocated {registry : Registry} {event : Event} {node : Node}
    (sound : Sound registry) (kept : UnlinksKept registry event)
    (uses : Uses registry node event) : ¬IsAt registry.standing .free node := by
  cases event with
  | registerSocketTransport =>
      rcases uses with walked | walked | rfl
      · intro free
        cases free.unique (sound.pendingList.walked_mem walked)
      · exact sound.walked_allocated walked
      · exact sound.last_pending_allocated
  | registerUsbTransport =>
      rw [Uses] at uses
      exact uses ▸ sound.last_pending_allocated
  | sendRegistration => exact uses.elim
  | processRegistration =>
      obtain ⟨-, head, near | rfl⟩ := uses
      · obtain ⟨channel, channel_eq⟩ := List.head?_eq_some_iff.mp head
        exact sound.around_pending (sound.pending channel_eq) near
      · exact sound.around_allocated (.inl rfl) (by simp [Registry.around])
  | findTransport => exact sound.walked_allocated uses.2
  | unregisterTransport =>
      exact sound.around_kept (sound.holding _ (.inl uses.1)) kept uses.2
  | unregisterTransportUnref =>
      obtain ⟨unlinked, rfl⟩ := uses
      simpa using (sound.holding _ (.inr unlinked)).ne_free
  | unregisterAllTcpTransports =>
      obtain ⟨-, rounds, -, near⟩ := uses
      obtain ⟨sound', position⟩ := sound.unregisterAllTcpAfter rounds
      rintro ⟨address, rfl, free⟩
      refine sound'.around_allocated position near (isAt_transport.mpr ?_)
      exact sound.unregisterAllTcpAfter_free free rounds
  | unregisterUsbTransport =>
      obtain ⟨found, walked, near⟩ := uses
      exact sound.around_allocated (.inr (sound.transportList.walked_mem walked)) near
  | threadUse | threadUnref =>
      obtain ⟨-, rfl⟩ := uses
      rw [isAt_transport]
      exact kept
  | processRemoval =>
      obtain ⟨-, head, near⟩ := uses
      obtain ⟨channel, channel_eq⟩ := List.head?_eq_some_iff.mp head
      have removing := sound.removing _ (by rw [channel_eq]; exact List.mem_cons_self)
      exact sound.around_kept removing.1 kept near

theorem RegistryStep.sound {registry after : Registry} {event : Event} (sound : Sound registry)
    (kept : UnlinksKept registry event) (step : RegistryStep registry event after) :
    Sound after := by
  cases step with
  | usesFreed _ _ uses free =>
      exact absurd (isAt_transport.mpr free) (sound.uses_allocated kept uses)
  | registerSocketTransport _ _ _ _ _ free =>
      exact sound.linkPending free (by simp [initSocketTransport])
  | registerUsbTransport _ _ _ _ free => exact sound.linkPending free (by simp [initUsbTransport])
  | sendRegistration _ unsent => exact sound.registerTransport unsent
  | processRegistration _ _ channel_eq => exact sound.processRegister channel_eq
  | findTransport serial fuel transport idle searched =>
      have registered := isAt_transport.mp (sound.transportList.search_mem searched)
      refine ⟨sound.pendingList, sound.transportList, sound.registering, sound.removing,
        sound.unreferenced, ?_⟩
      intro other holding
      simp only [MainLoop.found.injEq, reduceCtorEq, or_false] at holding
      exact holding ▸ .inl registered
  | unregisterTransport _ found =>
      have unlinked := sound.unregister (sound.holding _ (.inl found)) kept
      refine ⟨unlinked.pendingList, unlinked.transportList, unlinked.registering,
        unlinked.removing, unlinked.unreferenced, ?_⟩
      intro other holding
      simp only [reduceCtorEq, MainLoop.unlinked.injEq, false_or] at holding
      subst holding
      simp [Registry.unlinkTransport, Standing.Processed]
  | unregisterTransportUnref _ unlinked =>
      have dropped := sound.transportUnrefLocked _ (sound.holding _ (.inr unlinked)).ne_free
      refine ⟨dropped.pendingList, dropped.transportList, dropped.registering,
        dropped.removing, dropped.unreferenced, ?_⟩
      simp
  | unregisterAllTcpTransports fuel _ result =>
      exact sound.unregisterAllTcpFrom sound.transportList.next_head result
  | unregisterUsbTransport usb fuel transport searched =>
      have registered := isAt_transport.mp (sound.transportList.search_mem searched)
      exact sound.unregister (.inl registered) (.inl registered)
  | threadUse => exact sound
  | threadUnref transport =>
      exact (sound.dropThread transport).transportUnrefLocked transport kept
  | processRemoval _ idle channel_eq => exact sound.processRemoval idle channel_eq kept

/-- In every run in which no transport is unlinked a second time with its old neighbours freed or
changed, and no thread outlives its transport, the list of transports is intact throughout. -/
theorem listIntact_of_unlinksKept {transports : Nat → Atransport} {events : List Event}
    {registry : Registry}
    (run : Trace (Guarded RegistryStep UnlinksKept) (Registry.start transports) events registry) :
    ListIntact registry := by
  have sound : Sound registry := by
    refine run.invariant Sound (sound_start transports) ?_
    rintro before event after sound ⟨kept, step⟩
    exact step.sound sound kept
  exact sound.transportList

/-- A network device is registered, disconnected and, when its threads are gone, removed; by then
its neighbours are still the head twice over.  The block is then used for another device. -/
theorem listIntact_of_unlinksKept_disconnect :
    ∃ events registry,
      Trace (Guarded RegistryStep UnlinksKept)
          (Registry.start fun _ => initUsbTransport 0 none true) events registry ∧
        .processRemoval 0 ∈ events ∧ registry.standing 0 = .registered ∧
        (registry.transports 0).serial = some "b:5555" ∧ ListIntact registry := by
  have run₀ : Trace (Guarded RegistryStep UnlinksKept)
      (Registry.start fun _ => initUsbTransport 0 none true) [] _ := .nil
  have run₁ := run₀.guard (.registerSocketTransport 0 "a:5555" 0 false 1 rfl rfl rfl) trivial
  have run₂ := run₁.guard (.sendRegistration 0 (by decide)) trivial
  have run₃ := run₂.guard (.processRegistration 0 rfl rfl) trivial
  have run₄ := run₃.guard (.findTransport "a:5555" 1 0 rfl rfl) trivial
  have run₅ := run₄.guard (.unregisterTransport 0 rfl) (.inl rfl)
  have run₆ := run₅.guard (.unregisterTransportUnref 0 rfl) trivial
  have run₇ := run₆.guard (.threadUnref 0 (by decide)) (show _ ≠ _ by decide)
  have run₈ := run₇.guard (.threadUnref 0 (by decide)) (show _ ≠ _ by decide)
  have run₉ := run₈.guard (.processRemoval 0 rfl rfl)
    (.inr ⟨⟨not_isAt_transportList, not_isAt_transportList⟩, fun _ => rfl, fun _ => rfl⟩)
  have run₁₀ := run₉.guard (.registerSocketTransport 0 "b:5555" 0 false 1 rfl rfl rfl) trivial
  have run₁₁ := run₁₀.guard (.sendRegistration 0 (by decide)) trivial
  have run₁₂ := run₁₁.guard (.processRegistration 0 rfl rfl) trivial
  exact ⟨_, _, run₁₂, by simp, rfl, rfl, listIntact_of_unlinksKept run₁₂⟩

/-- Two network devices are registered and both are disconnected, the first one first.  Its removal
then links the second one, which is on no list, to the head again. -/
theorem listIntact_fails_after_two_disconnects :
    ∃ registry,
      Reachable RegistryStep (Registry.start fun _ => initUsbTransport 0 none true) registry ∧
        registry.standing 1 = .unregistered ∧
        registry.links.next .transportList = .transport 1 ∧ ¬ListIntact registry := by
  have run₀ : Trace RegistryStep (Registry.start fun _ => initUsbTransport 0 none true) [] _ :=
    .nil
  have run₁ := run₀.snoc (.registerSocketTransport 0 "a:5555" 0 false 1 rfl rfl rfl)
  have run₂ := run₁.snoc (.sendRegistration 0 (by decide))
  have run₃ := run₂.snoc (.processRegistration 0 rfl rfl)
  have run₄ := run₃.snoc (.registerSocketTransport 1 "b:5555" 0 false 2 rfl rfl rfl)
  have run₅ := run₄.snoc (.sendRegistration 1 (by decide))
  have run₆ := run₅.snoc (.processRegistration 1 rfl rfl)
  have run₇ := run₆.snoc (.findTransport "a:5555" 1 0 rfl rfl)
  have run₈ := run₇.snoc (.unregisterTransport 0 rfl)
  have run₉ := run₈.snoc (.unregisterTransportUnref 0 rfl)
  have run₁₀ := run₉.snoc (.threadUnref 0 (by decide))
  have run₁₁ := run₁₀.snoc (.findTransport "b:5555" 1 1 rfl rfl)
  have run₁₂ := run₁₁.snoc (.unregisterTransport 1 rfl)
  have run₁₃ := run₁₂.snoc (.unregisterTransportUnref 1 rfl)
  have run₁₄ := run₁₃.snoc (.processRemoval 0 rfl rfl)
  refine ⟨_, ⟨_, run₁₄⟩, rfl, rfl, ?_⟩
  intro intact
  rcases intact.next_head with at_head | ⟨address, at_address, registered⟩
  · cases at_head
  · cases at_address
    cases registered

end Transport
end AdbWide
