import AdbWide.Transport.Registry

/-!
# The table of emulators

`local_transports` has a place for the transport of each emulator, so that none is connected twice
by its port.  `register_socket_transport` gives a transport its place under one lock and links it
into the pending list under another; in between it looks for the serial on both lists and gives up
when it is there.  The place is given back only when the transport is kicked.  This file proves that
this is the only way an entry comes to point to no transport.
-/

namespace AdbWide
namespace Transport

/-- The fields of `atransport` that `register_socket_transport` and `remote_kick` use, too. -/
structure SocketAtransport extends Atransport where
  sfd : Int
  kicked : Bool
  deriving DecidableEq, Repr

/-- What registration works on.  Addresses are not used again, and a transport that was freed keeps
its fields. -/
structure Tables where
  /-- `local_transports`. -/
  localTransports : List (Option Nat)
  pendingList : List Nat
  transportList : List Nat
  transports : Nat → SocketAtransport
  /-- The next address `calloc` returns. -/
  fresh : Nat

/-- `ADB_LOCAL_TRANSPORT_MAX`. -/
def adbLocalTransportMax : Nat := 64

namespace Tables

/-- Nothing has been registered. -/
def start (transports : Nat → SocketAtransport) : Tables where
  localTransports := List.replicate adbLocalTransportMax none
  pendingList := []
  transportList := []
  transports
  fresh := 0

/-- A new transport. -/
def calloc (tables : Tables) (atransport : SocketAtransport) : Tables :=
  { tables with
    transports := Function.update tables.transports tables.fresh atransport
    fresh := tables.fresh + 1 }

/-- A new transport with what `init_socket_transport` sets.  Its serial, which nobody sees before it
is linked, is set already. -/
def callocSocket (tables : Tables) (s : Int) (serial : String) (port : Int) ( isLocal : Bool) :
    Tables :=
  tables.calloc { initSocketTransport serial port isLocal with sfd := s, kicked := false }

/-- `find_emulator_transport_by_adb_port_locked`. -/
def findEmulatorTransportByAdbPortLocked (tables : Tables) (adbPort : Int) : Option Nat :=
  (tables.localTransports.find? fun entry =>
    entry.any fun t => (tables.transports t).adbPort = adbPort).join

/-- `get_available_local_transport_index_locked`. -/
def getAvailableLocalTransportIndexLocked (tables : Tables) : Option Nat :=
  tables.localTransports.findIdx? fun entry => entry.isNone

/-- What `init_socket_transport` does after it has set the fields. -/
def initSocketTransport (tables : Tables) (t : Nat) (adbPort : Int) ( isLocal : Bool) :
    Tables × Int :=
  if isLocal then
    match tables.findEmulatorTransportByAdbPortLocked adbPort with
    | some _ => (tables, -1)
    | none =>
        match tables.getAvailableLocalTransportIndexLocked with
        | none => (tables, -1)
        | some index =>
            ({ tables with localTransports := tables.localTransports.set index (some t) }, 0)
  else (tables, 0)

/-- `n->serial && !strcmp(serial, n->serial)` for a transport of the list. -/
def serialIn (tables : Tables) (serial : String) (list : List Nat) : Bool :=
  list.any fun n => (tables.transports n).serial = some serial

/-- What `register_socket_transport` does under `transport_lock`. -/
def linkSocketTransport (tables : Tables) (t : Nat) (serial : String) : Tables × Int :=
  if tables.serialIn serial tables.pendingList then (tables, -1)
  else if tables.serialIn serial tables.transportList then (tables, -1)
  else ({ tables with pendingList := tables.pendingList ++ [t] }, 0)

/-- `register_socket_transport`, with what `%p` prints for an address. -/
def registerSocketTransport (tables : Tables) (pointer : Nat → String) (s : Int)
    (serial : Option String) (port : Int) ( isLocal : Bool) : Tables × Int :=
  let t := tables.fresh
  let serial := serial.getD ("T-" ++ pointer t)
  let (tables, fail) :=
    (tables.callocSocket s serial port isLocal).initSocketTransport t port isLocal
  if fail < 0 then (tables, -1) else tables.linkSocketTransport t serial

/-- `register_usb_transport`. -/
def registerUsbTransport (tables : Tables) (usb : Nat) (serial : Option String)
    (writeable : Bool) : Tables :=
  let t := tables.fresh
  let tables :=
    tables.calloc { initUsbTransport usb serial writeable with sfd := 0, kicked := false }
  { tables with pendingList := tables.pendingList ++ [t] }

/-- The lists part of `transport_registration_func` for action 1. -/
def processRegister (tables : Tables) (t : Nat) : Tables :=
  { tables with
    pendingList := tables.pendingList.erase t
    transportList := tables.transportList ++ [t] }

/-- `t->next->prev = t->prev; t->prev->next = t->next;` of a registered transport. -/
def unlinkTransport (tables : Tables) (t : Nat) : Tables :=
  { tables with transportList := tables.transportList.erase t }

/-- `remote_kick`. -/
def remoteKick (tables : Tables) (t : Nat) : Tables :=
  { tables with
    transports := Function.update tables.transports t { tables.transports t with sfd := -1 }
    localTransports :=
      match tables.localTransports.findIdx? fun entry => entry = some t with
      | none => tables.localTransports
      | some nn => tables.localTransports.set nn none }

/-- `t->kick(t)`; the kick of a USB transport has nothing to do with the tables. -/
def kick (tables : Tables) (t : Nat) : Tables :=
  match (tables.transports t).type with
  | .kTransportLocal => tables.remoteKick t
  | .kTransportUsb => tables

/-- `t->kicked = 1`. -/
def mark (tables : Tables) (t : Nat) : Tables :=
  { tables with
    transports := Function.update tables.transports t { tables.transports t with kicked := true } }

/-- `if (!t->kicked) { t->kicked = 1; t->kick(t); }`, under the lock. -/
def kickLocked (tables : Tables) (t : Nat) : Tables :=
  if (tables.transports t).kicked then tables else (tables.mark t).kick t

end Tables

/-- The three tables are as they were. -/
def SameTables (before after : Tables) : Prop :=
  after.localTransports = before.localTransports ∧ after.pendingList = before.pendingList ∧
    after.transportList = before.transportList

/-- A transport with the port of an emulator gets a place, while its serial is that of a pending or
registered transport. -/
def Leaks (tables : Tables) (s : Int) (serial : String) (port : Int) ( isLocal : Bool) : Prop :=
  let made := tables.callocSocket s serial port isLocal
  isLocal = true ∧ made.findEmulatorTransportByAdbPortLocked port = none ∧
    none ∈ tables.localTransports ∧
      made.serialIn serial (tables.pendingList ++ tables.transportList) = true

/-! ## Threads -/

/-- The tables, and the threads between two critical sections. -/
structure Registration where
  tables : Tables
  /-- Transports `init_socket_transport` has taken, with the serials they are to be linked with. -/
  starting : List (Nat × String)
  /-- Unlinked by `unregister_transport`, which has still to kick them. -/
  leaving : List Nat
  /-- Marked by `kick_transport`, which has still to call `t->kick`. -/
  kicking : List Nat

/-- What threads do to the tables without being interrupted. -/
inductive TableEvent where
  /-- `register_socket_transport` up to the end of `init_socket_transport`. -/
  | init (s : Int) (serial : String) (port : Int) ( isLocal : Bool)
  /-- The rest of `register_socket_transport`. -/
  | link (t : Nat) (serial : String)
  | registerUsb (usb : Nat) (serial : Option String) (writeable : Bool)
  /-- `transport_registration_func` for action 1. -/
  | register (t : Nat)
  /-- `transport_registration_func` for action 0. -/
  | remove (t : Nat)
  /-- The critical section of `unregister_transport`. -/
  | unlink (t : Nat)
  /-- `kick_transport` of `unregister_transport` returns. -/
  | left (t : Nat)
  /-- The critical section of `kick_transport`. -/
  | claim (t : Nat)
  /-- `t->kick(t)` of `kick_transport`. -/
  | kick (t : Nat)
  /-- A kick by `transport_unref_locked` or `close_usb_devices`. -/
  | kickLocked (t : Nat)
  /-- A turn of the loop of `unregister_all_tcp_transports`. -/
  | unregisterTcp (t : Nat)
  /-- `unregister_usb_transport`. -/
  | unregisterUsb (t : Nat)

/-- What is to be done has been begun.  A transport is removed when its last reference was dropped,
after a kick. -/
def Registration.Possible (state : Registration) : TableEvent → Prop
  | .init _ _ _ _ | .registerUsb _ _ _ => True
  | .link t serial => (t, serial) ∈ state.starting
  | .register t => t ∈ state.tables.pendingList
  | .remove t => (state.tables.transports t).kicked = true
  | .unlink t => t ∈ state.tables.transportList
  | .left t => t ∈ state.leaving ∧ (state.tables.transports t).kicked = true
  | .claim t => t < state.tables.fresh ∧ (state.tables.transports t).kicked = false
  | .kick t => t ∈ state.kicking
  | .kickLocked t => t < state.tables.fresh
  | .unregisterTcp t =>
      t ∈ state.tables.transportList ∧ (state.tables.transports t).type = .kTransportLocal ∧
        (state.tables.transports t).adbPort = 0
  | .unregisterUsb t =>
      t ∈ state.tables.transportList ∧ (state.tables.transports t).type = .kTransportUsb

/-- The state after an event. -/
def Registration.apply (state : Registration) : TableEvent → Registration
  | .init s serial port isLocal =>
      let t := state.tables.fresh
      let (tables, fail) :=
        (state.tables.callocSocket s serial port isLocal).initSocketTransport t port isLocal
      { state with
        tables
        starting := if fail < 0 then state.starting else (t, serial) :: state.starting }
  | .link t serial =>
      { state with
        tables := (state.tables.linkSocketTransport t serial).1
        starting := state.starting.erase (t, serial) }
  | .registerUsb usb serial writeable =>
      { state with tables := state.tables.registerUsbTransport usb serial writeable }
  | .register t => { state with tables := state.tables.processRegister t }
  | .remove t | .unregisterUsb t => { state with tables := state.tables.unlinkTransport t }
  | .unlink t =>
      { state with tables := state.tables.unlinkTransport t, leaving := t :: state.leaving }
  | .left t => { state with leaving := state.leaving.erase t }
  | .claim t => { state with tables := state.tables.mark t, kicking := t :: state.kicking }
  | .kick t => { state with tables := state.tables.kick t, kicking := state.kicking.erase t }
  | .kickLocked t => { state with tables := state.tables.kickLocked t }
  | .unregisterTcp t =>
      { state with tables := (state.tables.unlinkTransport t).kickLocked t }

/-- One event. -/
def TableStep (before : Registration) (event : TableEvent) (after : Registration) : Prop :=
  before.Possible event ∧ after = before.apply event

/-- Nothing has been registered, and no thread is about to. -/
def Registration.start (transports : Nat → SocketAtransport) : Registration :=
  { tables := .start transports, starting := [], leaving := [], kicking := [] }

/-- No transport that has a place in `local_transports` is linked under a serial that is known. -/
def LinksNew (state : Registration) : TableEvent → Prop
  | .link t serial =>
      state.tables.serialIn serial (state.tables.pendingList ++ state.tables.transportList) = true →
        some t ∉ state.tables.localTransports
  | _ => True

/-- No thread is between two critical sections. -/
def Registration.Quiet (state : Registration) : Prop :=
  state.starting = [] ∧ state.leaving = [] ∧ state.kicking = []

/-- Every entry of `local_transports` is a transport that is pending or registered and has not been
kicked. -/
def Tables.EntriesLive (tables : Tables) : Prop :=
  ∀ t, some t ∈ tables.localTransports →
    (t ∈ tables.pendingList ∨ t ∈ tables.transportList) ∧ (tables.transports t).kicked = false

/-! ## One call -/

/-- Under the lock of the table nothing happens, or the transport gets an unused place. -/
theorem Tables.initSocketTransport_cases (tables : Tables) (t : Nat) (adbPort : Int)
    ( isLocal : Bool) :
    tables.initSocketTransport t adbPort isLocal = (tables, 0) ∧ isLocal = false ∨
      tables.initSocketTransport t adbPort isLocal = (tables, -1) ∧ isLocal = true ∧
        ¬(tables.findEmulatorTransportByAdbPortLocked adbPort = none ∧
          none ∈ tables.localTransports) ∨
      ∃ index, tables.initSocketTransport t adbPort isLocal =
          ({ tables with localTransports := tables.localTransports.set index (some t) }, 0) ∧
        isLocal = true ∧ tables.findEmulatorTransportByAdbPortLocked adbPort = none ∧
          tables.localTransports[index]? = some none := by
  unfold Tables.initSocketTransport
  cases isLocal with
  | false => exact .inl ⟨rfl, rfl⟩
  | true =>
      rw [if_pos rfl]
      refine .inr ?_
      cases found : tables.findEmulatorTransportByAdbPortLocked adbPort with
      | some other => exact .inl ⟨rfl, rfl, by simp⟩
      | none =>
          cases available : tables.getAvailableLocalTransportIndexLocked with
          | none =>
              refine .inl ⟨rfl, rfl, fun ⟨_, unused⟩ => ?_⟩
              have used := List.findIdx?_eq_none_iff.mp available none unused
              simp at used
          | some index =>
              obtain ⟨inside, unused, -⟩ := List.findIdx?_eq_some_iff_getElem.mp available
              refine .inr ⟨index, rfl, rfl, rfl, ?_⟩
              rw [List.getElem?_eq_getElem inside, Option.isNone_iff_eq_none.mp unused]

theorem Tables.linkSocketTransport_eq (tables : Tables) (t : Nat) (serial : String) :
    tables.linkSocketTransport t serial =
      if tables.serialIn serial (tables.pendingList ++ tables.transportList) = true then
        (tables, -1)
      else ({ tables with pendingList := tables.pendingList ++ [t] }, 0) := by
  have both : tables.serialIn serial (tables.pendingList ++ tables.transportList) =
      (tables.serialIn serial tables.pendingList || tables.serialIn serial tables.transportList) :=
    List.any_append
  unfold Tables.linkSocketTransport
  rw [both]
  cases tables.serialIn serial tables.pendingList <;> simp

/-- A call of `register_socket_transport` that fails leaves the tables as they were, unless the
transport got a place before its serial was found. -/
theorem sameTables_iff (tables : Tables) (pointer : Nat → String) (s : Int)
    (serial : Option String) (port : Int) ( isLocal : Bool) :
    ((tables.registerSocketTransport pointer s serial port isLocal).2 = -1 →
        SameTables tables (tables.registerSocketTransport pointer s serial port isLocal).1) ↔
      ¬Leaks tables s (serial.getD ("T-" ++ pointer tables.fresh)) port isLocal := by
  unfold Tables.registerSocketTransport Leaks
  dsimp only
  generalize serial.getD ("T-" ++ pointer tables.fresh) = name
  generalize made_eq : tables.callocSocket s name port isLocal = made
  have slots : made.localTransports = tables.localTransports := made_eq ▸ rfl
  have pending : made.pendingList = tables.pendingList := made_eq ▸ rfl
  have registered : made.transportList = tables.transportList := made_eq ▸ rfl
  have same : SameTables tables made := ⟨slots, pending, registered⟩
  rw [← slots, ← pending, ← registered]
  rcases made.initSocketTransport_cases tables.fresh port isLocal with
    ⟨result, remote⟩ | ⟨result, -, unplaced⟩ | ⟨index, result, placed, found, unused⟩
  · -- Not an emulator.
    rw [result, remote, if_neg (by simp), Tables.linkSocketTransport_eq]
    split
    · simp [same]
    · simp
  · rw [result, if_pos (by simp)]
    exact ⟨fun _ ⟨_, found, unused, _⟩ => unplaced ⟨found, unused⟩, fun _ _ => same⟩
  · rw [result, if_neg (by simp), Tables.linkSocketTransport_eq]
    have names : { made with
        localTransports := made.localTransports.set index (some tables.fresh) }.serialIn name =
          made.serialIn name := rfl
    dsimp only
    rw [names]
    split
    · next known =>
        have leaks := And.intro placed (And.intro found
          (And.intro (List.mem_of_getElem? unused) known))
        refine iff_of_false (fun unchanged => ?_) (not_not.mpr leaks)
        -- The place was not used before.
        have kept := congrArg (fun slots => slots[index]?) ((unchanged rfl).1.trans slots.symm)
        obtain ⟨inside, -⟩ := List.getElem?_eq_some_iff.mp unused
        rw [unused, List.getElem?_set_self inside] at kept
        cases kept
    · next unknown => simp [unknown]

/-! ## Runs -/

/-- The transport is being kicked, or it has not been kicked and is on its way to a list, on one, or
on its way to be kicked. -/
def Registration.Holds (state : Registration) (t : Nat) : Prop :=
  t ∈ state.kicking ∨ (state.tables.transports t).kicked = false ∧
    ((∃ serial, (t, serial) ∈ state.starting) ∨ t ∈ state.tables.pendingList ∨
      t ∈ state.tables.transportList ∨ t ∈ state.leaving)

/-- What holds of `local_transports` whatever the threads are doing. -/
structure Accounted (state : Registration) : Prop where
  holds : ∀ t, some t ∈ state.tables.localTransports → state.Holds t
  isLocal : ∀ t, some t ∈ state.tables.localTransports →
    (state.tables.transports t).type = .kTransportLocal
  once : ∀ i j t : Nat, state.tables.localTransports[i]? = some (some t) →
    state.tables.localTransports[j]? = some (some t) → i = j
  allocated : ∀ t, some t ∈ state.tables.localTransports → t < state.tables.fresh

namespace Accounted

variable {state state' : Registration} {t : Nat}

/-- No transport gets a place. -/
theorem of_kept (accounted : Accounted state)
    (slots : ∀ i t : Nat, state'.tables.localTransports[i]? = some (some t) →
      state.tables.localTransports[i]? = some (some t))
    (types : ∀ t, some t ∈ state'.tables.localTransports →
      some t ∈ state.tables.localTransports →
        (state'.tables.transports t).type = (state.tables.transports t).type)
    (fresh : state.tables.fresh ≤ state'.tables.fresh)
    (holds : ∀ t, some t ∈ state'.tables.localTransports →
      some t ∈ state.tables.localTransports → state.Holds t → state'.Holds t) :
    Accounted state' := by
  have before : ∀ t, some t ∈ state'.tables.localTransports →
      some t ∈ state.tables.localTransports := by
    intro t inside
    obtain ⟨i, place⟩ := List.mem_iff_getElem?.mp inside
    exact List.mem_of_getElem? (slots i t place)
  refine ⟨fun t inside => ?_, fun t inside => ?_, fun i j t place place' => ?_, fun t inside => ?_⟩
  · exact holds t inside (before t inside) (accounted.holds t (before t inside))
  · exact (types t inside (before t inside)).trans (accounted.isLocal t (before t inside))
  · exact accounted.once i j t (slots i t place) (slots j t place')
  · exact Nat.lt_of_lt_of_le (accounted.allocated t (before t inside)) fresh

/-- The table stays as it is. -/
theorem of_same (accounted : Accounted state)
    (slots : state'.tables.localTransports = state.tables.localTransports)
    (types : ∀ t, some t ∈ state.tables.localTransports →
      (state'.tables.transports t).type = (state.tables.transports t).type)
    (fresh : state.tables.fresh ≤ state'.tables.fresh)
    (holds : ∀ t, some t ∈ state.tables.localTransports → state.Holds t → state'.Holds t) :
    Accounted state' :=
  accounted.of_kept (fun _ _ place => slots ▸ place) (fun t _ => types t) fresh fun t _ => holds t

/-- Entries were allocated before. -/
theorem transports_calloc (accounted : Accounted state)
    (inside : some t ∈ state.tables.localTransports) (atransport : SocketAtransport) :
    (state.tables.calloc atransport).transports t = state.tables.transports t :=
  Function.update_of_ne (Nat.ne_of_lt (accounted.allocated t inside)) _ _

/-- A transport gets an unused place. -/
theorem place {index : Nat} (accounted : Accounted state)
    (unused : state.tables.localTransports[index]? = some none)
    (unplaced : some t ∉ state.tables.localTransports) (allocated : t < state.tables.fresh)
    (type : (state.tables.transports t).type = .kTransportLocal) (holds : state.Holds t) :
    Accounted { state with tables := { state.tables with
      localTransports := state.tables.localTransports.set index (some t) } } := by
  obtain ⟨inside, -⟩ := List.getElem?_eq_some_iff.mp unused
  have places : ∀ i t' : Nat, (state.tables.localTransports.set index (some t))[i]? =
      some (some t') → i = index ∧ t' = t ∨
        t' ≠ t ∧ state.tables.localTransports[i]? = some (some t') := by
    intro i t' place
    by_cases here : i = index
    · subst here
      rw [List.getElem?_set_self inside] at place
      cases place
      exact .inl ⟨rfl, rfl⟩
    · rw [List.getElem?_set_ne (Ne.symm here)] at place
      refine .inr ⟨?_, place⟩
      rintro rfl
      exact unplaced (List.mem_of_getElem? place)
  have members : ∀ t', some t' ∈ state.tables.localTransports.set index (some t) →
      t' = t ∨ some t' ∈ state.tables.localTransports := by
    intro t' member
    obtain ⟨i, place⟩ := List.mem_iff_getElem?.mp member
    exact (places i t' place).imp And.right fun ⟨_, before⟩ => List.mem_of_getElem? before
  refine ⟨fun t' member => ?_, fun t' member => ?_, fun i j t' first second => ?_,
    fun t' member => ?_⟩
  · rcases members t' member with rfl | before
    · exact holds
    · exact accounted.holds t' before
  · rcases members t' member with rfl | before
    · exact type
    · exact accounted.isLocal t' before
  · rcases places i t' first with ⟨rfl, rfl⟩ | ⟨other, before⟩ <;>
      rcases places j t' second with ⟨rfl, same⟩ | ⟨other', before'⟩
    · rfl
    · exact absurd rfl other'
    · exact absurd same other
    · exact accounted.once i j t' before before'
  · rcases members t' member with rfl | before
    · exact allocated
    · exact accounted.allocated t' before

theorem init (accounted : Accounted state) (s : Int) (serial : String) (port : Int)
    ( isLocal : Bool) : Accounted (state.apply (.init s serial port isLocal)) := by
  have kept : ∀ {starting : List (Nat × String)}, state.starting ⊆ starting →
      Accounted { state with
        tables := state.tables.callocSocket s serial port isLocal, starting } := by
    intro starting more
    refine accounted.of_same rfl (fun t inside => ?_) (Nat.le_succ _) fun t inside holds => ?_
    · rw [Tables.callocSocket, accounted.transports_calloc inside]
    · refine holds.imp_right fun ⟨unkicked, somewhere⟩ => ⟨?_, ?_⟩
      · rw [Tables.callocSocket, accounted.transports_calloc inside]
        exact unkicked
      · exact somewhere.imp_left fun ⟨serial, begun⟩ => ⟨serial, more begun⟩
  simp only [Registration.apply]
  rcases (state.tables.callocSocket s serial port isLocal).initSocketTransport_cases
    state.tables.fresh port isLocal with
    ⟨result, -⟩ | ⟨result, -⟩ | ⟨index, result, -, -, unused⟩
  · rw [result]
    exact kept (by simp)
  · rw [result]
    exact kept (by simp)
  · rw [result, if_neg (by simp)]
    have new : (state.tables.callocSocket s serial port isLocal).transports state.tables.fresh =
        { initSocketTransport serial port isLocal with sfd := s, kicked := false } :=
      Function.update_self _ _ _
    have before := kept (List.subset_cons_self (state.tables.fresh, serial) state.starting)
    refine before.place unused (fun inside => ?_) (Nat.lt_succ_self _) (by rw [new]; rfl) ?_
    · exact Nat.lt_irrefl _ (accounted.allocated _ inside)
    · exact .inr ⟨by rw [new], .inl ⟨serial, List.mem_cons_self⟩⟩

theorem link (accounted : Accounted state) {serial : String}
    (linksNew : LinksNew state (.link t serial)) :
    Accounted (state.apply (.link t serial)) := by
  have started : ∀ t' serial', t' ≠ t → (t', serial') ∈ state.starting →
      (t', serial') ∈ state.starting.erase (t, serial) := by
    intro t' serial' different begun
    exact (List.mem_erase_of_ne fun same => different (congrArg Prod.fst same)).mpr begun
  simp only [Registration.apply, Tables.linkSocketTransport_eq]
  split
  · next known =>
      refine accounted.of_same rfl (fun _ _ => rfl) (Nat.le_refl _) fun t' inside holds => ?_
      have different : t' ≠ t := by
        rintro rfl
        exact linksNew known inside
      refine holds.imp_right (And.imp_right fun somewhere => somewhere.imp_left ?_)
      exact fun ⟨serial', begun⟩ => ⟨serial', started t' serial' different begun⟩
  · refine accounted.of_same rfl (fun _ _ => rfl) (Nat.le_refl _) fun t' inside holds => ?_
    refine holds.imp_right (And.imp_right fun somewhere => ?_)
    rcases somewhere with ⟨serial', begun⟩ | pending | elsewhere
    · by_cases same : t' = t
      · subst same
        exact .inr (.inl (List.mem_append_right _ List.mem_cons_self))
      · exact .inl ⟨serial', started t' serial' same begun⟩
    · exact .inr (.inl (List.mem_append_left _ pending))
    · exact .inr (.inr elsewhere)

theorem registerUsb (accounted : Accounted state) (usb : Nat) (serial : Option String)
    (writeable : Bool) : Accounted (state.apply (.registerUsb usb serial writeable)) := by
  refine accounted.of_same rfl (fun t inside => ?_) (Nat.le_succ _) fun t inside holds => ?_
  · exact congrArg (fun made : SocketAtransport => made.type)
      (accounted.transports_calloc inside _)
  · refine holds.imp_right fun ⟨unkicked, somewhere⟩ => ⟨?_, somewhere.imp_right (.imp_left ?_)⟩
    · exact (congrArg (fun made : SocketAtransport => made.kicked)
        (accounted.transports_calloc inside _)).trans unkicked
    · exact List.mem_append_left _

theorem register (accounted : Accounted state) (t : Nat) :
    Accounted (state.apply (.register t)) := by
  refine accounted.of_same rfl (fun _ _ => rfl) (Nat.le_refl _) fun t' inside holds => ?_
  refine holds.imp_right (And.imp_right fun somewhere => ?_)
  rcases somewhere with begun | pending | registered | leaving
  · exact .inl begun
  · by_cases same : t' = t
    · subst same
      exact .inr (.inr (.inl (List.mem_append_right _ List.mem_cons_self)))
    · exact .inr (.inl ((List.mem_erase_of_ne same).mpr pending))
  · exact .inr (.inr (.inl (List.mem_append_left _ registered)))
  · exact .inr (.inr (.inr leaving))

/-! ### Unlinking -/

theorem holds_unlink {t' : Nat} (holds : state.Holds t')
    (left : t' = t → (state.tables.transports t).kicked = true) :
    Registration.Holds { state with tables := state.tables.unlinkTransport t } t' := by
  refine holds.imp_right fun ⟨unkicked, somewhere⟩ => ⟨unkicked, ?_⟩
  refine somewhere.imp_right (.imp_right (.imp_left fun registered => ?_))
  refine (List.mem_erase_of_ne fun same => ?_).mpr registered
  subst same
  rw [left rfl] at unkicked
  cases unkicked

theorem unlinkTransport (accounted : Accounted state)
    (left : some t ∈ state.tables.localTransports → (state.tables.transports t).kicked = true) :
    Accounted { state with tables := state.tables.unlinkTransport t } := by
  refine accounted.of_same rfl (fun _ _ => rfl) (Nat.le_refl _) fun t' inside holds => ?_
  exact holds_unlink holds fun same => left (same ▸ inside)

theorem unlink (accounted : Accounted state) (t : Nat) : Accounted (state.apply (.unlink t)) := by
  refine accounted.of_same rfl (fun _ _ => rfl) (Nat.le_refl _) fun t' inside holds => ?_
  refine holds.imp_right (And.imp_right fun somewhere => ?_)
  rcases somewhere with begun | pending | registered | leaving
  · exact .inl begun
  · exact .inr (.inl pending)
  · by_cases same : t' = t
    · subst same
      exact .inr (.inr (.inr List.mem_cons_self))
    · exact .inr (.inr (.inl ((List.mem_erase_of_ne same).mpr registered)))
  · exact .inr (.inr (.inr (List.mem_cons_of_mem _ leaving)))

theorem left (accounted : Accounted state) (kicked : (state.tables.transports t).kicked = true) :
    Accounted (state.apply (.left t)) := by
  refine accounted.of_same rfl (fun _ _ => rfl) (Nat.le_refl _) fun t' inside holds => ?_
  refine holds.imp_right fun ⟨unkicked, somewhere⟩ => ⟨unkicked, ?_⟩
  refine somewhere.imp_right (.imp_right (.imp_right fun leaving => ?_))
  refine (List.mem_erase_of_ne fun same => ?_).mpr leaving
  subst same
  rw [kicked] at unkicked
  cases unkicked

/-! ### Kicks -/

/-- A kicked transport has no place any more. -/
theorem kick_slots {tables : Tables}
    (isLocal : some t ∈ tables.localTransports → (tables.transports t).type = .kTransportLocal)
    (once : ∀ i j : Nat, tables.localTransports[i]? = some (some t) →
      tables.localTransports[j]? = some (some t) → i = j) {i t' : Nat}
    (place : (tables.kick t).localTransports[i]? = some (some t')) :
    t' ≠ t ∧ tables.localTransports[i]? = some (some t') := by
  unfold Tables.kick at place
  cases type : (tables.transports t).type with
  | kTransportUsb =>
      rw [type] at place
      refine ⟨?_, place⟩
      rintro rfl
      rw [isLocal (List.mem_of_getElem? place)] at type
      cases type
  | kTransportLocal =>
      rw [type] at place
      simp only [Tables.remoteKick] at place
      split at place
      · next unplaced =>
          refine ⟨?_, place⟩
          rintro rfl
          have other := List.findIdx?_eq_none_iff.mp unplaced _ (List.mem_of_getElem? place)
          simp at other
      · next nn found =>
          obtain ⟨inside, mine, -⟩ := List.findIdx?_eq_some_iff_getElem.mp found
          by_cases here : i = nn
          · subst here
            rw [List.getElem?_set_self inside] at place
            cases place
          · rw [List.getElem?_set_ne (Ne.symm here)] at place
            refine ⟨?_, place⟩
            rintro rfl
            refine here (once i nn place ?_)
            rw [List.getElem?_eq_getElem inside, of_decide_eq_true mine]

theorem kick_same (tables : Tables) (t t' : Nat) :
    ((tables.kick t).transports t').kicked = (tables.transports t').kicked ∧
      ((tables.kick t).transports t').type = (tables.transports t').type ∧
        (tables.kick t).pendingList = tables.pendingList ∧
          (tables.kick t).transportList = tables.transportList ∧
            (tables.kick t).fresh = tables.fresh := by
  unfold Tables.kick
  split
  · by_cases same : t' = t
    · subst same
      simp [Tables.remoteKick]
    · simp [Tables.remoteKick, same]
  · simp

/-- What has a place after a kick is another transport, and nothing else about it has changed. -/
theorem kick (accounted : Accounted state) {kicking : List Nat}
    (others : ∀ t' ∈ state.kicking, t' ≠ t → t' ∈ kicking) :
    Accounted { state with tables := state.tables.kick t, kicking } := by
  have places : ∀ i t' : Nat, (state.tables.kick t).localTransports[i]? = some (some t') →
      t' ≠ t ∧ state.tables.localTransports[i]? = some (some t') :=
    fun i t' place => kick_slots (accounted.isLocal t) (fun i j => accounted.once i j t) place
  refine accounted.of_kept (fun i t' place => (places i t' place).2)
    (fun t' _ _ => (kick_same state.tables t t').2.1)
    (Nat.le_of_eq (kick_same state.tables t t).2.2.2.2.symm) fun t' member _ holds => ?_
  obtain ⟨i, place⟩ := List.mem_iff_getElem?.mp member
  have different := (places i t' place).1
  obtain ⟨kicked, -, pending, registered, -⟩ := kick_same state.tables t t'
  rcases holds with kicking | ⟨unkicked, somewhere⟩
  · exact .inl (others t' kicking different)
  · refine .inr ⟨kicked.trans unkicked, ?_⟩
    dsimp only
    rw [pending, registered]
    exact somewhere

theorem claim (accounted : Accounted state) (t : Nat) : Accounted (state.apply (.claim t)) := by
  refine accounted.of_same rfl (fun t' inside => ?_) (Nat.le_refl _) fun t' inside holds => ?_
  · by_cases same : t' = t
    · subst same
      simp [Registration.apply, Tables.mark]
    · simp [Registration.apply, Tables.mark, same]
  · by_cases same : t' = t
    · subst same
      exact .inl List.mem_cons_self
    · have marked : ((state.tables.mark t).transports t') = state.tables.transports t' :=
        Function.update_of_ne same _ _
      refine holds.imp (List.mem_cons_of_mem _) fun ⟨unkicked, somewhere⟩ => ⟨?_, somewhere⟩
      exact (congrArg (fun after : SocketAtransport => after.kicked) marked).trans unkicked

/-- A transport is unlinked or not, and then kicked under the lock. -/
theorem kickLocked (accounted : Accounted state) (t : Nat) :
    Accounted { state with tables := state.tables.kickLocked t } ∧
      Accounted { state with tables := (state.tables.unlinkTransport t).kickLocked t } := by
  have others : ∀ t' ∈ t :: state.kicking, t' ≠ t → t' ∈ state.kicking := by
    intro t' member different
    exact (List.mem_cons.mp member).resolve_left different
  have claimed := accounted.claim t
  unfold Tables.kickLocked
  have same : ((state.tables.unlinkTransport t).transports t).kicked =
      (state.tables.transports t).kicked := rfl
  rw [same]
  cases kicked : (state.tables.transports t).kicked with
  | true => exact ⟨accounted, accounted.unlinkTransport fun _ => kicked⟩
  | false =>
      have unlinked := claimed.unlinkTransport (t := t) fun _ => by
        simp [Registration.apply, Tables.mark]
      exact ⟨claimed.kick others, unlinked.kick others⟩

theorem step {event : TableEvent} (accounted : Accounted state)
    (step : TableStep state event state') (linksNew : LinksNew state event) :
    Accounted state' := by
  obtain ⟨possible, rfl⟩ := step
  cases event with
  | init s serial port isLocal => exact accounted.init s serial port isLocal
  | link t serial => exact accounted.link linksNew
  | registerUsb usb serial writeable => exact accounted.registerUsb usb serial writeable
  | register t => exact accounted.register t
  | remove t => exact accounted.unlinkTransport fun _ => possible
  | unlink t => exact accounted.unlink t
  | left t => exact accounted.left possible.2
  | claim t => exact accounted.claim t
  | kick t =>
      exact accounted.kick fun t' kicking different => (List.mem_erase_of_ne different).mpr kicking
  | kickLocked t => exact (accounted.kickLocked t).1
  | unregisterTcp t => exact (accounted.kickLocked t).2
  | unregisterUsb t =>
      refine accounted.unlinkTransport fun inside => ?_
      have other := accounted.isLocal t inside
      rw [possible.2] at other
      cases other

theorem start (transports : Nat → SocketAtransport) :
    Accounted (Registration.start transports) := by
  have unused : ∀ t : Nat, some t ∉ (Registration.start transports).tables.localTransports := by
    intro t inside
    have empty := List.eq_of_mem_replicate inside
    cases empty
  exact ⟨fun t inside => absurd inside (unused t), fun t inside => absurd inside (unused t),
    fun i j t place => absurd (List.mem_of_getElem? place) (unused t),
    fun t inside => absurd inside (unused t)⟩

/-- When no thread is between two critical sections, the entries are live. -/
theorem entriesLive (accounted : Accounted state) (quiet : state.Quiet) :
    state.tables.EntriesLive := by
  obtain ⟨starting, leaving, kicking⟩ := quiet
  intro t inside
  rcases accounted.holds t inside with kicked | ⟨unkicked, somewhere⟩
  · rw [kicking] at kicked
    cases kicked
  · refine ⟨?_, unkicked⟩
    rw [starting, leaving] at somewhere
    simpa using somewhere

end Accounted

/-- A call of `register_socket_transport` that fails leaves the tables as they were exactly when the
transport did not get a place before its serial was found.  And where this never happens, the
entries of `local_transports` are live whenever no thread is between two critical sections. -/
theorem registerSocketTransport_leaves_no_trace_iff (tables : Tables) (pointer : Nat → String)
    (s : Int) (serial : Option String) (port : Int) ( isLocal : Bool) :
    (((tables.registerSocketTransport pointer s serial port isLocal).2 = -1 →
          SameTables tables (tables.registerSocketTransport pointer s serial port isLocal).1) ↔
        ¬Leaks tables s (serial.getD ("T-" ++ pointer tables.fresh)) port isLocal) ∧
      ∀ (transports : Nat → SocketAtransport) (events : List TableEvent) (state : Registration),
        Trace (Guarded TableStep LinksNew) (Registration.start transports) events state →
          state.Quiet → state.tables.EntriesLive := by
  refine ⟨sameTables_iff tables pointer s serial port isLocal, ?_⟩
  intro transports events state trace quiet
  have accounted := trace.invariant Accounted (.start transports)
    fun before event after accounted step => accounted.step step.2 step.1
  exact accounted.entriesLive quiet

/-- Memory nobody has written to. -/
def blank (_ : Nat) : SocketAtransport :=
  { initUsbTransport 0 none false with sfd := 0, kicked := false }

/-- An emulator was connected by `adb connect emu:5554,5555`. -/
def connected : Tables :=
  ((Tables.start blank).registerSocketTransport (fun _ => "0x0") 3 (some "emulator-5554") 5555
    true).1

/-- The registration of an emulator, step by step. -/
def connecting : Registration :=
  ((Registration.start blank).apply (.init 3 "emulator-5554" 5555 true)).apply
    (.link 0 "emulator-5554")

/-- A device is registered twice over the network, and an emulator once. -/
theorem registerSocketTransport_leaves_no_trace_iff_connected :
    (connected.registerSocketTransport (fun _ => "0x0") 4 (some "emulator-5554") 5557 false).2 =
        -1 ∧
      SameTables connected
        (connected.registerSocketTransport (fun _ => "0x0") 4 (some "emulator-5554") 5557 false).1 ∧
      some 0 ∈ connecting.tables.localTransports ∧ connecting.tables.EntriesLive := by
  have failed : (connected.registerSocketTransport (fun _ => "0x0") 4 (some "emulator-5554") 5557
      false).2 = -1 := by decide
  have network : ¬Leaks connected 4 "emulator-5554" 5557 false := by simp [Leaks]
  have first : Trace (Guarded TableStep LinksNew) (Registration.start blank)
      [.init 3 "emulator-5554" 5555 true] _ :=
    .snoc .nil ⟨trivial, trivial, rfl⟩
  have second : LinksNew ((Registration.start blank).apply (.init 3 "emulator-5554" 5555 true))
      (.link 0 "emulator-5554") := by
    intro known
    cases known
  have holds := registerSocketTransport_leaves_no_trace_iff connected (fun _ => "0x0") 4
    (some "emulator-5554") 5557 false
  refine ⟨failed, holds.1.mpr network failed, by decide, ?_⟩
  exact holds.2 blank _ connecting
    (first.snoc ⟨second, List.mem_cons_self, rfl⟩) ⟨by decide, rfl, rfl⟩

/-- The emulator is connected again with another port. -/
def reconnecting : Registration :=
  (connecting.apply (.init 4 "emulator-5554" 5557 true)).apply (.link 1 "emulator-5554")

/-- The serial is found too late: the second transport is freed, and stays in the table. -/
theorem registerSocketTransport_leaves_trace :
    let again := connected.registerSocketTransport (fun _ => "0x0") 4 (some "emulator-5554") 5557
      true
    again.2 = -1 ∧ connected.localTransports[1]? = some none ∧
      again.1.localTransports[1]? = some (some 1) ∧ ¬SameTables connected again.1 ∧
        Reachable TableStep (Registration.start blank) reconnecting ∧ reconnecting.Quiet ∧
          ¬reconnecting.tables.EntriesLive := by
  have first : Trace TableStep (Registration.start blank) [.init 3 "emulator-5554" 5555 true] _ :=
    .snoc .nil ⟨trivial, rfl⟩
  have second : Trace TableStep (Registration.start blank) _ connecting :=
    first.snoc ⟨List.mem_cons_self, rfl⟩
  have third := second.snoc (show TableStep connecting
    (.init 4 "emulator-5554" 5557 true) _ from ⟨trivial, rfl⟩)
  refine ⟨by decide, by decide, by decide, ?_, ⟨_, third.snoc ⟨List.mem_cons_self, rfl⟩⟩,
    ⟨by decide, rfl, rfl⟩, fun live => ?_⟩
  · rintro ⟨slots, -⟩
    revert slots
    decide
  · have entry := (live 1 (by decide)).1
    revert entry
    decide

end Transport
end AdbWide
