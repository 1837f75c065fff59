import AdbWide.Listeners.Model

/-!
# The two kinds of lists stay in step

`listener_list` has exactly the listeners that are allocated, and the disconnects of a transport are
those of exactly the listeners and remote sockets that belong to it.  Every function keeps this, and
no function comes to a node that is gone.
-/

namespace AdbWide
namespace Listeners

open Sockets.Server (ascii)

namespace Table

/-- The node is a member of `listener_list`. -/
def Listed (table : Table) (node : Node) : Prop :=
  ∃ address, node = .listener address ∧ (table.listeners address).isSome

/-- The transport whose disconnects a node is among. -/
def transportOf (table : Table) : Adisconnect → Option Nat
  | .disconnects _ => none
  | .listener address => (table.listeners address).bind (·.transport)
  | .remote address => table.remotes address

end Table

open Table

/-- The rings of disconnects, for the transports that exist and the transport of each node. -/
def Registered (links : Links Adisconnect) (alive : Nat → Bool)
    (owner : Adisconnect → Option Nat) : Prop :=
  ∀ transport, alive transport = true →
    links.Collects (.disconnects transport) (owner · = some transport)

/-- What every call can rely on. -/
structure Intact (table : Table) : Prop where
  listed : table.links.Collects .listenerList table.Listed
  registered : Registered table.disconnects table.transports table.transportOf
  alive : ∀ dis transport, table.transportOf dis = some transport →
    table.transports transport = true
  callback : ∀ address l, table.listeners address = some l → l.transport.isSome →
    l.callback = some address
  special : ∀ address l, table.listeners address = some l → l.transport = none → l.special = true
  names : ∀ address address' l l', table.listeners address = some l →
    table.listeners address' = some l' → l.localName = l'.localName → address = address'

/-! ## The lists of disconnects -/

theorem unlinkDisconnect_eq (links : Links Adisconnect) (dis : Adisconnect) :
    unlinkDisconnect links dis = links.detach dis := by
  have unchanged :
      Function.update links.next (links.prev dis) (links.next dis) dis = links.next dis := by
    rcases eq_or_ne dis (links.prev dis) with same | different
    · rw [← same]
      simp
    · simp [different]
  simp only [unlinkDisconnect, Links.detach, Links.unlink_next, Links.unlink_prev, unchanged]

theorem linkDisconnect_eq {links : Links Adisconnect} {head dis : Adisconnect}
    (different : dis ≠ head) (fresh : dis ≠ links.prev head) :
    linkDisconnect links head dis = links.insertLast head dis := by
  simp [linkDisconnect, Links.insertLast, fresh, different]

namespace Registered

variable {links : Links Adisconnect} {alive : Nat → Bool} {owner : Adisconnect → Option Nat}
  {dis : Adisconnect} {transport : Nat}

/-- A change of owner between others does not change what a transport owns. -/
theorem update_eq_some_iff {value : Option Nat} (before : owner dis ≠ some transport)
    (after : value ≠ some transport) (other : Adisconnect) :
    Function.update owner dis value other = some transport ↔ owner other = some transport := by
  rcases eq_or_ne other dis with rfl | apart
  · rw [Function.update_self]
    exact iff_of_false after before
  · rw [Function.update_of_ne apart]

theorem detach (registered : Registered links alive owner)
    (heads : ∀ transport, owner (.disconnects transport) = none)
    (live : alive transport = true) (owned : owner dis = some transport) :
    Registered (links.detach dis) alive (Function.update owner dis none) := by
  intro transport' live'
  rcases eq_or_ne transport' transport with rfl | different
  · refine (registered transport' live).detach owned fun other => ?_
    rcases eq_or_ne other dis with rfl | apart
    · simp
    · simp [apart]
  · have untouched : (links.detach dis).Collects (.disconnects transport')
        (owner · = some transport') := by
      refine (registered transport' live').detach_apart (registered transport live) owned
        ?_ ?_ ?_ ?_
      · simpa using different.symm
      · simp [heads]
      · simp [heads]
      · intro other mine yours
        exact different (Option.some.inj (yours.symm.trans mine))
    refine untouched.congr fun other => ?_
    exact update_eq_some_iff (by simp [owned, different.symm]) (by simp) other

theorem insertLast (registered : Registered links alive owner)
    (heads : ∀ transport, owner (.disconnects transport) = none)
    (live : alive transport = true) (free : owner dis = none)
    (node : ∀ transport, dis ≠ .disconnects transport) :
    Registered (links.insertLast (.disconnects transport) dis) alive
      (Function.update owner dis (some transport)) := by
  intro transport' live'
  rcases eq_or_ne transport' transport with rfl | different
  · refine (registered transport' live).insertLast ?_ (node transport') fun other => ?_
    · simp [free]
    · rcases eq_or_ne other dis with rfl | apart
      · simp
      · simp [apart]
  · have untouched : (links.insertLast (.disconnects transport) dis).Collects
        (.disconnects transport') (owner · = some transport') := by
      refine (registered transport' live').insertLast_apart (registered transport live) ?_
        (node transport') (node transport) ?_ ?_ ?_ ?_
      · simp [free]
      · simpa using different.symm
      · simp [heads]
      · simp [heads]
      · intro other mine yours
        exact different (Option.some.inj (yours.symm.trans mine))
    refine untouched.congr fun other => ?_
    exact update_eq_some_iff (by simp [free]) (by simp [different.symm]) other

end Registered

section disconnects

variable {table : Table} {owner : Adisconnect → Option Nat} {dis : Adisconnect} {transport : Nat}

theorem accessDisconnect_eq (allocated : table.allocatedDisconnect dis = true) :
    table.accessDisconnect dis = .ok () := by
  simp [accessDisconnect, allocated]

theorem addTransportDisconnect_eq (registered : Registered table.disconnects table.transports owner)
    (allocated : ∀ other transport, owner other = some transport →
      table.allocatedDisconnect other = true)
    (live : table.transports transport = true) (free : owner dis = none)
    (node : ∀ transport, dis ≠ .disconnects transport) :
    table.addTransportDisconnect transport dis =
      .ok { table with
        disconnects := table.disconnects.insertLast (.disconnects transport) dis } := by
  have last := (registered transport live).prev_head
  have head_allocated : table.allocatedDisconnect (.disconnects transport) = true := live
  have last_allocated :
      table.allocatedDisconnect (table.disconnects.prev (.disconnects transport)) = true := by
    rcases last with head | owned
    · rw [head]
      exact live
    · exact allocated _ _ owned
  have fresh : dis ≠ table.disconnects.prev (.disconnects transport) := by
    intro equal
    rcases last with head | owned
    · exact node transport (equal.trans head)
    · rw [← equal, free] at owned
      cases owned
  rw [addTransportDisconnect, linkDisconnect_eq (node transport) fresh,
    accessDisconnect_eq head_allocated, accessDisconnect_eq last_allocated]
  rfl

theorem removeTransportDisconnect_eq
    (registered : Registered table.disconnects table.transports owner)
    (allocated : ∀ other transport, owner other = some transport →
      table.allocatedDisconnect other = true)
    (live : table.transports transport = true) (owned : owner dis = some transport) :
    table.removeTransportDisconnect dis =
      .ok { table with disconnects := table.disconnects.detach dis } := by
  have on_ring : ∀ other, other = .disconnects transport ∨ owner other = some transport →
      table.allocatedDisconnect other = true := by
    rintro other (rfl | owned)
    · exact live
    · exact allocated other transport owned
  obtain ⟨next, prev⟩ := (registered transport live).neighbours owned
  rw [removeTransportDisconnect, accessDisconnect_eq (on_ring _ next),
    accessDisconnect_eq (on_ring _ prev), unlinkDisconnect_eq]
  rfl

end disconnects

theorem transportOf_update (table : Table) (address : Nat) (entry : Option Alistener) :
    { table with listeners := Function.update table.listeners address entry }.transportOf =
      Function.update table.transportOf (.listener address) (entry.bind (·.transport)) := by
  funext dis
  cases dis with
  | disconnects transport => simp [transportOf]
  | listener other =>
      rcases eq_or_ne other address with rfl | different
      · simp [transportOf]
      · simp [transportOf, different]
  | remote other => simp [transportOf]

theorem transportOf_updateRemote (table : Table) (address : Nat) (entry : Option Nat) :
    { table with remotes := Function.update table.remotes address entry }.transportOf =
      Function.update table.transportOf (.remote address) entry := by
  funext dis
  cases dis with
  | disconnects transport => simp [transportOf]
  | listener other => simp [transportOf]
  | remote other =>
      rcases eq_or_ne other address with rfl | different
      · simp [transportOf]
      · simp [transportOf, different]

theorem allocated_of_transportOf {table : Table} {dis : Adisconnect} {transport : Nat}
    (owned : table.transportOf dis = some transport) : table.allocatedDisconnect dis = true := by
  cases dis with
  | disconnects other => simp [transportOf] at owned
  | listener address =>
      cases found : table.listeners address with
      | none => simp [transportOf, found] at owned
      | some l => simp [allocatedDisconnect, found]
  | remote address =>
      rw [transportOf] at owned
      simp [allocatedDisconnect, owned]

/-! ## Looking for a name -/

theorem exists_map_listener {nodes : List Node} (all : ∀ node ∈ nodes, ∃ a, node = .listener a) :
    ∃ order : List Nat, nodes = order.map .listener := by
  induction nodes with
  | nil => exact ⟨[], rfl⟩
  | cons node nodes induction =>
      obtain ⟨address, rfl⟩ := all node (by simp)
      obtain ⟨order, rfl⟩ := induction fun other member => all other (by simp [member])
      exact ⟨address :: order, rfl⟩

/-- The listeners in the order of `listener_list`. -/
theorem Intact.exists_order {table : Table} (intact : Intact table) :
    ∃ order : List Nat, table.links.Ring .listenerList (order.map .listener) ∧
      ∀ address, address ∈ order ↔ (table.listeners address).isSome := by
  obtain ⟨members, ring, mem_iff⟩ := intact.listed
  obtain ⟨order, rfl⟩ := exists_map_listener fun node member =>
    ((mem_iff node).mp member).imp fun _ => And.left
  refine ⟨order, ring, fun address => ?_⟩
  have listed := mem_iff (.listener address)
  simpa [Listed] using listed

/-- The listener at the address has the name. -/
def Table.named (table : Table) (localName : List UInt8) (address : Nat) : Bool :=
  (table.listeners address).map (·.localName) = some localName

/-- Enough fuel is enough for one more turn of a loop. -/
theorem exists_succ {turns fuel : Nat} (enough : turns < fuel) :
    ∃ rest, fuel = rest + 1 ∧ turns ≤ rest :=
  ⟨fuel - 1, by omega, by omega⟩

theorem findListener_path {table : Table} {localName : List UInt8} {first : Node}
    {order : List Nat} {fuel : Nat}
    (path : table.links.Path first (order.map .listener) .listenerList)
    (allocated : ∀ address ∈ order, (table.listeners address).isSome)
    (enough : order.length < fuel) :
    table.findListener localName fuel (table.links.next first) =
      .ok (order.find? (table.named localName)) := by
  induction order generalizing first fuel with
  | nil =>
      obtain ⟨fuel, rfl, -⟩ := exists_succ enough
      rw [path.1, findListener]
      rfl
  | cons address order induction =>
      obtain ⟨fuel, rfl, left⟩ := exists_succ enough
      obtain ⟨l, found⟩ := Option.isSome_iff_exists.mp (allocated address (by simp))
      have later := induction path.2.2 (fun other member => allocated other (by simp [member])) left
      rw [path.1, findListener, dereference, found]
      rcases eq_or_ne localName l.localName with same | different
      · simp [named, found, same, bind, Except.bind, pure, Except.pure]
      · have other : table.named localName address = false := by
          simp [named, found, different.symm]
        simpa [List.find?_cons, other, different, bind, Except.bind] using later

/-- The loop finds the listener of a name, if there is one. -/
theorem Intact.find_cases {table : Table} (intact : Intact table) (localName : List UInt8) :
    (∃ address l, table.listeners address = some l ∧ l.localName = localName ∧
      Returns (fun fuel => table.findListener localName fuel (table.links.next .listenerList))
        (some address)) ∨
    ((∀ address l, table.listeners address = some l → l.localName ≠ localName) ∧
      Returns (fun fuel => table.findListener localName fuel (table.links.next .listenerList))
        none) := by
  obtain ⟨order, ring, mem_order⟩ := intact.exists_order
  have search : Returns
      (fun fuel => table.findListener localName fuel (table.links.next .listenerList))
      (order.find? (table.named localName)) :=
    ⟨order.length + 1, fun fuel enough =>
      findListener_path ring.path (fun address => (mem_order address).mp) enough⟩
  cases result : order.find? (table.named localName) with
  | some address =>
      rw [result] at search
      obtain ⟨l, found, name⟩ :
          ∃ l, table.listeners address = some l ∧ l.localName = localName := by
        simpa [named] using List.find?_some result
      exact .inl ⟨address, l, found, name, search⟩
  | none =>
      rw [result] at search
      refine .inr ⟨fun address l found name => ?_, search⟩
      have unnamed := List.find?_eq_none.mp result address
        ((mem_order address).mpr (by simp [found]))
      simp [named, found, name] at unnamed

/-! ## Freeing a listener -/

/-- What `free_listener` leaves. -/
def Table.freed (table : Table) (address : Nat) (l : Alistener) : Table :=
  { table with
    listeners := Function.update table.listeners address none
    links := table.links.detach (.listener address)
    disconnects :=
      if l.transport.isSome then table.disconnects.detach (.listener address)
      else table.disconnects }

theorem access_eq {table : Table} {node : Node} (allocated : table.allocated node = true) :
    table.access node = .ok () := by
  simp [access, allocated]

section listeners

variable {table : Table} {address : Nat} {l : Alistener}

theorem transportOf_listener (found : table.listeners address = some l) :
    table.transportOf (.listener address) = l.transport := by
  simp [transportOf, found]

theorem Intact.freeListener_eq (intact : Intact table) (found : table.listeners address = some l) :
    table.freeListener address = .ok (table.freed address l) := by
  have listed : table.Listed (.listener address) := ⟨address, rfl, by simp [found]⟩
  have on_list : ∀ node, node = .listenerList ∨ table.Listed node →
      table.allocated node = true := by
    rintro node (rfl | ⟨other, rfl, some⟩)
    · rfl
    · exact some
  obtain ⟨next, prev⟩ := intact.listed.neighbours listed
  rw [freeListener, dereference, found]
  simp only [access_eq (on_list _ next), access_eq (on_list _ prev), bind, Except.bind]
  cases belongs : l.transport with
  | none => simp [freed, belongs, pure, Except.pure]
  | some transport =>
      have owned := (transportOf_listener found).trans belongs
      have removed :
          { table with links := table.links.detach (.listener address) }.removeTransportDisconnect
            (.listener address) = .ok _ :=
        removeTransportDisconnect_eq intact.registered (fun _ _ => allocated_of_transportOf)
          (intact.alive _ _ owned) owned
      simp [removed, freed, belongs, pure, Except.pure]

theorem Intact.freed (intact : Intact table) (found : table.listeners address = some l) :
    Intact (table.freed address l) := by
  have owners : (table.freed address l).transportOf =
      Function.update table.transportOf (.listener address) none :=
    transportOf_update table address none
  have earlier : ∀ other l', (table.freed address l).listeners other = some l' →
      table.listeners other = some l' := by
    intro other l' kept
    rcases eq_or_ne other address with rfl | different
    · simp [Table.freed] at kept
    · simpa [Table.freed, different] using kept
  refine ⟨?_, ?_, ?_, ?_, ?_, ?_⟩
  · refine intact.listed.detach ⟨address, rfl, by simp [found]⟩ fun other => ?_
    constructor
    · rintro ⟨address', rfl, kept⟩
      obtain ⟨l', kept⟩ := Option.isSome_iff_exists.mp kept
      refine ⟨?_, address', rfl, by simp [earlier _ _ kept]⟩
      rintro equal
      obtain rfl := Node.listener.inj equal
      simp [Table.freed] at kept
    · rintro ⟨apart, address', rfl, some⟩
      refine ⟨address', rfl, ?_⟩
      have different : address' ≠ address := fun equal => apart (by rw [equal])
      simpa [Table.freed, different] using some
  · rw [owners]
    cases belongs : l.transport with
    | none =>
        have unowned := (transportOf_listener found).trans belongs
        rw [← unowned, Function.update_eq_self]
        simpa [Table.freed, belongs] using intact.registered
    | some transport =>
        have owned := (transportOf_listener found).trans belongs
        have detached := Registered.detach intact.registered (fun _ => rfl)
          (intact.alive _ _ owned) owned
        simpa [Table.freed, belongs] using detached
  · intro dis transport owned
    rw [owners] at owned
    rcases eq_or_ne dis (.listener address) with rfl | different
    · simp at owned
    · exact intact.alive dis transport (by simpa [different] using owned)
  · exact fun other l' kept => intact.callback other l' (earlier other l' kept)
  · exact fun other l' kept => intact.special other l' (earlier other l' kept)
  · exact fun other other' l' l'' kept kept' =>
      intact.names other other' l' l'' (earlier _ _ kept) (earlier _ _ kept')

/-- A listener is put at an address, with the links that belong to it. -/
theorem Intact.stored (intact : Intact table) {links : Links Node} {disconnects : Links Adisconnect}
    (listed : links.Collects .listenerList fun node => table.Listed node ∨ node = .listener address)
    (registered : Registered disconnects table.transports
      (Function.update table.transportOf (.listener address) l.transport))
    (alive : ∀ transport, l.transport = some transport → table.transports transport = true)
    (callback : l.transport.isSome → l.callback = some address)
    (special : l.transport = none → l.special = true)
    (names : ∀ other l', table.listeners other = some l' → l'.localName = l.localName →
      other = address) :
    Intact { table with
      listeners := Function.update table.listeners address (some l), links, disconnects } := by
  have owners : { table with
      listeners := Function.update table.listeners address (some l), links,
      disconnects }.transportOf =
        Function.update table.transportOf (.listener address) l.transport :=
    transportOf_update table address (some l)
  -- an entry of the new table is the new one or an old one
  have cases : ∀ other l', Function.update table.listeners address (some l) other = some l' →
      (other = address ∧ l' = l) ∨ table.listeners other = some l' := by
    intro other l' entry
    rcases eq_or_ne other address with rfl | different
    · exact .inl ⟨rfl, (Option.some.inj (by simpa using entry)).symm⟩
    · exact .inr (by simpa [different] using entry)
  refine ⟨listed.congr fun node => ?_, ?_, ?_, ?_, ?_, ?_⟩
  · constructor
    · rintro ⟨other, rfl, entry⟩
      rcases eq_or_ne other address with rfl | different
      · exact .inr rfl
      · exact .inl ⟨other, rfl, by simpa [different] using entry⟩
    · rintro (⟨other, rfl, entry⟩ | rfl)
      · rcases eq_or_ne other address with rfl | different
        · exact ⟨other, rfl, by simp⟩
        · exact ⟨other, rfl, by simpa [different] using entry⟩
      · exact ⟨address, rfl, by simp⟩
  · rw [owners]
    exact registered
  · intro dis transport owned
    rw [owners] at owned
    rcases eq_or_ne dis (.listener address) with rfl | different
    · exact alive transport (by simpa using owned)
    · exact intact.alive dis transport (by simpa [different] using owned)
  · intro other l' entry some
    rcases cases other l' entry with ⟨rfl, rfl⟩ | old
    · exact callback some
    · exact intact.callback other l' old some
  · intro other l' entry none
    rcases cases other l' entry with ⟨rfl, rfl⟩ | old
    · exact special none
    · exact intact.special other l' old none
  · intro other other' l' l'' entry entry' same
    rcases cases other l' entry with ⟨rfl, rfl⟩ | old
    · rcases cases other' l'' entry' with ⟨rfl, rfl⟩ | old'
      · rfl
      · exact (names other' l'' old' same.symm).symm
    · rcases cases other' l'' entry' with ⟨rfl, rfl⟩ | old'
      · exact names other l' old same
      · exact intact.names other other' l' l'' old old' same

/-! ## Installing a listener -/

/-- Only the listeners have changed, besides links. -/
structure Relisted (table after : Table) (listeners : Nat → Option Alistener) : Prop where
  intact : Intact after
  listeners_eq : after.listeners = listeners
  remotes_eq : after.remotes = table.remotes
  transports_eq : after.transports = table.transports

theorem Intact.listed_self (intact : Intact table) (found : table.listeners address = some l) :
    table.links.Collects .listenerList fun node =>
      table.Listed node ∨ node = .listener address := by
  refine intact.listed.congr fun node => ?_
  constructor
  · rintro (listed | rfl)
    · exact listed
    · exact ⟨address, rfl, by simp [found]⟩
  · exact .inl

theorem allocatedDisconnect_update {dis : Adisconnect} (l : Alistener)
    (allocated : table.allocatedDisconnect dis = true) :
    { table with listeners := Function.update table.listeners address (some l)
      }.allocatedDisconnect dis = true := by
  cases dis with
  | disconnects transport => exact allocated
  | remote other => exact allocated
  | listener other =>
      rcases eq_or_ne other address with rfl | different
      · simp [allocatedDisconnect]
      · simpa [allocatedDisconnect, different] using allocated

/-- A listener whose node is on no list gets a transport. -/
theorem Intact.joined (intact : Intact table) {links : Links Node}
    {disconnects : Links Adisconnect} {transport : Nat} (belongs : l.transport = some transport)
    (live : table.transports transport = true)
    (listed : links.Collects .listenerList fun node => table.Listed node ∨ node = .listener address)
    (registered : Registered disconnects table.transports
      (Function.update table.transportOf (.listener address) none))
    (callback : l.callback = some address)
    (names : ∀ other l', table.listeners other = some l' → l'.localName = l.localName →
      other = address) :
    ∃ after,
      { table with
        listeners := Function.update table.listeners address (some l)
        links := links
        disconnects := disconnects }.addTransportDisconnect transport (.listener address) =
          .ok after ∧
        Relisted table after (Function.update table.listeners address (some l)) := by
  have free : Function.update table.transportOf (.listener address) none (.listener address) =
      none := by simp
  have node : ∀ transport, Adisconnect.listener address ≠ .disconnects transport :=
    fun _ => Adisconnect.noConfusion
  have heads : ∀ transport,
      Function.update table.transportOf (.listener address) none (.disconnects transport) = none :=
    fun _ => by simp [transportOf]
  refine ⟨_, addTransportDisconnect_eq registered ?_ live free node, ?_, rfl, rfl, rfl⟩
  · intro other transport' owned
    refine allocatedDisconnect_update l ?_
    rcases eq_or_ne other (.listener address) with rfl | different
    · simp at owned
    · exact allocated_of_transportOf (by simpa [different] using owned)
  · have inserted := registered.insertLast heads live free node
    rw [Function.update_idem, ← belongs] at inserted
    refine intact.stored listed inserted ?_ (fun _ => callback) ?_ names
    · rintro transport' belongs'
      obtain rfl := Option.some.inj (belongs.symm.trans belongs')
      exact live
    · simp [belongs]

theorem Intact.moveListener_spec (intact : Intact table)
    (found : table.listeners address = some l) (belongs : l.transport.isSome) {transport : Nat}
    (live : table.transports transport = true) :
    ∃ after, table.moveListener address l (some transport) = .ok after ∧
      Relisted table after (Function.update table.listeners address
        (some { l with transport := some transport })) := by
  have callback := intact.callback address l found belongs
  obtain ⟨before, belongs⟩ := Option.isSome_iff_exists.mp belongs
  have owned := (transportOf_listener found).trans belongs
  have removed := removeTransportDisconnect_eq intact.registered
    (fun _ _ => allocated_of_transportOf) (intact.alive _ _ owned) owned
  have detached := intact.registered.detach (fun _ => rfl) (intact.alive _ _ owned) owned
  obtain ⟨after, added, relisted⟩ := intact.joined (l := { l with transport := some transport }) rfl
    live (intact.listed_self found) detached callback
    fun other l' found' same => intact.names other address l' l found' found same
  refine ⟨after, ?_, relisted⟩
  rw [moveListener, if_neg (by simp [belongs]), removed]
  exact added

theorem Intact.redirectListener_spec (intact : Intact table)
    (found : table.listeners address = some l) (connectTo : List UInt8)
    (belongs : l.transport.isSome) {transport : Nat}
    (live : table.transports transport = true) :
    ∃ after, table.redirectListener address { l with connectTo } (some transport) = .ok after ∧
      Relisted table after (Function.update table.listeners address
        (some { l with connectTo, transport := some transport })) := by
  have stored : Intact (table.store address { l with connectTo }) := by
    refine intact.stored (intact.listed_self found) ?_ ?_ ?_ ?_ ?_
    · have owned := transportOf_listener found
      rw [← owned, Function.update_eq_self]
      exact intact.registered
    · exact fun _ belongs => intact.alive _ _ ((transportOf_listener found).trans belongs)
    · exact fun belongs => intact.callback address l found belongs
    · intro unowned
      exact absurd belongs (by rw [show l.transport = none from unowned]; simp)
    · exact fun other l' found' same => intact.names other address l' l found' found same
  have found' : (table.store address { l with connectTo }).listeners address =
      some { l with connectTo } := by
    simp [store]
  rcases eq_or_ne l.transport (some transport) with same | different
  · refine ⟨table.store address { l with connectTo }, ?_, stored, ?_, rfl, rfl⟩
    · rw [redirectListener, if_pos same]
    · rw [← same]
      rfl
  · obtain ⟨after, moved, relisted⟩ := stored.moveListener_spec found' belongs live
    refine ⟨after, ?_, relisted.intact, ?_, relisted.remotes_eq, relisted.transports_eq⟩
    · rw [redirectListener, if_neg different, moved]
    · rw [relisted.listeners_eq]
      simp [store]

/-- What `install_listener` has put at a new address. -/
def Outside.listener (outside : Outside) (fd : Nat) (localName connectTo : List UInt8)
    (transport : Option Nat) : Alistener where
  fd := fd
  localName := localName
  connectTo := connectTo
  transport := transport
  callback := transport.map fun _ => outside.address

theorem Intact.linkListener_eq (intact : Intact table) :
    table.linkListener address l =
      .ok { table with
        listeners := Function.update table.listeners address (some l)
        links := table.links.insertLast .listenerList (.listener address) } := by
  have allocated : (table.store address l).allocated (table.links.prev .listenerList) = true := by
    rcases intact.listed.prev_head with head | ⟨other, equal, some⟩
    · rw [head]
      rfl
    · rw [equal]
      rcases eq_or_ne other address with rfl | different
      · simp [Table.allocated, store]
      · simpa [Table.allocated, store, different] using some
  rw [linkListener]
  simp only [store] at allocated ⊢
  rw [access_eq allocated]
  rfl

theorem Intact.newListener_spec (intact : Intact table) {outside : Outside}
    {localName connectTo : List UInt8} {transport : Option Nat} (memory : outside.memory = true)
    (unused : table.listeners outside.address = none)
    (fresh : ∀ other l', table.listeners other = some l' → l'.localName ≠ localName)
    (live : ∀ target, transport = some target → table.transports target = true)
    (special : transport = none → (ascii "*").isPrefixOf connectTo = true) :
    (localNameToFd outside localName = none ∧
      table.newListener outside localName connectTo transport = .ok (.cannotBind, table)) ∨
    ∃ fd after, localNameToFd outside localName = some fd ∧
      table.newListener outside localName connectTo transport = .ok (.ok, after) ∧
      Relisted table after (Function.update table.listeners outside.address
        (some (outside.listener fd localName connectTo transport))) := by
  cases bound : localNameToFd outside localName with
  | none => exact .inl ⟨rfl, by simp [newListener, memory, bound]⟩
  | some fd =>
      have unowned : table.transportOf (.listener outside.address) = none := by
        simp [transportOf, unused]
      have unlisted : ¬table.Listed (.listener outside.address) := by
        rintro ⟨address, equal, some⟩
        obtain rfl := Node.listener.inj equal
        simp [unused] at some
      have listed : (table.links.insertLast .listenerList (.listener outside.address)).Collects
          .listenerList fun node => table.Listed node ∨ node = .listener outside.address :=
        intact.listed.insertLast unlisted (by simp) fun _ => Iff.rfl
      have registered : Registered table.disconnects table.transports
          (Function.update table.transportOf (.listener outside.address) none) := by
        rw [← unowned, Function.update_eq_self]
        exact intact.registered
      have names : ∀ other l', table.listeners other = some l' → l'.localName = localName →
          other = outside.address := fun other l' found same =>
        absurd same (fresh other l' found)
      refine .inr ⟨fd, ?_⟩
      rw [newListener, if_neg (by simp [memory]), bound]
      simp only [intact.linkListener_eq, bind, Except.bind]
      cases transport with
      | none =>
          refine ⟨_, trivial, rfl, ?_, rfl, rfl, rfl⟩
          exact intact.stored listed registered (by simp) (by simp)
            (fun _ => special rfl) names
      | some target =>
          obtain ⟨after, added, relisted⟩ := intact.joined
            (l := outside.listener fd localName connectTo (some target)) rfl (live target rfl)
            listed registered rfl names
          refine ⟨after, trivial, ?_, relisted⟩
          simp only [store, Function.update_idem]
          erw [added]
          rfl

end listeners

/-- What a call of `install_listener` that returns has done. -/
inductive Installed (table : Table) (outside : Outside) (localName connectTo : List UInt8)
    (transport : Option Nat) (noRebind : Bool) : InstallStatus → Table → Prop where
  | refused {status : InstallStatus} {address : Nat} {l : Alistener} :
      table.listeners address = some l → l.localName = localName →
      l.special = true ∨ noRebind = true ∨ outside.memory = false → status ≠ .ok →
      Installed table outside localName connectTo transport noRebind status table
  | unbound :
      (∀ address l, table.listeners address = some l → l.localName ≠ localName) →
      localNameToFd outside localName = none →
      Installed table outside localName connectTo transport noRebind .cannotBind table
  | rebound {after : Table} {address : Nat} {l : Alistener} :
      table.listeners address = some l → l.localName = localName → l.special = false →
      noRebind = false →
      Relisted table after (Function.update table.listeners address
        (some { l with connectTo, transport })) →
      Installed table outside localName connectTo transport noRebind .ok after
  | added {after : Table} {fd : Nat} :
      (∀ address l, table.listeners address = some l → l.localName ≠ localName) →
      localNameToFd outside localName = some fd →
      Relisted table after (Function.update table.listeners outside.address
        (some (outside.listener fd localName connectTo transport))) →
      Installed table outside localName connectTo transport noRebind .ok after

section install

variable {table : Table} {outside : Outside} {localName connectTo : List UInt8}
  {transport : Option Nat}

theorem Intact.rebindListener_spec (intact : Intact table) (noRebind : Bool)
    (live : ∀ target, transport = some target → table.transports target = true)
    {address : Nat} {l : Alistener} (found : table.listeners address = some l)
    (name : l.localName = localName) (belongs : transport.isSome) :
    ∃ status after,
      table.rebindListener outside address connectTo transport noRebind = .ok (status, after) ∧
      Installed table outside localName connectTo transport noRebind status after := by
  rw [rebindListener, dereference, found]
  simp only [bind, Except.bind]
  cases special : l.special with
  | true => exact ⟨_, _, rfl, .refused found name (.inl special) (by decide)⟩
  | false =>
      cases noRebind with
      | true => exact ⟨_, _, rfl, .refused found name (.inr (.inl rfl)) (by decide)⟩
      | false =>
          cases memory : outside.memory with
          | false => exact ⟨_, _, rfl, .refused found name (.inr (.inr memory)) (by decide)⟩
          | true =>
              obtain ⟨target, rfl⟩ := Option.isSome_iff_exists.mp belongs
              have owned : l.transport.isSome := by
                cases unowned : l.transport with
                | none => simp [intact.special address l found unowned] at special
                | some other => rfl
              obtain ⟨after, redirected, relisted⟩ :=
                intact.redirectListener_spec found connectTo owned (live target rfl)
              refine ⟨_, _, ?_, .rebound found name special rfl relisted⟩
              simp [redirected, pure, Except.pure]

/-- A call of `install_listener` returns, unless there is no memory for a new listener. -/
theorem Intact.installListener_spec (intact : Intact table) (noRebind : Bool)
    (unused : table.listeners outside.address = none)
    (live : ∀ target, transport = some target → table.transports target = true)
    (special : transport = none → (ascii "*").isPrefixOf connectTo = true)
    (rebinds : ∀ address l, table.listeners address = some l → l.localName = localName →
      transport.isSome) :
    (∃ status after,
      Returns (table.installListener outside localName connectTo transport noRebind)
        (status, after) ∧
      Installed table outside localName connectTo transport noRebind status after) ∨
    (outside.memory = false ∧
      Fails (table.installListener outside localName connectTo transport noRebind) .fatal) := by
  rcases intact.find_cases localName with ⟨address, l, found, name, search⟩ | ⟨fresh, search⟩
  · obtain ⟨status, after, result, installed⟩ :=
      intact.rebindListener_spec noRebind live found name (rebinds address l found name)
    exact .inl ⟨status, after, search.bind ⟨0, fun _ _ => result⟩, installed⟩
  · cases memory : outside.memory with
    | false =>
        obtain ⟨least, search⟩ := search
        refine .inr ⟨rfl, least, fun fuel enough => ?_⟩
        have result : table.newListener outside localName connectTo transport = .error .fatal := by
          simp [newListener, memory]
        rw [installListener, show table.findListener localName fuel _ = _ from search fuel enough]
        exact result
    | true =>
        refine .inl ?_
        rcases intact.newListener_spec memory unused fresh live special with
          ⟨unbound, result⟩ | ⟨fd, after, bound, result, relisted⟩
        · exact ⟨_, _, search.bind ⟨0, fun _ _ => result⟩, .unbound fresh unbound⟩
        · exact ⟨_, _, search.bind ⟨0, fun _ _ => result⟩, .added fresh bound relisted⟩

theorem Intact.installed (intact : Intact table) {noRebind : Bool} {status : InstallStatus}
    {after : Table} (unused : table.listeners outside.address = none)
    (live : ∀ target, transport = some target → table.transports target = true)
    (special : transport = none → (ascii "*").isPrefixOf connectTo = true)
    (rebinds : ∀ address l, table.listeners address = some l → l.localName = localName →
      transport.isSome)
    (returns : Returns (table.installListener outside localName connectTo transport noRebind)
      (status, after)) :
    Installed table outside localName connectTo transport noRebind status after := by
  rcases intact.installListener_spec noRebind unused live special rebinds with
    ⟨status', after', returns', installed⟩ | ⟨-, fatal⟩
  · obtain ⟨rfl, rfl⟩ := Prod.mk.inj (returns.unique returns')
    exact installed
  · exact absurd returns (fatal.not_returns _)

theorem Installed.intact {noRebind : Bool} {status : InstallStatus} {after : Table}
    (intact : Intact table)
    (installed : Installed table outside localName connectTo transport noRebind status after) :
    Intact after := by
  cases installed with
  | refused => exact intact
  | unbound => exact intact
  | rebound found name special rebinds relisted => exact relisted.intact
  | added fresh bound relisted => exact relisted.intact

/-- Nothing keeps a listener from being rebound but its target, the flag and the memory. -/
theorem Installed.relisted_rebound {noRebind : Bool} {status : InstallStatus} {after : Table}
    (intact : Intact table)
    (installed : Installed table outside localName connectTo transport noRebind status after)
    {address : Nat} {l : Alistener} (found : table.listeners address = some l)
    (name : l.localName = localName) (ordinary : l.special = false) (rebinds : noRebind = false)
    (memory : outside.memory = true) :
    Relisted table after (Function.update table.listeners address
      (some { l with connectTo, transport })) := by
  cases installed with
  | refused found' name' reason =>
      obtain rfl := intact.names _ _ _ _ found found' (name.trans name'.symm)
      obtain rfl := Option.some.inj (found.symm.trans found')
      simp [ordinary, rebinds, memory] at reason
  | unbound fresh => exact absurd name (fresh address l found)
  | rebound found' name' special rebinds relisted =>
      obtain rfl := intact.names _ _ _ _ found found' (name.trans name'.symm)
      obtain rfl := Option.some.inj (found.symm.trans found')
      exact relisted
  | added fresh => exact absurd name (fresh address l found)

theorem Installed.relisted_added {noRebind : Bool} {status : InstallStatus} {after : Table}
    (installed : Installed table outside localName connectTo transport noRebind status after)
    (fresh : ∀ address l, table.listeners address = some l → l.localName ≠ localName) {fd : Nat}
    (bound : localNameToFd outside localName = some fd) :
    Relisted table after (Function.update table.listeners outside.address
      (some (outside.listener fd localName connectTo transport))) := by
  cases installed with
  | refused found name => exact absurd name (fresh _ _ found)
  | unbound _ unbound => cases unbound.symm.trans bound
  | rebound found name => exact absurd name (fresh _ _ found)
  | added _ bound' relisted =>
      obtain rfl := Option.some.inj (bound.symm.trans bound')
      exact relisted

end install

end Listeners
end AdbWide
