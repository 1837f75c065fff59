import AdbWide.Listeners.Lists

/-!
# Walking a list while its nodes are freed

`remove_all_listeners` and `run_transport_disconnects` remember the next node before they free the
one they stand at.  What is freed is never the node that is remembered, so that both come round to
the head of the list.  With that the lists stay in step in every run of the server, and a transport
that goes away leaves no listener behind.
-/

namespace AdbWide
namespace Listeners

open Table
open Sockets.Server (ascii)

variable {table : Table}

/-! ## Removing listeners -/

theorem Intact.removeListener_cases (intact : Intact table) (localName : List UInt8) :
    (∃ address l, table.listeners address = some l ∧ l.localName = localName ∧
      Returns (table.removeListener localName) (0, table.freed address l)) ∨
    ((∀ address l, table.listeners address = some l → l.localName ≠ localName) ∧
      Returns (table.removeListener localName) (-1, table)) := by
  rcases intact.find_cases localName with ⟨address, l, found, name, search⟩ | ⟨fresh, search⟩
  · refine .inl ⟨address, l, found, name, search.bind ⟨0, fun _ _ => ?_⟩⟩
    have freed : table.listenerDisconnect address = .ok (table.freed address l) :=
      intact.freeListener_eq found
    simp [freed, bind, Except.bind, pure, Except.pure]
  · exact .inr ⟨fresh, search.bind ⟨0, fun _ _ => rfl⟩⟩

theorem erase_middle {front back : List Nat} {address : Nat}
    (nodup : ((front ++ address :: back).map Node.listener).Nodup) :
    ((front ++ address :: back).map Node.listener).erase (.listener address) =
      (front ++ back).map Node.listener := by
  have outside : Node.listener address ∉ front.map Node.listener := by
    rw [List.map_append, List.map_cons, List.nodup_append] at nodup
    intro inside
    exact nodup.2.2 _ inside _ List.mem_cons_self rfl
  rw [List.map_append, List.map_cons, List.erase_append_right _ outside, List.erase_cons_head,
    List.map_append]

/-- The loop of `remove_all_listeners` with some listeners behind it, which it has spared, and the
others ahead. -/
theorem Intact.removeAllListenersFrom_spec (intact : Intact table) {spared ahead : List Nat}
    (ring : table.links.Ring .listenerList ((spared ++ ahead).map .listener))
    (allocated : ∀ address ∈ ahead, (table.listeners address).isSome) :
    ∃ after,
      (∀ fuel, ahead.length < fuel →
        removeAllListenersFrom fuel ((ahead.map Node.listener).headD .listenerList) table =
          .ok after) ∧
      Relisted table after fun address =>
        if address ∈ ahead then (table.listeners address).filter (·.special)
        else table.listeners address := by
  induction ahead generalizing table spared with
  | nil =>
      refine ⟨table, fun fuel enough => ?_, intact, by simp, rfl, rfl⟩
      obtain ⟨fuel, rfl, -⟩ := exists_succ enough
      rfl
  | cons address ahead induction =>
      obtain ⟨l, found⟩ := Option.isSome_iff_exists.mp (allocated address (by simp))
      have nodup := (List.nodup_cons.mp ring.nodup).2
      have path := ring.path
      rw [List.map_append, List.map_cons] at path
      have next := path.split.2.next_eq
      have once : address ∉ ahead := by
        intro again
        rw [List.map_append, List.nodup_append] at nodup
        exact (List.nodup_cons.mp nodup.2.1).1 (List.mem_map_of_mem again)
      cases special : l.special with
      | true =>
          have ring' : table.links.Ring .listenerList
              (((spared ++ [address]) ++ ahead).map .listener) := by
            simpa using ring
          obtain ⟨after, result, relisted⟩ := induction intact ring'
            fun other member => allocated other (by simp [member])
          refine ⟨after, fun fuel enough => ?_, relisted.intact, ?_, relisted.remotes_eq,
            relisted.transports_eq⟩
          · obtain ⟨fuel, rfl, left⟩ := exists_succ enough
            rw [List.map_cons, List.headD_cons, removeAllListenersFrom, dereference, found]
            simpa [next, special, bind, Except.bind] using result fuel left
          · rw [relisted.listeners_eq]
            funext other
            rcases eq_or_ne other address with rfl | different
            · simp [found, special, once, Option.filter]
            · simp [different]
      | false =>
          have freed : table.listenerDisconnect address = .ok (table.freed address l) :=
            intact.freeListener_eq found
          have ring' : (table.freed address l).links.Ring .listenerList
              ((spared ++ ahead).map .listener) := by
            rw [← erase_middle nodup]
            exact ring.detach (by simp)
          have others : ∀ other, other ≠ address →
              (table.freed address l).listeners other = table.listeners other :=
            fun other different => Function.update_of_ne different _ _
          have allocated' : ∀ other ∈ ahead,
              ((table.freed address l).listeners other).isSome := by
            intro other member
            rw [others other fun equal => once (equal ▸ member)]
            exact allocated other (by simp [member])
          obtain ⟨after, result, relisted⟩ := induction (intact.freed found) ring' allocated'
          refine ⟨after, fun fuel enough => ?_, relisted.intact, ?_, relisted.remotes_eq,
            relisted.transports_eq⟩
          · obtain ⟨fuel, rfl, left⟩ := exists_succ enough
            rw [List.map_cons, List.headD_cons, removeAllListenersFrom, dereference, found]
            simpa [next, special, freed, bind, Except.bind] using result fuel left
          · rw [relisted.listeners_eq]
            funext other
            rcases eq_or_ne other address with rfl | different
            · simp [found, special, once, Table.freed, Option.filter]
            · simp [different, others other different]

/-- `remove_all_listeners` spares the special listeners. -/
theorem Intact.removeAllListeners_spec (intact : Intact table) :
    ∃ after, Returns table.removeAllListeners after ∧
      Relisted table after fun address => (table.listeners address).filter (·.special) := by
  obtain ⟨order, ring, mem_order⟩ := intact.exists_order
  have ring' : table.links.Ring .listenerList (([] ++ order).map .listener) := ring
  obtain ⟨after, result, relisted⟩ := intact.removeAllListenersFrom_spec ring'
    fun address => (mem_order address).mp
  refine ⟨after, ⟨order.length + 1, fun fuel enough => ?_⟩, relisted.intact, ?_,
    relisted.remotes_eq, relisted.transports_eq⟩
  · rw [removeAllListeners, ring.path.next_eq]
    exact result fuel enough
  · rw [relisted.listeners_eq]
    funext address
    cases entry : table.listeners address with
    | none => simp
    | some l => simp [(mem_order address).mpr (by simp [entry])]

/-! ## Running the disconnects of a transport -/

/-- What a function that is called for a node of the disconnects does. -/
structure Disconnected (table after : Table) (dis : Adisconnect) : Prop where
  intact : Intact after
  disconnects_eq : after.disconnects = table.disconnects.detach dis
  transports_eq : after.transports = table.transports
  listeners_eq : ∀ address, after.listeners address =
    if dis = .listener address then none else table.listeners address
  remotes_eq : ∀ address, after.remotes address =
    if dis = .remote address then none else table.remotes address

theorem Intact.remoteSocketDisconnect_spec (intact : Intact table) {address : Nat}
    (found : (table.remotes address).isSome) :
    ∃ after, table.remoteSocketDisconnect address = .ok after ∧
      Disconnected table after (.remote address) := by
  obtain ⟨transport, found⟩ := Option.isSome_iff_exists.mp found
  have owned : table.transportOf (.remote address) = some transport := found
  have live := intact.alive _ _ owned
  have removed := removeTransportDisconnect_eq intact.registered
    (fun _ _ => allocated_of_transportOf) live owned
  have detached := intact.registered.detach (fun _ => rfl) live owned
  rw [← transportOf_updateRemote table address none] at detached
  refine ⟨{ table with
    remotes := Function.update table.remotes address none
    disconnects := table.disconnects.detach (.remote address) }, ?_,
    ⟨intact.listed, detached, ?_, intact.callback, intact.special, intact.names⟩, rfl, rfl, ?_, ?_⟩
  · rw [remoteSocketDisconnect, accessDisconnect_eq (allocated_of_transportOf owned), removed]
    rfl
  · intro dis other owned'
    have owners := congrFun (transportOf_updateRemote table address none) dis
    have owned'' : Function.update table.transportOf (.remote address) none dis = some other :=
      owners.symm.trans owned'
    rcases eq_or_ne dis (.remote address) with rfl | different
    · simp at owned''
    · exact intact.alive dis other (by simpa [different] using owned'')
  · simp
  · intro other
    rcases eq_or_ne other address with rfl | different
    · simp
    · simp [different, different.symm]

theorem Intact.callDisconnect_spec (intact : Intact table) {dis : Adisconnect} {transport : Nat}
    (owned : table.transportOf dis = some transport) :
    ∃ after, table.callDisconnect dis = .ok after ∧ Disconnected table after dis := by
  cases dis with
  | disconnects other => simp [transportOf] at owned
  | remote address =>
      exact intact.remoteSocketDisconnect_spec (allocated_of_transportOf owned)
  | listener address =>
      obtain ⟨l, found⟩ := Option.isSome_iff_exists.mp (allocated_of_transportOf owned)
      have belongs : l.transport.isSome := by
        rw [← transportOf_listener found, owned]
        rfl
      have callback := intact.callback address l found belongs
      refine ⟨table.freed address l, ?_, intact.freed found, ?_, rfl, ?_, ?_⟩
      · rw [callDisconnect, dereference, found]
        simp only [bind, Except.bind, callback]
        exact intact.freeListener_eq found
      · simp [Table.freed, belongs]
      · intro other
        rcases eq_or_ne other address with rfl | different
        · simp [Table.freed]
        · simp [Table.freed, different, different.symm]
      · simp [Table.freed]

/-- The loop of `run_transport_disconnects`, with the nodes that are left. -/
theorem Intact.runDisconnectsFrom_spec (intact : Intact table) {transport : Nat}
    {members : List Adisconnect}
    (ring : table.disconnects.Ring (.disconnects transport) members)
    (owned : ∀ dis ∈ members, table.transportOf dis = some transport) :
    ∃ after,
      (∀ fuel, members.length < fuel →
        runDisconnectsFrom transport fuel (table.disconnects.next (.disconnects transport)) table =
          .ok after) ∧
      Intact after ∧ after.transports = table.transports ∧
      (∀ address, after.listeners address =
        if .listener address ∈ members then none else table.listeners address) ∧
      ∀ address, after.remotes address =
        if .remote address ∈ members then none else table.remotes address := by
  induction members generalizing table with
  | nil =>
      refine ⟨table, fun fuel enough => ?_, intact, rfl, by simp, by simp⟩
      obtain ⟨fuel, rfl, -⟩ := exists_succ enough
      rw [ring.path.1, runDisconnectsFrom, if_pos rfl]
  | cons dis members induction =>
      have mine := owned dis (by simp)
      obtain ⟨middle, called, disconnected⟩ := intact.callDisconnect_spec mine
      have different : dis ≠ .disconnects transport := by
        rintro rfl
        simp [transportOf] at mine
      have once : dis ∉ members := (List.nodup_cons.mp (List.nodup_cons.mp ring.nodup).2).1
      have ring' : middle.disconnects.Ring (.disconnects transport) members := by
        rw [disconnected.disconnects_eq]
        simpa using ring.detach List.mem_cons_self
      have owned' : ∀ other ∈ members, middle.transportOf other = some transport := by
        intro other member
        rw [← owned other (by simp [member])]
        have apart : dis ≠ other := fun equal => once (equal ▸ member)
        cases other with
        | disconnects _ => rfl
        | listener address => simp [transportOf, disconnected.listeners_eq, apart]
        | remote address => simp [transportOf, disconnected.remotes_eq, apart]
      obtain ⟨after, result, intact', transports_eq, listeners_eq, remotes_eq⟩ :=
        induction disconnected.intact ring' owned'
      refine ⟨after, fun fuel enough => ?_, intact', transports_eq.trans disconnected.transports_eq,
        fun address => ?_, fun address => ?_⟩
      · obtain ⟨fuel, rfl, left⟩ := exists_succ enough
        -- the node remembered is the one the head leads to once this one is gone
        have next : table.disconnects.next dis =
            middle.disconnects.next (.disconnects transport) := by
          rw [ring'.path.next_eq, ring.path.2.2.next_eq]
        rw [ring.path.1, runDisconnectsFrom, if_neg different,
          accessDisconnect_eq (allocated_of_transportOf mine), called]
        simpa [next, bind, Except.bind] using result fuel left
      · rw [listeners_eq, disconnected.listeners_eq]
        rcases eq_or_ne dis (.listener address) with rfl | apart
        · simp
        · simp [apart, apart.symm]
      · rw [remotes_eq, disconnected.remotes_eq]
        rcases eq_or_ne dis (.remote address) with rfl | apart
        · simp
        · simp [apart, apart.symm]

/-- `run_transport_disconnects` frees what belongs to the transport and nothing else. -/
theorem Intact.runTransportDisconnects_spec (intact : Intact table) {transport : Nat}
    (live : table.transports transport = true) :
    ∃ after, Returns (table.runTransportDisconnects transport) after ∧
      Intact after ∧ after.transports = table.transports ∧
      (∀ address, after.listeners address =
        if table.transportOf (.listener address) = some transport then none
        else table.listeners address) ∧
      ∀ address, after.remotes address =
        if table.remotes address = some transport then none else table.remotes address := by
  obtain ⟨members, ring, mem_iff⟩ := intact.registered transport live
  obtain ⟨after, result, intact', transports_eq, listeners_eq, remotes_eq⟩ :=
    intact.runDisconnectsFrom_spec ring fun dis => (mem_iff dis).mp
  refine ⟨after, ⟨members.length + 1, fun fuel enough => ?_⟩, intact', transports_eq, ?_, ?_⟩
  · have allocated : table.allocatedDisconnect (.disconnects transport) = true := live
    rw [runTransportDisconnects, accessDisconnect_eq allocated]
    exact result fuel enough
  · intro address
    simp only [listeners_eq, mem_iff]
  · intro address
    simp only [remotes_eq, mem_iff]
    rfl

/-! ## Transports and remote sockets -/

theorem Intact.registerTransport (intact : Intact table) {transport : Nat}
    (unknown : table.transports transport = false) :
    Intact (table.registerTransport transport) := by
  have others : ∀ other, table.transports other = true → other ≠ transport := by
    rintro other live rfl
    simp [unknown] at live
  refine ⟨intact.listed, ?_, ?_, intact.callback, intact.special, intact.names⟩
  · intro other live
    rcases eq_or_ne other transport with rfl | different
    · refine ⟨[], Links.ring_nil_iff.mpr (by simp [Table.registerTransport]), fun dis => ?_⟩
      simp only [List.not_mem_nil, false_iff]
      intro owned
      exact others other (intact.alive dis other owned) rfl
    · have live' : table.transports other = true := by
        simpa [Table.registerTransport, different] using live
      refine (intact.registered other live').congr_links fun dis on_ring => ?_
      have apart : dis ≠ .disconnects transport := by
        rintro rfl
        rcases on_ring with head | owned
        · exact different (Adisconnect.disconnects.inj head).symm
        · cases owned
      simp [Table.registerTransport, apart]
  · intro dis other owned
    have live := intact.alive dis other owned
    simp [Table.registerTransport, others other live, live]

theorem Intact.removeTransport_spec (intact : Intact table) {transport : Nat}
    (live : table.transports transport = true) :
    ∃ after, Returns (table.removeTransport transport) after ∧ Intact after := by
  obtain ⟨middle, returns, intact', transports_eq, listeners_eq, remotes_eq⟩ :=
    intact.runTransportDisconnects_spec live
  refine ⟨_, returns.bind ⟨0, fun _ _ => rfl⟩, intact'.listed, ?_, ?_, intact'.callback,
    intact'.special, intact'.names⟩
  · intro other live'
    refine intact'.registered other ?_
    rcases eq_or_ne other transport with rfl | different
    · simp at live'
    · simpa [different] using live'
  · intro dis other owned
    have live' := intact'.alive dis other owned
    have different : other ≠ transport := by
      rintro rfl
      cases dis with
      | disconnects _ => cases owned
      | listener address =>
          rw [transportOf, listeners_eq] at owned
          by_cases mine : table.transportOf (.listener address) = some other
          · rw [if_pos mine] at owned
            cases owned
          · rw [if_neg mine] at owned
            exact mine owned
      | remote address =>
          rw [transportOf, remotes_eq] at owned
          by_cases mine : table.remotes address = some other
          · rw [if_pos mine] at owned
            cases owned
          · rw [if_neg mine] at owned
            exact mine owned
    simpa [different] using live'

theorem Intact.createRemoteSocket_spec (intact : Intact table) {transport address : Nat}
    (live : table.transports transport = true) (unused : table.remotes address = none) :
    ∃ after, table.createRemoteSocket transport address = .ok after ∧ Intact after ∧
      after.listeners = table.listeners := by
  have free : table.transportOf (.remote address) = none := unused
  have node : ∀ other, Adisconnect.remote address ≠ .disconnects other := by
    intro _ equal
    cases equal
  have owners := transportOf_updateRemote table address (some transport)
  have registered : Registered table.disconnects
      { table with
        remotes := Function.update table.remotes address (some transport) }.transports
      table.transportOf := intact.registered
  refine ⟨_, addTransportDisconnect_eq registered ?_ live free node, ⟨intact.listed, ?_, ?_,
    intact.callback, intact.special, intact.names⟩, rfl⟩
  · intro other transport' owned
    have allocated := allocated_of_transportOf owned
    cases other with
    | disconnects _ => exact allocated
    | listener _ => exact allocated
    | remote other =>
        rcases eq_or_ne other address with rfl | different
        · simp [allocatedDisconnect]
        · simpa [allocatedDisconnect, different] using allocated
  · have inserted := intact.registered.insertLast (fun _ => rfl) live free node
    rw [← owners] at inserted
    exact inserted
  · intro dis other owned
    have owned' : Function.update table.transportOf (.remote address) (some transport) dis =
        some other := (congrFun owners dis).symm.trans owned
    rcases eq_or_ne dis (.remote address) with rfl | different
    · obtain rfl : transport = other := by simpa using owned'
      exact live
    · exact intact.alive dis other (by simpa [different] using owned')

/-! ## Runs -/

theorem intact_empty (disconnects : Links Adisconnect) : Intact (Table.empty disconnects) := by
  refine ⟨⟨[], Links.ring_nil_iff.mpr ⟨rfl, rfl⟩, fun node => ?_⟩, ?_, ?_, ?_, ?_, ?_⟩
  · simp [Listed, Table.empty]
  · intro transport live
    cases live
  · intro dis transport owned
    cases dis <;> cases owned
  · intro _ _ found
    cases found
  · intro _ _ found
    cases found
  · intro _ _ _ _ found
    cases found

theorem special_smartsocket : (ascii "*").isPrefixOf smartsocket = true := by
  with_unfolding_all decide

theorem CallStep.intact {after : Table} {call : Call} (intact : Intact table)
    (step : CallStep table call after) : Intact after := by
  cases step with
  | installSmartsocket empty returns =>
      refine (intact.installed (empty _) ?_ ?_ ?_ returns).intact intact
      · intro _ some
        cases some
      · exact fun _ => special_smartsocket
      · intro address l found
        cases (empty address).symm.trans found
  | installListener live unused returns =>
      refine (intact.installed unused ?_ ?_ ?_ returns).intact intact
      · intro target same
        rw [← Option.some.inj same]
        exact live
      · intro none
        cases none
      · exact fun _ _ _ _ => rfl
  | removeListener returns =>
      rcases intact.removeListener_cases _ with ⟨address, l, found, -, returns'⟩ | ⟨-, returns'⟩
      · obtain ⟨rfl, rfl⟩ := Prod.mk.inj (returns.unique returns')
        exact intact.freed found
      · obtain ⟨rfl, rfl⟩ := Prod.mk.inj (returns.unique returns')
        exact intact
  | removeAllListeners returns =>
      obtain ⟨_, returns', relisted⟩ := intact.removeAllListeners_spec
      rw [returns.unique returns']
      exact relisted.intact
  | runTransportDisconnects live returns =>
      obtain ⟨_, returns', intact', -⟩ := intact.runTransportDisconnects_spec live
      rw [returns.unique returns']
      exact intact'
  | registerTransport unknown => exact intact.registerTransport unknown
  | removeTransport live returns =>
      obtain ⟨_, returns', intact'⟩ := intact.removeTransport_spec live
      rw [returns.unique returns']
      exact intact'
  | createRemoteSocket live unused result =>
      obtain ⟨_, result', intact', -⟩ := intact.createRemoteSocket_spec live unused
      rw [Except.ok.inj (result.symm.trans result')]
      exact intact'
  | remoteSocketClose found result =>
      obtain ⟨_, result', disconnected⟩ := intact.remoteSocketDisconnect_spec found
      rw [Except.ok.inj (result.symm.trans result')]
      exact disconnected.intact

theorem intact_of_trace {disconnects : Links Adisconnect} {calls : List Call}
    (trace : Trace CallStep (Table.empty disconnects) calls table) : Intact table :=
  trace.invariant Intact (intact_empty disconnects) fun _ _ _ intact step => step.intact intact

/-- `listener_list` has exactly the listeners that exist, no two of them with one name, and each
listener is among the disconnects of its transport once and among no others. -/
structure Consistent (table : Table) : Prop where
  listed : table.links.Collects .listenerList table.Listed
  names : ∀ address address' l l', table.listeners address = some l →
    table.listeners address' = some l' → l.localName = l'.localName → address = address'
  alive : ∀ address l transport, table.listeners address = some l →
    l.transport = some transport → table.transports transport = true
  once : ∀ address l transport, table.listeners address = some l →
    table.transports transport = true →
    ∃ members, table.disconnects.Ring (.disconnects transport) members ∧
      members.count (.listener address) = if l.transport = some transport then 1 else 0

theorem Intact.consistent (intact : Intact table) : Consistent table where
  listed := intact.listed
  names := intact.names
  alive := fun _ _ _ found belongs =>
    intact.alive _ _ ((transportOf_listener found).trans belongs)
  once := by
    intro address l transport found live
    obtain ⟨members, ring, mem_iff⟩ := intact.registered transport live
    have member : .listener address ∈ members ↔ l.transport = some transport := by
      rw [← transportOf_listener found]
      exact mem_iff _
    refine ⟨members, ring, ?_⟩
    split
    · rename_i belongs
      exact List.count_eq_one_of_mem (List.nodup_cons.mp ring.nodup).2 (member.mpr belongs)
    · rename_i apart
      exact List.count_eq_zero.mpr fun inside => apart (member.mp inside)

/-- In every run the two kinds of lists are consistent.  `run_transport_disconnects` leaves no
listener of its transport, and the listeners of the others as they are. -/
theorem consistent_and_disconnects {disconnects : Links Adisconnect} {calls : List Call}
    (trace : Trace CallStep (Table.empty disconnects) calls table) :
    Consistent table ∧
      ∀ transport, table.transports transport = true →
        ∃ after, Returns (table.runTransportDisconnects transport) after ∧ Consistent after ∧
          (∀ address l, after.listeners address = some l → l.transport ≠ some transport) ∧
          ∀ address l, table.listeners address = some l → l.transport ≠ some transport →
            after.listeners address = some l := by
  have intact := intact_of_trace trace
  refine ⟨intact.consistent, fun transport live => ?_⟩
  obtain ⟨after, returns, intact', -, listeners_eq, -⟩ := intact.runTransportDisconnects_spec live
  refine ⟨after, returns, intact'.consistent, ?_, ?_⟩
  · intro address l found belongs
    rw [listeners_eq] at found
    split at found
    · cases found
    · rename_i apart
      exact apart ((transportOf_listener found).trans belongs)
  · intro address l found apart
    rw [listeners_eq, transportOf_listener found, if_neg apart]
    exact found

theorem Intact.exists_installListener (intact : Intact table) (outside : Outside)
    (localName connectTo : List UInt8) (transport : Nat) (noRebind : Bool)
    (memory : outside.memory = true) (unused : table.listeners outside.address = none)
    (live : table.transports transport = true) :
    ∃ status after, CallStep table (.installListener localName connectTo transport noRebind) after ∧
      Installed table outside localName connectTo (some transport) noRebind status after := by
  have live' : ∀ target, some transport = some target → table.transports target = true :=
    fun target same => Option.some.inj same ▸ live
  rcases intact.installListener_spec noRebind unused live' (by simp)
      (fun _ _ _ _ => rfl) with
    ⟨status, after, returns, installed⟩ | ⟨none, -⟩
  · exact ⟨status, after, .installListener live unused returns, installed⟩
  · simp [memory] at none

/-- A listener is installed for one transport and rebound to another, and then the first one goes
away. -/
theorem consistent_and_disconnects_rebound :
    ∃ table l, Trace CallStep (Table.empty { next := id, prev := id })
        [.registerTransport 7, .registerTransport 8,
          .installListener (ascii "tcp:6100") (ascii "tcp:7100") 7 false,
          .installListener (ascii "tcp:6100") (ascii "tcp:7200") 8 false] table ∧
      table.listeners 1 = some l ∧ l.transport = some 8 ∧ Consistent table ∧
      ∃ after, Returns (table.runTransportDisconnects 7) after ∧ after.listeners 1 = some l := by
  have run₂ : Trace CallStep (Table.empty { next := id, prev := id })
      [.registerTransport 7, .registerTransport 8] _ :=
    (Trace.nil.snoc (.registerTransport rfl)).snoc (.registerTransport rfl)
  obtain ⟨_, table₃, step₃, installed₃⟩ := (intact_of_trace run₂).exists_installListener
    { address := 1, server := some 5 } (ascii "tcp:6100") (ascii "tcp:7100") 7 false rfl rfl rfl
  have bound : localNameToFd { address := 1, server := some 5 } (ascii "tcp:6100") = some 5 := by
    with_unfolding_all decide
  have relisted₃ := installed₃.relisted_added (by intro _ _ found; cases found) bound
  have found₃ : table₃.listeners 1 = some _ := congrFun relisted₃.listeners_eq 1
  have unused : table₃.listeners 2 = none := congrFun relisted₃.listeners_eq 2
  have run₃ := run₂.snoc step₃
  have live : table₃.transports 8 = true := congrFun relisted₃.transports_eq 8
  obtain ⟨_, table, step₄, installed₄⟩ := (intact_of_trace run₃).exists_installListener
    { address := 2, server := some 6 } (ascii "tcp:6100") (ascii "tcp:7200") 8 false rfl unused live
  have relisted₄ := installed₄.relisted_rebound (intact_of_trace run₃) found₃ rfl
    (by with_unfolding_all decide) rfl rfl
  have found₄ : table.listeners 1 = some _ := congrFun relisted₄.listeners_eq 1
  have run₄ := run₃.snoc step₄
  have live' : table.transports 7 = true :=
    (congrFun relisted₄.transports_eq 7).trans (congrFun relisted₃.transports_eq 7)
  obtain ⟨consistent, runs⟩ := consistent_and_disconnects run₄
  obtain ⟨after, returns, -, -, kept⟩ := runs 7 live'
  exact ⟨table, _, run₄, found₄, rfl, consistent, after, returns,
    kept 1 _ found₄ (by simp)⟩

end Listeners
end AdbWide
