import AdbWide.Execution
import AdbWide.FdEvent.Pollers

/-!
# The pending list and the hooks

The flag of an `fdevent`, its place on the list of pending ones and the hook of its file descriptor
are kept in step by functions that may be called while the list is worked through.  This file proves
that they are after every sequence of calls.
-/

namespace AdbWide
namespace FdEvent

variable {poller : Poller}

/-- The mask of the `fdevent` that is installed for a file descriptor. -/
def Loop.masks (loop : Loop poller) (fd : Nat) : EventMask :=
  match loop.fdTable fd with
  | none => 0
  | some address => (loop.fdevents address).wanted

/-- The nodes that belong on the pending list. -/
def Loop.Waits (loop : Loop poller) (node : Node) : Prop :=
  ∃ address, node = .fdevent address ∧ (loop.fdevents address).pending = true

/-- What holds whenever no function is running. -/
structure Intact (tracking : Tracking poller) (loop : Loop poller) : Prop where
  table : ∀ fd address, loop.fdTable fd = some address ↔
    (loop.fdevents address).active = true ∧ (loop.fdevents address).fd = fd
  list : loop.links.Collects .listPending loop.Waits
  installed : ∀ address, (loop.fdevents address).pending = true →
    (loop.fdevents address).active = true
  reported : ∀ address, (loop.fdevents address).pending = true ↔
    (loop.fdevents address).events ≠ 0
  tracks : tracking.Tracks loop.poll loop.masks

/-! ## The list -/

theorem collects_plistEnqueue {links : Links Node} {address : Nat}
    {property property' : Node → Prop}
    (collects : links.Collects .listPending property) (fresh : ¬property (.fdevent address))
    (also : ∀ other, property' other ↔ property other ∨ other = .fdevent address) :
    (plistEnqueue links (.fdevent address)).Collects .listPending property' := by
  have same : plistEnqueue links (.fdevent address) =
      links.insertLast .listPending (.fdevent address) := by
    simp [plistEnqueue, Links.insertLast]
  rw [same]
  exact collects.insertLast fresh (by simp) also

/-- A node is taken out by linking its neighbours. -/
theorem collects_of_unlink {links links' : Links Node} {address : Nat}
    {property property' : Node → Prop} (collects : links.Collects .listPending property)
    (holds : property (.fdevent address))
    (next_eq : ∀ other, other ≠ .fdevent address →
      links'.next other = (links.unlink (.fdevent address)).next other)
    (prev_eq : ∀ other, other ≠ .fdevent address →
      links'.prev other = (links.unlink (.fdevent address)).prev other)
    (others : ∀ other, property' other ↔ other ≠ .fdevent address ∧ property other) :
    links'.Collects .listPending property' := by
  refine (collects.unlink holds others).congr_links fun other on_ring => ?_
  have different : other ≠ .fdevent address := by
    rcases on_ring with rfl | holds'
    · simp
    · exact ((others other).mp holds').1
  exact ⟨next_eq other different, prev_eq other different⟩

theorem collects_plistRemove {links : Links Node} {address : Nat} {property property' : Node → Prop}
    (collects : links.Collects .listPending property) (holds : property (.fdevent address))
    (others : ∀ other, property' other ↔ other ≠ .fdevent address ∧ property other) :
    (plistRemove links (.fdevent address)).Collects .listPending property' := by
  refine collects_of_unlink collects holds (fun other different => ?_) (fun other different => ?_)
    others
  · simp [plistRemove, Links.unlink_next, different]
  · have next_eq : Function.update links.next (links.prev (.fdevent address))
        (links.next (.fdevent address)) (.fdevent address) = links.next (.fdevent address) := by
      by_cases same : Node.fdevent address = links.prev (.fdevent address)
      · rw [← same, Function.update_self]
      · rw [Function.update_of_ne same]
    simp [plistRemove, Links.unlink_prev, next_eq, different]

/-- What `fdevent_plist_dequeue` finds belongs on the list, and is taken off it. -/
theorem collects_plistDequeue {links links' : Links Node} {node : Node} {property : Node → Prop}
    (collects : links.Collects .listPending property)
    (dequeued : plistDequeue links = some (node, links')) :
    property node ∧ ∀ address property', node = .fdevent address →
      (∀ other, property' other ↔ other ≠ node ∧ property other) →
        links'.Collects .listPending property' := by
  simp only [plistDequeue] at dequeued
  split at dequeued
  case isTrue => cases dequeued
  case isFalse filled =>
    simp only [Option.some.injEq, Prod.mk.injEq] at dequeued
    obtain ⟨node_eq, rfl⟩ := dequeued
    have holds := collects.next_head.resolve_left filled
    have back := collects.prev_next_head
    rw [node_eq] at holds back
    refine ⟨holds, ?_⟩
    rintro address property' rfl others
    refine collects_of_unlink collects holds (fun other different => ?_)
      (fun other different => ?_) others
    · simp [Links.unlink_next, node_eq, back, different]
    · simp [Links.unlink_prev, node_eq, back, different]

/-! ## The functions -/

namespace Intact

variable {tracking : Tracking poller} {loop loop' : Loop poller}

theorem start (tracking : Tracking poller) : Intact tracking (Loop.start poller) where
  table := by simp [Loop.start]
  list := ⟨[], Links.ring_nil_iff.mpr (by simp [Loop.start]), by simp [Loop.Waits, Loop.start]⟩
  installed := by simp [Loop.start]
  reported := by simp [Loop.start]
  tracks := tracking.start

theorem waits_put {address : Nat} {fde : Fdevent} (other : Node) :
    (loop.put address fde).Waits other ↔
      other ≠ .fdevent address ∧ loop.Waits other ∨
        other = .fdevent address ∧ fde.pending = true := by
  simp only [Loop.Waits, Loop.put]
  constructor
  · rintro ⟨address', rfl, pending⟩
    by_cases same : address' = address
    · subst same
      exact .inr ⟨rfl, by simpa using pending⟩
    · rw [Function.update_of_ne same] at pending
      exact .inl ⟨by simpa using same, address', rfl, pending⟩
  · rintro (⟨different, address', rfl, pending⟩ | ⟨rfl, pending⟩)
    · have apart : address' ≠ address := fun same => different (same ▸ rfl)
      exact ⟨address', rfl, by rw [Function.update_of_ne apart, pending]⟩
    · exact ⟨address, rfl, by rw [Function.update_self, pending]⟩

/-- A file descriptor with another `fdevent` keeps its mask. -/
theorem masks_put_of_ne {address fd : Nat} (fde : Fdevent)
    (elsewhere : loop.fdTable fd ≠ some address) :
    (loop.put address fde).masks fd = loop.masks fd := by
  simp only [Loop.masks, Loop.put]
  cases found : loop.fdTable fd with
  | none => rfl
  | some other =>
      have apart : other ≠ address := by
        rintro rfl
        exact elsewhere found
      simp only [Function.update_of_ne apart]

theorem masks_put (intact : Intact tracking loop) {address : Nat} {fde : Fdevent}
    (active : (loop.fdevents address).active = true) :
    (loop.put address fde).masks =
      Function.update loop.masks (loop.fdevents address).fd fde.wanted := by
  funext fd
  by_cases same : fd = (loop.fdevents address).fd
  · subst same
    simp only [Loop.masks, Loop.put]
    rw [(intact.table _ address).mpr ⟨active, rfl⟩]
    simp
  · rw [Function.update_of_ne same]
    exact masks_put_of_ne fde fun found => same ((intact.table fd address).mp found).2.symm

theorem masks_put_inactive (intact : Intact tracking loop) {address : Nat} {fde : Fdevent}
    (inactive : (loop.fdevents address).active = false) :
    (loop.put address fde).masks = loop.masks := by
  funext fd
  refine masks_put_of_ne fde fun found => ?_
  rw [((intact.table fd address).mp found).1] at inactive
  cases inactive

theorem installed_put (intact : Intact tracking loop) {address : Nat} {fde : Fdevent}
    (installed : fde.pending = true → fde.active = true) :
    ∀ other, ((loop.put address fde).fdevents other).pending = true →
      ((loop.put address fde).fdevents other).active = true :=
  (Function.forall_update_iff loop.fdevents
    fun _ fde => fde.pending = true → fde.active = true).mpr
      ⟨installed, fun other _ => intact.installed other⟩

theorem reported_put (intact : Intact tracking loop) {address : Nat} {fde : Fdevent}
    (reported : fde.pending = true ↔ fde.events ≠ 0) :
    ∀ other, ((loop.put address fde).fdevents other).pending = true ↔
      ((loop.put address fde).fdevents other).events ≠ 0 :=
  (Function.forall_update_iff loop.fdevents
    fun _ fde => fde.pending = true ↔ fde.events ≠ 0).mpr
      ⟨reported, fun other _ => intact.reported other⟩

theorem masks_self (intact : Intact tracking loop) {address : Nat}
    (active : (loop.fdevents address).active = true) :
    loop.masks (loop.fdevents address).fd = (loop.fdevents address).wanted := by
  rw [Loop.masks, (intact.table _ address).mpr ⟨active, rfl⟩]

/-- An installed `fdevent` is changed, and what has to follow it follows. -/
theorem put (intact : Intact tracking loop) {address : Nat} {fde : Fdevent} {links : Links Node}
    {poll : poller.State} (fd : fde.fd = (loop.fdevents address).fd)
    (active : fde.active = (loop.fdevents address).active)
    (list : links.Collects .listPending (loop.put address fde).Waits)
    (installed : fde.pending = true → fde.active = true)
    (reported : fde.pending = true ↔ fde.events ≠ 0)
    (tracks : tracking.Tracks poll (loop.put address fde).masks) :
    Intact tracking { loop.put address fde with links, poll } where
  table fd' address' := by
    simp only [Loop.put]
    by_cases same : address' = address
    · subst same
      rw [Function.update_self, fd, active]
      exact intact.table fd' address'
    · rw [Function.update_of_ne same]
      exact intact.table fd' address'
  list := list
  installed := intact.installed_put installed
  reported := intact.reported_put reported
  tracks := tracks

theorem fdeventInstall (intact : Intact tracking loop) {address fd : Nat}
    (inactive : (loop.fdevents address).active = false)
    (unused : ∀ other, (loop.fdevents other).active = true → (loop.fdevents other).fd ≠ fd) :
    Intact tracking (loop.fdeventInstall address fd) := by
  have resting : ¬(loop.fdevents address).pending = true := fun pending => by
    rw [intact.installed address pending] at inactive
    cases inactive
  have empty : loop.fdTable fd = none := by
    cases found : loop.fdTable fd with
    | none => rfl
    | some other =>
        obtain ⟨active, same⟩ := (intact.table fd other).mp found
        exact absurd same (unused other active)
  constructor
  · intro fd' address'
    simp only [Loop.fdeventInstall, Loop.put]
    by_cases same : address' = address
    · subst same
      rw [Function.update_self]
      by_cases here : fd' = fd
      · simp [here]
      · rw [Function.update_of_ne here, intact.table]
        simp [inactive, Ne.symm here]
    · rw [Function.update_of_ne same]
      by_cases here : fd' = fd
      · subst here
        rw [Function.update_self]
        constructor
        · intro equal
          exact absurd (Option.some.inj equal).symm same
        · rintro ⟨active, other⟩
          exact absurd other (unused address' active)
      · rw [Function.update_of_ne here]
        exact intact.table fd' address'
  · refine intact.list.congr fun other => waits_put other |>.trans ?_
    simp only [Bool.false_eq_true, and_false, or_false]
    refine ⟨And.right, fun waits => ⟨?_, waits⟩⟩
    rintro rfl
    obtain ⟨address', same, pending⟩ := waits
    cases same
    exact resting pending
  · exact intact.installed_put (by simp)
  · exact intact.reported_put (by simp)
  · have masks : (loop.fdeventInstall address fd).masks = loop.masks := by
      funext fd'
      simp only [Loop.masks, Loop.fdeventInstall]
      by_cases here : fd' = fd
      · subst here
        simp [Loop.put, empty]
      · rw [Function.update_of_ne here]
        exact congrFun (masks_put_inactive intact inactive) fd'
    rw [masks]
    exact tracking.connect fd intact.tracks

theorem list_removed (intact : Intact tracking loop) (address : Nat) (fde : Fdevent)
    (resting : fde.pending = false) :
    (if (loop.fdevents address).pending then
        plistRemove loop.links (.fdevent address) else loop.links).Collects .listPending
      (loop.put address fde).Waits := by
  have others : ∀ other, (loop.put address fde).Waits other ↔
      other ≠ .fdevent address ∧ loop.Waits other := by
    intro other
    rw [waits_put]
    simp [resting]
  split
  case isTrue pending => exact collects_plistRemove intact.list ⟨address, rfl, pending⟩ others
  case isFalse already =>
    refine intact.list.congr fun other => (others other).trans ⟨And.right, fun waits => ?_⟩
    refine ⟨?_, waits⟩
    rintro rfl
    obtain ⟨address', same, pending⟩ := waits
    cases same
    exact already pending

/-- `fdevent_unregister` never finds the table out of sync. -/
theorem fdeventRemove (intact : Intact tracking loop) (address : Nat) :
    ∃ loop', loop.fdeventRemove address = some loop' ∧ Intact tracking loop' := by
  have list := intact.list_removed address { fd := (loop.fdevents address).fd } rfl
  have links : (if (loop.fdevents address).pending = true then
      { loop with links := plistRemove loop.links (.fdevent address) } else loop) =
      { loop with
        links := if (loop.fdevents address).pending then
          plistRemove loop.links (.fdevent address) else loop.links } := by
    split <;> rfl
  simp only [Loop.fdeventRemove, links]
  generalize (if (loop.fdevents address).pending = true then
    plistRemove loop.links (.fdevent address) else loop.links) = links at list
  cases active : (loop.fdevents address).active with
  | false =>
      refine ⟨_, rfl, intact.put rfl (by simp [active]) list (by simp) (by simp) ?_⟩
      rw [masks_put_inactive intact active]
      exact intact.tracks
  | true =>
      have mine := (intact.table _ address).mpr ⟨active, rfl⟩
      rw [if_pos rfl, if_neg (not_not.mpr mine)]
      refine ⟨_, rfl, ?_, list, ?_, ?_, ?_⟩
      · intro fd' address'
        simp only [Loop.put]
        by_cases here : fd' = (loop.fdevents address).fd
        · subst here
          rw [Function.update_self]
          refine iff_of_false (by simp) ?_
          rintro ⟨active', same_fd⟩
          by_cases same : address' = address
          · subst same
            simp at active'
          · rw [Function.update_of_ne same] at active' same_fd
            have other := (intact.table _ address').mpr ⟨active', same_fd⟩
            rw [mine] at other
            exact same (Option.some.inj other).symm
        · rw [Function.update_of_ne here]
          by_cases same : address' = address
          · subst same
            rw [intact.table]
            simp [Ne.symm here]
          · rw [Function.update_of_ne same]
            exact intact.table fd' address'
      · exact intact.installed_put (by simp)
      · exact intact.reported_put (by simp)
      · have tracked := tracking.disconnect (loop.fdevents address).fd intact.tracks
        rw [masks_self intact active] at tracked
        convert tracked using 1
        funext fd'
        simp only [Loop.masks]
        by_cases here : fd' = (loop.fdevents address).fd
        · subst here
          simp
        · rw [Function.update_of_ne here, Function.update_of_ne here]
          exact masks_put_of_ne _ fun found => here ((intact.table fd' address).mp found).2.symm

/-- What `fdevent_set` does to the flags. -/
theorem want_spec (fde : Fdevent) (events : EventMask) :
    (fde.want events).fd = fde.fd ∧ (fde.want events).active = fde.active ∧
      (fde.want events).wanted = events ∧
      ((fde.want events).pending = true → fde.pending = true) ∧
      ((fde.pending = true ↔ fde.events ≠ 0) →
        ((fde.want events).pending = true ↔ (fde.want events).events ≠ 0)) := by
  unfold Fdevent.want
  split
  case isTrue pending => simp [pending]
  case isFalse resting => simp [resting]

theorem fdeventSet (intact : Intact tracking loop) (address : Nat) (events : BitVec 32) :
    Intact tracking (loop.fdeventSet address events) := by
  unfold Loop.fdeventSet
  generalize events.setWidth 8 = events
  dsimp only
  split
  case isTrue => exact intact
  case isFalse different =>
    obtain ⟨fd, active, wanted, pending, reported⟩ := want_spec (loop.fdevents address) events
    generalize (loop.fdevents address).want events = changed at fd active wanted pending reported
    refine intact.put fd active ?_
      (fun still => active.trans (intact.installed address (pending still)))
      (reported (intact.reported address)) ?_
    · cases still : changed.pending with
      | false => simpa using intact.list_removed address changed still
      | true =>
          simp only [not_true, and_false, if_false]
          refine intact.list.congr fun other => (waits_put other).trans ?_
          constructor
          · rintro (⟨-, waits⟩ | ⟨rfl, -⟩)
            · exact waits
            · exact ⟨address, rfl, pending still⟩
          · intro waits
            by_cases same : other = .fdevent address
            · exact .inr ⟨same, still⟩
            · exact .inl ⟨same, waits⟩
    · cases installed : (loop.fdevents address).active with
      | false =>
          rw [masks_put_inactive intact installed]
          exact intact.tracks
      | true =>
          rw [masks_put intact installed, wanted, if_pos rfl]
          have tracked := tracking.update (loop.fdevents address).fd events intact.tracks
          rw [masks_self intact installed] at tracked
          exact tracked different

theorem report (intact : Intact tracking loop) {fd : Nat} {events : EventMask}
    (some_event : events ≠ 0) : Intact tracking (loop.report fd events) := by
  unfold Loop.report
  split
  · exact intact
  · rename_i address found
    obtain ⟨active, here⟩ := (intact.table fd address).mp found
    rw [if_pos here]
    refine intact.put rfl rfl ?_ (fun _ => active) (iff_of_true rfl fun zero => ?_) ?_
    · have also : ∀ other, (loop.put address
          { loop.fdevents address with
            pending := true,
            events := (loop.fdevents address).events ||| events }).Waits other ↔
            loop.Waits other ∨ other = .fdevent address := by
        intro other
        rw [waits_put]
        by_cases same : other = .fdevent address
        · simp [same]
        · simp [same]
      split
      case isTrue pending =>
        refine intact.list.congr fun other => (also other).trans ⟨?_, .inl⟩
        rintro (waits | rfl)
        · exact waits
        · exact ⟨address, rfl, pending⟩
      case isFalse resting =>
        refine collects_plistEnqueue intact.list ?_ also
        rintro ⟨address', same, pending⟩
        cases same
        exact resting pending
    · exact some_event (BitVec.or_eq_zero_iff.mp zero).2
    · rw [masks_put intact active, ← masks_self intact active, Function.update_eq_self]
      exact intact.tracks

/-- What is dispatched was pending, and is so no more. -/
theorem dispatch (intact : Intact tracking loop) {address : Nat} {events : EventMask}
    (dispatched : loop.dispatch = some (address, events, loop')) :
    (loop.fdevents address).pending = true ∧ events = (loop.fdevents address).events ∧
      loop'.fdevents = Function.update loop.fdevents address
        { loop.fdevents address with events := 0, pending := false } ∧
      Intact tracking loop' := by
  simp only [Loop.dispatch] at dispatched
  split at dispatched
  · rename_i address' links found
    simp only [Option.some.injEq, Prod.mk.injEq] at dispatched
    obtain ⟨rfl, rfl, rfl⟩ := dispatched
    obtain ⟨⟨address, same, pending⟩, rest⟩ := collects_plistDequeue intact.list found
    cases same
    refine ⟨pending, rfl, rfl, intact.put rfl rfl ?_ (by simp) (by simp) ?_⟩
    · refine rest address' _ rfl fun other => (waits_put other).trans ?_
      simp
    · have active := intact.installed address' pending
      rw [masks_put intact active, ← masks_self intact active, Function.update_eq_self]
      exact intact.tracks
  · cases dispatched

theorem step {label : Label} (intact : Intact tracking loop) (step : LoopStep loop label loop') :
    Intact tracking loop' := by
  cases step with
  | install inactive unused => exact intact.fdeventInstall inactive unused
  | remove removed =>
      obtain ⟨after, same, intact'⟩ := intact.fdeventRemove _
      cases removed.symm.trans same
      exact intact'
  | set address events => exact intact.fdeventSet address events
  | add address events => exact intact.fdeventSet address _
  | del address events => exact intact.fdeventSet address _
  | report reports => exact intact.report (tracking.reports intact.tracks reports)
  | callback dispatched => exact (intact.dispatch dispatched).2.2.2

end Intact

theorem intact_of_reachable (tracking : Tracking poller) {loop : Loop poller}
    (reachable : Reachable LoopStep (Loop.start poller) loop) : Intact tracking loop :=
  reachable.invariant (Intact tracking) (.start tracking) fun _ _ _ intact step => intact.step step

/-! ## The Win32 host -/

/-- The hooks of `win32_looper`. -/
def Loop.hooks (loop : Loop win32) : List EventHook := loop.poll

/-- The pending list is well formed and has exactly the pending `fdevent`s, each once; a function
that is called belongs to an installed one; and there is one hook for each installed one that wants
something, which wants the same, and no other hook. -/
structure Disciplined (loop : Loop win32) : Prop where
  list : ∃ addresses : List Nat,
    loop.links.Ring .listPending (addresses.map Node.fdevent) ∧
      ∀ address, address ∈ addresses ↔ (loop.fdevents address).pending = true
  callbacks : ∀ address events loop', LoopStep loop (.callback address events) loop' →
    (loop.fdevents address).active = true
  distinct : (loop.hooks.map EventHook.fd).Nodup
  hooks : ∀ hook, hook ∈ loop.hooks ↔ ∃ address, (loop.fdevents address).active = true ∧
    (loop.fdevents address).wanted ≠ 0 ∧ hook.fd = (loop.fdevents address).fd ∧
      hook.wanted = (loop.fdevents address).wanted

/-- The members of the pending list, by their addresses. -/
theorem Loop.exists_addresses {loop : Loop poller}
    (list : loop.links.Collects .listPending loop.Waits) :
    ∃ addresses : List Nat, loop.links.Ring .listPending (addresses.map Node.fdevent) ∧
      ∀ address, address ∈ addresses ↔ (loop.fdevents address).pending = true := by
  obtain ⟨members, ring, mem_iff⟩ := list
  have named : ∀ members : List Node, (∀ node ∈ members, loop.Waits node) →
      ∃ addresses : List Nat, members = addresses.map Node.fdevent := by
    intro members
    induction members with
    | nil => exact fun _ => ⟨[], rfl⟩
    | cons node members induction =>
        intro waits
        obtain ⟨address, rfl, -⟩ := waits node List.mem_cons_self
        obtain ⟨addresses, rfl⟩ := induction fun other member =>
          waits other (List.mem_cons_of_mem _ member)
        exact ⟨address :: addresses, rfl⟩
  obtain ⟨addresses, rfl⟩ := named members fun node member => (mem_iff node).mp member
  refine ⟨addresses, ring, fun address => ?_⟩
  have waits := mem_iff (.fdevent address)
  simpa [Loop.Waits] using waits

/-- After every sequence of calls, reports and callbacks the list and the hooks are in step with the
`fdevent`s. -/
theorem pending_and_hooks_disciplined {labels : List Label} {loop : Loop win32}
    (trace : Trace LoopStep (Loop.start win32) labels loop) : Disciplined loop := by
  have intact := intact_of_reachable win32Tracking ⟨labels, trace⟩
  have tracks : HooksMatch loop.hooks loop.masks := intact.tracks
  refine ⟨Loop.exists_addresses intact.list, ?_, tracks.nodup, fun hook => ?_⟩
  · rintro address events loop' (_ | _ | _ | _ | _ | _ | dispatched)
    exact intact.installed address (intact.dispatch dispatched).1
  · rw [tracks.mem_iff]
    constructor
    · rintro ⟨wanted, filled⟩
      cases found : loop.fdTable hook.fd with
      | none =>
          rw [Loop.masks, found] at wanted
          exact absurd wanted filled
      | some address =>
          obtain ⟨active, fd⟩ := (intact.table hook.fd address).mp found
          rw [← fd, intact.masks_self active] at wanted
          exact ⟨address, active, wanted ▸ filled, fd.symm, wanted⟩
    · rintro ⟨address, active, filled, fd, wanted⟩
      rw [fd, intact.masks_self active, wanted]
      exact ⟨rfl, filled⟩

/-- An `fdevent` is installed, reported to be readable, and its function called. -/
theorem pending_and_hooks_disciplined_callback :
    ∃ loop, Trace LoopStep (Loop.start win32)
        [.install 0 100, .set 0 1, .report 100 1, .callback 0 1] loop ∧ Disciplined loop := by
  have installed : LoopStep (Loop.start win32) (.install 0 100) _ :=
    .install rfl (by simp [Loop.start])
  have wanted := (Trace.nil.snoc installed).snoc (.set 0 1)
  have reported := wanted.snoc (.report ⟨⟨100, 1⟩, List.mem_singleton_self _, rfl, rfl⟩)
  have called := reported.snoc (.callback rfl)
  exact ⟨_, called, pending_and_hooks_disciplined called⟩

end FdEvent
end AdbWide
