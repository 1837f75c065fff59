import Mathlib.Data.List.Nodup
import AdbWide.FdEvent.Model

/-!
# Pollers follow the masks

Both ways to be told of events are kept in step with the masks of the file descriptors: the Win32
looper has a hook for each mask that is not empty, and the sets for `select` hold the bits of each
mask.
-/

namespace AdbWide
namespace FdEvent

/-- A poller with an invariant that ties its state to the masks of all file descriptors. -/
structure Tracking (poller : Poller) where
  Tracks : poller.State → (Nat → EventMask) → Prop
  start : Tracks poller.start fun _ => 0
  connect : ∀ {state masks} (fd : Nat), Tracks state masks →
    Tracks (poller.connect state fd 0) masks
  disconnect : ∀ {state masks} (fd : Nat), Tracks state masks →
    Tracks (poller.disconnect state fd (masks fd)) (Function.update masks fd 0)
  update : ∀ {state masks} (fd : Nat) (events : EventMask), Tracks state masks →
    masks fd ≠ events →
    Tracks (poller.update state fd (masks fd) events) (Function.update masks fd events)
  reports : ∀ {state masks fd events}, Tracks state masks → poller.Reports state fd events →
    events ≠ 0

/-! ## The hooks of the Win32 looper -/

/-- There is exactly one hook for each mask that is not empty, and it wants that mask. -/
structure HooksMatch (hooks : List EventHook) (masks : Nat → EventMask) : Prop where
  nodup : (hooks.map EventHook.fd).Nodup
  mem_iff : ∀ hook, hook ∈ hooks ↔ hook.wanted = masks hook.fd ∧ hook.wanted ≠ 0

theorem EventHook.add_eq (node : EventHook) (events : EventMask) :
    node.add events = { node with wanted := node.wanted ||| events } := by
  unfold EventHook.add
  split
  case isTrue => rfl
  case isFalse held =>
    have subset : node.wanted &&& events = events := by simpa using held
    have same : node.wanted ||| events = node.wanted := by
      rw [← subset]
      ext bit
      simp only [BitVec.getElem_or, BitVec.getElem_and]
      cases node.wanted[bit] <;> simp
    rw [same]

theorem fds_eventLooperHook (fd : Nat) (events : EventMask) (hooks : List EventHook) :
    (eventLooperHook fd events hooks).map EventHook.fd =
      if fd ∈ hooks.map EventHook.fd then hooks.map EventHook.fd
      else hooks.map EventHook.fd ++ [fd] := by
  induction hooks with
  | nil => simp [eventLooperHook, EventHook.add_eq]
  | cons node hooks induction =>
      by_cases same : node.fd = fd
      · simp [eventLooperHook, same, EventHook.add_eq]
      · simp only [eventLooperHook, same, if_false, List.map_cons, induction, List.mem_cons,
          Ne.symm same, false_or]
        split <;> simp

theorem fds_eventLooperUnhook (fd : Nat) (events : EventMask) (hooks : List EventHook) :
    ((eventLooperUnhook fd events hooks).map EventHook.fd).Sublist (hooks.map EventHook.fd) := by
  induction hooks with
  | nil => exact .slnil
  | cons node hooks induction =>
      simp only [eventLooperUnhook]
      split
      · split
        · exact List.Sublist.refl _
        · split
          · exact List.sublist_cons_self _ _
          · exact List.Sublist.refl _
      · exact induction.cons_cons _

theorem and_not_zero (mask : EventMask) : mask &&& ~~~0 = mask := by
  ext bit
  simp only [BitVec.getElem_and, BitVec.getElem_not, BitVec.ofNat_eq_ofNat, BitVec.getElem_zero,
    Bool.not_false, Bool.and_true]

/-- Hooks of one file descriptor are the same. -/
theorem fd_ne_of_nodup {node hook : EventHook} {hooks : List EventHook}
    (nodup : ((node :: hooks).map EventHook.fd).Nodup) (member : hook ∈ hooks) :
    hook.fd ≠ node.fd := fun same =>
  (List.nodup_cons.mp nodup).1 (same ▸ List.mem_map_of_mem member)

/-- The hook of a file descriptor is replaced. -/
theorem mem_replaced {node hook new : EventHook} {hooks : List EventHook} {fd : Nat}
    (same : node.fd = fd) (others : hook ∈ hooks → hook.fd ≠ fd) :
    hook = new ∨ hook ∈ hooks ↔ (hook = node ∨ hook ∈ hooks) ∧ hook.fd ≠ fd ∨ hook = new := by
  constructor
  · rintro (replaced | member)
    · exact .inr replaced
    · exact .inl ⟨.inr member, others member⟩
  · rintro (⟨rfl | member, different⟩ | replaced)
    · exact absurd same different
    · exact .inr member
    · exact .inl replaced

/-- The hook of another file descriptor is passed over. -/
theorem mem_passed {node hook : EventHook} {hooks : List EventHook} {fd : Nat} {replaced : Prop}
    (other : node.fd ≠ fd) :
    hook = node ∨ hook ∈ hooks ∧ hook.fd ≠ fd ∨ replaced ↔
      (hook = node ∨ hook ∈ hooks) ∧ hook.fd ≠ fd ∨ replaced := by
  constructor
  · rintro (rfl | ⟨member, different⟩ | replaced)
    · exact .inl ⟨.inl rfl, other⟩
    · exact .inl ⟨.inr member, different⟩
    · exact .inr replaced
  · rintro (⟨rfl | member, different⟩ | replaced)
    · exact .inl rfl
    · exact .inr (.inl ⟨member, different⟩)
    · exact .inr (.inr replaced)

theorem mem_eventLooperHook {hooks : List EventHook} {fd : Nat} {wanted : EventMask}
    (nodup : (hooks.map EventHook.fd).Nodup)
    (found : ∀ hook ∈ hooks, hook.fd = fd → hook.wanted = wanted)
    (missing : (∀ hook ∈ hooks, hook.fd ≠ fd) → wanted = 0) (events : EventMask)
    (hook : EventHook) :
    hook ∈ eventLooperHook fd events hooks ↔
      hook ∈ hooks ∧ hook.fd ≠ fd ∨ hook = ⟨fd, wanted ||| events⟩ := by
  induction hooks with
  | nil => simp [eventLooperHook, EventHook.add_eq, missing]
  | cons node hooks induction =>
      by_cases same : node.fd = fd
      · have node_eq : node.add events = ⟨fd, wanted ||| events⟩ := by
          rw [EventHook.add_eq, found node List.mem_cons_self same, same]
        have others : hook ∈ hooks → hook.fd ≠ fd := fun member =>
          same ▸ fd_ne_of_nodup nodup member
        simp only [eventLooperHook, same, if_true, node_eq, List.mem_cons]
        exact mem_replaced same others
      · have rest := induction (List.nodup_cons.mp nodup).2
          (fun hook member => found hook (List.mem_cons_of_mem _ member))
          (fun absent => missing (List.forall_mem_cons.mpr ⟨same, absent⟩))
        simp only [eventLooperHook, same, if_false, List.mem_cons, rest]
        exact mem_passed same

theorem mem_eventLooperUnhook {hooks : List EventHook} {fd : Nat} {wanted : EventMask}
    (nodup : (hooks.map EventHook.fd).Nodup)
    (found : ∀ hook ∈ hooks, hook.fd = fd → hook.wanted = wanted)
    (missing : (∀ hook ∈ hooks, hook.fd ≠ fd) → wanted = 0)
    (filled : ∀ hook ∈ hooks, hook.wanted ≠ 0) (events : EventMask) (hook : EventHook) :
    hook ∈ eventLooperUnhook fd events hooks ↔
      hook ∈ hooks ∧ hook.fd ≠ fd ∨
        hook = ⟨fd, wanted &&& ~~~events⟩ ∧ wanted &&& ~~~events ≠ 0 := by
  induction hooks with
  | nil => simp [eventLooperUnhook, missing]
  | cons node hooks induction =>
      by_cases same : node.fd = fd
      · have node_wanted := found node List.mem_cons_self same
        have others : hook ∈ hooks → hook.fd ≠ fd := fun member =>
          same ▸ fd_ne_of_nodup nodup member
        have left : node.wanted &&& ~~~(events &&& node.wanted) = wanted &&& ~~~events := by
          rw [node_wanted]
          ext bit
          simp only [BitVec.getElem_and, BitVec.getElem_not]
          cases wanted[bit] <;> simp
        simp only [eventLooperUnhook, same, if_true, left]
        by_cases unregistered : events &&& node.wanted = 0
        · have kept : wanted &&& ~~~events = node.wanted := by
            rw [← left, unregistered, and_not_zero]
          have node_eq : node = ⟨fd, node.wanted⟩ := by rw [← same]
          simp only [unregistered, if_true, List.mem_cons, kept, ← node_eq,
            and_iff_left (filled node List.mem_cons_self)]
          exact mem_replaced same others
        · simp only [unregistered, if_false]
          by_cases empty : wanted &&& ~~~events = 0
          · simp only [empty, if_true, List.mem_cons, ne_eq, not_true, and_false, or_false]
            constructor
            · exact fun member => ⟨.inr member, others member⟩
            · rintro ⟨rfl | member, different⟩
              · exact absurd same different
              · exact member
          · simp only [empty, if_false, List.mem_cons, ne_eq, not_false_eq_true, and_true]
            exact mem_replaced same others
      · have rest := induction (List.nodup_cons.mp nodup).2
          (fun hook member => found hook (List.mem_cons_of_mem _ member))
          (fun absent => missing (List.forall_mem_cons.mpr ⟨same, absent⟩))
          (fun hook member => filled hook (List.mem_cons_of_mem _ member))
        simp only [eventLooperUnhook, same, if_false, List.mem_cons, rest]
        exact mem_passed same

namespace HooksMatch

variable {hooks : List EventHook} {masks : Nat → EventMask}

theorem found (hooksMatch : HooksMatch hooks masks) (fd : Nat) :
    ∀ hook ∈ hooks, hook.fd = fd → hook.wanted = masks fd := by
  rintro hook member rfl
  exact ((hooksMatch.mem_iff hook).mp member).1

theorem missing (hooksMatch : HooksMatch hooks masks) (fd : Nat)
    (absent : ∀ hook ∈ hooks, hook.fd ≠ fd) : masks fd = 0 := by
  by_contra filled
  exact absent ⟨fd, masks fd⟩ ((hooksMatch.mem_iff _).mpr ⟨rfl, filled⟩) rfl

theorem hook (hooksMatch : HooksMatch hooks masks) (fd : Nat) {events : EventMask}
    (some_event : events ≠ 0) :
    HooksMatch (eventLooperHook fd events hooks)
      (Function.update masks fd (masks fd ||| events)) := by
  refine ⟨?_, fun hook => ?_⟩
  · rw [fds_eventLooperHook]
    split
    case isTrue => exact hooksMatch.nodup
    case isFalse absent =>
      refine List.nodup_append.mpr ⟨hooksMatch.nodup, List.nodup_singleton _, ?_⟩
      intro fd' member other new same
      exact absent (List.mem_singleton.mp new ▸ same ▸ member)
  · rw [mem_eventLooperHook hooksMatch.nodup (hooksMatch.found fd) (hooksMatch.missing fd),
      hooksMatch.mem_iff]
    have wanted : masks fd ||| events ≠ 0 := fun zero =>
      some_event (BitVec.or_eq_zero_iff.mp zero).2
    obtain ⟨fd', wanted'⟩ := hook
    by_cases same : fd' = fd
    · subst same
      simp only [ne_eq, not_true, and_false, false_or, EventHook.mk.injEq, true_and,
        Function.update_self]
      exact ⟨fun equal => ⟨equal, equal ▸ wanted⟩, And.left⟩
    · simp [same]

theorem unhook (hooksMatch : HooksMatch hooks masks) (fd : Nat) (events : EventMask) :
    HooksMatch (eventLooperUnhook fd events hooks)
      (Function.update masks fd (masks fd &&& ~~~events)) := by
  refine ⟨hooksMatch.nodup.sublist (fds_eventLooperUnhook fd events hooks), fun hook => ?_⟩
  rw [mem_eventLooperUnhook hooksMatch.nodup (hooksMatch.found fd) (hooksMatch.missing fd)
    (fun hook member => ((hooksMatch.mem_iff hook).mp member).2), hooksMatch.mem_iff]
  obtain ⟨fd', wanted'⟩ := hook
  by_cases same : fd' = fd
  · subst same
    simp only [ne_eq, not_true, and_false, false_or, EventHook.mk.injEq, true_and,
      Function.update_self]
    constructor
    · rintro ⟨rfl, filled⟩
      exact ⟨rfl, filled⟩
    · rintro ⟨rfl, filled⟩
      exact ⟨rfl, filled⟩
  · simp [same]

end HooksMatch

/-- Taking bits out of a mask and putting others in gives the new mask. -/
theorem update_mask (events0 events : EventMask) :
    (events0 &&& ~~~(events0 &&& ~~~events)) ||| (events &&& ~~~events0) = events := by
  ext bit
  simp only [BitVec.getElem_or, BitVec.getElem_and, BitVec.getElem_not]
  cases events0[bit] <;> simp

theorem and_not_of_eq_zero {mask others : EventMask} (disjoint : mask &&& ~~~others = 0) :
    mask &&& ~~~(mask &&& ~~~others) = mask := by
  rw [disjoint, and_not_zero]

theorem HooksMatch.update {hooks : List EventHook} {masks : Nat → EventMask}
    (hooksMatch : HooksMatch hooks masks) (fd : Nat) (events : EventMask)
    (different : masks fd ≠ events) :
    HooksMatch (fdeventUpdate hooks fd (masks fd) events) (Function.update masks fd events) := by
  rw [fdeventUpdate, if_pos different.symm]
  dsimp only
  have removed : HooksMatch
      (if masks fd &&& ~~~events ≠ 0 then
        eventLooperUnhook fd (masks fd &&& ~~~events) hooks else hooks)
      (Function.update masks fd (masks fd &&& ~~~(masks fd &&& ~~~events))) := by
    split
    case isTrue => exact hooksMatch.unhook fd _
    case isFalse none_removed =>
      rw [and_not_of_eq_zero (not_not.mp none_removed), Function.update_eq_self]
      exact hooksMatch
  generalize (if masks fd &&& ~~~events ≠ 0 then
    eventLooperUnhook fd (masks fd &&& ~~~events) hooks else hooks) = middle at removed ⊢
  have whole := update_mask (masks fd) events
  split
  case isTrue added =>
    have hooked := removed.hook fd added
    rwa [Function.update_self, whole, Function.update_idem] at hooked
  case isFalse none_added =>
    rw [not_not.mp none_added, BitVec.ofNat_eq_ofNat, BitVec.or_zero] at whole
    rwa [whole] at removed

theorem HooksMatch.disconnect {hooks : List EventHook} {masks : Nat → EventMask}
    (hooksMatch : HooksMatch hooks masks) (fd : Nat) :
    HooksMatch (fdeventDisconnect hooks fd (masks fd)) (Function.update masks fd 0) := by
  unfold fdeventDisconnect
  split
  case isTrue filled =>
    have unhooked := hooksMatch.unhook fd (masks fd)
    rwa [BitVec.and_not_self] at unhooked
  case isFalse empty =>
    have zero : masks fd = 0 := not_not.mp empty
    rwa [← zero, Function.update_eq_self]

/-- The looper follows the masks. -/
def win32Tracking : Tracking win32 where
  Tracks := HooksMatch
  start := ⟨List.nodup_nil, by simp [win32]⟩
  connect fd tracks := tracks
  disconnect fd tracks := HooksMatch.disconnect tracks fd
  update fd events tracks different := HooksMatch.update tracks fd events different
  reports := by
    rintro hooks masks fd events tracks ⟨hook, member, -, rfl⟩
    exact ((HooksMatch.mem_iff tracks hook).mp member).2

/-! ## The sets for `select` -/

/-- The sets hold the bits of the masks. -/
def SetsMatch (sets : FdSets) (masks : Nat → EventMask) : Prop :=
  ∀ fd, sets.read fd = decide (masks fd &&& fdeRead ≠ 0) ∧
    sets.write fd = decide (masks fd &&& fdeWrite ≠ 0) ∧
    sets.error fd = decide (masks fd &&& fdeError ≠ 0)

theorem SetsMatch.put {sets : FdSets} {masks : Nat → EventMask} (setsMatch : SetsMatch sets masks)
    (fd : Nat) (events : EventMask) :
    SetsMatch (sets.put fd events) (Function.update masks fd events) := by
  intro other
  by_cases same : other = fd
  · subst same
    simp [FdSets.put]
  · simpa [FdSets.put, same] using setsMatch other

/-- The sets follow the masks. -/
def selectTracking : Tracking select where
  Tracks := SetsMatch
  start := by
    intro fd
    simp [select]
  connect _ tracks := tracks
  disconnect fd tracks := tracks.put fd 0
  update fd events tracks _ := tracks.put fd events
  reports := by
    rintro sets masks fd events - (⟨some_event, -⟩ | rfl)
    · exact some_event
    · decide

end FdEvent
end AdbWide
