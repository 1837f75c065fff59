import AdbWide.FdEvent.Discipline

/-!
# Which pending events are kept

When an `fdevent` is told what is wanted while events wait for it, `fdevent_set` means to drop those
that are no longer wanted.  It keeps them and drops the others.  This file says when that makes no
difference, in a single call and in a run of the event loop.
-/

namespace AdbWide
namespace FdEvent

variable {poller : Poller}

/-- The pending events that are wanted are kept, the others are not, and without any the `fdevent`
is not pending. -/
def Filters (before after : Fdevent) (events : BitVec 32) : Prop :=
  after.events = before.events &&& events.setWidth 8 ∧
    (after.pending = false ↔ before.events &&& events.setWidth 8 = 0)

instance (before after : Fdevent) (events : BitVec 32) : Decidable (Filters before after events) :=
  inferInstanceAs (Decidable (_ ∧ _))

/-- The mask stays as it is and there are pending events, all of them wanted; or it changes and
there are none. -/
def Harmless (fde : Fdevent) (events : BitVec 32) : Prop :=
  if fde.wanted = events.setWidth 8 then fde.events ≠ 0 ∧ fde.events &&& ~~~fde.wanted = 0
  else fde.events = 0

/-- The call of `fdevent_set` a step consists of. -/
def Loop.setBy (loop : Loop poller) : Label → Option (Nat × BitVec 32)
  | .set address events => some (address, events)
  | .add address events =>
      some (address, (loop.fdevents address).wanted.setWidth 32 ||| (events &&& 0xff))
  | .del address events =>
      some (address, (loop.fdevents address).wanted.setWidth 32 &&& ~~~(events &&& 0xff))
  | _ => none

/-- Each mask set while events are pending is harmless, and nothing is reported that is not
wanted. -/
structure Meets (loop : Loop poller) (label : Label) : Prop where
  harmless : ∀ address events, loop.setBy label = some (address, events) →
    (loop.fdevents address).pending = true → Harmless (loop.fdevents address) events
  reported : ∀ fd events, label = .report fd events → events &&& ~~~loop.masks fd = 0

/-- A mask set filters the pending events, a function is called with events that are wanted, and
otherwise no pending event is lost that is wanted. -/
structure Handled (loop : Loop poller) (label : Label) (loop' : Loop poller) : Prop where
  filtered : ∀ address events, loop.setBy label = some (address, events) →
    (loop.fdevents address).pending = true →
      Filters (loop.fdevents address) (loop'.fdevents address) events
  wanted : ∀ address events, label = .callback address events →
    events &&& ~~~(loop.fdevents address).wanted = 0
  kept : ∀ address, (loop.fdevents address).pending = true → label ≠ .remove address →
    (∀ events, label ≠ .callback address events) →
      (loop.fdevents address).events &&& (loop'.fdevents address).wanted &&&
        ~~~(loop'.fdevents address).events = 0

/-! ## One call -/

theorem and_not_eq_zero_iff (mask others : EventMask) :
    mask &&& ~~~others = 0 ↔ mask = mask &&& others := by
  rw [BitVec.eq_of_getElem_eq_iff, BitVec.eq_of_getElem_eq_iff]
  refine forall_congr' fun bit => forall_congr' fun small => ?_
  simp only [BitVec.getElem_and, BitVec.getElem_not, BitVec.ofNat_eq_ofNat, BitVec.getElem_zero]
  cases mask[bit] <;> cases others[bit] <;> simp

theorem and_not_eq_and_iff (mask others : EventMask) :
    mask &&& ~~~others = mask &&& others ↔ mask = 0 := by
  rw [BitVec.eq_of_getElem_eq_iff, BitVec.eq_of_getElem_eq_iff]
  refine forall_congr' fun bit => forall_congr' fun small => ?_
  simp only [BitVec.getElem_and, BitVec.getElem_not, BitVec.ofNat_eq_ofNat, BitVec.getElem_zero]
  cases mask[bit] <;> cases others[bit] <;> simp

theorem fdevents_fdeventSet (loop : Loop poller) (address : Nat) (events : BitVec 32) :
    (loop.fdeventSet address events).fdevents =
      Function.update loop.fdevents address
        ((loop.fdevents address).set (events.setWidth 8)) := by
  unfold Loop.fdeventSet Fdevent.set
  dsimp only
  split
  · rw [Function.update_eq_self]
  · rfl

/-- `fdevent_set` filters the pending events exactly in the harmless states. -/
theorem filters_fdeventSet_iff (loop : Loop poller) (address : Nat) (events : BitVec 32)
    (pending : (loop.fdevents address).pending = true) :
    Filters (loop.fdevents address) ((loop.fdeventSet address events).fdevents address) events ↔
      Harmless (loop.fdevents address) events := by
  rw [fdevents_fdeventSet, Function.update_self, Filters, Harmless, Fdevent.set]
  generalize loop.fdevents address = fde at pending
  generalize events.setWidth 8 = mask
  split
  case isTrue same =>
    rw [and_not_eq_zero_iff, same, pending]
    simp only [Bool.true_eq_false, false_iff]
    constructor
    · rintro ⟨whole, some_left⟩
      exact ⟨whole ▸ some_left, whole⟩
    · rintro ⟨some_event, whole⟩
      exact ⟨whole, whole ▸ some_event⟩
  case isFalse different =>
    simp only [Fdevent.want, pending, if_true, and_not_eq_and_iff]
    constructor
    · exact And.left
    · intro nothing
      simp [nothing]

/-! ## A run -/

/-- All pending events are wanted. -/
def Loop.AllWanted (loop : Loop poller) : Prop :=
  ∀ address, (loop.fdevents address).events &&& ~~~(loop.fdevents address).wanted = 0

/-- When all pending events are wanted, a harmless mask is the one that is set already. -/
theorem Harmless.same {fde : Fdevent} {events : BitVec 32} (harmless : Harmless fde events)
    (some_event : fde.events ≠ 0) : fde.wanted = events.setWidth 8 := by
  unfold Harmless at harmless
  split at harmless
  · assumption
  · exact absurd harmless some_event

theorem fdeventSet_of_same {loop : Loop poller} {address : Nat} {events : BitVec 32}
    (same : (loop.fdevents address).wanted = events.setWidth 8) :
    loop.fdeventSet address events = loop := by
  simp [Loop.fdeventSet, same]

theorem fdevents_fdeventRemove {loop loop' : Loop poller} {address : Nat}
    (removed : loop.fdeventRemove address = some loop') :
    loop'.fdevents = Function.update loop.fdevents address
      { fd := (loop.fdevents address).fd } := by
  have kept : (if (loop.fdevents address).pending = true then
      { loop with links := plistRemove loop.links (.fdevent address) } else loop).fdevents =
        loop.fdevents := by
    split <;> rfl
  simp only [Loop.fdeventRemove] at removed
  generalize (if (loop.fdevents address).pending = true then
    { loop with links := plistRemove loop.links (.fdevent address) } else loop) = middle
    at kept removed
  by_cases active : (loop.fdevents address).active = true
  · by_cases mine : middle.fdTable (loop.fdevents address).fd = some address
    · rw [if_pos active, if_neg (not_not.mpr mine)] at removed
      rw [← Option.some.inj removed, Loop.put, kept]
    · rw [if_pos active, if_pos mine] at removed
      cases removed
  · rw [if_neg active] at removed
    rw [← Option.some.inj removed, Loop.put, kept]

/-- A report goes to the `fdevent` that is installed for the file descriptor. -/
theorem fdevents_report (loop : Loop poller) (fd : Nat) (events : EventMask) :
    (loop.report fd events).fdevents = loop.fdevents ∨
      ∃ address, loop.fdTable fd = some address ∧
        (loop.report fd events).fdevents = Function.update loop.fdevents address
          { loop.fdevents address with
            pending := true, events := (loop.fdevents address).events ||| events } := by
  unfold Loop.report
  split
  · exact .inl rfl
  · rename_i address found
    by_cases here : (loop.fdevents address).fd = fd
    · exact .inr ⟨address, found, by rw [if_pos here]; rfl⟩
    · exact .inl (by rw [if_neg here])

/-- A step that meets the condition leaves an `fdevent` as it is, or more is reported for it, or it
is not pending afterwards. -/
theorem LoopStep.fdevent {tracking : Tracking poller} {loop loop' : Loop poller} {label : Label}
    (intact : Intact tracking loop) (step : LoopStep loop label loop') (meets : Meets loop label)
    (address : Nat) :
    loop'.fdevents address = loop.fdevents address ∨
      (∃ more, more &&& ~~~(loop.fdevents address).wanted = 0 ∧
        loop'.fdevents address = { loop.fdevents address with
          pending := true, events := (loop.fdevents address).events ||| more }) ∨
      (loop'.fdevents address).pending = false ∧
        ((loop.fdevents address).pending = false ∨ label = .remove address ∨
          ∃ events, label = .callback address events) := by
  have set : ∀ other events, loop.setBy label = some (other, events) →
      loop' = loop.fdeventSet other events →
      loop'.fdevents address = loop.fdevents address ∨
        (loop'.fdevents address).pending = false ∧
          (loop.fdevents address).pending = false := by
    rintro other events call rfl
    by_cases same : address = other
    · subst same
      cases pending : (loop.fdevents address).pending with
      | true =>
          refine .inl ?_
          have harmless := meets.harmless address events call pending
          rw [fdeventSet_of_same (harmless.same ((intact.reported address).mp pending))]
      | false =>
          refine .inr ⟨?_, rfl⟩
          rw [fdevents_fdeventSet, Function.update_self, Fdevent.set]
          split
          · exact pending
          · simp [Fdevent.want, pending]
    · rw [fdevents_fdeventSet, Function.update_of_ne same]
      exact .inl rfl
  cases step with
  | install inactive unused =>
      rename_i other fd
      by_cases same : address = other
      · subst same
        refine .inr (.inr ⟨by simp [Loop.fdeventInstall, Loop.put], .inl ?_⟩)
        cases pending : (loop.fdevents address).pending with
        | false => rfl
        | true =>
            rw [intact.installed address pending] at inactive
            cases inactive
      · exact .inl (Function.update_of_ne same _ _)
  | remove removed =>
      rename_i other
      rw [fdevents_fdeventRemove removed]
      by_cases same : address = other
      · subst same
        exact .inr (.inr ⟨by rw [Function.update_self], .inr (.inl rfl)⟩)
      · exact .inl (Function.update_of_ne same _ _)
  | set other | add other | del other =>
      rcases set other _ rfl rfl with same | ⟨after, resting⟩
      · exact .inl same
      · exact .inr (.inr ⟨after, .inl resting⟩)
  | report reports =>
      rename_i fd events
      rcases fdevents_report loop fd events with same | ⟨other, found, after⟩
      · exact .inl (by rw [same])
      · rw [after]
        by_cases same : address = other
        · subst same
          refine .inr (.inl ⟨events, ?_, Function.update_self _ _ _⟩)
          have wanted := meets.reported fd events rfl
          rwa [Loop.masks, found] at wanted
        · exact .inl (Function.update_of_ne same _ _)
  | callback dispatched =>
      rename_i other events
      rw [(intact.dispatch dispatched).2.2.1]
      by_cases same : address = other
      · subst same
        exact .inr (.inr ⟨by rw [Function.update_self], .inr (.inr ⟨events, rfl⟩)⟩)
      · exact .inl (Function.update_of_ne same _ _)

/-- Without pending events there is none that is not wanted. -/
theorem unwanted_of_resting {tracking : Tracking poller} {loop : Loop poller}
    (intact : Intact tracking loop) {address : Nat}
    (resting : (loop.fdevents address).pending = false) (mask : EventMask) :
    (loop.fdevents address).events &&& mask = 0 := by
  have nothing : (loop.fdevents address).events = 0 := by
    by_contra some_event
    rw [(intact.reported address).mpr some_event] at resting
    cases resting
  rw [nothing]
  exact BitVec.zero_and

/-- A step leaves nothing pending that is not wanted, if there was nothing before. -/
theorem Loop.AllWanted.step {tracking : Tracking poller} {loop loop' : Loop poller} {label : Label}
    (allWanted : loop.AllWanted) (intact : Intact tracking loop)
    (step : LoopStep loop label loop') (meets : Meets loop label) : loop'.AllWanted := by
  intro address
  have wanted := allWanted address
  rcases step.fdevent intact meets address with same | ⟨more, wanted', after⟩ | ⟨resting, -⟩
  · rwa [same]
  · rw [after]
    dsimp only
    rw [and_not_eq_zero_iff] at wanted wanted' ⊢
    rw [BitVec.and_or_distrib_right, ← wanted, ← wanted']
  · exact unwanted_of_resting (intact.step step) resting _

/-- A step that meets the condition is handled as it should be, when all pending events are
wanted. -/
theorem handled_of_meets {tracking : Tracking poller} {loop loop' : Loop poller} {label : Label}
    (intact : Intact tracking loop) (allWanted : loop.AllWanted)
    (step : LoopStep loop label loop') (meets : Meets loop label) : Handled loop label loop' := by
  refine ⟨fun address events call pending => ?_, ?_, ?_⟩
  · have after : loop' = loop.fdeventSet address events := by
      cases step with
      | set | add | del =>
          cases call
          rfl
      | _ => cases call
    rw [after]
    exact (filters_fdeventSet_iff loop address events pending).mpr
      (meets.harmless address events call pending)
  · rintro address events rfl
    cases step with
    | callback dispatched =>
        rw [(intact.dispatch dispatched).2.1]
        exact allWanted address
  · intro address pending not_removed not_called
    rcases step.fdevent intact meets address with same | ⟨more, -, after⟩ | ⟨-, resting⟩
    · rw [same, and_not_eq_zero_iff, BitVec.and_comm, BitVec.and_assoc, BitVec.and_self]
    · rw [after]
      dsimp only
      rw [and_not_eq_zero_iff]
      ext bit
      simp only [BitVec.getElem_and, BitVec.getElem_or]
      cases (loop.fdevents address).events[bit] <;> simp
    · rcases resting with resting | removed | ⟨events, called⟩
      · rw [pending] at resting
        cases resting
      · exact absurd removed not_removed
      · exact absurd called (not_called events)

theorem allWanted_of_trace (tracking : Tracking poller) {labels : List Label}
    {loop : Loop poller} (trace : Trace (Guarded LoopStep Meets) (Loop.start poller) labels loop) :
    Intact tracking loop ∧ loop.AllWanted := by
  induction trace with
  | nil => exact ⟨.start tracking, fun _ => BitVec.zero_and⟩
  | snoc _ last induction =>
      exact ⟨induction.1.step last.2, induction.2.step induction.1 last.2 last.1⟩

/-- On both platforms a call of `fdevent_set` filters the pending events exactly in the harmless
states; and in a run all of whose steps meet the condition every function is called with events that
are wanted, and no pending event is lost that is wanted. -/
theorem fdeventSet_filters_iff (poller : Poller) (tracking : Tracking poller) :
    (∀ (loop : Loop poller) (address : Nat) (events : BitVec 32),
      (loop.fdevents address).pending = true →
        (Filters (loop.fdevents address) ((loop.fdeventSet address events).fdevents address)
            events ↔
          Harmless (loop.fdevents address) events)) ∧
      ∀ (labels : List Label) (loop loop' : Loop poller) (label : Label),
        Trace (Guarded LoopStep Meets) (Loop.start poller) labels loop →
          LoopStep loop label loop' → Meets loop label → Handled loop label loop' := by
  refine ⟨filters_fdeventSet_iff, fun labels loop loop' label trace step meets => ?_⟩
  obtain ⟨intact, allWanted⟩ := allWanted_of_trace tracking trace
  exact handled_of_meets intact allWanted step meets

/-- An `fdevent` is installed that wants to read and write, and both are reported. -/
def Loop.reported (poller : Poller) : Loop poller :=
  (((Loop.start poller).fdeventInstall 0 100).fdeventSet 0 3).report 100 3

theorem reachable_reported {poller : Poller}
    (reports : poller.Reports
      (((Loop.start poller).fdeventInstall 0 100).fdeventSet 0 3).poll 100 3) :
    Reachable LoopStep (Loop.start poller) (Loop.reported poller) := by
  have installed : LoopStep (Loop.start poller) (.install 0 100) _ :=
    .install rfl (by simp [Loop.start])
  have wanted := (Trace.nil.snoc installed).snoc (.set 0 3)
  exact ⟨_, wanted.snoc (.report reports)⟩

theorem win32_reports : win32.Reports
    (((Loop.start win32).fdeventInstall 0 100).fdeventSet 0 3).poll 100 3 :=
  ⟨⟨100, 3⟩, List.mem_singleton_self _, rfl, rfl⟩

theorem select_reports : select.Reports
    (((Loop.start select).fdeventInstall 0 100).fdeventSet 0 3).poll 100 3 :=
  .inl ⟨by decide, by decide⟩

/-- The mask is set again while both events are pending. -/
theorem fdeventSet_filters_iff_reported :
    Filters ((Loop.reported win32).fdevents 0) (((Loop.reported win32).fdeventSet 0 3).fdevents 0)
        3 ∧
      Handled (Loop.reported select) (.set 0 3) ((Loop.reported select).fdeventSet 0 3) := by
  have harmless : Harmless ((Loop.reported win32).fdevents 0) 3 ∧
      Harmless ((Loop.reported select).fdevents 0) 3 :=
    ⟨⟨by decide, by decide⟩, ⟨by decide, by decide⟩⟩
  refine ⟨((fdeventSet_filters_iff win32 win32Tracking).1 _ 0 3 rfl).mpr harmless.1, ?_⟩
  have installed : Trace (Guarded LoopStep Meets) (Loop.start select) [.install 0 100] _ :=
    .snoc .nil ⟨⟨by simp [Loop.setBy], by simp⟩, .install rfl (by simp [Loop.start])⟩
  have meets : Meets ((Loop.start select).fdeventInstall 0 100) (.set 0 3) := by
    refine ⟨?_, by simp⟩
    rintro address events ⟨⟩ ⟨⟩
  have meets' : Meets (((Loop.start select).fdeventInstall 0 100).fdeventSet 0 3)
      (.report 100 3) := by
    refine ⟨by simp [Loop.setBy], ?_⟩
    rintro fd events ⟨⟩
    decide
  have reported := (installed.guard (.set 0 3) meets).guard (.report select_reports) meets'
  refine (fdeventSet_filters_iff select selectTracking).2 _ _ _ _ reported (.set 0 3)
    ⟨?_, by simp⟩
  rintro address events ⟨⟩ -
  exact harmless.2

/-- Both platforms keep the `FDE_READ` that is not wanted any more, drop the `FDE_WRITE` that is,
and then call the function with the former. -/
theorem fdeventSet_keeps_unwanted :
    Reachable LoopStep (Loop.start win32) (Loop.reported win32) ∧
      Reachable LoopStep (Loop.start select) (Loop.reported select) ∧
      ((Loop.reported win32).fdevents 0).pending = true ∧
      ((Loop.reported select).fdevents 0).pending = true ∧
      (Loop.reported win32).setBy (.del 0 1) = some (0, 2) ∧
      (Loop.reported select).setBy (.del 0 1) = some (0, 2) ∧
      ¬Filters ((Loop.reported win32).fdevents 0)
        (((Loop.reported win32).fdeventDel 0 1).fdevents 0) 2 ∧
      ¬Filters ((Loop.reported select).fdevents 0)
        (((Loop.reported select).fdeventDel 0 1).fdevents 0) 2 ∧
      (((Loop.reported win32).fdeventDel 0 1).fdevents 0).wanted = fdeWrite ∧
      ((Loop.reported win32).fdeventDel 0 1).dispatch.map (fun call => (call.1, call.2.1)) =
        some (0, fdeRead) := by
  refine ⟨reachable_reported win32_reports, reachable_reported select_reports, rfl, rfl, ?_⟩
  decide

end FdEvent
end AdbWide
