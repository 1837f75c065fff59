import Mathlib.Data.Fintype.Basic
import Mathlib.Data.List.Infix
import Mathlib.Logic.Function.Basic

/-!
# The table of file descriptor events

`fd_table` has the `fdevent` of each file descriptor.  It is doubled when a file descriptor lies
behind its end, and what is new is to be cleared; how much is cleared is counted in `int`s, and the
entries are pointers.
-/

namespace AdbWide
namespace FdEvent
namespace Table

/-! ## The code -/

/-- How wide pointers are. -/
inductive Width where
  | four
  | eight
  deriving DecidableEq, Repr

/-- `sizeof(fdevent*)`. -/
def Width.bytes : Width → Nat
  | four => 4
  | eight => 8

/-- A pointer, byte by byte. -/
abbrev Pointer (width : Width) := Fin width.bytes → UInt8

/-- `NULL`. -/
def null (width : Width) : Pointer width := fun _ => 0

/-- The address of an `fdevent`. -/
abbrev Address (width : Width) := { pointer : Pointer width // pointer ≠ null width }

/-- The two implementations. -/
inductive Impl where
  | select
  | win32
  deriving DecidableEq, Repr

/-- The first file descriptor of the table: 0, or `WIN32_FH_BASE`. -/
def Impl.base : Impl → Int
  | select => 0
  | win32 => 100

variable {width : Width}

/-- The table, and what goes with it. -/
structure Fdevents (width : Width) where
  fdTable : Nat → Pointer width
  fdTableMax : Nat
  selectN : Nat
  /-- `fd` of the `fdevent`s with `FDE_ACTIVE`. -/
  active : Pointer width → Option Int
  /-- Not in the code: the `fdevent` that was installed last for an entry, until it is removed. -/
  registered : Nat → Option (Address width)

/-- Before anything is installed. -/
def start : Fdevents width where
  fdTable _ := null width
  fdTableMax := 0
  selectN := 0
  active _ := none
  registered _ := none

/-- The loop that doubles `fd_table_max`. -/
def doubled (fdTableMax fd : Nat) : Nat :=
  if 0 < fdTableMax ∧ fdTableMax ≤ fd then doubled (fdTableMax * 2) fd else fdTableMax
termination_by fd + 1 - fdTableMax

/-- `fd_table_max` after the table was made larger. -/
def newMax (fdTableMax fd : Nat) : Nat :=
  doubled (if fdTableMax = 0 then 256 else fdTableMax) fd

/-- `memset` of so many bytes to zero, from a byte of the table on. -/
def memset (table : Nat → Pointer width) (address count : Nat) : Nat → Pointer width :=
  fun i k =>
    if address ≤ width.bytes * i + k ∧ width.bytes * i + k < address + count then 0 else table i k

/-- The table after `realloc`, with what is in the new part of the memory. -/
def realloc (table fresh : Nat → Pointer width) (oldmax : Nat) : Nat → Pointer width :=
  fun i => if i < oldmax then table i else fresh i

/-- `fdevent_register`; `fresh` is what is in the memory from `realloc`, if there is any.  `none` is
`FATAL`. -/
def fdeventRegister (impl : Impl) (fresh : Option (Nat → Pointer width)) (fde : Address width)
    (fd : Int) (events : Fdevents width) : Option (Fdevents width) :=
  let i := (fd - impl.base).toNat
  if fd - impl.base < 0 then none
  else if events.fdTableMax ≤ i then
    if 32000 < fd then none
    else
      fresh.map fun fresh =>
        let oldmax := events.fdTableMax
        let fdTableMax := newMax oldmax i
        let fdTable := memset (realloc events.fdTable fresh oldmax) (width.bytes * oldmax)
          (4 * (fdTableMax - oldmax))
        { events with
          fdTable := Function.update fdTable i fde.val
          fdTableMax := fdTableMax
          registered := Function.update events.registered i (some fde) }
  else
    some { events with
      fdTable := Function.update events.fdTable i fde.val
      registered := Function.update events.registered i (some fde) }

/-- `fdevent_connect`; the hooks of Windows are not in the table. -/
def fdeventConnect (impl : Impl) (fd : Int) (events : Fdevents width) : Fdevents width :=
  match impl with
  | .select => { events with selectN := max events.selectN (fd.toNat + 1) }
  | .win32 => events

/-- `fdevent_disconnect`. -/
def fdeventDisconnect (impl : Impl) (events : Fdevents width) : Fdevents width :=
  match impl with
  | .select =>
      let n := (List.range events.selectN).foldl
        (fun n i => if events.fdTable i ≠ null width then i else n) 0
      { events with selectN := n + 1 }
  | .win32 => events

/-- `fdevent_unregister`. -/
def fdeventUnregister (impl : Impl) (fde : Address width) (fd : Int) (events : Fdevents width) :
    Option (Fdevents width) :=
  let i := (fd - impl.base).toNat
  if fd - impl.base < 0 ∨ events.fdTableMax ≤ i then none
  else if events.fdTable i ≠ fde.val then none
  else
    some { events with
      fdTable := Function.update events.fdTable i (null width)
      registered := Function.update events.registered i none }

/-- `fdevent_install`. -/
def fdeventInstall (impl : Impl) (fresh : Option (Nat → Pointer width)) (fde : Address width)
    (fd : Int) (events : Fdevents width) : Option (Fdevents width) :=
  let events := { events with active := Function.update events.active fde.val (some fd) }
  (fdeventRegister impl fresh fde fd events).map (fdeventConnect impl fd)

/-- `fdevent_remove`. -/
def fdeventRemove (impl : Impl) (fde : Address width) (events : Fdevents width) :
    Option (Fdevents width) :=
  match events.active fde.val with
  | none => some events
  | some fd =>
      (fdeventUnregister impl fde fd (fdeventDisconnect impl events)).map fun events =>
        { events with active := Function.update events.active fde.val none }

/-- A call. -/
inductive Action (width : Width) where
  | install (fresh : Option (Nat → Pointer width)) (fde : Address width) (fd : Int)
  | remove (fde : Address width)

/-- Make a call. -/
def next (impl : Impl) (events : Fdevents width) : Action width → Option (Fdevents width)
  | .install fresh fde fd => fdeventInstall impl fresh fde fd events
  | .remove fde => fdeventRemove impl fde events

/-- Make calls one after the other, up to the end or to `FATAL`. -/
def run (impl : Impl) (actions : List (Action width)) : Option (Fdevents width) :=
  actions.foldlM (next impl) start

/-! ## Tables that say what is registered -/

/-- The entries are what is registered, and `NULL` where there is nothing, and everything that is
registered is below `select_n`. -/
structure Sound (impl : Impl) (events : Fdevents width) : Prop where
  entry : ∀ i fde, events.registered i = some fde →
    i < events.fdTableMax ∧ events.fdTable i = fde.val
  empty : ∀ i < events.fdTableMax, events.registered i = none → events.fdTable i = null width
  below : impl = .select → ∀ i, events.registered i ≠ none → i < events.selectN

/-- Where the table is made larger, the bytes that `memset` leaves out are zero, but for the entry
that is written then. -/
def Clean (impl : Impl) (events : Fdevents width) : Action width → Prop
  | .install fresh _ fd => ∀ memory, fresh = some memory →
      events.fdTableMax ≤ (fd - impl.base).toNat → ∀ (i : Nat) (k : Fin width.bytes),
        events.fdTableMax ≤ i → i < newMax events.fdTableMax (fd - impl.base).toNat →
          i ≠ (fd - impl.base).toNat →
            width.bytes * events.fdTableMax +
                4 * (newMax events.fdTableMax (fd - impl.base).toNat - events.fdTableMax) ≤
              width.bytes * i + k →
                memory i k = 0
  | .remove _ => True

/-! ## Growing -/

theorem doubled_spec {fdTableMax : Nat} (positive : 0 < fdTableMax) (fd : Nat) :
    fdTableMax ≤ doubled fdTableMax fd ∧ fd < doubled fdTableMax fd := by
  induction fdTableMax using doubled.induct fd with
  | case1 fdTableMax more induction =>
      rw [doubled, if_pos more]
      have later := induction (by omega)
      omega
  | case2 fdTableMax enough =>
      rw [doubled, if_neg enough]
      omega

/-- The table becomes large enough. -/
theorem newMax_spec (fdTableMax fd : Nat) :
    fdTableMax ≤ newMax fdTableMax fd ∧ fd < newMax fdTableMax fd := by
  have positive : 0 < if fdTableMax = 0 then 256 else fdTableMax := by
    split <;> omega
  have atLeast : fdTableMax ≤ if fdTableMax = 0 then 256 else fdTableMax := by
    split <;> omega
  obtain ⟨larger, inside⟩ := doubled_spec positive fd
  exact ⟨atLeast.trans larger, inside⟩

section Growing

variable {table fresh : Nat → Pointer width} {oldmax newmax i : Nat}

/-- What was in the table stays there. -/
theorem memset_old (old : i < oldmax) (count : Nat) :
    memset (realloc table fresh oldmax) (width.bytes * oldmax) count i = table i := by
  funext k
  have before : width.bytes * i + k < width.bytes * oldmax :=
    calc
      width.bytes * i + k < width.bytes * i + width.bytes := Nat.add_lt_add_left k.isLt _
      _ = width.bytes * (i + 1) := (Nat.mul_succ _ _).symm
      _ ≤ width.bytes * oldmax := Nat.mul_le_mul_left _ old
  rw [memset, if_neg (by omega), realloc, if_pos old]

/-- What is new is `NULL` if and only if the bytes that are left out are zero. -/
theorem memset_new_iff (new : oldmax ≤ i) (count : Nat) :
    memset (realloc table fresh oldmax) (width.bytes * oldmax) count i = null width ↔
      ∀ k : Fin width.bytes,
        width.bytes * oldmax + count ≤ width.bytes * i + k → fresh i k = 0 := by
  have behind (k : Fin width.bytes) : width.bytes * oldmax ≤ width.bytes * i + k :=
    (Nat.mul_le_mul_left _ new).trans (Nat.le_add_right _ _)
  rw [funext_iff]
  refine forall_congr' fun k => ?_
  rw [memset]
  by_cases cleared : width.bytes * i + k < width.bytes * oldmax + count
  · rw [if_pos ⟨behind k, cleared⟩]
    exact iff_of_true rfl fun beyond => absurd beyond (by omega)
  · rw [if_neg fun both => cleared both.2, realloc, if_neg (by omega)]
    exact ⟨fun zero _ => zero, fun zero => zero (by omega)⟩

end Growing

/-! ## One call -/

/-- The last entry that is found is behind all others. -/
theorem le_foldl_last (found : Nat → Prop) [DecidablePred found] {count i : Nat}
    (inside : i < count) (holds : found i) :
    i ≤ (List.range count).foldl (fun n i => if found i then i else n) 0 := by
  induction count with
  | zero => exact absurd inside (Nat.not_lt_zero i)
  | succ count induction =>
      rw [List.range_succ, List.foldl_append, List.foldl_cons, List.foldl_nil]
      split
      · omega
      · next absent =>
          have different : i ≠ count := by
            rintro rfl
            exact absent holds
          exact induction (by omega)

/-- What holds whatever is in the memory from `realloc`. -/
structure Kept (impl : Impl) (events : Fdevents width) : Prop where
  entry : ∀ i fde, events.registered i = some fde →
    i < events.fdTableMax ∧ events.fdTable i = fde.val
  below : impl = .select → ∀ i, events.registered i ≠ none → i < events.selectN

section Calls

variable {impl : Impl} {events after : Fdevents width}

theorem Sound.kept (sound : Sound impl events) : Kept impl events := ⟨sound.entry, sound.below⟩

/-- What `fdevent_install` makes of the table: an entry is written, in a table that may have been
made larger. -/
theorem install_cases {fresh : Option (Nat → Pointer width)} {fde : Address width} {fd : Int}
    (ran : fdeventInstall impl fresh fde fd events = some after) :
    0 ≤ fd - impl.base ∧ ∃ fdTable fdTableMax, (fd - impl.base).toNat < fdTableMax ∧
      events.fdTableMax ≤ fdTableMax ∧
      (∀ i < events.fdTableMax, fdTable i = events.fdTable i) ∧
      (fdTableMax = events.fdTableMax ∨ ∃ memory, fresh = some memory ∧
        events.fdTableMax ≤ (fd - impl.base).toNat ∧
        fdTableMax = newMax events.fdTableMax (fd - impl.base).toNat ∧
        fdTable = memset (realloc events.fdTable memory events.fdTableMax)
          (width.bytes * events.fdTableMax) (4 * (fdTableMax - events.fdTableMax))) ∧
      after = fdeventConnect impl fd
        { fdTable := Function.update fdTable (fd - impl.base).toNat fde.val
          fdTableMax := fdTableMax
          selectN := events.selectN
          active := Function.update events.active fde.val (some fd)
          registered := Function.update events.registered (fd - impl.base).toNat (some fde) } := by
  obtain ⟨stored, registers, rfl⟩ := Option.map_eq_some_iff.mp ran
  rw [fdeventRegister] at registers
  dsimp only at registers
  split at registers
  · exact nomatch registers
  · next inRange =>
      refine ⟨by omega, ?_⟩
      split at registers
      · next behind =>
          split at registers
          · exact nomatch registers
          · obtain ⟨memory, fresh_eq, rfl⟩ := Option.map_eq_some_iff.mp registers
            obtain ⟨larger, room⟩ := newMax_spec events.fdTableMax (fd - impl.base).toNat
            exact ⟨_, _, room, larger, fun i old => memset_old old _,
              .inr ⟨memory, fresh_eq, behind, rfl, rfl⟩, rfl⟩
      · next inside =>
          obtain rfl := Option.some.inj registers
          exact ⟨_, _, by omega, Nat.le_refl _, fun i _ => rfl, .inl rfl, rfl⟩

@[simp] theorem fdTable_connect (fd : Int) :
    (fdeventConnect impl fd events).fdTable = events.fdTable := by
  cases impl <;> rfl

@[simp] theorem fdTableMax_connect (fd : Int) :
    (fdeventConnect impl fd events).fdTableMax = events.fdTableMax := by
  cases impl <;> rfl

@[simp] theorem registered_connect (fd : Int) :
    (fdeventConnect impl fd events).registered = events.registered := by
  cases impl <;> rfl

theorem Kept.install (kept : Kept impl events) {fresh : Option (Nat → Pointer width)}
    {fde : Address width} {fd : Int}
    (ran : fdeventInstall impl fresh fde fd events = some after) : Kept impl after := by
  obtain ⟨inRange, fdTable, fdTableMax, room, larger, same, -, rfl⟩ := install_cases ran
  constructor
  · intro i other found
    rw [registered_connect] at found
    rw [fdTable_connect, fdTableMax_connect]
    dsimp only at found ⊢
    rcases eq_or_ne i (fd - impl.base).toNat with rfl | different
    · rw [Function.update_self] at found ⊢
      exact ⟨room, congrArg Subtype.val (Option.some.inj found)⟩
    · rw [Function.update_of_ne different] at found ⊢
      obtain ⟨inside, entry⟩ := kept.entry i other found
      exact ⟨by omega, by rw [same i inside, entry]⟩
  · rintro rfl i found
    rw [registered_connect] at found
    dsimp only [fdeventConnect] at found ⊢
    rcases eq_or_ne i (fd - Impl.select.base).toNat with rfl | different
    · simp only [Impl.base]
      omega
    · rw [Function.update_of_ne different] at found
      have below := kept.below rfl i found
      omega

/-- What `fdevent_remove` makes of the table: nothing, or an entry is cleared. -/
theorem remove_cases {fde : Address width} (ran : fdeventRemove impl fde events = some after) :
    after = events ∨ ∃ fd, 0 ≤ fd - impl.base ∧
      (fd - impl.base).toNat < events.fdTableMax ∧
      after =
        { fdTable := Function.update events.fdTable (fd - impl.base).toNat (null width)
          fdTableMax := events.fdTableMax
          selectN := (fdeventDisconnect impl events).selectN
          active := Function.update events.active fde.val none
          registered := Function.update events.registered (fd - impl.base).toNat none } := by
  rw [fdeventRemove] at ran
  split at ran
  · exact .inl (Option.some.inj ran).symm
  · next fd active =>
      obtain ⟨cleared, unregisters, rfl⟩ := Option.map_eq_some_iff.mp ran
      have disconnected : fdeventDisconnect impl events =
          { events with selectN := (fdeventDisconnect impl events).selectN } := by
        cases impl <;> rfl
      rw [disconnected, fdeventUnregister] at unregisters
      dsimp only at unregisters
      split at unregisters
      · exact nomatch unregisters
      · next inRange =>
          split at unregisters
          · exact nomatch unregisters
          · obtain rfl := Option.some.inj unregisters
            exact .inr ⟨fd, by omega, by omega, rfl⟩

theorem Kept.remove (kept : Kept impl events) {fde : Address width}
    (ran : fdeventRemove impl fde events = some after) : Kept impl after := by
  obtain rfl | ⟨fd, inRange, inside, rfl⟩ := remove_cases ran
  · exact kept
  · constructor
    · intro i other found
      dsimp only at found ⊢
      rcases eq_or_ne i (fd - impl.base).toNat with rfl | different
      · rw [Function.update_self] at found
        exact nomatch found
      · rw [Function.update_of_ne different] at found ⊢
        exact kept.entry i other found
    · rintro rfl i found
      dsimp only at found ⊢
      rcases eq_or_ne i (fd - Impl.select.base).toNat with rfl | different
      · exact absurd (Function.update_self ..) found
      · rw [Function.update_of_ne different] at found
        obtain ⟨other, registered⟩ := Option.ne_none_iff_exists'.mp found
        have entry := (kept.entry i other registered).2
        have nonnull : events.fdTable i ≠ null width := entry ▸ other.property
        have last := le_foldl_last (fun i => events.fdTable i ≠ null width)
          (kept.below rfl i found) nonnull
        exact Nat.lt_succ_of_le last

theorem Kept.next (kept : Kept impl events) {action : Action width}
    (ran : next impl events action = some after) : Kept impl after := by
  cases action with
  | install fresh fde fd => exact kept.install ran
  | remove fde => exact kept.remove ran

/-- A place that is free after an entry was written is another one, and was free before. -/
theorem free_of_update {registered : Nat → Option (Address width)} {place i : Nat}
    {fde : Address width} (free : Function.update registered place (some fde) i = none) :
    i ≠ place ∧ registered i = none ∧
      ∀ table : Nat → Pointer width, Function.update table place fde.val i = table i := by
  have different : i ≠ place := by
    rintro rfl
    rw [Function.update_self] at free
    exact nomatch free
  rw [Function.update_of_ne different] at free
  exact ⟨different, free, fun table => Function.update_of_ne different ..⟩

/-- After a call the table is sound if and only if what was in the memory did no harm. -/
theorem Sound.next_iff (sound : Sound impl events) {action : Action width}
    (ran : next impl events action = some after) : Sound impl after ↔ Clean impl events action := by
  have kept := sound.kept.next ran
  cases action with
  | remove fde =>
      refine iff_of_true ⟨kept.entry, fun i inside none => ?_, kept.below⟩ trivial
      obtain rfl | ⟨fd, -, -, rfl⟩ := remove_cases ran
      · exact sound.empty i inside none
      · dsimp only at inside none ⊢
        rcases eq_or_ne i (fd - impl.base).toNat with rfl | different
        · exact Function.update_self ..
        · rw [Function.update_of_ne different] at none ⊢
          exact sound.empty i inside none
  | install fresh fde fd =>
      obtain ⟨-, fdTable, fdTableMax, room, larger, same, grown, rfl⟩ := install_cases ran
      obtain rfl | ⟨memory, rfl, behind, rfl, rfl⟩ := grown
      · refine iff_of_true ⟨kept.entry, fun i inside none => ?_, kept.below⟩
          fun memory _ behind => absurd room (Nat.not_lt.mpr behind)
        rw [fdTableMax_connect] at inside
        rw [registered_connect] at none
        obtain ⟨-, free, entry⟩ := free_of_update none
        rw [fdTable_connect]
        exact (entry _).trans ((same i inside).trans (sound.empty i inside free))
      · constructor
        · rintro ⟨-, empty, -⟩ other fresh_eq - j k new inside different
          obtain rfl := Option.some.inj fresh_eq
          have unregistered : events.registered j = none := by
            by_contra registered
            obtain ⟨holder, holds⟩ := Option.ne_none_iff_exists'.mp registered
            exact absurd (sound.entry j holder holds).1 (Nat.not_lt.mpr new)
          have cleared := empty j (by rwa [fdTableMax_connect])
            ((congrFun (registered_connect fd) j).trans
              ((Function.update_of_ne different ..).trans unregistered))
          rw [fdTable_connect] at cleared
          dsimp only at cleared
          rw [Function.update_of_ne different] at cleared
          exact (memset_new_iff new _).mp cleared k
        · intro clean
          refine ⟨kept.entry, fun i inside none => ?_, kept.below⟩
          rw [fdTableMax_connect] at inside
          rw [registered_connect] at none
          obtain ⟨different, free, entry⟩ := free_of_update none
          rw [fdTable_connect]
          refine (entry _).trans ?_
          by_cases old : i < events.fdTableMax
          · exact (same i old).trans (sound.empty i old free)
          · exact (memset_new_iff (by omega) _).mpr fun k =>
              clean memory rfl behind i k (by omega) inside different

end Calls

/-! ## Every run -/

section Runs

variable {impl : Impl}

theorem sound_start : Sound impl (start : Fdevents width) where
  entry _ _ registered := nomatch registered
  empty _ inside := absurd inside (Nat.not_lt_zero _)
  below _ _ registered := absurd rfl registered

theorem run_concat (actions : List (Action width)) (action : Action width) :
    run impl (actions ++ [action]) =
      (run impl actions).bind fun events => next impl events action := by
  rw [run, List.foldlM_append]
  refine congrArg _ (funext fun events => ?_)
  simp

/-- The table is sound after every call if and only if no growth leaves a byte in it that is not
zero. -/
theorem sound_iff_clean (actions : List (Action width)) :
    (∀ front, front <+: actions → ∀ events, run impl front = some events → Sound impl events) ↔
      ∀ front action, front ++ [action] <+: actions → ∀ events after,
        run impl front = some events → next impl events action = some after →
          Clean impl events action := by
  constructor
  · intro sound front action inside events after ran goes
    have before := sound front ((List.prefix_append _ _).trans inside) events ran
    have reached : run impl (front ++ [action]) = some after := by rw [run_concat, ran]; exact goes
    exact (before.next_iff goes).mp (sound _ inside after reached)
  · intro clean front
    induction front using List.reverseRecOn with
    | nil =>
        intro _ events ran
        obtain rfl := Option.some.inj ran
        exact sound_start
    | append_singleton front action induction =>
        intro inside after ran
        rw [run_concat] at ran
        obtain ⟨events, ran, goes⟩ := Option.bind_eq_some_iff.mp ran
        have before := induction ((List.prefix_append _ _).trans inside) events ran
        exact (before.next_iff goes).mpr (clean front action inside events after ran goes)

/-- With pointers of four bytes every growth clears all that is new. -/
theorem clean_four (events : Fdevents .four) (action : Action .four) :
    Clean impl events action := by
  cases action with
  | remove fde => trivial
  | install fresh fde fd =>
      intro memory _ behind j k new inside different beyond
      have bytes : (k : Nat) < 4 := k.isLt
      change 4 * _ + 4 * _ ≤ 4 * _ + _ at beyond
      omega

/-- The address of an `fdevent`. -/
def sampleFde : Address .eight := ⟨fun _ => 1, fun zero => nomatch congrFun zero (0 : Fin 8)⟩

/-- Pointers of eight bytes, and memory that is full of ones. -/
theorem not_sound_eight : ¬∀ front, front <+: [Action.install (some fun _ _ => 1) sampleFde 0] →
    ∀ events, run .select front = some events → Sound .select events := by
  intro sound
  have after := sound _ (List.prefix_refl _) _ rfl
  have clean := (@Sound.next_iff .eight .select start _ sound_start
    (.install (some fun _ _ => 1) sampleFde 0) rfl).mp after
  have large : newMax 0 0 = 256 := by
    rw [newMax, if_pos rfl, doubled, if_neg (by decide)]
  have leftOut : 8 * 0 + 4 * (newMax 0 0 - 0) ≤ 8 * 200 + 0 := by omega
  have zero := clean _ rfl (Nat.le_refl 0) 200 (0 : Fin 8) (Nat.zero_le _)
    (show 200 < newMax 0 0 by omega) (by decide) leftOut
  exact nomatch zero

end Runs

end Table
end FdEvent
end AdbWide
