import Mathlib.Data.List.Basic
import Mathlib.Logic.Function.Basic
import AdbWide.Execution

/-!
# The life of one transport

A transport is kicked to make its two threads give up, and is closed and handed to the main loop
for freeing when its reference count drops to zero.  Its count starts at two, one for each thread;
the functions that unregister a transport drop a reference as well.

Threads are lists of instructions, one for each critical section of `transport_lock` and for each
access to the transport outside of it.
-/

namespace AdbWide
namespace Transport

/-- The reference count and the kick mark of a transport, with a count of the calls made. -/
structure Life where
  refCount : Int
  kicked : Bool
  /-- Calls of `t->kick`. -/
  kickCalls : Nat
  /-- Calls of `t->close`. -/
  closeCalls : Nat
  /-- Removal messages sent. -/
  removals : Nat
  deriving DecidableEq, Repr

/-- What a thread does with a transport without being interrupted. -/
inductive Instr where
  /-- Any other use of the transport. -/
  | access
  /-- `if (t && !t->kicked)` of `kick_transport`, without the lock. -/
  | kickTest
  /-- The critical section of `kick_transport`. -/
  | kickClaim
  /-- `t->kick(t)` of `kick_transport`, after the lock has been given back. -/
  | kickInvoke
  /-- `transport_unref`. -/
  | unref
  /-- The critical section of `unregister_transport`. -/
  | unlink
  /-- The turn of the loop of `unregister_all_tcp_transports` that is about this transport. -/
  | lockedUnregister
  /-- The turn of the loop of `close_usb_devices` that is about this transport. -/
  | lockedKick
  deriving DecidableEq, Repr

namespace Life

/-- A transport with the given reference count that nobody has touched. -/
def fresh (refCount : Int) : Life where
  refCount := refCount
  kicked := false
  kickCalls := 0
  closeCalls := 0
  removals := 0

/-- `if (!t->kicked) { t->kicked = 1; t->kick(t); }`, under the lock. -/
def kickLocked (life : Life) : Life :=
  if life.kicked then life
  else { life with kicked := true, kickCalls := life.kickCalls + 1 }

@[simp] theorem refCount_kickLocked (life : Life) :
    life.kickLocked.refCount = life.refCount := by
  unfold kickLocked
  split <;> rfl

@[simp] theorem closeCalls_kickLocked (life : Life) :
    life.kickLocked.closeCalls = life.closeCalls := by
  unfold kickLocked
  split <;> rfl

@[simp] theorem removals_kickLocked (life : Life) :
    life.kickLocked.removals = life.removals := by
  unfold kickLocked
  split <;> rfl

/-- `transport_unref_locked`. -/
def transportUnrefLocked (life : Life) : Life :=
  let life := { life with refCount := life.refCount - 1 }
  if life.refCount = 0 then
    let life := life.kickLocked
    { life with closeCalls := life.closeCalls + 1, removals := life.removals + 1 }
  else
    life

/-- Run one instruction.  The second part is what it makes its thread do next. -/
def exec (life : Life) : Instr → Life × List Instr
  | .access | .unlink => (life, [])
  | .kickTest => (life, if life.kicked then [] else [.kickClaim])
  | .kickClaim =>
      if life.kicked then (life, [])
      else ({ life with kicked := true }, [.kickInvoke])
  | .kickInvoke => ({ life with kickCalls := life.kickCalls + 1 }, [])
  | .unref => (life.transportUnrefLocked, [])
  | .lockedUnregister => (life.kickLocked.transportUnrefLocked, [])
  | .lockedKick => (life.kickLocked, [])

end Life

/-- The functions of `transport.cpp` that kick, close or drop a transport. -/
inductive Routine where
  | kickTransport
  | transportUnref
  | unregisterTransport
  | unregisterAllTcpTransports
  | closeUsbDevices
  deriving DecidableEq, Repr

/-- What the calling thread does. -/
def Routine.body : Routine → List Instr
  | .kickTransport => [.kickTest]
  | .transportUnref => [.unref]
  | .unregisterTransport => [.unlink, .kickTest, .unref]
  | .unregisterAllTcpTransports => [.lockedUnregister]
  | .closeUsbDevices => [.lockedKick]

/-- A transport and what each thread has still to do with it. -/
structure System (ι : Type) where
  life : Life
  program : ι → List Instr

variable {ι : Type}

/-- A thread calls one of the routines, or runs one instruction. -/
inductive Move (ι : Type) where
  | call (thread : ι) (routine : Routine)
  | run (thread : ι) (instr : Instr)

/-- One move of some thread; `may` says who calls what. -/
inductive LifeStep [DecidableEq ι] (may : ι → Routine → Prop) :
    System ι → Move ι → System ι → Prop where
  | call {system : System ι} (thread : ι) (routine : Routine) :
      system.program thread = [] → may thread routine →
      LifeStep may system (.call thread routine)
        { system with
          program := Function.update system.program thread routine.body }
  | run {system : System ι} (thread : ι) (instr : Instr) (rest : List Instr) :
      system.program thread = instr :: rest →
      LifeStep may system (.run thread instr)
        { life := (system.life.exec instr).1
          program := Function.update system.program thread
            ((system.life.exec instr).2 ++ rest) }

/-! ## Kicked and closed at most once -/

/-- How far the kick has come: not claimed, claimed by a thread that has not made the call yet, or
made. -/
inductive KickState (system : System ι) : Prop where
  | unclaimed :
      system.life.kicked = false → system.life.kickCalls = 0 →
      (∀ thread, .kickInvoke ∉ system.program thread) → KickState system
  | claimed (claimant : ι) {rest : List Instr} :
      system.life.kicked = true → system.life.kickCalls = 0 →
      system.program claimant = .kickInvoke :: rest → .kickInvoke ∉ rest →
      (∀ thread, thread ≠ claimant → .kickInvoke ∉ system.program thread) → KickState system
  | made :
      system.life.kicked = true → system.life.kickCalls = 1 →
      (∀ thread, .kickInvoke ∉ system.program thread) → KickState system

/-- The close is made with the count at zero, and the count never rises. -/
def ClosedOnce (life : Life) : Prop :=
  life.closeCalls = 0 ∨ life.closeCalls = 1 ∧ life.refCount ≤ 0

theorem not_mem_update [DecidableEq ι] {program : ι → List Instr} {thread : ι} {instrs : List Instr}
    (absent : ∀ other, .kickInvoke ∉ program other) (absent' : .kickInvoke ∉ instrs) (other : ι) :
    .kickInvoke ∉ Function.update program thread instrs other := by
  rcases eq_or_ne other thread with rfl | different
  · simpa using absent'
  · simpa [different] using absent other

/-- A thread that is not about to make the claimed call goes on, and the kick is left alone. -/
theorem KickState.goOn [DecidableEq ι] {system : System ι} {life : Life} {thread : ι}
    {instrs : List Instr}
    (state : KickState system) (kicked_eq : life.kicked = system.life.kicked)
    (calls_eq : life.kickCalls = system.life.kickCalls)
    (elsewhere : ∀ rest, system.program thread ≠ .kickInvoke :: rest)
    (absent : .kickInvoke ∉ system.program thread → .kickInvoke ∉ instrs) :
    KickState { life, program := Function.update system.program thread instrs } := by
  cases state with
  | unclaimed kicked calls nobody =>
      exact .unclaimed (kicked_eq.trans kicked) (calls_eq.trans calls)
        (not_mem_update nobody (absent (nobody thread)))
  | claimed claimant kicked calls program_eq rest_absent nobody =>
      have different : thread ≠ claimant := by
        rintro rfl
        exact elsewhere _ program_eq
      refine .claimed claimant (kicked_eq.trans kicked) (calls_eq.trans calls)
        (by simpa [different.symm] using program_eq) rest_absent ?_
      intro other other_ne
      rcases eq_or_ne other thread with rfl | unmoved
      · simpa using absent (nobody other other_ne)
      · simpa [unmoved] using nobody other other_ne
  | made kicked calls nobody =>
      exact .made (kicked_eq.trans kicked) (calls_eq.trans calls)
        (not_mem_update nobody (absent (nobody thread)))

/-- A kick made under the lock finds it unclaimed, or leaves it alone. -/
theorem KickState.locked {system : System ι} (state : KickState system) :
    KickState { system with life := system.life.kickLocked } := by
  cases state with
  | unclaimed kicked calls nobody =>
      exact .made (by simp [Life.kickLocked, kicked]) (by simp [Life.kickLocked, kicked, calls])
        nobody
  | claimed claimant kicked calls program_eq rest_absent nobody =>
      rw [show system.life.kickLocked = system.life by simp [Life.kickLocked, kicked]]
      exact .claimed claimant kicked calls program_eq rest_absent nobody
  | made kicked calls nobody =>
      rw [show system.life.kickLocked = system.life by simp [Life.kickLocked, kicked]]
      exact .made kicked calls nobody

/-- Only the kick mark and the number of kicks matter. -/
theorem KickState.congr {system : System ι} {life : Life} (state : KickState system)
    (kicked_eq : life.kicked = system.life.kicked)
    (calls_eq : life.kickCalls = system.life.kickCalls) : KickState { system with life } := by
  cases state with
  | unclaimed kicked calls nobody =>
      exact .unclaimed (kicked_eq.trans kicked) (calls_eq.trans calls) nobody
  | claimed claimant kicked calls program_eq rest_absent nobody =>
      exact .claimed claimant (kicked_eq.trans kicked) (calls_eq.trans calls) program_eq
        rest_absent nobody
  | made kicked calls nobody =>
      exact .made (kicked_eq.trans kicked) (calls_eq.trans calls) nobody

theorem KickState.unref {system : System ι} (state : KickState system) :
    KickState { system with life := system.life.transportUnrefLocked } := by
  simp only [Life.transportUnrefLocked]
  split
  · have counted : KickState
        { system with life := { system.life with refCount := system.life.refCount - 1 } } :=
      state.congr rfl rfl
    exact counted.locked.congr rfl rfl
  · exact state.congr rfl rfl

section Steps

variable [DecidableEq ι] {may : ι → Routine → Prop}

/-- A thread is done with an instruction other than the claimed call. -/
theorem KickState.advance {system : System ι} {thread : ι} {instr : Instr} {rest : List Instr}
    (more : List Instr) (state : KickState system)
    (program_eq : system.program thread = instr :: rest) (other : instr ≠ .kickInvoke)
    (absent : .kickInvoke ∉ more) :
    KickState
      { system with program := Function.update system.program thread (more ++ rest) } := by
  refine state.goOn rfl rfl (by simp [program_eq, other]) ?_
  intro absent'
  rw [program_eq, List.mem_cons, not_or] at absent'
  simp [absent, absent'.2]

theorem KickState.claim {system : System ι} {thread : ι} {rest : List Instr}
    (state : KickState system) (program_eq : system.program thread = .kickClaim :: rest)
    (unkicked : system.life.kicked = false) :
    KickState
      { life := { system.life with kicked := true }
        program := Function.update system.program thread (.kickInvoke :: rest) } := by
  cases state with
  | unclaimed kicked calls nobody =>
      refine .claimed thread rfl calls (Function.update_self ..) ?_ ?_
      · intro member
        exact nobody thread (by simp [program_eq, member])
      · intro other different
        simpa [different] using nobody other
  | claimed claimant kicked => simp [unkicked] at kicked
  | made kicked => simp [unkicked] at kicked

theorem KickState.invoke {system : System ι} {thread : ι} {rest : List Instr}
    (state : KickState system) (program_eq : system.program thread = .kickInvoke :: rest) :
    KickState
      { life := { system.life with kickCalls := system.life.kickCalls + 1 }
        program := Function.update system.program thread rest } := by
  cases state with
  | unclaimed kicked calls nobody => exact absurd (nobody thread) (by simp [program_eq])
  | claimed claimant kicked calls claimant_eq rest_absent nobody =>
      have same : thread = claimant := by
        by_contra different
        exact nobody thread different (by simp [program_eq])
      subst same
      rw [program_eq] at claimant_eq
      cases claimant_eq
      refine .made kicked (by simp [calls]) ?_
      intro other
      rcases eq_or_ne other thread with rfl | different
      · simpa using rest_absent
      · simpa [different] using nobody other different
  | made kicked calls nobody => exact absurd (nobody thread) (by simp [program_eq])

theorem LifeStep.kickState {before after : System ι} {move : Move ι} (state : KickState before)
    (step : LifeStep may before move after) : KickState after := by
  cases step with
  | call thread routine idle =>
      refine state.goOn rfl rfl (by simp [idle]) (fun _ => ?_)
      cases routine <;> decide
  | run thread instr rest program_eq =>
      cases instr with
      | access => exact state.advance [] program_eq (by simp) (by simp)
      | unlink => exact state.advance [] program_eq (by simp) (by simp)
      | kickTest =>
          apply state.advance _ program_eq (by simp)
          simp only [Life.exec]
          split
          · simp
          · simp
      | kickClaim =>
          cases kicked : before.life.kicked with
          | true =>
              simp only [Life.exec, kicked, if_true]
              exact state.advance [] program_eq (by simp) (by simp)
          | false =>
              simp only [Life.exec, kicked]
              exact state.claim program_eq kicked
      | kickInvoke => exact state.invoke program_eq
      | unref => exact (state.advance [] program_eq (by simp) (by simp)).unref
      | lockedUnregister =>
          exact (state.advance [] program_eq (by simp) (by simp)).locked.unref
      | lockedKick => exact (state.advance [] program_eq (by simp) (by simp)).locked

end Steps

theorem KickState.calls_le {system : System ι} (state : KickState system) :
    system.life.kickCalls ≤ 1 := by
  cases state with
  | unclaimed _ calls => simp [calls]
  | claimed _ _ calls => simp [calls]
  | made _ calls => simp [calls]

theorem ClosedOnce.kickLocked {life : Life} (once : ClosedOnce life) :
    ClosedOnce life.kickLocked := by
  unfold Life.kickLocked
  split
  · exact once
  · exact once

theorem ClosedOnce.transportUnrefLocked {life : Life} (once : ClosedOnce life) :
    ClosedOnce life.transportUnrefLocked := by
  simp only [Life.transportUnrefLocked]
  rcases once with none_yet | ⟨closed, dropped⟩
  · split
    case isTrue zero => exact .inr ⟨by simp [none_yet], by simp [zero]⟩
    case isFalse => exact .inl none_yet
  · rw [if_neg (by omega)]
    exact .inr ⟨closed, by simp only; omega⟩

theorem LifeStep.closedOnce [DecidableEq ι] {may : ι → Routine → Prop} {before after : System ι}
    {move : Move ι} (once : ClosedOnce before.life) (step : LifeStep may before move after) :
    ClosedOnce after.life := by
  cases step with
  | call => exact once
  | run thread instr rest program_eq =>
      cases instr with
      | access | unlink | kickTest | kickInvoke => exact once
      | kickClaim =>
          simp only [Life.exec]
          split
          · exact once
          · exact once
      | unref => exact once.transportUnrefLocked
      | lockedUnregister => exact once.kickLocked.transportUnrefLocked
      | lockedKick => exact once.kickLocked

/-- A transport that no thread is busy with. -/
def System.start (ι : Type) (refCount : Int) : System ι where
  life := .fresh refCount
  program := fun _ => []

/-- However the calls of any number of threads interleave, the transport is kicked at most once and
closed at most once. -/
theorem kick_close_at_most_once [DecidableEq ι] {refCount : Int} {moves : List (Move ι)}
    {system : System ι}
    (run : Trace (LifeStep fun _ _ => True) (System.start ι refCount) moves system) :
    system.life.kickCalls ≤ 1 ∧ system.life.closeCalls ≤ 1 := by
  have invariant : KickState system ∧ ClosedOnce system.life := by
    refine run.invariant (fun system => KickState system ∧ ClosedOnce system.life) ?_ ?_
    · exact ⟨.unclaimed rfl rfl (by simp [System.start]), .inl rfl⟩
    · rintro before move after ⟨state, once⟩ step
      exact ⟨step.kickState state, step.closedOnce once⟩
  constructor
  · exact invariant.1.calls_le
  · rcases invariant.2 with none_yet | ⟨closed, _⟩
    · simp [none_yet]
    · simp [closed]

/-- One thread claims the kick, another drops the last reference before the first one makes the
call. -/
theorem kick_close_at_most_once_claimed :
    ∃ moves system,
      Trace (LifeStep fun _ _ => True) (System.start Bool 1) moves system ∧
        system.life.kickCalls = 1 ∧ system.life.closeCalls = 1 ∧
        system.life.kickCalls ≤ 1 ∧ system.life.closeCalls ≤ 1 := by
  have run₀ : Trace (LifeStep fun _ _ => True) (System.start Bool 1) [] _ := .nil
  have run₁ := run₀.snoc (.call true .kickTransport rfl trivial)
  have run₂ := run₁.snoc (.call false .transportUnref rfl trivial)
  have run₃ := run₂.snoc (.run true .kickTest _ rfl)
  have run₄ := run₃.snoc (.run true .kickClaim _ rfl)
  have run₅ := run₄.snoc (.run false .unref _ rfl)
  have run₆ := run₅.snoc (.run true .kickInvoke _ rfl)
  exact ⟨_, _, run₆, rfl, rfl, kick_close_at_most_once run₆⟩

/-! ## The two threads and a disconnect -/

/-- Who uses a transport that has been registered. -/
inductive Party where
  | output
  | input
  /-- The main loop, which also serves `disconnect:` requests. -/
  | main
  deriving DecidableEq, Repr

/-- The main loop unregisters transports; the two threads only do what they are there for. -/
def Party.May : Party → Routine → Prop
  | .main, .unregisterTransport | .main, .unregisterAllTcpTransports => True
  | _, _ => False

/-- `output_thread` and `input_thread`: some number of uses of the transport, and the exit. -/
def threadBody (uses : Nat) : List Instr :=
  List.replicate uses .access ++ [.kickTest, .unref]

/-- Registration has just started the two threads: `t->ref_count = 2`. -/
def System.running (outputUses inputUses : Nat) : System Party where
  life := .fresh 2
  program
    | .output => threadBody outputUses
    | .input => threadBody inputUses
    | .main => []

/-- The removal is asked for at most once and after both threads are through with the transport,
and the transport is not closed before it was kicked. -/
structure SafeLife (system : System Party) : Prop where
  removed_once : system.life.removals ≤ 1
  threads_done : system.life.removals ≠ 0 →
    system.program .output = [] ∧ system.program .input = []
  kicked_first : system.life.closeCalls ≠ 0 → system.life.kickCalls ≠ 0

/-- A disconnect drops its reference after both threads have dropped theirs, and the second thread
does not drop its own while a disconnect has claimed the kick and not yet made it. -/
def DropsInOrder (system : System Party) : Move Party → Prop
  | .run .main .unref | .run .main .lockedUnregister =>
      system.program .output = [] ∧ system.program .input = []
  | .run .output .unref => .kickInvoke ∈ system.program .main → system.program .input ≠ []
  | .run .input .unref => .kickInvoke ∈ system.program .main → system.program .output ≠ []
  | _ => True

/-- The references a thread with this program still holds. -/
def heldRefs : List Instr → Int
  | [] => 0
  | _ :: _ => 1

/-- What the counts say, given what the two threads have still to do. -/
inductive Counted (life : Life) (left right : List Instr) : Prop where
  | held :
      life.refCount = heldRefs left + heldRefs right → left ≠ [] ∨ right ≠ [] →
      life.closeCalls = 0 → life.removals = 0 → Counted life left right
  | dropped :
      left = [] → right = [] → life.refCount ≤ 0 → life.closeCalls = 1 → life.removals = 1 →
      life.kickCalls = 1 → Counted life left right

/-- An instruction that changes neither the count nor anything that hangs on it. -/
def Instr.Keeps (instr : Instr) : Prop :=
  instr ≠ .unref ∧ instr ≠ .lockedUnregister

/-- A thread has still to drop its reference, as its very last instruction, or has done so. -/
def Exiting (program : List Instr) : Prop :=
  program = [] ∨ ∃ front, program = front ++ [.unref] ∧ ∀ instr ∈ front, instr.Keeps

theorem Counted.symm {life : Life} {left right : List Instr} (counted : Counted life left right) :
    Counted life right left := by
  cases counted with
  | held count unfinished closes removals =>
      exact .held (by rw [count, Int.add_comm]) unfinished.symm closes removals
  | dropped left_eq right_eq count closes removals kicks =>
      exact .dropped right_eq left_eq count closes removals kicks

theorem heldRefs_of_ne {program : List Instr} (unfinished : program ≠ []) :
    heldRefs program = 1 := by
  cases program with
  | nil => exact absurd rfl unfinished
  | cons => rfl

theorem exiting_threadBody (uses : Nat) : Exiting (threadBody uses) := by
  refine .inr ⟨List.replicate uses .access ++ [.kickTest], by simp [threadBody], ?_⟩
  intro instr member
  rcases List.mem_append.mp member with use | test
  · simp [List.eq_of_mem_replicate use, Instr.Keeps]
  · simp [List.mem_singleton.mp test, Instr.Keeps]

/-- Neither count is touched by an instruction that keeps them. -/
theorem exec_keeps (life : Life) {instr : Instr} (keeps : instr.Keeps) :
    (life.exec instr).1.refCount = life.refCount ∧
      (life.exec instr).1.closeCalls = life.closeCalls ∧
        (life.exec instr).1.removals = life.removals ∧
          ∀ more ∈ (life.exec instr).2, more.Keeps := by
  cases instr with
  | access | unlink | kickInvoke | lockedKick => simp [Life.exec]
  | kickTest =>
      simp only [Life.exec]
      split
      · simp
      · simp [Instr.Keeps]
  | kickClaim =>
      simp only [Life.exec]
      split
      · simp
      · simp [Instr.Keeps]
  | unref => exact absurd rfl keeps.1
  | lockedUnregister => exact absurd rfl keeps.2

theorem kickCalls_le_exec (life : Life) (instr : Instr) :
    life.kickCalls ≤ (life.exec instr).1.kickCalls := by
  have locked : ∀ life : Life, life.kickCalls ≤ life.kickLocked.kickCalls := by
    intro life
    unfold Life.kickLocked
    split
    · exact Nat.le_refl _
    · exact Nat.le_succ _
  have unref : ∀ life : Life, life.kickCalls ≤ life.transportUnrefLocked.kickCalls := by
    intro life
    simp only [Life.transportUnrefLocked]
    split
    · exact locked { life with refCount := life.refCount - 1 }
    · exact Nat.le_refl _
  cases instr with
  | access | unlink | kickTest => exact Nat.le_refl _
  | kickInvoke => exact Nat.le_succ _
  | kickClaim =>
      simp only [Life.exec]
      split
      · exact Nat.le_refl _
      · exact Nat.le_refl _
  | unref => exact unref life
  | lockedUnregister => exact Nat.le_trans (locked life) (unref life.kickLocked)
  | lockedKick => exact locked life

/-- One of the two threads runs an instruction. -/
theorem Counted.thread {life : Life} {instr : Instr} {rest other : List Instr}
    (counted : Counted life (instr :: rest) other) (exiting : Exiting (instr :: rest))
    (kicked : instr = .unref → other = [] → (life.exec instr).1.kickCalls = 1) :
    Counted (life.exec instr).1 ((life.exec instr).2 ++ rest) other ∧
      Exiting ((life.exec instr).2 ++ rest) := by
  obtain ⟨count, closes, removals⟩ :
      life.refCount = 1 + heldRefs other ∧ life.closeCalls = 0 ∧ life.removals = 0 := by
    cases counted with
    | held count _ closes removals => exact ⟨count, closes, removals⟩
    | dropped left_eq => simp at left_eq
  rcases exiting with empty | ⟨front, program_eq, keeps⟩
  · simp at empty
  · cases front with
    | nil =>
        obtain ⟨rfl, rfl⟩ := List.cons.inj program_eq
        refine ⟨?_, .inl rfl⟩
        cases other with
        | nil =>
            have zero : life.refCount - 1 = 0 := by
              rw [count]
              rfl
            apply Counted.dropped rfl rfl
            · simp [Life.exec, Life.transportUnrefLocked, zero]
            · simp [Life.exec, Life.transportUnrefLocked, zero, closes]
            · simp [Life.exec, Life.transportUnrefLocked, zero, removals]
            · exact kicked rfl rfl
        | cons next other =>
            have one : life.refCount - 1 = 1 := by
              rw [count]
              rfl
            apply Counted.held
            · simp [Life.exec, Life.transportUnrefLocked, one, heldRefs]
            · simp
            · simp [Life.exec, Life.transportUnrefLocked, one, closes]
            · simp [Life.exec, Life.transportUnrefLocked, one, removals]
    | cons first front =>
        rw [List.cons_append, List.cons.injEq] at program_eq
        obtain ⟨rfl, rfl⟩ := program_eq
        obtain ⟨count_eq, closes_eq, removals_eq, more_keep⟩ :=
          exec_keeps life (keeps instr List.mem_cons_self)
        have unfinished : (life.exec instr).2 ++ (front ++ [.unref]) ≠ [] := by simp
        constructor
        · apply Counted.held
          · rw [count_eq, count, heldRefs_of_ne unfinished]
          · exact .inl unfinished
          · rw [closes_eq, closes]
          · rw [removals_eq, removals]
        · refine .inr ⟨(life.exec instr).2 ++ front, by simp, ?_⟩
          intro next member
          rcases List.mem_append.mp member with more | later
          · exact more_keep next more
          · exact keeps next (List.mem_cons_of_mem _ later)

/-- The main loop runs an instruction: it drops a reference only when there is none left. -/
theorem Counted.main {life : Life} {instr : Instr} {left right : List Instr}
    (counted : Counted life left right) (kicks_le : (life.exec instr).1.kickCalls ≤ 1)
    (ordered : ¬instr.Keeps → left = [] ∧ right = []) :
    Counted (life.exec instr).1 left right := by
  have kicks_ge := kickCalls_le_exec life instr
  by_cases keeps : instr.Keeps
  · obtain ⟨count_eq, closes_eq, removals_eq, _⟩ := exec_keeps life keeps
    cases counted with
    | held count unfinished closes removals =>
        exact .held (by rw [count_eq, count]) unfinished (by rw [closes_eq, closes])
          (by rw [removals_eq, removals])
    | dropped left_eq right_eq count closes removals kicks =>
        exact .dropped left_eq right_eq (by rw [count_eq]; exact count) (by rw [closes_eq, closes])
          (by rw [removals_eq, removals]) (by omega)
  · obtain ⟨rfl, rfl⟩ := ordered keeps
    cases counted with
    | held _ unfinished => simp at unfinished
    | dropped _ _ count closes removals kicks =>
        have not_zero : life.refCount - 1 ≠ 0 := by omega
        have drops : instr = .unref ∨ instr = .lockedUnregister := by
          simp only [Instr.Keeps, not_and_or, not_not] at keeps
          exact keeps
        rcases drops with rfl | rfl
        · apply Counted.dropped rfl rfl
          · simp [Life.exec, Life.transportUnrefLocked, not_zero]
            omega
          · simp [Life.exec, Life.transportUnrefLocked, not_zero, closes]
          · simp [Life.exec, Life.transportUnrefLocked, not_zero, removals]
          · omega
        · apply Counted.dropped rfl rfl
          · simp [Life.exec, Life.transportUnrefLocked, not_zero]
            omega
          · simp [Life.exec, Life.transportUnrefLocked, not_zero, closes]
          · simp [Life.exec, Life.transportUnrefLocked, not_zero, removals]
          · omega

/-- What holds in every state of a run whose references are dropped in order. -/
structure Orderly (system : System Party) : Prop where
  kick : KickState system
  counted : Counted system.life (system.program .output) (system.program .input)
  output : Exiting (system.program .output)
  input : Exiting (system.program .input)

theorem orderly_running (outputUses inputUses : Nat) :
    Orderly (System.running outputUses inputUses) where
  kick := by
    refine .unclaimed rfl rfl ?_
    intro party
    cases party with
    | output | input => simp [System.running, threadBody, List.mem_replicate]
    | main => simp [System.running]
  counted := by
    have unfinished : ∀ uses, threadBody uses ≠ [] := by simp [threadBody]
    refine .held ?_ (.inl (unfinished _)) rfl rfl
    rw [System.running, heldRefs_of_ne (unfinished _), heldRefs_of_ne (unfinished _)]
    rfl
  output := exiting_threadBody outputUses
  input := exiting_threadBody inputUses

/-- When the last reference goes with nobody in the middle of a kick, the kick has been made. -/
theorem KickState.made_of_closing {system : System Party} (state : KickState system)
    (kicked : system.life.kicked = true)
    (nobody : ∀ party, .kickInvoke ∉ system.program party) : system.life.kickCalls = 1 := by
  cases state with
  | unclaimed unkicked => simp [kicked] at unkicked
  | claimed claimant _ _ program_eq => exact absurd (nobody claimant) (by simp [program_eq])
  | made _ calls => exact calls

theorem Exiting.unref_last {rest : List Instr} (exiting : Exiting (.unref :: rest)) :
    rest = [] := by
  rcases exiting with empty | ⟨front, program_eq, keeps⟩
  · simp at empty
  · cases front with
    | nil => exact (List.cons.inj program_eq).2
    | cons first front =>
        have first_keeps := keeps first List.mem_cons_self
        exact absurd (List.cons.inj program_eq).1.symm first_keeps.1

/-- The reference dropped while the other thread holds none is the last: the transport is marked as
kicked if it was not before. -/
theorem Counted.kicked_of_last {life : Life} {rest : List Instr}
    (counted : Counted life (.unref :: rest) []) : life.transportUnrefLocked.kicked = true := by
  cases counted with
  | held count =>
      have zero : life.refCount - 1 = 0 := by
        rw [count]
        rfl
      simp only [Life.transportUnrefLocked, zero, if_true, Life.kickLocked]
      split
      case isTrue kicked => exact kicked
      case isFalse => rfl
  | dropped left_eq => simp at left_eq

theorem LifeStep.orderly {before after : System Party} {move : Move Party}
    (orderly : Orderly before) (ordered : DropsInOrder before move)
    (step : LifeStep Party.May before move after) : Orderly after := by
  have kick := step.kickState orderly.kick
  cases step with
  | call thread routine idle may =>
      cases thread with
      | output | input => exact may.elim
      | main => exact ⟨kick, orderly.counted, orderly.output, orderly.input⟩
  | run thread instr rest program_eq =>
      cases thread with
      | output =>
          have counted := orderly.counted
          have exiting := orderly.output
          rw [program_eq] at counted exiting
          obtain ⟨counted', exiting'⟩ := counted.thread exiting (by
            rintro rfl other_done
            rw [other_done] at counted
            apply kick.made_of_closing counted.kicked_of_last
            intro party
            cases party with
            | output => simp [Life.exec, exiting.unref_last]
            | input => simp [other_done]
            | main => exact fun member => ordered member other_done)
          exact ⟨kick, counted', exiting', orderly.input⟩
      | input =>
          have counted := orderly.counted.symm
          have exiting := orderly.input
          rw [program_eq] at counted exiting
          obtain ⟨counted', exiting'⟩ := counted.thread exiting (by
            rintro rfl other_done
            rw [other_done] at counted
            apply kick.made_of_closing counted.kicked_of_last
            intro party
            cases party with
            | output => simp [other_done]
            | input => simp [Life.exec, exiting.unref_last]
            | main => exact fun member => ordered member other_done)
          exact ⟨kick, counted'.symm, orderly.output, exiting'⟩
      | main =>
          refine ⟨kick, orderly.counted.main kick.calls_le ?_, orderly.output, orderly.input⟩
          intro drops
          cases instr with
          | unref | lockedUnregister => exact ordered
          | access | kickTest | kickClaim | kickInvoke | unlink | lockedKick =>
              exact absurd ⟨by simp, by simp⟩ drops

/-- In every run in which the references are dropped in order, the removal of the transport is
asked for at most once and after both threads are through with it, and it is not closed before it
was kicked. -/
theorem safeLife_of_dropsInOrder {outputUses inputUses : Nat} {moves : List (Move Party)}
    {system : System Party}
    (run : Trace (Guarded (LifeStep Party.May) DropsInOrder)
      (System.running outputUses inputUses) moves system) : SafeLife system := by
  have orderly : Orderly system := by
    refine run.invariant Orderly (orderly_running outputUses inputUses) ?_
    rintro before move after orderly ⟨ordered, step⟩
    exact step.orderly orderly ordered
  cases orderly.counted with
  | held _ _ closes removals =>
      exact ⟨by simp [removals], by simp [removals], by simp [closes]⟩
  | dropped output_eq input_eq _ closes removals kicks =>
      exact ⟨by simp [removals], fun _ => ⟨output_eq, input_eq⟩, by simp [kicks]⟩

/-- Both threads exit by themselves, and the transport is disconnected before the main loop comes to
the removal. -/
theorem safeLife_of_dropsInOrder_unplugged :
    ∃ moves system,
      Trace (Guarded (LifeStep Party.May) DropsInOrder) (System.running 1 0) moves system ∧
        system.life.removals = 1 ∧ SafeLife system := by
  have run₀ : Trace (Guarded (LifeStep Party.May) DropsInOrder) (System.running 1 0) [] _ := .nil
  have run₁ := run₀.guard (.run Party.output .access _ rfl) trivial
  have run₂ := run₁.guard (.run Party.output .kickTest _ rfl) trivial
  have run₃ := run₂.guard (.run Party.output .kickClaim _ rfl) trivial
  have run₄ := run₃.guard (.run Party.output .kickInvoke _ rfl) trivial
  have run₅ := run₄.guard (.run Party.output .unref _ rfl) (by intro pending; cases pending)
  have run₆ := run₅.guard (.run Party.input .kickTest _ rfl) trivial
  have run₇ := run₆.guard (.run Party.input .unref _ rfl) (by intro pending; cases pending)
  have run₈ := run₇.guard (.call Party.main .unregisterAllTcpTransports rfl trivial) trivial
  have run₉ := run₈.guard (.run Party.main .lockedUnregister _ rfl) ⟨rfl, rfl⟩
  exact ⟨_, _, run₉, rfl, safeLife_of_dropsInOrder run₉⟩

/-- A disconnect drops a reference while both threads run; the first thread to exit drops what is
then the last one, and the transport is closed and given up for freeing under the other thread. -/
theorem safeLife_fails_after_disconnect :
    ∃ system, Reachable (LifeStep Party.May) (System.running 0 1) system ∧
      system.life.removals = 1 ∧ system.program .input = [.access, .kickTest, .unref] ∧
        ¬SafeLife system := by
  have run₀ : Trace (LifeStep Party.May) (System.running 0 1) [] _ := .nil
  have run₁ := run₀.snoc (.call Party.main .unregisterTransport rfl trivial)
  have run₂ := run₁.snoc (.run Party.main .unlink _ rfl)
  have run₃ := run₂.snoc (.run Party.main .kickTest _ rfl)
  have run₄ := run₃.snoc (.run Party.main .kickClaim _ rfl)
  have run₅ := run₄.snoc (.run Party.main .kickInvoke _ rfl)
  have run₆ := run₅.snoc (.run Party.main .unref _ rfl)
  have run₇ := run₆.snoc (.run Party.output .kickTest _ rfl)
  have run₈ := run₇.snoc (.run Party.output .unref _ rfl)
  refine ⟨_, ⟨_, run₈⟩, rfl, rfl, ?_⟩
  intro safe
  have done := (safe.threads_done (by decide)).2
  cases done

end Transport
end AdbWide
