import Mathlib.Algebra.BigOperators.Group.Finset.Basic
import Mathlib.Algebra.Order.BigOperators.Group.Finset
import Mathlib.Data.List.FinRange
import Mathlib.Logic.Function.Basic
import AdbWide.Execution

/-!
# Waiting for any of more than 64 handles

`_wait_for_all` divides its handles into chunks and has a thread wait on each of them, together
with an event of its own by which the threads tell each other that the wait is over.  This file
runs the caller, its threads and whoever sets the handles as steps in any order.
-/

namespace AdbWide
namespace Win32

variable {Handle : Type*} {handles : List Handle}

/-! ## Chunks -/

/-- `WAIT_ALL_CHUNK_SIZE`. -/
def waitAllChunkSize : Nat := 63

/-- `MAXIMUM_WAIT_OBJECTS`, the most handles `WaitForMultipleObjects` takes. -/
def maximumWaitObjects : Nat := 64

/-- `WAIT_FAILED` as an `int`. -/
def waitFailed : Int := -1

/-- `WaitForAllParam`, as far as the threads differ in it. -/
structure WaitForAllParam (Handle : Type*) where
  /-- The first `handles_count` handles behind the pointer `handles`. -/
  handles : List Handle
  firstHandleIndex : Nat
  deriving DecidableEq, Repr

/-- The handles from a chunk's first one on, as many as said. -/
def waitForAllParam (handles : List Handle) (chunk handlesCount : Nat) :
    WaitForAllParam Handle where
  handles := (handles.drop (waitAllChunkSize * chunk)).take handlesCount
  firstHandleIndex := waitAllChunkSize * chunk

/-- The array `threads` as `_wait_for_all` fills it. -/
def waitForAllParams (handles : List Handle) : List (WaitForAllParam Handle) :=
  let chunks := handles.length / waitAllChunkSize
  let remains := handles.length % waitAllChunkSize
  ((List.range chunks).map fun chunk => waitForAllParam handles chunk waitAllChunkSize) ++
    if remains ≠ 0 then [waitForAllParam handles chunks remains] else []

/-- How many threads are needed. -/
def waitForAllChunks (handles : List Handle) : Nat :=
  (handles.length + (waitAllChunkSize - 1)) / waitAllChunkSize

theorem waitForAllParam_take {chunk handlesCount : Nat}
    (rest : handles.length - waitAllChunkSize * chunk ≤ handlesCount)
    (small : handlesCount ≤ waitAllChunkSize) :
    waitForAllParam handles chunk handlesCount =
      waitForAllParam handles chunk waitAllChunkSize := by
  have length_drop := List.length_drop (i := waitAllChunkSize * chunk) (l := handles)
  have whole : (handles.drop (waitAllChunkSize * chunk)).take handlesCount =
      (handles.drop (waitAllChunkSize * chunk)).take waitAllChunkSize := by
    rw [List.take_of_length_le (by omega), List.take_of_length_le (by omega)]
  simp only [waitForAllParam, whole]

/-- The last chunk is like the others, with fewer handles behind its pointer. -/
theorem waitForAllParams_eq (handles : List Handle) :
    waitForAllParams handles = (List.range (waitForAllChunks handles)).map fun chunk =>
      waitForAllParam handles chunk waitAllChunkSize := by
  have division := Nat.div_add_mod handles.length waitAllChunkSize
  have below := Nat.mod_lt handles.length (by decide : 0 < waitAllChunkSize)
  rw [waitForAllParams]
  by_cases remains : handles.length % waitAllChunkSize = 0
  · have chunks : waitForAllChunks handles = handles.length / waitAllChunkSize := by
      simp only [waitForAllChunks, waitAllChunkSize] at division remains ⊢
      omega
    rw [if_neg (by simpa using remains), List.append_nil, chunks]
  · have chunks : waitForAllChunks handles = handles.length / waitAllChunkSize + 1 := by
      simp only [waitForAllChunks, waitAllChunkSize] at division remains ⊢
      omega
    rw [if_pos remains, chunks, List.range_succ, List.map_append]
    simp only [List.map_cons, List.map_nil]
    rw [waitForAllParam_take (by omega) below.le]

theorem length_waitForAllParams (handles : List Handle) :
    (waitForAllParams handles).length = waitForAllChunks handles := by
  simp [waitForAllParams_eq]

theorem waitForAllParams_getElem? {chunk : Nat} {param : WaitForAllParam Handle}
    (found : (waitForAllParams handles)[chunk]? = some param) :
    param = waitForAllParam handles chunk waitAllChunkSize := by
  simp only [waitForAllParams_eq, List.getElem?_map, Option.map_eq_some_iff] at found
  obtain ⟨index, at_index, rfl⟩ := found
  obtain ⟨inside, same⟩ := List.getElem?_eq_some_iff.mp at_index
  rw [← same, List.getElem_range]

/-- A thread waits on at most as many handles as `WaitForMultipleObjects` takes. -/
theorem length_handles_lt {chunk : Nat} {param : WaitForAllParam Handle}
    (found : (waitForAllParams handles)[chunk]? = some param) :
    param.handles.length + 1 ≤ maximumWaitObjects := by
  rw [waitForAllParams_getElem? found]
  simp [waitForAllParam, maximumWaitObjects, waitAllChunkSize]

/-- A handle of a chunk is at the place of the array its absolute index says. -/
theorem getElem?_of_param {chunk index : Nat} {param : WaitForAllParam Handle} {handle : Handle}
    (found : (waitForAllParams handles)[chunk]? = some param)
    (at_index : param.handles[index]? = some handle) :
    handles[param.firstHandleIndex + index]? = some handle := by
  rw [waitForAllParams_getElem? found] at at_index ⊢
  simp only [waitForAllParam, List.getElem?_take, List.getElem?_drop] at at_index ⊢
  split at at_index
  case isTrue => exact at_index
  case isFalse => exact nomatch at_index

/-- Every handle is in some chunk. -/
theorem exists_param {handle : Handle} (member : handle ∈ handles) :
    ∃ (chunk : Nat) (param : WaitForAllParam Handle),
      (waitForAllParams handles)[chunk]? = some param ∧ handle ∈ param.handles := by
  obtain ⟨index, inside, rfl⟩ := List.mem_iff_getElem.mp member
  have division := Nat.div_add_mod index waitAllChunkSize
  have below := Nat.mod_lt index (by decide : 0 < waitAllChunkSize)
  have started : index / waitAllChunkSize < waitForAllChunks handles := by
    simp only [waitForAllChunks, waitAllChunkSize] at division below ⊢
    omega
  refine ⟨index / waitAllChunkSize,
    waitForAllParam handles (index / waitAllChunkSize) waitAllChunkSize, ?_, ?_⟩
  · simp [waitForAllParams_eq, started]
  · apply List.mem_of_getElem? (i := index % waitAllChunkSize)
    simp only [waitForAllParam, List.getElem?_take, List.getElem?_drop, if_pos below, division]
    exact List.getElem?_eq_getElem inside

/-! ## The threads -/

/-- Where a thread that runs `_in_waiter_thread` stands. -/
inductive Waiter where
  /-- Not created. -/
  | absent
  /-- In `WaitForMultipleObjects`. -/
  | waiting
  /-- The wait has returned. -/
  | woken (res : Int)
  /-- About to set the main event. -/
  | leaving
  | ended
  deriving DecidableEq, Repr

/-- Where the caller stands in `_wait_for_all`. -/
inductive Caller where
  | entered
  /-- About to create the thread of a chunk. -/
  | starting (chunk : Nat)
  /-- Waiting for the main event. -/
  | waiting
  /-- Waiting for the thread of a chunk to exit. -/
  | joining (chunk : Nat)
  | returned (value : Int)
  deriving DecidableEq, Repr

/-- A call of `_wait_for_all`, its threads, and which handles are set. -/
structure WaitForAll (Handle : Type*) where
  caller : Caller
  /-- The variable `chunks`, once the loop that creates the threads has begun. -/
  chunks : Nat
  waiters : Nat → Waiter
  mainEvent : Bool
  sigIndex : Int
  signalled : Handle → Bool

/-- `WaitForMultipleObjects` for any of the handles: the lowest index of one that is set.  Nothing
comes of a wait for too many. -/
def waitForMultipleObjects (waitOn : List Bool) : Option Nat :=
  if waitOn.length ≤ maximumWaitObjects then waitOn.findIdx? id else none

/-- What a thread makes of the result of its wait, with `InterlockedCompareExchange` on
`signaled_index`. -/
def signaledIndex (param : WaitForAllParam Handle) (res sigIndex : Int) : Int :=
  if 0 < res ∧ res < param.handles.length + 1 then
    if sigIndex = -1 then res - 1 + param.firstHandleIndex else sigIndex
  else sigIndex

/-- Whose step it is, and whether a call of the system fails in it. -/
inductive WaitMove where
  | caller
  | callerFails
  | waiter (chunk : Nat)
  | waiterFails (chunk : Nat)
  /-- Somebody else sets and resets handles. -/
  | handles
  deriving DecidableEq, Repr

/-- The caller or one of its threads has moved. -/
def WaitMove.ofThread (move : WaitMove) : Bool := move ≠ .handles

/-- No call of the system has failed. -/
def WaitMove.Succeeds : WaitMove → Prop
  | .caller | .waiter _ | .handles => True
  | .callerFails | .waiterFails _ => False

/-- The state in which `_wait_for_all` is called. -/
def WaitForAll.start (signalled : Handle → Bool) : WaitForAll Handle where
  caller := .entered
  chunks := 0
  waiters := fun _ => .absent
  mainEvent := false
  sigIndex := -1
  signalled := signalled

/-- One step of the caller, of a thread or of the surroundings. -/
inductive WaitStep (handles : List Handle) :
    WaitForAll Handle → WaitMove → WaitForAll Handle → Prop where
  /-- `malloc` or `CreateEvent` fails. -/
  | refuse {state : WaitForAll Handle} :
      state.caller = .entered →
      WaitStep handles state .callerFails { state with caller := .returned waitFailed }
  | prepare {state : WaitForAll Handle} :
      state.caller = .entered →
      WaitStep handles state .caller
        { state with caller := .starting 0, chunks := (waitForAllParams handles).length }
  | create {state : WaitForAll Handle} {chunk : Nat} :
      state.caller = .starting chunk → chunk < state.chunks →
      WaitStep handles state .caller
        { state with
          caller := .starting (chunk + 1)
          waiters := Function.update state.waiters chunk .waiting }
  /-- `_beginthreadex` fails. -/
  | collapse {state : WaitForAll Handle} {chunk : Nat} :
      state.caller = .starting chunk → chunk < state.chunks →
      WaitStep handles state .callerFails
        { state with caller := .waiting, chunks := chunk, mainEvent := true }
  | created {state : WaitForAll Handle} {chunk : Nat} :
      state.caller = .starting chunk → ¬chunk < state.chunks →
      WaitStep handles state .caller { state with caller := .waiting }
  | wake {state : WaitForAll Handle} :
      state.caller = .waiting → state.mainEvent = true →
      WaitStep handles state .caller { state with caller := .joining 0 }
  | join {state : WaitForAll Handle} {chunk : Nat} :
      state.caller = .joining chunk → chunk < state.chunks → state.waiters chunk = .ended →
      WaitStep handles state .caller { state with caller := .joining (chunk + 1) }
  | finish {state : WaitForAll Handle} {chunk : Nat} :
      state.caller = .joining chunk → ¬chunk < state.chunks →
      WaitStep handles state .caller
        { state with
          caller := .returned (if 0 ≤ state.sigIndex then state.sigIndex else waitFailed) }
  | waiterWakes {state : WaitForAll Handle} (chunk : Nat) {res : Nat}
      {param : WaitForAllParam Handle} :
      state.waiters chunk = .waiting → (waitForAllParams handles)[chunk]? = some param →
      waitForMultipleObjects (state.mainEvent :: param.handles.map state.signalled) = some res →
      WaitStep handles state (.waiter chunk)
        { state with waiters := Function.update state.waiters chunk (.woken res) }
  /-- `WaitForMultipleObjects` fails. -/
  | waiterFails {state : WaitForAll Handle} (chunk : Nat) :
      state.waiters chunk = .waiting →
      WaitStep handles state (.waiterFails chunk)
        { state with waiters := Function.update state.waiters chunk (.woken waitFailed) }
  | waiterReports {state : WaitForAll Handle} (chunk : Nat) {res : Int}
      {param : WaitForAllParam Handle} :
      state.waiters chunk = .woken res → (waitForAllParams handles)[chunk]? = some param →
      WaitStep handles state (.waiter chunk)
        { state with
          waiters := Function.update state.waiters chunk .leaving
          sigIndex := signaledIndex param res state.sigIndex }
  | waiterEnds {state : WaitForAll Handle} (chunk : Nat) :
      state.waiters chunk = .leaving →
      WaitStep handles state (.waiter chunk)
        { state with
          waiters := Function.update state.waiters chunk .ended
          mainEvent := true }
  | handlesChange {state : WaitForAll Handle} (signalled : Handle → Bool) :
      WaitStep handles state .handles { state with signalled := signalled }

/-! ## The threads end before the call -/

namespace WaitForAll

/-- How many threads have been created. -/
def created (state : WaitForAll Handle) : Nat :=
  match state.caller with
  | .entered => 0
  | .starting chunk => chunk
  | .waiting | .joining _ | .returned _ => state.chunks

/-- What the caller knows of the threads where it stands. -/
structure Ordered (handles : List Handle) (state : WaitForAll Handle) : Prop where
  absent : ∀ chunk, state.waiters chunk = .absent ↔ state.created ≤ chunk
  created_le : state.created ≤ waitForAllChunks handles
  entered : state.caller = .entered → state.chunks = 0
  starting : ∀ chunk, state.caller = .starting chunk →
    state.chunks = waitForAllChunks handles
  /-- Where a thread could not be created, the main event is set at once. -/
  waiting : state.caller = .waiting →
    state.mainEvent = true ∨ state.chunks = waitForAllChunks handles
  ended : ∀ chunk, state.waiters chunk = .ended → state.mainEvent = true
  joining : ∀ chunk, state.caller = .joining chunk →
    state.mainEvent = true ∧ chunk ≤ state.chunks ∧
      ∀ earlier < chunk, state.waiters earlier = .ended
  returned : ∀ value, state.caller = .returned value →
    ∀ chunk < state.chunks, state.waiters chunk = .ended

theorem ordered_start (signalled : Handle → Bool) :
    Ordered handles (start signalled) where
  absent chunk := by simp [start, created]
  created_le := Nat.zero_le _
  entered _ := rfl
  starting chunk at_chunk := by simp [start] at at_chunk
  waiting at_wait := by simp [start] at at_wait
  ended chunk exited := by simp [start] at exited
  joining chunk at_chunk := by simp [start] at at_chunk
  returned value at_end := by simp [start] at at_end

/-- A thread that exists moves on; the caller stays where it is. -/
theorem Ordered.update {state after : WaitForAll Handle} {chunk : Nat} {waiter : Waiter}
    (ordered : Ordered handles state)
    (present : state.waiters chunk ≠ .absent) (running : state.waiters chunk ≠ .ended)
    (waiters : after.waiters = Function.update state.waiters chunk waiter)
    (stays : waiter ≠ .absent) (ends : waiter = .ended → after.mainEvent = true)
    (mainEvent : state.mainEvent = true → after.mainEvent = true)
    (caller : after.caller = state.caller) (chunks : after.chunks = state.chunks) :
    Ordered handles after := by
  have same : after.created = state.created := by rw [created, created, caller, chunks]
  have kept : ∀ other, state.waiters other = .ended → after.waiters other = .ended := by
    intro other exited
    have different : other ≠ chunk := by
      rintro rfl
      exact running exited
    rw [waiters, Function.update_of_ne different, exited]
  exact {
    absent := by
      intro other
      rw [same, waiters]
      rcases eq_or_ne other chunk with rfl | different
      · rw [Function.update_self]
        exact iff_of_false stays fun beyond => present ((ordered.absent _).mpr beyond)
      · rw [Function.update_of_ne different]
        exact ordered.absent other
    created_le := same ▸ ordered.created_le
    entered := fun at_start => chunks ▸ ordered.entered (caller ▸ at_start)
    starting := fun other at_other => chunks ▸ ordered.starting other (caller ▸ at_other)
    waiting := fun at_wait => (ordered.waiting (caller ▸ at_wait)).imp mainEvent (chunks ▸ ·)
    ended := by
      intro other exited
      rcases eq_or_ne other chunk with rfl | different
      · rw [waiters, Function.update_self] at exited
        exact ends exited
      · rw [waiters, Function.update_of_ne different] at exited
        exact mainEvent (ordered.ended other exited)
    joining := by
      intro other at_other
      obtain ⟨set, inside, exited⟩ := ordered.joining other (caller ▸ at_other)
      exact ⟨mainEvent set, chunks ▸ inside, fun earlier before => kept _ (exited _ before)⟩
    returned := fun value at_end other inside =>
      kept _ (ordered.returned value (caller ▸ at_end) other (chunks ▸ inside)) }

/-- No thread exists before the first is created. -/
theorem Ordered.absent_of_entered {state : WaitForAll Handle} (ordered : Ordered handles state)
    (at_start : state.caller = .entered) (chunk : Nat) : state.waiters chunk = .absent := by
  apply (ordered.absent chunk).mpr
  simp [created, at_start]

/-- The threads created so far have ended where the caller has waited for all of them. -/
theorem Ordered.absent_or_ended {state : WaitForAll Handle} (ordered : Ordered handles state)
    {value : Int} (at_end : state.caller = .returned value) (chunk : Nat) :
    state.waiters chunk = .absent ∨ state.waiters chunk = .ended := by
  rcases Nat.lt_or_ge chunk state.chunks with inside | beyond
  · exact .inr (ordered.returned value at_end chunk inside)
  · left
    apply (ordered.absent chunk).mpr
    simpa [created, at_end] using beyond

/-- Every step keeps the order of the call and its threads. -/
theorem Ordered.step {before after : WaitForAll Handle} {move : WaitMove}
    (ordered : Ordered handles before) (step : WaitStep handles before move after) :
    Ordered handles after := by
  cases step with
  | refuse at_start =>
      have none := ordered.absent_of_entered at_start
      have zero := ordered.entered at_start
      constructor <;> simp [none, created, zero]
  | prepare at_start =>
      have none := ordered.absent_of_entered at_start
      constructor <;> simp [none, created, length_waitForAllParams]
  | @create chunk at_chunk more =>
      have absent := ordered.absent
      have total := ordered.starting _ at_chunk
      have ended := ordered.ended
      simp only [created, at_chunk] at absent
      constructor <;> simp only [created, reduceCtorEq, false_implies, implies_true]
      case absent =>
        intro other
        rcases eq_or_ne other chunk with rfl | different
        · simp
        · rw [Function.update_of_ne different, absent other]
          omega
      case created_le => omega
      case starting =>
        intro _ _
        exact total
      case ended =>
        intro other exited
        rcases eq_or_ne other chunk with rfl | different
        · simp at exited
        · rw [Function.update_of_ne different] at exited
          exact ended other exited
  | collapse at_chunk more =>
      have absent := ordered.absent
      have total := ordered.starting _ at_chunk
      simp only [created, at_chunk] at absent
      constructor <;> simp [created, absent]
      omega
  | created at_chunk last =>
      have absent := ordered.absent
      have total := ordered.starting _ at_chunk
      have created_le := ordered.created_le
      have ended := ordered.ended
      simp only [created, at_chunk] at absent created_le
      constructor <;> simp only [created, reduceCtorEq, false_implies, implies_true]
      case absent =>
        intro other
        rw [absent other]
        omega
      case created_le => omega
      case waiting =>
        intro _
        exact .inr total
      case ended => exact ended
  | wake at_wait set =>
      have absent := ordered.absent
      have created_le := ordered.created_le
      simp only [created, at_wait] at absent created_le
      constructor <;> simp [created, absent, created_le, set]
  | join at_chunk more exited =>
      have absent := ordered.absent
      have created_le := ordered.created_le
      obtain ⟨set, inside, earlier_over⟩ := ordered.joining _ at_chunk
      simp only [created, at_chunk] at absent created_le
      constructor <;> simp only [created, reduceCtorEq, false_implies, implies_true]
      case absent => exact absent
      case created_le => exact created_le
      case ended => exact fun _ _ => set
      case joining =>
        rintro _ ⟨⟩
        refine ⟨set, more, fun earlier before => ?_⟩
        rcases Nat.lt_succ_iff_lt_or_eq.mp before with before' | rfl
        · exact earlier_over earlier before'
        · exact exited
  | finish at_chunk last =>
      have absent := ordered.absent
      have created_le := ordered.created_le
      obtain ⟨set, inside, earlier_over⟩ := ordered.joining _ at_chunk
      simp only [created, at_chunk] at absent created_le
      constructor <;> simp only [created, reduceCtorEq, false_implies, implies_true]
      case absent => exact absent
      case created_le => exact created_le
      case ended => exact fun _ _ => set
      case returned =>
        intro _ _ chunk before
        exact earlier_over chunk (by omega)
  | waiterWakes chunk at_wait found result =>
      exact ordered.update (by simp [at_wait]) (by simp [at_wait]) rfl nofun nofun id rfl rfl
  | waiterFails chunk at_wait =>
      exact ordered.update (by simp [at_wait]) (by simp [at_wait]) rfl nofun nofun id rfl rfl
  | waiterReports chunk woken found =>
      exact ordered.update (by simp [woken]) (by simp [woken]) rfl nofun nofun id rfl rfl
  | waiterEnds chunk leaving =>
      exact ordered.update (by simp [leaving]) (by simp [leaving]) rfl nofun (fun _ => rfl)
        (fun _ => rfl) rfl rfl
  | handlesChange signalled => exact { ordered with }

/-! ## The result -/

/-- What a wait makes of its handles: the lowest index of the main event and a chunk. -/
theorem waitForMultipleObjects_cons {first : Bool} {rest : List Handle} {res : Nat}
    {signalled : Handle → Bool} (positive : 0 < res)
    (result : waitForMultipleObjects (first :: rest.map signalled) = some res) :
    ∃ index handle, res = index + 1 ∧ rest[index]? = some handle ∧ signalled handle = true := by
  rw [waitForMultipleObjects] at result
  split at result
  case isFalse => exact nomatch result
  case isTrue =>
      obtain ⟨inside, set, -⟩ := List.findIdx?_eq_some_iff_getElem.mp result
      obtain ⟨index, rfl⟩ := Nat.exists_eq_add_of_lt positive
      simp only [Nat.zero_add, List.getElem_cons_succ, List.getElem_map, id_eq] at set
      simp only [Nat.zero_add, List.length_cons, List.length_map] at inside
      exact ⟨index, rest[index], by simp, List.getElem?_eq_getElem (by omega), set⟩

/-- The value is the place of a handle that was seen set. -/
def Places (seen : Handle → Prop) (handles : List Handle) (value : Int) : Prop :=
  ∃ (index : Nat) (handle : Handle), value = index ∧ handles[index]? = some handle ∧ seen handle

theorem Places.mono {seen later : Handle → Prop} {value : Int}
    (kept : ∀ handle, seen handle → later handle) (places : Places seen handles value) :
    Places later handles value := by
  obtain ⟨index, handle, equality, found, holds⟩ := places
  exact ⟨index, handle, equality, found, kept handle holds⟩

theorem Places.nonneg {seen : Handle → Prop} {value : Int} (places : Places seen handles value) :
    0 ≤ value := by
  obtain ⟨index, handle, rfl, -⟩ := places
  exact Int.natCast_nonneg index

/-- What the threads and the caller hand on is the place of a handle that was seen set. -/
structure Reported (seen : Handle → Prop) (handles : List Handle) (state : WaitForAll Handle) :
    Prop where
  woken : ∀ chunk res param, state.waiters chunk = .woken res →
    (waitForAllParams handles)[chunk]? = some param →
      0 < res → Places seen param.handles (res - 1)
  sigIndex : state.sigIndex = -1 ∨ Places seen handles state.sigIndex
  returned : ∀ value, state.caller = .returned value →
    value = waitFailed ∨ Places seen handles value

theorem Reported.mono {seen later : Handle → Prop} {state : WaitForAll Handle}
    (kept : ∀ handle, seen handle → later handle) (reported : Reported seen handles state) :
    Reported later handles state where
  woken chunk res param woken found positive :=
    (reported.woken chunk res param woken found positive).mono kept
  sigIndex := reported.sigIndex.imp_right (Places.mono kept)
  returned value at_end := (reported.returned value at_end).imp_right (Places.mono kept)

/-- A thread's report is the place in the whole array. -/
theorem places_signaledIndex {seen : Handle → Prop} {chunk : Nat} {res sigIndex : Int}
    {param : WaitForAllParam Handle}
    (found : (waitForAllParams handles)[chunk]? = some param)
    (woken : 0 < res → Places seen param.handles (res - 1))
    (earlier : sigIndex = -1 ∨ Places seen handles sigIndex) :
    signaledIndex param res sigIndex = -1 ∨
      Places seen handles (signaledIndex param res sigIndex) := by
  rw [signaledIndex]
  split
  case isFalse => exact earlier
  case isTrue inside =>
      split
      case isFalse => exact earlier
      case isTrue =>
          obtain ⟨index, handle, equality, at_index, holds⟩ := woken inside.1
          refine .inr ⟨param.firstHandleIndex + index, handle, ?_,
            getElem?_of_param found at_index, holds⟩
          omega

theorem reported_start (seen : Handle → Prop) (signalled : Handle → Bool) :
    Reported seen handles (start signalled) where
  woken chunk res param woken := by simp [start] at woken
  sigIndex := .inl rfl
  returned value at_end := by simp [start] at at_end

/-- Other steps of threads hand nothing on. -/
theorem Reported.update {seen : Handle → Prop} {before after : WaitForAll Handle} {chunk : Nat}
    {waiter : Waiter} (reported : Reported seen handles before)
    (waiters : after.waiters = Function.update before.waiters chunk waiter)
    (woken : ∀ res param, waiter = .woken res →
      (waitForAllParams handles)[chunk]? = some param →
        0 < res → Places seen param.handles (res - 1))
    (sigIndex : after.sigIndex = -1 ∨ Places seen handles after.sigIndex)
    (returned : ∀ value, after.caller = .returned value →
      value = waitFailed ∨ Places seen handles value) :
    Reported seen handles after where
  woken other res param at_other found positive := by
    rw [waiters] at at_other
    rcases eq_or_ne other chunk with rfl | different
    · rw [Function.update_self] at at_other
      exact woken res param at_other found positive
    · rw [Function.update_of_ne different] at at_other
      exact reported.woken other res param at_other found positive
  sigIndex := sigIndex
  returned := returned

/-- A step reports nothing but handles seen earlier or set right now. -/
theorem Reported.step {seen : Handle → Prop} {before after : WaitForAll Handle} {move : WaitMove}
    (reported : Reported seen handles before) (step : WaitStep handles before move after)
    (now : ∀ handle, before.signalled handle = true → seen handle) :
    Reported seen handles after := by
  cases step with
  | refuse | prepare | collapse | created | wake | join =>
      exact ⟨reported.woken, reported.sigIndex, by simp⟩
  | create =>
      exact reported.update rfl nofun reported.sigIndex nofun
  | finish =>
      refine ⟨reported.woken, reported.sigIndex, ?_⟩
      rintro value ⟨⟩
      split
      case isFalse => exact .inl rfl
      case isTrue nonneg =>
          rcases reported.sigIndex with none | places
          · omega
          · exact .inr places
  | waiterWakes chunk at_wait found result =>
      refine reported.update rfl ?_ reported.sigIndex reported.returned
      rintro _ param' ⟨⟩ found' positive
      obtain rfl := Option.some.inj (found.symm.trans found')
      obtain ⟨index, handle, rfl, at_index, set⟩ :=
        waitForMultipleObjects_cons (by omega) result
      exact ⟨index, handle, by omega, at_index, now handle set⟩
  | waiterFails chunk =>
      refine reported.update rfl ?_ reported.sigIndex reported.returned
      rintro _ param ⟨⟩ found positive
      exact absurd positive (by decide)
  | waiterReports chunk woken found =>
      exact reported.update rfl nofun
        (places_signaledIndex found (reported.woken _ _ _ woken found) reported.sigIndex)
        reported.returned
  | waiterEnds chunk => exact reported.update rfl nofun reported.sigIndex reported.returned
  | handlesChange => exact ⟨reported.woken, reported.sigIndex, reported.returned⟩

/-- What is handed on during a run is the place of a handle that was set during the run. -/
theorem reported_run {signalled : Handle → Bool} {moves : List WaitMove}
    {final : WaitForAll Handle}
    (trace : Trace (WaitStep handles) (start signalled) moves final) :
    Reported (fun handle => Passes (WaitStep handles) (start signalled) moves final
      (·.signalled handle = true)) handles final := by
  induction trace with
  | nil => exact reported_start _ signalled
  | snoc earlier last induction =>
      refine (induction.mono fun handle seen => seen.snoc last).step last fun handle set => ?_
      exact (Passes.last earlier set).snoc last

/-- Where no call of the system fails, the wait is over only after a thread has reported. -/
structure Sure (handles : List Handle) (state : WaitForAll Handle) : Prop where
  mainEvent : state.mainEvent = true → 0 ≤ state.sigIndex
  woken : ∀ chunk res param, state.waiters chunk = .woken res →
    (waitForAllParams handles)[chunk]? = some param →
      0 < res ∧ res < param.handles.length + 1 ∨ 0 ≤ state.sigIndex
  leaving : ∀ chunk, state.waiters chunk = .leaving → 0 ≤ state.sigIndex
  joining : ∀ chunk, state.caller = .joining chunk → 0 ≤ state.sigIndex
  returned : ∀ value, state.caller = .returned value → 0 ≤ value

theorem sure_start (signalled : Handle → Bool) : Sure handles (start signalled) := by
  constructor <;> simp [start]

/-- A report is never taken back. -/
theorem nonneg_signaledIndex {param : WaitForAllParam Handle} {res sigIndex : Int}
    (earlier : 0 ≤ sigIndex) : signaledIndex param res sigIndex = sigIndex := by
  have different : sigIndex ≠ -1 := by omega
  simp [signaledIndex, different]

/-- After a report the index is set. -/
theorem signaledIndex_nonneg {param : WaitForAllParam Handle} {res sigIndex : Int}
    (known : sigIndex = -1 ∨ 0 ≤ sigIndex)
    (inside : 0 < res ∧ res < param.handles.length + 1 ∨ 0 ≤ sigIndex) :
    0 ≤ signaledIndex param res sigIndex := by
  by_cases earlier : 0 ≤ sigIndex
  · rwa [nonneg_signaledIndex earlier]
  · have first : sigIndex = -1 := known.resolve_right earlier
    rw [signaledIndex, if_pos (inside.resolve_right earlier), if_pos first]
    omega

/-- A wait that succeeds returns the place of the main event or of a handle. -/
theorem waitForMultipleObjects_lt {first : Bool} {rest : List Bool} {res : Nat}
    (result : waitForMultipleObjects (first :: rest) = some res) :
    (res = 0 → first = true) ∧ res < rest.length + 1 := by
  rw [waitForMultipleObjects] at result
  split at result
  case isFalse => exact nomatch result
  case isTrue =>
      obtain ⟨inside, set, -⟩ := List.findIdx?_eq_some_iff_getElem.mp result
      refine ⟨?_, inside⟩
      rintro rfl
      exact set

/-- A thread's step keeps the certainty if what it hands on does. -/
theorem Sure.update {before after : WaitForAll Handle} {chunk : Nat} {waiter : Waiter}
    (sure : Sure handles before)
    (waiters : after.waiters = Function.update before.waiters chunk waiter)
    (sigIndex : 0 ≤ before.sigIndex → 0 ≤ after.sigIndex)
    (mainEvent : after.mainEvent = true → 0 ≤ after.sigIndex)
    (woken : ∀ res param, waiter = .woken res →
      (waitForAllParams handles)[chunk]? = some param →
        0 < res ∧ res < param.handles.length + 1 ∨ 0 ≤ after.sigIndex)
    (leaving : waiter = .leaving → 0 ≤ after.sigIndex)
    (joining : ∀ other, after.caller = .joining other → 0 ≤ after.sigIndex)
    (returned : ∀ value, after.caller = .returned value → 0 ≤ value) : Sure handles after where
  mainEvent := mainEvent
  woken other res param at_other found := by
    rw [waiters] at at_other
    rcases eq_or_ne other chunk with rfl | different
    · rw [Function.update_self] at at_other
      exact woken res param at_other found
    · rw [Function.update_of_ne different] at at_other
      exact (sure.woken other res param at_other found).imp_right sigIndex
  leaving other at_other := by
    rw [waiters] at at_other
    rcases eq_or_ne other chunk with rfl | different
    · rw [Function.update_self] at at_other
      exact leaving at_other
    · rw [Function.update_of_ne different] at at_other
      exact sigIndex (sure.leaving other at_other)
  joining := joining
  returned := returned

theorem Sure.step {before after : WaitForAll Handle} {move : WaitMove} (sure : Sure handles before)
    (known : before.sigIndex = -1 ∨ 0 ≤ before.sigIndex)
    (step : WaitStep handles before move after) (succeeds : move.Succeeds) :
    Sure handles after := by
  cases step with
  | refuse | collapse | waiterFails => exact succeeds.elim
  | prepare | created =>
      exact ⟨sure.mainEvent, sure.woken, sure.leaving, nofun, nofun⟩
  | create => exact sure.update rfl id sure.mainEvent nofun nofun nofun nofun
  | wake at_wait set =>
      exact ⟨sure.mainEvent, sure.woken, sure.leaving, fun _ _ => sure.mainEvent set, nofun⟩
  | join at_chunk more exited =>
      exact ⟨sure.mainEvent, sure.woken, sure.leaving, fun _ _ => sure.joining _ at_chunk, nofun⟩
  | finish at_chunk last =>
      have nonneg := sure.joining _ at_chunk
      refine ⟨sure.mainEvent, sure.woken, sure.leaving, nofun, ?_⟩
      rintro value ⟨⟩
      rwa [if_pos nonneg]
  | waiterWakes chunk at_wait found result =>
      refine sure.update rfl id sure.mainEvent ?_ nofun sure.joining sure.returned
      rintro _ param' ⟨⟩ found'
      obtain rfl := Option.some.inj (found.symm.trans found')
      obtain ⟨of_zero, inside⟩ := waitForMultipleObjects_lt result
      rw [List.length_map] at inside
      rcases Nat.eq_zero_or_pos _ with zero | positive
      · exact .inr (sure.mainEvent (of_zero zero))
      · left
        omega
  | waiterReports chunk woken found =>
      have nonneg := signaledIndex_nonneg known (sure.woken _ _ _ woken found)
      exact sure.update rfl (fun _ => nonneg) (fun _ => nonneg) nofun (fun _ => nonneg)
        (fun _ _ => nonneg) sure.returned
  | waiterEnds chunk leaving =>
      exact sure.update rfl id (fun _ => sure.leaving _ leaving) nofun nofun sure.joining
        sure.returned
  | handlesChange => exact ⟨sure.mainEvent, sure.woken, sure.leaving, sure.joining, sure.returned⟩

theorem sure_run {signalled : Handle → Bool} {moves : List WaitMove} {final : WaitForAll Handle}
    (trace : Trace (WaitStep handles) (start signalled) moves final)
    (succeed : ∀ move ∈ moves, move.Succeeds) : Sure handles final := by
  induction trace with
  | nil => exact sure_start signalled
  | snoc earlier last induction =>
      have sure := induction fun move member => succeed move (List.mem_append_left _ member)
      have known := (reported_run earlier).sigIndex.imp_right Places.nonneg
      exact sure.step known last (succeed _ (by simp))

/-- The run of a call for 65 handles of which the last is set, and where it waits. -/
theorem exists_sample :
    ∃ waiting final : WaitForAll Nat,
      Trace (WaitStep (List.range 65)) (start (· = 64)) [.caller, .caller, .caller, .caller]
          waiting ∧
        waiting.caller = .waiting ∧ waiting.signalled 64 = true ∧
        Trace (WaitStep (List.range 65)) (start (· = 64))
          [.caller, .caller, .caller, .caller, .waiter 1, .waiter 1, .waiter 1, .waiter 0,
            .waiter 0, .waiter 0, .caller, .caller, .caller, .caller] final ∧
        final.caller = .returned 64 := by
  have created : Trace (WaitStep (List.range 65)) (start (· = 64)) _ _ :=
    .snoc (.snoc (.snoc .nil (.prepare rfl)) (.create rfl (by decide))) (.create rfl (by decide))
  have waiting := created.snoc (.created rfl (by decide))
  have reported := ((waiting.snoc (.waiterWakes 1 rfl rfl rfl)).snoc
    (.waiterReports 1 rfl rfl)).snoc (.waiterEnds 1 rfl)
  have ended := ((reported.snoc (.waiterWakes 0 rfl rfl rfl)).snoc
    (.waiterReports 0 rfl rfl)).snoc (.waiterEnds 0 rfl)
  have trace := (((ended.snoc (.wake rfl rfl)).snoc (.join rfl (by decide) rfl)).snoc
    (.join rfl (by decide) rfl)).snoc (.finish rfl (by decide))
  exact ⟨_, _, waiting, rfl, rfl, trace, rfl⟩

/-- Where `_wait_for_all` returns, all its threads have ended, and the result is the place of a
handle that was set during the call, or `WAIT_FAILED`, which takes a call of the system that
failed. -/
theorem waitForAll_returns {signalled : Handle → Bool} {moves : List WaitMove}
    {final : WaitForAll Handle} {value : Int}
    (trace : Trace (WaitStep handles) (start signalled) moves final)
    (returned : final.caller = .returned value) :
    (∀ chunk, final.waiters chunk = .absent ∨ final.waiters chunk = .ended) ∧
      (value = waitFailed ∨ ∃ (index : Nat) (handle : Handle), value = index ∧
        handles[index]? = some handle ∧
        Passes (WaitStep handles) (start signalled) moves final (·.signalled handle = true)) ∧
      ((∀ move ∈ moves, move.Succeeds) → value ≠ waitFailed) := by
  have ordered := trace.invariant (Ordered handles) (ordered_start signalled)
    fun _ _ _ ordered step => ordered.step step
  refine ⟨ordered.absent_or_ended returned, (reported_run trace).returned value returned, ?_⟩
  intro succeed failed
  have nonneg := (sure_run trace succeed).returned value returned
  rw [failed] at nonneg
  exact absurd nonneg (by decide)

/-- A call for 65 handles of which the last is set: the thread of the second chunk reports it. -/
theorem waitForAll_returns_sample :
    ∃ final : WaitForAll Nat, final.caller = .returned 64 ∧
      ((64 : Int) = waitFailed ∨ ∃ (index : Nat) (handle : Nat), (64 : Int) = index ∧
        (List.range 65)[index]? = some handle ∧
        Passes (WaitStep (List.range 65)) (start (· = 64))
          [.caller, .caller, .caller, .caller, .waiter 1, .waiter 1, .waiter 1, .waiter 0,
            .waiter 0, .waiter 0, .caller, .caller, .caller, .caller] final
          (·.signalled handle = true)) := by
  obtain ⟨-, final, -, -, -, trace, returned⟩ := exists_sample
  exact ⟨final, returned, (waitForAll_returns trace returned).2.1⟩

/-! ## The call ends -/

/-- How many steps the caller may still take. -/
def callerRank (total : Nat) : Caller → Nat
  | .entered => 2 * total + 4
  | .starting chunk => total - chunk + total + 3
  | .waiting => total + 2
  | .joining chunk => total + 1 - chunk
  | .returned _ => 0

/-- How many steps a thread may still take, its creation included. -/
def waiterRank : Waiter → Nat
  | .absent => 4
  | .waiting => 3
  | .woken _ => 2
  | .leaving => 1
  | .ended => 0

/-- How many steps a call and its threads may still take. -/
def rank (handles : List Handle) (state : WaitForAll Handle) : Nat :=
  callerRank (waitForAllChunks handles) state.caller +
    ∑ chunk ∈ Finset.range (waitForAllChunks handles), waiterRank (state.waiters chunk)

theorem sum_waiterRank_update {total chunk : Nat} (waiters : Nat → Waiter) (waiter : Waiter)
    (inside : chunk < total) :
    ∑ other ∈ Finset.range total, waiterRank (Function.update waiters chunk waiter other) +
        waiterRank (waiters chunk) =
      ∑ other ∈ Finset.range total, waiterRank (waiters other) + waiterRank waiter := by
  have member := Finset.mem_range.mpr inside
  have rest : ∑ other ∈ (Finset.range total).erase chunk,
      waiterRank (Function.update waiters chunk waiter other) =
        ∑ other ∈ (Finset.range total).erase chunk, waiterRank (waiters other) := by
    apply Finset.sum_congr rfl
    intro other at_other
    rw [Function.update_of_ne (Finset.ne_of_mem_erase at_other)]
  rw [← Finset.add_sum_erase _ _ member, ← Finset.add_sum_erase _ _ member, rest,
    Function.update_self]
  omega

/-- A thread that has moved is one of those the call needs. -/
theorem Ordered.chunk_lt {state : WaitForAll Handle} (ordered : Ordered handles state) {chunk : Nat}
    (present : state.waiters chunk ≠ .absent) : chunk < waitForAllChunks handles := by
  have created := ordered.created_le
  have beyond := (not_congr (ordered.absent chunk)).mp present
  omega

theorem rank_update {before after : WaitForAll Handle} {chunk : Nat} {waiter : Waiter}
    (waiters : after.waiters = Function.update before.waiters chunk waiter)
    (caller : after.caller = before.caller) (inside : chunk < waitForAllChunks handles)
    (falls : waiterRank (before.waiters chunk) = waiterRank waiter + 1) :
    1 + rank handles after ≤ rank handles before := by
  have sum := sum_waiterRank_update before.waiters waiter inside
  rw [rank, rank, waiters, caller]
  omega

theorem rank_caller {before after : WaitForAll Handle}
    (waiters : after.waiters = before.waiters)
    (falls : callerRank (waitForAllChunks handles) after.caller <
      callerRank (waitForAllChunks handles) before.caller) :
    1 + rank handles after ≤ rank handles before := by
  rw [rank, rank, waiters]
  omega

/-- Every step of the call and its threads is one less to take. -/
theorem Ordered.rank_falls {before after : WaitForAll Handle} {move : WaitMove}
    (ordered : Ordered handles before) (step : WaitStep handles before move after) :
    (if move.ofThread then 1 else 0) + rank handles after ≤ rank handles before := by
  have created_le := ordered.created_le
  cases step with
  | refuse at_start | prepare at_start =>
      refine rank_caller rfl ?_
      simp only [callerRank, at_start]
      omega
  | create at_chunk more =>
      have inside := ordered.starting _ at_chunk ▸ more
      have absent := (ordered.absent _).mpr (by rw [created, at_chunk])
      have sum := sum_waiterRank_update before.waiters .waiting inside
      rw [absent, waiterRank, waiterRank] at sum
      change 1 + (_ + ∑ other ∈ Finset.range _,
        waiterRank (Function.update before.waiters _ .waiting other)) ≤ _
      simp only [rank, callerRank, at_chunk]
      omega
  | collapse at_chunk more | created at_chunk last =>
      refine rank_caller rfl ?_
      simp only [callerRank, at_chunk]
      omega
  | wake at_wait set =>
      refine rank_caller rfl ?_
      simp only [callerRank, at_wait]
      omega
  | join at_chunk more | finish at_chunk last =>
      have inside := (ordered.joining _ at_chunk).2.1
      simp only [created, at_chunk] at created_le
      refine rank_caller rfl ?_
      simp only [callerRank, at_chunk]
      omega
  | waiterWakes chunk at_wait | waiterFails chunk at_wait =>
      refine rank_update rfl rfl (ordered.chunk_lt ?_) ?_
      · simp [at_wait]
      · rw [at_wait]
        rfl
  | waiterReports chunk woken =>
      refine rank_update rfl rfl (ordered.chunk_lt ?_) ?_
      · simp [woken]
      · rw [woken]
        rfl
  | waiterEnds chunk leaving =>
      refine rank_update rfl rfl (ordered.chunk_lt ?_) ?_
      · simp [leaving]
      · rw [leaving]
        rfl
  | handlesChange => exact (Nat.zero_add _).le

/-- The call or one of its threads can take a step in which nothing fails. -/
def CanMove (handles : List Handle) (state : WaitForAll Handle) : Prop :=
  ∃ move after, move.ofThread = true ∧ move.Succeeds ∧ WaitStep handles state move after

/-- A wait returns where the main event or a handle of the chunk is set. -/
theorem exists_waitForMultipleObjects {first : Bool} {chunk : Nat}
    {param : WaitForAllParam Handle} {signalled : Handle → Bool}
    (found : (waitForAllParams handles)[chunk]? = some param)
    (set : first = true ∨ ∃ handle ∈ param.handles, signalled handle = true) :
    ∃ res, waitForMultipleObjects (first :: param.handles.map signalled) = some res := by
  have few : (first :: param.handles.map signalled).length ≤ maximumWaitObjects := by
    rw [List.length_cons, List.length_map]
    exact length_handles_lt found
  have any : ∃ value ∈ first :: param.handles.map signalled, id value = true := by
    rcases set with first_set | ⟨handle, member, handle_set⟩
    · exact ⟨first, List.mem_cons_self, first_set⟩
    · exact ⟨_, List.mem_cons_of_mem _ (List.mem_map_of_mem member), handle_set⟩
  rw [waitForMultipleObjects, if_pos few]
  exact Option.isSome_iff_exists.mp (List.findIdx?_isSome.trans (List.any_eq_true.mpr any))

/-- A thread that has not ended can take a step when the wait is over or one of its handles is
set. -/
theorem waiter_canMove {state : WaitForAll Handle} {chunk : Nat} {param : WaitForAllParam Handle}
    (found : (waitForAllParams handles)[chunk]? = some param)
    (present : state.waiters chunk ≠ .absent) (running : state.waiters chunk ≠ .ended)
    (set : state.mainEvent = true ∨ ∃ handle ∈ param.handles, state.signalled handle = true) :
    CanMove handles state := by
  cases stands : state.waiters chunk with
  | absent => exact absurd stands present
  | waiting =>
      obtain ⟨res, result⟩ := exists_waitForMultipleObjects found set
      exact ⟨.waiter chunk, _, rfl, trivial, .waiterWakes chunk stands found result⟩
  | woken res => exact ⟨.waiter chunk, _, rfl, trivial, .waiterReports chunk stands found⟩
  | leaving => exact ⟨.waiter chunk, _, rfl, trivial, .waiterEnds chunk stands⟩
  | ended => exact absurd stands running

/-- While a handle is set, the call goes on until it has returned. -/
theorem Ordered.canMove {state : WaitForAll Handle} {handle : Handle}
    (ordered : Ordered handles state) (member : handle ∈ handles)
    (set : state.signalled handle = true) :
    (∃ value, state.caller = .returned value) ∨ CanMove handles state := by
  cases stands : state.caller with
  | entered => exact .inr ⟨.caller, _, rfl, trivial, .prepare stands⟩
  | starting chunk =>
      right
      by_cases more : chunk < state.chunks
      · exact ⟨.caller, _, rfl, trivial, .create stands more⟩
      · exact ⟨.caller, _, rfl, trivial, .created stands more⟩
  | waiting =>
      right
      by_cases set_now : state.mainEvent = true
      · exact ⟨.caller, _, rfl, trivial, .wake stands set_now⟩
      · have total := (ordered.waiting stands).resolve_left set_now
        obtain ⟨chunk, param, found, inside⟩ := exists_param member
        have bound : chunk < waitForAllChunks handles := by
          rw [← length_waitForAllParams]
          exact (List.getElem?_eq_some_iff.mp found).1
        apply waiter_canMove found
        · simp only [Ne, ordered.absent, created, stands]
          omega
        · intro ended
          exact set_now (ordered.ended chunk ended)
        · exact .inr ⟨handle, inside, set⟩
  | joining chunk =>
      right
      obtain ⟨set_now, -⟩ := ordered.joining chunk stands
      by_cases more : chunk < state.chunks
      · by_cases ended : state.waiters chunk = .ended
        · exact ⟨.caller, _, rfl, trivial, .join stands more ended⟩
        · have present : state.waiters chunk ≠ .absent := by
            simp only [Ne, ordered.absent, created, stands]
            omega
          have bound : chunk < (waitForAllParams handles).length := by
            rw [length_waitForAllParams]
            exact ordered.chunk_lt present
          exact waiter_canMove (List.getElem?_eq_getElem bound) present ended (.inl set_now)
      · exact ⟨.caller, _, rfl, trivial, .finish stands more⟩
  | returned value => exact .inl ⟨value, rfl⟩

/-- A call of `_wait_for_all` and its threads take at most six steps for each chunk and four
more, and as long as one of the handles is set some step is possible until the call has
returned. -/
theorem waitForAll_ends {signalled : Handle → Bool} {moves : List WaitMove}
    {final : WaitForAll Handle}
    (trace : Trace (WaitStep handles) (start signalled) moves final) :
    moves.countP WaitMove.ofThread ≤ 6 * waitForAllChunks handles + 4 ∧
      ∀ handle ∈ handles, final.signalled handle = true →
        (∃ value, final.caller = .returned value) ∨ CanMove handles final := by
  have keep : ∀ before move after, Ordered handles before →
      WaitStep handles before move after → Ordered handles after :=
    fun _ _ _ ordered step => ordered.step step
  constructor
  · have counted := trace.countP_add_le WaitMove.ofThread (rank handles)
      fun before move after reachable step =>
        (reachable.invariant _ (ordered_start signalled) keep).rank_falls step
    have first : rank handles (start signalled) = 6 * waitForAllChunks handles + 4 := by
      have threads : ∑ chunk ∈ Finset.range (waitForAllChunks handles),
          waiterRank ((start signalled).waiters chunk) = waitForAllChunks handles * 4 := by
        refine (Finset.sum_const_nat (m := 4) fun _ _ => rfl).trans ?_
        rw [Finset.card_range]
      rw [rank, threads, start, callerRank]
      omega
    omega
  · intro handle member set
    exact (trace.invariant _ (ordered_start signalled) keep).canMove member set

/-- A call for 65 handles takes 14 steps of at most 16, and it can go on where it waits. -/
theorem waitForAll_ends_sample :
    ∃ waiting final : WaitForAll Nat,
      Trace (WaitStep (List.range 65)) (start (· = 64))
          [.caller, .caller, .caller, .caller, .waiter 1, .waiter 1, .waiter 1, .waiter 0,
            .waiter 0, .waiter 0, .caller, .caller, .caller, .caller] final ∧
        14 ≤ 6 * waitForAllChunks (List.range 65) + 4 ∧
        Trace (WaitStep (List.range 65)) (start (· = 64)) [.caller, .caller, .caller, .caller]
          waiting ∧
        waiting.caller = .waiting ∧ CanMove (List.range 65) waiting := by
  obtain ⟨waiting, final, waits, stands, set, trace, -⟩ := exists_sample
  refine ⟨waiting, final, trace, (waitForAll_ends trace).1, waits, stands, ?_⟩
  rcases (waitForAll_ends waits).2 64 (by decide) set with ⟨value, returned⟩ | canMove
  · rw [stands] at returned
    cases returned
  · exact canMove

end WaitForAll

end Win32
end AdbWide
