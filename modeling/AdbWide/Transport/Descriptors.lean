import AdbWide.ReusedNames
import AdbWide.Transport.Lifetime

/-!
# The descriptors of a socket transport

A socket transport has three descriptors: the socket to the device, and the two ends of the socket
pair between its threads and the main loop.  Descriptors are places in a table, and places are used
again.  This file follows the calls of `adb_close` that are made for one transport while others open
and close descriptors of their own.
-/

namespace AdbWide
namespace Transport

/-! ## The table of handles -/

/-- `_win32_fhs` and `_win32_fh_count`.  A place in use is marked with the number of the call of
`_fh_alloc` that took it. -/
structure HandleTable where
  fhCount : Nat
  fhs : Nat → Option Nat
  /-- How often `_fh_alloc` has found a place. -/
  allocs : Nat

namespace HandleTable

/-- `WIN32_FH_BASE`. -/
def fhBase : Int := 100

/-- `WIN32_MAX_FHS`. -/
def maxFhs : Nat := 128

/-- `_fh_from_int`. -/
def fhFromInt (table : HandleTable) (fd : Int) : Option Nat :=
  let place := fd - fhBase
  if place < 0 ∨ (table.fhCount : Int) ≤ place then none
  else if table.fhs place.toNat = none then none
  else some place.toNat

/-- Take a place. -/
def take (table : HandleTable) (place : Nat) : HandleTable :=
  { table with
    fhs := Function.update table.fhs place (some table.allocs)
    allocs := table.allocs + 1 }

/-- `_fh_alloc`, with the descriptor of the place. -/
def fhAlloc (table : HandleTable) : Option (Int × HandleTable) :=
  if table.fhCount < maxFhs then
    some (fhBase + table.fhCount,
      { table with fhCount := table.fhCount + 1 }.take table.fhCount)
  else
    ((List.range maxFhs).find? fun place => table.fhs place = none).map fun (place : Nat) =>
      (fhBase + place, table.take place)

/-- `adb_close`, taken to be one step. -/
def adbClose (table : HandleTable) (fd : Int) : HandleTable :=
  match table.fhFromInt fd with
  | none => table
  | some place => { table with fhs := Function.update table.fhs place none }

/-- What the descriptors stand for. -/
def names (table : HandleTable) : ReusedNames Int where
  holder fd := (table.fhFromInt fd).bind table.fhs
  issued := table.allocs

theorem holder_eq (table : HandleTable) (fd : Int) :
    table.names.holder fd =
      if 0 ≤ fd - fhBase ∧ fd - fhBase < table.fhCount then table.fhs (fd - fhBase).toNat
      else none := by
  simp only [names, fhFromInt]
  by_cases inside : 0 ≤ fd - fhBase ∧ fd - fhBase < table.fhCount
  · rw [if_neg (by omega), if_pos inside]
    split
    · next empty => exact empty.symm
    · rfl
  · rw [if_pos (by omega), if_neg inside]
    rfl

theorem holder_eq_none_of_fhFromInt {table : HandleTable} {fd : Int} :
    table.fhFromInt fd = none ↔ table.names.holder fd = none := by
  simp only [names, fhFromInt]
  split
  · simp
  · split
    · simp
    · next used => simp [used]

theorem names_adbClose (table : HandleTable) (fd : Int) :
    (table.adbClose fd).names = table.names.drop fd := by
  cases found : table.fhFromInt fd with
  | none =>
      have free := holder_eq_none_of_fhFromInt.mp found
      have same : table.names.drop fd = table.names := by
        rw [ReusedNames.drop, ← free, Function.update_eq_self]
      rw [adbClose, found, same]
  | some place =>
      have place_eq : place = (fd - fhBase).toNat ∧ 0 ≤ fd - fhBase := by
        simp only [fhFromInt] at found
        split at found
        · cases found
        · split at found
          · cases found
          · exact ⟨(Option.some.inj found).symm, by omega⟩
      have closed : table.adbClose fd =
          { table with fhs := Function.update table.fhs place none } := by
        rw [adbClose, found]
      have holders : (table.adbClose fd).names.holder = (table.names.drop fd).holder := by
        funext other
        rw [closed]
        rcases eq_or_ne other fd with rfl | different
        · rw [ReusedNames.holder_drop_self, holder_eq, place_eq.1]
          simp
        · rw [ReusedNames.holder_drop_of_ne different, holder_eq, holder_eq]
          dsimp only
          split
          · next inside =>
              have apart : (other - fhBase).toNat ≠ place := by omega
              rw [Function.update_of_ne apart]
          · rfl
      rw [ReusedNames.mk.injEq]
      exact ⟨holders, by rw [closed]; rfl⟩

theorem names_take {table : HandleTable} {place count : Nat} (inside : place < count)
    (others : ∀ other : Nat, other ≠ place → (other < count ↔ other < table.fhCount)) :
    ({ table with fhCount := count }.take place).names = table.names.give (fhBase + place) := by
  have place_eq : (fhBase + place - fhBase).toNat = place := by omega
  rw [ReusedNames.mk.injEq]
  refine ⟨?_, rfl⟩
  funext other
  rcases eq_or_ne other (fhBase + place) with rfl | different
  · rw [ReusedNames.holder_give_self, holder_eq, if_pos ⟨by omega, by simp only [take]; omega⟩,
      place_eq]
    exact Function.update_self ..
  · rw [ReusedNames.holder_give_of_ne different, holder_eq, holder_eq]
    by_cases low : other - fhBase < 0
    · rw [if_neg (by omega), if_neg (by omega)]
    · have apart : (other - fhBase).toNat ≠ place := by omega
      have same := others (other - fhBase).toNat apart
      have fhs : ({ table with fhCount := count }.take place).fhs (other - fhBase).toNat =
          table.fhs (other - fhBase).toNat := Function.update_of_ne apart ..
      rw [fhs]
      refine if_congr ?_ rfl rfl
      simp only [take]
      omega

theorem names_fhAlloc {table after : HandleTable} {fd : Int}
    (opened : table.fhAlloc = some (fd, after)) :
    after.names = table.names.give fd ∧ table.names.holder fd = none := by
  simp only [fhAlloc] at opened
  split at opened
  · obtain ⟨rfl, rfl⟩ := Prod.mk.inj (Option.some.inj opened)
    refine ⟨names_take (by omega) (by omega), ?_⟩
    rw [holder_eq, if_neg (by omega)]
  · obtain ⟨place, found, same⟩ := Option.map_eq_some_iff.mp opened
    obtain ⟨rfl, rfl⟩ := Prod.mk.inj same
    have inside := List.mem_range.mp (List.mem_of_find?_eq_some found)
    have empty : table.fhs place = none := by simpa using List.find?_some found
    have taken : ({ table with fhCount := table.fhCount }.take place).names = _ :=
      names_take (by omega) (by simp)
    refine ⟨taken, ?_⟩
    have place_eq : (fhBase + place - fhBase).toNat = place := by omega
    rw [holder_eq, place_eq, empty, ite_self]

end HandleTable

/-! ## The transport -/

/-- The descriptors of a socket transport. -/
inductive Role where
  | sfd
  | transportSocket
  | fd
  deriving DecidableEq, Repr

/-- A call of `adb_close` for a transport: for which of its descriptors, and the number of what was
closed. -/
structure CloseCall where
  role : Role
  closed : Option Nat
  deriving DecidableEq, Repr

/-- A socket transport in the table of handles. -/
structure Descriptors (ι : Type) where
  table : HandleTable
  system : System ι
  sfd : Int
  transportSocket : Int
  fd : Int
  /-- `transport_registration_func` has started the threads. -/
  registered : Bool
  /-- `transport_registration_func` has freed the transport. -/
  removed : Bool
  /-- The numbers of its descriptors. -/
  own : Role → Option Nat
  /-- The calls of `adb_close` so far. -/
  calls : List CloseCall

namespace Descriptors

variable {ι : Type}

/-- `adb_close` of a descriptor of the transport. -/
def adbClose (state : Descriptors ι) (role : Role) (fd : Int) : Descriptors ι :=
  { state with
    table := state.table.adbClose fd
    calls := state.calls ++ [⟨role, state.table.names.holder fd⟩] }

/-- `remote_kick`. -/
def remoteKick (state : Descriptors ι) : Descriptors ι :=
  { state with sfd := -1 }.adbClose .sfd state.sfd

/-- `remote_close`. -/
def remoteClose (state : Descriptors ι) : Descriptors ι :=
  state.adbClose .fd state.fd

/-- The calls of `t->kick` and `t->close` that the life of the transport has come to. -/
def follow (state : Descriptors ι) (system : System ι) : Descriptors ι :=
  let state' :=
    if state.system.life.kickCalls < system.life.kickCalls then state.remoteKick else state
  let state' :=
    if state.system.life.closeCalls < system.life.closeCalls then state'.remoteClose else state'
  { state' with system }

/-- Action 1 of `transport_registration_func`, with the ends of the socket pair. -/
def register (state : Descriptors ι) (transportSocket fd : Int) (table : HandleTable) :
    Descriptors ι :=
  { state with
    table
    system := .start ι 2
    transportSocket
    fd
    registered := true
    own := fun
      | .sfd => state.own .sfd
      | .transportSocket => some state.table.allocs
      | .fd => some (state.table.allocs + 1) }

/-- Action 0 of `transport_registration_func`: `fdevent_remove` closes the end of the socket pair
in the main loop, and `adb_close` is called for the other end. -/
def remove (state : Descriptors ι) : Descriptors ι :=
  { (state.adbClose .transportSocket state.transportSocket).adbClose .fd state.fd with
    removed := true }

end Descriptors

/-- What happens in a program with a socket transport. -/
inductive DescriptorEvent (ι : Type) where
  /-- Someone else opens a descriptor. -/
  | openOther
  /-- Someone else closes a descriptor. -/
  | closeOther (fd : Int)
  | register
  | move (move : Move ι)
  | remove

/-- One event.  Others leave the descriptors of the transport alone, and nothing is done for a
transport that has been freed. -/
inductive DescriptorStep {ι : Type} [DecidableEq ι] :
    Descriptors ι → DescriptorEvent ι → Descriptors ι → Prop where
  | openOther {state : Descriptors ι} {fd : Int} {table : HandleTable} :
      state.table.fhAlloc = some (fd, table) →
      DescriptorStep state .openOther { state with table }
  | closeOther {state : Descriptors ι} (fd : Int) :
      (∀ role n, state.own role = some n → state.table.names.holder fd ≠ some n) →
      DescriptorStep state (.closeOther fd) { state with table := state.table.adbClose fd }
  | register {state : Descriptors ι} {transportSocket fd : Int} {table table' : HandleTable} :
      state.registered = false →
      state.table.fhAlloc = some (transportSocket, table) →
      table.fhAlloc = some (fd, table') →
      DescriptorStep state .register (state.register transportSocket fd table')
  | move {state : Descriptors ι} {move : Move ι} {system : System ι} :
      state.registered = true → state.removed = false →
      LifeStep (fun _ _ => True) state.system move system →
      DescriptorStep state (.move move) (state.follow system)
  | remove {state : Descriptors ι} :
      state.registered = true → state.removed = false → state.system.life.removals ≠ 0 →
      DescriptorStep state .remove state.remove

/-- Before its registration a transport has only the socket to the device. -/
structure Descriptors.Start {ι : Type} (state : Descriptors ι) : Prop where
  sound : state.table.names.Sound
  unregistered : state.registered = false
  unremoved : state.removed = false
  unused : state.system = .start ι 0
  connected : ∃ n, state.own .sfd = some n ∧ state.table.names.holder state.sfd = some n
  unpaired : state.own .transportSocket = none ∧ state.own .fd = none
  uncalled : state.calls = []

/-! ## What the calls close -/

namespace Descriptors

variable {ι : Type}

/-- How often `adb_close` was called for a descriptor. -/
def callsOf (state : Descriptors ι) (role : Role) : Nat :=
  state.calls.countP (·.role = role)

/-- Each descriptor is closed at most once. -/
def AtMostOnce (state : Descriptors ι) : Prop := ∀ role, state.callsOf role ≤ 1

/-- What has been closed for the transport was its own. -/
def ClosesOwn (state : Descriptors ι) : Prop :=
  ∀ call ∈ state.calls, ∀ n, call.closed = some n → state.own call.role = some n

end Descriptors

/-- The removal of a transport finds the place of `t->fd` empty. -/
def FreeAtRemoval {ι : Type} (state : Descriptors ι) : DescriptorEvent ι → Prop
  | .remove => state.table.fhFromInt state.fd = none
  | _ => True

/-- The closes and the removals go together. -/
theorem Life.exec_removals {life : Life} (paired : life.removals = life.closeCalls)
    (instr : Instr) : (life.exec instr).1.removals = (life.exec instr).1.closeCalls := by
  have unref (life : Life) (paired : life.removals = life.closeCalls) :
      life.transportUnrefLocked.removals = life.transportUnrefLocked.closeCalls := by
    simp only [Life.transportUnrefLocked]
    split
    · simp [paired]
    · exact paired
  cases instr with
  | access | unlink | kickTest | kickInvoke => exact paired
  | kickClaim =>
      simp only [Life.exec]
      split
      · exact paired
      · exact paired
  | unref => exact unref life paired
  | lockedUnregister => exact unref life.kickLocked (by simp [paired])
  | lockedKick => simp [Life.exec, paired]

theorem Life.closeCalls_le_exec (life : Life) (instr : Instr) :
    life.closeCalls ≤ (life.exec instr).1.closeCalls := by
  have unref (life : Life) : life.closeCalls ≤ life.transportUnrefLocked.closeCalls := by
    simp only [Life.transportUnrefLocked]
    split
    · simp
    · exact Nat.le_refl _
  cases instr with
  | access | unlink | kickTest | kickInvoke => exact Nat.le_refl _
  | kickClaim =>
      simp only [Life.exec]
      split
      · exact Nat.le_refl _
      · exact Nat.le_refl _
  | unref => exact unref life
  | lockedUnregister => simpa [Life.exec] using unref life.kickLocked
  | lockedKick => simp [Life.exec]

theorem ClosedOnce.calls_le {life : Life} (once : ClosedOnce life) : life.closeCalls ≤ 1 := by
  rcases once with none_yet | ⟨closed, -⟩
  · omega
  · omega

/-- What a transport that has been kicked and closed so many times has, and whose end of the socket
pair in the main loop has been closed so many times: what it has not closed yet is still its own. -/
structure Holdings {ι : Type} (state : Descriptors ι) (kicks closes pairs : Nat) : Prop where
  sound : state.table.names.Sound
  issued : ∀ role n, state.own role = some n → n < state.table.allocs
  distinct : ∀ role other n, state.own role = some n → state.own other = some n → role = other
  connected : ∃ n, state.own .sfd = some n ∧
    (kicks = 0 → state.table.names.holder state.sfd = some n)
  early : state.registered = false → kicks = 0 ∧ closes = 0 ∧ pairs = 0 ∧ state.removed = false ∧
    state.calls = [] ∧ state.own .transportSocket = none ∧ state.own .fd = none
  running : state.registered = true → ∃ n, state.own .fd = some n ∧
    (closes = 0 → state.table.names.holder state.fd = some n) ∧
    (closes ≠ 0 → state.table.names.Gone n)
  watched : state.registered = true → ∃ n, state.own .transportSocket = some n ∧
    (pairs = 0 → state.table.names.holder state.transportSocket = some n)
  apart : state.registered = true → kicks = 0 →
    state.fd ≠ state.sfd ∧ state.transportSocket ≠ state.sfd
  ends : state.registered = true → state.transportSocket ≠ state.fd
  sfdCalls : state.callsOf .sfd = kicks
  pairCalls : state.callsOf .transportSocket = pairs
  fdCalls : state.callsOf .fd = closes + state.removed.toNat
  removedLate : state.removed = true → closes ≠ 0

/-- A transport in the middle of its life. -/
structure Owned {ι : Type} (state : Descriptors ι) : Prop where
  kick : KickState state.system
  once : ClosedOnce state.system.life
  paired : state.system.life.removals = state.system.life.closeCalls
  holdings : Holdings state state.system.life.kickCalls state.system.life.closeCalls
    state.removed.toNat

section

variable {ι : Type} {state : Descriptors ι} {kicks closes closes' pairs : Nat}

theorem Descriptors.Start.holdings (start : state.Start) : Holdings state 0 0 0 := by
  obtain ⟨n, own, held⟩ := start.connected
  have only (role : Role) (m : Nat) (mine : state.own role = some m) : role = .sfd := by
    cases role with
    | sfd => rfl
    | transportSocket =>
        rw [start.unpaired.1] at mine
        cases mine
    | fd =>
        rw [start.unpaired.2] at mine
        cases mine
  constructor
  case sound => exact start.sound
  case issued =>
    intro role m mine
    obtain rfl := only role m mine
    rw [own] at mine
    obtain rfl := Option.some.inj mine
    exact start.sound.issued _ _ held
  case distinct =>
    intro role other m mine mine'
    rw [only role m mine, only other m mine']
  case connected => exact ⟨n, own, fun _ => held⟩
  case early => exact fun _ => ⟨rfl, rfl, rfl, start.unremoved, start.uncalled, start.unpaired⟩
  case running =>
    intro registered
    rw [start.unregistered] at registered
    cases registered
  case watched =>
    intro registered
    rw [start.unregistered] at registered
    cases registered
  case apart =>
    intro registered
    rw [start.unregistered] at registered
    cases registered
  case ends =>
    intro registered
    rw [start.unregistered] at registered
    cases registered
  case sfdCalls => simp [Descriptors.callsOf, start.uncalled]
  case pairCalls => simp [Descriptors.callsOf, start.uncalled]
  case fdCalls => simp [Descriptors.callsOf, start.uncalled, start.unremoved]
  case removedLate =>
    intro removed
    rw [start.unremoved] at removed
    cases removed

theorem Descriptors.Start.owned (start : state.Start) : Owned state where
  kick := by
    rw [start.unused]
    exact .unclaimed rfl rfl (by simp [System.start])
  once := by
    rw [start.unused]
    exact .inl rfl
  paired := by
    rw [start.unused]
    rfl
  holdings := by
    rw [start.unused, start.unremoved]
    exact start.holdings

/-- Others change the table and leave alone what belongs to the transport. -/
theorem Holdings.retable (holdings : Holdings state kicks closes pairs) {table : HandleTable}
    (sound : table.names.Sound) (issued : state.table.allocs ≤ table.allocs)
    (kept : ∀ role n fd, state.own role = some n → state.table.names.holder fd = some n →
      table.names.holder fd = some n)
    (gone : ∀ n, state.table.names.Gone n → table.names.Gone n) :
    Holdings { state with table } kicks closes pairs where
  sound := sound
  issued role n mine := Nat.lt_of_lt_of_le (holdings.issued role n mine) issued
  distinct := holdings.distinct
  connected := by
    obtain ⟨n, mine, held⟩ := holdings.connected
    exact ⟨n, mine, fun unkicked => kept .sfd n _ mine (held unkicked)⟩
  early := holdings.early
  running registered := by
    obtain ⟨n, mine, held, late⟩ := holdings.running registered
    exact ⟨n, mine, fun unclosed => kept .fd n _ mine (held unclosed),
      fun closed => gone n (late closed)⟩
  watched registered := by
    obtain ⟨n, mine, held⟩ := holdings.watched registered
    exact ⟨n, mine, fun unclosed => kept .transportSocket n _ mine (held unclosed)⟩
  apart := holdings.apart
  ends := holdings.ends
  sfdCalls := holdings.sfdCalls
  pairCalls := holdings.pairCalls
  fdCalls := holdings.fdCalls
  removedLate := holdings.removedLate

theorem Holdings.openOther (holdings : Holdings state kicks closes pairs) {fd : Int}
    {table : HandleTable} (opened : state.table.fhAlloc = some (fd, table)) :
    Holdings { state with table } kicks closes pairs := by
  obtain ⟨names, free⟩ := HandleTable.names_fhAlloc opened
  have issued : table.allocs = state.table.allocs + 1 := congrArg ReusedNames.issued names
  refine holdings.retable (names ▸ holdings.sound.give fd) (by omega) ?_ ?_
  · intro role n other mine held
    have different : other ≠ fd := by
      rintro rfl
      rw [free] at held
      cases held
    rw [names, ReusedNames.holder_give_of_ne different, held]
  · intro n gone
    rw [names]
    exact gone.give fd

theorem Holdings.closeOther (holdings : Holdings state kicks closes pairs) {fd : Int}
    (foreign : ∀ role n, state.own role = some n → state.table.names.holder fd ≠ some n) :
    Holdings { state with table := state.table.adbClose fd } kicks closes pairs := by
  have names := HandleTable.names_adbClose state.table fd
  have issued : (state.table.adbClose fd).allocs = state.table.allocs :=
    congrArg ReusedNames.issued names
  refine holdings.retable (names ▸ holdings.sound.drop fd) (by omega) ?_ ?_
  · intro role n other mine held
    have different : other ≠ fd := by
      rintro rfl
      exact foreign role n mine held
    rw [names, ReusedNames.holder_drop_of_ne different, held]
  · intro n gone
    rw [names]
    exact gone.drop fd

/-- A place that is free is not that of the connection. -/
theorem Holdings.fhAlloc_ne_sfd {closes pairs : Nat} (holdings : Holdings state 0 closes pairs)
    {fd : Int} {table : HandleTable} (alloc : state.table.fhAlloc = some (fd, table)) :
    fd ≠ state.sfd := by
  obtain ⟨-, free⟩ := HandleTable.names_fhAlloc alloc
  obtain ⟨n, -, held⟩ := holdings.connected
  rintro rfl
  rw [held rfl] at free
  cases free

/-- The number of a descriptor says which one it is. -/
theorem Holdings.role_of_register {kicks closes pairs : Nat}
    (holdings : Holdings state kicks closes pairs) {transportSocket fd : Int} {table : HandleTable}
    {role : Role} {n : Nat} (own : (state.register transportSocket fd table).own role = some n) :
    role = if n < state.table.allocs then .sfd
      else if n = state.table.allocs then .transportSocket else .fd := by
  cases role with
  | sfd => rw [if_pos (holdings.issued .sfd n own)]
  | transportSocket =>
      obtain rfl := Option.some.inj own
      rw [if_neg (Nat.lt_irrefl _), if_pos rfl]
  | fd =>
      obtain rfl := Option.some.inj own
      rw [if_neg (by omega), if_neg (by omega)]

theorem Holdings.register (holdings : Holdings state 0 0 0)
    (unregistered : state.registered = false) {transportSocket fd : Int}
    {table table' : HandleTable}
    (first : state.table.fhAlloc = some (transportSocket, table))
    (second : table.fhAlloc = some (fd, table')) :
    Holdings (state.register transportSocket fd table') 0 0 0 := by
  obtain ⟨-, -, -, unremoved, uncalled, -⟩ := holdings.early unregistered
  obtain ⟨names, -⟩ := HandleTable.names_fhAlloc first
  obtain ⟨names', free⟩ := HandleTable.names_fhAlloc second
  have issued : table.allocs = state.table.allocs + 1 := congrArg ReusedNames.issued names
  have issued' : table'.allocs = table.allocs + 1 := congrArg ReusedNames.issued names'
  have others := (holdings.openOther first).openOther second
  have given : table.names.holder transportSocket = some state.table.allocs := by
    rw [names, ReusedNames.holder_give_self]
    rfl
  have ends : transportSocket ≠ fd := by
    rintro rfl
    rw [given] at free
    cases free
  constructor
  case sound => exact others.sound
  case issued =>
    intro role m own
    cases role with
    | sfd => exact others.issued .sfd m own
    | transportSocket =>
        obtain rfl := Option.some.inj own
        simp only [Descriptors.register]
        omega
    | fd =>
        obtain rfl := Option.some.inj own
        simp only [Descriptors.register]
        omega
  case distinct =>
    intro role other m own own'
    rw [holdings.role_of_register own, holdings.role_of_register own']
  case connected => exact others.connected
  case early =>
    intro registered
    cases registered
  case running =>
    refine fun _ => ⟨state.table.allocs + 1, rfl, fun _ => ?_, fun closed => absurd rfl closed⟩
    simp only [Descriptors.register]
    rw [names', ReusedNames.holder_give_self]
    exact congrArg some issued
  case watched =>
    refine fun _ => ⟨state.table.allocs, rfl, fun _ => ?_⟩
    simp only [Descriptors.register]
    rw [names', ReusedNames.holder_give_of_ne ends, given]
  case apart =>
    exact fun _ _ => ⟨(holdings.openOther first).fhAlloc_ne_sfd second,
      holdings.fhAlloc_ne_sfd first⟩
  case ends => exact fun _ => ends
  case sfdCalls => simp [Descriptors.callsOf, Descriptors.register, uncalled]
  case pairCalls => simp [Descriptors.callsOf, Descriptors.register, uncalled]
  case fdCalls => simp [Descriptors.callsOf, Descriptors.register, uncalled, unremoved]
  case removedLate =>
    intro removed
    rw [Descriptors.register] at removed
    rw [unremoved] at removed
    cases removed

theorem callsOf_adbClose (state : Descriptors ι) (role other : Role) (fd : Int) :
    (state.adbClose role fd).callsOf other =
      state.callsOf other + if role = other then 1 else 0 := by
  simp [Descriptors.callsOf, Descriptors.adbClose, List.countP_append, List.countP_singleton]

theorem callsOf_remoteKick (state : Descriptors ι) (other : Role) :
    state.remoteKick.callsOf other = state.callsOf other + if .sfd = other then 1 else 0 :=
  callsOf_adbClose { state with sfd := -1 } .sfd other state.sfd

theorem Holdings.remoteKick (holdings : Holdings state 0 closes pairs)
    (registered : state.registered = true) : Holdings state.remoteKick 1 closes pairs := by
  have names := HandleTable.names_adbClose state.table state.sfd
  have issued : (state.table.adbClose state.sfd).allocs = state.table.allocs :=
    congrArg ReusedNames.issued names
  constructor
  case sound => exact names ▸ holdings.sound.drop state.sfd
  case issued => exact fun role n mine => issued ▸ holdings.issued role n mine
  case distinct => exact holdings.distinct
  case connected =>
    obtain ⟨n, mine, -⟩ := holdings.connected
    exact ⟨n, mine, fun unkicked => absurd unkicked Nat.one_ne_zero⟩
  case early =>
    intro unregistered
    exact absurd (registered.symm.trans unregistered) (by decide)
  case running =>
    intro _
    obtain ⟨n, mine, held, late⟩ := holdings.running registered
    refine ⟨n, mine, fun unclosed => ?_, fun closed => ?_⟩
    · have kept := held unclosed
      rw [← ReusedNames.holder_drop_of_ne (holdings.apart registered rfl).1, ← names] at kept
      exact kept
    · have gone := (late closed).drop state.sfd
      rw [← names] at gone
      exact gone
  case watched =>
    intro _
    obtain ⟨n, mine, held⟩ := holdings.watched registered
    refine ⟨n, mine, fun unclosed => ?_⟩
    have kept := held unclosed
    rw [← ReusedNames.holder_drop_of_ne (holdings.apart registered rfl).2, ← names] at kept
    exact kept
  case apart => exact fun _ unkicked => absurd unkicked Nat.one_ne_zero
  case ends => exact holdings.ends
  case sfdCalls =>
    rw [callsOf_remoteKick, holdings.sfdCalls]
    rfl
  case pairCalls =>
    rw [callsOf_remoteKick, holdings.pairCalls]
    rfl
  case fdCalls =>
    rw [callsOf_remoteKick, holdings.fdCalls]
    rfl
  case removedLate => exact holdings.removedLate

/-- A call of `adb_close` on `t->fd`, by `remote_close` or when the transport is removed. -/
theorem Holdings.closeFd (holdings : Holdings state kicks closes pairs)
    (registered : state.registered = true) (unremoved : state.removed = false) {removed : Bool}
    (more : closes + 1 = closes' + removed.toNat) (closed : closes' ≠ 0) :
    Holdings { state.adbClose .fd state.fd with removed } kicks closes' pairs := by
  have names := HandleTable.names_adbClose state.table state.fd
  have issued : (state.table.adbClose state.fd).allocs = state.table.allocs :=
    congrArg ReusedNames.issued names
  constructor
  case sound => exact names ▸ holdings.sound.drop state.fd
  case issued => exact fun role n mine => issued ▸ holdings.issued role n mine
  case distinct => exact holdings.distinct
  case connected =>
    obtain ⟨n, mine, held⟩ := holdings.connected
    refine ⟨n, mine, fun unkicked => ?_⟩
    have kept := held unkicked
    rw [← ReusedNames.holder_drop_of_ne (holdings.apart registered unkicked).1.symm,
      ← names] at kept
    exact kept
  case early =>
    intro unregistered
    exact absurd (registered.symm.trans unregistered) (by decide)
  case running =>
    intro _
    obtain ⟨n, mine, held, late⟩ := holdings.running registered
    refine ⟨n, mine, fun unclosed => absurd unclosed closed, fun _ => ?_⟩
    have gone : (state.table.names.drop state.fd).Gone n := by
      by_cases first : closes = 0
      · exact holdings.sound.gone (held first)
      · exact (late first).drop state.fd
    rw [← names] at gone
    exact gone
  case watched =>
    intro _
    obtain ⟨n, mine, held⟩ := holdings.watched registered
    refine ⟨n, mine, fun unclosed => ?_⟩
    have kept := held unclosed
    rw [← ReusedNames.holder_drop_of_ne (holdings.ends registered), ← names] at kept
    exact kept
  case apart => exact holdings.apart
  case ends => exact holdings.ends
  case sfdCalls => exact (callsOf_adbClose state .fd .sfd state.fd).trans holdings.sfdCalls
  case pairCalls =>
    exact (callsOf_adbClose state .fd .transportSocket state.fd).trans holdings.pairCalls
  case fdCalls =>
    have calls := holdings.fdCalls
    rw [unremoved] at calls
    refine (callsOf_adbClose state .fd .fd state.fd).trans ?_
    rw [calls, if_pos rfl]
    exact more
  case removedLate => exact fun _ => closed

theorem Holdings.remoteClose (holdings : Holdings state kicks 0 pairs)
    (registered : state.registered = true) (unremoved : state.removed = false) :
    Holdings state.remoteClose kicks 1 pairs := by
  have once : 0 + 1 = 1 + state.removed.toNat := by
    rw [unremoved]
    rfl
  exact holdings.closeFd registered unremoved once Nat.one_ne_zero

/-- `fdevent_remove` closes the end of the socket pair that is still open. -/
theorem Holdings.closePair (holdings : Holdings state kicks closes 0)
    (registered : state.registered = true) :
    Holdings (state.adbClose .transportSocket state.transportSocket) kicks closes 1 := by
  have names := HandleTable.names_adbClose state.table state.transportSocket
  have issued : (state.table.adbClose state.transportSocket).allocs = state.table.allocs :=
    congrArg ReusedNames.issued names
  constructor
  case sound => exact names ▸ holdings.sound.drop state.transportSocket
  case issued => exact fun role n mine => issued ▸ holdings.issued role n mine
  case distinct => exact holdings.distinct
  case connected =>
    obtain ⟨n, mine, held⟩ := holdings.connected
    refine ⟨n, mine, fun unkicked => ?_⟩
    have kept := held unkicked
    rw [← ReusedNames.holder_drop_of_ne (holdings.apart registered unkicked).2.symm,
      ← names] at kept
    exact kept
  case early =>
    intro unregistered
    exact absurd (registered.symm.trans unregistered) (by decide)
  case running =>
    intro _
    obtain ⟨n, mine, held, late⟩ := holdings.running registered
    refine ⟨n, mine, fun unclosed => ?_, fun closed => ?_⟩
    · have kept := held unclosed
      rw [← ReusedNames.holder_drop_of_ne (holdings.ends registered).symm, ← names] at kept
      exact kept
    · have gone := (late closed).drop state.transportSocket
      rw [← names] at gone
      exact gone
  case watched =>
    intro _
    obtain ⟨n, mine, -⟩ := holdings.watched registered
    exact ⟨n, mine, fun unclosed => absurd unclosed Nat.one_ne_zero⟩
  case apart => exact holdings.apart
  case ends => exact holdings.ends
  case sfdCalls =>
    exact (callsOf_adbClose state .transportSocket .sfd _).trans holdings.sfdCalls
  case pairCalls =>
    rw [callsOf_adbClose, holdings.pairCalls]
    rfl
  case fdCalls =>
    exact (callsOf_adbClose state .transportSocket .fd _).trans holdings.fdCalls
  case removedLate => exact holdings.removedLate

theorem Holdings.remove (holdings : Holdings state kicks closes 0)
    (registered : state.registered = true) (unremoved : state.removed = false)
    (closed : closes ≠ 0) : Holdings state.remove kicks closes 1 :=
  (holdings.closePair registered).closeFd registered unremoved rfl closed

/-- The threads say nothing about the table. -/
theorem Holdings.resystem (holdings : Holdings state kicks closes pairs) (system : System ι) :
    Holdings { state with system } kicks closes pairs :=
  ⟨holdings.sound, holdings.issued, holdings.distinct, holdings.connected, holdings.early,
    holdings.running, holdings.watched, holdings.apart, holdings.ends, holdings.sfdCalls,
    holdings.pairCalls, holdings.fdCalls, holdings.removedLate⟩

theorem closesOwn_adbClose (role : Role) (fd : Int) :
    (state.adbClose role fd).ClosesOwn ↔
      state.ClosesOwn ∧ ∀ n, state.table.names.holder fd = some n → state.own role = some n := by
  simp only [Descriptors.ClosesOwn, Descriptors.adbClose, List.forall_mem_append,
    List.forall_mem_singleton]

/-- What `remote_kick` closes is the socket to the device. -/
theorem Holdings.closesOwn_remoteKick (holdings : Holdings state 0 closes pairs) :
    state.remoteKick.ClosesOwn ↔ state.ClosesOwn := by
  obtain ⟨n, mine, held⟩ := holdings.connected
  refine (closesOwn_adbClose .sfd state.sfd).trans ⟨fun both => both.1, fun own => ⟨own, ?_⟩⟩
  intro m found
  have same : some n = some m := (held rfl).symm.trans found
  rw [← same]
  exact mine

/-- What `remote_close` closes is the end of the socket pair. -/
theorem Holdings.closesOwn_remoteClose (holdings : Holdings state kicks 0 pairs)
    (registered : state.registered = true) :
    state.remoteClose.ClosesOwn ↔ state.ClosesOwn := by
  obtain ⟨n, mine, held, -⟩ := holdings.running registered
  refine (closesOwn_adbClose .fd state.fd).trans ⟨fun both => both.1, fun own => ⟨own, ?_⟩⟩
  intro m found
  have same : some n = some m := (held rfl).symm.trans found
  rw [← same]
  exact mine

/-- What `fdevent_remove` closes is the other end. -/
theorem Holdings.closesOwn_closePair (holdings : Holdings state kicks closes 0)
    (registered : state.registered = true) :
    (state.adbClose .transportSocket state.transportSocket).ClosesOwn ↔ state.ClosesOwn := by
  obtain ⟨n, mine, held⟩ := holdings.watched registered
  rw [closesOwn_adbClose]
  refine ⟨fun both => both.1, fun own => ⟨own, fun m found => ?_⟩⟩
  have same : some n = some m := (held rfl).symm.trans found
  rw [← same]
  exact mine

/-- What is closed again when the transport is removed is not its own any more. -/
theorem Holdings.closesOwn_remove (holdings : Holdings state kicks closes 0)
    (registered : state.registered = true) (closed : closes ≠ 0) :
    state.remove.ClosesOwn ↔ state.ClosesOwn ∧ state.table.fhFromInt state.fd = none := by
  obtain ⟨n, mine, -, late⟩ := holdings.running registered
  have removal : state.remove.ClosesOwn ↔
      ((state.adbClose .transportSocket state.transportSocket).adbClose .fd state.fd).ClosesOwn :=
    Iff.rfl
  have held : (state.adbClose .transportSocket state.transportSocket).table.names.holder state.fd =
      state.table.names.holder state.fd := by
    have names := HandleTable.names_adbClose state.table state.transportSocket
    have dropped := congrArg (·.holder state.fd) names
    exact dropped.trans (ReusedNames.holder_drop_of_ne (holdings.ends registered).symm)
  rw [removal, closesOwn_adbClose, held, holdings.closesOwn_closePair registered,
    HandleTable.holder_eq_none_of_fhFromInt]
  refine and_congr_right fun _ => ⟨fun own => ?_, fun free m found => ?_⟩
  · cases found : state.table.names.holder state.fd with
    | none => rfl
    | some m =>
        have same : some n = some m := mine.symm.trans (own m found)
        rw [← same] at found
        exact absurd found ((late closed).unheld state.fd)
  · rw [free] at found
    cases found

theorem Owned.register (owned : Owned state) (unregistered : state.registered = false)
    {transportSocket fd : Int} {table table' : HandleTable}
    (first : state.table.fhAlloc = some (transportSocket, table))
    (second : table.fhAlloc = some (fd, table')) :
    Owned (state.register transportSocket fd table') := by
  have holdings := owned.holdings
  obtain ⟨unkicked, unclosed, unpaired, unremoved, -⟩ := holdings.early unregistered
  rw [unkicked, unclosed, unpaired] at holdings
  have registered := holdings.register unregistered first second
  refine ⟨?_, .inl rfl, rfl, ?_⟩
  rotate_left
  · have unremoved' : (state.register transportSocket fd table').removed = false := unremoved
    rw [unremoved']
    exact registered
  exact .unclaimed rfl rfl (by simp [Descriptors.register, System.start])

section Steps

variable [DecidableEq ι]

/-- The life of the transport goes on: it is kicked with the socket to the device still its own, and
closed with the end of the socket pair still its own. -/
theorem Owned.follow (owned : Owned state) (registered : state.registered = true)
    (unremoved : state.removed = false) {move : Move ι} {system : System ι}
    (step : LifeStep (fun _ _ => True) state.system move system) :
    Owned (state.follow system) ∧ ((state.follow system).ClosesOwn ↔ state.ClosesOwn) := by
  have kick := step.kickState owned.kick
  have once := step.closedOnce owned.once
  have kicks_le := kick.calls_le
  have closes_le := once.calls_le
  obtain ⟨kicks_ge, closes_ge, paired⟩ :
      state.system.life.kickCalls ≤ system.life.kickCalls ∧
        state.system.life.closeCalls ≤ system.life.closeCalls ∧
        system.life.removals = system.life.closeCalls := by
    cases step with
    | call => exact ⟨Nat.le_refl _, Nat.le_refl _, owned.paired⟩
    | run thread instr rest program_eq =>
        exact ⟨kickCalls_le_exec _ _, Life.closeCalls_le_exec _ _,
          Life.exec_removals owned.paired _⟩
  have kicked : ∃ middle : Descriptors ι,
      (if state.system.life.kickCalls < system.life.kickCalls then state.remoteKick
        else state) = middle ∧
      Holdings middle system.life.kickCalls state.system.life.closeCalls middle.removed.toNat ∧
      middle.registered = true ∧ middle.removed = false ∧
      (middle.ClosesOwn ↔ state.ClosesOwn) := by
    split
    · next more =>
        have holdings := owned.holdings
        rw [show state.system.life.kickCalls = 0 by omega] at holdings
        rw [show system.life.kickCalls = 1 by omega]
        exact ⟨_, rfl, holdings.remoteKick registered, registered, unremoved,
          holdings.closesOwn_remoteKick⟩
    · rw [show system.life.kickCalls = state.system.life.kickCalls by omega]
      exact ⟨_, rfl, owned.holdings, registered, unremoved, Iff.rfl⟩
  obtain ⟨middle, middle_eq, holdings, registered', unremoved', own⟩ := kicked
  simp only [Descriptors.follow, middle_eq]
  split
  · next more =>
      rw [show state.system.life.closeCalls = 0 by omega] at holdings
      refine ⟨⟨kick, once, paired, ?_⟩, (holdings.closesOwn_remoteClose registered').trans own⟩
      have closed := (holdings.remoteClose registered' unremoved').resystem system
      rwa [← show system.life.closeCalls = 1 by omega] at closed
  · rw [show state.system.life.closeCalls = system.life.closeCalls by omega] at holdings
    exact ⟨⟨kick, once, paired, holdings.resystem system⟩, own⟩

/-- Whatever happens, the transport keeps what it has not closed. -/
theorem DescriptorStep.owned {before after : Descriptors ι} {event : DescriptorEvent ι}
    (step : DescriptorStep before event after) (owned : Owned before) : Owned after := by
  obtain ⟨kick, once, paired, holdings⟩ := owned
  cases step with
  | openOther opened => exact ⟨kick, once, paired, holdings.openOther opened⟩
  | closeOther fd foreign => exact ⟨kick, once, paired, holdings.closeOther foreign⟩
  | register unregistered first second =>
      exact Owned.register ⟨kick, once, paired, holdings⟩ unregistered first second
  | move registered unremoved life =>
      exact (Owned.follow ⟨kick, once, paired, holdings⟩ registered unremoved life).1
  | remove registered unremoved asked =>
      rw [paired] at asked
      rw [unremoved] at holdings
      exact ⟨kick, once, paired, holdings.remove registered unremoved asked⟩

/-- The only step that may close what belongs to others is the removal. -/
theorem DescriptorStep.closesOwn {before after : Descriptors ι} {event : DescriptorEvent ι}
    (step : DescriptorStep before event after) (owned : Owned before) :
    after.ClosesOwn ↔ before.ClosesOwn ∧ FreeAtRemoval before event := by
  cases step with
  | openOther opened => exact (and_iff_left trivial).symm
  | closeOther fd foreign => exact (and_iff_left trivial).symm
  | register unregistered first second =>
      obtain ⟨-, -, -, -, uncalled, -⟩ := owned.holdings.early unregistered
      refine Iff.trans ?_ (and_iff_left trivial).symm
      simp [Descriptors.ClosesOwn, Descriptors.register, uncalled]
  | move registered unremoved life =>
      exact (owned.follow registered unremoved life).2.trans (and_iff_left trivial).symm
  | remove registered unremoved asked =>
      have holdings := owned.holdings
      rw [owned.paired] at asked
      rw [unremoved] at holdings
      exact holdings.closesOwn_remove registered asked

/-- A transport is freed by its removal only. -/
theorem DescriptorStep.removed {before after : Descriptors ι} {event : DescriptorEvent ι}
    (step : DescriptorStep before event after) :
    after.removed = true ↔ before.removed = true ∨ event = .remove := by
  cases step with
  | openOther opened => simp
  | closeOther fd foreign => simp
  | register unregistered first second => simp [Descriptors.register]
  | move registered unremoved life =>
      simp only [Descriptors.follow, Descriptors.remoteKick, Descriptors.remoteClose,
        Descriptors.adbClose]
      split <;> split <;> simp
  | remove registered unremoved asked => simp [Descriptors.remove]

end Steps

/-- The end of the socket pair is closed once by `remote_close` and once more by the removal. -/
theorem Owned.atMostOnce (owned : Owned state) : state.AtMostOnce ↔ state.removed = false := by
  have kicks_le := owned.kick.calls_le
  have closes_le := owned.once.calls_le
  have sfd := owned.holdings.sfdCalls
  have pair := owned.holdings.pairCalls
  have fd := owned.holdings.fdCalls
  constructor
  · intro once
    have bound := once .fd
    cases removed : state.removed with
    | false => rfl
    | true =>
        have closed := owned.holdings.removedLate removed
        rw [fd, removed] at bound
        simp only [Bool.toNat_true] at bound
        omega
  · intro unremoved role
    rw [unremoved, Bool.toNat_false] at fd pair
    cases role with
    | sfd => omega
    | transportSocket => omega
    | fd => omega

section Runs

variable [DecidableEq ι] {initial final : Descriptors ι} {events : List (DescriptorEvent ι)}

theorem Descriptors.Start.trace_owned (start : initial.Start)
    (trace : Trace DescriptorStep initial events final) : Owned final :=
  trace.invariant Owned start.owned fun _ _ _ owned step => step.owned owned

theorem Descriptors.Start.trace_removed (start : initial.Start)
    (trace : Trace DescriptorStep initial events final) :
    final.removed = true ↔ .remove ∈ events := by
  induction trace with
  | nil => simp [start.unremoved]
  | snoc earlier last induction =>
      rw [last.removed, induction, List.mem_append, List.mem_singleton, eq_comm]

theorem Descriptors.Start.trace_closesOwn (start : initial.Start)
    (trace : Trace DescriptorStep initial events final) :
    final.ClosesOwn ↔ Trace (Guarded DescriptorStep FreeAtRemoval) initial events final := by
  constructor
  · intro own
    induction trace with
    | nil => exact .nil
    | snoc earlier last induction =>
        obtain ⟨own, free⟩ := (last.closesOwn (start.trace_owned earlier)).mp own
        exact (induction own).guard last free
  · intro guarded
    have both : Owned final ∧ final.ClosesOwn := by
      refine guarded.invariant (fun state => Owned state ∧ state.ClosesOwn) ?_ ?_
      · exact ⟨start.owned, by simp [Descriptors.ClosesOwn, start.uncalled]⟩
      · rintro before event after ⟨owned, own⟩ ⟨free, last⟩
        exact ⟨last.owned owned, (last.closesOwn owned).mpr ⟨own, free⟩⟩
    exact both.2

theorem Descriptors.Start.trace_closesOwn_of_unremoved (start : initial.Start)
    (trace : Trace DescriptorStep initial events final) (unremoved : .remove ∉ events) :
    final.ClosesOwn := by
  refine (start.trace_closesOwn trace).mpr ?_
  induction trace with
  | nil => exact .nil
  | @snoc events before after event earlier last induction =>
      rw [List.mem_append, List.mem_singleton, not_or] at unremoved
      refine (induction unremoved.1).guard last ?_
      cases event with
      | remove => exact absurd rfl unremoved.2
      | openOther | closeOther | register | move => trivial

/-- In a run of a socket transport each of its descriptors is closed at most once, and only it,
exactly as long as its removal has not been handled: the removal closes `t->fd` again after
`remote_close`.  What belongs to others stays open in exactly the runs in which the removal finds
the place of `t->fd` empty. -/
theorem descriptors_closed_once_unless_removed {ι : Type} [DecidableEq ι]
    {initial final : Descriptors ι} {events : List (DescriptorEvent ι)} (start : initial.Start)
    (trace : Trace DescriptorStep initial events final) :
    (final.AtMostOnce ∧ final.ClosesOwn ↔ .remove ∉ events) ∧
      (final.ClosesOwn ↔ Trace (Guarded DescriptorStep FreeAtRemoval) initial events final) := by
  have owned := start.trace_owned trace
  have removed := start.trace_removed trace
  refine ⟨?_, start.trace_closesOwn trace⟩
  rw [owned.atMostOnce, ← removed, Bool.not_eq_true]
  refine and_iff_left_of_imp fun unremoved => start.trace_closesOwn_of_unremoved trace ?_
  rw [← removed, unremoved]
  exact Bool.false_ne_true

end Runs

/-- A transport over the socket 100, in a table whose other places have been used before. -/
def Descriptors.reconnected : Descriptors Bool where
  table := ⟨128, Function.update (fun _ => none) 0 (some 0), 128⟩
  system := .start Bool 0
  sfd := 100
  transportSocket := -1
  fd := -1
  registered := false
  removed := false
  own := fun
    | .sfd => some 0
    | _ => none
  calls := []

theorem Descriptors.reconnected_start : Descriptors.reconnected.Start where
  sound := by
    have only (fd : Int) (n : Nat) (held : Descriptors.reconnected.table.names.holder fd = some n) :
        fd = 100 ∧ n = 0 := by
      rw [HandleTable.holder_eq] at held
      split at held
      · next inside =>
          rcases eq_or_ne (fd - HandleTable.fhBase).toNat 0 with first | other
          · rw [first] at held
            simp only [HandleTable.fhBase] at first inside
            exact ⟨by omega, (Option.some.inj held).symm⟩
          · have empty :
                Descriptors.reconnected.table.fhs (fd - HandleTable.fhBase).toNat = none := by
              simp [Descriptors.reconnected, Function.update_of_ne other]
            rw [empty] at held
            cases held
      · cases held
    constructor
    · intro fd n held
      obtain ⟨-, rfl⟩ := only fd n held
      decide
    · intro fd other n held held'
      rw [(only fd n held).1, (only other n held').1]
  unregistered := rfl
  unremoved := rfl
  unused := rfl
  connected := ⟨0, rfl, rfl⟩
  unpaired := ⟨rfl, rfl⟩
  uncalled := rfl

/-- The life of a transport whose two threads exit. -/
def DescriptorEvent.exits : List (DescriptorEvent Bool) :=
  [.register, .move (.call true .transportUnref), .move (.run true .unref),
    .move (.call false .transportUnref), .move (.run false .unref)]

/-- While the removal is still to be handled others open two descriptors, and one of them gets the
place of `t->fd`. -/
def DescriptorEvent.reused : List (DescriptorEvent Bool) :=
  DescriptorEvent.exits ++ [.openOther] ++ [.openOther] ++ [.remove]

theorem Descriptors.reconnected_runs :
    ∃ exited final,
      Trace DescriptorStep Descriptors.reconnected DescriptorEvent.exits exited ∧
      exited.calls = [⟨.sfd, some 0⟩, ⟨.fd, some 129⟩] ∧
      Trace DescriptorStep Descriptors.reconnected DescriptorEvent.reused final ∧
      final.calls = [⟨.sfd, some 0⟩, ⟨.fd, some 129⟩, ⟨.transportSocket, some 128⟩,
        ⟨.fd, some 131⟩] ∧
      final.own .fd = some 129 := by
  have run₀ : Trace DescriptorStep Descriptors.reconnected [] _ := .nil
  have run₁ := run₀.snoc (.register rfl rfl rfl)
  have run₂ := run₁.snoc (.move rfl rfl (.call true .transportUnref rfl trivial))
  have run₃ := run₂.snoc (.move rfl rfl (.run true .unref _ rfl))
  have run₄ := run₃.snoc (.move rfl rfl (.call false .transportUnref rfl trivial))
  have run₅ := run₄.snoc (.move rfl rfl (.run false .unref _ rfl))
  have run₆ := run₅.snoc (.openOther rfl)
  have run₇ := run₆.snoc (.openOther rfl)
  have run₈ := run₇.snoc (.remove rfl rfl Nat.one_ne_zero)
  exact ⟨_, _, run₅, rfl, run₈, rfl, rfl⟩

/-- Until the removal is handled. -/
theorem descriptors_closed_once_unless_removed_exits :
    ∃ exited, Trace DescriptorStep Descriptors.reconnected DescriptorEvent.exits exited ∧
      exited.callsOf .fd = 1 ∧ exited.AtMostOnce ∧ exited.ClosesOwn := by
  obtain ⟨exited, -, trace, calls, -⟩ := Descriptors.reconnected_runs
  have once := (descriptors_closed_once_unless_removed Descriptors.reconnected_start trace).1.mpr
    (by simp [DescriptorEvent.exits])
  refine ⟨exited, trace, ?_, once⟩
  rw [Descriptors.callsOf, calls]
  rfl

/-- The removal closes what has got the place of `t->fd` since. -/
theorem descriptors_closed_once_fails_on_reuse :
    ∃ final, Descriptors.reconnected.Start ∧
      Trace DescriptorStep Descriptors.reconnected DescriptorEvent.reused final ∧
      ¬final.AtMostOnce ∧ ¬final.ClosesOwn := by
  obtain ⟨-, final, -, -, trace, calls, own⟩ := Descriptors.reconnected_runs
  refine ⟨final, Descriptors.reconnected_start, trace, ?_, ?_⟩
  · intro once
    have twice := once .fd
    rw [Descriptors.callsOf, calls] at twice
    exact absurd twice (by decide)
  · intro mine
    have same := mine ⟨.fd, some 131⟩ (by rw [calls]; decide) 131 rfl
    rw [own] at same
    cases same

end

end Transport
end AdbWide
