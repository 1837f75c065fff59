import Mathlib.Data.List.FinRange
import Mathlib.Logic.Function.Basic

/-!
# The handles of Windows

Descriptors are places in a table of 128 handles.  The functions that open something take one or two
places first, and have to give them back where something fails afterwards.
-/

namespace AdbWide
namespace Win32

/-! ## The table -/

/-- The records of functions for a handle. -/
inductive FHClass where
  | file
  | socket
  | socketpair
  deriving DecidableEq, Repr

/-- `FHRec`, as far as the table goes by it. -/
structure FHRec where
  clazz : Option FHClass
  used : Bool
  eof : Bool
  deriving DecidableEq, Repr

/-- `_win32_fhs` and `_win32_fh_count`. -/
structure Handles where
  fhs : Fin 128 → FHRec
  fhCount : Nat
  /-- Places without a class are free. -/
  clazz_eq_none : ∀ f, (fhs f).clazz = none ↔ (fhs f).used = false
  /-- Places that were never taken are free. -/
  free_of_le : ∀ f : Fin 128, fhCount ≤ f → (fhs f).used = false

namespace Handles

variable {table after : Handles} {f : Fin 128}

/-- A place is in use. -/
def InUse (table : Handles) (f : Fin 128) : Prop := (table.fhs f).used = true

/-- All places are in use. -/
def Full (table : Handles) : Prop := ∀ f, table.InUse f

/-- The record of a place that is taken. -/
def taken (clazz : FHClass) : FHRec := ⟨some clazz, true, false⟩

/-- Take a place. -/
def take (table : Handles) (clazz : FHClass) (f : Fin 128) (fhCount : Nat)
    (more : table.fhCount ≤ fhCount) (inside : (f : Nat) < fhCount) : Handles where
  fhs := Function.update table.fhs f (taken clazz)
  fhCount := fhCount
  clazz_eq_none g := by
    rcases eq_or_ne g f with rfl | different
    · simp [taken]
    · rw [Function.update_of_ne different]
      exact table.clazz_eq_none g
  free_of_le g behind := by
    have different : g ≠ f := by
      rintro rfl
      omega
    rw [Function.update_of_ne different]
    exact table.free_of_le g (more.trans behind)

/-- `_fh_alloc`. -/
def fhAlloc (table : Handles) (clazz : FHClass) : Option (Fin 128) × Handles :=
  if room : table.fhCount < 128 then
    let f : Fin 128 := ⟨table.fhCount, room⟩
    (some f, table.take clazz f (table.fhCount + 1) (Nat.le_succ _) (Nat.lt_succ_self _))
  else
    match (List.finRange 128).find? fun f => (table.fhs f).clazz = none with
    | some f => (some f, table.take clazz f table.fhCount (Nat.le_refl _) (by omega))
    | none => (none, table)

/-- `_fh_to_int`. -/
def fhToInt (table : Handles) (f : Fin 128) : Int :=
  if (table.fhs f).used then 100 + (f : Nat) else -1

/-- `_fh_close` of a place.  What the class closes is not in the table. -/
def close (table : Handles) (f : Fin 128) : Handles where
  fhs := if (table.fhs f).used then Function.update table.fhs f ⟨none, false, false⟩ else table.fhs
  fhCount := table.fhCount
  clazz_eq_none g := by
    split
    · rcases eq_or_ne g f with rfl | different
      · simp
      · rw [Function.update_of_ne different]
        exact table.clazz_eq_none g
    · exact table.clazz_eq_none g
  free_of_le g behind := by
    split
    · rcases eq_or_ne g f with rfl | different
      · simp
      · rw [Function.update_of_ne different]
        exact table.free_of_le g behind
    · exact table.free_of_le g behind

theorem inUse_take {clazz : FHClass} {fhCount : Nat} {more : table.fhCount ≤ fhCount}
    {inside : (f : Nat) < fhCount} (g : Fin 128) :
    (table.take clazz f fhCount more inside).InUse g ↔ table.InUse g ∨ g = f := by
  rw [InUse, take, InUse]
  rcases eq_or_ne g f with rfl | different
  · simp [taken]
  · simp [different]

/-- A place that is found was free, and is the only one that is taken. -/
theorem fhAlloc_some {clazz : FHClass} (found : table.fhAlloc clazz = (some f, after)) :
    ¬table.InUse f ∧ ∀ g, after.InUse g ↔ table.InUse g ∨ g = f := by
  rw [fhAlloc] at found
  split at found
  · obtain ⟨place, rfl⟩ := Prod.mk.inj found
    obtain rfl := Option.some.inj place
    refine ⟨?_, fun g => inUse_take g⟩
    rw [InUse, table.free_of_le _ (Nat.le_refl _)]
    exact Bool.false_ne_true
  · split at found
    · next g free =>
        obtain ⟨place, rfl⟩ := Prod.mk.inj found
        obtain rfl := Option.some.inj place
        refine ⟨?_, fun g => inUse_take g⟩
        have unclassed : (table.fhs g).clazz = none := by simpa using List.find?_some free
        rw [InUse, (table.clazz_eq_none g).mp unclassed]
        exact Bool.false_ne_true
    · exact nomatch congrArg Prod.fst found

/-- No place is found in a full table only. -/
theorem fhAlloc_none {clazz : FHClass} (found : table.fhAlloc clazz = (none, after)) :
    after = table ∧ table.Full := by
  rw [fhAlloc] at found
  split at found
  · exact nomatch congrArg Prod.fst found
  · split at found
    · exact nomatch congrArg Prod.fst found
    · next none_free =>
        refine ⟨(congrArg Prod.snd found).symm, fun f => ?_⟩
        have classed := List.find?_eq_none.mp none_free f (List.mem_finRange f)
        rw [decide_eq_true_eq, table.clazz_eq_none] at classed
        simpa [InUse] using classed

theorem inUse_close (g : Fin 128) : (table.close f).InUse g ↔ table.InUse g ∧ g ≠ f := by
  rw [InUse, close, InUse]
  dsimp only
  rcases eq_or_ne g f with rfl | different
  · cases used : (table.fhs g).used with
    | true => simp
    | false => simp [used]
  · split
    · rw [Function.update_of_ne different]
      simp [different]
    · simp [different]

/-- A place that was just taken is free again after it is closed. -/
theorem inUse_close_of_alloc {clazz : FHClass} (found : table.fhAlloc clazz = (some f, after))
    (g : Fin 128) : (after.close f).InUse g ↔ table.InUse g := by
  obtain ⟨free, uses⟩ := fhAlloc_some found
  rw [inUse_close, uses]
  constructor
  · rintro ⟨used | rfl, different⟩
    · exact used
    · exact absurd rfl different
  · intro used
    refine ⟨.inl used, ?_⟩
    rintro rfl
    exact free used

theorem fhToInt_of_inUse (used : table.InUse f) : table.fhToInt f = 100 + (f : Nat) :=
  if_pos used

theorem fhToInt_alloc {clazz : FHClass} (found : table.fhAlloc clazz = (some f, after)) :
    after.fhToInt f = 100 + (f : Nat) :=
  fhToInt_of_inUse (((fhAlloc_some found).2 f).mpr (.inr rfl))

end Handles

/-! ## The functions that take places -/

/-- How a call ends. -/
inductive Outcome where
  | returns (fds : List Int) (table : Handles)
  | fails (table : Handles)
  /-- `_fh_close` of a `NULL` pointer. -/
  | derefsNull
  /-- A function of the C++ library throws. -/
  | throws (table : Handles)
  /-- `fatal`. -/
  | exits

/-- `adb_open`; the call of `CreateFileW` succeeds or does not. -/
def adbOpen (options : Int) (createFile : Bool) (table : Handles) : Outcome :=
  if options ≠ 0 ∧ options ≠ 1 ∧ options ≠ 2 then .fails table
  else
    match table.fhAlloc .file with
    | (none, table) => .fails table
    | (some f, table) =>
        if createFile then .returns [table.fhToInt f] table else .fails (table.close f)

/-- `adb_creat`, with the path as a wide string; `replace` throws where it is too short. -/
def adbCreat (wstr : List UInt16) (createFile : Bool) (table : Handles) : Outcome :=
  match table.fhAlloc .file with
  | (none, table) => .fails table
  | (some f, table) =>
      if wstr.length < 2 then .throws table
      else if createFile then .returns [table.fhToInt f] table
      else .fails (table.close f)

/-- `socket_loopback_client`; `winsock` is whether Winsock is initialized or can be. -/
def socketLoopbackClient (winsock socket connect : Bool) (table : Handles) : Outcome :=
  match table.fhAlloc .socket with
  | (none, table) => .fails table
  | (some f, table) =>
      if !winsock then .exits
      else if !socket then .fails (table.close f)
      else if !connect then .fails (table.close f)
      else .returns [table.fhToInt f] table

/-- `socket_loopback_server`; `stream` is whether the type is `SOCK_STREAM`. -/
def socketLoopbackServer (stream winsock socket bind listen : Bool) (table : Handles) : Outcome :=
  match table.fhAlloc .socket with
  | (none, table) => .fails table
  | (some f, table) =>
      if !winsock then .exits
      else if !socket then .fails table
      else if !bind then .fails (table.close f)
      else if stream && !listen then .fails (table.close f)
      else .returns [table.fhToInt f] table

/-- `_fh_close` of a pointer. -/
def fhClose (f : Option (Fin 128)) (table : Handles) : Option Handles :=
  f.map table.close

/-- `adb_socketpair`. -/
def adbSocketpair (malloc : Bool) (table : Handles) : Outcome :=
  let (fa, table) := table.fhAlloc .socketpair
  let (fb, table) := table.fhAlloc .socketpair
  let fail : Outcome :=
    match (fhClose fb table).bind (fhClose fa) with
    | none => .derefsNull
    | some table => .fails table
  match fa, fb with
  | some fa, some fb =>
      if malloc then .returns [table.fhToInt fa, table.fhToInt fb] table else fail
  | _, _ => fail

/-- A call, with what the calls of the system in it come to. -/
inductive Call where
  | adbOpen (options : Int) (createFile : Bool)
  | adbCreat (wstr : List UInt16) (createFile : Bool)
  | socketLoopbackClient (winsock socket connect : Bool)
  | socketLoopbackServer (stream winsock socket bind listen : Bool)
  | adbSocketpair (malloc : Bool)

/-- Make a call. -/
def Call.run : Call → Handles → Outcome
  | .adbOpen options createFile => Win32.adbOpen options createFile
  | .adbCreat wstr createFile => Win32.adbCreat wstr createFile
  | .socketLoopbackClient winsock socket connect =>
      Win32.socketLoopbackClient winsock socket connect
  | .socketLoopbackServer stream winsock socket bind listen =>
      Win32.socketLoopbackServer stream winsock socket bind listen
  | .adbSocketpair malloc => Win32.adbSocketpair malloc

/-! ## Calls that keep the table -/

/-- What is returned are descriptors of places that were free and are in use now, and nothing else
changes; where the call fails, the same places are in use as before. -/
def Balanced (before : Handles) : Outcome → Prop
  | .returns fds after => ∃ places : List (Fin 128), fds = places.map (fun f => 100 + (f : Nat)) ∧
      places.Nodup ∧ (∀ f ∈ places, ¬before.InUse f) ∧
        ∀ f, after.InUse f ↔ before.InUse f ∨ f ∈ places
  | .fails after => ∀ f, after.InUse f ↔ before.InUse f
  | .throws after => ∀ f, after.InUse f ↔ before.InUse f
  | .derefsNull => False
  | .exits => True

/-- What a call needs to keep the table. -/
def Call.Fine (table : Handles) : Call → Prop
  | .adbOpen _ _ => True
  | .adbCreat wstr _ => 2 ≤ wstr.length ∨ table.Full
  | .socketLoopbackClient _ _ _ => True
  | .socketLoopbackServer _ winsock socket _ _ => winsock = false ∨ socket = true ∨ table.Full
  | .adbSocketpair _ => ∃ f g, f ≠ g ∧ ¬table.InUse f ∧ ¬table.InUse g

section Calls

variable {table after : Handles} {f : Fin 128} {clazz : FHClass}

theorem balanced_returns (found : table.fhAlloc clazz = (some f, after)) :
    Balanced table (.returns [after.fhToInt f] after) := by
  obtain ⟨free, uses⟩ := Handles.fhAlloc_some found
  refine ⟨[f], by rw [Handles.fhToInt_alloc found]; rfl, List.nodup_singleton f, ?_, ?_⟩
  · exact List.forall_mem_singleton.mpr free
  · intro g
    rw [uses, List.mem_singleton]

theorem balanced_close (found : table.fhAlloc clazz = (some f, after)) :
    Balanced table (.fails (after.close f)) :=
  Handles.inUse_close_of_alloc found

theorem balanced_none (found : table.fhAlloc clazz = (none, after)) :
    Balanced table (.fails after) := by
  obtain ⟨rfl, -⟩ := Handles.fhAlloc_none found
  exact fun g => Iff.rfl

/-- A place that is left in use is lost. -/
theorem not_unchanged (found : table.fhAlloc clazz = (some f, after)) :
    ¬∀ g, after.InUse g ↔ table.InUse g := by
  obtain ⟨free, uses⟩ := Handles.fhAlloc_some found
  exact fun same => free ((same f).mp ((uses f).mpr (.inr rfl)))

theorem not_full_of_alloc (found : table.fhAlloc clazz = (some f, after)) : ¬table.Full :=
  fun full => (Handles.fhAlloc_some found).1 (full f)

theorem balanced_adbOpen (options : Int) (createFile : Bool) :
    Balanced table (adbOpen options createFile table) := by
  rw [adbOpen]
  split
  · exact fun f => Iff.rfl
  · split
    · next found => exact balanced_none found
    · next found =>
        cases createFile with
        | true => exact balanced_returns found
        | false => exact balanced_close found

theorem balanced_adbCreat_iff (wstr : List UInt16) (createFile : Bool) :
    Balanced table (adbCreat wstr createFile table) ↔ 2 ≤ wstr.length ∨ table.Full := by
  rw [adbCreat]
  split
  · next found => exact iff_of_true (balanced_none found) (.inr (Handles.fhAlloc_none found).2)
  · next found =>
      by_cases short : wstr.length < 2
      · rw [if_pos short]
        exact iff_of_false (not_unchanged found) (by simp [not_full_of_alloc found]; omega)
      · rw [if_neg short]
        refine iff_of_true ?_ (.inl (by omega))
        cases createFile with
        | true => exact balanced_returns found
        | false => exact balanced_close found

theorem balanced_socketLoopbackClient (winsock socket connect : Bool) :
    Balanced table (socketLoopbackClient winsock socket connect table) := by
  rw [socketLoopbackClient]
  split
  · next found => exact balanced_none found
  · next found =>
      cases winsock with
      | false => exact trivial
      | true =>
          cases socket with
          | false => exact balanced_close found
          | true =>
              cases connect with
              | false => exact balanced_close found
              | true => exact balanced_returns found

theorem balanced_socketLoopbackServer_iff (stream winsock socket bind listen : Bool) :
    Balanced table (socketLoopbackServer stream winsock socket bind listen table) ↔
      winsock = false ∨ socket = true ∨ table.Full := by
  rw [socketLoopbackServer]
  split
  · next found =>
      exact iff_of_true (balanced_none found) (.inr (.inr (Handles.fhAlloc_none found).2))
  · next found =>
      cases winsock with
      | false => exact iff_of_true trivial (.inl rfl)
      | true =>
          cases socket with
          | false =>
              exact iff_of_false (not_unchanged found) (by simp [not_full_of_alloc found])
          | true =>
              refine iff_of_true ?_ (.inr (.inl rfl))
              cases bind with
              | false => exact balanced_close found
              | true =>
                  cases stream with
                  | false => exact balanced_returns found
                  | true =>
                      cases listen with
                      | false => exact balanced_close found
                      | true => exact balanced_returns found

theorem balanced_adbSocketpair_iff (malloc : Bool) :
    Balanced table (adbSocketpair malloc table) ↔
      ∃ f g, f ≠ g ∧ ¬table.InUse f ∧ ¬table.InUse g := by
  rw [adbSocketpair]
  cases first : table.fhAlloc .socketpair with
  | mk fa middle =>
      dsimp only
      cases second : middle.fhAlloc .socketpair with
      | mk fb after =>
          dsimp only
          cases fb with
          | none =>
              have full := (Handles.fhAlloc_none second).2
              have one (f g : Fin 128) (free : ¬table.InUse f) (free' : ¬table.InUse g) :
                  f = g := by
                cases fa with
                | none =>
                    obtain ⟨rfl, -⟩ := Handles.fhAlloc_none first
                    exact absurd (full f) free
                | some h =>
                    have uses := (Handles.fhAlloc_some first).2
                    have at_f := ((uses f).mp (full f)).resolve_left free
                    have at_g := ((uses g).mp (full g)).resolve_left free'
                    rw [at_f, at_g]
              refine iff_of_false ?_ ?_
              · cases fa with
                | none => exact id
                | some h => exact id
              · rintro ⟨f, g, different, free, free'⟩
                exact different (one f g free free')
          | some g =>
              cases fa with
              | none =>
                  obtain ⟨rfl, full⟩ := Handles.fhAlloc_none first
                  exact absurd full (not_full_of_alloc second)
              | some f =>
                  obtain ⟨free, uses⟩ := Handles.fhAlloc_some first
                  obtain ⟨free', uses'⟩ := Handles.fhAlloc_some second
                  have different : f ≠ g := by
                    rintro rfl
                    exact free' ((uses f).mpr (.inr rfl))
                  have free_g : ¬table.InUse g := fun used => free' ((uses g).mpr (.inl used))
                  refine iff_of_true ?_ ⟨f, g, different, free, free_g⟩
                  cases malloc with
                  | true =>
                      have used : after.InUse f := (uses' f).mpr (.inl ((uses f).mpr (.inr rfl)))
                      have fds : [after.fhToInt f, after.fhToInt g] =
                          [f, g].map fun (f : Fin 128) => (100 + (f : Nat) : Int) := by
                        rw [Handles.fhToInt_alloc second, Handles.fhToInt_of_inUse used]
                        rfl
                      refine ⟨[f, g], fds, by simp [different], by simp [free, free_g], fun h => ?_⟩
                      rw [uses', uses, or_assoc, List.mem_pair]
                  | false =>
                      intro h
                      rw [Handles.inUse_close, Handles.inUse_close_of_alloc second, uses]
                      constructor
                      · rintro ⟨used | rfl, apart⟩
                        · exact used
                        · exact absurd rfl apart
                      · intro used
                        refine ⟨.inl used, ?_⟩
                        rintro rfl
                        exact free used

/-- A call keeps the table, or returns places that were free, if and only if it is fine. -/
theorem balanced_iff_fine (table : Handles) (call : Call) :
    Balanced table (call.run table) ↔ call.Fine table := by
  cases call with
  | adbOpen options createFile => exact iff_of_true (balanced_adbOpen options createFile) trivial
  | adbCreat wstr createFile => exact balanced_adbCreat_iff wstr createFile
  | socketLoopbackClient winsock socket connect =>
      exact iff_of_true (balanced_socketLoopbackClient winsock socket connect) trivial
  | socketLoopbackServer stream winsock socket bind listen =>
      exact balanced_socketLoopbackServer_iff stream winsock socket bind listen
  | adbSocketpair malloc => exact balanced_adbSocketpair_iff malloc

/-- The table at the start. -/
def Handles.start : Handles where
  fhs _ := ⟨none, false, false⟩
  fhCount := 0
  clazz_eq_none _ := by simp
  free_of_le _ _ := rfl

/-- A server whose socket cannot be made keeps a place. -/
theorem not_balanced_socket :
    ¬Balanced .start (Call.run (.socketLoopbackServer true true false true true) .start) := by
  intro balanced
  obtain isFalse | isTrue | full :=
    (balanced_socketLoopbackServer_iff true true false true true).mp balanced
  · exact nomatch isFalse
  · exact nomatch isTrue
  · exact nomatch full 0

end Calls

end Win32
end AdbWide
