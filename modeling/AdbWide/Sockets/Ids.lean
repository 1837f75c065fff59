import Mathlib.Data.List.Induction
import Mathlib.Data.Nat.ModEq
import AdbWide.Sockets.Packets

/-!
# The ids of local sockets

`install_local_socket` numbers the sockets with a counter of 32 bits that leaves out zero.  This
file follows the counter and the list of local sockets through every run of installations and
removals, also after the counter has come round.
-/

namespace AdbWide
namespace Sockets

/-- What happens to the list of local sockets. -/
inductive ListOp where
  /-- `install_local_socket`. -/
  | install
  /-- `remove_socket`. -/
  | remove (address : Nat)
  deriving DecidableEq, Repr

/-- The server after an operation. -/
def ListOp.apply (server : Server) : ListOp → Server
  | .install => server.createLocalSocket
  | .remove address => server.removeSocket address

/-- The server after a run. -/
def runList (ops : List ListOp) : Server := ops.foldl ListOp.apply Server.start

/-- The ids are distinct and never zero, and each is found by `find_local_socket`. -/
structure UniqueIds (server : Server) : Prop where
  nonzero : ∀ a ∈ server.localSocketList, ∀ s, server.sockets a = some s → s.id ≠ 0
  distinct : ∀ a ∈ server.localSocketList, ∀ b ∈ server.localSocketList, ∀ s r,
    server.sockets a = some s → server.sockets b = some r → s.id = r.id → a = b
  found : ∀ a ∈ server.localSocketList, ∃ s, server.sockets a = some s ∧
    server.findLocalSocket s.id 0 = some a

/-- How many ids there are. -/
def idCount : Nat := 2 ^ 32 - 1

/-- The id of the socket that is installed after so many others. -/
def idAt (index : Nat) : Nat := 1 + index % idCount

/-- No socket is on the list that was installed when the counter stood at the same id. -/
def Apart (server : Server) : Prop :=
  ∀ a ∈ server.localSocketList, ¬a ≡ server.fresh [MOD idCount]

theorem nextId_idAt (index : Nat) : Server.nextId (idAt index) = idAt (index + 1) := by
  have bound : index % idCount < idCount := Nat.mod_lt _ (by decide)
  have count : idCount = 2 ^ 32 - 1 := rfl
  rw [Server.nextId, idAt, idAt, Nat.add_mod index 1]
  have one : 1 % idCount = 1 := by decide
  rw [one]
  by_cases last : index % idCount + 1 = idCount
  · rw [last, Nat.mod_self, if_pos (by omega)]
  · rw [Nat.mod_eq_of_lt (by omega : index % idCount + 1 < idCount), if_neg (by omega)]
    omega

theorem idAt_ne_zero (index : Nat) : idAt index ≠ 0 := by
  rw [idAt]
  omega

theorem idAt_inj {index index' : Nat} (same : idAt index = idAt index') :
    index ≡ index' [MOD idCount] := Nat.add_left_cancel same

/-! ## Every run -/

/-- The sockets on the list were installed one after the other, and have their ids. -/
structure Counted (server : Server) : Prop where
  nextId : server.localSocketNextId = idAt server.fresh
  listed : ∀ a ∈ server.localSocketList, a < server.fresh ∧
    ∃ s, server.sockets a = some s ∧ s.id = idAt a
  nodup : server.localSocketList.Nodup

theorem counted_start : Counted Server.start :=
  ⟨by decide, by simp [Server.start], by simp [Server.start]⟩

theorem Counted.install {server : Server} (counted : Counted server) :
    Counted server.createLocalSocket := by
  have fresh : server.fresh ∉ server.localSocketList := fun member =>
    Nat.lt_irrefl _ (counted.listed _ member).1
  refine ⟨?_, ?_, ?_⟩
  · rw [Server.createLocalSocket, counted.nextId, nextId_idAt]
  · intro a member
    rcases List.mem_append.mp member with old | new
    · obtain ⟨before, s, live, id⟩ := counted.listed a old
      refine ⟨Nat.lt_succ_of_lt before, s, ?_, id⟩
      simp [Server.createLocalSocket, Nat.ne_of_lt before, live]
    · obtain rfl := List.mem_singleton.mp new
      refine ⟨Nat.lt_succ_self _, { kind := .localSocket, id := server.localSocketNextId }, ?_,
        counted.nextId⟩
      simp [Server.createLocalSocket]
  · exact List.nodup_append.mpr ⟨counted.nodup, List.nodup_singleton _, fun a member b new => by
      rintro rfl
      exact fresh (List.mem_singleton.mp new ▸ member)⟩

theorem Counted.remove {server : Server} (counted : Counted server) (address : Nat) :
    Counted (server.removeSocket address) := by
  refine ⟨counted.nextId, fun a member => ?_, counted.nodup.erase address⟩
  obtain ⟨different, member⟩ := counted.nodup.mem_erase_iff.mp member
  obtain ⟨before, s, live, id⟩ := counted.listed a member
  refine ⟨before, s, ?_, id⟩
  simp [Server.removeSocket, Server.modify, different, live]

theorem Counted.apply {server : Server} (counted : Counted server) (op : ListOp) :
    Counted (op.apply server) := by
  cases op with
  | install => exact counted.install
  | remove address => exact counted.remove address

theorem counted_runList (ops : List ListOp) : Counted (runList ops) := by
  induction ops using List.reverseRec with
  | nil => exact counted_start
  | append_singleton ops op induction =>
      rw [runList, List.foldl_append]
      exact induction.apply op

/-! ## Distinct ids -/

/-- Distinct ids are what the list needs, since the others hold anyway. -/
theorem Counted.uniqueIds_iff {server : Server} (counted : Counted server) :
    UniqueIds server ↔ ∀ a ∈ server.localSocketList, ∀ b ∈ server.localSocketList,
      a ≡ b [MOD idCount] → a = b := by
  refine ⟨fun unique a member b member' same => ?_, fun distinct => ⟨?_, ?_, ?_⟩⟩
  · obtain ⟨-, s, live, id⟩ := counted.listed a member
    obtain ⟨-, r, live', id'⟩ := counted.listed b member'
    refine unique.distinct a member b member' s r live live' ?_
    rw [id, id']
    exact congrArg (1 + ·) same
  · intro a member s live
    obtain ⟨-, s', live', id⟩ := counted.listed a member
    obtain rfl := Option.some.inj (live.symm.trans live')
    rw [id]
    exact idAt_ne_zero a
  · intro a member b member' s r live live' same
    obtain ⟨-, s', live₁, id⟩ := counted.listed a member
    obtain ⟨-, r', live₂, id'⟩ := counted.listed b member'
    obtain rfl := Option.some.inj (live.symm.trans live₁)
    obtain rfl := Option.some.inj (live'.symm.trans live₂)
    exact distinct a member b member' (idAt_inj (by rw [← id, same, id']))
  · intro a member
    obtain ⟨-, s, live, id⟩ := counted.listed a member
    refine ⟨s, live, ?_⟩
    rw [Server.findLocalSocket]
    cases found : server.localSocketList.find? fun address =>
        (server.sockets address).any fun r => r.id = s.id with
    | none =>
        have absent := List.find?_eq_none.mp found a member
        simp [live] at absent
    | some b =>
        have named := List.find?_some found
        have member' := List.mem_of_find?_eq_some found
        obtain ⟨-, r, live', id'⟩ := counted.listed b member'
        have same : r.id = s.id := by simpa [live'] using named
        obtain rfl := distinct b member' a member (idAt_inj (by rw [← id', same, id]))
        simp

theorem runList_append (ops later : List ListOp) :
    runList (ops ++ later) = later.foldl ListOp.apply (runList ops) := by
  rw [runList, runList, List.foldl_append]

/-- An installation keeps the ids distinct exactly if nothing on the list has the next one. -/
theorem Counted.uniqueIds_install {server : Server} (counted : Counted server)
    (unique : UniqueIds server) : UniqueIds server.createLocalSocket ↔ Apart server := by
  rw [counted.install.uniqueIds_iff]
  rw [counted.uniqueIds_iff] at unique
  have mem_list (a : Nat) : a ∈ server.createLocalSocket.localSocketList ↔
      a ∈ server.localSocketList ∨ a = server.fresh := by
    simp [Server.createLocalSocket]
  simp only [mem_list]
  refine ⟨fun distinct a member same => ?_, fun apart a member b member' same => ?_⟩
  · have equal := distinct a (.inl member) server.fresh (.inr rfl) same
    exact Nat.ne_of_lt (counted.listed a member).1 equal
  · rcases member with member | rfl
    · rcases member' with member' | rfl
      · exact unique a member b member' same
      · exact absurd same (apart a member)
    · rcases member' with member' | rfl
      · exact absurd same.symm (apart b member')
      · rfl

theorem Counted.uniqueIds_remove {server : Server} (counted : Counted server)
    (unique : UniqueIds server) (address : Nat) : UniqueIds (server.removeSocket address) := by
  rw [(counted.remove address).uniqueIds_iff]
  rw [counted.uniqueIds_iff] at unique
  intro a member b member' same
  exact unique a (List.mem_of_mem_erase member) b (List.mem_of_mem_erase member') same

/-- In every run of installations and removals, all ids are always distinct if and only if no socket
is installed while one is on the list that was installed a multiple of `2 ^ 32 - 1` installations
before. -/
theorem uniqueIds_run_iff (ops : List ListOp) :
    (∀ before, before <+: ops → UniqueIds (runList before)) ↔
      ∀ before, before ++ [.install] <+: ops → Apart (runList before) := by
  refine ⟨fun unique before installs => ?_, fun apart before earlier => ?_⟩
  · have after := unique _ installs
    rw [runList_append] at after
    refine ((counted_runList before).uniqueIds_install ?_).mp after
    exact unique before ((List.prefix_append before [.install]).trans installs)
  · induction before using List.reverseRec with
    | nil =>
        rw [(counted_runList []).uniqueIds_iff]
        simp [runList, Server.start]
    | append_singleton before op induction =>
        have unique := induction ((List.prefix_append before [op]).trans earlier)
        rw [runList_append]
        cases op with
        | install =>
            exact ((counted_runList before).uniqueIds_install unique).mpr (apart before earlier)
        | remove address => exact (counted_runList before).uniqueIds_remove unique address

/-! ## The counter comes round -/

/-- So many sockets are installed, and each is removed again. -/
def churn (count : Nat) : List ListOp :=
  (List.range count).flatMap fun index => [.install, .remove (index + 1)]

theorem runList_churn (count : Nat) :
    (runList (.install :: churn count)).localSocketList = [0] ∧
      (runList (.install :: churn count)).fresh = count + 1 := by
  induction count with
  | zero => exact ⟨rfl, rfl⟩
  | succ count induction =>
      obtain ⟨list, fresh⟩ := induction
      have split : ListOp.install :: churn (count + 1) =
          (.install :: churn count) ++ [.install, .remove (count + 1)] := by
        simp [churn, List.range_succ]
      rw [split, runList_append]
      refine ⟨?_, ?_⟩
      · simp [ListOp.apply, Server.removeSocket, Server.createLocalSocket, list, fresh]
      · simp [ListOp.apply, Server.removeSocket, Server.modify, Server.createLocalSocket, fresh]

/-- The first socket stays while `2 ^ 32 - 2` others come and go, and the next one gets its id. -/
theorem not_uniqueIds_churn :
    ¬UniqueIds (runList (.install :: churn (idCount - 1) ++ [.install])) := by
  intro unique
  obtain ⟨list, fresh⟩ := runList_churn (idCount - 1)
  have counted := counted_runList (.install :: churn (idCount - 1) ++ [.install])
  rw [counted.uniqueIds_iff, runList_append] at unique
  have equal := unique 0 (by simp [ListOp.apply, Server.createLocalSocket, list])
    idCount (by
      have count : idCount - 1 + 1 = idCount := by decide
      simp [ListOp.apply, Server.createLocalSocket, fresh, count])
    (Nat.mod_self idCount).symm
  exact absurd equal (by decide)

end Sockets
end AdbWide
