import Mathlib.Data.List.Perm.Subperm
import Mathlib.Data.List.Nodup
import Mathlib.Logic.Function.Basic

/-!
# Singly linked queues with a tail pointer

A queue of heap cells as C programs write it: `first` is the head of a chain of `next` links that
ends in a null link, `last` is the cell a new one is hung on.  A queue represents a list of values
when the chain from `first` visits cells with these values and `last` is the last of them.
-/

namespace AdbWide

/-- A queue of cells with values of type `α`. -/
structure LinkedQueue (α : Type) where
  /-- The `next` link of every cell. -/
  next : Nat → Option Nat
  /-- The value of every cell, once it has been allocated. -/
  value : Nat → Option α
  /-- The first cell. -/
  first : Option Nat
  /-- The last cell. -/
  last : Option Nat
  /-- The address of the next cell to be allocated. -/
  fresh : Nat

namespace LinkedQueue

variable {α : Type}

/-- The queue without cells. -/
def empty : LinkedQueue α where
  next := fun _ => none
  value := fun _ => none
  first := none
  last := none
  fresh := 0

/-- `p->next = 0; if (first) last->next = p; else first = p; last = p;` -/
def push (queue : LinkedQueue α) (value : α) : LinkedQueue α :=
  let next := Function.update queue.next queue.fresh none
  { next :=
      match queue.first, queue.last with
      | some _, some last => Function.update next last (some queue.fresh)
      | _, _ => next
    value := Function.update queue.value queue.fresh (some value)
    first := queue.first.or (some queue.fresh)
    last := some queue.fresh
    fresh := queue.fresh + 1 }

/-- `first = first->next; if (first == 0) last = 0;` -/
def pop (queue : LinkedQueue α) : LinkedQueue α :=
  match queue.first with
  | none => queue
  | some cell =>
      { queue with
        first := queue.next cell
        last := if queue.next cell = none then none else queue.last }

/-- The value of the first cell. -/
def front (queue : LinkedQueue α) : Option α :=
  queue.first.bind queue.value

/-- Change the value of the first cell in place. -/
def setFront (queue : LinkedQueue α) (value : α) : LinkedQueue α :=
  match queue.first with
  | none => queue
  | some cell => { queue with value := Function.update queue.value cell (some value) }

/-- Following `next` from `start` visits exactly the given cells and ends in a null link. -/
def Chain (next : Nat → Option Nat) : Option Nat → List Nat → Prop
  | start, [] => start = none
  | start, cell :: cells => start = some cell ∧ Chain next (next cell) cells

theorem Chain.start_eq {next : Nat → Option Nat} {start : Option Nat} {nodes : List Nat}
    (chain : Chain next start nodes) : start = nodes.head? := by
  cases nodes with
  | nil => exact chain
  | cons node nodes => exact chain.1

theorem Chain.next_eq {next : Nat → Option Nat} {start : Option Nat} {front rear : List Nat}
    {node : Nat} (chain : Chain next start (front ++ node :: rear)) : next node = rear.head? := by
  induction front generalizing start with
  | nil => exact chain.2.start_eq
  | cons _ front induction => exact induction chain.2

/-- A chain is the same when the nodes on it are. -/
theorem Chain.congr {next next' : Nat → Option Nat} {start : Option Nat} {nodes : List Nat}
    (chain : Chain next start nodes) (same : ∀ node ∈ nodes, next' node = next node) :
    Chain next' start nodes := by
  induction nodes generalizing start with
  | nil => exact chain
  | cons node nodes induction =>
      rw [List.forall_mem_cons] at same
      refine ⟨chain.1, ?_⟩
      rw [same.1]
      exact induction chain.2 same.2

/-- The chain from `first` ends at `last` and its cells hold the given values. -/
structure Holds (queue : LinkedQueue α) (cells : List Nat) (values : List α) : Prop where
  chain : Chain queue.next queue.first cells
  last_eq : queue.last = cells.getLast?
  nodup : cells.Nodup
  allocated : ∀ cell ∈ cells, cell < queue.fresh
  values_eq : cells.map queue.value = values.map some

/-- The queue is well linked and holds the given values. -/
def Represents (queue : LinkedQueue α) (values : List α) : Prop :=
  ∃ cells, Holds queue cells values

theorem represents_empty : Represents (empty : LinkedQueue α) [] :=
  ⟨[], rfl, rfl, by simp, by simp, rfl⟩

theorem Represents.first_eq_none_iff {queue : LinkedQueue α} {values : List α}
    (represents : Represents queue values) : queue.first = none ↔ values = [] := by
  obtain ⟨cells, chain, _, _, _, values_eq⟩ := represents
  cases cells with
  | nil =>
      have none_left : values = [] := by simpa using values_eq.symm
      exact ⟨fun _ => none_left, fun _ => chain⟩
  | cons cell cells =>
      have some_first : queue.first = some cell := chain.1
      constructor
      · intro none_first
        rw [some_first] at none_first
        cases none_first
      · rintro rfl
        simp at values_eq

theorem Represents.front_eq {queue : LinkedQueue α} {values : List α}
    (represents : Represents queue values) : queue.front = values.head? := by
  obtain ⟨cells, chain, _, _, _, values_eq⟩ := represents
  cases cells with
  | nil =>
      have none_left : values = [] := by simpa using values_eq.symm
      simp only [Chain] at chain
      simp [front, chain, none_left]
  | cons cell cells =>
      cases values with
      | nil => simp at values_eq
      | cons value values =>
          simp only [List.map_cons, List.cons.injEq] at values_eq
          simp [front, chain.1, values_eq.1]

/-- Hanging a new cell on the last one extends the chain. -/
theorem Chain.hang {next : Nat → Option Nat} {start : Option Nat} {cells : List Nat}
    {last fresh : Nat} (chain : Chain next start cells) (last_eq : cells.getLast? = some last)
    (nodup : cells.Nodup) (unused : fresh ∉ cells) :
    Chain (Function.update (Function.update next fresh none) last (some fresh)) start
      (cells ++ [fresh]) := by
  induction cells generalizing start with
  | nil => simp at last_eq
  | cons cell cells induction =>
      simp only [List.mem_cons, not_or] at unused
      refine ⟨chain.1, ?_⟩
      cases cells with
      | nil =>
          have same : cell = last := by simpa using last_eq
          subst same
          simp [Chain, unused.1]
      | cons second cells =>
          have later : (second :: cells).getLast? = some last := by simpa using last_eq
          have different : cell ≠ last := by
            rintro rfl
            exact (List.nodup_cons.mp nodup).1 (List.mem_of_getLast? later)
          rw [Function.update_of_ne different, Function.update_of_ne (Ne.symm unused.1)]
          exact induction chain.2 later (List.nodup_cons.mp nodup).2 (by simpa using unused.2)

/-- A pushed value becomes the last one. -/
theorem Represents.push {queue : LinkedQueue α} {values : List α}
    (represents : Represents queue values) (value : α) :
    Represents (queue.push value) (values ++ [value]) := by
  obtain ⟨cells, chain, last_eq, nodup, allocated, values_eq⟩ := represents
  have unused : queue.fresh ∉ cells := fun member => Nat.lt_irrefl _ (allocated _ member)
  have allocated' : ∀ cell ∈ cells ++ [queue.fresh], cell < queue.fresh + 1 := by
    intro cell member
    rcases List.mem_append.mp member with old | new
    · exact Nat.lt_succ_of_lt (allocated cell old)
    · rw [List.mem_singleton.mp new]
      exact Nat.lt_succ_self _
  have nodup' : (cells ++ [queue.fresh]).Nodup := by
    rw [List.nodup_append]
    refine ⟨nodup, by simp, ?_⟩
    intro cell member other new equal
    rw [List.mem_singleton.mp new] at equal
    exact unused (equal ▸ member)
  have values_eq' : (cells ++ [queue.fresh]).map
      (Function.update queue.value queue.fresh (some value)) = (values ++ [value]).map some := by
    rw [List.map_append, List.map_append, ← values_eq]
    congr 1
    · apply List.map_congr_left
      intro cell member
      rw [Function.update_of_ne]
      rintro rfl
      exact unused member
    · simp
  refine ⟨cells ++ [queue.fresh], ?_, by simp [LinkedQueue.push], nodup', allocated', values_eq'⟩
  cases cells with
  | nil =>
      have none_first : queue.first = none := chain
      simp [LinkedQueue.push, none_first, Chain]
  | cons cell cells =>
      obtain ⟨last, last_eq'⟩ : ∃ last, (cell :: cells).getLast? = some last :=
        ⟨_, List.getLast?_cons⟩
      rw [last_eq'] at last_eq
      have some_first : queue.first = some cell := chain.1
      simp only [LinkedQueue.push, some_first, last_eq, Option.some_or]
      rw [← some_first]
      exact chain.hang last_eq' nodup unused

/-- Popping drops the first value. -/
theorem Represents.pop {queue : LinkedQueue α} {value : α} {values : List α}
    (represents : Represents queue (value :: values)) : Represents queue.pop values := by
  obtain ⟨cells, chain, last_eq, nodup, allocated, values_eq⟩ := represents
  cases cells with
  | nil => simp at values_eq
  | cons cell cells =>
      obtain ⟨first_eq, rest⟩ := chain
      simp only [List.map_cons, List.cons.injEq] at values_eq
      refine ⟨cells, ?_, ?_, (List.nodup_cons.mp nodup).2, ?_, ?_⟩
      · simpa [LinkedQueue.pop, first_eq] using rest
      · cases cells with
        | nil =>
            have no_next : queue.next cell = none := rest
            simp [LinkedQueue.pop, first_eq, no_next]
        | cons second cells =>
            have some_next : queue.next cell = some second := rest.1
            simpa [LinkedQueue.pop, first_eq, some_next] using last_eq
      · intro other member
        simpa [LinkedQueue.pop, first_eq] using allocated other (List.mem_cons_of_mem _ member)
      · simpa [LinkedQueue.pop, first_eq] using values_eq.2

/-- Changing the first value in place changes nothing else. -/
theorem Represents.setFront {queue : LinkedQueue α} {value : α} {values : List α}
    (represents : Represents queue (value :: values)) (value' : α) :
    Represents (queue.setFront value') (value' :: values) := by
  obtain ⟨cells, chain, last_eq, nodup, allocated, values_eq⟩ := represents
  cases cells with
  | nil => simp at values_eq
  | cons cell cells =>
      have first_eq : queue.first = some cell := chain.1
      simp only [List.map_cons, List.cons.injEq] at values_eq
      have unused := (List.nodup_cons.mp nodup).1
      simp only [LinkedQueue.setFront, first_eq]
      refine ⟨cell :: cells, ⟨rfl, chain.2⟩, last_eq, nodup, allocated, ?_⟩
      simp only [List.map_cons, Function.update_self, ← values_eq.2, List.cons.injEq, true_and]
      apply List.map_congr_left
      intro other member
      rw [Function.update_of_ne]
      rintro rfl
      exact unused member

/-- A queue represents one list only. -/
theorem Represents.unique {queue : LinkedQueue α} {values values' : List α}
    (one : Represents queue values) (two : Represents queue values') : values = values' := by
  induction values generalizing queue values' with
  | nil => exact (two.first_eq_none_iff.mp (one.first_eq_none_iff.mpr rfl)).symm
  | cons value values induction =>
      have front := one.front_eq.symm.trans two.front_eq
      cases values' with
      | nil => cases front
      | cons value' values' =>
          cases front
          rw [induction one.pop two.pop]

/-- The chain visits at most as many cells as have been allocated. -/
theorem Represents.length_le {queue : LinkedQueue α} {values : List α}
    (represents : Represents queue values) : values.length ≤ queue.fresh := by
  obtain ⟨cells, _, _, nodup, allocated, values_eq⟩ := represents
  have lengths : values.length = cells.length := by
    simpa using (congrArg List.length values_eq).symm
  rw [lengths]
  have inside : cells ⊆ List.range queue.fresh := fun cell member =>
    List.mem_range.mpr (allocated cell member)
  simpa using (nodup.subperm inside).length_le

/-- A well-linked queue has a null `first` exactly when its `last` is null, and otherwise `last` is
where the chain from `first` ends. -/
theorem Represents.linked {queue : LinkedQueue α} {values : List α}
    (represents : Represents queue values) :
    (queue.first = none ↔ queue.last = none) ∧
      ∀ first, queue.first = some first →
        ∃ cells, Chain queue.next (some first) cells ∧ queue.last = cells.getLast? := by
  obtain ⟨cells, chain, last_eq, _⟩ := represents
  constructor
  · rw [last_eq, List.getLast?_eq_none_iff]
    cases cells with
    | nil => simp [show queue.first = none from chain]
    | cons cell cells => simp [chain.1]
  · rintro first first_eq
    exact ⟨cells, first_eq ▸ chain, last_eq⟩

end LinkedQueue
end AdbWide
