import Mathlib.Data.Nat.Init

/-!
# Programs that read a memory

A program that looks at bytes by their places, with a log of the places it has looked at; and loops
of such programs, cut off after some rounds, with what they have read so far.
-/

namespace AdbWide

/-- A program over a memory, with the log of the places it reads. -/
def Reader (α : Type) := (Nat → UInt8) → α × List Nat

namespace Reader

variable {α β σ : Type} {memory : Nat → UInt8}

instance : Monad Reader where
  pure a := fun _ => (a, [])
  bind x f := fun memory =>
    let (a, places) := x memory
    let (b, later) := f a memory
    (b, places ++ later)

/-- The byte at a place. -/
def fetch (place : Nat) : Reader UInt8 := fun memory => (memory place, [place])

/-- What a program returns. -/
def value (x : Reader α) (memory : Nat → UInt8) : α := (x memory).1

/-- The places that a program reads. -/
def places (x : Reader α) (memory : Nat → UInt8) : List Nat := (x memory).2

@[simp] theorem value_pure (a : α) : value (pure a) memory = a := by
  rw [value]
  rfl

@[simp] theorem value_bind (x : Reader α) (f : α → Reader β) :
    value (x >>= f) memory = value (f (value x memory)) memory := by
  rw [value]
  rfl

-- Not by `rfl` alone, so that `simp` also takes it to the decidability of a condition.
@[simp] theorem value_fetch (place : Nat) : value (fetch place) memory = memory place := by
  rw [value, fetch]

@[simp] theorem value_ite (p : Prop) [Decidable p] (x y : Reader α) :
    value (if p then x else y) memory = if p then value x memory else value y memory := by
  split <;> rfl

@[simp] theorem places_pure (a : α) : places (pure a) memory = [] := rfl

@[simp] theorem places_bind (x : Reader α) (f : α → Reader β) :
    places (x >>= f) memory = places x memory ++ places (f (value x memory)) memory := rfl

@[simp] theorem places_fetch (place : Nat) : places (fetch place) memory = [place] := rfl

@[simp] theorem places_ite (p : Prop) [Decidable p] (x y : Reader α) :
    places (if p then x else y) memory = if p then places x memory else places y memory := by
  split <;> rfl

/-- All places that a program reads lie before a bound. -/
def Within (bound : Nat) (memory : Nat → UInt8) (x : Reader α) : Prop :=
  ∀ place ∈ places x memory, place < bound

section Within

variable {bound : Nat}

@[simp] theorem within_pure (a : α) : Within bound memory (pure a) :=
  fun _ mem => nomatch mem

@[simp] theorem within_fetch (place : Nat) : Within bound memory (fetch place) ↔ place < bound :=
  List.forall_mem_singleton

@[simp] theorem within_bind (x : Reader α) (f : α → Reader β) :
    Within bound memory (x >>= f) ↔
      Within bound memory x ∧ Within bound memory (f (value x memory)) :=
  List.forall_mem_append

@[simp] theorem within_ite (p : Prop) [Decidable p] (x y : Reader α) :
    Within bound memory (if p then x else y) ↔
      (p → Within bound memory x) ∧ (¬p → Within bound memory y) := by
  by_cases holds : p <;> simp [holds]

end Within

/-! ## Bytes in memory -/

/-- The memory has some bytes from a place on. -/
def Holds (memory : Nat → UInt8) (place : Nat) (bytes : List UInt8) : Prop :=
  ∀ k (inside : k < bytes.length), memory (place + k) = bytes[k]

section Holds

variable {place : Nat} {front rest bytes : List UInt8}

@[simp] theorem holds_nil : Holds memory place [] := fun _ inside => nomatch inside

@[simp] theorem holds_append : Holds memory place (front ++ rest) ↔
    Holds memory place front ∧ Holds memory (place + front.length) rest := by
  constructor
  · intro holds
    constructor
    · intro k inside
      rw [holds k (by rw [List.length_append]; omega), List.getElem_append_left inside]
    · intro k inside
      rw [Nat.add_assoc, holds (front.length + k) (by rw [List.length_append]; omega),
        List.getElem_append_right (Nat.le_add_right _ _)]
      simp
  · rintro ⟨first, second⟩ k inside
    by_cases early : k < front.length
    · rw [first k early, List.getElem_append_left early]
    · rw [List.getElem_append_right (Nat.le_of_not_lt early)]
      have found := second (k - front.length) (by rw [List.length_append] at inside; omega)
      rw [← found, Nat.add_assoc, Nat.add_sub_cancel' (Nat.le_of_not_lt early)]

/-- A part of the bytes that are in memory is found where it is among them. -/
theorem Holds.part (holds : Holds memory 0 bytes) (part : front <+: bytes.drop place)
    (nonempty : front ≠ []) : place + front.length ≤ bytes.length ∧ Holds memory place front := by
  have length := part.length_le
  have positive := List.length_pos_iff.mpr nonempty
  rw [List.length_drop] at length
  refine ⟨by omega, fun k inside => ?_⟩
  obtain ⟨rest, eq⟩ := part
  have whole := holds (place + k) (by omega)
  rw [Nat.zero_add] at whole
  rw [whole, ← List.getElem_drop (h := by rw [List.length_drop]; omega)]
  simp only [← eq, List.getElem_append_left inside]

end Holds

/-! ## Loops -/

/-- A loop that goes on with what its body gives it until that is a result; `none` if there is no
result after so many rounds. -/
def loop (body : σ → Reader (σ ⊕ α)) : Nat → σ → Reader (Option α)
  | 0, _ => pure none
  | rounds + 1, state => do
      match ← body state with
      | .inl next => loop body rounds next
      | .inr result => return some result

/-- The states from which the body is run. -/
inductive Visits (body : σ → Reader (σ ⊕ α)) (memory : Nat → UInt8) (start : σ) : σ → Prop
  | start : Visits body memory start start
  | next {state next : σ} (before : Visits body memory start state)
      (goes : value (body state) memory = .inl next) : Visits body memory start next

/-- The loop comes to a result. -/
def Ends (body : σ → Reader (σ ⊕ α)) (memory : Nat → UInt8) (state : σ) : Prop :=
  ∃ rounds result, value (loop body rounds state) memory = some result

section Loops

variable {body : σ → Reader (σ ⊕ α)} {start state next : σ}

theorem loop_next (goes : value (body state) memory = .inl next) (rounds : Nat) :
    value (loop body (rounds + 1) state) memory = value (loop body rounds next) memory ∧
      places (loop body (rounds + 1) state) memory =
        places (body state) memory ++ places (loop body rounds next) memory := by
  rw [loop, value_bind, places_bind, goes]
  exact ⟨rfl, rfl⟩

theorem loop_result {result : α} (stops : value (body state) memory = .inr result) (rounds : Nat) :
    value (loop body (rounds + 1) state) memory = some result ∧
      places (loop body (rounds + 1) state) memory = places (body state) memory := by
  rw [loop, value_bind, places_bind, stops]
  exact ⟨rfl, List.append_nil _⟩

theorem Visits.trans {last : σ} (front : Visits body memory start state)
    (rest : Visits body memory state last) : Visits body memory start last := by
  induction rest with
  | start => exact front
  | next _ goes induction => exact induction.next goes

/-- A loop ends if and only if it does from the next state. -/
theorem ends_next_iff (goes : value (body state) memory = .inl next) :
    Ends body memory state ↔ Ends body memory next := by
  constructor
  · rintro ⟨rounds, result, ended⟩
    cases rounds with
    | zero => exact nomatch ended
    | succ rounds => exact ⟨rounds, result, (loop_next goes rounds).1 ▸ ended⟩
  · rintro ⟨rounds, result, ended⟩
    exact ⟨rounds + 1, result, (loop_next goes rounds).1 ▸ ended⟩

theorem Ends.visited (ends : Ends body memory start) (visits : Visits body memory start state) :
    Ends body memory state := by
  induction visits with
  | start => exact ends
  | next _ goes induction => exact (ends_next_iff goes).mp induction

/-- A loop that comes back to a state at once does not end. -/
theorem not_ends_of_again (again : value (body state) memory = .inl state) :
    ¬Ends body memory state := by
  rintro ⟨rounds, result, ended⟩
  induction rounds with
  | zero => exact nomatch ended
  | succ rounds induction => exact induction ((loop_next again rounds).1 ▸ ended)

/-- A loop that makes something smaller in every round ends. -/
theorem ends_of_measure (measure : σ → Nat)
    (smaller : ∀ state, Visits body memory start state → ∀ next,
      value (body state) memory = .inl next → measure next < measure state) :
    Ends body memory start := by
  induction bound : measure start using Nat.strong_induction_on generalizing start with
  | _ size induction =>
      cases step : value (body start) memory with
      | inr result => exact ⟨1, result, (loop_result step 0).1⟩
      | inl next =>
          have first : Visits body memory start next := .next .start step
          refine (ends_next_iff step).mpr (induction (measure next) ?_ ?_ rfl)
          · exact bound ▸ smaller start .start next step
          · exact fun state visits => smaller state (first.trans visits)

/-- What a loop reads is what its body reads from the states it visits. -/
theorem mem_places_loop {place : Nat} :
    (∃ rounds, place ∈ places (loop body rounds start) memory) ↔
      ∃ state, Visits body memory start state ∧ place ∈ places (body state) memory := by
  constructor
  · rintro ⟨rounds, mem⟩
    induction rounds generalizing start with
    | zero => exact nomatch mem
    | succ rounds induction =>
        cases step : value (body start) memory with
        | inr result =>
            rw [(loop_result step rounds).2] at mem
            exact ⟨start, .start, mem⟩
        | inl next =>
            rw [(loop_next step rounds).2, List.mem_append] at mem
            obtain mem | mem := mem
            · exact ⟨start, .start, mem⟩
            · obtain ⟨state, visits, mem⟩ := induction mem
              exact ⟨state, (Visits.next .start step).trans visits, mem⟩
  · rintro ⟨state, visits, mem⟩
    suffices reached : ∀ rounds, place ∈ places (loop body rounds state) memory →
        ∃ rounds, place ∈ places (loop body rounds start) memory by
      refine reached 1 ?_
      rw [loop, places_bind]
      exact List.mem_append_left _ mem
    clear mem
    induction visits with
    | start => exact fun rounds mem => ⟨rounds, mem⟩
    | next _ goes induction =>
        intro rounds mem
        refine induction (rounds + 1) ?_
        rw [(loop_next goes rounds).2]
        exact List.mem_append_right _ mem

/-- A loop stays before a bound if and only if its body does from all states it visits. -/
theorem within_loop_iff {bound : Nat} :
    (∀ rounds, Within bound memory (loop body rounds start)) ↔
      ∀ state, Visits body memory start state → Within bound memory (body state) := by
  constructor
  · intro within state visits place mem
    obtain ⟨rounds, mem⟩ := mem_places_loop.mpr ⟨state, visits, mem⟩
    exact within rounds place mem
  · intro within rounds place mem
    obtain ⟨state, visits, mem⟩ := mem_places_loop.mp ⟨rounds, mem⟩
    exact within state visits place mem

end Loops

end Reader
end AdbWide
