import AdbWide.Execution

/-!
# Bounded queues

The abstract behaviour of a bounded first-in first-out queue whose writes may be short: a write
takes as much of its source as there is room for, and a read takes as much as it asks for and
the queue holds.  A trace of calls conserves its elements, so what has been read is always a
prefix of what has been accepted.
-/

namespace AdbWide
namespace BoundedFifo

variable {α : Type*}

/-- A completed call on a queue, with its answer. -/
inductive Call (α : Type*) where
  /-- A write of `source`, of which the first `count` elements were accepted. -/
  | write (source : List α) (count : Nat)
  /-- A read of at most `wanted` elements, which returned `answer`. -/
  | read (wanted : Nat) (answer : List α)
  deriving DecidableEq, Repr

/-- The elements a call put into the queue. -/
def Call.accepted : Call α → List α
  | .write source count => source.take count
  | .read _ _ => []

/-- The elements a call took out of the queue. -/
def Call.returned : Call α → List α
  | .write _ _ => []
  | .read _ answer => answer

/-- One call on a queue of the given capacity, oldest element first. -/
inductive Step (capacity : Nat) : List α → Call α → List α → Prop where
  | write (queue source : List α) :
      Step capacity queue
        (.write source (min source.length (capacity - queue.length)))
        (queue ++ source.take (min source.length (capacity - queue.length)))
  | read (queue : List α) (wanted : Nat) :
      Step capacity queue (.read wanted (queue.take wanted)) (queue.drop wanted)

/-- Everything accepted during a trace is either read already or still queued, in order. -/
theorem conservation {capacity : Nat} {calls : List (Call α)} {queue : List α}
    (trace : Trace (Step capacity) [] calls queue) :
    calls.flatMap Call.accepted = calls.flatMap Call.returned ++ queue := by
  induction trace with
  | nil => rfl
  | snoc _ last induction =>
      cases last with
      | write source =>
          simp [List.flatMap_append, induction, Call.accepted, Call.returned]
      | read wanted =>
          simp [List.flatMap_append, induction, Call.accepted, Call.returned]

end BoundedFifo
end AdbWide
