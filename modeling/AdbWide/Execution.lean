import Mathlib.Data.List.Basic

/-!
# Labelled executions

A system is a relation `step before label after`.  A `Trace` is a finite execution presented by
its last step, together with the chronological list of its labels.  The two rules of this file
are the only ones the developments over it need: an invariant established initially and kept by
every step holds at the end of every trace, and a step-by-step simulation lifts to traces with
the same labels.
-/

namespace AdbWide

variable {State Label Abstract : Type*}

/-- A finite execution from `initial`, listing its labels in chronological order. -/
inductive Trace (step : State → Label → State → Prop) (initial : State) :
    List Label → State → Prop where
  | nil : Trace step initial [] initial
  | snoc {labels : List Label} {before after : State} {label : Label} :
      Trace step initial labels before →
      step before label after →
      Trace step initial (labels ++ [label]) after

/-- The states some trace from `initial` ends in. -/
def Reachable (step : State → Label → State → Prop) (initial state : State) : Prop :=
  ∃ labels, Trace step initial labels state

/-- The steps of a system whose label and source state meet a condition. -/
def Guarded (step : State → Label → State → Prop) (condition : State → Label → Prop) :
    State → Label → State → Prop :=
  fun before label after => condition before label ∧ step before label after

namespace Trace

variable {step : State → Label → State → Prop} {initial final : State} {labels : List Label}

/-- An invariant that holds initially and is kept by every step holds after every trace. -/
theorem invariant (property : State → Prop) (start : property initial)
    (keep : ∀ before label after, property before → step before label after → property after)
    (trace : Trace step initial labels final) : property final := by
  induction trace with
  | nil => exact start
  | snoc _ last induction => exact keep _ _ _ induction last

/-- A trace may be followed by another one. -/
theorem append {middle : State} {later : List Label} (first : Trace step initial labels middle)
    (second : Trace step middle later final) : Trace step initial (labels ++ later) final := by
  induction second with
  | nil => simpa using first
  | snoc _ last induction => simpa using induction.snoc last

/-- Extend a guarded trace by a step that meets the condition. -/
theorem guard {condition : State → Label → Prop} {after : State} {label : Label}
    (trace : Trace (Guarded step condition) initial labels final)
    (last : step final label after) (meets : condition final label) :
    Trace (Guarded step condition) initial (labels ++ [label]) after :=
  .snoc trace ⟨meets, last⟩

/-- The condition on the steps of a trace may be forgotten. -/
theorem unguard {condition : State → Label → Prop}
    (trace : Trace (Guarded step condition) initial labels final) :
    Trace step initial labels final := by
  induction trace with
  | nil => exact .nil
  | snoc _ last induction => exact .snoc induction last.2

/-- A simulation relation lifts from single steps to traces. -/
theorem simulate (abstractStep : Abstract → Label → Abstract → Prop)
    (related : State → Abstract → Prop) {abstractInitial : Abstract}
    (start : related initial abstractInitial)
    (lift : ∀ before label after abstract, related before abstract →
      step before label after →
        ∃ abstract', abstractStep abstract label abstract' ∧ related after abstract')
    (trace : Trace step initial labels final) :
    ∃ abstract, Trace abstractStep abstractInitial labels abstract ∧
      related final abstract := by
  induction trace with
  | nil => exact ⟨abstractInitial, .nil, start⟩
  | snoc _ last induction =>
      obtain ⟨abstract, abstractTrace, relates⟩ := induction
      obtain ⟨abstract', abstractLast, relates'⟩ := lift _ _ _ _ relates last
      exact ⟨abstract', .snoc abstractTrace abstractLast, relates'⟩

end Trace

/-- A trace passes through a state with the given property. -/
def Passes (step : State → Label → State → Prop) (initial : State) (labels : List Label)
    (final : State) (property : State → Prop) : Prop :=
  ∃ earlier middle later, labels = earlier ++ later ∧ Trace step initial earlier middle ∧
    Trace step middle later final ∧ property middle

namespace Passes

variable {step : State → Label → State → Prop} {initial final after : State}
  {labels : List Label} {label : Label} {property : State → Prop}

theorem last (trace : Trace step initial labels final) (holds : property final) :
    Passes step initial labels final property :=
  ⟨labels, final, [], (List.append_nil _).symm, trace, .nil, holds⟩

theorem snoc (passes : Passes step initial labels final property) (next : step final label after) :
    Passes step initial (labels ++ [label]) after property := by
  obtain ⟨earlier, middle, later, rfl, first, second, holds⟩ := passes
  exact ⟨earlier, middle, later ++ [label], List.append_assoc .., first, second.snoc next, holds⟩

end Passes

/-- In a trace an event has happened, and in every state after it the property has held. -/
inductive Since (step : State → Label → State → Prop) (event : State → Label → State → Prop)
    (property : State → Prop) (initial : State) : List Label → State → Prop where
  | begins {labels : List Label} {before after : State} {label : Label} :
      Trace step initial labels before → step before label after →
      event before label after → property after →
      Since step event property initial (labels ++ [label]) after
  | lasts {labels : List Label} {before after : State} {label : Label} :
      Since step event property initial labels before → step before label after →
      property after →
      Since step event property initial (labels ++ [label]) after

namespace Since

variable {step event event' : State → Label → State → Prop} {property : State → Prop}
  {initial final : State} {labels : List Label}

theorem holds (since : Since step event property initial labels final) : property final := by
  cases since with
  | begins _ _ _ holds => exact holds
  | lasts _ _ holds => exact holds

end Since

/-- A property that does not hold at first and comes to hold by an event only has held since such
an event wherever it holds. -/
theorem Trace.since {step event : State → Label → State → Prop} {property : State → Prop}
    {initial final : State} {labels : List Label} (trace : Trace step initial labels final)
    (fresh : ¬property initial)
    (enter : ∀ before label after, step before label after → ¬property before → property after →
      event before label after)
    (holds : property final) : Since step event property initial labels final := by
  induction trace with
  | nil => exact absurd holds fresh
  | @snoc labels before after label earlier last induction =>
      by_cases before_holds : property before
      · exact .lasts (induction before_holds) last holds
      · exact .begins earlier last (enter _ _ _ last before_holds holds) holds

/-- The steps of a list can be taken one after the other, where `next` gives the state after a
step. -/
def Follows (step : State → Label → State → Prop) (next : State → Label → State) :
    State → List Label → Prop
  | _, [] => True
  | state, label :: labels =>
      step state label (next state label) ∧ Follows step next (next state label) labels

/-- A trace is extended by a list of steps that can be taken. -/
theorem Trace.foldl {step : State → Label → State → Prop} {next : State → Label → State}
    {initial state : State} {earlier labels : List Label}
    (trace : Trace step initial earlier state) (follows : Follows step next state labels) :
    Trace step initial (earlier ++ labels) (labels.foldl next state) := by
  induction labels generalizing earlier state with
  | nil => simpa using trace
  | cons label labels induction => simpa using induction (trace.snoc follows.1) follows.2

/-- A computation that is given fuel returns `value` from some amount on. -/
def Returns {Error Value : Type*} (run : Nat → Except Error Value) (value : Value) : Prop :=
  ∃ least, ∀ fuel, least ≤ fuel → run fuel = .ok value

namespace Returns

universe u v

variable {Error : Type u} {Value Result : Type v} {run : Nat → Except Error Value}
  {value value' : Value}

theorem pure (value : Value) : Returns (fun _ => (.ok value : Except Error Value)) value :=
  ⟨0, fun _ _ => rfl⟩

theorem bind {next : Nat → Value → Except Error Result} {result : Result}
    (first : Returns run value) (second : Returns (fun fuel => next fuel value) result) :
    Returns (fun fuel => run fuel >>= next fuel) result := by
  obtain ⟨least, first⟩ := first
  obtain ⟨least', second⟩ := second
  refine ⟨max least least', fun fuel enough => ?_⟩
  dsimp only
  rw [first fuel (Nat.le_trans (Nat.le_max_left _ _) enough)]
  exact second fuel (Nat.le_trans (Nat.le_max_right _ _) enough)

theorem unique (first : Returns run value) (second : Returns run value') : value = value' := by
  obtain ⟨least, first⟩ := first
  obtain ⟨least', second⟩ := second
  have same := (first _ (Nat.le_max_left least least')).symm.trans
    (second _ (Nat.le_max_right least least'))
  exact Except.ok.inj same

end Returns

/-- A computation that is given fuel fails from some amount on. -/
def Fails {Error Value : Type*} (run : Nat → Except Error Value) (error : Error) : Prop :=
  ∃ least, ∀ fuel, least ≤ fuel → run fuel = .error error

namespace Fails

universe u v

variable {Error : Type u} {Value Result : Type v} {run : Nat → Except Error Value} {error : Error}

theorem bind (fails : Fails run error) (next : Nat → Value → Except Error Result) :
    Fails (fun fuel => run fuel >>= next fuel) error := by
  obtain ⟨least, fails⟩ := fails
  refine ⟨least, fun fuel enough => ?_⟩
  dsimp only
  rw [fails fuel enough]
  rfl

theorem not_returns (fails : Fails run error) (value : Value) : ¬Returns run value := by
  rintro ⟨least', returns⟩
  obtain ⟨least, fails⟩ := fails
  have both := (fails _ (Nat.le_max_left least least')).symm.trans
    (returns _ (Nat.le_max_right least least'))
  exact nomatch both

end Fails

/-- An invariant of the steps holds in every reachable state. -/
theorem Reachable.invariant {step : State → Label → State → Prop} {initial state : State}
    (property : State → Prop) (start : property initial)
    (keep : ∀ before label after, property before → step before label after → property after)
    (reachable : Reachable step initial state) : property state := by
  obtain ⟨_, trace⟩ := reachable
  exact trace.invariant property start keep

/-- Steps that each lower a measure are no more than the measure is at the start. -/
theorem Trace.countP_add_le {step : State → Label → State → Prop} {initial final : State}
    {labels : List Label} (counted : Label → Bool) (measure : State → Nat)
    (falls : ∀ before label after, Reachable step initial before → step before label after →
      (if counted label then 1 else 0) + measure after ≤ measure before)
    (trace : Trace step initial labels final) :
    labels.countP counted + measure final ≤ measure initial := by
  induction trace with
  | nil => simp
  | snoc earlier last induction =>
      have fall := falls _ _ _ ⟨_, earlier⟩ last
      rw [List.countP_append, List.countP_singleton]
      omega

/-- Where traces are no longer than a bound, some trace cannot be continued. -/
theorem exists_maximal {step : State → Label → State → Prop} {initial : State} {bound : Nat}
    (bounded : ∀ labels final, Trace step initial labels final → labels.length ≤ bound) :
    ∃ labels final, Trace step initial labels final ∧ ∀ label after, ¬step final label after := by
  by_contra endless
  have longer : ∀ length, ∃ labels final, Trace step initial labels final ∧
      labels.length = length := by
    intro length
    induction length with
    | zero => exact ⟨[], initial, .nil, rfl⟩
    | succ length induction =>
        obtain ⟨labels, final, trace, rfl⟩ := induction
        by_contra stuck
        refine endless ⟨labels, final, trace, fun label after next => stuck ?_⟩
        exact ⟨labels ++ [label], after, trace.snoc next, by simp⟩
  obtain ⟨labels, final, trace, length⟩ := longer (bound + 1)
  have short := bounded labels final trace
  omega

end AdbWide
