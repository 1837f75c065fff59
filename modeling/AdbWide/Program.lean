import Mathlib.Data.List.Basic

/-!
# Programs that may give up

A program over a state returns a value or gives up, and leaves a state either way.  `Emits` says
what a program that returns has added to a log, while an invariant of the state is kept whether it
returns or not.
-/

namespace AdbWide

/-- A program over a state. -/
def Program (State Value : Type) := State → Option Value × State

namespace Program

variable {State Value Value' Entry : Type}

/-- Give up. -/
def stop : Program State Value := fun state => (none, state)

/-- Go on whether a program gives up or not. -/
def attempt (program : Program State Value) : Program State (Option Value) :=
  fun state => (some (program state).1, (program state).2)

instance : Monad (Program State) where
  pure value := fun state => (some value, state)
  bind program next := fun state =>
    match program state with
    | (none, state') => (none, state')
    | (some value, state') => next value state'

theorem stop_apply (state : State) : (stop : Program State Value) state = (none, state) := rfl

theorem bind_apply (program : Program State Value) (next : Value → Program State Value')
    (state : State) :
    (program >>= next) state =
      match program state with
      | (none, state') => (none, state')
      | (some value, state') => next value state' := rfl

variable {inv : State → Prop} {log : State → List Entry}

/-- A program adds to the log, keeps the invariant, and when it returns has added what the
postcondition says. -/
def Emits (inv : State → Prop) (log : State → List Entry) (program : Program State Value)
    (post : Value → List Entry → Prop) : Prop :=
  ∀ before, inv before → ∃ out, log (program before).2 = log before ++ out ∧
    inv (program before).2 ∧ ∀ value, (program before).1 = some value → post value out

namespace Emits

variable {program : Program State Value} {next : Value → Program State Value'}
  {post post' : Value → List Entry → Prop} {postNext : Value' → List Entry → Prop}

theorem mono (emits : Emits inv log program post) (weaker : ∀ value out, post value out →
    post' value out) : Emits inv log program post' := by
  intro before holds
  obtain ⟨out, grown, kept, said⟩ := emits before holds
  exact ⟨out, grown, kept, fun value returned => weaker value out (said value returned)⟩

theorem pure (value : Value) : Emits inv log (pure value) fun value' out =>
    value' = value ∧ out = [] := by
  intro before holds
  refine ⟨[], (List.append_nil _).symm, holds, fun value' returned => ⟨?_, rfl⟩⟩
  exact (Option.some.inj returned).symm

theorem stop : Emits inv log (stop : Program State Value) post := by
  intro before holds
  exact ⟨[], (List.append_nil _).symm, holds, fun value returned => by cases returned⟩

theorem bind (first : Emits inv log program post)
    (second : ∀ value out, post value out →
      Emits inv log (next value) fun value' out' => postNext value' (out ++ out')) :
    Emits inv log (program >>= next) postNext := by
  intro before holds
  obtain ⟨out, grown, kept, said⟩ := first before holds
  rw [bind_apply]
  cases ran : program before with
  | mk result middle =>
      rw [ran] at grown kept said
      cases result with
      | none => exact ⟨out, grown, kept, fun value returned => by cases returned⟩
      | some value =>
          obtain ⟨out', grown', kept', said'⟩ := second value out (said value rfl) middle kept
          refine ⟨out ++ out', ?_, kept', said'⟩
          rw [grown', grown, List.append_assoc]

/-- What a program that must not give up is used for. -/
theorem attempt (emits : Emits inv log program post)
    (returns : ∀ state, inv state → (program state).1.isSome) :
    Emits inv log (attempt program) fun result out => ∃ value, result = some value ∧
      post value out := by
  intro before holds
  obtain ⟨out, grown, kept, said⟩ := emits before holds
  refine ⟨out, grown, kept, fun result returned => ?_⟩
  obtain ⟨value, ran⟩ := Option.isSome_iff_exists.mp (returns before holds)
  exact ⟨value, (Option.some.inj returned).symm.trans ran, said value ran⟩

/-- Whether a program gives up or not, it adds to the log. -/
theorem attempt_any (emits : Emits inv log program post) :
    Emits inv log (Program.attempt program) fun _ _ => True := by
  intro before holds
  obtain ⟨out, grown, kept, -⟩ := emits before holds
  exact ⟨out, grown, kept, fun _ _ => trivial⟩

end Emits

/-- From a state that meets the precondition a program returns in one that meets the postcondition,
or gives up in one that meets `fail`. -/
def Triple (pre : State → Prop) (program : Program State Value) (post : Value → State → Prop)
    (fail : State → Prop) : Prop :=
  ∀ before, pre before →
    (∀ value, (program before).1 = some value → post value (program before).2) ∧
      ((program before).1 = none → fail (program before).2)

namespace Triple

variable {pre pre' fail fail' : State → Prop} {program : Program State Value}
  {next : Value → Program State Value'} {post post' : Value → State → Prop}
  {postNext : Value' → State → Prop}

theorem mono (triple : Triple pre program post fail) (stronger : ∀ state, pre' state → pre state)
    (weaker : ∀ value state, post value state → post' value state)
    (weaker' : ∀ state, fail state → fail' state) : Triple pre' program post' fail' := by
  intro before holds
  obtain ⟨said, failed⟩ := triple before (stronger before holds)
  exact ⟨fun value returned => weaker value _ (said value returned),
    fun gave_up => weaker' _ (failed gave_up)⟩

theorem pure {value : Value} (post_of : ∀ state, pre state → post value state) :
    Triple pre (pure value) post fail := by
  intro before holds
  refine ⟨fun value' returned => ?_, fun gave_up => by cases gave_up⟩
  obtain rfl := Option.some.inj returned
  exact post_of before holds

theorem stop (fail_of : ∀ state, pre state → fail state) :
    Triple pre (stop : Program State Value) post fail :=
  fun before holds =>
    ⟨fun value returned => absurd returned (by simp [stop_apply]), fun _ => fail_of before holds⟩

theorem bind (first : Triple pre program post fail)
    (second : ∀ value, Triple (post value) (next value) postNext fail) :
    Triple pre (program >>= next) postNext fail := by
  intro before holds
  obtain ⟨said, failed⟩ := first before holds
  rw [bind_apply]
  cases ran : program before with
  | mk result middle =>
      rw [ran] at said failed
      cases result with
      | none =>
          refine ⟨fun value returned => ?_, fun _ => failed rfl⟩
          cases returned
      | some value => exact second value middle (said value rfl)

/-- Whether a program gave up can be seen. -/
theorem attempt_elim (triple : Triple pre program post fail) :
    Triple pre (Program.attempt program)
      (fun result state => result.elim (fail state) fun value => post value state) fail' := by
  intro before holds
  obtain ⟨said, failed⟩ := triple before holds
  refine ⟨fun result returned => ?_, fun gave_up => by cases gave_up⟩
  cases result with
  | none => exact failed (Option.some.inj returned)
  | some value => exact said value (Option.some.inj returned)

theorem attempt (triple : Triple pre program (fun _ => fail) fail) :
    Triple pre (Program.attempt program) (fun _ => fail) fail' := by
  refine triple.attempt_elim.mono (fun _ holds => holds) (fun result state said => ?_)
    fun _ failed => failed
  cases result with
  | none => exact said
  | some value => exact said

/-- What holds whether a program gives up or not. -/
theorem always {after : State → Prop} (triple : Triple pre program (fun _ => after) after)
    {before : State} (holds : pre before) : after (program before).2 := by
  obtain ⟨said, failed⟩ := triple before holds
  cases result : (program before).1 with
  | none => exact failed result
  | some value => exact said value result

/-- What does not depend on the state is a hypothesis. -/
theorem assume {fact : Prop} (triple : fact → Triple pre program post fail) :
    Triple (fun state => fact ∧ pre state) program post fail :=
  fun before holds => triple holds.1 before holds.2

/-- What is only known to exist is a variable. -/
theorem choose {Index : Type} {pre : Index → State → Prop}
    (triple : ∀ index, Triple (pre index) program post fail) :
    Triple (fun state => ∃ index, pre index state) program post fail := by
  rintro before ⟨index, holds⟩
  exact triple index before holds

end Triple

end Program
end AdbWide
