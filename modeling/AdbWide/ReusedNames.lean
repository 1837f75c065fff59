import Mathlib.Logic.Function.Basic

/-!
# Names that are used again

A name stands for one thing at a time and is given to another one when the first is gone.  Things
are numbered in the order in which they come, so that two things that had the same name are told
apart.
-/

namespace AdbWide

/-- Which thing each name stands for, and how many things there have been. -/
structure ReusedNames (Name : Type*) where
  holder : Name → Option Nat
  issued : Nat

namespace ReusedNames

variable {Name : Type*} [DecidableEq Name] {names : ReusedNames Name} {name other : Name}
  {n : Nat}

/-- The next thing gets a name. -/
def give (names : ReusedNames Name) (name : Name) : ReusedNames Name where
  holder := Function.update names.holder name (some names.issued)
  issued := names.issued + 1

/-- The thing a name stands for is gone. -/
def drop (names : ReusedNames Name) (name : Name) : ReusedNames Name :=
  { names with holder := Function.update names.holder name none }

/-- Every thing has come before the next one, and has one name. -/
structure Sound (names : ReusedNames Name) : Prop where
  issued : ∀ name n, names.holder name = some n → n < names.issued
  unique : ∀ name other n, names.holder name = some n → names.holder other = some n →
    name = other

theorem holder_drop_self : (names.drop name).holder name = none :=
  Function.update_self ..

theorem holder_drop_of_ne (different : other ≠ name) :
    (names.drop name).holder other = names.holder other :=
  Function.update_of_ne different ..

theorem holder_give_self : (names.give name).holder name = some names.issued :=
  Function.update_self ..

theorem holder_give_of_ne (different : other ≠ name) :
    (names.give name).holder other = names.holder other :=
  Function.update_of_ne different ..

theorem holder_drop_cases (held : (names.drop name).holder other = some n) :
    other ≠ name ∧ names.holder other = some n := by
  rcases eq_or_ne other name with rfl | different
  · rw [holder_drop_self] at held
    cases held
  · rw [holder_drop_of_ne different] at held
    exact ⟨different, held⟩

theorem holder_give_cases (held : (names.give name).holder other = some n) :
    other = name ∧ n = names.issued ∨ other ≠ name ∧ names.holder other = some n := by
  rcases eq_or_ne other name with rfl | different
  · rw [holder_give_self] at held
    exact .inl ⟨rfl, (Option.some.inj held).symm⟩
  · rw [holder_give_of_ne different] at held
    exact .inr ⟨different, held⟩

theorem Sound.drop (sound : names.Sound) (name : Name) : (names.drop name).Sound where
  issued other n held := sound.issued other n (holder_drop_cases held).2
  unique first second n held held' :=
    sound.unique first second n (holder_drop_cases held).2 (holder_drop_cases held').2

theorem Sound.give (sound : names.Sound) (name : Name) : (names.give name).Sound where
  issued other n held := by
    rcases holder_give_cases held with ⟨-, rfl⟩ | ⟨-, held⟩
    · exact Nat.lt_succ_self _
    · exact Nat.lt_succ_of_lt (sound.issued other n held)
  unique first second n held held' := by
    rcases holder_give_cases held with ⟨rfl, rfl⟩ | ⟨-, earlier⟩
    · rcases holder_give_cases held' with ⟨rfl, -⟩ | ⟨-, earlier'⟩
      · rfl
      · exact absurd (sound.issued second _ earlier') (Nat.lt_irrefl _)
    · rcases holder_give_cases held' with ⟨rfl, rfl⟩ | ⟨-, earlier'⟩
      · exact absurd (sound.issued first _ earlier) (Nat.lt_irrefl _)
      · exact sound.unique first second n earlier earlier'

/-- The thing has come and is gone. -/
structure Gone (names : ReusedNames Name) (n : Nat) : Prop where
  issued : n < names.issued
  unheld : ∀ name, names.holder name ≠ some n

theorem Gone.drop (gone : names.Gone n) (name : Name) : (names.drop name).Gone n where
  issued := gone.issued
  unheld other held := gone.unheld other (holder_drop_cases held).2

theorem Gone.give (gone : names.Gone n) (name : Name) : (names.give name).Gone n where
  issued := Nat.lt_succ_of_lt gone.issued
  unheld other held := by
    rcases holder_give_cases held with ⟨-, rfl⟩ | ⟨-, held⟩
    · exact Nat.lt_irrefl _ gone.issued
    · exact gone.unheld other held

/-- A thing is gone when its name is dropped. -/
theorem Sound.gone (sound : names.Sound) (held : names.holder name = some n) :
    (names.drop name).Gone n where
  issued := sound.issued name n held
  unheld other held' := by
    obtain ⟨different, held'⟩ := holder_drop_cases held'
    exact different (sound.unique other name n held' held)

end ReusedNames
end AdbWide
