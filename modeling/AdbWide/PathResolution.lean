import Mathlib.Data.List.Infix

/-!
# Resolving paths

A path is a list of names with separators between them.  An empty name and a single dot stay where
they are, two dots go one directory up, and every other name goes one directory down.  Without its
detours a path goes up some times and then down.  Whether one path denotes something strictly
inside what another one denotes, wherever both begin, is seen from these two routes alone.
-/

namespace AdbWide
namespace PathResolution

/-- A directory is given by the names on the way to it, the innermost first. -/
abbrev Location (α : Type) := List (List α)

/-- Strictly inside. -/
def Inside {α : Type} (outer inner : Location α) : Prop :=
  ∃ names, names ≠ [] ∧ inner = names ++ outer

section Names

variable {α : Type} {outer inner names : Location α}

theorem inside_iff_suffix : Inside outer inner ↔ outer <:+ inner ∧ inner ≠ outer := by
  constructor
  · rintro ⟨names, nonempty, rfl⟩
    exact ⟨List.suffix_append names outer, fun same => nonempty (List.append_left_eq_self.mp same)⟩
  · rintro ⟨⟨names, rfl⟩, different⟩
    refine ⟨names, ?_, rfl⟩
    rintro rfl
    exact different rfl

instance [DecidableEq α] (outer inner : Location α) : Decidable (Inside outer inner) :=
  decidable_of_iff _ inside_iff_suffix.symm

theorem inside_nil : Inside [] inner ↔ inner ≠ [] := by
  constructor
  · rintro ⟨names, nonempty, rfl⟩
    rwa [List.append_nil]
  · exact fun nonempty => ⟨inner, nonempty, (List.append_nil inner).symm⟩

theorem Inside.append_right (inside : Inside outer inner) (below : Location α) :
    Inside (outer ++ below) (inner ++ below) := by
  obtain ⟨names, nonempty, rfl⟩ := inside
  exact ⟨names, nonempty, List.append_assoc names outer below⟩

/-- There is always another name. -/
theorem exists_fresh (letter : α) (names : Location α) : ∃ fresh, fresh ∉ names := by
  refine ⟨letter :: names.flatten, fun member => ?_⟩
  have short := (List.sublist_flatten_of_mem member).length_le
  rw [List.length_cons] at short
  omega

end Names

variable {α : Type} [DecidableEq α]

section Walks

variable (dot : α)

/-- Follow one name. -/
def enter (location : Location α) (name : List α) : Location α :=
  if name = [] ∨ name = [dot] then location
  else if name = [dot, dot] then location.tail
  else name :: location

/-- A path without its detours: so many directories up, and then down through some names, the
innermost first. -/
structure Route (α : Type) where
  ups : Nat := 0
  names : Location α := []
  deriving DecidableEq

namespace Route

/-- Follow one name more. -/
def enter (route : Route α) (name : List α) : Route α :=
  if name = [] ∨ name = [dot] then route
  else if name = [dot, dot] then
    match route.names with
    | [] => ⟨route.ups + 1, []⟩
    | _ :: names => ⟨route.ups, names⟩
  else ⟨route.ups, name :: route.names⟩

end Route

end Walks

namespace Route

variable {dot : α} {outer inner : Route α}

/-- What a route denotes, seen from a directory. -/
def seenFrom (route : Route α) (location : Location α) : Location α :=
  route.names ++ location.drop route.ups

theorem enter_seenFrom (route : Route α) (location : Location α) (name : List α) :
    PathResolution.enter dot (route.seenFrom location) name =
      (route.enter dot name).seenFrom location := by
  rw [PathResolution.enter, Route.enter]
  split
  · rfl
  · split
    · obtain ⟨ups, names⟩ := route
      cases names with
      | nil => exact List.tail_drop
      | cons name names => rfl
    · rfl

theorem foldl_enter_seenFrom (names : List (List α)) (route : Route α) (location : Location α) :
    names.foldl (PathResolution.enter dot) (route.seenFrom location) =
      (names.foldl (Route.enter dot) route).seenFrom location := by
  induction names generalizing route with
  | nil => rfl
  | cons name names induction =>
      rw [List.foldl_cons, List.foldl_cons, enter_seenFrom]
      exact induction _

/-- One route ends strictly inside the end of another: it goes down through the same names and
further, and it goes up as often, or less often if the other one goes up only. -/
def Within (outer inner : Route α) : Prop :=
  Inside outer.names inner.names ∧
    (inner.ups = outer.ups ∨ inner.ups < outer.ups ∧ outer.names = [])

instance (outer inner : Route α) : Decidable (Within outer inner) :=
  inferInstanceAs (Decidable (_ ∧ _))

omit [DecidableEq α] in
theorem inside_of_within (within : Within outer inner) (location : Location α) :
    Inside (outer.seenFrom location) (inner.seenFrom location) := by
  obtain ⟨inside, same | ⟨less, empty⟩⟩ := within
  · rw [seenFrom, seenFrom, same]
    exact inside.append_right _
  · -- What the inner route leaves out of its way up comes below its names.
    rw [empty, inside_nil] at inside
    refine ⟨inner.names ++ (location.drop inner.ups).take (outer.ups - inner.ups), ?_, ?_⟩
    · exact fun none => inside (List.append_eq_nil_iff.mp none).1
    · have rest : location.drop outer.ups =
          (location.drop inner.ups).drop (outer.ups - inner.ups) := by
        rw [List.drop_drop]
        congr 1
        omega
      rw [seenFrom, seenFrom, empty, List.nil_append, rest, List.append_assoc,
        List.take_append_drop]

/-- Deep in directories whose name is on neither route nothing is hidden. -/
theorem within_of_inside (letter : α)
    (inside : ∀ location, Inside (outer.seenFrom location) (inner.seenFrom location)) :
    Within outer inner := by
  obtain ⟨fresh, unused⟩ := exists_fresh letter (outer.names ++ inner.names)
  rw [List.mem_append, not_or] at unused
  obtain ⟨names, nonempty, ends⟩ := inside (List.replicate (outer.ups + inner.ups) fresh)
  rw [seenFrom, seenFrom, List.drop_replicate, List.drop_replicate, Nat.add_sub_cancel_left,
    Nat.add_sub_cancel, ← List.append_assoc] at ends
  have fewer : inner.ups ≤ outer.ups := by
    have counts := congrArg (List.count fresh) ends
    rw [List.count_append, List.count_append, List.count_replicate_self,
      List.count_replicate_self, List.count_eq_zero.mpr unused.2] at counts
    omega
  obtain ⟨more, more_eq⟩ := Nat.exists_eq_add_of_le fewer
  rw [more_eq, Nat.add_comm inner.ups, List.replicate_add, ← List.append_assoc,
    List.append_cancel_right_eq] at ends
  cases more with
  | zero =>
      rw [List.replicate_zero, List.append_nil] at ends
      exact ⟨⟨names, nonempty, ends⟩, .inl more_eq.symm⟩
  | succ more =>
      have empty : outer.names = [] := by
        by_contra other
        have last := congrArg List.getLast? ends
        rw [List.getLast?_append_of_ne_nil _ other, List.replicate_succ', ← List.append_assoc,
          List.getLast?_concat] at last
        exact unused.1 (List.mem_of_getLast? last.symm)
      refine ⟨?_, .inr ⟨by omega, empty⟩⟩
      have root := inside []
      rwa [seenFrom, seenFrom, List.drop_nil, List.drop_nil, List.append_nil, List.append_nil]
        at root

end Route

section Paths

variable (dot) (separator : α → Bool)

/-- The directory that a path names, seen from another one. -/
def resolve (location : Location α) (path : List α) : Location α :=
  (path.splitOnP separator).foldl (enter dot) location

/-- A path without its detours. -/
def route (path : List α) : Route α := (path.splitOnP separator).foldl (Route.enter dot) {}

variable {dot separator} {slash slash' : α}

theorem resolve_eq (location : Location α) (path : List α) :
    resolve dot separator location path = (route dot separator path).seenFrom location :=
  Route.foldl_enter_seenFrom _ {} location

/-- A path denotes something strictly inside what another one denotes, wherever both begin, if and
only if its route says so. -/
theorem forall_inside_iff (letter : α) {outer inner : List α} :
    (∀ location, Inside (resolve dot separator location outer)
      (resolve dot separator location inner)) ↔
      (route dot separator outer).Within (route dot separator inner) := by
  simp only [resolve_eq]
  exact ⟨Route.within_of_inside letter, Route.inside_of_within⟩

theorem resolve_append (isSeparator : separator slash = true) (location : Location α)
    (dir path : List α) :
    resolve dot separator location (dir ++ slash :: path) =
      resolve dot separator (resolve dot separator location dir) path := by
  rw [resolve, List.splitOnP_append_cons dir path isSeparator, List.foldl_append]
  rfl

/-- It does not matter which separator it is. -/
theorem route_append_cons (isSeparator : separator slash = true)
    (isSeparator' : separator slash' = true) (dir path : List α) :
    route dot separator (dir ++ slash :: path) = route dot separator (dir ++ slash' :: path) := by
  rw [route, route, List.splitOnP_append_cons dir path isSeparator,
    List.splitOnP_append_cons dir path isSeparator']

/-- From a directory a path leads inside it if it never climbs above its beginning and ends
deeper. -/
theorem within_append (letter : α) (isSeparator : separator slash = true) (dir : List α)
    {path : List α} (level : (route dot separator path).ups = 0)
    (deeper : (route dot separator path).names ≠ []) :
    (route dot separator dir).Within (route dot separator (dir ++ slash :: path)) := by
  rw [← forall_inside_iff letter]
  intro location
  rw [resolve_append isSeparator, resolve_eq _ path, Route.seenFrom, level, List.drop_zero]
  exact ⟨_, deeper, rfl⟩

end Paths

end PathResolution
end AdbWide
