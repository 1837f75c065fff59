import Mathlib.Data.Fintype.EquivFin
import Mathlib.Data.List.Infix

/-!
# Interleavings of indexed sequences

A list of indexed entries interleaves a family of lists when the entries of each index, read in
order, are that index's list.
-/

namespace AdbWide

variable {ι α : Type*} [DecidableEq ι]

/-- The values of the entries that carry the given index, in order. -/
def entriesOf (index : ι) (entries : List (ι × α)) : List α :=
  (entries.filter (·.1 = index)).map Prod.snd

/-- The entries are an interleaving of the given lists, one for each index. -/
def Interleaves (entries : List (ι × α)) (lists : ι → List α) : Prop :=
  ∀ index, entriesOf index entries = lists index

@[simp] theorem entriesOf_append (index : ι) (left right : List (ι × α)) :
    entriesOf index (left ++ right) = entriesOf index left ++ entriesOf index right := by
  simp [entriesOf]

@[simp] theorem entriesOf_singleton_self (index : ι) (value : α) :
    entriesOf index [(index, value)] = [value] := by
  simp [entriesOf]

theorem entriesOf_singleton_of_ne {index other : ι} (different : other ≠ index) (value : α) :
    entriesOf index [(other, value)] = [] := by
  simp [entriesOf, different]

theorem entriesOf_map_same (index : ι) (values : List α) :
    entriesOf index (values.map fun value => (index, value)) = values := by
  induction values with
  | nil => rfl
  | cons value values induction => simpa [entriesOf] using induction

theorem entriesOf_map_of_ne {index other : ι} (different : other ≠ index) (values : List α) :
    entriesOf index (values.map fun value => (other, value)) = [] := by
  simp [entriesOf, different]

/-- Running through the indices one after the other interleaves the lists of these indices. -/
theorem entriesOf_flatMap (lists : ι → List α) {indices : List ι} (nodup : indices.Nodup)
    (index : ι) :
    entriesOf index (indices.flatMap fun other => (lists other).map fun value => (other, value)) =
      if index ∈ indices then lists index else [] := by
  induction indices with
  | nil => rfl
  | cons first indices induction =>
      obtain ⟨fresh, nodup'⟩ := List.nodup_cons.mp nodup
      rw [List.flatMap_cons, entriesOf_append, induction nodup']
      rcases eq_or_ne index first with rfl | different
      · simp [entriesOf_map_same, fresh]
      · simp [entriesOf_map_of_ne different.symm, different]

/-- Over finitely many indices, an interleaving of initial parts extends to one of the whole
lists. -/
theorem Interleaves.extend [Fintype ι] {entries : List (ι × α)} {lists : ι → List α}
    (rests : ι → List α) (interleaves : Interleaves entries lists) :
    ∃ merged, entries <+: merged ∧ Interleaves merged fun index => lists index ++ rests index := by
  refine ⟨entries ++ Finset.univ.toList.flatMap fun index => (rests index).map fun value =>
    (index, value), List.prefix_append _ _, ?_⟩
  intro index
  rw [entriesOf_append, interleaves index, entriesOf_flatMap rests (Finset.nodup_toList _)]
  simp

end AdbWide
