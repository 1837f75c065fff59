import Mathlib.Data.List.Basic

/-!
# Little-endian words and concatenated records

A word of 32 bits is stored as four bytes, the lowest first.  A list of records is stored by
writing one after the other, and taken apart by a function that splits one record off the front.
-/

namespace AdbWide

/-- The four bytes of a word. -/
def wordBytes (word : UInt32) : List UInt8 :=
  [UInt8.ofNat word.toNat, UInt8.ofNat (word.toNat / 256), UInt8.ofNat (word.toNat / 65536),
    UInt8.ofNat (word.toNat / 16777216)]

/-- The word at the front of some bytes. -/
def wordOf : List UInt8 → UInt32
  | b₀ :: b₁ :: b₂ :: b₃ :: _ =>
      UInt32.ofNat (b₀.toNat + 256 * b₁.toNat + 65536 * b₂.toNat + 16777216 * b₃.toNat)
  | _ => 0

/-- The two bytes of a short word. -/
def shortBytes (short : UInt16) : List UInt8 :=
  [UInt8.ofNat short.toNat, UInt8.ofNat (short.toNat / 256)]

@[simp] theorem length_shortBytes (short : UInt16) : (shortBytes short).length = 2 := rfl

@[simp] theorem length_wordBytes (word : UInt32) : (wordBytes word).length = 4 := rfl

@[simp] theorem wordOf_wordBytes_append (word : UInt32) (rest : List UInt8) :
    wordOf (wordBytes word ++ rest) = word := by
  have bound : word.toNat < 4294967296 := word.toNat_lt
  apply UInt32.toNat_inj.mp
  simp only [wordBytes, wordOf, List.cons_append, List.nil_append, UInt32.toNat_ofNat',
    UInt8.toNat_ofNat']
  omega

@[simp] theorem wordOf_wordBytes (word : UInt32) : wordOf (wordBytes word) = word := by
  simpa using wordOf_wordBytes_append word []

@[simp] theorem drop_wordBytes_append (word : UInt32) (rest : List UInt8) (count : Nat) :
    (wordBytes word ++ rest).drop (count + 4) = rest.drop count := rfl

/-- A word is made of the first four bytes. -/
theorem wordOf_take {count : Nat} (enough : 4 ≤ count) (bytes : List UInt8) :
    wordOf (bytes.take count) = wordOf bytes := by
  obtain ⟨count, rfl⟩ := Nat.exists_eq_add_of_le' enough
  obtain _ | ⟨b₀, _ | ⟨b₁, _ | ⟨b₂, _ | ⟨b₃, bytes⟩⟩⟩⟩ := bytes
  · rfl
  · rfl
  · rfl
  · rfl
  · rfl

/-- Four bytes are those of the word they make. -/
theorem wordBytes_wordOf {bytes : List UInt8} (enough : 4 ≤ bytes.length) :
    wordBytes (wordOf bytes) = bytes.take 4 := by
  obtain _ | ⟨b₀, _ | ⟨b₁, _ | ⟨b₂, _ | ⟨b₃, bytes⟩⟩⟩⟩ := bytes
  · simp at enough
  · simp at enough
  · simp at enough
  · simp at enough
  · have bound₀ : b₀.toNat < 256 := b₀.toNat_lt
    have bound₁ : b₁.toNat < 256 := b₁.toNat_lt
    have bound₂ : b₂.toNat < 256 := b₂.toNat_lt
    have bound₃ : b₃.toNat < 256 := b₃.toNat_lt
    simp only [wordBytes, wordOf, UInt32.toNat_ofNat', List.take_succ_cons, List.take_zero,
      List.cons.injEq, and_true]
    simp only [← UInt8.toNat_inj, UInt8.toNat_ofNat']
    omega

/-- Split records off the front until there is none, at most as many as given. -/
def splitAll {α β : Type*} (split : List β → Option (α × List β)) : Nat → List β → List α
  | 0, _ => []
  | count + 1, bytes =>
      match split bytes with
      | none => []
      | some (record, rest) => record :: splitAll split count rest

section

variable {α β : Type*} {split : List β → Option (α × List β)}

/-- Records that can each be split off again are found in a row. -/
theorem splitAll_flatMap {write : α → List β} (empty : split [] = none) {records : List α}
    (inverse : ∀ record ∈ records, ∀ rest, split (write record ++ rest) = some (record, rest))
    {count : Nat} (enough : records.length < count) :
    splitAll split count (records.flatMap write) = records := by
  induction records generalizing count with
  | nil =>
      cases count with
      | zero => rfl
      | succ count => simp [splitAll, empty]
  | cons record records ih =>
      cases count with
      | zero => simp at enough
      | succ count =>
          rw [List.flatMap_cons, splitAll, inverse record List.mem_cons_self]
          simp only
          rw [ih (fun other member => inverse other (List.mem_cons_of_mem _ member))
            (by simpa using enough)]

theorem length_le_length_flatMap {write : α → List β} {records : List α}
    (nonempty : ∀ record ∈ records, write record ≠ []) :
    records.length ≤ (records.flatMap write).length := by
  induction records with
  | nil => simp
  | cons record records ih =>
      have positive := List.length_pos_of_ne_nil (nonempty record List.mem_cons_self)
      have rest := ih fun other member => nonempty other (List.mem_cons_of_mem _ member)
      rw [List.flatMap_cons, List.length_append, List.length_cons]
      omega

end

end AdbWide
