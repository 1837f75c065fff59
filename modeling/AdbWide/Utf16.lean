import Mathlib.Data.List.Basic

/-!
# UTF-16 and UTF-8

A text in units of UTF-16 is a sequence of characters: two units that are surrogates of each other
are one, and a surrogate that stands alone counts as the replacement character.  The encoding of
the text in UTF-8 has at most three bytes for every unit, and it has a zero only where the text
has one.
-/

namespace AdbWide
namespace Utf16

/-- The first half of a surrogate pair. -/
def IsHigh (unit : UInt16) : Prop := 0xd800 ≤ unit.toNat ∧ unit.toNat < 0xdc00

/-- The second half of a surrogate pair. -/
def IsLow (unit : UInt16) : Prop := 0xdc00 ≤ unit.toNat ∧ unit.toNat < 0xe000

instance (unit : UInt16) : Decidable (IsHigh unit) :=
  inferInstanceAs (Decidable (0xd800 ≤ unit.toNat ∧ unit.toNat < 0xdc00))

instance (unit : UInt16) : Decidable (IsLow unit) :=
  inferInstanceAs (Decidable (0xdc00 ≤ unit.toNat ∧ unit.toNat < 0xe000))

/-- What a surrogate that stands alone is replaced by. -/
def replacement : Char := Char.ofNat 0xfffd

/-- The character of a unit that is not half of a pair. -/
def single (unit : UInt16) : Char :=
  if IsHigh unit ∨ IsLow unit then replacement else Char.ofNat unit.toNat

/-- The character of a surrogate pair. -/
def pair (high low : UInt16) : Char :=
  Char.ofNat (0x10000 + (high.toNat - 0xd800) * 0x400 + (low.toNat - 0xdc00))

/-- The characters of a text. -/
def decode : List UInt16 → List Char
  | [] => []
  | [unit] => [single unit]
  | high :: low :: rest =>
      if IsHigh high ∧ IsLow low then pair high low :: decode rest
      else single high :: decode (low :: rest)

/-- The text in UTF-8. -/
def toUtf8 (units : List UInt16) : List UInt8 := (decode units).flatMap String.utf8EncodeChar

/-- A property of the characters of a text holds if it holds for each of its units and pairs. -/
theorem decode_induction {property : List UInt16 → Prop} (nil : property [])
    (one : ∀ unit rest, property rest → decode (unit :: rest) = single unit :: decode rest →
      property (unit :: rest))
    (two : ∀ high low rest, IsHigh high → IsLow low → property rest →
      decode (high :: low :: rest) = pair high low :: decode rest →
      property (high :: low :: rest)) (units : List UInt16) : property units := by
  induction units using decode.induct with
  | case1 => exact nil
  | case2 unit => exact one unit [] nil rfl
  | case3 high low rest both induction =>
      exact two high low rest both.1 both.2 induction (by rw [decode, if_pos both])
  | case4 high low rest neither induction =>
      exact one high (low :: rest) induction (by rw [decode, if_neg neither])

theorem toNat_ofNat {n : Nat} (valid : n.isValidChar) : (Char.ofNat n).toNat = n := by
  rw [Char.ofNat, dif_pos valid]
  rfl

theorem toNat_single (unit : UInt16) :
    (single unit).toNat = if IsHigh unit ∨ IsLow unit then 0xfffd else unit.toNat := by
  have bound := unit.toNat_lt
  rw [single]
  split
  · exact toNat_ofNat (.inr (by decide))
  · next alone =>
      simp only [IsHigh, IsLow, not_or, not_and, Nat.not_lt] at alone
      refine toNat_ofNat ?_
      rw [Nat.isValidChar]
      omega

theorem toNat_pair {high low : UInt16} (isHigh : IsHigh high) (isLow : IsLow low) :
    (pair high low).toNat =
      0x10000 + (high.toNat - 0xd800) * 0x400 + (low.toNat - 0xdc00) := by
  obtain ⟨high_ge, high_lt⟩ := isHigh
  obtain ⟨low_ge, low_lt⟩ := isLow
  refine toNat_ofNat (.inr ?_)
  omega

/-- A character of one unit has an encoding of at most three bytes. -/
theorem length_encode_single (unit : UInt16) :
    (String.utf8EncodeChar (single unit)).length ≤ 3 := by
  have bound := unit.toNat_lt
  have below : (single unit).val.toNat ≤ 0xffff := by
    have number := toNat_single unit
    change (single unit).val.toNat = _ at number
    rw [number]
    split <;> omega
  unfold String.utf8EncodeChar
  dsimp only
  split_ifs <;> simp

theorem length_encode_le (c : Char) : (String.utf8EncodeChar c).length ≤ 4 := by
  rw [String.length_utf8EncodeChar]
  exact c.utf8Size_le_four

theorem length_toUtf8_le (units : List UInt16) : (toUtf8 units).length ≤ 3 * units.length := by
  induction units using decode_induction with
  | nil => exact Nat.zero_le _
  | one unit rest induction shape =>
      have first := length_encode_single unit
      rw [toUtf8] at induction ⊢
      rw [shape, List.flatMap_cons, List.length_append, List.length_cons]
      omega
  | two high low rest _ _ induction shape =>
      have first := length_encode_le (pair high low)
      rw [toUtf8] at induction ⊢
      rw [shape, List.flatMap_cons, List.length_append, List.length_cons, List.length_cons]
      omega

/-- Only the character zero has a zero in its encoding. -/
theorem zero_notMem_encode {c : Char} (nonzero : c.toNat ≠ 0) : 0 ∉ String.utf8EncodeChar c := by
  have byte_ne : ∀ n : Nat, n % 256 ≠ 0 → (0 : UInt8) ≠ UInt8.ofNat n := by
    intro n residue zero
    have value := congrArg UInt8.toNat zero
    rw [UInt8.toNat_ofNat'] at value
    exact residue value.symm
  have upper : c.val.toNat < 0x110000 := by
    have valid := c.valid
    rw [UInt32.isValidChar, Nat.isValidChar] at valid
    omega
  change c.val.toNat ≠ 0 at nonzero
  unfold String.utf8EncodeChar
  dsimp only
  split_ifs
  · simpa using byte_ne c.val.toNat (by omega)
  · simp only [List.mem_cons, List.not_mem_nil, or_false, not_or]
    exact ⟨byte_ne _ (by omega), byte_ne _ (by omega)⟩
  · simp only [List.mem_cons, List.not_mem_nil, or_false, not_or]
    exact ⟨byte_ne _ (by omega), byte_ne _ (by omega), byte_ne _ (by omega)⟩
  · simp only [List.mem_cons, List.not_mem_nil, or_false, not_or]
    exact ⟨byte_ne _ (by omega), byte_ne _ (by omega), byte_ne _ (by omega),
      byte_ne _ (by omega)⟩

theorem toNat_single_ne {unit : UInt16} (nonzero : unit ≠ 0) : (single unit).toNat ≠ 0 := by
  rw [toNat_single]
  split
  · decide
  · exact fun zero => nonzero (UInt16.toNat_inj.mp zero)

theorem zero_notMem_toUtf8 {units : List UInt16} (plain : 0 ∉ units) : 0 ∉ toUtf8 units := by
  induction units using decode_induction with
  | nil => exact List.not_mem_nil
  | one unit rest induction shape =>
      rw [List.mem_cons, not_or] at plain
      rw [toUtf8] at induction ⊢
      rw [shape, List.flatMap_cons, List.mem_append, not_or]
      exact ⟨zero_notMem_encode (toNat_single_ne (Ne.symm plain.1)), induction plain.2⟩
  | two high low rest isHigh isLow induction shape =>
      rw [List.mem_cons, List.mem_cons, not_or, not_or] at plain
      rw [toUtf8] at induction ⊢
      rw [shape, List.flatMap_cons, List.mem_append, not_or]
      have number := toNat_pair isHigh isLow
      exact ⟨zero_notMem_encode (by omega), induction plain.2.2⟩

end Utf16
end AdbWide
