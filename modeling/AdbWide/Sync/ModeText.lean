import Mathlib.Data.List.TakeWhile
import AdbWide.Sync.Sending
import AdbWide.Sync.Service

/-!
# The mode in a request

The client writes the mode of a file in decimal behind a comma, and the service takes it apart with
`strrchr` and `strtoul`.  A regular file is not taken for a link.
-/

namespace AdbWide
namespace Sync

/-! ## Decimal digits -/

/-- The digits of a number, the first one first. -/
def digits (number : Nat) : List UInt8 :=
  (Nat.toDigits 10 number).map fun c => c.toNat.toUInt8

theorem digits_of_lt {number : Nat} (small : number < 10) :
    digits number = [(48 + number).toUInt8] := by
  rw [digits, Nat.toDigits_of_lt_base small, List.map_singleton,
    Nat.toNat_digitChar_of_lt_ten small]

theorem digits_of_le {number : Nat} (large : 10 ≤ number) :
    digits number = digits (number / 10) ++ digits (number % 10) := by
  have last : number % 10 < 10 := Nat.mod_lt _ (by decide)
  rw [digits, Nat.toDigits_of_base_le (by decide) large, List.map_append,
    ← Nat.toDigits_of_lt_base last]
  rfl

theorem digit_facts : ∀ number < 10, digitValue (48 + number).toUInt8 = number ∧
    (0 < number → (48 + number).toUInt8 ≠ 48) ∧ (48 + number).toUInt8 ≠ 44 ∧
    (48 + number).toUInt8 ≠ 0 ∧ (48 + number).toUInt8 ≠ 45 ∧ (48 + number).toUInt8 ≠ 43 ∧
    ¬((48 + number).toUInt8 = 32 ∨ 9 ≤ (48 + number).toUInt8 ∧ (48 + number).toUInt8 ≤ 13) := by
  decide

theorem mem_digits {number : Nat} {byte : UInt8} (member : byte ∈ digits number) :
    ∃ digit < 10, byte = (48 + digit).toUInt8 := by
  induction number using Nat.strongRecOn with
  | ind number induction =>
      by_cases small : number < 10
      · rw [digits_of_lt small, List.mem_singleton] at member
        exact ⟨number, small, member⟩
      · have last : number % 10 < 10 := Nat.mod_lt _ (by decide)
        rw [digits_of_le (by omega), List.mem_append] at member
        rcases member with member | member
        · exact induction (number / 10) (by omega) member
        · exact induction (number % 10) (by omega) member

theorem head_digits {number : Nat} (positive : 0 < number) :
    ∃ digit rest, 0 < digit ∧ digit < 10 ∧ digits number = (48 + digit).toUInt8 :: rest := by
  induction number using Nat.strongRecOn with
  | ind number induction =>
      by_cases small : number < 10
      · exact ⟨number, [], positive, small, digits_of_lt small⟩
      · obtain ⟨digit, rest, positive', small', front⟩ :=
          induction (number / 10) (by omega) (by omega)
        refine ⟨digit, rest ++ digits (number % 10), positive', small', ?_⟩
        rw [digits_of_le (by omega), front, List.cons_append]

/-- Reading the digits gives the number back. -/
theorem value_digits (number : Nat) :
    (digits number).foldl (fun value c => value * 10 + digitValue c) 0 = number := by
  induction number using Nat.strongRecOn with
  | ind number induction =>
      by_cases small : number < 10
      · rw [digits_of_lt small, List.foldl_cons, List.foldl_nil, (digit_facts number small).1]
        omega
      · have last : number % 10 < 10 := Nat.mod_lt _ (by decide)
        rw [digits_of_le (by omega), List.foldl_append, induction (number / 10) (by omega),
          digits_of_lt last, List.foldl_cons, List.foldl_nil, (digit_facts _ last).1]
        omega

theorem length_digits {number : Nat} (bound : number < 2 ^ 32) : (digits number).length ≤ 10 := by
  rw [digits, List.length_map, Nat.length_toDigits_le_iff (by decide) (by decide)]
  exact Nat.lt_trans bound (by decide)

/-! ## `strtoul` -/

section Strtoul

variable {longBits number : Nat}

theorem digitsValue_digits : digitsValue 10 (digits number) = number := by
  have all : (digits number).takeWhile (fun c => digitValue c < 10) = digits number := by
    rw [List.takeWhile_eq_self_iff]
    intro byte member
    obtain ⟨digit, small, rfl⟩ := mem_digits member
    rw [(digit_facts digit small).1]
    simpa using small
  rw [digitsValue, all, value_digits]

theorem splitBase_digits (positive : 0 < number) :
    splitBase (digits number) = (10, digits number) := by
  obtain ⟨digit, rest, positive', small, front⟩ := head_digits positive
  obtain ⟨-, nonzero, -⟩ := digit_facts digit small
  rw [front, splitBase]
  · intro x next more same
    exact absurd (List.cons.inj same).1 (nonzero positive')
  · intro more same
    exact absurd (List.cons.inj same).1 (nonzero positive')

theorem splitSign_digits (positive : 0 < number) :
    splitSign (digits number) = (false, digits number) := by
  obtain ⟨digit, rest, -, small, front⟩ := head_digits positive
  obtain ⟨-, -, -, -, notMinus, notPlus, -⟩ := digit_facts digit small
  rw [front, splitSign]
  · intro more same
    exact absurd (List.cons.inj same).1 notMinus
  · intro more same
    exact absurd (List.cons.inj same).1 notPlus

theorem strtoul_digits (positive : 0 < number) (bound : number < 2 ^ longBits) :
    strtoul longBits (digits number) = (number, false) := by
  have front : (digits number).dropWhile (fun c => c = 32 ∨ 9 ≤ c ∧ c ≤ 13) = digits number := by
    obtain ⟨digit, rest, -, small, front⟩ := head_digits positive
    obtain ⟨-, -, -, -, -, -, notSpace⟩ := digit_facts digit small
    rw [front, List.dropWhile_cons_of_neg (by simpa using notSpace)]
  rw [strtoul, front, splitSign_digits positive]
  dsimp only
  rw [splitBase_digits positive]
  dsimp only
  rw [digitsValue_digits, if_neg (Nat.not_le.mpr bound), if_neg (by decide)]

theorem strtoul_negative (positive : 0 < number) (bound : number < 2 ^ longBits) :
    strtoul longBits (45 :: digits number) = ((2 ^ longBits - number) % 2 ^ longBits, false) := by
  have sign : splitSign ((45 :: digits number).dropWhile fun c => c = 32 ∨ 9 ≤ c ∧ c ≤ 13) =
      (true, digits number) := rfl
  rw [strtoul, sign]
  dsimp only
  rw [splitBase_digits positive]
  dsimp only
  rw [digitsValue_digits, if_neg (Nat.not_le.mpr bound), if_pos rfl]

end Strtoul

/-! ## The request -/

theorem decimal_asInt (mode : UInt32) :
    decimal (asInt mode) =
      if mode.toNat < 2 ^ 31 then digits mode.toNat else 45 :: digits (2 ^ 32 - mode.toNat) := by
  have bound : mode.toNat < 2 ^ 32 := mode.toNat_lt
  rw [decimal, asInt]
  split
  · rw [if_neg (by omega), Int.natAbs_natCast]
    rfl
  · have abs : Int.natAbs ((mode.toNat : Int) - 2 ^ 32) = 2 ^ 32 - mode.toNat := by omega
    rw [if_pos (by omega), abs]
    rfl

/-- `strtoul` reads the mode that was written with `%d`. -/
theorem strtoul_mode {longBits : Nat} (wide : 32 ≤ longBits) {mode : UInt32}
    (positive : 0 < mode.toNat) :
    (strtoul longBits (decimal (asInt mode))).1 % 2 ^ 32 = mode.toNat ∧
      (strtoul longBits (decimal (asInt mode))).2 = false := by
  have bound : mode.toNat < 2 ^ 32 := mode.toNat_lt
  obtain ⟨more, rfl⟩ := Nat.exists_eq_add_of_le wide
  have power : 2 ^ (32 + more) = 2 ^ 32 * 2 ^ more := Nat.pow_add 2 32 more
  have one : 1 ≤ 2 ^ more := Nat.one_le_two_pow
  have large : 2 ^ 32 ≤ 2 ^ (32 + more) := by
    rw [power]
    exact Nat.le_mul_of_pos_right _ one
  rw [decimal_asInt]
  split
  · rw [strtoul_digits positive (by omega)]
    exact ⟨Nat.mod_eq_of_lt bound, rfl⟩
  · rw [strtoul_negative (by omega) (by omega)]
    refine ⟨?_, rfl⟩
    have inner : (2 ^ (32 + more) - (2 ^ 32 - mode.toNat)) % 2 ^ (32 + more) =
        2 ^ (32 + more) - (2 ^ 32 - mode.toNat) := Nat.mod_eq_of_lt (by omega)
    dsimp only
    rw [inner, power]
    generalize 2 ^ more = factor at one
    omega

theorem mem_modeText {mode : UInt32} {byte : UInt8} (member : byte ∈ decimal (asInt mode)) :
    byte ≠ 44 ∧ byte ≠ 0 := by
  have digit {number : Nat} (member : byte ∈ digits number) : byte ≠ 44 ∧ byte ≠ 0 := by
    obtain ⟨digit, small, rfl⟩ := mem_digits member
    obtain ⟨-, -, notComma, notZero, -⟩ := digit_facts digit small
    exact ⟨notComma, notZero⟩
  rw [decimal_asInt] at member
  split at member
  · exact digit member
  · rcases List.mem_cons.mp member with rfl | member
    · decide
    · exact digit member

theorem length_modeText (mode : UInt32) : (modeText mode).length ≤ 12 := by
  have bound : mode.toNat < 2 ^ 32 := mode.toNat_lt
  rw [modeText, decimal_asInt, List.length_cons]
  split
  · have := length_digits bound
    omega
  · have := @length_digits (2 ^ 32 - mode.toNat) (by omega)
    rw [List.length_cons]
    omega

theorem splitLastComma_append {front text : List UInt8} (plain : 44 ∉ text) :
    splitLastComma (front ++ 44 :: text) = some (front, text) := by
  have behind : ((front ++ 44 :: text).reverse.takeWhile (· ≠ 44)).reverse = text := by
    rw [List.reverse_append, List.reverse_cons, List.append_assoc, List.takeWhile_append_of_pos]
    · simp
    · intro byte member
      have other : byte ≠ 44 := fun same => plain (by rw [← same]; exact List.mem_reverse.mp member)
      simpa using other
  rw [splitLastComma, behind, if_pos (by simp)]
  have length : (front ++ 44 :: text).length - text.length - 1 = front.length := by
    rw [List.length_append, List.length_cons]
    omega
  rw [length, List.take_left]

/-- The file that is sent is the remote path, and it is not a link. -/
theorem sendTarget_request (device : Device) (rpath : List UInt8) {mode : UInt32}
    (regular : isReg mode = true) :
    sendTarget device (rpath ++ modeText mode) = (rpath, false) := by
  have bits : mode.toNat &&& 0o170000 = 0o100000 := by
    have same := congrArg UInt32.toNat (of_decide_eq_true regular)
    rwa [UInt32.toNat_and] at same
  have positive : 0 < mode.toNat := by
    rcases Nat.eq_zero_or_pos mode.toNat with zero | positive
    · rw [zero] at bits
      exact absurd bits (by decide)
    · exact positive
  obtain ⟨value, good⟩ := strtoul_mode device.long_wide positive
  rw [sendTarget, modeText, splitLastComma_append fun comma => (mem_modeText comma).1 rfl]
  dsimp only
  rw [value, isLnk, bits]
  simp

end Sync
end AdbWide
