import Mathlib.Algebra.BigOperators.Fin
import Mathlib.Algebra.Order.Group.Nat
import Mathlib.Algebra.Order.Ring.Canonical
import Mathlib.Data.Int.GCD
import Mathlib.Data.Nat.Prime.Basic
import Mathlib.Data.Nat.Size

/-!
# The public key of the host in the format of the device

`RSA_to_RSAPublicKey` computes what the verifier on the device needs for Montgomery multiplication.
A `BIGNUM` is a natural number, and the operations on it are exact.
-/

namespace AdbWide
namespace Auth

/-! ## Big numbers -/

/-- `BN_set_bit`. -/
def bnSetBit (a bit : Nat) : Nat := a ||| 2 ^ bit

/-- `BN_mod_sqr`. -/
def bnModSqr (a m : Nat) : Nat := a * a % m

/-- `BN_div`: the quotient and the remainder. -/
def bnDiv (a d : Nat) : Nat × Nat := (a / d, a % d)

/-- `BN_mod_inverse`, if there is an inverse. -/
def bnModInverse (a m : Nat) : Option Nat :=
  if Nat.gcd a m = 1 then some (Nat.gcdA a m % m).toNat else none

/-- `BN_get_word`. -/
def bnGetWord (a : Nat) : UInt32 := if a < 2 ^ 32 then .ofNat a else 0xffffffff

theorem bnGetWord_toNat {a : Nat} (small : a < 2 ^ 32) : (bnGetWord a).toNat = a := by
  rw [bnGetWord, if_pos small, UInt32.toNat_ofNat', Nat.mod_eq_of_lt small]

/-- An inverse is one. -/
theorem mul_bnModInverse {a m : Nat} (coprime : Nat.Coprime a m) (large : 1 < m) :
    ∃ inverse < m, bnModInverse a m = some inverse ∧ a * inverse % m = 1 := by
  have positive : (0 : Int) < m := by omega
  have nonneg := Int.emod_nonneg (Nat.gcdA a m) positive.ne'
  have below := Int.emod_lt_of_pos (Nat.gcdA a m) positive
  refine ⟨_, by omega, if_pos coprime, ?_⟩
  have bezout : (1 : Int) = a * Nat.gcdA a m + m * Nat.gcdB a m := by
    have gcd_eq := Nat.gcd_eq_gcd_ab a m
    rw [coprime] at gcd_eq
    exact_mod_cast gcd_eq
  have one : (a * (Nat.gcdA a m % m)) % (m : Int) = 1 := by
    rw [Int.mul_emod, Int.emod_emod, ← Int.mul_emod, eq_sub_of_add_eq bezout.symm,
      Int.sub_mul_emod_self_left]
    exact Int.emod_eq_of_lt (by omega) (by omega)
  have cast : ((Nat.gcdA a m % m).toNat : Int) = Nat.gcdA a m % m := Int.toNat_of_nonneg nonneg
  rw [← cast] at one
  exact_mod_cast one

/-- The words of a number, the lowest first, are a number again. -/
theorem sum_words (base x : Nat) (count : Nat) :
    ∑ i : Fin count, x / base ^ i.val % base * base ^ i.val = x % base ^ count := by
  induction count with
  | zero => simp [Nat.mod_one]
  | succ count induction =>
      rw [Fin.sum_univ_castSucc, Nat.mod_pow_succ]
      simp only [Fin.val_castSucc, Fin.val_last, induction]
      rw [Nat.mul_comm (base ^ count)]

/-! ## The key -/

/-- `RSANUMBYTES`. -/
def rsaNumBytes : Nat := 256

/-- `RSANUMWORDS`. -/
def rsaNumWords : Nat := rsaNumBytes / 4

/-- `RSA`, as far as it is looked at. -/
structure Rsa where
  n : Nat
  e : Nat

/-- `RSA_size`. -/
def Rsa.size (rsa : Rsa) : Nat := (rsa.n.size + 7) / 8

/-- `RSAPublicKey`. -/
structure RSAPublicKey where
  len : Int32
  n0inv : UInt32
  n : Vector UInt32 rsaNumWords
  rr : Vector UInt32 rsaNumWords
  exponent : Int32

/-- What the loop changes: the two numbers it takes apart, and the key. -/
structure Filling where
  rr : Nat
  n : Nat
  pkey : RSAPublicKey

/-- The body of the loop; the number of the pass is an index of both arrays. -/
def Filling.step (r32 : Nat) (filling : Filling) (i : Nat) : Filling :=
  let (rr, rem) := bnDiv filling.rr r32
  let pkey := { filling.pkey with rr := filling.pkey.rr.setIfInBounds i (bnGetWord rem) }
  let (n, rem) := bnDiv filling.n r32
  let pkey := { pkey with n := pkey.n.setIfInBounds i (bnGetWord rem) }
  { rr, n, pkey }

/-- The loop, for so many passes. -/
def Filling.passes (r32 : Nat) (filling : Filling) (count : Nat) : Filling :=
  (List.range count).foldl (Filling.step r32) filling

/-- `RSA_to_RSAPublicKey`: what it returns, and the key.  The number an inverse is stored in is zero
before. -/
def rsaToRSAPublicKey (rsa : Rsa) (pkey : RSAPublicKey) : Bool × RSAPublicKey :=
  if rsa.size ≠ rsaNumBytes then
    (false, pkey)
  else
    let r32 := bnSetBit 0 32
    let n := rsa.n
    let r := bnSetBit 0 (rsaNumWords * 32)
    let rr := bnModSqr r n
    let (_, rem) := bnDiv n r32
    let n0inv := (bnModInverse rem r32).getD 0
    let pkey := { pkey with len := .ofNat rsaNumWords, n0inv := 0 - bnGetWord n0inv }
    let filled := Filling.passes r32 ⟨rr, n, pkey⟩ rsaNumWords
    (true, { filled.pkey with exponent := (bnGetWord rsa.e).toInt32 })

/-- The number an array of words stands for. -/
def wordsValue (words : Vector UInt32 rsaNumWords) : Nat :=
  ∑ i : Fin rsaNumWords, words[i].toNat * 2 ^ (32 * i.val)

/-! ## The loop -/

section Loop

variable {r32 : Nat} {filling after : Filling} {count : Nat}

/-- After some passes the numbers are that many words shorter, and these words are in the key. -/
structure Passed (r32 : Nat) (filling after : Filling) (count : Nat) : Prop where
  rr : after.rr = filling.rr / r32 ^ count
  n : after.n = filling.n / r32 ^ count
  n0inv : after.pkey.n0inv = filling.pkey.n0inv
  rr_word : ∀ i (inside : i < rsaNumWords), i < count →
    after.pkey.rr[i] = bnGetWord (filling.rr / r32 ^ i % r32)
  n_word : ∀ i (inside : i < rsaNumWords), i < count →
    after.pkey.n[i] = bnGetWord (filling.n / r32 ^ i % r32)

/-- A word is put behind those that are there. -/
theorem getElem_setIfInBounds_succ (word : Nat → UInt32) {words : Vector UInt32 rsaNumWords}
    (before : ∀ i (inside : i < rsaNumWords), i < count → words[i] = word i)
    (i : Nat) (inside : i < rsaNumWords) (covered : i < count + 1) :
    (words.setIfInBounds count (word count))[i] = word i := by
  rw [Vector.getElem_setIfInBounds inside]
  split
  · next same => rw [same]
  · next different => exact before i inside (by omega)

theorem Passed.step (passed : Passed r32 filling after count) :
    Passed r32 filling (after.step r32 count) (count + 1) := by
  obtain ⟨rr, n, n0inv, rr_word, n_word⟩ := passed
  constructor
  · rw [Nat.pow_succ, ← Nat.div_div_eq_div_mul, ← rr]
    rfl
  · rw [Nat.pow_succ, ← Nat.div_div_eq_div_mul, ← n]
    rfl
  · exact n0inv
  · simp only [Filling.step, bnDiv, rr]
    exact getElem_setIfInBounds_succ (fun i => bnGetWord (filling.rr / r32 ^ i % r32)) rr_word
  · simp only [Filling.step, bnDiv, n]
    exact getElem_setIfInBounds_succ (fun i => bnGetWord (filling.n / r32 ^ i % r32)) n_word

theorem passed_passes (r32 : Nat) (filling : Filling) (count : Nat) :
    Passed r32 filling (filling.passes r32 count) count := by
  induction count with
  | zero =>
      constructor
      · simp [Filling.passes]
      · simp [Filling.passes]
      · rfl
      · exact fun i _ covered => absurd covered (Nat.not_lt_zero i)
      · exact fun i _ covered => absurd covered (Nat.not_lt_zero i)
  | succ count induction =>
      rw [Filling.passes, List.range_succ, List.foldl_append]
      exact induction.step

end Loop

/-- Words that were taken off a number are that number. -/
theorem wordsValue_eq {words : Vector UInt32 rsaNumWords} {x : Nat}
    (word : ∀ i (inside : i < rsaNumWords), words[i] = bnGetWord (x / (2 ^ 32) ^ i % 2 ^ 32))
    (small : x < (2 ^ 32) ^ rsaNumWords) : wordsValue words = x := by
  have sum := sum_words (2 ^ 32) x rsaNumWords
  rw [Nat.mod_eq_of_lt small] at sum
  rw [wordsValue, ← sum]
  apply Finset.sum_congr rfl
  intro i _
  have bound : x / (2 ^ 32) ^ i.val % 2 ^ 32 < 2 ^ 32 := Nat.mod_lt _ (by decide)
  rw [Fin.getElem_fin, word i.val i.isLt, bnGetWord_toNat bound, Nat.pow_mul]

/-- The size of a key is told by its modulus. -/
theorem size_eq {rsa : Rsa} {low high bytes : Nat} (low_eq : low = 8 * bytes)
    (high_eq : high = low + 8) (lower : 2 ^ low ≤ rsa.n) (upper : rsa.n < 2 ^ high) :
    rsa.size = bytes + 1 := by
  have above : low < rsa.n.size := Nat.lt_size.mpr lower
  have below : rsa.n.size ≤ high := Nat.size_le.mpr upper
  rw [Rsa.size]
  omega

/-- The lowest word of an odd number has no divisor in common with a power of two. -/
theorem coprime_word {n : Nat} (odd : Odd n) : Nat.Coprime (n % 2 ^ 32) (2 ^ 32) := by
  rw [Nat.Coprime, ← Nat.gcd_rec, Nat.gcd_comm]
  exact Nat.Coprime.pow_right 32 (Nat.coprime_two_right.mpr odd)

/-- `0 - inverse` is what `-1` is multiplied by. -/
theorem neg_mul_word {n inverse : Nat} (small : inverse < 2 ^ 32)
    (inverts : n % 2 ^ 32 * inverse % 2 ^ 32 = 1) :
    (0 - bnGetWord inverse) * bnGetWord (n % 2 ^ 32) = -1 := by
  have word : bnGetWord (n % 2 ^ 32) * bnGetWord inverse = 1 := by
    apply UInt32.toNat_inj.mp
    rw [UInt32.toNat_mul, bnGetWord_toNat small, bnGetWord_toNat (Nat.mod_lt _ (by decide)),
      inverts]
    rfl
  rw [UInt32.zero_sub, UInt32.neg_mul, UInt32.mul_comm, word]

/-- What is in the key when the modulus fits into its array. -/
theorem rsaToRSAPublicKey_spec {rsa : Rsa} {r : Nat} (pkey : RSAPublicKey) (odd : Odd rsa.n)
    (size : rsa.size = rsaNumBytes) (radix : r = (2 ^ 32) ^ rsaNumWords) (fits : rsa.n < r) :
    ∃ key, rsaToRSAPublicKey rsa pkey = (true, key) ∧ wordsValue key.n = rsa.n ∧
      wordsValue key.rr = r ^ 2 % rsa.n ∧ key.n0inv * key.n.get ⟨0, by decide⟩ = -1 := by
  obtain ⟨inverse, small, found, inverts⟩ := mul_bnModInverse (coprime_word odd) (by decide)
  have set_bit : 2 ^ (rsaNumWords * 32) = r := by rw [radix, Nat.mul_comm, Nat.pow_mul]
  have square : r * r % rsa.n < r := Nat.lt_trans (Nat.mod_lt _ odd.pos) fits
  rw [rsaToRSAPublicKey, if_neg (not_not.mpr size)]
  simp only [bnSetBit, Nat.zero_or, bnDiv, bnModSqr, set_bit, found, Option.getD_some]
  refine ⟨_, rfl, ?_⟩
  obtain ⟨-, -, n0inv, rr_word, n_word⟩ := passed_passes (2 ^ 32)
    ⟨r * r % rsa.n, rsa.n,
      { pkey with len := .ofNat rsaNumWords, n0inv := 0 - bnGetWord inverse }⟩ rsaNumWords
  refine ⟨?_, ?_, ?_⟩
  · exact wordsValue_eq (fun i inside => n_word i inside inside) (by rwa [← radix])
  · rw [Nat.pow_two]
    exact wordsValue_eq (fun i inside => rr_word i inside inside) (by rwa [← radix])
  · have lowest := n_word 0 (by decide) (by decide)
    rw [Nat.pow_zero, Nat.div_one] at lowest
    have product := neg_mul_word small inverts
    rw [← lowest] at product
    dsimp only
    rw [n0inv]
    exact product

/-- For an odd modulus of 2048 bits the key has the modulus, the square of two to its length, and
the negative of the inverse of its lowest word, as Montgomery multiplication needs them. -/
theorem rsaToRSAPublicKey_montgomery (rsa : Rsa) (pkey : RSAPublicKey) (odd : Odd rsa.n)
    (lower : 2 ^ 2040 ≤ rsa.n) (upper : rsa.n < 2 ^ 2048) :
    ∃ key, rsaToRSAPublicKey rsa pkey = (true, key) ∧ wordsValue key.n = rsa.n ∧
      wordsValue key.rr = (2 ^ 2048) ^ 2 % rsa.n ∧ key.n0inv * key.n.get ⟨0, by decide⟩ = -1 := by
  have size : rsa.size = rsaNumBytes := @size_eq rsa 2040 2048 255 rfl rfl lower upper
  have bits : 32 * rsaNumWords = 2048 := rfl
  have radix : 2 ^ 2048 = (2 ^ 32) ^ rsaNumWords := by rw [← Nat.pow_mul, bits]
  exact rsaToRSAPublicKey_spec pkey odd size radix upper

/-- The smallest odd number of so many bits. -/
def smallestOdd (bits : Nat) : Nat := 2 ^ (bits - 1) + 1

theorem smallestOdd_facts {low bits : Nat} (bits_eq : bits = low + 8) :
    Odd (smallestOdd bits) ∧ 2 ^ low ≤ smallestOdd bits ∧ smallestOdd bits < 2 ^ bits := by
  have positive : 0 < 2 ^ low := Nat.two_pow_pos low
  have power : 2 ^ (low + 7) = 128 * 2 ^ low := by rw [Nat.pow_add, Nat.mul_comm]
  rw [smallestOdd, bits_eq, Nat.add_sub_assoc (by decide), power, Nat.pow_succ 2 (low + 7), power]
  exact ⟨⟨64 * 2 ^ low, by omega⟩, by omega, by omega⟩

/-- A key with the smallest modulus. -/
def smallestRsa : Rsa := ⟨smallestOdd 2048, 65537⟩

theorem rsaToRSAPublicKey_montgomery_smallest :
    ∃ key, rsaToRSAPublicKey smallestRsa ⟨0, 0, .replicate _ 0, .replicate _ 0, 0⟩ = (true, key) ∧
      wordsValue key.n = smallestRsa.n ∧ wordsValue key.rr = (2 ^ 2048) ^ 2 % smallestRsa.n ∧
        key.n0inv * key.n.get ⟨0, by decide⟩ = -1 :=
  have ⟨odd, lower, upper⟩ := @smallestOdd_facts 2040 2048 rfl
  rsaToRSAPublicKey_montgomery smallestRsa ⟨0, 0, .replicate _ 0, .replicate _ 0, 0⟩ odd lower upper

end Auth
end AdbWide
