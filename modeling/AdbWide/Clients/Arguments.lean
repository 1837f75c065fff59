import Mathlib.Logic.Function.Basic
import AdbWide.CText
import AdbWide.Utf16

/-!
# The arguments of the program

`wmain` is given wide strings and hands them on in UTF-8.  There are ten buffers for them, and
neither the number of the arguments nor their lengths are looked at.
-/

namespace AdbWide
namespace Clients

/-! ## The code -/

/-- A wide string of C. -/
abbrev WideString := { units : List UInt16 // 0 ∉ units }

/-- `WideCharToMultiByte` for UTF-8: nothing if there is too little room. -/
def wideCharToMultiByte (units : List UInt16) (size : Nat) : List UInt8 :=
  if (Utf16.toUtf8 units).length ≤ size then Utf16.toUtf8 units else []

/-- `Unicode_to_UTF8`. -/
def unicodeToUTF8 (units : List UInt16) : List UInt8 :=
  wideCharToMultiByte units (units.length * 3)

/-- The ten buffers, which `pTemp` points to. -/
abbrev ArgumentBuffers := Fin 10 → Block UInt8 256

/-- The loop of `wmain` for one argument.  What is behind the end of `pTemp` is no pointer. -/
def storeArgument (pTemp : ArgumentBuffers) (i : Nat) (arg : WideString) :
    Except Fault ArgumentBuffers :=
  if inside : i < 10 then do
    let strTmp := unicodeToUTF8 arg.val
    let block ← (pTemp ⟨i, inside⟩).put strTmp.length [0]
    let block ← block.put 0 (strTmp.takeWhile (· ≠ 0) ++ [0])
    .ok (Function.update pTemp ⟨i, inside⟩ block)
  else .error .outOfBounds

/-- The loop of `wmain`. -/
def storeArguments (pTemp : ArgumentBuffers) : Nat → List WideString → Except Fault ArgumentBuffers
  | _, [] => .ok pTemp
  | i, arg :: argv => do
      let pTemp ← storeArgument pTemp i arg
      storeArguments pTemp (i + 1) argv

/-- `wmain`: the number of arguments for `adb_commandline`, and the buffers, of which it is given
the second and what follows. -/
def wmain (pTemp : ArgumentBuffers) (argv : List WideString) :
    Except Fault (Int × ArgumentBuffers) := do
  let pTemp ← storeArguments pTemp 0 argv
  .ok (argv.length - 1, pTemp)

/-! ## What is handed on -/

/-- `adb_commandline` is given the arguments behind the first one, each of them complete. -/
def HandsOn (pTemp : ArgumentBuffers) (argv : List WideString) : Prop :=
  ∃ stored, wmain pTemp argv = .ok (argv.tail.length, stored) ∧
    ∀ i arg, argv[i + 1]? = some arg →
      ∃ inside : i + 1 < 10, (stored ⟨i + 1, inside⟩).Shows (Utf16.toUtf8 arg.val)

/-- There are buffers for all of the arguments, and they fit. -/
def ArgumentsFit (argv : List WideString) : Prop :=
  argv ≠ [] ∧ argv.length ≤ 10 ∧ ∀ arg ∈ argv, (Utf16.toUtf8 arg.val).length < 256

section Storing

variable {pTemp stored : ArgumentBuffers} {i : Nat} {arg : WideString} {argv : List WideString}

/-- Three bytes are enough for a unit. -/
theorem unicodeToUTF8_eq (units : List UInt16) : unicodeToUTF8 units = Utf16.toUtf8 units := by
  have bound := Utf16.length_toUtf8_le units
  rw [unicodeToUTF8, wideCharToMultiByte, if_pos (by omega)]

theorem plain_unicodeToUTF8 (arg : WideString) : 0 ∉ unicodeToUTF8 arg.val := by
  rw [unicodeToUTF8_eq]
  exact Utf16.zero_notMem_toUtf8 arg.property

theorem takeWhile_unicodeToUTF8 (arg : WideString) :
    (unicodeToUTF8 arg.val).takeWhile (· ≠ 0) = unicodeToUTF8 arg.val := by
  rw [List.takeWhile_eq_self_iff]
  intro byte member
  rw [decide_eq_true_eq]
  rintro rfl
  exact plain_unicodeToUTF8 arg member

/-- An argument that fits is stored in its buffer. -/
theorem storeArgument_fits (pTemp : ArgumentBuffers) (inside : i < 10)
    (short : (Utf16.toUtf8 arg.val).length < 256) :
    ∃ block, storeArgument pTemp i arg = .ok (Function.update pTemp ⟨i, inside⟩ block) ∧
      block.Shows (Utf16.toUtf8 arg.val) := by
  rw [← unicodeToUTF8_eq] at short ⊢
  obtain ⟨ended, ends, -⟩ := (pTemp ⟨i, inside⟩).put_eq_ok (unicodeToUTF8 arg.val).length [0]
    (by rw [List.length_singleton]; omega)
  obtain ⟨block, copies, shown⟩ := ended.put_shows (plain_unicodeToUTF8 arg) short
  refine ⟨block, ?_, shown⟩
  rw [storeArgument, dif_pos inside]
  dsimp only
  rw [takeWhile_unicodeToUTF8, ends, ok_bind, copies, ok_bind]

/-- An argument that was stored has fitted. -/
theorem fits_of_storeArgument (stores : storeArgument pTemp i arg = .ok stored) :
    i < 10 ∧ (Utf16.toUtf8 arg.val).length < 256 := by
  rw [← unicodeToUTF8_eq]
  rw [storeArgument] at stores
  by_cases inside : i < 10
  · refine ⟨inside, ?_⟩
    by_contra long
    have outside : (pTemp ⟨i, inside⟩).put (unicodeToUTF8 arg.val).length [0] =
        .error .outOfBounds := by
      rw [Block.put, if_pos (by omega), Block.store, dif_neg]
      rw [Int.toNat_natCast, List.length_singleton]
      omega
    rw [dif_pos inside] at stores
    dsimp only at stores
    rw [outside] at stores
    exact nomatch stores
  · rw [dif_neg inside] at stores
    exact nomatch stores

/-- Arguments that fit are stored, each in its own buffer. -/
theorem storeArguments_fits (pTemp : ArgumentBuffers) (room : i + argv.length ≤ 10)
    (short : ∀ arg ∈ argv, (Utf16.toUtf8 arg.val).length < 256) :
    ∃ stored, storeArguments pTemp i argv = .ok stored ∧
      (∀ j : Fin 10, j.val < i → stored j = pTemp j) ∧
      ∀ k arg, argv[k]? = some arg →
        ∃ inside : i + k < 10, (stored ⟨i + k, inside⟩).Shows (Utf16.toUtf8 arg.val) := by
  induction argv generalizing pTemp i with
  | nil => exact ⟨pTemp, rfl, fun _ _ => rfl, fun k arg found => nomatch found⟩
  | cons arg argv induction =>
      rw [List.length_cons] at room
      have inside : i < 10 := by omega
      obtain ⟨block, stores, shown⟩ :=
        storeArgument_fits pTemp inside (short arg List.mem_cons_self)
      obtain ⟨stored, rest, kept, shows⟩ := induction (Function.update pTemp ⟨i, inside⟩ block)
        (i := i + 1) (by omega) fun other member => short other (List.mem_cons_of_mem _ member)
      refine ⟨stored, ?_, ?_, ?_⟩
      · rw [storeArguments, stores, ok_bind, rest]
      · intro j before
        have other : j ≠ ⟨i, inside⟩ := by
          rintro rfl
          exact absurd before (Nat.lt_irrefl i)
        rw [kept j (by omega), Function.update_of_ne other]
      · intro k other found
        cases k with
        | zero =>
            obtain rfl : arg = other := by simpa using found
            refine ⟨inside, ?_⟩
            have own := kept ⟨i, inside⟩ (Nat.lt_succ_self i)
            rw [Function.update_self] at own
            exact own ▸ shown
        | succ k =>
            have place : i + 1 + k = i + (k + 1) := by omega
            have shows := shows k other (by simpa using found)
            rwa [place] at shows

/-- Arguments that were stored have fitted. -/
theorem fits_of_storeArguments (stores : storeArguments pTemp i argv = .ok stored) :
    (argv ≠ [] → i + argv.length ≤ 10) ∧
      ∀ arg ∈ argv, (Utf16.toUtf8 arg.val).length < 256 := by
  induction argv generalizing pTemp i with
  | nil => exact ⟨fun nonempty => absurd rfl nonempty, by simp⟩
  | cons arg argv induction =>
      rw [storeArguments] at stores
      cases first : storeArgument pTemp i arg with
      | error fault =>
          rw [first] at stores
          exact nomatch stores
      | ok middle =>
          rw [first, ok_bind] at stores
          obtain ⟨inside, short⟩ := fits_of_storeArgument first
          obtain ⟨room, others⟩ := induction stores
          constructor
          · intro _
            rw [List.length_cons]
            by_cases last : argv = []
            · rw [last, List.length_nil]
              omega
            · have room := room last
              omega
          · exact List.forall_mem_cons.mpr ⟨short, others⟩

end Storing

/-- Arguments that were handed on have fitted into the buffers. -/
theorem argumentsFit_of_handsOn {pTemp : ArgumentBuffers} {argv : List WideString}
    (handsOn : HandsOn pTemp argv) : ArgumentsFit argv := by
  obtain ⟨stored, runs, -⟩ := handsOn
  cases stores : storeArguments pTemp 0 argv with
  | error fault =>
      rw [wmain, stores] at runs
      exact nomatch runs
  | ok buffers =>
      rw [wmain, stores, ok_bind, Except.ok.injEq, Prod.mk.injEq, List.length_tail] at runs
      have nonempty : argv ≠ [] := by
        rintro rfl
        exact absurd runs.1 (by decide)
      obtain ⟨room, short⟩ := fits_of_storeArguments stores
      refine ⟨nonempty, ?_, short⟩
      simpa using room nonempty

/-- The arguments are handed on if and only if there is at least the name of the program, and all of
them fit into the buffers. -/
theorem handsOn_iff (pTemp : ArgumentBuffers) (argv : List WideString) :
    HandsOn pTemp argv ↔ ArgumentsFit argv := by
  refine ⟨argumentsFit_of_handsOn, ?_⟩
  rintro ⟨nonempty, room, short⟩
  obtain ⟨stored, stores, -, shown⟩ := storeArguments_fits (i := 0) pTemp (by omega) short
  have positive := List.length_pos_iff.mpr nonempty
  refine ⟨stored, ?_, ?_⟩
  · rw [wmain, stores, ok_bind, List.length_tail, Nat.cast_sub positive]
    rfl
  · intro i arg found
    simpa using shown (i + 1) arg found

/-- A word of the letter `a`. -/
def wordOf (length : Nat) : WideString :=
  ⟨List.replicate length 97, by simp [List.mem_replicate]⟩

/-- The program is called with ten words. -/
theorem not_handsOn_eleven :
    ¬HandsOn (fun _ => .zeros 256) (List.replicate 11 (wordOf 1)) := by
  intro handsOn
  have room := (argumentsFit_of_handsOn handsOn).2.1
  rw [List.length_replicate] at room
  exact absurd room (by decide)

end Clients
end AdbWide
