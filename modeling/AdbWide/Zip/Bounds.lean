import AdbWide.Zip.Model

/-!
# Which archives are read inside their buffer

Nothing that the zip reader takes from the file is checked against its size, but for the end record
and for what is left behind the start of the directory.
-/

namespace AdbWide
namespace Zip

open Reader (fetch value Within)

/-- Nothing is read outside the buffer, and an archive that is returned has the names and the data
of all its entries in it. -/
structure Safe (size : Nat) (memory : Nat → UInt8) : Prop where
  within : Within size memory (initZipfile size)
  names : ∀ file, value (initZipfile size) memory = some file → ∀ entry ∈ file.entries,
    ∀ p, entry.fileName = some p → p + entry.fileNameLength ≤ size
  data : ∀ file, value (initZipfile size) memory = some file → ∀ entry ∈ file.entries,
    entry.data < size

/-- The signature of an entry is in the buffer, and if it is that of an entry, then so are the entry
and what is read of its local header. -/
def Readable (memory : Nat → UInt8) (size p : Nat) : Prop :=
  p + 4 ≤ size ∧ (Signed memory p →
    p + entryLen ≤ size ∧ wrap (localAt memory p + 0x1c) + 2 ≤ size)

/-- The name and the start of the data of an entry are in the buffer. -/
def Contained (memory : Nat → UInt8) (size p : Nat) : Prop :=
  p + entryLen + shortAt memory (p + 0x1c) ≤ size ∧ (entryAt memory p).data < size

/-- Every entry that is reached can be read, and if all are, they are in the buffer. -/
structure Proper (memory : Nat → UInt8) (size : Nat) (ending : Zipfile) : Prop where
  readable : ∀ i < ending.totalEntryCount,
    (∀ j < i, Signed memory (entryPlace memory ending.centralDirOffset j)) →
      Readable memory size (entryPlace memory ending.centralDirOffset i)
  contained : (∀ i < ending.totalEntryCount,
      Signed memory (entryPlace memory ending.centralDirOffset i)) →
    ∀ i < ending.totalEntryCount,
      Contained memory size (entryPlace memory ending.centralDirOffset i)

section Bounds

variable {memory : Nat → UInt8} {size : Nat}

theorem wrap_lt (p : Nat) : wrap p < 2 ^ 32 := Nat.mod_lt _ (by decide)

theorem wrap_of_lt {p : Nat} (small : p < 2 ^ 32) : wrap p = p := Nat.mod_eq_of_lt small

theorem within_readLeShort_iff (p : Nat) :
    Within size memory (readLeShort p) ↔ wrap p < size ∧ wrap (p + 1) < size := by
  simp [readLeShort]

theorem within_readLeInt_iff (p : Nat) :
    Within size memory (readLeInt p) ↔
      wrap p < size ∧ wrap (p + 1) < size ∧ wrap (p + 2) < size ∧ wrap (p + 3) < size := by
  simp [readLeInt]

theorem within_readLeShort {p : Nat} (inside : p + 2 ≤ size) (small : size < 2 ^ 32) :
    Within size memory (readLeShort p) := by
  rw [within_readLeShort_iff, wrap_of_lt (by omega), wrap_of_lt (by omega)]
  omega

theorem within_readLeInt {p : Nat} (inside : p + 4 ≤ size) (small : size < 2 ^ 32) :
    Within size memory (readLeInt p) := by
  rw [within_readLeInt_iff, wrap_of_lt (by omega), wrap_of_lt (by omega), wrap_of_lt (by omega),
    wrap_of_lt (by omega)]
  omega

/-- The search stays in the buffer. -/
theorem within_searchEocd {start count : Nat} (inside : start + count + 3 ≤ size)
    (small : size < 2 ^ 32) : Within size memory (searchEocd start count) := by
  induction count with
  | zero => exact Reader.within_pure _
  | succ count induction =>
      rw [searchEocd]
      simp only [Reader.within_bind, Reader.within_ite, Reader.within_fetch, Reader.within_pure]
      have place : wrap (start + count) < size := by
        rw [wrap_of_lt (by omega)]
        omega
      refine ⟨place, fun _ => ⟨within_readLeInt (by omega) small, fun _ => trivial, fun _ => ?_⟩,
        fun _ => ?_⟩
      · exact induction (by omega)
      · exact induction (by omega)

theorem within_readCentralDirValues {eocd : Nat} (small : size < 2 ^ 32) :
    Within size memory (readCentralDirValues size eocd (size - eocd)) := by
  rw [readCentralDirValues]
  split
  · exact Reader.within_pure _
  · next enough =>
      have room : eocd + 22 ≤ size := by
        rw [eocdLen] at enough
        omega
      simp only [Reader.within_bind, Reader.within_ite, Reader.within_pure, implies_true, and_true]
      exact ⟨within_readLeShort (by omega) small, within_readLeShort (by omega) small,
        within_readLeShort (by omega) small, within_readLeShort (by omega) small,
        within_readLeInt (by omega) small, within_readLeInt (by omega) small,
        within_readLeShort (by omega) small⟩

/-- Whatever the size is, the end record is looked for and read inside the buffer. -/
theorem within_readEndOfCentralDir (size : Nat) :
    Within size memory (readEndOfCentralDir size) := by
  rw [readEndOfCentralDir]
  split
  · exact Reader.within_pure _
  · next fits =>
      have bounds : 22 ≤ size ∧ size < 2 ^ 32 := by
        rw [eocdLen] at fits
        omega
      dsimp only
      rw [Reader.within_bind]
      refine ⟨within_searchEocd ?_ bounds.2, ?_⟩
      · rw [maxEocdSearch, eocdLen]
        split <;> omega
      · split
        · exact Reader.within_pure _
        · rw [Reader.within_bind]
          refine ⟨within_readCentralDirValues bounds.2, ?_⟩
          split
          · exact Reader.within_pure _
          · rw [Reader.within_ite]
            exact ⟨fun _ => Reader.within_pure _, fun _ => Reader.within_pure _⟩

theorem intAt_lt (p : Nat) : intAt memory p < 2 ^ 32 := by
  have b₀ := (memory (wrap p)).toNat_lt
  have b₁ := (memory (wrap (p + 1))).toNat_lt
  have b₂ := (memory (wrap (p + 2))).toNat_lt
  have b₃ := (memory (wrap (p + 3))).toNat_lt
  rw [intAt]
  omega

theorem within_readCentralDirectoryEntry_iff {len p : Nat} (place : p < 2 ^ 32)
    (small : size < 2 ^ 31) :
    Within size memory (readCentralDirectoryEntry len p) ↔
      TooSmall len ∨ Readable memory size p := by
  by_cases tooSmall : TooSmall len
  · rw [readCentralDirectoryEntry, if_pos tooSmall]
    exact iff_of_true (Reader.within_pure _) (.inl tooSmall)
  · rw [readCentralDirectoryEntry, if_neg tooSmall, or_iff_right tooSmall, Readable, Signed]
    have signature : Within size memory (readLeInt p) ↔ p + 4 ≤ size := by
      rw [within_readLeInt_iff, wrap, wrap, wrap, wrap]
      omega
    simp only [Reader.within_bind, signature, value_readLeInt, Reader.within_ite, not_not,
      value_readLeShort, Reader.within_pure, implies_true, true_and, and_true, Ne]
    refine and_congr_right fun inside => forall_congr' fun signed => ?_
    constructor
    · rintro ⟨-, -, -, -, -, -, -, -, -, -, -, -, -, -, -, last, header⟩
      rw [within_readLeInt_iff] at last
      rw [within_readLeShort_iff] at header
      simp only [wrap, entryLen, localAt] at last header ⊢
      omega
    · rintro ⟨record, header⟩
      rw [entryLen] at record
      have short (k : Nat) (enough : k + 2 ≤ 46) : Within size memory (readLeShort (p + k)) :=
        within_readLeShort (by omega) (by omega)
      have int (k : Nat) (enough : k + 4 ≤ 46) : Within size memory (readLeInt (p + k)) :=
        within_readLeInt (by omega) (by omega)
      refine ⟨short _ (by decide), short _ (by decide), short _ (by decide), short _ (by decide),
        short _ (by decide), short _ (by decide), int _ (by decide), int _ (by decide),
        int _ (by decide), short _ (by decide), short _ (by decide), short _ (by decide),
        short _ (by decide), short _ (by decide), int _ (by decide), int _ (by decide), ?_⟩
      rw [within_readLeShort_iff]
      simp only [wrap, localAt] at header ⊢
      omega

theorem centralDirOffset_of_values {eocd len : Nat} {file : Zipfile}
    (read : value (readCentralDirValues size eocd len) memory = some file) :
    file.centralDirOffset = intAt memory (eocd + 0x10) := by
  rw [readCentralDirValues] at read
  split at read
  · exact nomatch read
  · simp only [Reader.value_bind, Reader.value_ite, Reader.value_pure, value_readLeInt,
      value_readLeShort] at read
    split at read
    · split at read
      · exact nomatch read
      · exact Option.some.inj read ▸ rfl
    · exact Option.some.inj read ▸ rfl

/-- An end record is read from a buffer of less than 2 GiB, and says where the directory starts. -/
theorem bounds_of_ending {ending : Zipfile}
    (read : value (readEndOfCentralDir size) memory = some ending) :
    size < 2 ^ 31 ∧ ending.centralDirOffset < 2 ^ 32 := by
  rw [readEndOfCentralDir] at read
  split at read
  · exact nomatch read
  · next fits =>
      refine ⟨by omega, ?_⟩
      rw [Reader.value_bind] at read
      split at read
      · exact nomatch read
      · rw [Reader.value_bind] at read
        split at read
        · exact nomatch read
        · next values =>
            rw [Reader.value_ite] at read
            split at read
            · exact nomatch read
            · rw [← Option.some.inj read, centralDirOffset_of_values values]
              exact intAt_lt _

theorem nextAt_lt (p : Nat) : nextAt memory p < 2 ^ 32 := wrap_lt _

/-- The entries are read inside the buffer if and only if each that is reached can be read. -/
theorem within_readEntries_iff {len count p : Nat} {entries : List Zipentry} (place : p < 2 ^ 32)
    (small : size < 2 ^ 31) :
    Within size memory (readEntries len count p entries) ↔ TooSmall len ∨
      ∀ i < count, (∀ j < i, Signed memory (entryPlace memory p j)) →
        Readable memory size (entryPlace memory p i) := by
  induction count generalizing p entries with
  | zero => exact iff_of_true (Reader.within_pure _) (.inr fun i inside => nomatch inside)
  | succ count induction =>
      rw [readEntries, Reader.within_bind, within_readCentralDirectoryEntry_iff place small,
        value_readCentralDirectoryEntry]
      by_cases tooSmall : TooSmall len
      · simp [tooSmall]
      · by_cases signed : intAt memory p = entrySignature
        · rw [if_neg (by simp [tooSmall, signed])]
          dsimp only
          rw [induction (nextAt_lt p), or_iff_right tooSmall, or_iff_right tooSmall,
            or_iff_right tooSmall]
          constructor
          · rintro ⟨first, rest⟩ i inside before
            cases i with
            | zero => exact first
            | succ i =>
                exact rest i (Nat.lt_of_succ_lt_succ inside) fun j earlier =>
                  before (j + 1) (Nat.succ_lt_succ earlier)
          · intro all
            refine ⟨all 0 (Nat.succ_pos _) (fun j none => nomatch none), fun i inside before => ?_⟩
            refine all (i + 1) (Nat.succ_lt_succ inside) fun j earlier => ?_
            cases j with
            | zero => exact signed
            | succ j => exact before j (Nat.lt_of_succ_lt_succ earlier)
        · rw [if_pos (.inr signed), or_iff_right tooSmall, or_iff_right tooSmall]
          refine ⟨fun first i inside before => ?_, fun all => ⟨?_, Reader.within_pure _⟩⟩
          · cases i with
            | zero => exact first.1
            | succ i => exact absurd (before 0 (Nat.succ_pos _)) signed
          · exact all 0 (Nat.succ_pos _) fun j none => nomatch none

theorem within_initZipfile_iff {ending : Zipfile}
    (read : value (readEndOfCentralDir size) memory = some ending) :
    Within size memory (initZipfile size) ↔
      TooSmall (lenOf size ending.centralDirOffset) ∨ ∀ i < ending.totalEntryCount,
        (∀ j < i, Signed memory (entryPlace memory ending.centralDirOffset j)) →
          Readable memory size (entryPlace memory ending.centralDirOffset i) := by
  obtain ⟨small, place⟩ := bounds_of_ending read
  rw [initZipfile, Reader.within_bind, read, and_iff_right (within_readEndOfCentralDir size)]
  dsimp only
  rw [Reader.within_bind, within_readEntries_iff place small, and_iff_left]
  split
  · exact Reader.within_pure _
  · exact Reader.within_pure _

theorem mem_entriesAt {entry : Zipentry} {p count : Nat} :
    entry ∈ entriesAt memory p count ↔
      ∃ i < count, entryAt memory (entryPlace memory p i) = entry := by
  simp [entriesAt]

/-- The name is in the buffer where the entry is. -/
theorem contained_iff {p : Nat} (small : size < 2 ^ 31) (readable : p + entryLen ≤ size) :
    Contained memory size p ↔
      (∀ q, (entryAt memory p).fileName = some q →
        q + (entryAt memory p).fileNameLength ≤ size) ∧ (entryAt memory p).data < size := by
  have place : wrap (p + entryLen) = p + entryLen := wrap_of_lt (by omega)
  rw [Contained]
  refine and_congr_left fun _ => ?_
  rw [entryAt]
  dsimp only
  rw [place]
  split
  · simp
  · next empty =>
      have none : shortAt memory (p + 0x1c) = 0 := not_not.mp empty
      simp [none, readable]

/-- An archive is read inside its buffer if and only if its end record is not found or is refused,
or it says that there is no entry, or there are fewer than 46 bytes behind the start of the
directory, or the entries are proper. -/
theorem safe_iff (size : Nat) (memory : Nat → UInt8) :
    Safe size memory ↔ ∀ ending, value (readEndOfCentralDir size) memory = some ending →
      TooSmall (lenOf size ending.centralDirOffset) ∨ Proper memory size ending := by
  constructor
  · intro safe ending read
    by_cases tooSmall : TooSmall (lenOf size ending.centralDirOffset)
    · exact .inl tooSmall
    · obtain ⟨small, place⟩ := bounds_of_ending read
      have readable := ((within_initZipfile_iff read).mp safe.within).resolve_left tooSmall
      refine .inr ⟨readable, fun signed i inside => ?_⟩
      have returned := value_initZipfile_iff.mpr ⟨ending, read, fun _ => tooSmall, signed, rfl⟩
      have mem : entryAt memory (entryPlace memory ending.centralDirOffset i) ∈
          (entriesAt memory ending.centralDirOffset ending.totalEntryCount).reverse :=
        List.mem_reverse.mpr (mem_entriesAt.mpr ⟨i, inside, rfl⟩)
      have record := (readable i inside fun j earlier => signed j (Nat.lt_trans earlier inside)).2
        (signed i inside)
      exact (contained_iff small record.1).mpr
        ⟨safe.names _ returned _ mem, safe.data _ returned _ mem⟩
  · intro proper
    have entries (file : Zipfile) (returned : value (initZipfile size) memory = some file)
        (entry : Zipentry) (mem : entry ∈ file.entries) :
        (∀ p, entry.fileName = some p → p + entry.fileNameLength ≤ size) ∧ entry.data < size := by
      obtain ⟨ending, read, enough, signed, rfl⟩ := value_initZipfile_iff.mp returned
      obtain ⟨small, place⟩ := bounds_of_ending read
      obtain ⟨i, inside, rfl⟩ := mem_entriesAt.mp (List.mem_reverse.mp mem)
      have fine := (proper ending read).resolve_left (enough (Nat.zero_lt_of_lt inside))
      have record := (fine.readable i inside fun j earlier =>
        signed j (Nat.lt_trans earlier inside)).2 (signed i inside)
      exact (contained_iff small record.1).mp (fine.contained signed i inside)
    refine ⟨?_, fun file returned entry mem => (entries file returned entry mem).1,
      fun file returned entry mem => (entries file returned entry mem).2⟩
    cases read : value (readEndOfCentralDir size) memory with
    | none =>
        rw [initZipfile, Reader.within_bind, read]
        exact ⟨within_readEndOfCentralDir size, Reader.within_pure _⟩
    | some ending =>
        exact (within_initZipfile_iff read).mpr ((proper ending read).imp_right Proper.readable)

/-- A directory entry whose local header is behind the buffer, and the end record. -/
def strayHeader : List UInt8 :=
  [0x50, 0x4b, 1, 2, 0, 0, 0, 0, 0, 0, 0, 0, 0, 0, 0, 0, 0, 0, 0, 0, 0, 0, 0, 0, 0, 0, 0, 0, 0, 0,
    0, 0, 0, 0, 0, 0, 0, 0, 0, 0, 0, 0, 200, 0, 0, 0,
    0x50, 0x4b, 5, 6, 0, 0, 0, 0, 1, 0, 1, 0, 46, 0, 0, 0, 0, 0, 0, 0, 0, 0]

/-- The header is read all the same. -/
theorem not_safe_strayHeader : ¬Safe 68 fun p => strayHeader.getD p 0 := by
  intro safe
  have read : value (readEndOfCentralDir 68) (fun p => strayHeader.getD p 0) =
      some ⟨68, 0, 0, 1, 1, 46, 0, 0, none, []⟩ := by decide
  have fits : ¬TooSmall (lenOf 68 0) := by decide
  have readable := ((within_initZipfile_iff read).mp safe.within).resolve_left fits
  have header := ((readable 0 (by decide) fun j none => nomatch none).2 (by decide)).2
  exact absurd header (by decide)

end Bounds

end Zip
end AdbWide
