import Mathlib.Algebra.Group.Nat.Defs
import AdbWide.LittleEndian
import AdbWide.Reader

/-!
# The zip reader

`init_zipfile` looks for the end record of an archive from the back, and then goes through the
central directory.  Places are offsets from `file->buf` in an address space of 32 bits: a pointer
that is moved too far comes round to the front again.
-/

namespace AdbWide
namespace Zip

open Reader (fetch value Within)

/-- `CD_SIGNATURE`. -/
def cdSignature : Nat := 0x06054b50

/-- `EOCD_LEN`. -/
def eocdLen : Nat := 22

/-- `MAX_EOCD_SEARCH`. -/
def maxEocdSearch : Nat := 65535 + eocdLen

/-- `ENTRY_SIGNATURE`. -/
def entrySignature : Nat := 0x02014b50

/-- `ENTRY_LEN`. -/
def entryLen : Nat := 46

/-- `LFH_SIZE`. -/
def lfhSize : Nat := 30

/-- A pointer that is so far behind the start of the buffer. -/
def wrap (place : Nat) : Nat := place % 2 ^ 32

/-- A `Zipentry`.  A name without bytes is `NULL`. -/
structure Zipentry where
  fileNameLength : Nat
  fileName : Option Nat
  compressionMethod : Nat
  uncompressedSize : Nat
  compressedSize : Nat
  data : Nat
  deriving DecidableEq, Repr

/-- A `Zipfile`, with its entries from `entries` on. -/
structure Zipfile where
  bufsize : Nat
  disknum : Nat
  diskWithCentralDir : Nat
  entryCount : Nat
  totalEntryCount : Nat
  centralDirSize : Nat
  centralDirOffset : Nat
  commentLen : Nat
  comment : Option Nat
  entries : List Zipentry := []
  deriving DecidableEq, Repr

/-! ## Reading -/

/-- `read_le_short`. -/
def readLeShort (p : Nat) : Reader Nat := do
  let b₀ ← fetch (wrap p)
  let b₁ ← fetch (wrap (p + 1))
  return b₀.toNat + 256 * b₁.toNat

/-- `read_le_int`. -/
def readLeInt (p : Nat) : Reader Nat := do
  let b₀ ← fetch (wrap p)
  let b₁ ← fetch (wrap (p + 1))
  let b₂ ← fetch (wrap (p + 2))
  let b₃ ← fetch (wrap (p + 3))
  return b₀.toNat + 256 * b₁.toNat + 65536 * b₂.toNat + 16777216 * b₃.toNat

/-- `read_central_dir_values`, with `len` bytes from `eocd` on. -/
def readCentralDirValues (bufsize eocd len : Nat) : Reader (Option Zipfile) :=
  if len < eocdLen then return none
  else do
    let disknum ← readLeShort (eocd + 0x04)
    let diskWithCentralDir ← readLeShort (eocd + 0x06)
    let entryCount ← readLeShort (eocd + 0x08)
    let totalEntryCount ← readLeShort (eocd + 0x0a)
    let centralDirSize ← readLeInt (eocd + 0x0c)
    let centralDirOffset ← readLeInt (eocd + 0x10)
    let commentLen ← readLeShort (eocd + 0x14)
    let file : Zipfile :=
      { bufsize, disknum, diskWithCentralDir, entryCount, totalEntryCount, centralDirSize,
        centralDirOffset, commentLen, comment := none }
    if 0 < commentLen then
      if len < eocdLen + commentLen then return none
      else return some { file with comment := some (eocd + eocdLen) }
    else return some file

/-- The loop from the back for the signature of the end record, over so many places from `start`
on. -/
def searchEocd (start : Nat) : Nat → Reader (Option Nat)
  | 0 => return none
  | count + 1 => do
      let b ← fetch (wrap (start + count))
      if b = 0x50 then do
        let signature ← readLeInt (start + count)
        if signature = cdSignature then return some (start + count) else searchEocd start count
      else searchEocd start count

/-- `read_central_dir` up to the loop over the entries.  A size from `2 ^ 31` on is negative as an
`int`. -/
def readEndOfCentralDir (bufsize : Nat) : Reader (Option Zipfile) :=
  if bufsize < eocdLen ∨ 2 ^ 31 ≤ bufsize then return none
  else do
    let start := if maxEocdSearch < bufsize then bufsize - maxEocdSearch else 0
    match ← searchEocd start (bufsize - 3 - start) with
    | none => return none
    | some eocd =>
        match ← readCentralDirValues bufsize eocd (bufsize - eocd) with
        | none => return none
        | some file =>
            if file.disknum ≠ 0 ∨ file.diskWithCentralDir ≠ 0 ∨
                file.entryCount ≠ file.totalEntryCount then return none
            else return some file

/-- `len` of `read_central_dir`: what is left of the buffer from the directory on. -/
def lenOf (bufsize centralDirOffset : Nat) : Nat := wrap (bufsize + 2 ^ 32 - centralDirOffset)

/-- `*len < ENTRY_LEN`, where `*len` is an `int`. -/
def TooSmall (len : Nat) : Prop := len < entryLen ∨ 2 ^ 31 ≤ len

instance (len : Nat) : Decidable (TooSmall len) := inferInstanceAs (Decidable (_ ∨ _))

/-- `read_central_directory_entry`: the entry, and where the next one starts. -/
def readCentralDirectoryEntry (len p : Nat) : Reader (Option (Zipentry × Nat)) :=
  if TooSmall len then return none
  else do
    let signature ← readLeInt p
    if signature ≠ entrySignature then return none
    else do
      let _versionMadeBy ← readLeShort (p + 0x04)
      let _versionToExtract ← readLeShort (p + 0x06)
      let _gpBitFlag ← readLeShort (p + 0x08)
      let compressionMethod ← readLeShort (p + 0x0a)
      let _lastModFileTime ← readLeShort (p + 0x0c)
      let _lastModFileDate ← readLeShort (p + 0x0e)
      let _crc32 ← readLeInt (p + 0x10)
      let compressedSize ← readLeInt (p + 0x14)
      let uncompressedSize ← readLeInt (p + 0x18)
      let fileNameLength ← readLeShort (p + 0x1c)
      let extraFieldLength ← readLeShort (p + 0x1e)
      let fileCommentLength ← readLeShort (p + 0x20)
      let _diskNumberStart ← readLeShort (p + 0x22)
      let _internalAttrs ← readLeShort (p + 0x24)
      let _externalAttrs ← readLeInt (p + 0x26)
      let localHeaderRelOffset ← readLeInt (p + 0x2a)
      let fileName := if fileNameLength ≠ 0 then some (wrap (p + entryLen)) else none
      let next := wrap (p + entryLen + fileNameLength + extraFieldLength + fileCommentLength)
      let lfhExtraFieldLength ← readLeShort (localHeaderRelOffset + 0x1c)
      let data := wrap (localHeaderRelOffset + lfhSize + fileNameLength + lfhExtraFieldLength)
      return some (⟨fileNameLength, fileName, compressionMethod, uncompressedSize,
        compressedSize, data⟩, next)

/-- The loop over the entries, each of which is put in front of those before. -/
def readEntries (len : Nat) : Nat → Nat → List Zipentry → Reader (Option (List Zipentry))
  | 0, _, entries => return some entries
  | count + 1, p, entries => do
      match ← readCentralDirectoryEntry len p with
      | none => return none
      | some (entry, next) => readEntries len count next (entry :: entries)

/-- `init_zipfile`. -/
def initZipfile (size : Nat) : Reader (Option Zipfile) := do
  match ← readEndOfCentralDir size with
  | none => return none
  | some file =>
      match ← readEntries (lenOf size file.centralDirOffset) file.totalEntryCount
        file.centralDirOffset [] with
      | none => return none
      | some entries => return some { file with entries }

/-! ## What is read -/

section Values

variable {memory : Nat → UInt8}

/-- Two bytes as a number. -/
def shortAt (memory : Nat → UInt8) (p : Nat) : Nat :=
  (memory (wrap p)).toNat + 256 * (memory (wrap (p + 1))).toNat

/-- Four bytes as a number. -/
def intAt (memory : Nat → UInt8) (p : Nat) : Nat :=
  (memory (wrap p)).toNat + 256 * (memory (wrap (p + 1))).toNat +
    65536 * (memory (wrap (p + 2))).toNat + 16777216 * (memory (wrap (p + 3))).toNat

@[simp] theorem value_readLeShort (p : Nat) : value (readLeShort p) memory = shortAt memory p := by
  simp [readLeShort, shortAt]

@[simp] theorem value_readLeInt (p : Nat) : value (readLeInt p) memory = intAt memory p := by
  simp [readLeInt, intAt]

/-- Where the local header of a directory entry is. -/
def localAt (memory : Nat → UInt8) (p : Nat) : Nat := intAt memory (p + 0x2a)

/-- The entry at a place of the directory. -/
def entryAt (memory : Nat → UInt8) (p : Nat) : Zipentry where
  fileNameLength := shortAt memory (p + 0x1c)
  fileName := if shortAt memory (p + 0x1c) ≠ 0 then some (wrap (p + entryLen)) else none
  compressionMethod := shortAt memory (p + 0x0a)
  uncompressedSize := intAt memory (p + 0x18)
  compressedSize := intAt memory (p + 0x14)
  data := wrap (localAt memory p + lfhSize + shortAt memory (p + 0x1c) +
    shortAt memory (localAt memory p + 0x1c))

/-- Where the next entry is. -/
def nextAt (memory : Nat → UInt8) (p : Nat) : Nat :=
  wrap (p + entryLen + shortAt memory (p + 0x1c) + shortAt memory (p + 0x1e) +
    shortAt memory (p + 0x20))

theorem value_readCentralDirectoryEntry (len p : Nat) :
    value (readCentralDirectoryEntry len p) memory =
      if TooSmall len ∨ intAt memory p ≠ entrySignature then none
      else some (entryAt memory p, nextAt memory p) := by
  by_cases small : TooSmall len
  · rw [readCentralDirectoryEntry, if_pos small, Reader.value_pure, if_pos (.inl small)]
  · by_cases signed : intAt memory p = entrySignature
    · simp [readCentralDirectoryEntry, small, signed, entryAt, nextAt, localAt]
    · simp [readCentralDirectoryEntry, small, signed]

/-! ## The entries of the directory -/

/-- Where the entry of a number is, the first being at `p`. -/
def entryPlace (memory : Nat → UInt8) (p : Nat) : Nat → Nat
  | 0 => p
  | i + 1 => entryPlace memory (nextAt memory p) i

/-- There is the signature of an entry. -/
def Signed (memory : Nat → UInt8) (p : Nat) : Prop := intAt memory p = entrySignature

instance (memory : Nat → UInt8) (p : Nat) : Decidable (Signed memory p) :=
  inferInstanceAs (Decidable (_ = _))

/-- So many entries from a place on. -/
def entriesAt (memory : Nat → UInt8) (p count : Nat) : List Zipentry :=
  (List.range count).map fun i => entryAt memory (entryPlace memory p i)

theorem entriesAt_succ (p count : Nat) :
    entriesAt memory p (count + 1) =
      entryAt memory p :: entriesAt memory (nextAt memory p) count := by
  rw [entriesAt, List.range_succ_eq_map, List.map_cons, List.map_map]
  rfl

/-- The entries are read if and only if there is enough for one, and each has its signature. -/
theorem value_readEntries_iff {len p count : Nat} {entries result : List Zipentry} :
    value (readEntries len count p entries) memory = some result ↔
      (0 < count → ¬TooSmall len) ∧ (∀ i < count, Signed memory (entryPlace memory p i)) ∧
        result = (entriesAt memory p count).reverse ++ entries := by
  induction count generalizing p entries with
  | zero => simp [readEntries, entriesAt, eq_comm]
  | succ count induction =>
      rw [readEntries, Reader.value_bind, value_readCentralDirectoryEntry]
      by_cases stops : TooSmall len ∨ intAt memory p ≠ entrySignature
      · rw [if_pos stops]
        refine iff_of_false (by simp) fun ⟨enough, signed, _⟩ => ?_
        exact stops.elim (enough (Nat.succ_pos _)) fun unsigned =>
          unsigned (signed 0 (Nat.succ_pos _))
      · rw [if_neg stops]
        obtain ⟨enough, signed⟩ := not_or.mp stops
        simp only [induction, entriesAt_succ, List.reverse_cons, List.append_assoc,
          List.singleton_append, enough, not_false_eq_true, implies_true, true_and]
        refine and_congr_left fun _ => ⟨fun rest i inside => ?_, fun all i inside => ?_⟩
        · cases i with
          | zero => exact not_not.mp signed
          | succ i => exact rest i (Nat.lt_of_succ_lt_succ inside)
        · exact all (i + 1) (Nat.succ_lt_succ inside)

/-- An archive is read if and only if its end record and its entries are. -/
theorem value_initZipfile_iff {size : Nat} {file : Zipfile} :
    value (initZipfile size) memory = some file ↔
      ∃ ending, value (readEndOfCentralDir size) memory = some ending ∧
        (0 < ending.totalEntryCount → ¬TooSmall (lenOf size ending.centralDirOffset)) ∧
        (∀ i < ending.totalEntryCount,
          Signed memory (entryPlace memory ending.centralDirOffset i)) ∧
        file = { ending with entries :=
          (entriesAt memory ending.centralDirOffset ending.totalEntryCount).reverse } := by
  rw [initZipfile, Reader.value_bind]
  cases value (readEndOfCentralDir size) memory with
  | none => simp
  | some ending =>
      rw [Reader.value_bind]
      cases entries : value (readEntries (lenOf size ending.centralDirOffset)
          ending.totalEntryCount ending.centralDirOffset []) memory with
      | none =>
          refine iff_of_false (by simp) ?_
          rintro ⟨ending', same, enough, signed, -⟩
          obtain rfl := Option.some.inj same
          exact nomatch entries.symm.trans (value_readEntries_iff.mpr ⟨enough, signed, rfl⟩)
      | some entries' =>
          obtain ⟨enough, signed, rfl⟩ := value_readEntries_iff.mp entries
          rw [List.append_nil]
          constructor
          · intro read
            exact ⟨ending, rfl, enough, signed, (Option.some.inj read).symm⟩
          · rintro ⟨ending', same, -, -, rfl⟩
            obtain rfl := Option.some.inj same
            rfl

end Values

end Zip
end AdbWide
