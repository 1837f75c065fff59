import AdbWide.Zip.Bounds
import Mathlib.Data.List.Forall2
import Mathlib.Data.List.Infix

/-!
# Well-formed archives

An archive is described by its members and by where their records are: one in the central directory,
and a local one in front of the data.  The zip reader finds the end record of every such archive
and gives back its members, the last one first.
-/

namespace AdbWide
namespace Zip

open Reader (value Holds)

/-- A file in an archive, with the fields of its two headers. -/
structure Member where
  versionMadeBy : UInt16
  versionToExtract : UInt16
  gpBitFlag : UInt16
  compressionMethod : UInt16
  lastModFileTime : UInt16
  lastModFileDate : UInt16
  crc32 : UInt32
  compressedSize : UInt32
  uncompressedSize : UInt32
  diskNumberStart : UInt16
  internalAttrs : UInt16
  externalAttrs : UInt32
  localHeaderRelOffset : UInt32
  name : List UInt8
  extraField : List UInt8
  fileComment : List UInt8
  /-- The local header between the signature and the length of the name. -/
  localFields : List UInt8
  localName : List UInt8
  localExtraField : List UInt8
  data : List UInt8
  name_short : name.length < 2 ^ 16
  extraField_short : extraField.length < 2 ^ 16
  fileComment_short : fileComment.length < 2 ^ 16
  localFields_length : localFields.length = 22
  localName_length : localName.length = name.length
  localExtraField_short : localExtraField.length < 2 ^ 16
  data_length : data.length = compressedSize.toNat

/-- The record in the central directory. -/
def Member.centralRecord (m : Member) : List UInt8 :=
  wordBytes 0x02014b50 ++ (shortBytes m.versionMadeBy ++ (shortBytes m.versionToExtract ++
    (shortBytes m.gpBitFlag ++ (shortBytes m.compressionMethod ++
    (shortBytes m.lastModFileTime ++ (shortBytes m.lastModFileDate ++ (wordBytes m.crc32 ++
    (wordBytes m.compressedSize ++ (wordBytes m.uncompressedSize ++
    (shortBytes (.ofNat m.name.length) ++ (shortBytes (.ofNat m.extraField.length) ++
    (shortBytes (.ofNat m.fileComment.length) ++ (shortBytes m.diskNumberStart ++
    (shortBytes m.internalAttrs ++ (wordBytes m.externalAttrs ++
    (wordBytes m.localHeaderRelOffset ++
    (m.name ++ (m.extraField ++ m.fileComment))))))))))))))))))

/-- The local header with the name, and the data. -/
def Member.localRecord (m : Member) : List UInt8 :=
  wordBytes 0x04034b50 ++ (m.localFields ++ (shortBytes (.ofNat m.name.length) ++
    (shortBytes (.ofNat m.localExtraField.length) ++
    (m.localName ++ (m.localExtraField ++ m.data)))))

/-- The end record of an archive on a single disk. -/
def endRecord (count : UInt16) (size directory : UInt32) (comment : List UInt8) : List UInt8 :=
  wordBytes 0x06054b50 ++ (shortBytes 0 ++ (shortBytes 0 ++ (shortBytes count ++
    (shortBytes count ++ (wordBytes size ++ (wordBytes directory ++
    (shortBytes (.ofNat comment.length) ++ comment)))))))

/-- The bytes are an archive of the members, with the directory and the end record at some
places. -/
structure IsArchive (bytes : List UInt8) (members : List Member) (directory : UInt32) (eocd : Nat)
    (comment : List UInt8) : Prop where
  size : bytes.length < 2 ^ 31
  count : members.length < 2 ^ 16
  comment_short : comment.length < 2 ^ 16
  ending : bytes.drop eocd = endRecord (.ofNat members.length)
    (.ofNat (members.flatMap Member.centralRecord).length) directory comment
  central : members.flatMap Member.centralRecord <+: bytes.drop directory.toNat
  locals : ∀ m ∈ members, m.localRecord <+: bytes.drop m.localHeaderRelOffset.toNat
  last : ∀ place, eocd < place → ¬wordBytes 0x06054b50 <+: bytes.drop place

/-- The entry is that of a member: its name, its sizes, and where its data starts. -/
structure Describes (bytes : List UInt8) (m : Member) (entry : Zipentry) : Prop where
  fileNameLength : entry.fileNameLength = m.name.length
  noName : m.name = [] → entry.fileName = none
  fileName : m.name ≠ [] → ∃ p, entry.fileName = some p ∧ m.name <+: bytes.drop p
  compressionMethod : entry.compressionMethod = m.compressionMethod.toNat
  uncompressedSize : entry.uncompressedSize = m.uncompressedSize.toNat
  compressedSize : entry.compressedSize = m.compressedSize.toNat
  place : entry.data = m.localHeaderRelOffset.toNat + lfhSize + m.name.length +
    m.localExtraField.length
  data : m.data <+: bytes.drop entry.data

section Fields

variable {memory : Nat → UInt8} {place : Nat}

theorem shortAt_of_holds {short : UInt16} (small : place + 2 ≤ 2 ^ 32)
    (holds : Holds memory place (shortBytes short)) : shortAt memory place = short.toNat := by
  have bound := short.toNat_lt
  have first : memory place = UInt8.ofNat short.toNat := holds 0 (by simp)
  have second : memory (place + 1) = UInt8.ofNat (short.toNat / 256) := holds 1 (by simp)
  rw [shortAt, wrap_of_lt (by omega), wrap_of_lt (by omega), first, second, UInt8.toNat_ofNat',
    UInt8.toNat_ofNat']
  omega

theorem intAt_of_holds {word : UInt32} (small : place + 4 ≤ 2 ^ 32)
    (holds : Holds memory place (wordBytes word)) : intAt memory place = word.toNat := by
  have bound := word.toNat_lt
  have first : memory place = UInt8.ofNat word.toNat := holds 0 (by simp)
  have second : memory (place + 1) = UInt8.ofNat (word.toNat / 256) := holds 1 (by simp)
  have third : memory (place + 2) = UInt8.ofNat (word.toNat / 65536) := holds 2 (by simp)
  have fourth : memory (place + 3) = UInt8.ofNat (word.toNat / 16777216) := holds 3 (by simp)
  rw [intAt, wrap_of_lt (by omega), wrap_of_lt (by omega), wrap_of_lt (by omega),
    wrap_of_lt (by omega), first, second, third, fourth, UInt8.toNat_ofNat', UInt8.toNat_ofNat',
    UInt8.toNat_ofNat', UInt8.toNat_ofNat']
  omega

theorem toNat_ofNat_length {list : List UInt8} (short : list.length < 2 ^ 16) :
    (UInt16.ofNat list.length).toNat = list.length := by
  rw [UInt16.toNat_ofNat', Nat.mod_eq_of_lt short]

theorem length_centralRecord (m : Member) : m.centralRecord.length =
    entryLen + m.name.length + m.extraField.length + m.fileComment.length := by
  simp only [Member.centralRecord, List.length_append, length_wordBytes, length_shortBytes,
    entryLen]
  omega

/-- The fields of a record in the directory are read where they are. -/
theorem entryAt_of_holds {m : Member} (small : place + m.centralRecord.length ≤ 2 ^ 31)
    (holds : Holds memory place m.centralRecord) :
    Signed memory place ∧ nextAt memory place = place + m.centralRecord.length ∧
      shortAt memory (place + 0x1c) = m.name.length ∧
      (entryAt memory place).compressionMethod = m.compressionMethod.toNat ∧
      (entryAt memory place).compressedSize = m.compressedSize.toNat ∧
      (entryAt memory place).uncompressedSize = m.uncompressedSize.toNat ∧
      localAt memory place = m.localHeaderRelOffset.toNat := by
  rw [length_centralRecord, entryLen] at small ⊢
  simp only [Member.centralRecord, Reader.holds_append, length_wordBytes, length_shortBytes,
    Nat.add_assoc, Nat.reduceAdd] at holds
  obtain ⟨signature, -, -, -, method, -, -, -, compressed, uncompressed, name, extra, comment, -, -,
    -, offset, -, -, -⟩ := holds
  have nameLength := (shortAt_of_holds (by omega) name).trans (toNat_ofNat_length m.name_short)
  have extraLength := (shortAt_of_holds (by omega) extra).trans
    (toNat_ofNat_length m.extraField_short)
  have commentLength := (shortAt_of_holds (by omega) comment).trans
    (toNat_ofNat_length m.fileComment_short)
  refine ⟨(intAt_of_holds (by omega) signature).trans (by decide), ?_, nameLength,
    shortAt_of_holds (by omega) method, intAt_of_holds (by omega) compressed,
    intAt_of_holds (by omega) uncompressed, intAt_of_holds (by omega) offset⟩
  rw [nextAt, nameLength, extraLength, commentLength, entryLen, wrap]
  omega

theorem data_of_holds {m : Member} (small : place + m.localRecord.length ≤ 2 ^ 31)
    (holds : Holds memory place m.localRecord) :
    shortAt memory (place + 0x1c) = m.localExtraField.length := by
  simp only [Member.localRecord, Reader.holds_append, List.length_append, length_wordBytes,
    length_shortBytes, Nat.add_assoc, Nat.reduceAdd, m.localFields_length] at holds small
  obtain ⟨-, -, -, extra, -⟩ := holds
  exact (shortAt_of_holds (by omega) extra).trans (toNat_ofNat_length m.localExtraField_short)

/-! ## The end record -/

/-- The last signature in the window is found. -/
theorem value_searchEocd {start count eocd : Nat} (window : start ≤ eocd)
    (inside : eocd < start + count) (small : start + count ≤ 2 ^ 32)
    (signed : intAt memory eocd = cdSignature)
    (last : ∀ i, eocd < i → i < start + count → intAt memory i ≠ cdSignature) :
    value (searchEocd start count) memory = some eocd := by
  induction count with
  | zero => exact absurd inside (Nat.not_lt_of_le window)
  | succ count induction =>
      simp only [searchEocd, Reader.value_bind, Reader.value_ite, Reader.value_fetch,
        Reader.value_pure, value_readLeInt]
      obtain rfl | earlier : eocd = start + count ∨ eocd < start + count := by omega
      · have first : memory (wrap (start + count)) = 0x50 := by
          have bytes := signed
          rw [intAt, cdSignature] at bytes
          refine UInt8.toNat_inj.mp ?_
          have bound := (memory (wrap (start + count))).toNat_lt
          change _ = 80
          omega
        rw [if_pos first, if_pos signed]
      · have rest := induction earlier (by omega) fun i later below => last i later (by omega)
        have other := last (start + count) earlier (Nat.lt_succ_self _)
        rw [if_neg other, ite_self, rest]

/-- The four bytes of the signature are what it is made of. -/
theorem signature_of_intAt {bytes : List UInt8} (holds : Holds memory 0 bytes)
    (small : bytes.length < 2 ^ 32) (inside : place + 4 ≤ bytes.length)
    (signed : intAt memory place = cdSignature) :
    wordBytes 0x06054b50 <+: bytes.drop place := by
  have byte (k : Nat) (early : k < bytes.length) : memory (wrap k) = bytes[k] := by
    rw [wrap_of_lt (Nat.lt_trans early small), ← holds k early, Nat.zero_add]
  have b₀ := (bytes[place]).toNat_lt
  have b₁ := (bytes[place + 1]).toNat_lt
  have b₂ := (bytes[place + 2]).toNat_lt
  have b₃ := (bytes[place + 3]).toNat_lt
  rw [intAt, byte _ (by omega), byte _ (by omega), byte _ (by omega), byte _ (by omega),
    cdSignature] at signed
  have first : bytes[place] = 80 := UInt8.toNat_inj.mp (show _ = 80 by omega)
  have second : bytes[place + 1] = 75 := UInt8.toNat_inj.mp (show _ = 75 by omega)
  have third : bytes[place + 2] = 5 := UInt8.toNat_inj.mp (show _ = 5 by omega)
  have fourth : bytes[place + 3] = 6 := UInt8.toNat_inj.mp (show _ = 6 by omega)
  rw [List.drop_eq_getElem_cons (by omega), List.drop_eq_getElem_cons (by omega),
    List.drop_eq_getElem_cons (by omega), List.drop_eq_getElem_cons (by omega), first, second,
    third, fourth]
  exact ⟨_, rfl⟩

theorem length_endRecord (count : UInt16) (size directory : UInt32) (comment : List UInt8) :
    (endRecord count size directory comment).length = eocdLen + comment.length := by
  simp only [endRecord, List.length_append, length_wordBytes, length_shortBytes, eocdLen]
  omega

theorem value_readCentralDirValues {bufsize : Nat} {count : UInt16} {size directory : UInt32}
    {comment : List UInt8} (short : comment.length < 2 ^ 16)
    (small : place + eocdLen + comment.length ≤ 2 ^ 31)
    (holds : Holds memory place (endRecord count size directory comment)) :
    value (readCentralDirValues bufsize place (eocdLen + comment.length)) memory =
      some ⟨bufsize, 0, 0, count.toNat, count.toNat, size.toNat, directory.toNat, comment.length,
        if 0 < comment.length then some (place + eocdLen) else none, []⟩ := by
  simp only [endRecord, Reader.holds_append, length_wordBytes, length_shortBytes, Nat.add_assoc,
    Nat.reduceAdd] at holds
  obtain ⟨-, disknum, disk, entries, total, sizeBytes, offset, length, -⟩ := holds
  rw [eocdLen] at small
  rw [readCentralDirValues, if_neg (Nat.not_lt_of_le (Nat.le_add_right _ _))]
  simp only [Reader.value_bind, Reader.value_ite, Reader.value_pure, value_readLeInt,
    value_readLeShort, shortAt_of_holds (by omega) disknum, shortAt_of_holds (by omega) disk,
    shortAt_of_holds (by omega) entries, shortAt_of_holds (by omega) total,
    intAt_of_holds (by omega) sizeBytes, intAt_of_holds (by omega) offset,
    shortAt_of_holds (by omega) length, toNat_ofNat_length short, Nat.lt_irrefl, if_false]
  split
  · rfl
  · rfl

/-- The end record of an archive is found and read. -/
theorem IsArchive.value_ending {bytes comment : List UInt8} {members : List Member}
    {directory : UInt32} {eocd : Nat} (archive : IsArchive bytes members directory eocd comment)
    (holds : Holds memory 0 bytes) :
    ∃ ending, value (readEndOfCentralDir bytes.length) memory = some ending ∧
      ending.totalEntryCount = members.length ∧ ending.centralDirOffset = directory.toNat := by
  obtain ⟨inside, record⟩ := holds.part (List.prefix_refl (bytes.drop eocd)) (by
    rw [archive.ending, endRecord]
    exact fun empty => nomatch empty)
  have length : bytes.length - eocd = eocdLen + comment.length := by
    rw [← List.length_drop, archive.ending, length_endRecord]
  have size := archive.size
  have short := archive.comment_short
  rw [List.length_drop] at inside
  rw [archive.ending] at record
  have signed : intAt memory eocd = cdSignature := by
    rw [endRecord, Reader.holds_append] at record
    rw [eocdLen] at length
    exact (intAt_of_holds (by omega) record.1).trans (by decide)
  have later (i : Nat) (behind : eocd < i) (room : i + 4 ≤ bytes.length) :
      intAt memory i ≠ cdSignature := fun again =>
    archive.last i behind (signature_of_intAt holds (by omega) room again)
  have found (start : Nat) (window : start ≤ eocd) :
      value (searchEocd start (bytes.length - 3 - start)) memory = some eocd := by
    rw [eocdLen] at length
    exact value_searchEocd window (by omega) (by omega) signed fun i behind below =>
      later i behind (by omega)
  have values := @value_readCentralDirValues memory eocd bytes.length
    (.ofNat members.length) _ directory comment short (by omega) record
  rw [readEndOfCentralDir, if_neg (by rw [eocdLen] at length ⊢; omega)]
  dsimp only
  rw [Reader.value_bind, found _ (by rw [maxEocdSearch]; split <;> omega)]
  dsimp only
  rw [Reader.value_bind, length, values]
  dsimp only
  rw [Reader.value_ite, if_neg (by simp)]
  refine ⟨_, rfl, ?_, rfl⟩
  exact Nat.mod_eq_of_lt archive.count

/-! ## The members -/

theorem drop_centralRecord (m : Member) :
    m.centralRecord.drop entryLen = m.name ++ (m.extraField ++ m.fileComment) := rfl

theorem drop_localRecord (m : Member) :
    m.localRecord.drop (lfhSize + m.name.length + m.localExtraField.length) = m.data := by
  have split : m.localRecord = (wordBytes 0x04034b50 ++ (m.localFields ++
      (shortBytes (.ofNat m.name.length) ++ (shortBytes (.ofNat m.localExtraField.length) ++
        (m.localName ++ m.localExtraField))))) ++ m.data := by
    simp only [Member.localRecord, List.append_assoc]
  rw [split]
  refine List.drop_left' ?_
  simp only [List.length_append, length_wordBytes, length_shortBytes, m.localFields_length,
    m.localName_length, lfhSize]
  omega

theorem length_localRecord (m : Member) : m.localRecord.length =
    lfhSize + m.name.length + m.localExtraField.length + m.data.length := by
  simp only [Member.localRecord, List.length_append, length_wordBytes, length_shortBytes,
    m.localFields_length, m.localName_length, lfhSize]
  omega

/-- The entry of a member whose records are in memory. -/
theorem describes_of_holds {bytes : List UInt8} {m : Member} (holds : Holds memory 0 bytes)
    (small : bytes.length < 2 ^ 31) (central : m.centralRecord <+: bytes.drop place)
    (header : m.localRecord <+: bytes.drop m.localHeaderRelOffset.toNat) :
    Describes bytes m (entryAt memory place) := by
  obtain ⟨inside, record⟩ := holds.part central (List.cons_ne_nil _ _)
  obtain ⟨inside', before⟩ := holds.part header (List.cons_ne_nil _ _)
  obtain ⟨-, -, nameLength, method, compressed, uncompressed, offset⟩ :=
    entryAt_of_holds (by omega) record
  have extra := data_of_holds (by omega) before
  rw [length_centralRecord, entryLen] at inside
  rw [length_localRecord, lfhSize] at inside'
  have data : (entryAt memory place).data = m.localHeaderRelOffset.toNat +
      (lfhSize + m.name.length + m.localExtraField.length) := by
    rw [entryAt]
    dsimp only
    rw [offset, nameLength, extra, lfhSize, wrap]
    omega
  refine ⟨nameLength, fun empty => ?_, fun nonempty => ⟨place + entryLen, ?_, ?_⟩, method,
    uncompressed, compressed, by rw [data]; omega, ?_⟩
  · rw [entryAt]
    dsimp only
    rw [nameLength, empty]
    rfl
  · have positive := List.length_pos_iff.mpr nonempty
    rw [entryAt]
    dsimp only
    rw [nameLength, if_pos (Nat.ne_of_gt positive), entryLen, wrap_of_lt (by omega)]
  · have rest := central.drop entryLen
    rw [drop_centralRecord, List.drop_drop] at rest
    exact (List.prefix_append _ _).trans rest
  · have rest := header.drop (lfhSize + m.name.length + m.localExtraField.length)
    rwa [drop_localRecord, List.drop_drop, ← data] at rest

/-- All records of the directory are walked through, and each entry is that of its member. -/
theorem describes_entries {bytes : List UInt8} (holds : Holds memory 0 bytes)
    (small : bytes.length < 2 ^ 31) {members : List Member}
    (central : members.flatMap Member.centralRecord <+: bytes.drop place)
    (headers : ∀ m ∈ members, m.localRecord <+: bytes.drop m.localHeaderRelOffset.toNat) :
    (∀ i < members.length, Signed memory (entryPlace memory place i)) ∧
      List.Forall₂ (Describes bytes) members (entriesAt memory place members.length) := by
  induction members generalizing place with
  | nil => exact ⟨fun i inside => (nomatch inside), .nil⟩
  | cons m members induction =>
      rw [List.flatMap_cons] at central
      have first : m.centralRecord <+: bytes.drop place := (List.prefix_append _ _).trans central
      obtain ⟨inside, record⟩ := holds.part first (List.cons_ne_nil _ _)
      obtain ⟨signed, next, -⟩ := entryAt_of_holds (by omega) record
      have rest := central.drop m.centralRecord.length
      rw [List.drop_left, List.drop_drop, ← next] at rest
      obtain ⟨allSigned, described⟩ := induction rest fun other mem =>
        headers other (List.mem_cons_of_mem m mem)
      rw [List.length_cons, entriesAt_succ]
      refine ⟨fun i inside => ?_, .cons ?_ described⟩
      · cases i with
        | zero => exact signed
        | succ i => exact allSigned i (Nat.lt_of_succ_lt_succ inside)
      · exact describes_of_holds holds small first (headers m List.mem_cons_self)

/-- An archive is read whatever lies behind it in memory, and its entries are its members, from the
last of the directory to the first. -/
theorem initZipfile_archive {bytes comment : List UInt8} {members : List Member}
    {directory : UInt32} {eocd : Nat} (archive : IsArchive bytes members directory eocd comment)
    (holds : Holds memory 0 bytes) :
    ∃ file, value (initZipfile bytes.length) memory = some file ∧
      List.Forall₂ (Describes bytes) members.reverse file.entries := by
  obtain ⟨ending, read, count, offset⟩ := archive.value_ending holds
  obtain ⟨signed, described⟩ := describes_entries holds archive.size archive.central archive.locals
  have enough : 0 < members.length → ¬TooSmall (lenOf bytes.length directory.toNat) := by
    intro some
    cases members with
    | nil => exact nomatch some
    | cons m members =>
        have central := archive.central
        rw [List.flatMap_cons] at central
        obtain ⟨inside, -⟩ := holds.part ((List.prefix_append _ _).trans central)
          (List.cons_ne_nil _ _ : m.centralRecord ≠ [])
        have size := archive.size
        rw [length_centralRecord, entryLen] at inside
        rw [TooSmall, lenOf, wrap, entryLen]
        omega
  refine ⟨_, value_initZipfile_iff.mpr ⟨ending, read, ?_, ?_, rfl⟩, ?_⟩
  · rw [count, offset]
    exact enough
  · rw [count, offset]
    exact signed
  · rw [count, offset]
    exact List.forall₂_reverse_iff.mpr described

/-- A stored file of a single byte. -/
def sample (letter byte : UInt8) (localHeaderRelOffset : UInt32) : Member where
  versionMadeBy := 20
  versionToExtract := 20
  gpBitFlag := 0
  compressionMethod := 0
  lastModFileTime := 0
  lastModFileDate := 0
  crc32 := 0
  compressedSize := 1
  uncompressedSize := 1
  diskNumberStart := 0
  internalAttrs := 0
  externalAttrs := 0
  localHeaderRelOffset := localHeaderRelOffset
  name := [letter]
  extraField := []
  fileComment := []
  localFields := List.replicate 22 0
  localName := [letter]
  localExtraField := []
  data := [byte]
  name_short := by simp
  extraField_short := by decide
  fileComment_short := by decide
  localFields_length := by decide
  localName_length := rfl
  localExtraField_short := by decide
  data_length := rfl

/-- Two such files. -/
def samples : List Member := [sample 65 42 0, sample 66 43 32]

/-- An archive of these files. -/
def sampleBytes : List UInt8 :=
  samples.flatMap Member.localRecord ++
    (samples.flatMap Member.centralRecord ++ endRecord 2 94 64 [])

theorem isArchive_samples : IsArchive sampleBytes samples 64 158 [] where
  size := by decide +kernel
  count := by decide
  comment_short := by decide
  ending := by decide +kernel
  central := by decide +kernel
  locals := by decide +kernel
  last place behind again := by
    have short : ∀ k < 180, 158 < k → ¬wordBytes 0x06054b50 <+: sampleBytes.drop k := by
      decide +kernel
    obtain inside | outside := Nat.lt_or_ge place 180
    · exact short place inside behind again
    · have empty : sampleBytes.drop place = [] := List.drop_eq_nil_of_le outside
      rw [empty] at again
      exact nomatch List.prefix_nil.mp again

theorem holds_getD (bytes : List UInt8) : Holds (fun p => bytes.getD p 0) 0 bytes := by
  intro k inside
  simp [List.getElem?_eq_getElem inside]

/-- The entries of this archive, with the file that comes last in front. -/
theorem initZipfile_sample : ∃ file,
    value (initZipfile sampleBytes.length) (fun p => sampleBytes.getD p 0) = some file ∧
      List.Forall₂ (Describes sampleBytes) [sample 66 43 32, sample 65 42 0] file.entries ∧
      file.entries.map Zipentry.data = [63, 31] := by
  obtain ⟨file, read, described⟩ :=
    initZipfile_archive isArchive_samples (holds_getD sampleBytes)
  refine ⟨file, read, described, ?_⟩
  obtain ⟨last, entries, second, rest, entries_eq⟩ := List.forall₂_cons_left_iff.mp described
  obtain ⟨front, none, first, nothing, rfl⟩ := List.forall₂_cons_left_iff.mp rest
  obtain rfl := List.forall₂_nil_left_iff.mp nothing
  rw [entries_eq, List.map_cons, List.map_singleton, second.place, first.place]
  rfl

end Fields

end Zip
end AdbWide
