import AdbWide.Sync.Client
import AdbWide.Zip.Model
import Mathlib.Data.List.Infix

/-!
# Entries by their names

`lookup_zipentry` compares the name it looks for with each name of the archive over the length of
the latter.  So it also takes an entry whose name is only the front of the one it looks for, or one
that goes on as the memory behind the name does.
-/

namespace AdbWide
namespace Zip

open Reader (value)
open Sync (PushCalls loadApk)
open Sockets.Server (ascii)

/-- The name of an entry. -/
def nameOf (memory : Nat → UInt8) (entry : Zipentry) : List UInt8 :=
  match entry.fileName with
  | none => []
  | some p => (List.range entry.fileNameLength).map fun k => memory (wrap (p + k))

/-- `0 == memcmp(entryName, entry->fileName, entry->fileNameLength)`, with the memory from
`entryName` on. -/
def Same (memory entryName : Nat → UInt8) (entry : Zipentry) : Prop :=
  (List.range entry.fileNameLength).map entryName = nameOf memory entry

instance (memory entryName : Nat → UInt8) (entry : Zipentry) :
    Decidable (Same memory entryName entry) := inferInstanceAs (Decidable (_ = _))

/-- `lookup_zipentry`. -/
def lookupZipentry (memory entryName : Nat → UInt8) (entries : List Zipentry) : Option Zipentry :=
  entries.find? fun entry => Same memory entryName entry

/-- The memory from `file->buf` on, if this is behind the buffer. -/
def memoryOf (buffer : List UInt8) (behind : Nat → UInt8) (place : Nat) : UInt8 :=
  buffer.getD place (behind place)

/-- The file that the client looks for in an APK file. -/
def manifest : List UInt8 := ascii "AndroidManifest.xml"

/-- The check in `sync_send` of the contents of a file. -/
def isApk (behind entryName : Nat → UInt8) (buffer : List UInt8) : Bool :=
  match value (initZipfile buffer.length) (memoryOf buffer behind) with
  | none => false
  | some file => (lookupZipentry (memoryOf buffer behind) entryName file.entries).isSome

/-! ## Names and memory -/

/-- There is a C string in memory. -/
def Reads (entryName : Nat → UInt8) (name : List UInt8) : Prop :=
  (List.range (name.length + 1)).map entryName = name ++ [0]

/-- An entry is found if and only if one has exactly the name, and then it has. -/
structure LooksUp (memory entryName : Nat → UInt8) (entries : List Zipentry) (name : List UInt8) :
    Prop where
  found_iff : (∃ entry, lookupZipentry memory entryName entries = some entry) ↔
    ∃ entry ∈ entries, nameOf memory entry = name
  exact : ∀ entry, lookupZipentry memory entryName entries = some entry →
    nameOf memory entry = name

/-- The name is looked up in an archive, whatever lies behind it in memory, and an APK file is
accepted only if it has an entry of exactly the name of the manifest. -/
def Finds (buffer : List UInt8) (behind : Nat → UInt8) (file : Zipfile) (name : List UInt8) :
    Prop :=
  ∀ entryName, Reads entryName name →
    LooksUp (memoryOf buffer behind) entryName file.entries name ∧
      (name = manifest → ∀ (calls : PushCalls) (size : Int), calls.isApk = isApk behind entryName →
        loadApk calls = some (buffer, size) →
          ∃ entry ∈ file.entries, nameOf (memoryOf buffer behind) entry = name)

/-- An entry with no entry of exactly the name in front of it does not have a name that is shorter
and starts it, or that is longer and starts with it and a null character. -/
def Clear (memory : Nat → UInt8) (entries : List Zipentry) (name : List UInt8) : Prop :=
  ∀ front entry back, entries = front ++ entry :: back →
    (∀ other ∈ front, nameOf memory other ≠ name) →
      nameOf memory entry <+: name ∨ name ++ [0] <+: nameOf memory entry →
        nameOf memory entry = name

section Lookup

variable {memory entryName : Nat → UInt8} {entries : List Zipentry} {entry : Zipentry}
  {name : List UInt8}

theorem map_range_prefix (f : Nat → UInt8) {count count' : Nat} (more : count ≤ count') :
    (List.range count).map f <+: (List.range count').map f := by
  obtain ⟨rest, rfl⟩ := Nat.exists_eq_add_of_le more
  rw [List.range_add, List.map_append]
  exact List.prefix_append _ _

theorem Reads.front (reads : Reads entryName name) :
    (List.range name.length).map entryName = name := by
  rw [Reads, List.range_succ, List.map_append] at reads
  exact (List.append_inj reads (by simp)).1

/-- What is compared is a front of the name, or of the name and what is behind it. -/
theorem Same.prefixes (same : Same memory entryName entry) (reads : Reads entryName name) :
    nameOf memory entry <+: name ∨ name ++ [0] <+: nameOf memory entry := by
  rw [← same]
  obtain short | long := Nat.lt_or_ge name.length entry.fileNameLength
  · exact .inr (reads ▸ map_range_prefix entryName short)
  · have front := map_range_prefix entryName long
    rw [reads.front] at front
    exact .inl front

theorem map_getD_range {front list : List UInt8} (front_list : front <+: list) :
    (List.range front.length).map (fun k => list.getD k 0) = front := by
  obtain ⟨rest, rfl⟩ := front_list
  refine List.ext_getElem (by simp) fun k _ inside => ?_
  simp [List.getElem?_append_left inside, List.getElem?_eq_getElem inside]

/-- If what is compared can be the same, there is memory with which it is. -/
theorem exists_same (length : (nameOf memory entry).length = entry.fileNameLength)
    (prefixes : nameOf memory entry <+: name ∨ name ++ [0] <+: nameOf memory entry) :
    ∃ entryName, Reads entryName name ∧ Same memory entryName entry := by
  simp only [Reads, Same, ← length]
  have count : name.length + 1 = (name ++ [0]).length := by simp
  rw [count]
  obtain shorter | longer := prefixes
  · exact ⟨_, map_getD_range (List.prefix_refl _),
      map_getD_range (shorter.trans (List.prefix_append _ _))⟩
  · exact ⟨_, map_getD_range longer, map_getD_range (List.prefix_refl _)⟩

theorem same_of_exact (length : (nameOf memory entry).length = entry.fileNameLength)
    (reads : Reads entryName name) (exact : nameOf memory entry = name) :
    Same memory entryName entry := by
  rw [Same, ← length, exact, reads.front]

theorem length_nameOf_entryAt (p : Nat) :
    (nameOf memory (entryAt memory p)).length = (entryAt memory p).fileNameLength := by
  rw [nameOf, entryAt]
  dsimp only
  by_cases empty : shortAt memory (p + 0x1c) = 0
  · simp [empty]
  · simp [empty]

/-- A name is looked up, whatever lies behind it, if and only if it is clear of the others. -/
theorem looksUp_iff (lengths : ∀ entry ∈ entries,
      (nameOf memory entry).length = entry.fileNameLength) :
    (∀ entryName, Reads entryName name → LooksUp memory entryName entries name) ↔
      Clear memory entries name := by
  constructor
  · rintro looksUp front entry back rfl absent prefixes
    by_contra different
    obtain ⟨entryName, reads, same⟩ := exists_same (lengths entry (by simp)) prefixes
    cases found : lookupZipentry memory entryName (front ++ entry :: back) with
    | none =>
        have missed := List.find?_eq_none.mp found entry (by simp)
        exact missed (decide_eq_true same)
    | some first =>
        have exact := (looksUp entryName reads).exact first found
        rw [lookupZipentry, List.find?_append] at found
        cases before : front.find? (fun entry => Same memory entryName entry) with
        | none =>
            rw [before, Option.none_or, List.find?_cons, decide_eq_true same] at found
            exact different (Option.some.inj found ▸ exact)
        | some other =>
            rw [before, Option.some_or] at found
            obtain rfl := Option.some.inj found
            exact absent other (List.mem_of_find?_eq_some before) exact
  · intro clear entryName reads
    have exact : ∀ entry, lookupZipentry memory entryName entries = some entry →
        nameOf memory entry = name := by
      intro entry found
      obtain ⟨same, front, back, split, others⟩ := List.find?_eq_some_iff_append.mp found
      refine clear front entry back split (fun other mem equal => ?_)
        ((of_decide_eq_true same).prefixes reads)
      have inside : other ∈ entries := split ▸ List.mem_append_left _ mem
      have found := same_of_exact (lengths other inside) reads equal
      simpa [found] using others other mem
    refine ⟨⟨fun ⟨entry, found⟩ => ⟨entry, List.mem_of_find?_eq_some found, exact entry found⟩, ?_⟩,
      exact⟩
    rintro ⟨entry, inside, equal⟩
    have found := same_of_exact (lengths entry inside) reads equal
    exact Option.isSome_iff_exists.mp
      (List.find?_isSome.mpr ⟨entry, inside, decide_eq_true found⟩)

theorem isApk_of_loadApk {calls : PushCalls} {buffer : List UInt8} {size : Int}
    (accepted : loadApk calls = some (buffer, size)) : calls.isApk buffer = true := by
  rw [loadApk] at accepted
  split at accepted
  · obtain ⟨got, -, accepted⟩ := Option.bind_eq_some_iff.mp accepted
    split at accepted
    · next fits =>
        obtain rfl := (Prod.mk.inj (Option.some.inj accepted)).1
        exact fits.2
    · exact nomatch accepted
  · exact nomatch accepted

/-- A name is looked up in an archive, and a file that lacks the manifest is refused, if and only
if the name is clear of the names in the archive. -/
theorem finds_iff {buffer : List UInt8} {behind : Nat → UInt8} {file : Zipfile}
    (parsed : value (initZipfile buffer.length) (memoryOf buffer behind) = some file) :
    Finds buffer behind file name ↔ Clear (memoryOf buffer behind) file.entries name := by
  have lengths : ∀ entry ∈ file.entries,
      (nameOf (memoryOf buffer behind) entry).length = entry.fileNameLength := by
    obtain ⟨ending, -, -, -, rfl⟩ := value_initZipfile_iff.mp parsed
    intro entry inside
    obtain ⟨i, -, rfl⟩ := List.mem_map.mp (List.mem_reverse.mp inside)
    exact length_nameOf_entryAt _
  rw [← looksUp_iff lengths]
  refine ⟨fun finds entryName reads => (finds entryName reads).1, fun looksUp entryName reads =>
    ⟨looksUp entryName reads, fun _ calls size check accepted => ?_⟩⟩
  have apk := isApk_of_loadApk accepted
  rw [check, isApk, parsed] at apk
  exact (looksUp entryName reads).found_iff.mp (Option.isSome_iff_exists.mp apk)

/-- An archive with the single entry `A`. -/
def oneName : List UInt8 :=
  [0x50, 0x4b, 1, 2, 0, 0, 0, 0, 0, 0, 0, 0, 0, 0, 0, 0, 0, 0, 0, 0, 0, 0, 0, 0, 0, 0, 0, 0, 1, 0,
    0, 0, 0, 0, 0, 0, 0, 0, 0, 0, 0, 0, 0, 0, 0, 0, 65,
    0x50, 0x4b, 5, 6, 0, 0, 0, 0, 1, 0, 1, 0, 47, 0, 0, 0, 0, 0, 0, 0, 0, 0]

/-- What the zip reader makes of it. -/
def oneFile : Zipfile := ⟨69, 0, 0, 1, 1, 47, 0, 0, none, [⟨1, some 46, 0, 0, 0, 32⟩]⟩

theorem value_oneName :
    value (initZipfile oneName.length) (memoryOf oneName fun _ => 0) = some oneFile := by
  decide

theorem clear_oneFile : Clear (memoryOf oneName fun _ => 0) oneFile.entries [65] := by
  intro front entry back split absent prefixes
  have mem : entry ∈ oneFile.entries := split ▸ List.mem_append_right _ List.mem_cons_self
  obtain rfl := List.mem_singleton.mp mem
  decide

/-- Its entry is found by its name. -/
theorem finds_iff_oneName : Finds oneName (fun _ => 0) oneFile [65] :=
  (finds_iff value_oneName).mpr clear_oneFile

/-- The entry `A` is also found for the manifest. -/
theorem not_finds_manifest : ¬Finds oneName (fun _ => 0) oneFile manifest := by
  intro finds
  have looksUp := fun entryName reads => (finds entryName reads).1
  have clear := (looksUp_iff (by decide)).mp looksUp [] _ [] rfl (fun _ mem => nomatch mem)
  have exact := clear (.inl (by with_unfolding_all decide))
  exact absurd exact (by with_unfolding_all decide)

end Lookup

end Zip
end AdbWide
