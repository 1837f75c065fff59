import AdbWide.CText
import AdbWide.Sync.Requests
import AdbWide.Sync.Responses

/-!
# The buffer of a listing

`do_list` puts the path of a directory and the name of each entry together in one buffer on the
stack, asks for what `lstat` says of that path, and sends a `DENT` if it says anything.
-/

namespace AdbWide
namespace Sync
namespace Listing

open Wire (Connection)
open Program (Triple)

/-! ## The code -/

/-- The directories and the files of the device, by their paths. -/
structure Files where
  /-- The names of the entries of a directory, in the order of `readdir`. -/
  opendir : List UInt8 → Option (List (List UInt8))
  lstat : List UInt8 → Option Stat
  /-- Names are C strings. -/
  plain : ∀ path names, opendir path = some names → ∀ name ∈ names, 0 ∉ name

/-- `do_list` at work. -/
structure Lister where
  connection : Connection
  /-- A copy that did not stay inside `tmp`. -/
  fault : Option Fault := none

/-- A program over the connection. -/
def io {Value : Type} (program : Program Connection Value) : Program Lister Value :=
  fun lister => ((program lister.connection).1,
    { lister with connection := (program lister.connection).2 })

/-- A copy into a buffer. -/
def checked {Value : Type} (copy : Except Fault Value) : Program Lister Value :=
  fun lister =>
    match copy with
    | .ok value => (some value, lister)
    | .error fault => (none, { lister with fault := some fault })

/-- `sizeof(tmp)`. -/
def tmpSize : Nat := 1024 + 256 + 1

/-- The loop over the entries. -/
def listLoop (files : Files) (fname : Nat) :
    List (List UInt8) → Block UInt8 tmpSize → Program Lister Unit
  | [], _ => pure ()
  | name :: names, tmp =>
      if 256 < name.length then
        listLoop files fname names tmp
      else do
        let tmp ← checked (tmp.put fname (name ++ [0]))
        match files.lstat tmp.text with
        | none => listLoop files fname names tmp
        | some st => do
            io (writex (dentRecord idDent st (.ofNat name.length)))
            io (writex name)
            listLoop files fname names tmp

/-- `do_list`, with what is in `tmp` before. -/
def doList (files : Files) (tmp : Block UInt8 tmpSize) (path : List UInt8) :
    Program Lister Unit := do
  let tmp ← checked (tmp.put 0 path)
  let tmp ← checked (tmp.put path.length [47])
  listLoop files (path.length + 1) ((files.opendir path).getD []) tmp
  io (writex (dentRecord idDone ⟨0, 0, 0⟩ 0))

/-! ## What is to be sent -/

/-- What is sent of an entry: nothing if its name has more than 256 bytes, or if `lstat` says
nothing of its path. -/
def entryOf (files : Files) (path name : List UInt8) : Option (Stat × List UInt8) :=
  if 256 < name.length then none
  else (files.lstat (path ++ 47 :: name)).map fun st => (st, name)

/-- The entries of a directory that are sent. -/
def entries (files : Files) (path : List UInt8) (names : List (List UInt8)) :
    List (Stat × List UInt8) :=
  names.filterMap (entryOf files path)

/-- The response. -/
def response (files : Files) (path : List UInt8) : List UInt8 :=
  (entries files path ((files.opendir path).getD [])).flatMap dent ++
    dentRecord idDone ⟨0, 0, 0⟩ 0

/-- No copy leaves the buffer, and what is sent is the response, or a part of it if the connection
breaks down. -/
def Lists (files : Files) (tmp : Block UInt8 tmpSize) (path : List UInt8)
    (connection : Connection) : Prop :=
  (doList files tmp path ⟨connection, none⟩).2.fault = none ∧
    ((doList files tmp path ⟨connection, none⟩).1 = some () →
      Sent connection.outgoing (response files path)
        (doList files tmp path ⟨connection, none⟩).2.connection) ∧
    Cut connection.outgoing (response files path)
      (doList files tmp path ⟨connection, none⟩).2.connection

/-- The path that `file_sync_service` takes from the bytes of a request. -/
def requestPath (name : List UInt8) : List UInt8 := name.takeWhile (· ≠ 0)

section Listing

variable {files : Files} {path : List UInt8} {start out : List UInt8}

/-- So much has been sent, without a fault. -/
def SentBy (start out : List UInt8) (lister : Lister) : Prop :=
  lister.fault = none ∧ Sent start out lister.connection

/-- Of so much a part has been sent, without a fault. -/
def CutBy (start out : List UInt8) (lister : Lister) : Prop :=
  lister.fault = none ∧ Cut start out lister.connection

theorem sentBy_writex (bytes : List UInt8) {all : List UInt8} (front : out ++ bytes <+: all) :
    Triple (SentBy start out) (io (writex bytes)) (fun _ => SentBy start (out ++ bytes))
      (CutBy start all) := by
  rintro lister ⟨clean, sent⟩
  obtain ⟨said, failed⟩ := sent_writex bytes lister.connection sent
  exact ⟨fun value returned => ⟨clean, said value returned⟩,
    fun gave_up => ⟨clean, (failed gave_up).mono front⟩⟩

theorem checked_bind {Value Value' : Type} (value : Value)
    (next : Value → Program Lister Value') : checked (.ok value) >>= next = next value := rfl

/-- A copy behind what is in the buffer. -/
theorem put_behind (tmp : Block UInt8 tmpSize) {front text : List UInt8}
    (stands : tmp.segment 0 front.length = front)
    (fits : front.length + text.length ≤ tmpSize) :
    ∃ stored : Block UInt8 tmpSize, tmp.put front.length text = .ok stored ∧
      stored.segment 0 (front ++ text).length = front ++ text := by
  obtain ⟨stored, stores, grown⟩ := tmp.put_eq_ok front.length text fits
  exact ⟨stored, stores, by rw [List.length_append, grown, stands]⟩

/-- Where a name fits, the buffer holds the path of the entry. -/
theorem put_name (tmp : Block UInt8 tmpSize) (plainPath : 0 ∉ path) {name : List UInt8}
    (plain : 0 ∉ name) (stands : tmp.segment 0 (path ++ [47]).length = path ++ [47])
    (fits : path.length + name.length + 2 ≤ tmpSize) :
    ∃ stored : Block UInt8 tmpSize, tmp.put (path.length + 1 : Nat) (name ++ [0]) = .ok stored ∧
      stored.text = path ++ 47 :: name ∧
        stored.segment 0 (path ++ [47]).length = path ++ [47] := by
  have length : (path ++ [47]).length = path.length + 1 := by simp
  obtain ⟨stored, stores, grown⟩ := @put_behind tmp (path ++ [47]) (name ++ [0]) stands
    (by simp only [List.length_append, List.length_singleton]; omega)
  rw [length] at stores
  have shown : stored.Shows (path ++ 47 :: name) := by
    refine ⟨by simp [plainPath, plain], ?_⟩
    simpa [Nat.add_assoc] using grown
  exact ⟨stored, stores, shown.text_eq, (stored.segment_of_append grown).1⟩

/-- The loop, where every name fits behind the path. -/
theorem sentBy_listLoop (plainPath : 0 ∉ path) {names : List (List UInt8)}
    (plain : ∀ name ∈ names, 0 ∉ name)
    (fits : ∀ name ∈ names, name.length ≤ 256 → path.length + name.length + 2 ≤ tmpSize)
    {tmp : Block UInt8 tmpSize}
    (stands : tmp.segment 0 (path ++ [47]).length = path ++ [47]) {all : List UInt8}
    (front : out ++ (entries files path names).flatMap dent <+: all) :
    Triple (SentBy start out) (listLoop files (path.length + 1) names tmp)
      (fun _ => SentBy start (out ++ (entries files path names).flatMap dent))
      (CutBy start all) := by
  induction names generalizing tmp out with
  | nil => exact Triple.pure fun lister sent => by simpa [entries] using sent
  | cons name names induction =>
      rw [List.forall_mem_cons] at plain fits
      rw [listLoop]
      by_cases long : 256 < name.length
      · have skipped : entries files path (name :: names) = entries files path names :=
          List.filterMap_cons_none (if_pos long)
        rw [skipped] at front ⊢
        rw [if_pos long]
        exact induction plain.2 fits.2 stands front
      · obtain ⟨stored, stores, text, stands⟩ :=
          put_name tmp plainPath plain.1 stands (fits.1 (by omega))
        rw [if_neg long, stores, checked_bind, text]
        cases found : files.lstat (path ++ 47 :: name) with
        | none =>
            have skipped : entries files path (name :: names) = entries files path names :=
              List.filterMap_cons_none (by rw [entryOf, if_neg long, found]; rfl)
            rw [skipped] at front ⊢
            exact induction plain.2 fits.2 stands front
        | some st =>
            have sent : entries files path (name :: names) =
                (st, name) :: entries files path names :=
              List.filterMap_cons_some (by rw [entryOf, if_neg long, found]; rfl)
            rw [sent, List.flatMap_cons, ← List.append_assoc] at front ⊢
            have record := (List.prefix_append _ _).trans front
            rw [dent, ← List.append_assoc] at record
            refine (sentBy_writex _ ((List.prefix_append _ _).trans record)).bind fun _ => ?_
            refine (sentBy_writex _ record).bind fun _ => ?_
            rw [List.append_assoc _ _ name]
            exact induction plain.2 fits.2 stands front

/-- The listing, where every name fits behind the path. -/
theorem lists_of_fits (plainPath : 0 ∉ path) (short : path.length ≤ 1024)
    (fits : ∀ name ∈ (files.opendir path).getD [], name.length ≤ 256 →
      path.length + name.length + 2 ≤ tmpSize)
    (tmp : Block UInt8 tmpSize) (connection : Connection) :
    Lists files tmp path connection := by
  have room : path.length + 1 ≤ tmpSize := by
    rw [tmpSize]
    omega
  obtain ⟨copied, copies, shown⟩ := tmp.put_eq_ok 0 path (by omega)
  rw [Nat.zero_add, Block.segment_self, List.nil_append] at shown
  obtain ⟨slashed, slashes, stands⟩ := @put_behind copied path [47] shown room
  have copies : tmp.put 0 path = .ok copied := copies
  have plain : ∀ name ∈ (files.opendir path).getD [], 0 ∉ name := by
    cases found : files.opendir path with
    | none => exact fun _ mem => nomatch mem
    | some names => exact files.plain path names found
  have listed : Triple (SentBy connection.outgoing []) (doList files tmp path)
      (fun _ => SentBy connection.outgoing (response files path))
      (CutBy connection.outgoing (response files path)) := by
    rw [doList, copies, checked_bind, slashes, checked_bind, response]
    refine (sentBy_listLoop plainPath plain fits stands (List.prefix_append _ _)).bind fun _ => ?_
    exact sentBy_writex _ (List.prefix_refl _)
  obtain ⟨said, failed⟩ := listed ⟨connection, none⟩ ⟨rfl, (List.append_nil _).symm⟩
  cases result : (doList files tmp path ⟨connection, none⟩).1 with
  | none =>
      obtain ⟨clean, cut⟩ := failed result
      refine ⟨clean, fun returned => ?_, cut⟩
      rw [result] at returned
      exact nomatch returned
  | some value =>
      obtain ⟨clean, sent⟩ := said value result
      exact ⟨clean, fun _ => sent, sent.cut⟩

theorem io_writex_bind {Value : Type} {lister : Lister} (plain : lister.connection.writes = [])
    {bytes : List UInt8} {next : Unit → Program Lister Value} :
    (io (writex bytes) >>= next) lister =
      next () { lister with connection := { lister.connection with
        outgoing := lister.connection.outgoing ++ bytes } } := by
  rw [Program.bind_apply, io, writex_plain plain]

/-- Behind a path of 1024 bytes there is no room for a name of 256. -/
theorem fault_listLoop {names : List (List UInt8)} {name : List UInt8} (mem : name ∈ names)
    (length : name.length = 256) (tmp : Block UInt8 tmpSize) {lister : Lister}
    (plain : lister.connection.writes = []) :
    (listLoop files 1025 names tmp lister).1 = none ∧
      (listLoop files 1025 names tmp lister).2.fault = some .outOfBounds := by
  induction names generalizing tmp lister with
  | nil => exact nomatch mem
  | cons first names induction =>
      have later {first : List UInt8} (other : first.length ≠ 256) (mem : name ∈ first :: names) :
          name ∈ names :=
        (List.mem_cons.mp mem).resolve_left fun same => other (same ▸ length)
      rw [listLoop]
      by_cases long : 256 < first.length
      · rw [if_pos long]
        exact induction (later (by omega) mem) tmp plain
      · rw [if_neg long]
        by_cases full : first.length = 256
        · have outside : tmp.put (1025 : Nat) (first ++ [0]) = .error .outOfBounds := by
            obtain ⟨c, rest, rfl⟩ := List.exists_cons_of_length_pos (by omega : 0 < first.length)
            rw [List.cons_append, Block.put, if_pos (by omega)]
            refine dif_neg ?_
            rw [List.length_cons] at full
            rw [List.length_cons, List.length_append, List.length_singleton, tmpSize]
            omega
          rw [outside]
          exact ⟨rfl, rfl⟩
        · obtain ⟨stored, stores, -⟩ := tmp.put_eq_ok 1025 (first ++ [0])
            (by rw [List.length_append, List.length_singleton, tmpSize]; omega)
          rw [stores, checked_bind]
          cases files.lstat stored.text with
          | none => exact induction (later full mem) stored plain
          | some st =>
              dsimp only
              rw [io_writex_bind plain, io_writex_bind (by exact plain)]
              exact induction (later full mem) stored plain

theorem fault_doList (full : path.length = 1024) {name : List UInt8}
    (mem : name ∈ (files.opendir path).getD []) (length : name.length = 256)
    {tmp : Block UInt8 tmpSize} {connection : Connection} (plain : connection.writes = []) :
    (doList files tmp path ⟨connection, none⟩).2.fault = some .outOfBounds := by
  obtain ⟨copied, copies, -⟩ := tmp.put_eq_ok 0 path (by rw [tmpSize]; omega)
  obtain ⟨slashed, slashes, -⟩ := copied.put_eq_ok path.length [47]
    (by rw [List.length_singleton, tmpSize]; omega)
  have copies : tmp.put 0 path = .ok copied := copies
  obtain ⟨stopped, fault⟩ := @fault_listLoop files _ name mem length slashed
    ⟨connection, none⟩ plain
  rw [doList, copies, checked_bind, slashes, checked_bind, Program.bind_apply, full]
  cases ran : listLoop files 1025 ((files.opendir path).getD []) slashed ⟨connection, none⟩ with
  | mk result lister =>
      rw [ran] at stopped fault
      obtain rfl : result = none := stopped
      exact fault

/-- A listing is as it should be, whatever is in the buffer before and whatever becomes of the
connection, if and only if a path of 1024 bytes is not that of a directory with a name of 256. -/
theorem lists_iff {received : List UInt8} (namelen : received.length ≤ 1024) :
    (∀ tmp connection, Lists files tmp (requestPath received) connection) ↔
      ¬((requestPath received).length = 1024 ∧
        ∃ name ∈ (files.opendir (requestPath received)).getD [], name.length = 256) := by
  have plainPath : 0 ∉ requestPath received := by
    intro mem
    have nonzero := List.mem_takeWhile_imp mem
    exact absurd rfl (of_decide_eq_true nonzero)
  have short : (requestPath received).length ≤ 1024 :=
    (List.takeWhile_prefix _).length_le.trans namelen
  constructor
  · rintro lists ⟨full, name, mem, length⟩
    have clean := (lists (.zeros tmpSize) {}).1
    rw [fault_doList full mem length rfl] at clean
    exact nomatch clean
  · intro absent tmp connection
    refine lists_of_fits plainPath short (fun name mem bound => ?_) tmp connection
    by_contra exceeds
    rw [tmpSize] at exceeds
    exact absent ⟨by omega, name, mem, by omega⟩

/-- A directory with a single entry, which is an empty file. -/
def oneEntry (name : List UInt8) (plain : 0 ∉ name) : Files where
  opendir _ := some [name]
  lstat _ := some ⟨0o100644, 0, 0⟩
  plain _ names opened := by
    obtain rfl := Option.some.inj opened
    exact List.forall_mem_singleton.mpr plain

/-- A name of one byte. -/
theorem lists_iff_short :
    Lists (oneEntry [97] (by decide)) (.zeros tmpSize) (requestPath [47]) {} :=
  (@lists_iff (oneEntry [97] (by decide)) [47] (by decide)).mpr (by decide) (.zeros tmpSize) {}

theorem not_mem_replicate {count : Nat} : (0 : UInt8) ∉ List.replicate count 97 :=
  fun mem => absurd (List.eq_of_mem_replicate mem) (by decide)

/-- A path of 1024 bytes, and a name of 256. -/
theorem not_lists_full :
    ¬Lists (oneEntry (List.replicate 256 97) not_mem_replicate) (.zeros tmpSize)
      (requestPath (List.replicate 1024 97)) {} := by
  intro lists
  have clean := lists.1
  have full : (requestPath (List.replicate 1024 97)).length = 1024 := by
    rw [requestPath, List.takeWhile_replicate]
    exact List.length_replicate
  rw [fault_doList full (List.mem_singleton_self _) List.length_replicate rfl] at clean
  exact nomatch clean

end Listing

end Listing
end Sync
end AdbWide
