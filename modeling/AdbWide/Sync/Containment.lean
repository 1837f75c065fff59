import AdbWide.PathResolution
import AdbWide.Sync.Pull

/-!
# Pulling a directory

`remote_build_list` joins the names of a device's listings to paths, and `copy_remote_dir_local`
pulls every file to one of them.  Only directories called `.` and `..` are left out, and `adb_creat`
puts a slash in the place of the third character of a path before it opens it.  This file says for
which directories and listings every path that is opened is strictly inside the directory.
-/

namespace AdbWide
namespace Sync

open Wire (Connection)
open Program (Triple stop)
open PathResolution (Inside Route)
open Sockets.Server (ascii cString)

/-! ## The list of files -/

/-- `copyinfo`, as far as it is used. -/
structure CopyInfo where
  src : List UInt8
  dst : List UInt8
  deriving DecidableEq, Repr

/-- `mkcopyinfo`. -/
def mkcopyinfo (spath dpath name : List UInt8) (isdir : Bool) : CopyInfo :=
  ⟨spath ++ name ++ if isdir then [47] else [], dpath ++ name ++ if isdir then [47] else []⟩

/-- `S_ISDIR`. -/
def isDir (mode : UInt32) : Bool := mode &&& 0o170000 = 0o040000

/-- `sync_ls_build_list_cb`, with the lists of files and of directories; on this host `S_ISLNK` is
zero. -/
def syncLsBuildListCb (rpath lpath : List UInt8) (lists : List CopyInfo × List CopyInfo)
    (dent : Dent) : List CopyInfo × List CopyInfo :=
  if isDir dent.mode then
    if dent.name = [46] ∨ dent.name = [46, 46] then lists
    else (lists.1, mkcopyinfo rpath lpath dent.name true :: lists.2)
  else if isReg dent.mode then (mkcopyinfo rpath lpath dent.name false :: lists.1, lists.2)
  else lists

/-- The loop of `remote_build_list`. -/
def buildDirs (build : List CopyInfo → List UInt8 → List UInt8 → Program Client (List CopyInfo)) :
    List CopyInfo → List CopyInfo → Program Client (List CopyInfo)
  | filelist, [] => pure filelist
  | filelist, dir :: dirlist => do
      let filelist ← build filelist dir.src dir.dst
      buildDirs build filelist dirlist

/-- `remote_build_list`, with the list of files when it returns zero; each round makes the remote
path longer, and `sync_ls` does not take more than 1024 bytes. -/
def remoteBuildList : Nat → List CopyInfo → List UInt8 → List UInt8 →
    Program Client (List CopyInfo)
  | 0, _, _, _ => stop
  | fuel + 1, filelist, rpath, lpath => do
      let dents ← syncLs rpath
      let lists := dents.foldl (syncLsBuildListCb rpath lpath) (filelist, [])
      buildDirs (remoteBuildList fuel) lists.1 lists.2

theorem length_lt_of_mem_dirs {rpath lpath : List UInt8} {dents : List Dent}
    {lists : List CopyInfo × List CopyInfo}
    (longer : ∀ dir ∈ lists.2, rpath.length < dir.src.length) :
    ∀ dir ∈ (dents.foldl (syncLsBuildListCb rpath lpath) lists).2,
      rpath.length < dir.src.length := by
  induction dents generalizing lists with
  | nil => exact longer
  | cons dent dents induction =>
      refine induction fun dir member => ?_
      rw [syncLsBuildListCb] at member
      split at member
      · split at member
        · exact longer dir member
        · rcases List.mem_cons.mp member with rfl | member
          · simp only [mkcopyinfo, if_true, List.length_append, List.length_singleton]
            omega
          · exact longer dir member
      · split at member
        · exact longer dir member
        · exact longer dir member

/-- There are enough rounds: the last one meets a path that is too long. -/
theorem remoteBuildList_rounds {fuel : Nat} {rpath : List UInt8}
    (enough : 1025 ≤ fuel + rpath.length) (filelist : List CopyInfo) (lpath : List UInt8) :
    remoteBuildList (fuel + 1) filelist rpath lpath =
      remoteBuildList fuel filelist rpath lpath := by
  induction fuel generalizing rpath filelist lpath with
  | zero =>
      have long : syncLs rpath = stop := by rw [syncLs, if_pos (by omega)]
      rw [remoteBuildList, remoteBuildList, long]
      rfl
  | succ fuel induction =>
      have loop (filelist dirs : List CopyInfo)
          (longer : ∀ dir ∈ dirs, rpath.length < dir.src.length) :
          buildDirs (remoteBuildList (fuel + 1)) filelist dirs =
            buildDirs (remoteBuildList fuel) filelist dirs := by
        induction dirs generalizing filelist with
        | nil => rfl
        | cons dir dirs later =>
            rw [List.forall_mem_cons] at longer
            rw [buildDirs, buildDirs, induction (by omega)]
            exact congrArg _ (funext fun files => later files longer.2)
      rw [remoteBuildList, remoteBuildList]
      refine congrArg _ (funext fun dents => loop _ _ ?_)
      exact length_lt_of_mem_dirs fun _ member => by cases member

/-- The loop of `copy_remote_dir_local`; the calls of each file are its own. -/
def pullFiles (host : Host) (calls : Nat → PullCalls) : Nat → List CopyInfo → Program Client Unit
  | _, [] => pure ()
  | index, ci :: files => do
      syncRecv host (calls index) ci.src ci.dst false
      pullFiles host calls (index + 1) files

/-- A directory path ends in a slash. -/
def slashed (path : List UInt8) : List UInt8 :=
  if path.getLast? = some 47 then path else path ++ [47]

/-- `copy_remote_dir_local`. -/
def copyRemoteDirLocal (host : Host) (calls : Nat → PullCalls) (rpath lpath : List UInt8) :
    Program Client Unit :=
  if rpath = [] ∨ lpath = [] then stop
  else do
    let files ← remoteBuildList 1025 [] (slashed rpath) (slashed lpath)
    pullFiles host calls 0 files

/-! ## What a device lists -/

/-- The entries of one listing, and what follows it. -/
def readDents : Nat → List UInt8 → Option (List Dent × List UInt8)
  | 0, _ => none
  | fuel + 1, stream =>
      if stream.length < 20 then none
      else if wordOf stream = idDone then some ([], stream.drop 20)
      else if wordOf stream = idDent then
        if 256 < asInt (wordOf (stream.drop 16)) ∨
            stream.length < 20 + (wordOf (stream.drop 16)).toNat then none
        else
          (readDents fuel (stream.drop (20 + (wordOf (stream.drop 16)).toNat))).map fun later =>
            (⟨wordOf (stream.drop 4), wordOf (stream.drop 8), wordOf (stream.drop 12),
              cString ((stream.drop 20).take (wordOf (stream.drop 16)).toNat)⟩ :: later.1, later.2)
      else none

section Dents

variable {fuel : Nat} {stream : List UInt8}

theorem readDents_done (enough : 20 ≤ stream.length) (isDone : wordOf stream = idDone) :
    readDents (fuel + 1) stream = some ([], stream.drop 20) := by
  rw [readDents, if_neg (by omega), if_pos isDone]

theorem readDents_dent (isDent : wordOf stream = idDent)
    (short : ¬256 < asInt (wordOf (stream.drop 16)))
    (carried : 20 + (wordOf (stream.drop 16)).toNat ≤ stream.length) :
    readDents (fuel + 1) stream =
      (readDents fuel (stream.drop (20 + (wordOf (stream.drop 16)).toNat))).map fun later =>
        (⟨wordOf (stream.drop 4), wordOf (stream.drop 8), wordOf (stream.drop 12),
          cString ((stream.drop 20).take (wordOf (stream.drop 16)).toNat)⟩ :: later.1,
        later.2) := by
  rw [readDents, if_neg (by omega), isDent, if_neg (by decide), if_pos rfl,
    if_neg (not_or.mpr ⟨short, by omega⟩)]

end Dents

/-- The files of a listing. -/
def regulars (rpath path : List UInt8) (dents : List Dent) : List CopyInfo :=
  (dents.filter fun dent => !isDir dent.mode && isReg dent.mode).map
    fun dent => mkcopyinfo rpath path dent.name false

/-- The directories of a listing. -/
def subdirs (rpath path : List UInt8) (dents : List Dent) : List CopyInfo :=
  (dents.filter fun dent => isDir dent.mode && dent.name ≠ [46] && dent.name ≠ [46, 46]).map
    fun dent => mkcopyinfo rpath path dent.name true

/-- The files in some directories, which are listed one after the other. -/
def foundIn (found : List UInt8 → List UInt8 → List UInt8 → Option (List CopyInfo × List UInt8)) :
    List CopyInfo → List UInt8 → Option (List CopyInfo × List UInt8)
  | [], stream => some ([], stream)
  | dir :: dirs, stream =>
      (found dir.src dir.dst stream).bind fun here =>
        (foundIn found dirs here.2).map fun later => (here.1 ++ later.1, later.2)

/-- The files that a device lists below a directory, with their paths from there, and what
follows the listings. -/
def found : Nat → List UInt8 → List UInt8 → List UInt8 → Option (List CopyInfo × List UInt8)
  | 0, _, _, _ => none
  | fuel + 1, rpath, path, stream =>
      if 1024 < rpath.length then none
      else
        (readDents (stream.length + 1) stream).bind fun listed =>
          (foundIn (found fuel) (subdirs rpath path listed.1).reverse listed.2).map fun later =>
            (regulars rpath path listed.1 ++ later.1, later.2)

/-- The same file below another directory. -/
def CopyInfo.under (dir : List UInt8) (ci : CopyInfo) : CopyInfo := ⟨ci.src, dir ++ ci.dst⟩

theorem mkcopyinfo_under (rpath dir path name : List UInt8) (isdir : Bool) :
    mkcopyinfo rpath (dir ++ path) name isdir = (mkcopyinfo rpath path name isdir).under dir := by
  simp only [mkcopyinfo, CopyInfo.under, List.append_assoc]

theorem foldl_syncLsBuildListCb (rpath dir path : List UInt8) (dents : List Dent)
    (lists : List CopyInfo × List CopyInfo) :
    dents.foldl (syncLsBuildListCb rpath (dir ++ path)) lists =
      (((regulars rpath path dents).map (·.under dir)).reverse ++ lists.1,
        ((subdirs rpath path dents).map (·.under dir)).reverse ++ lists.2) := by
  induction dents generalizing lists with
  | nil => rfl
  | cons dent dents induction =>
      rw [List.foldl_cons, induction, syncLsBuildListCb]
      by_cases directory : isDir dent.mode
      · by_cases dots : dent.name = [46] ∨ dent.name = [46, 46]
        · rcases dots with dots | dots
          · simp [directory, dots, regulars, subdirs]
          · simp [directory, dots, regulars, subdirs]
        · obtain ⟨one, two⟩ := not_or.mp dots
          simp [directory, one, two, regulars, subdirs, mkcopyinfo_under]
      · by_cases regular : isReg dent.mode
        · simp [directory, regular, regulars, subdirs, mkcopyinfo_under]
        · simp [directory, regular, regulars, subdirs]

/-! ## Building the list -/

/-- The paths that have been opened. -/
def Opened (paths : List WPath) (client : Client) : Prop := client.opened = paths

section Lists

variable {paths : List WPath} {stream rest : List UInt8} {fail : Client → Prop}

theorem offline_opened : Offline (Opened paths) := fun _ _ opened => opened

theorem opened_note (access : Access) :
    Triple (Reads (Opened paths) stream) (note access) (fun _ => Reads (Opened paths) stream)
      fail :=
  triple_note fun _ opened => opened

theorem opened_readBuffer (capacity : Nat) (len : UInt32) :
    Triple (Reads (Opened paths) stream) (readBuffer capacity (asInt len))
      (Came (Opened paths) stream len.toNat) (Opened paths) := by
  rw [readBuffer, asSize_asInt]
  exact (opened_note _).bind fun _ => triple_readx offline_opened len.toNat

/-- What `sync_ls` returns was listed. -/
theorem listed_lsLoop (fuel : Nat) :
    Triple (Reads (Opened paths) stream) (lsLoop fuel)
      (fun dents client => ∃ rest, readDents fuel stream = some (dents, rest) ∧
        Reads (Opened paths) rest client) (Opened paths) := by
  induction fuel generalizing stream with
  | zero => exact .stop fun _ reads => reads.1
  | succ fuel induction =>
      rw [lsLoop]
      refine (triple_readx offline_opened 20).bind fun record => .assume fun came => ?_
      obtain ⟨enough, rfl⟩ := came
      simp only [List.drop_take]
      rw [wordOf_take (by omega), wordOf_take (by omega), wordOf_take (by omega),
        wordOf_take (by omega), wordOf_take (by omega)]
      split
      · next isDone => exact .pure fun _ reads => ⟨_, readDents_done enough isDone, reads⟩
      · split
        · next isDent =>
          split
          · exact .stop fun _ reads => reads.1
          · next short =>
              refine (opened_readBuffer 257 _).bind fun name => .assume fun came => ?_
              obtain ⟨carried, rfl⟩ := came
              rw [List.length_drop] at carried
              refine (opened_note _).bind fun _ => ?_
              rw [List.drop_drop]
              refine induction.bind fun later => .choose fun rest => .assume fun listed => ?_
              rw [readDents_dent isDent short (by omega), listed]
              exact .pure fun _ reads => ⟨rest, rfl, reads⟩
        · exact .stop fun _ reads => reads.1

theorem listed_syncLs (rpath : List UInt8) :
    Triple (Reads (Opened paths) stream) (syncLs rpath)
      (fun dents client => ∃ rest, (¬1024 < rpath.length ∧
        readDents (stream.length + 1) stream = some (dents, rest)) ∧
          Reads (Opened paths) rest client) (Opened paths) := by
  rw [syncLs]
  split
  · exact .stop fun _ reads => reads.1
  · next short =>
      refine (triple_writex offline_opened _).bind fun _ => ?_
      refine (triple_writex offline_opened _).bind fun _ => ?_
      refine triple_rounds lsLoop ((listed_lsLoop _).mono (fun _ reads => reads)
        (fun dents client listed => ?_) fun _ opened => opened)
      obtain ⟨rest, listed, reads⟩ := listed
      exact ⟨rest, ⟨short, listed⟩, reads⟩

/-- What `remote_build_list` returns was found. -/
theorem found_remoteBuildList (fuel : Nat) (filelist : List CopyInfo)
    (rpath dir path : List UInt8) :
    Triple (Reads (Opened paths) stream) (remoteBuildList fuel filelist rpath (dir ++ path))
      (fun files client => ∃ result, (found fuel rpath path stream = some result ∧
        files = (result.1.map (·.under dir)).reverse ++ filelist) ∧
          Reads (Opened paths) result.2 client) (Opened paths) := by
  induction fuel generalizing filelist rpath path stream with
  | zero => exact .stop fun _ reads => reads.1
  | succ fuel induction =>
      -- The directories of one listing, one after the other.
      have loop (dirs : List CopyInfo) (stream : List UInt8) (filelist : List CopyInfo) :
          Triple (Reads (Opened paths) stream)
            (buildDirs (remoteBuildList fuel) filelist (dirs.map (·.under dir)))
            (fun files client => ∃ result, (foundIn (found fuel) dirs stream = some result ∧
              files = (result.1.map (·.under dir)).reverse ++ filelist) ∧
                Reads (Opened paths) result.2 client) (Opened paths) := by
        induction dirs generalizing stream filelist with
        | nil => exact .pure fun _ reads => ⟨([], stream), ⟨rfl, rfl⟩, reads⟩
        | cons subdir dirs later =>
            rw [List.map_cons, buildDirs, foundIn]
            refine (induction filelist subdir.src subdir.dst).bind fun files =>
              .choose fun here => .assume fun first => ?_
            obtain ⟨here_eq, rfl⟩ := first
            refine (later here.2 _).mono (fun _ reads => reads) (fun files client said => ?_)
              fun _ opened => opened
            obtain ⟨result, ⟨result_eq, rfl⟩, reads⟩ := said
            refine ⟨(here.1 ++ result.1, result.2), ⟨?_, ?_⟩, reads⟩
            · rw [here_eq, Option.bind_some, result_eq, Option.map_some]
            · rw [List.map_append, List.reverse_append, List.append_assoc]
      rw [remoteBuildList]
      refine (listed_syncLs rpath).bind fun dents => .choose fun rest => .assume fun listed => ?_
      obtain ⟨short, listed⟩ := listed
      have dirs : ((subdirs rpath path dents).map (·.under dir)).reverse =
          (subdirs rpath path dents).reverse.map (·.under dir) := List.map_reverse.symm
      rw [foldl_syncLsBuildListCb, List.append_nil, dirs]
      refine (loop _ rest _).mono (fun _ reads => reads) (fun files client said => ?_)
        fun _ opened => opened
      obtain ⟨result, ⟨result_eq, rfl⟩, reads⟩ := said
      refine ⟨(regulars rpath path dents ++ result.1, result.2), ⟨?_, ?_⟩, reads⟩
      · rw [found, if_neg short, listed, Option.bind_some, result_eq, Option.map_some]
      · rw [List.map_append, List.reverse_append, List.append_assoc]

theorem plain_opened_note (access : Access) :
    Triple (Plain (Opened paths) stream) (note access) (fun _ => Plain (Opened paths) stream)
      fail :=
  plain_note fun _ opened => opened

theorem plain_opened_readBuffer (capacity : Nat) {len : UInt32}
    (enough : len.toNat ≤ stream.length) :
    Triple (Plain (Opened paths) stream) (readBuffer capacity (asInt len))
      (fun bytes client => bytes = stream.take len.toNat ∧
        Plain (Opened paths) (stream.drop len.toNat) client) fail := by
  rw [readBuffer, asSize_asInt]
  exact (plain_opened_note _).bind fun _ => plain_readx offline_opened enough

theorem plain_listed_lsLoop (fuel : Nat) {listed : List Dent × List UInt8}
    (lists : readDents fuel stream = some listed) :
    Triple (Plain (Opened paths) stream) (lsLoop fuel)
      (fun dents client => dents = listed.1 ∧ Plain (Opened paths) listed.2 client) fail := by
  induction fuel generalizing stream listed with
  | zero => cases lists
  | succ fuel induction =>
      rw [lsLoop]
      rw [readDents] at lists
      split at lists
      · cases lists
      · next enough =>
          refine (plain_readx offline_opened (Nat.not_lt.mp enough)).bind fun record =>
            .assume fun record_eq => ?_
          obtain rfl := record_eq
          simp only [List.drop_take]
          rw [wordOf_take (by omega), wordOf_take (by omega), wordOf_take (by omega),
            wordOf_take (by omega), wordOf_take (by omega)]
          split at lists
          · next isDone =>
              obtain rfl := Option.some.inj lists
              rw [if_pos isDone]
              exact .pure fun _ plain => ⟨rfl, plain⟩
          · next notDone =>
              rw [if_neg notDone]
              split at lists
              · next isDent =>
                  rw [if_pos isDent]
                  split at lists
                  · cases lists
                  · next fits =>
                      obtain ⟨short, carried⟩ := not_or.mp fits
                      obtain ⟨later, laterLists, rfl⟩ := Option.map_eq_some_iff.mp lists
                      rw [if_neg short]
                      refine (plain_opened_readBuffer 257 (by rw [List.length_drop]; omega)).bind
                        fun name => .assume fun name_eq => ?_
                      obtain rfl := name_eq
                      refine (plain_opened_note _).bind fun _ => ?_
                      rw [List.drop_drop]
                      refine (induction laterLists).bind fun dents => .assume fun dents_eq => ?_
                      obtain rfl := dents_eq
                      exact .pure fun _ plain => ⟨rfl, plain⟩
              · cases lists

theorem plain_listed_syncLs {rpath : List UInt8} (short : ¬1024 < rpath.length)
    {listed : List Dent × List UInt8} (lists : readDents (stream.length + 1) stream = some listed) :
    Triple (Plain (Opened paths) stream) (syncLs rpath)
      (fun dents client => dents = listed.1 ∧ Plain (Opened paths) listed.2 client) fail := by
  rw [syncLs, if_neg short]
  refine (plain_writex offline_opened _).bind fun _ => ?_
  refine (plain_writex offline_opened _).bind fun _ => ?_
  exact plain_rounds lsLoop (plain_listed_lsLoop _ lists)

/-- Where nothing fails, what can be found is found. -/
theorem plain_remoteBuildList (fuel : Nat) (filelist : List CopyInfo) (rpath dir path : List UInt8)
    {result : List CopyInfo × List UInt8} (finds : found fuel rpath path stream = some result) :
    Triple (Plain (Opened paths) stream) (remoteBuildList fuel filelist rpath (dir ++ path))
      (fun files client => files = (result.1.map (·.under dir)).reverse ++ filelist ∧
        Plain (Opened paths) result.2 client) fail := by
  induction fuel generalizing filelist rpath path stream result with
  | zero => cases finds
  | succ fuel induction =>
      have loop (dirs : List CopyInfo) (stream : List UInt8) (filelist : List CopyInfo)
          {result : List CopyInfo × List UInt8}
          (finds : foundIn (found fuel) dirs stream = some result) :
          Triple (Plain (Opened paths) stream)
            (buildDirs (remoteBuildList fuel) filelist (dirs.map (·.under dir)))
            (fun files client => files = (result.1.map (·.under dir)).reverse ++ filelist ∧
              Plain (Opened paths) result.2 client) fail := by
        induction dirs generalizing stream filelist result with
        | nil =>
            obtain rfl := Option.some.inj finds
            exact .pure fun _ plain => ⟨rfl, plain⟩
        | cons subdir dirs later =>
            obtain ⟨here, first, finds⟩ := Option.bind_eq_some_iff.mp finds
            obtain ⟨last, lastFinds, rfl⟩ := Option.map_eq_some_iff.mp finds
            rw [List.map_cons, buildDirs]
            refine (induction filelist subdir.src subdir.dst first).bind fun files =>
              .assume fun files_eq => ?_
            obtain rfl := files_eq
            rw [List.map_append, List.reverse_append, List.append_assoc]
            exact later here.2 _ lastFinds
      rw [found] at finds
      split at finds
      · cases finds
      · next short =>
          obtain ⟨listed, lists, finds⟩ := Option.bind_eq_some_iff.mp finds
          obtain ⟨last, lastFinds, rfl⟩ := Option.map_eq_some_iff.mp finds
          rw [remoteBuildList]
          refine (plain_listed_syncLs short lists).bind fun dents => .assume fun dents_eq => ?_
          obtain rfl := dents_eq
          have dirs : ((subdirs rpath path listed.1).map (·.under dir)).reverse =
              (subdirs rpath path listed.1).reverse.map (·.under dir) := List.map_reverse.symm
          rw [foldl_syncLsBuildListCb, List.append_nil, dirs, List.map_append, List.reverse_append,
            List.append_assoc]
          exact loop _ listed.2 _ lastFinds

end Lists

/-! ## Pulling the files -/

/-- A program opens only paths of some kind. -/
def OpensOnly {Value : Type} (allowed : WPath → Prop) (program : Program Client Value) :
    Prop :=
  ∀ client, ∀ path ∈ (program client).2.opened, path ∈ client.opened ∨ allowed path

section Pulls

variable {allowed : WPath → Prop} {host : Host} {calls : PullCalls} {lpath : List UInt8}

theorem OpensOnly.bind {Value Value' : Type} {program : Program Client Value}
    {next : Value → Program Client Value'} (first : OpensOnly allowed program)
    (second : ∀ value, OpensOnly allowed (next value)) : OpensOnly allowed (program >>= next) := by
  intro client path member
  have before := first client
  rw [Program.bind_apply] at member
  cases ran : program client with
  | mk result middle =>
      rw [ran] at before member
      cases result with
      | none => exact before path member
      | some value =>
          rcases second value middle path member with there | now
          · exact before path there
          · exact .inr now

theorem opensOnly_pure {Value : Type} (value : Value) :
    OpensOnly allowed (pure value : Program Client Value) := fun _ _ => .inl

theorem opensOnly_stop {Value : Type} : OpensOnly allowed (stop : Program Client Value) :=
  fun _ _ => .inl

theorem opensOnly_io {Value : Type} (program : Program Connection Value) :
    OpensOnly allowed (io program) := fun _ _ => .inl

theorem opensOnly_note (access : Access) : OpensOnly allowed (note access) := fun _ _ => .inl

theorem opensOnly_onDisk (change : (WPath → Option (List UInt8)) → WPath → Option (List UInt8)) :
    OpensOnly allowed (onDisk change) := fun _ _ => .inl

theorem opensOnly_noteOpened {path : WPath} (here : allowed path) :
    OpensOnly allowed (noteOpened path) := by
  intro client other member
  rcases List.mem_append.mp member with before | now
  · exact .inl before
  · rw [List.mem_singleton.mp now]
    exact .inr here

theorem opensOnly_readBuffer (capacity : Nat) (len : Int) :
    OpensOnly allowed (readBuffer capacity len) :=
  (opensOnly_note _).bind fun _ => opensOnly_io _

theorem opensOnly_remoteError (id size : UInt32) :
    OpensOnly allowed (remoteError host calls lpath id size) := by
  rw [remoteError]
  refine (opensOnly_onDisk _).bind fun _ => ?_
  split
  · exact (opensOnly_readBuffer _ _).bind fun _ => opensOnly_note _
  · exact opensOnly_note _

theorem opensOnly_handleData (file : WPath) (fuel index : Nat) (header : List UInt8) :
    OpensOnly allowed (handleData host calls lpath file fuel index header) := by
  induction fuel generalizing index header with
  | zero => exact opensOnly_stop
  | succ fuel induction =>
      rw [handleData]
      split
      · exact opensOnly_pure _
      · split
        · split
          · exact opensOnly_stop
          · refine (opensOnly_readBuffer _ _).bind fun data => ?_
            split
            · refine (opensOnly_onDisk _).bind fun _ => ?_
              exact (opensOnly_io _).bind fun header => induction _ _
            · exact opensOnly_stop
        · exact opensOnly_remoteError _ _

theorem opensOnly_beginPull (here : ∀ path, opened host lpath = some path → allowed path) :
    OpensOnly allowed (beginPull host calls lpath) := by
  rw [beginPull]
  refine (opensOnly_onDisk _).bind fun _ => ?_
  split
  · exact opensOnly_stop
  · next str str_eq =>
      refine (opensOnly_note _).bind fun _ => ?_
      rw [adbCreat]
      split
      · exact opensOnly_stop
      · next path path_eq =>
          have opens : opened host lpath = some path := by
            rw [opened, str_eq, Option.bind_some, path_eq]
          split
          · refine (opensOnly_onDisk _).bind fun _ => ?_
            exact (opensOnly_noteOpened (here path opens)).bind fun _ => opensOnly_pure _
          · exact opensOnly_stop

theorem opensOnly_askStat (rpath : List UInt8) (showProgress : Bool) :
    OpensOnly allowed (askStat rpath showProgress) := by
  cases showProgress with
  | false => exact opensOnly_pure _
  | true =>
      rw [askStat]
      refine (opensOnly_io _).bind fun _ => ?_
      refine (opensOnly_io _).bind fun _ => ?_
      refine (opensOnly_io _).bind fun record => ?_
      split
      · exact opensOnly_pure _
      · exact opensOnly_stop

/-- `sync_recv` opens what `adb_creat` makes of its local path, and nothing for a remote path that
is too long. -/
theorem opensOnly_syncRecv {rpath : List UInt8} (showProgress : Bool)
    (here : rpath.length ≤ 1024 → ∀ path, opened host lpath = some path → allowed path) :
    OpensOnly allowed (syncRecv host calls rpath lpath showProgress) := by
  rw [syncRecv]
  split
  · exact opensOnly_stop
  · next short =>
      refine (opensOnly_askStat rpath showProgress).bind fun _ => ?_
      refine (opensOnly_io _).bind fun _ => ?_
      refine (opensOnly_io _).bind fun _ => ?_
      refine (opensOnly_io _).bind fun header => ?_
      rw [receive]
      split
      · refine (opensOnly_beginPull (here (Nat.not_lt.mp short))).bind fun file => ?_
        exact fun client => opensOnly_handleData file _ 0 header client
      · exact opensOnly_remoteError _ _

end Pulls

/-- The files up to the first one whose remote path is too long. -/
def reachable (files : List CopyInfo) : List CopyInfo :=
  files.takeWhile fun ci => ci.src.length ≤ 1024

theorem opensOnly_pullFiles (host : Host) (calls : Nat → PullCalls) (index : Nat)
    (files : List CopyInfo) :
    OpensOnly (fun path => ∃ ci ∈ reachable files, opened host ci.dst = some path)
      (pullFiles host calls index files) := by
  induction files generalizing index with
  | nil => exact opensOnly_pure _
  | cons ci files induction =>
      rw [pullFiles, reachable]
      by_cases short : ci.src.length ≤ 1024
      · rw [List.takeWhile_cons_of_pos (by simpa using short)]
        have here : ∀ path, opened host ci.dst = some path →
            ∃ other ∈ ci :: files.takeWhile fun ci => ci.src.length ≤ 1024,
              opened host other.dst = some path :=
          fun path opens => ⟨ci, List.mem_cons_self, opens⟩
        refine (opensOnly_syncRecv false fun _ => here).bind fun _ client path member => ?_
        rcases induction (index + 1) client path member with before | ⟨other, among, same⟩
        · exact .inl before
        · exact .inr ⟨other, List.mem_cons_of_mem _ among, same⟩
      · rw [syncRecv, if_pos (by omega)]
        exact fun _ _ => .inl

/-- The answer for a local path: an empty file if the path can be opened, and otherwise a message
that `sync_recv` does not know. -/
def briefly (host : Host) (lpath : List UInt8) : List UInt8 :=
  pair (if (opened host lpath).isSome then idDone else 0) 0

section Briefly

variable {host : Host} {paths : List WPath} {stream : List UInt8} {fail : Client → Prop}

theorem plain_opened_onDisk
    (change : (WPath → Option (List UInt8)) → WPath → Option (List UInt8)) :
    Triple (Plain (Opened paths) stream) (onDisk change) (fun _ => Plain (Opened paths) stream)
      fail :=
  plain_onDisk fun _ opened => opened

theorem opens_beginPull {lpath : List UInt8} {path : WPath}
    (opens : opened host lpath = some path) :
    Triple (Plain (Opened paths) stream) (beginPull host {} lpath)
      (fun _ => Plain (Opened (paths ++ [path])) stream) fail := by
  obtain ⟨str, str_eq, path_eq⟩ := eq_of_opened opens
  have noted : Triple (Plain (Opened paths) stream) (noteOpened path)
      (fun _ => Plain (Opened (paths ++ [path])) stream) fail := by
    rintro client ⟨before, plain⟩
    refine ⟨fun _ _ => ⟨?_, plain⟩, fun gave_up => by cases gave_up⟩
    exact congrArg (· ++ [path]) before
  rw [beginPull]
  refine (plain_opened_onDisk _).bind fun _ => ?_
  rw [str_eq]
  refine (plain_opened_note _).bind fun _ => ?_
  rw [adbCreat, path_eq]
  refine (plain_opened_onDisk _).bind fun _ => ?_
  exact noted.bind fun _ => .pure fun _ plain => plain

theorem opens_receive (lpath : List UInt8) :
    Triple (Plain (Opened paths) stream) (receive host {} lpath (briefly host lpath))
      (fun _ => Plain (Opened (paths ++ (opened host lpath).toList)) stream) fail := by
  rw [briefly]
  cases opens : opened host lpath with
  | none =>
      have unknown : wordOf (pair 0 0) = 0 := rfl
      rw [Option.isSome_none, if_neg Bool.false_ne_true, receive, unknown, if_neg (by decide),
        remoteError, if_neg (by decide), Option.toList_none, List.append_nil]
      exact (plain_opened_onDisk _).bind fun _ => plain_opened_note _
  | some path =>
      have isDone : wordOf (pair idDone 0) = idDone := rfl
      rw [Option.isSome_some, if_pos rfl, receive, if_pos (.inr isDone)]
      refine (opens_beginPull opens).bind fun file => ?_
      refine plain_rounds (fun fuel => handleData host {} lpath file fuel 0 (pair idDone 0)) ?_
      rw [handleData, if_pos isDone]
      exact .pure fun _ plain => plain

theorem opens_syncRecv {rpath : List UInt8} (short : rpath.length ≤ 1024) (lpath : List UInt8) :
    Triple (Plain (Opened paths) (briefly host lpath ++ stream))
      (syncRecv host {} rpath lpath false)
      (fun _ => Plain (Opened (paths ++ (opened host lpath).toList)) stream) fail := by
  have length : (briefly host lpath).length = 8 := length_pair _ _
  refine plain_answer offline_opened false short ?_ ?_
  · rw [afterStat, List.length_append, length]
    omega
  · have header : (afterStat (briefly host lpath ++ stream) false).take 8 = briefly host lpath :=
      List.take_left' length
    have left : (afterStat (briefly host lpath ++ stream) false).drop 8 = stream :=
      List.drop_left' length
    rw [header, left]
    exact opens_receive lpath

/-- If every file is answered, all those that can be asked for and opened are opened. -/
theorem opens_pullFiles (index : Nat) (files : List CopyInfo) (paths : List WPath) :
    Triple (Plain (Opened paths) (files.flatMap fun ci => briefly host ci.dst))
      (pullFiles host (fun _ => {}) index files)
      (fun _ => Opened (paths ++ (reachable files).flatMap fun ci => (opened host ci.dst).toList))
      (Opened (paths ++ (reachable files).flatMap fun ci => (opened host ci.dst).toList)) := by
  induction files generalizing index paths with
  | nil =>
      rw [reachable, List.takeWhile_nil, List.flatMap_nil, List.flatMap_nil, List.append_nil]
      exact .pure fun _ plain => plain.1
  | cons ci files induction =>
      rw [pullFiles, reachable]
      by_cases short : ci.src.length ≤ 1024
      · rw [List.takeWhile_cons_of_pos (by simpa using short), List.flatMap_cons, List.flatMap_cons,
          ← List.append_assoc]
        exact (opens_syncRecv short ci.dst).bind fun _ => induction (index + 1) _
      · rw [List.takeWhile_cons_of_neg (by simpa using short), List.flatMap_nil, List.append_nil,
          syncRecv, if_pos (by omega)]
        intro client plain
        exact ⟨fun _ returned => (by cases returned), fun _ => plain.1⟩

end Briefly

/-! ## Containment -/

/-- Both separators end a name. -/
def isSlash (unit : UInt16) : Bool := unit = 47 || unit = 92

/-- What a path denotes, seen from some directory. -/
def location (base : PathResolution.Location UInt16) (path : WPath) :
    PathResolution.Location UInt16 :=
  PathResolution.resolve 46 isSlash base path

/-- A path without its detours. -/
def route (path : WPath) : Route UInt16 := PathResolution.route 46 isSlash path

/-- A device goes on with some bytes. -/
def Client.answered (client : Client) (answers : List UInt8) : Client :=
  { client with connection := { client.connection with incoming := answers } }

section Containment

variable (host : Host) (lpath rpath stream : List UInt8)

/-- Whatever a device answers after its listings, every path that `CreateFileW` opens in a pull
into a directory denotes something strictly inside it. -/
def Contained : Prop :=
  ¬(rpath = [] ∨ lpath = []) →
    ∀ (calls : Nat → PullCalls) (client : Client) (files : List CopyInfo) (listed : Client)
      (answers : List UInt8) (base : PathResolution.Location UInt16),
      client.connection.incoming = stream → client.opened = [] →
      remoteBuildList 1025 [] (slashed rpath) (slashed lpath) client = (some files, listed) →
      ∀ path ∈ (pullFiles host calls 0 files (listed.answered answers)).2.opened,
        Inside (location base (host.utf8ToUnicode lpath)) (location base path)

/-- The path of each file that can be asked for and opened, with its third character replaced, goes
on from the directory: it climbs no further, goes down through the same names, and then through one
more at least. -/
def Confined : Prop :=
  ¬(rpath = [] ∨ lpath = []) →
    ∀ result, found 1025 (slashed rpath) [] stream = some result →
      ∀ ci ∈ reachable result.1.reverse, ∀ path, opened host (slashed lpath ++ ci.dst) = some path →
        (route (host.utf8ToUnicode lpath)).Within (route path)

variable {host lpath rpath stream}

/-- The list of `copy_remote_dir_local`. -/
theorem found_fileList (rpath lpath : List UInt8) :
    Triple (Reads (Opened []) stream) (remoteBuildList 1025 [] (slashed rpath) (slashed lpath))
      (fun files client => ∃ result, (found 1025 (slashed rpath) [] stream = some result ∧
        files = (result.1.map (·.under (slashed lpath))).reverse) ∧
          Reads (Opened []) result.2 client) (Opened []) := by
  have built : Triple (Reads (Opened []) stream)
      (remoteBuildList 1025 [] (slashed rpath) (slashed lpath ++ [])) _ _ :=
    found_remoteBuildList 1025 [] (slashed rpath) (slashed lpath) []
  rw [List.append_nil] at built
  refine built.mono (fun _ reads => reads) (fun files client said => ?_) fun _ unopened => unopened
  simpa only [List.append_nil] using said

theorem reachable_under (dir : List UInt8) (files : List CopyInfo) :
    reachable (files.map (·.under dir)) = (reachable files).map (·.under dir) := by
  rw [reachable, reachable, List.takeWhile_map]
  rfl

theorem contained_of_confined (confined : Confined host lpath rpath stream) :
    Contained host lpath rpath stream := by
  intro nonempty calls client files listed answers base incoming unopened ran path member
  have said := (found_fileList rpath lpath client ⟨unopened, incoming⟩).1 files (by rw [ran])
  rw [ran] at said
  obtain ⟨result, ⟨finds, rfl⟩, unopened', -⟩ := said
  rw [← List.map_reverse] at member
  rcases opensOnly_pullFiles host calls 0 _ _ path member with before | ⟨ci, among, opens⟩
  · have none : (listed.answered answers).opened = [] := unopened'
    rw [none] at before
    cases before
  · rw [reachable_under] at among
    obtain ⟨found, wasFound, rfl⟩ := List.mem_map.mp among
    have within := confined nonempty result finds found wasFound path opens
    exact (PathResolution.forall_inside_iff 97).mpr within base

theorem confined_of_contained (contained : Contained host lpath rpath stream) :
    Confined host lpath rpath stream := by
  intro nonempty result finds ci among path opens
  let files := (result.1.map (·.under (slashed lpath))).reverse
  have plain : Triple (Plain (Opened []) stream)
      (remoteBuildList 1025 [] (slashed rpath) (slashed lpath ++ [])) _ fun _ => False :=
    plain_remoteBuildList 1025 [] (slashed rpath) (slashed lpath) [] finds
  rw [List.append_nil, List.append_nil] at plain
  obtain ⟨returned, failed⟩ := plain { connection := { incoming := stream } } ⟨rfl, rfl, rfl, rfl⟩
  cases ran : remoteBuildList 1025 [] (slashed rpath) (slashed lpath)
      { connection := { incoming := stream } } with
  | mk outcome listed =>
      rw [ran] at returned failed
      cases outcome with
      | none => exact (failed rfl).elim
      | some built =>
          obtain ⟨rfl, unopened, reads, writes, -⟩ := returned built rfl
          let answers := files.flatMap fun ci => briefly host ci.dst
          have answered : Plain (Opened []) answers (listed.answered answers) :=
            ⟨unopened, reads, writes, rfl⟩
          have pulled := (opens_pullFiles 0 files []).always answered
          have reached : reachable files = (reachable result.1.reverse).map
              (·.under (slashed lpath)) := by
            rw [← reachable_under, List.map_reverse]
          refine (PathResolution.forall_inside_iff 97).mp fun base => ?_
          refine contained nonempty (fun _ => {}) _ files listed answers base rfl rfl ran path ?_
          rw [pulled, List.nil_append]
          refine List.mem_flatMap.mpr ⟨ci.under (slashed lpath), ?_, ?_⟩
          · rw [reached]
            exact List.mem_map_of_mem among
          · exact Option.mem_toList.mpr opens

/-- In particular the paths of a whole run. -/
theorem Contained.copyRemoteDirLocal (contained : Contained host lpath rpath stream)
    (calls : Nat → PullCalls) {client : Client} (incoming : client.connection.incoming = stream)
    (unopened : client.opened = []) (base : PathResolution.Location UInt16) :
    ∀ path ∈ (copyRemoteDirLocal host calls rpath lpath client).2.opened,
      Inside (location base (host.utf8ToUnicode lpath)) (location base path) := by
  intro path member
  rw [Sync.copyRemoteDirLocal] at member
  split at member
  · rw [Program.stop_apply, unopened] at member
    cases member
  · next nonempty =>
      rw [Program.bind_apply] at member
      cases ran : remoteBuildList 1025 [] (slashed rpath) (slashed lpath) client with
      | mk outcome listed =>
          rw [ran] at member
          cases outcome with
          | none =>
              have none_opened :=
                (found_fileList rpath lpath client ⟨unopened, incoming⟩).2 (by rw [ran])
              rw [ran] at none_opened
              rw [none_opened] at member
              cases member
          | some files =>
              exact contained nonempty calls client files listed listed.connection.incoming base
                incoming unopened ran path member

/-! ### Directories whose third character is a separator -/

/-- A slash stays a slash, whatever is decoded before and behind it. -/
structure Host.Decodes (host : Host) : Prop where
  nil : host.utf8ToUnicode [] = []
  slash : ∀ dir name, host.utf8ToUnicode (dir ++ 47 :: name) =
    host.utf8ToUnicode dir ++ 47 :: host.utf8ToUnicode name

theorem route_replaceThird {path path' : WPath} (rooted : (path.map separator)[2]? = some 47)
    (replaced : replaceThird 47 path = some path') : route path' = route path := by
  rcases path with _ | ⟨first, _ | ⟨second, _ | ⟨third, path⟩⟩⟩
  · cases rooted
  · cases rooted
  · cases rooted
  · obtain rfl := Option.some.inj replaced
    have slash : isSlash third = true := by
      have same : separator third = 47 := Option.some.inj rooted
      rw [separator] at same
      split at same
      · next backslash => rw [backslash]; rfl
      · rw [same]; rfl
    exact PathResolution.route_append_cons rfl slash [first, second] path

theorem slashed_eq (lpath : List UInt8) :
    ∃ dir, slashed lpath = dir ++ [47] ∧ (lpath = dir ∨ lpath = dir ++ [47]) := by
  rw [slashed]
  split
  · next ends =>
      obtain ⟨dir, rfl⟩ := List.getLast?_eq_some_iff.mp ends
      exact ⟨dir, rfl, .inr rfl⟩
  · exact ⟨lpath, rfl, .inl rfl⟩

/-- It is enough there that the names on the way to each file never climb above the directory, and
end below it. -/
theorem confined_of_level (decodes : host.Decodes) (rooted : Rooted host (slashed lpath))
    (level : ∀ result, found 1025 (slashed rpath) [] stream = some result →
      ∀ ci ∈ reachable result.1.reverse, (route (host.utf8ToUnicode ci.dst)).ups = 0 ∧
        (route (host.utf8ToUnicode ci.dst)).names ≠ []) :
    Confined host lpath rpath stream := by
  intro _ result finds ci among path opens
  obtain ⟨-, -, replaced⟩ := eq_of_opened opens
  obtain ⟨dir, slashed_dir, ends⟩ := slashed_eq lpath
  obtain ⟨stays, deeper⟩ := level result finds ci among
  have whole : host.utf8ToUnicode (slashed lpath ++ ci.dst) =
      host.utf8ToUnicode dir ++ 47 :: host.utf8ToUnicode ci.dst := by
    rw [slashed_dir, List.append_assoc]
    exact decodes.slash dir ci.dst
  have here : route (host.utf8ToUnicode lpath) = route (host.utf8ToUnicode dir) := by
    rcases ends with rfl | rfl
    · rfl
    · rw [decodes.slash, decodes.nil, route, PathResolution.route,
        List.splitOnP_append_cons _ _ rfl, List.foldl_append]
      rfl
  have third : ((host.utf8ToUnicode (slashed lpath ++ ci.dst)).map separator)[2]? = some 47 := by
    rw [Rooted, slashed_dir, decodes.slash, decodes.nil] at rooted
    rw [whole, List.append_cons, List.map_append]
    have enough := (List.getElem?_eq_some_iff.mp rooted).1
    rwa [List.getElem?_append_left enough]
  rw [here, route_replaceThird third replaced, whole]
  exact PathResolution.within_append 97 rfl _ stays deeper

/-- For every host, every local directory, every remote path and every listing: all paths that a
pull opens are strictly inside the directory if and only if the listing is confined to it. -/
theorem contained_iff_confined (host : Host) (lpath rpath stream : List UInt8) :
    Contained host lpath rpath stream ↔ Confined host lpath rpath stream :=
  ⟨confined_of_contained, contained_of_confined⟩

end Containment

theorem contained_iff_confined_two :
    Contained asciiHost (ascii "C:/d") (ascii "/r") (dentRecord idDent ⟨0o040755, 0, 0⟩ 1 ++
      ascii "s" ++ dentRecord idDent ⟨0o100644, 0, 0⟩ 3 ++ ascii "..x" ++
      dentRecord idDone ⟨0, 0, 0⟩ 0 ++ dentRecord idDent ⟨0o100644, 0, 0⟩ 6 ++ ascii "a/../b" ++
      dentRecord idDone ⟨0, 0, 0⟩ 0) := by
  have decodes : asciiHost.Decodes :=
    ⟨rfl, fun _ _ => List.map_append⟩
  have rooted : Rooted asciiHost (slashed (ascii "C:/d")) := by
    rw [Rooted]
    with_unfolding_all decide
  refine (contained_iff_confined _ _ _ _).mpr (confined_of_level decodes rooted ?_)
  intro result finds ci among
  have listed : found 1025 (slashed (ascii "/r")) [] (dentRecord idDent ⟨0o040755, 0, 0⟩ 1 ++
      ascii "s" ++ dentRecord idDent ⟨0o100644, 0, 0⟩ 3 ++ ascii "..x" ++
      dentRecord idDone ⟨0, 0, 0⟩ 0 ++ dentRecord idDent ⟨0o100644, 0, 0⟩ 6 ++ ascii "a/../b" ++
      dentRecord idDone ⟨0, 0, 0⟩ 0) =
        some ([⟨ascii "/r/..x", ascii "..x"⟩, ⟨ascii "/r/s/a/../b", ascii "s/a/../b"⟩], []) := by
    with_unfolding_all decide
  obtain rfl := Option.some.inj (listed.symm.trans finds)
  have level : ∀ ci ∈ reachable [⟨ascii "/r/s/a/../b", ascii "s/a/../b"⟩,
      ⟨ascii "/r/..x", ascii "..x"⟩], (route (asciiHost.utf8ToUnicode ci.dst)).ups = 0 ∧
        (route (asciiHost.utf8ToUnicode ci.dst)).names ≠ [] := by
    with_unfolding_all decide
  exact level ci among

/-- A file that is listed and can be asked for is not opened strictly inside. -/
theorem not_contained_of_listed {host : Host} {lpath rpath stream : List UInt8} {ci : CopyInfo}
    (path : WPath) (nonempty : ¬(rpath = [] ∨ lpath = []))
    (finds : found 1025 (slashed rpath) [] stream = some ([ci], []))
    (short : ci.src.length ≤ 1024) (opens : opened host (slashed lpath ++ ci.dst) = some path)
    (beside : ¬(route (host.utf8ToUnicode lpath)).Within (route path)) :
    ¬Contained host lpath rpath stream := by
  intro contained
  refine beside (confined_of_contained contained nonempty _ finds ci ?_ path opens)
  rw [List.reverse_singleton, reachable, List.takeWhile_cons_of_pos (by simpa using short)]
  exact List.mem_cons_self

/-- A regular file may be called `../x`: it is opened beside the local directory.  And where the
third character belongs to a name, `x../evil` is as bad. -/
theorem listing_not_contained :
    ¬Contained asciiHost (ascii "C:/d") (ascii "/r") (dentRecord idDent ⟨0o100644, 0, 0⟩ 4 ++
        ascii "../x" ++ dentRecord idDone ⟨0, 0, 0⟩ 0) ∧
      ¬Contained asciiHost (ascii "a") (ascii "/r") (dentRecord idDent ⟨0o100644, 0, 0⟩ 8 ++
        ascii "x../evil" ++ dentRecord idDone ⟨0, 0, 0⟩ 0) := by
  have fromDrive : found 1025 (slashed (ascii "/r")) [] (dentRecord idDent ⟨0o100644, 0, 0⟩ 4 ++
      ascii "../x" ++ dentRecord idDone ⟨0, 0, 0⟩ 0) =
        some ([⟨ascii "/r/../x", ascii "../x"⟩], []) := by
    with_unfolding_all decide
  have fromShort : found 1025 (slashed (ascii "/r")) [] (dentRecord idDent ⟨0o100644, 0, 0⟩ 8 ++
      ascii "x../evil" ++ dentRecord idDone ⟨0, 0, 0⟩ 0) =
        some ([⟨ascii "/r/x../evil", ascii "x../evil"⟩], []) := by
    with_unfolding_all decide
  constructor
  · refine not_contained_of_listed ("C:/d/../x".toList.map fun c => c.toNat.toUInt16)
      ?_ fromDrive ?_ ?_ ?_
    · with_unfolding_all decide
    · with_unfolding_all decide
    · with_unfolding_all decide
    · with_unfolding_all decide
  · refine not_contained_of_listed ("a//../evil".toList.map fun c => c.toNat.toUInt16)
      ?_ fromShort ?_ ?_ ?_
    · with_unfolding_all decide
    · with_unfolding_all decide
    · with_unfolding_all decide
    · with_unfolding_all decide

end Sync
end AdbWide
