import AdbWide.Sync.Containment
import AdbWide.Sync.Requests

/-!
# Pushing what has changed

`copy_local_dir_remote` asks for the `STAT` of all files before it reads the first answer, and then
takes the answers in the order of the files.  A file is skipped if its size is the same, and if the
bits that both modes have in common are those of a regular file and the time is the same.
-/

namespace AdbWide
namespace Sync

open Program (Triple attempt stop)

/-! ## The code -/

/-- `copyinfo` of a local file. -/
structure LocalInfo where
  src : List UInt8
  dst : List UInt8
  time : UInt32
  mode : UInt32
  size : UInt32
  deriving DecidableEq, Repr

/-- `S_ISLNK` on this host. -/
def hostIsLnk (_ : UInt32) : Bool := false

/-- Whether the reply sets the flag of a file. -/
def keeps (ci : LocalInfo) (st : Stat) : Bool :=
  st.size = ci.size &&
    (isReg (ci.mode &&& st.mode) && st.time = ci.time ||
      hostIsLnk (ci.mode &&& st.mode) && ci.time ≤ st.time)

/-- The loop that writes the requests. -/
def startReadtimes : List LocalInfo → Program Client Unit
  | [] => pure ()
  | ci :: filelist => do
      syncStartReadtime ci.dst
      startReadtimes filelist

/-- The loop that reads the replies: the files with their flags. -/
def finishReadtimes : List LocalInfo → Program Client (List (LocalInfo × Bool))
  | [] => pure []
  | ci :: filelist => do
      let st ← syncFinishReadtime
      let later ← finishReadtimes filelist
      return (ci, keeps ci st) :: later

/-- What becomes of a file. -/
inductive Fate where
  | pushed
  | skipped
  /-- `sync_send` fails. -/
  | failed
  deriving DecidableEq, Repr

/-- The loop that pushes the files, up to the first that fails. -/
def pushLoop (pushes : Nat → PushCalls) (listonly : Bool) :
    Nat → List (LocalInfo × Bool) → Program Client (List Fate)
  | _, [] => pure []
  | index, (ci, flag) :: filelist => do
      if flag then
        let later ← pushLoop pushes listonly (index + 1) filelist
        return .skipped :: later
      else if listonly then
        let later ← pushLoop pushes listonly (index + 1) filelist
        return .pushed :: later
      else
        match ← attempt (syncSend (pushes index) ci.dst ci.time ci.mode false false) with
        | none => return [.failed]
        | some () =>
            let later ← pushLoop pushes listonly (index + 1) filelist
            return .pushed :: later

/-- What `copy_local_dir_remote` makes of the files. -/
structure PushedDir where
  /-- The files with their flags. -/
  filelist : List (LocalInfo × Bool)
  fates : List Fate

/-- `copy_local_dir_remote`; `build` is `local_build_list`, and the calls of each file are its own.
It returns zero if no file fails, and if the program gives up it returns something else before it
comes to the files. -/
def copyLocalDirRemote (build : List UInt8 → List UInt8 → Option (List LocalInfo))
    (pushes : Nat → PushCalls) (lpath rpath : List UInt8) (checktimestamps listonly : Bool) :
    Program Client PushedDir :=
  if lpath = [] ∨ rpath = [] then stop
  else
    match build (slashed lpath) (slashed rpath) with
    | none => stop
    | some filelist => do
        let filelist ←
          if checktimestamps then do
            startReadtimes filelist
            finishReadtimes filelist
          else pure (filelist.map fun ci => (ci, false))
        let fates ← pushLoop pushes listonly 0 filelist
        return ⟨filelist, fates⟩

/-! ## Conservative runs -/

/-- The reply to the request of a file. -/
structure RepliesTo (incoming : List UInt8) (i : Nat) (st : Stat) : Prop where
  enough : 16 * (i + 1) ≤ incoming.length
  id : wordOf (incoming.drop (16 * i)) = idStat
  mode : st.mode = wordOf (incoming.drop (16 * i + 4))
  size : st.size = wordOf (incoming.drop (16 * i + 8))
  time : st.time = wordOf (incoming.drop (16 * i + 12))

/-- What is on the device has the size of the local file, and is a regular file of the same time, or
a link that is not older than a local link. -/
def Unchanged (ci : LocalInfo) (st : Stat) : Prop :=
  st.size = ci.size ∧
    (isReg ci.mode ∧ isReg st.mode ∧ st.time = ci.time ∨
      isLnk ci.mode.toNat ∧ isLnk st.mode.toNat ∧ ci.time ≤ st.time)

/-- The requests are written in the order of the files, a file is skipped only if the reply to its
own request says that it is unchanged, and every other file is pushed, up to one that fails. -/
structure Conservative (filelist : List LocalInfo) (before after : Client) (copied : PushedDir) :
    Prop where
  files : copied.filelist.map Prod.fst = filelist
  asked : before.connection.outgoing ++ filelist.flatMap (fun ci => message idStat ci.dst) <+:
    after.connection.outgoing
  unchanged : ∀ i ci, copied.filelist[i]? = some (ci, true) →
    ∃ st, RepliesTo before.connection.incoming i st ∧ Unchanged ci st
  fates : ∀ (i : Nat) (fate : Fate), copied.fates[i]? = some fate → ∃ ci flag,
    copied.filelist[i]? = some (ci, flag) ∧ (fate = Fate.skipped ↔ flag = true)
  all : Fate.failed ∉ copied.fates → copied.fates.length = filelist.length

/-- What the reply reports is no regular file, and is taken for one: it has the size and the time of
the local file, and the bits that the modes have in common are those of a regular file. -/
def Mistaken (ci : LocalInfo) (st : Stat) : Prop :=
  st.size = ci.size ∧ st.time = ci.time ∧ isReg (ci.mode &&& st.mode) ∧
    ¬(isReg ci.mode ∧ isReg st.mode)

theorem keeps_iff (ci : LocalInfo) (st : Stat) :
    keeps ci st = true ↔ st.size = ci.size ∧ isReg (ci.mode &&& st.mode) ∧ st.time = ci.time := by
  simp [keeps, hostIsLnk]

section Modes

variable {mode mode' : UInt32}

theorem and_and_mask (mode mode' mask : UInt32) :
    mode &&& mode' &&& mask = (mode &&& mask) &&& (mode' &&& mask) := by
  rw [← UInt32.toBitVec_inj]
  simp only [UInt32.toBitVec_and]
  ext i
  simp only [BitVec.getElem_and]
  cases mode.toBitVec[i] <;> simp

theorem not_isReg_and_of_isLnk (link : isLnk mode.toNat = true) (link' : isLnk mode'.toNat = true) :
    ¬isReg (mode &&& mode') = true := by
  have bits {mode : UInt32} (link : isLnk mode.toNat = true) : mode &&& 0o170000 = 0o120000 := by
    have same := of_decide_eq_true link
    refine UInt32.toNat_inj.mp ?_
    rw [UInt32.toNat_and]
    exact same
  simp only [isReg, decide_eq_true_eq]
  rw [and_and_mask, bits link, bits link']
  decide

/-- What is taken for unchanged is so, or a mistake. -/
theorem unchanged_or_mistaken {ci : LocalInfo} {st : Stat} (kept : keeps ci st = true) :
    Unchanged ci st ∨ Mistaken ci st := by
  obtain ⟨size, common, time⟩ := (keeps_iff ci st).mp kept
  by_cases regular : isReg ci.mode = true ∧ isReg st.mode = true
  · exact .inl ⟨size, .inl ⟨regular.1, regular.2, time⟩⟩
  · exact .inr ⟨size, time, common, regular⟩

theorem keeps_of_mistaken {ci : LocalInfo} {st : Stat} (mistaken : Mistaken ci st) :
    keeps ci st = true := (keeps_iff ci st).mpr ⟨mistaken.1, mistaken.2.2.1, mistaken.2.1⟩

theorem not_unchanged_of_mistaken {ci : LocalInfo} {st : Stat} (mistaken : Mistaken ci st) :
    ¬Unchanged ci st := by
  obtain ⟨-, -, common, different⟩ := mistaken
  rintro ⟨-, ⟨regular, regular', -⟩ | ⟨link, link', -⟩⟩
  · exact different ⟨regular, regular'⟩
  · exact not_isReg_and_of_isLnk link link' common

end Modes

/-! ## The replies -/

section Replies

variable {client after : Client} {filelist : List LocalInfo}

theorem RepliesTo.unique {incoming : List UInt8} {i : Nat} {st st' : Stat}
    (replies : RepliesTo incoming i st) (replies' : RepliesTo incoming i st') : st = st' := by
  cases st
  cases st'
  simp only [Stat.mk.injEq]
  exact ⟨replies.mode.trans replies'.mode.symm, replies.size.trans replies'.size.symm,
    replies.time.trans replies'.time.symm⟩

/-- Behind the first reply come the others. -/
theorem RepliesTo.succ {incoming : List UInt8} {i : Nat} {st : Stat} :
    RepliesTo (incoming.drop 16) i st ↔ 16 ≤ incoming.length ∧ RepliesTo incoming (i + 1) st := by
  have place (offset : Nat) :
      (incoming.drop 16).drop (16 * i + offset) = incoming.drop (16 * (i + 1) + offset) := by
    rw [List.drop_drop]
    congr 1
    omega
  have start := place 0
  rw [Nat.add_zero, Nat.add_zero] at start
  constructor
  · rintro ⟨enough, id, mode, size, time⟩
    rw [List.length_drop] at enough
    rw [start] at id
    rw [place] at mode size time
    exact ⟨by omega, by omega, id, mode, size, time⟩
  · rintro ⟨-, enough, id, mode, size, time⟩
    refine ⟨by rw [List.length_drop]; omega, ?_, ?_, ?_, ?_⟩
    · rwa [start]
    · rwa [place]
    · rwa [place]
    · rwa [place]

/-- A word inside what comes first. -/
theorem wordOf_drop_append {record : List UInt8} {offset : Nat}
    (inside : offset + 4 ≤ record.length) (rest : List UInt8) :
    wordOf ((record ++ rest).drop offset) = wordOf (record.drop offset) := by
  have enough : 4 ≤ (record.drop offset).length := by
    rw [List.length_drop]
    omega
  rw [List.drop_append_of_le_length (by omega), ← wordOf_take enough, List.take_left]

/-- A reply is read from the front. -/
theorem syncFinishReadtime_some {st : Stat}
    (ran : syncFinishReadtime client = (some st, after)) :
    RepliesTo client.connection.incoming 0 st ∧
      after.connection.incoming = client.connection.incoming.drop 16 ∧
        after.connection.outgoing = client.connection.outgoing := by
  rw [syncFinishReadtime, Program.bind_apply, io_apply] at ran
  cases read : readx 16 client.connection with
  | mk result left =>
      rw [read] at ran
      cases result with
      | none => exact absurd (congrArg Prod.fst ran) (Option.some_ne_none st).symm
      | some record =>
          obtain ⟨split, outgoing, -⟩ := readx_split read
          have size := length_of_readx read
          have dropped : client.connection.incoming.drop 16 = left.incoming := by
            rw [split, ← size, List.drop_left]
          dsimp only at ran
          by_cases isStat : wordOf record = idStat
          · rw [if_pos isStat] at ran
            obtain ⟨some_eq, after_eq⟩ := Prod.mk.inj ran
            obtain rfl := Option.some.inj some_eq
            rw [← after_eq]
            refine ⟨⟨?_, ?_, ?_, ?_, ?_⟩, dropped.symm, outgoing⟩
            · rw [split, List.length_append]
              omega
            · rw [split, wordOf_drop_append (by omega)]
              exact isStat
            · rw [split, wordOf_drop_append (by omega)]
            · rw [split, wordOf_drop_append (by omega)]
            · rw [split, wordOf_drop_append (by omega)]
          · rw [if_neg isStat] at ran
            exact absurd (congrArg Prod.fst ran) (Option.some_ne_none st).symm

/-- The replies are taken in the order of the files. -/
theorem finishReadtimes_some {checked : List (LocalInfo × Bool)}
    (ran : finishReadtimes filelist client = (some checked, after)) :
    checked.map Prod.fst = filelist ∧
      after.connection.outgoing = client.connection.outgoing ∧
      ∀ i ci flag, checked[i]? = some (ci, flag) →
        ∃ st, RepliesTo client.connection.incoming i st ∧ flag = keeps ci st := by
  induction filelist generalizing client checked with
  | nil =>
      obtain ⟨checked_eq, rfl⟩ := Prod.mk.inj ran
      obtain rfl := Option.some.inj checked_eq
      exact ⟨rfl, rfl, by simp⟩
  | cons ci filelist induction =>
      rw [finishReadtimes, Program.bind_apply] at ran
      cases first : syncFinishReadtime client with
      | mk result middle =>
          rw [first] at ran
          cases result with
          | none => exact nomatch congrArg Prod.fst ran
          | some st =>
              dsimp only at ran
              rw [Program.bind_apply] at ran
              cases rest : finishReadtimes filelist middle with
              | mk result last =>
                  rw [rest] at ran
                  cases result with
                  | none => exact nomatch congrArg Prod.fst ran
                  | some later =>
                      obtain ⟨checked_eq, rfl⟩ := Prod.mk.inj ran
                      obtain rfl := Option.some.inj checked_eq
                      obtain ⟨replies, incoming, outgoing⟩ := syncFinishReadtime_some first
                      obtain ⟨files, outgoing', flags⟩ := induction rest
                      refine ⟨by rw [List.map_cons, files], outgoing'.trans outgoing, ?_⟩
                      intro i other flag found
                      cases i with
                      | zero =>
                          obtain ⟨rfl, rfl⟩ := Prod.mk.inj (Option.some.inj found)
                          exact ⟨st, replies, rfl⟩
                      | succ i =>
                          obtain ⟨st, replies, flag_eq⟩ := flags i other flag found
                          rw [incoming] at replies
                          exact ⟨st, (RepliesTo.succ.mp replies).2, flag_eq⟩

theorem incoming_syncStartReadtime (path : List UInt8) (client : Client) :
    (syncStartReadtime path client).2.connection.incoming = client.connection.incoming := by
  rw [syncStartReadtime, Program.bind_apply]
  cases first : io (writex (pair idStat (.ofNat path.length))) client with
  | mk result middle =>
      have kept : middle.connection.incoming = client.connection.incoming :=
        congrArg (fun out => out.2.connection.incoming) first.symm
      cases result with
      | none => exact kept
      | some value => exact kept

/-- The requests are written in the order of the files. -/
theorem startReadtimes_some {value : Unit}
    (ran : startReadtimes filelist client = (some value, after)) :
    after.connection.outgoing = client.connection.outgoing ++
        filelist.flatMap (fun ci => message idStat ci.dst) ∧
      after.connection.incoming = client.connection.incoming := by
  induction filelist generalizing client with
  | nil =>
      obtain ⟨-, rfl⟩ := Prod.mk.inj ran
      simp
  | cons ci filelist induction =>
      rw [startReadtimes, Program.bind_apply] at ran
      cases first : syncStartReadtime ci.dst client with
      | mk result middle =>
          rw [first] at ran
          cases result with
          | none => exact nomatch congrArg Prod.fst ran
          | some value =>
              obtain ⟨outgoing, incoming⟩ := induction ran
              have asked := @sent_syncStartReadtime client.connection.outgoing [] ci.dst [] client
                (List.append_nil _).symm
              rw [first] at asked
              have sent : middle.connection.outgoing = _ := asked.1 value rfl
              have kept := incoming_syncStartReadtime ci.dst client
              rw [first] at kept
              refine ⟨?_, incoming.trans kept⟩
              rw [outgoing, sent, List.flatMap_cons, List.nil_append, List.append_assoc]

end Replies

/-! ## The files -/

section Files

variable {client : Client} {pushes : Nat → PushCalls} {listonly : Bool}

/-- What becomes of files goes by their flags. -/
structure Follows (filelist : List (LocalInfo × Bool)) (fates : List Fate) : Prop where
  flags : ∀ (i : Nat) (fate : Fate), fates[i]? = some fate → ∃ ci flag,
    filelist[i]? = some (ci, flag) ∧ (fate = Fate.skipped ↔ flag = true)
  all : Fate.failed ∉ fates → fates.length = filelist.length

theorem Follows.cons {filelist : List (LocalInfo × Bool)} {fates : List Fate}
    (follows : Follows filelist fates) (ci : LocalInfo) {flag : Bool} {fate : Fate}
    (own : fate = Fate.skipped ↔ flag = true) :
    Follows ((ci, flag) :: filelist) (fate :: fates) := by
  refine ⟨fun i other found => ?_, fun none => ?_⟩
  · cases i with
    | zero =>
        obtain rfl := Option.some.inj found
        exact ⟨ci, flag, rfl, own⟩
    | succ i => exact follows.flags i other found
  · rw [List.mem_cons, not_or] at none
    rw [List.length_cons, List.length_cons, follows.all none.2]

theorem Follows.failed (filelist : List (LocalInfo × Bool)) (ci : LocalInfo) :
    Follows ((ci, false) :: filelist) [.failed] := by
  refine ⟨fun i fate found => ?_, fun none => absurd (List.mem_singleton_self _) none⟩
  cases i with
  | zero =>
      obtain rfl := Option.some.inj found
      exact ⟨ci, false, rfl, by decide⟩
  | succ i => exact nomatch found

/-- Writing does not take back what was written. -/
theorem prefix_syncSend (calls : PushCalls) (rpath : List UInt8) (mtime mode : UInt32)
    (verifyApk showProgress : Bool) (client : Client) :
    client.connection.outgoing <+:
      (syncSend calls rpath mtime mode verifyApk showProgress client).2.connection.outgoing := by
  rw [outgoing_syncSend]
  by_cases checked : 1024 < rpath.length ∨ verifyApk = true ∧ loadApk calls = none
  · rw [sendAll, if_pos checked]
    exact List.prefix_refl _
  · obtain ⟨out, -, grown, -⟩ := writes_sendAll checked mtime showProgress client.connection
    rw [grown]
    exact List.prefix_append _ _

theorem run_cons (program : Program Client (List Fate)) (fate : Fate) (client : Client) :
    (do
      let later ← program
      return fate :: later : Program Client (List Fate)) client =
        ((program client).1.map (fate :: ·), (program client).2) := by
  rw [Program.bind_apply]
  cases ran : program client with
  | mk result after => cases result <;> rfl

/-- The loop comes to an end, and every file goes the way of its flag. -/
theorem pushLoop_spec (index : Nat) (filelist : List (LocalInfo × Bool)) (client : Client) :
    ∃ fates, (pushLoop pushes listonly index filelist client).1 = some fates ∧
      Follows filelist fates ∧ client.connection.outgoing <+:
        (pushLoop pushes listonly index filelist client).2.connection.outgoing := by
  induction filelist generalizing index client with
  | nil => exact ⟨[], rfl, ⟨by simp, fun _ => rfl⟩, List.prefix_refl _⟩
  | cons file filelist induction =>
      obtain ⟨ci, flag⟩ := file
      rw [pushLoop]
      cases flag with
      | true =>
          obtain ⟨fates, ran, follows, grown⟩ := induction (index + 1) client
          refine ⟨.skipped :: fates, ?_, follows.cons ci (by simp), ?_⟩
          · rw [if_pos rfl, run_cons, ran]
            rfl
          · rwa [if_pos rfl, run_cons]
      | false =>
          cases listonly with
          | true =>
              obtain ⟨fates, ran, follows, grown⟩ := induction (index + 1) client
              refine ⟨.pushed :: fates, ?_, follows.cons ci (by simp), ?_⟩
              · rw [if_neg (by simp), if_pos rfl, run_cons, ran]
                rfl
              · rwa [if_neg (by simp), if_pos rfl, run_cons]
          | false =>
              have sent := prefix_syncSend (pushes index) ci.dst ci.time ci.mode false false client
              rw [if_neg (by simp), if_neg (by simp), Program.bind_apply, attempt]
              cases pushed : syncSend (pushes index) ci.dst ci.time ci.mode false false client with
              | mk result middle =>
                  rw [pushed] at sent
                  cases result with
                  | none => exact ⟨[.failed], rfl, .failed filelist ci, sent⟩
                  | some value =>
                      obtain ⟨fates, ran, follows, grown⟩ := induction (index + 1) middle
                      refine ⟨.pushed :: fates, ?_, follows.cons ci (by simp), ?_⟩
                      · dsimp only
                        rw [run_cons, ran]
                        rfl
                      · dsimp only
                        rw [run_cons]
                        exact sent.trans grown

end Files

/-! ## Incremental pushes -/

section Incremental

variable {build : List UInt8 → List UInt8 → Option (List LocalInfo)} {pushes : Nat → PushCalls}
  {lpath rpath : List UInt8} {listonly : Bool} {client after : Client}
  {filelist : List LocalInfo} {copied : PushedDir}

/-- What a run that comes to the files has done. -/
theorem copyLocalDirRemote_some (built : build (slashed lpath) (slashed rpath) = some filelist)
    (ran : copyLocalDirRemote build pushes lpath rpath true listonly client =
      (some copied, after)) :
    copied.filelist.map Prod.fst = filelist ∧ Follows copied.filelist copied.fates ∧
      client.connection.outgoing ++ filelist.flatMap (fun ci => message idStat ci.dst) <+:
        after.connection.outgoing ∧
      ∀ (i : Nat) ci flag, copied.filelist[i]? = some (ci, flag) →
        ∃ st, RepliesTo client.connection.incoming i st ∧ flag = keeps ci st := by
  rw [copyLocalDirRemote] at ran
  split at ran
  · exact nomatch congrArg Prod.fst ran
  · rw [built] at ran
    dsimp only at ran
    rw [if_pos rfl, Program.bind_apply] at ran
    cases asks : startReadtimes filelist client with
    | mk result middle =>
        rw [asks] at ran
        cases result with
        | none => exact nomatch congrArg Prod.fst ran
        | some value =>
            dsimp only at ran
            rw [Program.bind_apply] at ran
            cases reads : finishReadtimes filelist middle with
            | mk result last =>
                rw [reads] at ran
                cases result with
                | none => exact nomatch congrArg Prod.fst ran
                | some checked =>
                    dsimp only at ran
                    obtain ⟨outgoing, incoming⟩ := startReadtimes_some asks
                    obtain ⟨files, outgoing', replies⟩ := finishReadtimes_some reads
                    obtain ⟨fates, pushed, follows, grown⟩ :=
                      @pushLoop_spec pushes listonly 0 checked last
                    rw [Program.bind_apply] at ran
                    cases runs : pushLoop pushes listonly 0 checked last with
                    | mk result final =>
                        rw [runs] at ran pushed grown
                        obtain rfl : result = some fates := pushed
                        obtain ⟨copied_eq, rfl⟩ := Prod.mk.inj ran
                        obtain rfl := Option.some.inj copied_eq
                        rw [incoming] at replies
                        refine ⟨files, follows, ?_, replies⟩
                        rwa [outgoing', outgoing] at grown

/-- A run is conservative if and only if no reply is mistaken for that of an unchanged file. -/
theorem conservative_iff (built : build (slashed lpath) (slashed rpath) = some filelist)
    (ran : copyLocalDirRemote build pushes lpath rpath true listonly client =
      (some copied, after)) :
    Conservative filelist client after copied ↔
      ∀ (i : Nat) ci st, filelist[i]? = some ci → RepliesTo client.connection.incoming i st →
        ¬Mistaken ci st := by
  obtain ⟨files, follows, asked, flags⟩ := copyLocalDirRemote_some built ran
  constructor
  · intro conservative i ci st file replies mistaken
    rw [← files, List.getElem?_map] at file
    obtain ⟨⟨ci, flag⟩, found, rfl⟩ := Option.map_eq_some_iff.mp file
    obtain ⟨st', replies', flag_eq⟩ := flags i ci flag found
    obtain rfl := replies.unique replies'
    rw [keeps_of_mistaken mistaken] at flag_eq
    rw [flag_eq] at found
    obtain ⟨st', replies', unchanged⟩ := conservative.unchanged i ci found
    obtain rfl := replies.unique replies'
    exact not_unchanged_of_mistaken mistaken unchanged
  · intro sound
    refine ⟨files, asked, fun i ci found => ?_, follows.flags, fun none => ?_⟩
    · obtain ⟨st, replies, kept⟩ := flags i ci true found
      have file : filelist[i]? = some ci := by
        rw [← files, List.getElem?_map, found]
        rfl
      have sound := sound i ci st file replies
      exact ⟨st, replies, (unchanged_or_mistaken kept.symm).resolve_right sound⟩
    · rw [follows.all none, ← files, List.length_map]

/-- A regular file of three bytes. -/
def sampleFile : LocalInfo := ⟨[97], [98], 5, 0o100644, 3⟩

/-- The list with this file only. -/
def sampleList (_ _ : List UInt8) : Option (List LocalInfo) := some [sampleFile]

/-- A device that has something of its size and its time. -/
def replying (mode : UInt32) : Client where
  connection := { incoming := statRecord idStat ⟨mode, 3, 5⟩ }

/-- The words of a record of `STAT`. -/
theorem wordOf_statRecord (id : UInt32) (st : Stat) :
    wordOf (statRecord id st) = id ∧ wordOf ((statRecord id st).drop 4) = st.mode ∧
      wordOf ((statRecord id st).drop 8) = st.size ∧
        wordOf ((statRecord id st).drop 12) = st.time := by
  rw [statRecord, List.append_assoc, List.append_assoc]
  exact ⟨wordOf_wordBytes_append _ _, wordOf_wordBytes_append _ _, wordOf_wordBytes_append _ _,
    wordOf_wordBytes _⟩

theorem repliesTo_replying (mode : UInt32) :
    RepliesTo (replying mode).connection.incoming 0 ⟨mode, 3, 5⟩ := by
  obtain ⟨id, mode', size, time⟩ := wordOf_statRecord idStat ⟨mode, 3, 5⟩
  exact ⟨Nat.le_refl 16, id, mode'.symm, size.symm, time.symm⟩

/-- A regular file is skipped. -/
theorem conservative_iff_regular :
    ∃ after, copyLocalDirRemote sampleList (fun _ => { content := [] }) [108] [114] true false
        (replying 0o100644) =
          (some ⟨[(sampleFile, true)], [.skipped]⟩, after) ∧
      Conservative [sampleFile] (replying 0o100644) after ⟨[(sampleFile, true)], [.skipped]⟩ := by
  have built : sampleList (slashed [108]) (slashed [114]) = some [sampleFile] := rfl
  obtain ⟨after, ran⟩ : ∃ after, copyLocalDirRemote sampleList (fun _ => { content := [] }) [108]
      [114] true false (replying 0o100644) = (some ⟨[(sampleFile, true)], [.skipped]⟩, after) :=
    ⟨_, rfl⟩
  refine ⟨after, ran, (conservative_iff built ran).mpr fun i ci st file replies mistaken => ?_⟩
  cases i with
  | zero =>
      obtain rfl := Option.some.inj file
      obtain rfl := replies.unique (repliesTo_replying 0o100644)
      exact mistaken.2.2.2 (by decide)
  | succ i => exact nomatch file

/-- A link with the size and the time of the file is taken for it. -/
theorem not_conservative_link :
    ∃ after, copyLocalDirRemote sampleList (fun _ => { content := [] }) [108] [114] true false
        (replying 0o120777) =
          (some ⟨[(sampleFile, true)], [.skipped]⟩, after) ∧
      ¬Conservative [sampleFile] (replying 0o120777) after
        ⟨[(sampleFile, true)], [.skipped]⟩ := by
  refine ⟨_, rfl, fun conservative => ?_⟩
  obtain ⟨st, replies, unchanged⟩ := conservative.unchanged 0 sampleFile rfl
  obtain rfl := replies.unique (repliesTo_replying 0o120777)
  exact not_unchanged_of_mistaken ⟨rfl, rfl, by decide, by decide⟩ unchanged

end Incremental

end Sync
end AdbWide
