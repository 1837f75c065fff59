import AdbWide.Sync.Rules

/-!
# The buffers of the sync client

A length field has 32 bits and is kept in an `int`, of which only the upper bound is checked.  This
file says which fields of what a device sends are used as lengths, and that the buffers are safe
exactly if none of them has its top bit set.
-/

namespace AdbWide
namespace Sync

open Wire (Connection)
open Program (Emits Triple attempt stop)

/-- Reads and terminators stay inside the buffer. -/
def Access.Within : Access → Prop
  | .request capacity size => size ≤ capacity
  | .terminate capacity index => 0 ≤ index ∧ index < capacity
  | .copy _ _ => True

/-- Nothing outside the buffers was asked for. -/
def Client.Safe (client : Client) : Prop := ∀ access ∈ client.accesses, access.Within

/-! ## Lengths in what a device sends -/

/-- The lengths of the names in a listing, up to the one that ends it. -/
def nameLengths : Nat → List UInt8 → List UInt32
  | 0, _ => []
  | fuel + 1, stream =>
      if 20 ≤ stream.length ∧ wordOf stream = idDent then
        let len := wordOf (stream.drop 16)
        len :: if len.toNat ≤ 256 then nameLengths fuel (stream.drop (20 + len.toNat)) else []
      else []

/-- The lengths in the messages of a transfer, up to the one that ends it. -/
def dataLengths : Nat → List UInt8 → List UInt32
  | 0, _ => []
  | fuel + 1, stream =>
      if 8 ≤ stream.length then
        let len := wordOf (stream.drop 4)
        if wordOf stream = idData then
          len :: if len.toNat ≤ syncDataMax then dataLengths fuel (stream.drop (8 + len.toNat))
            else []
        else if wordOf stream = idFail then [len]
        else []
      else []

/-- The lengths in the answer to `sync_recv`. -/
def pullLengths (stream : List UInt8) : List UInt32 := dataLengths (stream.length - 7) stream

/-- The length in a status. -/
def statusLengths (stream : List UInt8) : List UInt32 :=
  if 8 ≤ stream.length ∧ wordOf stream = idFail then [wordOf (stream.drop 4)] else []

/-- No length is negative as an `int`. -/
def Nonnegative (lengths : List UInt32) : Prop := ∀ len ∈ lengths, len.toNat < 2 ^ 31

/-! ## Nothing outside the buffers is asked for -/

theorem offline_safe : Offline Client.Safe := fun _ _ safe => safe

theorem Client.Safe.note {access : Access} (within : access.Within) (client : Client)
    (safe : client.Safe) : (note access client).2.Safe := by
  intro other member
  rcases List.mem_append.mp member with before | now
  · exact safe other before
  · rw [List.mem_singleton.mp now]
    exact within

theorem safe_note {stream : List UInt8} {access : Access} (within : access.Within) :
    Triple (Reads Client.Safe stream) (note access) (fun _ => Reads Client.Safe stream)
      Client.Safe :=
  triple_note (Client.Safe.note within)

theorem safe_onDisk {stream : List UInt8}
    (change : (WPath → Option (List UInt8)) → WPath → Option (List UInt8)) :
    Triple (Reads Client.Safe stream) (onDisk change) (fun _ => Reads Client.Safe stream)
      Client.Safe :=
  triple_onDisk fun _ safe => safe

theorem safe_readBuffer {stream : List UInt8} {capacity len : Nat} (bound : len < 2 ^ 32)
    (fits : len ≤ capacity) :
    Triple (Reads Client.Safe stream) (readBuffer capacity len) (Came Client.Safe stream len)
      Client.Safe := by
  have within : (Access.request capacity len).Within := fits
  exact triple_readBuffer offline_safe bound (Client.Safe.note within)

theorem triple_lsLoop (fuel : Nat) {stream : List UInt8}
    (nonnegative : Nonnegative (nameLengths fuel stream)) :
    Triple (Reads Client.Safe stream) (lsLoop fuel) (fun _ client => client.Safe) Client.Safe := by
  induction fuel generalizing stream with
  | zero => exact .stop fun _ reads => reads.1
  | succ fuel induction =>
      rw [lsLoop]
      refine (triple_readx offline_safe 20).bind fun record => .assume fun came => ?_
      obtain ⟨enough, rfl⟩ := came
      rw [wordOf_take (by omega), List.drop_take, wordOf_take (by omega)]
      split
      · exact .pure fun _ reads => reads.1
      · split
        · next isDent =>
            rw [nameLengths, if_pos ⟨enough, isDent⟩] at nonnegative
            obtain ⟨small, later⟩ := List.forall_mem_cons.mp nonnegative
            rw [asInt_of_lt small]
            dsimp only
            split
            · exact .stop fun _ reads => reads.1
            · next short =>
                have short : (wordOf (stream.drop 16)).toNat ≤ 256 := by omega
                rw [if_pos short] at later
                refine (safe_readBuffer (by omega) (by omega)).bind fun name =>
                  .assume fun _ => ?_
                have within : (Access.terminate 257 (wordOf (stream.drop 16)).toNat).Within :=
                  ⟨by omega, by omega⟩
                refine (safe_note within).bind fun _ => ?_
                rw [List.drop_drop]
                refine (induction later).bind fun _ => ?_
                exact .pure fun _ safe => safe
        · exact .stop fun _ reads => reads.1

theorem triple_syncLs (path : List UInt8) {stream : List UInt8}
    (nonnegative : Nonnegative (nameLengths (stream.length + 1) stream)) :
    Triple (Reads Client.Safe stream) (syncLs path) (fun _ client => client.Safe) Client.Safe := by
  rw [syncLs]
  split
  · exact .stop fun _ reads => reads.1
  · refine (triple_writex offline_safe _).bind fun _ => ?_
    refine (triple_writex offline_safe _).bind fun _ => ?_
    exact triple_rounds lsLoop (triple_lsLoop _ nonnegative)

section Pull

variable {host : Host} {calls : PullCalls} {lpath : List UInt8}

theorem triple_remoteError {stream : List UInt8} {id size : UInt32}
    (nonnegative : id = idFail → size.toNat < 2 ^ 31) :
    Triple (Reads Client.Safe stream) (remoteError host calls lpath id size)
      (fun _ client => client.Safe) Client.Safe := by
  rw [remoteError]
  refine (safe_onDisk _).bind fun _ => ?_
  split
  · next failed =>
      dsimp only
      rw [cut_asInt (nonnegative failed)]
      refine (safe_readBuffer (by omega) (by simp only [syncDataMax]; omega)).bind
        fun _ => .assume fun _ => ?_
      have within : (Access.terminate syncDataMax (min size.toNat 256 : Nat)).Within :=
        ⟨by omega, by simp only [syncDataMax]; omega⟩
      exact (safe_note within).mono (fun _ reads => reads) (fun _ _ reads => reads.1)
        fun _ safe => safe
  · have within : (Access.terminate syncDataMax 4).Within :=
      ⟨by omega, by simp only [syncDataMax]; omega⟩
    exact (safe_note within).mono (fun _ reads => reads) (fun _ _ reads => reads.1)
        fun _ safe => safe

theorem triple_handleData (file : WPath) (fuel index : Nat) {stream : List UInt8}
    (enough : 8 ≤ stream.length) (nonnegative : Nonnegative (dataLengths fuel stream)) :
    Triple (Reads Client.Safe (stream.drop 8))
      (handleData host calls lpath file fuel index (stream.take 8))
      (fun _ client => client.Safe) Client.Safe := by
  induction fuel generalizing index stream with
  | zero => exact .stop fun _ reads => reads.1
  | succ fuel induction =>
      rw [handleData]
      rw [wordOf_take (by omega), List.drop_take, wordOf_take (by omega)]
      rw [dataLengths, if_pos enough] at nonnegative
      split
      · exact .pure fun _ reads => reads.1
      · split
        · next isData =>
            rw [if_pos isData] at nonnegative
            obtain ⟨small, later⟩ := List.forall_mem_cons.mp nonnegative
            rw [asInt_of_lt small]
            split
            · exact .stop fun _ reads => reads.1
            · next short =>
                have short : (wordOf (stream.drop 4)).toNat ≤ syncDataMax := by omega
                rw [if_pos short] at later
                refine (safe_readBuffer (by omega) short).bind fun data =>
                  .assume fun _ => ?_
                split
                · refine (safe_onDisk _).bind fun _ => ?_
                  rw [List.drop_drop]
                  refine (triple_readx offline_safe 8).bind fun header => .assume fun came => ?_
                  obtain ⟨enough', rfl⟩ := came
                  exact induction _ enough' later
                · exact .stop fun _ reads => reads.1
        · next notData =>
            rw [if_neg notData] at nonnegative
            refine triple_remoteError fun failed => ?_
            rw [if_pos failed] at nonnegative
            exact nonnegative _ List.mem_cons_self

theorem triple_beginPull (stream : List UInt8) :
    Triple (Reads Client.Safe stream) (beginPull host calls lpath)
      (fun _ => Reads Client.Safe stream) Client.Safe := by
  rw [beginPull]
  refine (safe_onDisk _).bind fun _ => ?_
  split
  · exact .stop fun _ reads => reads.1
  · have within (size : Nat) : (Access.copy 260 size).Within := trivial
    refine (safe_note (within _)).bind fun _ => ?_
    rw [adbCreat]
    split
    · exact .stop fun _ reads => reads.1
    · split
      · refine (safe_onDisk _).bind fun _ => ?_
        refine Triple.bind (triple_noteOpened fun _ safe => safe) fun _ => ?_
        exact .pure fun _ reads => reads
      · exact .stop fun _ reads => reads.1

theorem triple_syncRecv (rpath : List UInt8) (showProgress : Bool) {stream : List UInt8}
    (nonnegative : Nonnegative (pullLengths (afterStat stream showProgress))) :
    Triple (Reads Client.Safe stream) (syncRecv host calls rpath lpath showProgress)
      (fun _ client => client.Safe) Client.Safe := by
  refine triple_answer offline_safe rpath showProgress fun enough => ?_
  generalize afterStat stream showProgress = stream at *
  rw [receive, wordOf_take (by omega), List.drop_take, wordOf_take (by omega)]
  split
  · refine (triple_beginPull _).bind fun file => ?_
    refine triple_rounds (fun fuel => handleData host calls lpath file fuel 0 (stream.take 8))
      (triple_handleData file _ 0 enough ?_)
    rw [List.length_drop]
    rwa [pullLengths, show stream.length - 7 = stream.length - 8 + 1 by omega] at nonnegative
  · next other =>
      refine triple_remoteError fun failed => ?_
      rw [pullLengths, show stream.length - 7 = stream.length - 8 + 1 by omega, dataLengths,
        if_pos enough] at nonnegative
      rw [not_or] at other
      rw [if_neg other.1, if_pos failed] at nonnegative
      exact nonnegative _ List.mem_cons_self

end Pull

theorem triple_readStatus {stream : List UInt8} (nonnegative : Nonnegative (statusLengths stream)) :
    Triple (Reads Client.Safe stream) readStatus (fun _ client => client.Safe) Client.Safe := by
  rw [readStatus]
  refine (triple_readx offline_safe 8).bind fun status => .assume fun came => ?_
  obtain ⟨enough, rfl⟩ := came
  rw [wordOf_take (by omega), List.drop_take, wordOf_take (by omega)]
  split
  · exact .pure fun _ reads => reads.1
  · split
    · next failed =>
        rw [statusLengths, if_pos ⟨enough, failed⟩] at nonnegative
        have small := nonnegative _ List.mem_cons_self
        dsimp only
        rw [cut_asInt small]
        refine (safe_readBuffer (by omega) (by simp only [syncDataMax]; omega)).bind
          fun _ => .assume fun _ => ?_
        have within : (Access.terminate syncDataMax
            (min (wordOf (stream.drop 4)).toNat 256 : Nat)).Within :=
          ⟨by omega, by simp only [syncDataMax]; omega⟩
        exact (safe_note within).bind fun _ => .stop fun _ reads => reads.1
    · exact .stop fun _ reads => reads.1

/-- A program that reads nothing. -/
def Unread {Value : Type} (program : Program Connection Value) : Prop :=
  ∀ stream, Triple (fun connection => connection.incoming = stream) program
    (fun _ connection => connection.incoming = stream)
    fun connection => connection.incoming = stream

theorem unread_writex (bytes : List UInt8) : Unread (writex bytes) :=
  fun _ _ same => ⟨fun _ _ => same, fun _ => same⟩

theorem Unread.bind {Value Value' : Type} {program : Program Connection Value}
    {next : Value → Program Connection Value'} (first : Unread program)
    (second : ∀ value, Unread (next value)) : Unread (program >>= next) :=
  fun stream => (first stream).bind fun value => second value stream

theorem unread_pure {Value : Type} (value : Value) :
    Unread (pure value : Program Connection Value) :=
  fun _ => .pure fun _ same => same

theorem unread_stop {Value : Type} : Unread (stop : Program Connection Value) :=
  fun _ => .stop fun _ same => same

theorem unread_dataFileLoop (fuel : Nat) (reads : List Wire.IoResult) (content : List UInt8) :
    Unread (dataFileLoop fuel reads content) := by
  induction fuel generalizing reads content with
  | zero => exact unread_pure ()
  | succ fuel induction =>
      cases reads with
      | nil =>
          rw [dataFileLoop]
          split
          · exact unread_pure ()
          · exact (unread_writex _).bind fun _ => induction _ _
      | cons result reads =>
          cases result with
          | moved more =>
              rw [dataFileLoop]
              split
              · exact unread_pure ()
              · exact (unread_writex _).bind fun _ => induction _ _
          | interrupted => exact induction _ _
          | again => exact unread_pure ()
          | failed => exact unread_pure ()

theorem unread_dataBufferLoop (buffer : List UInt8) (size : Int) (fuel total : Nat) :
    Unread (dataBufferLoop buffer size fuel total) := by
  induction fuel generalizing total with
  | zero => exact unread_pure ()
  | succ fuel induction =>
      rw [dataBufferLoop]
      split
      · exact (unread_writex _).bind fun _ => induction _
      · exact unread_pure ()

theorem unread_sendFile (calls : PushCalls) (mode : UInt32) (buffer : Option (List UInt8 × Int))
    (showProgress : Bool) : Unread (sendFile calls mode buffer showProgress) := by
  have written : Unread (writeDataFile calls showProgress) := by
    rw [writeDataFile]
    split
    · exact unread_stop
    · exact unread_dataFileLoop _ _ _
  intro stream
  cases buffer with
  | some loaded => exact (unread_dataBufferLoop _ _ _ _ stream).attempt
  | none =>
      rw [sendFile]
      split
      · exact (written stream).attempt
      · exact unread_stop stream

theorem unread_sendAll (calls : PushCalls) (rpath : List UInt8) (mtime mode : UInt32)
    (verifyApk showProgress : Bool) :
    Unread (sendAll calls rpath mtime mode verifyApk showProgress) := by
  rw [sendAll]
  split
  · exact unread_stop
  · refine Unread.bind ?_ fun _ => ?_
    · refine (unread_writex _).bind fun _ => ?_
      exact (unread_writex _).bind fun _ => unread_writex _
    · exact (unread_sendFile _ _ _ _).bind fun _ => unread_writex _

theorem triple_syncSend (calls : PushCalls) (rpath : List UInt8) (mtime mode : UInt32)
    (verifyApk showProgress : Bool) {stream : List UInt8}
    (nonnegative : Nonnegative (statusLengths stream)) :
    Triple (Reads Client.Safe stream) (syncSend calls rpath mtime mode verifyApk showProgress)
      (fun _ client => client.Safe) Client.Safe := by
  have sent : Triple (Reads Client.Safe stream)
      (io (sendAll calls rpath mtime mode verifyApk showProgress))
      (fun _ => Reads Client.Safe stream)
      Client.Safe := by
    rintro client ⟨safe, left⟩
    have same := unread_sendAll calls rpath mtime mode verifyApk showProgress stream
      client.connection left
    exact ⟨fun value returned => ⟨safe, same.1 value returned⟩, fun _ => safe⟩
  exact sent.bind fun _ => triple_readStatus nonnegative

/-! ## What is asked for outside the buffers -/

/-- Something outside the buffers was asked for. -/
def Client.Unsafe (client : Client) : Prop := ¬client.Safe

/-- What was noted stays on the notes. -/
def Remembers {Value : Type} (program : Program Client Value) : Prop :=
  ∀ client, client.accesses <+: (program client).2.accesses

theorem Remembers.overruns {Value : Type} {program : Program Client Value}
    (remembers : Remembers program) :
    Triple Client.Unsafe program (fun _ => Client.Unsafe) Client.Unsafe := by
  intro client asked
  have still : (program client).2.Unsafe := fun safe =>
    asked fun access member => safe access ((remembers client).subset member)
  exact ⟨fun _ _ => still, fun _ => still⟩

theorem Remembers.bind {Value Value' : Type} {program : Program Client Value}
    {next : Value → Program Client Value'} (first : Remembers program)
    (second : ∀ value, Remembers (next value)) : Remembers (program >>= next) := by
  intro client
  have noted := first client
  rw [Program.bind_apply]
  cases ran : program client with
  | mk result middle =>
      rw [ran] at noted
      cases result with
      | none => exact noted
      | some value => exact noted.trans (second value middle)

theorem remembers_pure {Value : Type} (value : Value) :
    Remembers (pure value : Program Client Value) := fun _ => List.prefix_rfl

theorem remembers_stop {Value : Type} : Remembers (stop : Program Client Value) :=
  fun _ => List.prefix_rfl

theorem remembers_io {Value : Type} (program : Program Connection Value) :
    Remembers (io program) := fun _ => List.prefix_rfl

theorem remembers_onDisk
    (change : (WPath → Option (List UInt8)) → WPath → Option (List UInt8)) :
    Remembers (onDisk change) := fun _ => List.prefix_rfl

theorem remembers_note (access : Access) : Remembers (note access) :=
  fun client => List.prefix_append client.accesses [access]

theorem remembers_readBuffer (capacity : Nat) (len : Int) :
    Remembers (readBuffer capacity len) :=
  (remembers_note _).bind fun _ => remembers_io _

theorem remembers_lsLoop (fuel : Nat) : Remembers (lsLoop fuel) := by
  induction fuel with
  | zero => exact remembers_stop
  | succ fuel induction =>
      rw [lsLoop]
      refine (remembers_io _).bind fun record => ?_
      split
      · exact remembers_pure _
      · split
        · dsimp only
          split
          · exact remembers_stop
          · refine (remembers_readBuffer _ _).bind fun _ => ?_
            refine (remembers_note _).bind fun _ => ?_
            exact Remembers.bind induction fun _ => remembers_pure _
        · exact remembers_stop

section Plain

variable {stream : List UInt8}

/-- Nothing is said about the files and the notes. -/
def Anyhow (_ : Client) : Prop := True

theorem offline_anyhow : Offline Anyhow := fun _ _ _ => trivial

theorem anyhow_note {fail : Client → Prop} (access : Access) :
    Triple (Plain Anyhow stream) (note access) (fun _ => Plain Anyhow stream) fail :=
  plain_note fun _ _ => trivial

theorem anyhow_onDisk {fail : Client → Prop}
    (change : (WPath → Option (List UInt8)) → WPath → Option (List UInt8)) :
    Triple (Plain Anyhow stream) (onDisk change) (fun _ => Plain Anyhow stream) fail :=
  plain_onDisk fun _ _ => trivial

/-- A negative length is asked for, whatever comes of it. -/
theorem overrun_readBuffer {pre : Client → Prop} {capacity : Nat} {len : UInt32}
    (negative : ¬len.toNat < 2 ^ 31) (small : capacity < 2 ^ 31) :
    Triple pre (readBuffer capacity (asInt len)) (fun _ => Client.Unsafe) Client.Unsafe := by
  have outside : ¬(Access.request capacity len.toNat).Within := fun within =>
    negative (Nat.lt_of_le_of_lt within small)
  intro client _
  rw [readBuffer, asSize_asInt]
  have asked : (note (.request capacity len.toNat) client).2.Unsafe := fun safe =>
    outside (safe _ (List.mem_append_right _ (List.mem_singleton_self _)))
  exact (remembers_io (readx len.toNat)).overruns _ asked

theorem not_nonnegative_nil {lengths : List UInt32} (negative : ¬Nonnegative lengths) :
    lengths ≠ [] := by
  rintro rfl
  exact negative (by simp [Nonnegative])

theorem not_nonnegative_cons {len : UInt32} {lengths : List UInt32}
    (negative : ¬Nonnegative (len :: lengths)) (small : len.toNat < 2 ^ 31) :
    ¬Nonnegative lengths := fun nonnegative =>
  negative (List.forall_mem_cons.mpr ⟨small, nonnegative⟩)

theorem nameLengths_nil (fuel : Nat) : nameLengths fuel [] = [] := by
  cases fuel with
  | zero => rfl
  | succ fuel => simp [nameLengths]

theorem dataLengths_of_short {stream : List UInt8} (short : stream.length < 8) (fuel : Nat) :
    dataLengths fuel stream = [] := by
  cases fuel with
  | zero => rfl
  | succ fuel => rw [dataLengths, if_neg (by omega)]

theorem overrun_lsLoop (fuel : Nat) (negative : ¬Nonnegative (nameLengths fuel stream)) :
    Triple (Plain Anyhow stream) (lsLoop fuel) (fun _ => Client.Unsafe) Client.Unsafe := by
  induction fuel generalizing stream with
  | zero => exact absurd rfl (not_nonnegative_nil negative)
  | succ fuel induction =>
      rw [nameLengths] at negative
      split at negative
      · next entry =>
          obtain ⟨enough, isDent⟩ := entry
          rw [lsLoop]
          refine (plain_readx offline_anyhow enough).bind fun record => .assume fun record_eq => ?_
          obtain rfl := record_eq
          rw [wordOf_take (by omega), List.drop_take, wordOf_take (by omega),
            if_neg (by rw [isDent]; decide), if_pos isDent]
          dsimp only
          by_cases small : (wordOf (stream.drop 16)).toNat < 2 ^ 31
          · have later := not_nonnegative_cons negative small
            split at later
            · next short =>
                have named : (wordOf (stream.drop 16)).toNat ≤ (stream.drop 20).length := by
                  by_contra cut
                  rw [List.length_drop] at cut
                  rw [List.drop_of_length_le (by omega), nameLengths_nil] at later
                  exact not_nonnegative_nil later rfl
                rw [asInt_of_lt small, if_neg (by omega)]
                refine (plain_readBuffer offline_anyhow (by omega) (fun _ _ => trivial) named).bind
                  fun name => .assume fun _ => ?_
                refine (anyhow_note _).bind fun _ => ?_
                rw [List.drop_drop]
                exact (induction later).bind fun _ => (remembers_pure _).overruns
            · exact absurd rfl (not_nonnegative_nil later)
          · rw [if_neg (by have := asInt_neg small; omega)]
            refine (overrun_readBuffer small (by omega)).bind fun _ => ?_
            refine (remembers_note _).overruns.bind fun _ => ?_
            exact (remembers_lsLoop fuel).overruns.bind fun _ => (remembers_pure _).overruns
      · exact absurd rfl (not_nonnegative_nil negative)

theorem overrun_syncLs (negative : ¬Nonnegative (nameLengths (stream.length + 1) stream)) :
    Triple (Plain Anyhow stream) (syncLs []) (fun _ => Client.Unsafe) Client.Unsafe := by
  rw [syncLs, if_neg (by simp)]
  refine (plain_writex offline_anyhow _).bind fun _ => ?_
  refine (plain_writex offline_anyhow _).bind fun _ => ?_
  exact plain_rounds lsLoop (overrun_lsLoop _ negative)

variable {host : Host} {calls : PullCalls} {lpath : List UInt8}

theorem remembers_remoteError (id size : UInt32) :
    Remembers (remoteError host calls lpath id size) := by
  rw [remoteError]
  refine (remembers_onDisk _).bind fun _ => ?_
  split
  · dsimp only
    exact (remembers_readBuffer _ _).bind fun _ => remembers_note _
  · exact remembers_note _

theorem overrun_remoteError {size : UInt32} (negative : ¬size.toNat < 2 ^ 31) :
    Triple (Plain Anyhow stream) (remoteError host calls lpath idFail size) (fun _ => Client.Unsafe)
      Client.Unsafe := by
  have below := asInt_neg negative
  rw [remoteError, if_pos rfl]
  refine (anyhow_onDisk _).bind fun _ => ?_
  dsimp only
  rw [if_neg (by omega)]
  exact (overrun_readBuffer negative (by decide)).bind fun _ => (remembers_note _).overruns

theorem remembers_handleData (file : WPath) (fuel index : Nat) (header : List UInt8) :
    Remembers (handleData host calls lpath file fuel index header) := by
  induction fuel generalizing index header with
  | zero => exact remembers_stop
  | succ fuel induction =>
      rw [handleData]
      split
      · exact remembers_pure _
      · split
        · split
          · exact remembers_stop
          · refine (remembers_readBuffer _ _).bind fun data => ?_
            split
            · refine (remembers_onDisk _).bind fun _ => ?_
              exact (remembers_io _).bind fun header => induction _ _
            · exact remembers_stop
        · exact remembers_remoteError _ _

theorem overrun_handleData (writes : ∀ index, calls.write index = true) (file : WPath)
    (fuel index : Nat) (enough : 8 ≤ stream.length)
    (negative : ¬Nonnegative (dataLengths fuel stream)) :
    Triple (Plain Anyhow (stream.drop 8))
      (handleData host calls lpath file fuel index (stream.take 8))
      (fun _ => Client.Unsafe) Client.Unsafe := by
  induction fuel generalizing index stream with
  | zero => exact absurd rfl (not_nonnegative_nil negative)
  | succ fuel induction =>
      rw [dataLengths, if_pos enough] at negative
      rw [handleData]
      rw [wordOf_take (by omega), List.drop_take, wordOf_take (by omega)]
      split at negative
      · next isData =>
          rw [if_neg (by rw [isData]; decide), if_pos isData]
          by_cases small : (wordOf (stream.drop 4)).toNat < 2 ^ 31
          · have later := not_nonnegative_cons negative small
            split at later
            · next short =>
                have carried : (wordOf (stream.drop 4)).toNat + 8 ≤ (stream.drop 8).length := by
                  by_contra cut
                  rw [List.length_drop] at cut
                  rw [dataLengths_of_short (by rw [List.length_drop]; omega)] at later
                  exact not_nonnegative_nil later rfl
                rw [asInt_of_lt small, if_neg (by omega)]
                refine (plain_readBuffer offline_anyhow (by omega) (fun _ _ => trivial)
                  (by omega)).bind fun data =>
                  .assume fun _ => ?_
                rw [if_pos (writes index), List.drop_drop]
                refine (anyhow_onDisk _).bind fun _ => ?_
                have enough' : 8 ≤ (stream.drop (8 + (wordOf (stream.drop 4)).toNat)).length := by
                  rw [List.length_drop] at carried ⊢
                  omega
                refine (plain_readx offline_anyhow enough').bind fun header =>
                  .assume fun header_eq => ?_
                obtain rfl := header_eq
                exact induction _ enough' later
            · exact absurd rfl (not_nonnegative_nil later)
          · rw [if_neg (by have := asInt_neg small; omega)]
            refine (overrun_readBuffer small (by decide)).bind fun data => ?_
            split
            · refine (remembers_onDisk _).overruns.bind fun _ => ?_
              refine (remembers_io _).overruns.bind fun header => ?_
              exact (remembers_handleData _ _ _ _).overruns
            · exact remembers_stop.overruns
      · next notData =>
          split at negative
          · next failed =>
              rw [if_neg (by rw [failed]; decide), if_neg notData, failed]
              refine overrun_remoteError fun small => negative ?_
              simpa [Nonnegative] using small
          · exact absurd rfl (not_nonnegative_nil negative)

theorem plain_beginPull {str : List UInt8} {path : WPath}
    (gbk : replaceThird 47 (host.utf8ToGbk lpath) = some str)
    (wide : replaceThird 47 (host.utf8ToUnicode lpath) = some path) :
    Triple (Plain Anyhow stream) (beginPull host {} lpath) (fun _ => Plain Anyhow stream)
      Client.Unsafe := by
  rw [beginPull, gbk]
  refine (anyhow_onDisk _).bind fun _ => ?_
  refine (anyhow_note _).bind fun _ => ?_
  rw [adbCreat, wide]
  refine (anyhow_onDisk _).bind fun _ => ?_
  refine Triple.bind (plain_noteOpened fun _ _ => trivial) fun _ => ?_
  exact .pure fun _ plain => plain

theorem enough_of_negative (negative : ¬Nonnegative (pullLengths stream)) :
    8 ≤ stream.length := by
  by_contra short
  rw [pullLengths, dataLengths_of_short (by omega)] at negative
  exact not_nonnegative_nil negative rfl

/-- If the local file can be created, a negative length is asked for. -/
theorem overrun_receive (negative : ¬Nonnegative (pullLengths stream))
    (opens : wordOf stream = idData ∨ wordOf stream = idDone → ∃ str path,
      replaceThird 47 (host.utf8ToGbk lpath) = some str ∧
        replaceThird 47 (host.utf8ToUnicode lpath) = some path) :
    Triple (Plain Anyhow (stream.drop 8)) (receive host {} lpath (stream.take 8))
      (fun _ => Client.Unsafe) Client.Unsafe := by
  have enough := enough_of_negative negative
  have fuel : stream.length - 7 = (stream.drop 8).length + 1 := by
    rw [List.length_drop]
    omega
  rw [pullLengths, fuel] at negative
  rw [receive, wordOf_take (by omega), List.drop_take, wordOf_take (by omega)]
  split
  · next begins =>
      obtain ⟨str, path, gbk, wide⟩ := opens begins
      refine (plain_beginPull gbk wide).bind fun file => ?_
      exact plain_rounds (fun fuel => handleData host {} lpath file fuel 0 (stream.take 8))
        (overrun_handleData (fun _ => rfl) file _ 0 enough negative)
  · next other =>
      rw [not_or] at other
      rw [dataLengths, if_pos enough, if_neg other.1] at negative
      split at negative
      · next failed =>
          rw [failed]
          refine overrun_remoteError fun small => negative ?_
          simpa [Nonnegative] using small
      · exact absurd rfl (not_nonnegative_nil negative)

/-- A host on which every path can be created. -/
def plainHost : Host where
  utf8ToUnicode := fun _ => [99, 58]
  utf8ToGbk := fun _ => [99, 58]
  ansi := fun _ => []

theorem overrun_syncRecv (showProgress : Bool)
    (negative : ¬Nonnegative (pullLengths (afterStat stream showProgress))) :
    Triple (Plain Anyhow stream) (syncRecv plainHost {} [] [] showProgress) (fun _ => Client.Unsafe)
      Client.Unsafe :=
  plain_answer offline_anyhow showProgress (Nat.zero_le _) (enough_of_negative negative)
    (overrun_receive negative fun _ => ⟨[99, 58, 47], [99, 58, 47], rfl, rfl⟩)

theorem overrun_readStatus (negative : ¬Nonnegative (statusLengths stream)) :
    Triple (Plain Anyhow stream) readStatus (fun _ => Client.Unsafe) Client.Unsafe := by
  rw [statusLengths] at negative
  split at negative
  · next failed =>
      obtain ⟨enough, failed⟩ := failed
      rw [readStatus]
      refine (plain_readx offline_anyhow enough).bind fun status => .assume fun status_eq => ?_
      obtain rfl := status_eq
      rw [wordOf_take (by omega), List.drop_take, wordOf_take (by omega),
        if_neg (by rw [failed]; decide), if_pos failed]
      have large : ¬(wordOf (stream.drop 4)).toNat < 2 ^ 31 := fun small => negative (by
        simpa [Nonnegative] using small)
      have below := asInt_neg large
      dsimp only
      rw [if_neg (by omega)]
      refine (overrun_readBuffer large (by decide)).bind fun _ => ?_
      exact (remembers_note _).overruns.bind fun _ => remembers_stop.overruns
  · exact absurd rfl (not_nonnegative_nil negative)

/-- An empty file is sent without data. -/
theorem overrun_syncSend (negative : ¬Nonnegative (statusLengths stream)) :
    Triple (Plain Anyhow stream) (syncSend { content := [] } [] 0 0o100644 false false)
      (fun _ => Client.Unsafe) Client.Unsafe := by
  have sent : Triple (Plain Anyhow stream)
      (io (sendAll { content := [] } [] 0 0o100644 false false))
      (fun _ => Plain Anyhow stream) Client.Unsafe := by
    rintro ⟨⟨incoming, reads, outgoing, writes⟩, disk, accesses⟩ ⟨-, reads_eq, writes_eq, rfl⟩
    obtain rfl : reads = [] := reads_eq
    obtain rfl : writes = [] := writes_eq
    exact ⟨fun _ _ => ⟨trivial, rfl, rfl, rfl⟩, fun gave_up => by cases gave_up⟩
  exact sent.bind fun _ => overrun_readStatus negative

end Plain

/-- Whatever a device sends, `sync_ls`, `sync_recv` and `sync_send` stay inside their buffers in
every run exactly if none of the fields they take for a length has its top bit set. -/
theorem sync_buffers_safe_iff (stream : List UInt8) :
    ((∀ path client, client.connection.incoming = stream → client.Safe →
        (syncLs path client).2.Safe) ↔
      Nonnegative (nameLengths (stream.length + 1) stream)) ∧
    (∀ showProgress,
      (∀ host calls rpath lpath client, client.connection.incoming = stream → client.Safe →
        (syncRecv host calls rpath lpath showProgress client).2.Safe) ↔
      Nonnegative (pullLengths (afterStat stream showProgress))) ∧
    ((∀ calls rpath mtime mode verifyApk showProgress client,
        client.connection.incoming = stream → client.Safe →
        (syncSend calls rpath mtime mode verifyApk showProgress client).2.Safe) ↔
      Nonnegative (statusLengths stream)) := by
  -- A program that is safe either way, and one that is not.
  have safe_of {Value : Type} {program : Program Client Value} {client : Client}
      (triple : Triple (Reads Client.Safe stream) program (fun _ client => client.Safe) Client.Safe)
      (left : client.connection.incoming = stream) (safe : client.Safe) :
      (program client).2.Safe := triple.always ⟨safe, left⟩
  have overrun_of {Value : Type} {program : Program Client Value}
      (triple : Triple (Plain Anyhow stream) program (fun _ => Client.Unsafe) Client.Unsafe) :
      ¬(program { connection := { incoming := stream } }).2.Safe :=
    triple.always ⟨trivial, rfl, rfl, rfl⟩
  have fresh : ({ connection := { incoming := stream } } : Client).Safe := by
    simp [Client.Safe]
  refine ⟨⟨fun safe => ?_, fun nonnegative path client left held => ?_⟩,
    fun showProgress =>
      ⟨fun safe => ?_, fun nonnegative host calls rpath lpath client left held => ?_⟩,
    ⟨fun safe => ?_, fun nonnegative calls rpath mtime mode verifyApk showProgress client left
      held => ?_⟩⟩
  · by_contra negative
    exact overrun_of (overrun_syncLs negative) (safe _ _ rfl fresh)
  · exact safe_of (triple_syncLs path nonnegative) left held
  · by_contra negative
    exact overrun_of (overrun_syncRecv showProgress negative) (safe _ _ _ _ _ rfl fresh)
  · exact safe_of (triple_syncRecv rpath showProgress nonnegative) left held
  · by_contra negative
    exact overrun_of (overrun_syncSend negative) (safe _ _ _ _ _ _ _ rfl fresh)
  · exact safe_of (triple_syncSend calls rpath mtime mode verifyApk showProgress nonnegative) left
      held

/-- For a length of `0xffffffff` all three ask for four gigabytes. -/
theorem sync_buffers_overrun :
    ¬(syncLs []
        { connection := { incoming := dentRecord idDent ⟨0, 0, 0⟩ 0xffffffff } }).2.Safe ∧
      ¬(syncRecv plainHost {} [] [] false
        { connection := { incoming := pair idFail 0xffffffff } }).2.Safe ∧
      ¬(syncSend { content := [] } [] 0 0o100644 false false
        { connection := { incoming := pair idFail 0xffffffff } }).2.Safe := by
  have asked {client : Client} {capacity : Nat} (small : capacity < 0xffffffff)
      (log : client.accesses = [.request capacity 0xffffffff]) : ¬client.Safe := by
    intro safe
    have within : 0xffffffff ≤ capacity := safe (.request capacity 0xffffffff) (by simp [log])
    omega
  have names : 257 < 0xffffffff := by decide
  have data : syncDataMax < 0xffffffff := by decide
  exact ⟨asked names (by decide), asked data (by decide), asked data (by decide)⟩

end Sync
end AdbWide
