import AdbWide.Sync.Buffers
import AdbWide.Sync.Delivery

/-!
# Pulling a file

When `sync_recv` returns zero, the local file should hold what the device delivered.  This file
says for which answers and which local paths it does, in every run: a refusal also ends in a zero,
and the third character of the path is always replaced by a separator.
-/

namespace AdbWide
namespace Sync

open Wire (Connection)
open Program (Triple stop)
open Sockets.Server (ascii)

/-! ## Local paths -/

/-- The path that is opened, if none of the two conversions is too short. -/
def opened (host : Host) (lpath : List UInt8) : Option WPath :=
  (replaceThird 47 (host.utf8ToGbk lpath)).bind fun _ => replaceThird 47 (host.utf8ToUnicode lpath)

/-- The directory of the file is too long for `mkdirs`. -/
def Overruns (host : Host) (lpath : List UInt8) : Prop :=
  match replaceThird 47 (host.utf8ToGbk lpath) with
  | none => False
  | some str => 260 ≤ (parent str).length

/-- The third character of a path is a separator. -/
def Rooted (host : Host) (lpath : List UInt8) : Prop :=
  ((host.utf8ToUnicode lpath).map separator)[2]? = some 47

/-- The file that a path names. -/
def named (host : Host) (lpath : List UInt8) : WPath := (host.utf8ToUnicode lpath).map separator

variable {host : Host} {calls : PullCalls} {lpath : List UInt8}

theorem eq_of_opened {path : WPath} (opens : opened host lpath = some path) :
    ∃ str, replaceThird 47 (host.utf8ToGbk lpath) = some str ∧
      replaceThird 47 (host.utf8ToUnicode lpath) = some path :=
  Option.bind_eq_some_iff.mp opens

/-- The path that is opened is the one that was given exactly if it has a separator there. -/
theorem rooted_iff {path : WPath} (opens : opened host lpath = some path) :
    Rooted host lpath ↔ path.map separator = named host lpath := by
  obtain ⟨str, -, path_eq⟩ := eq_of_opened opens
  rw [replaceThird] at path_eq
  split at path_eq
  · cases path_eq
  · obtain rfl := Option.some.inj path_eq
    rw [Rooted, named]
    generalize host.utf8ToUnicode lpath = wide at *
    obtain _ | ⟨a, _ | ⟨b, _ | ⟨c, rest⟩⟩⟩ := wide
    · simp at *
    · simp at *
    · simp
    · have slash : separator 47 = 47 := rfl
      simp [slash, eq_comm]

/-! ## Every run -/

/-- Reads, terminators and copies stay inside the buffer. -/
def Access.Fits : Access → Prop
  | .copy capacity size => size ≤ capacity
  | access => access.Within

/-- Nothing outside the buffers was asked for or written. -/
def Client.Intact (client : Client) : Prop := ∀ access ∈ client.accesses, access.Fits

/-- A file has some content. -/
def Holds (file : WPath) (content : List UInt8) (client : Client) : Prop :=
  client.Intact ∧ client.disk file = some content

theorem Client.Intact.note {access : Access} (fits : access.Fits) (client : Client)
    (intact : client.Intact) : (note access client).2.Intact := by
  intro other member
  rcases List.mem_append.mp member with before | now
  · exact intact other before
  · rw [List.mem_singleton.mp now]
    exact fits

theorem offline_intact : Offline Client.Intact := fun _ _ intact => intact

section Every

variable {stream content : List UInt8} {file : WPath}

theorem holds_readx (len : Nat) :
    Triple (Reads (Holds file content) stream) (io (readx len))
      (Came (Holds file content) stream len) Client.Intact :=
  (triple_readx (fun _ _ holds => holds) len).mono (fun _ reads => reads) (fun _ _ came => came)
    fun _ holds => holds.1

/-- What is written to the file is appended. -/
theorem holds_append (data : List UInt8) :
    Triple (Reads (Holds file content) stream)
      (onDisk fun disk => Function.update disk file ((disk file).map (· ++ data)))
      (fun _ => Reads (Holds file (content ++ data)) stream) Client.Intact := by
  refine triple_onDisk fun client holds => ⟨holds.1, ?_⟩
  rw [onDisk_disk, Function.update_self, holds.2, Option.map_some]

theorem holds_readBuffer {capacity len : Nat} (bound : len < 2 ^ 32) (fits : len ≤ capacity) :
    Triple (Reads (Holds file content) stream) (readBuffer capacity len)
      (Came (Holds file content) stream len) Client.Intact := by
  have within : (Access.request capacity len).Fits := fits
  have offline : Offline (Holds file content) := fun _ _ holds => holds
  refine (triple_readBuffer offline bound fun client holds => ?_).mono (fun _ reads => reads)
    (fun _ _ came => came) fun _ holds => holds.1
  exact ⟨holds.1.note within client, holds.2⟩

theorem intact_onDisk (change : (WPath → Option (List UInt8)) → WPath → Option (List UInt8)) :
    Triple (Reads Client.Intact stream) (onDisk change) (fun _ => Reads Client.Intact stream)
      Client.Intact :=
  triple_onDisk fun _ intact => intact

/-- A refusal whose text is cut off is an error. -/
theorem stops_remoteError {size : UInt32} (small : size.toNat < 2 ^ 31)
    (short : stream.length < min size.toNat 256) :
    Triple (Reads Client.Intact stream) (remoteError host calls lpath idFail size)
      (fun _ _ => False) Client.Intact := by
  rw [remoteError, if_pos rfl]
  refine (intact_onDisk _).bind fun _ => ?_
  dsimp only
  rw [cut_asInt small]
  have fits : (Access.request syncDataMax (min size.toNat 256)).Fits := by
    have bound : 256 ≤ syncDataMax := by decide
    exact Nat.le_trans (Nat.min_le_right _ _) bound
  refine (triple_readBuffer offline_intact (by omega) (Client.Intact.note fits)).bind
    fun _ => .assume fun came => ?_
  omega

/-- Something that is neither data nor the end either refuses the file or is cut off. -/
theorem stops_other {fuel : Nat} (enough : 8 ≤ stream.length) (notDone : wordOf stream ≠ idDone)
    (notData : wordOf stream ≠ idData)
    (nonnegative : Nonnegative (dataLengths (fuel + 1) stream))
    (answered : (transfer (fuel + 1) stream).2 ≠ .refused) :
    Triple (Reads Client.Intact (stream.drop 8))
      (remoteError host calls lpath (wordOf stream) (wordOf (stream.drop 4))) (fun _ _ => False)
      Client.Intact := by
  rw [transfer_other enough notDone notData] at answered
  split at answered
  · next cut =>
      obtain ⟨failed, short⟩ := cut
      rw [dataLengths, if_pos enough, if_neg notData, if_pos failed] at nonnegative
      have small := nonnegative _ List.mem_cons_self
      rw [failed]
      exact stops_remoteError small (by rw [List.length_drop]; omega)
  · exact absurd rfl answered

/-- Unless the answer is refused, the file holds what was delivered when the loop returns. -/
theorem holds_handleData (fuel index : Nat) (enough : 8 ≤ stream.length)
    (nonnegative : Nonnegative (dataLengths fuel stream))
    (answered : (transfer fuel stream).2 ≠ .refused) :
    Triple (Reads (Holds file content) (stream.drop 8))
      (handleData host calls lpath file fuel index (stream.take 8))
      (fun _ client => (transfer fuel stream).2 = .done ∧
        Holds file (content ++ (transfer fuel stream).1) client) Client.Intact := by
  induction fuel generalizing index stream content with
  | zero => exact .stop fun _ reads => reads.1.1
  | succ fuel induction =>
      rw [handleData, wordOf_take (by omega), List.drop_take, wordOf_take (by omega)]
      split
      · next isDone =>
          rw [transfer_done enough isDone, List.append_nil]
          exact .pure fun _ reads => ⟨rfl, reads.1⟩
      · next notDone =>
          split
          · next isData =>
              rw [dataLengths, if_pos enough, if_pos isData] at nonnegative
              obtain ⟨small, later⟩ := List.forall_mem_cons.mp nonnegative
              rw [asInt_of_lt small]
              split
              · exact .stop fun _ reads => reads.1.1
              · next short =>
                  have short : (wordOf (stream.drop 4)).toNat ≤ syncDataMax := by omega
                  rw [if_pos short] at later
                  refine (holds_readBuffer (by omega) short).bind fun data =>
                    .assume fun came => ?_
                  obtain ⟨carried, rfl⟩ := came
                  rw [List.length_drop] at carried
                  rw [transfer_data isData short (by omega)] at answered ⊢
                  split
                  · refine (holds_append _).bind fun _ => ?_
                    rw [List.drop_drop]
                    refine (holds_readx 8).bind fun header => .assume fun came => ?_
                    obtain ⟨enough', rfl⟩ := came
                    rw [← List.append_assoc]
                    exact induction _ enough' later answered
                  · exact .stop fun _ reads => reads.1.1
          · next notData =>
              have stops : Triple (Reads Client.Intact (stream.drop 8))
                  (remoteError host calls lpath (wordOf stream) (wordOf (stream.drop 4))) _ _ :=
                stops_other enough notDone notData nonnegative answered
              exact stops.mono (fun _ reads => ⟨reads.1.1, reads.2⟩) (fun _ _ no => no.elim)
                fun _ intact => intact

/-- The path that is opened is created, or the pull stops. -/
theorem holds_beginPull (fits : ¬Overruns host lpath) :
    Triple (Reads Client.Intact stream) (beginPull host calls lpath)
      (fun file client => (∃ path, opened host lpath = some path ∧ file = path.map separator) ∧
        Reads (Holds file []) stream client) Client.Intact := by
  rw [beginPull]
  refine (intact_onDisk _).bind fun _ => ?_
  split
  · exact .stop fun _ reads => reads.1
  · next str str_eq =>
      rw [Overruns, str_eq] at fits
      have copied : (Access.copy 260 ((parent str).length + 1)).Fits := Nat.not_le.mp fits
      refine (triple_note (Client.Intact.note copied)).bind fun _ => ?_
      rw [adbCreat]
      split
      · exact .stop fun _ reads => reads.1
      · next path path_eq =>
          have opens : opened host lpath = some path := by
            rw [opened, str_eq, Option.bind_some, path_eq]
          split
          · have created : Triple (Reads Client.Intact stream)
                (onDisk fun disk => Function.update disk (path.map separator) (some []))
                (fun _ => Reads (Holds (path.map separator) []) stream) Client.Intact :=
              triple_onDisk fun client intact => ⟨intact, Function.update_self _ _ _⟩
            refine created.bind fun _ => ?_
            refine Triple.bind (triple_noteOpened fun _ holds => holds) fun _ => ?_
            exact .pure fun _ reads => ⟨⟨path, opens, rfl⟩, reads⟩
          · exact .stop fun _ reads => reads.1

/-- The answer begins with data or with the end, so the local file is touched. -/
def Begins (stream : List UInt8) : Prop :=
  8 ≤ stream.length ∧ (wordOf stream = idData ∨ wordOf stream = idDone)

theorem Delivers.begins {stream content : List UInt8} (delivers : Delivers stream content) :
    Begins stream := by
  cases delivers with
  | done size rest =>
      refine ⟨?_, .inr (wordOf_pair_append _ _ _)⟩
      rw [List.length_append, length_pair]
      omega
  | @data payload rest content short later =>
      refine ⟨?_, .inl ?_⟩
      · rw [List.length_append, length_message]
        omega
      · rw [message, List.append_assoc]
        exact wordOf_pair_append _ _ _

/-- An answer that is taken as it is: no length is negative, and it is not refused. -/
def Taken (stream : List UInt8) : Prop :=
  Nonnegative (pullLengths stream) ∧ (pulled stream).2 ≠ .refused

/-- The file is on the disk as it was delivered. -/
def Copied (host : Host) (lpath stream : List UInt8) (client : Client) : Prop :=
  ∃ content, Delivers stream content ∧ client.disk (named host lpath) = some content

theorem copied_receive (enough : 8 ≤ stream.length) (fits : Begins stream → ¬Overruns host lpath)
    (taken : (Begins stream → (opened host lpath).isSome) → Taken stream ∧
      ((pulled stream).2 = .done → Rooted host lpath)) :
    Triple (Reads Client.Intact (stream.drop 8)) (receive host calls lpath (stream.take 8))
      (fun _ client => client.Intact ∧ Copied host lpath stream client) Client.Intact := by
  have fuel : stream.length - 7 = (stream.drop 8).length + 1 := by
    rw [List.length_drop]
    omega
  rw [receive, wordOf_take (by omega), List.drop_take, wordOf_take (by omega)]
  split
  · next begins =>
      refine (holds_beginPull (fits ⟨enough, begins⟩)).bind fun file => .assume fun opens => ?_
      obtain ⟨path, opens, rfl⟩ := opens
      obtain ⟨⟨nonnegative, answered⟩, rooted⟩ := taken fun _ => by rw [opens]; rfl
      rw [rooted_iff opens] at rooted
      rw [pulled, fuel] at answered rooted
      rw [pullLengths, fuel] at nonnegative
      refine triple_rounds
        (fun fuel => handleData host calls lpath (path.map separator) fuel 0 (stream.take 8)) ?_
      refine (holds_handleData _ 0 enough nonnegative answered).mono (fun _ reads => reads)
        (fun _ client holds => ?_) fun _ intact => intact
      obtain ⟨done, intact, held⟩ := holds
      rw [rooted done] at held
      exact ⟨intact, _, delivers_of_transfer done, held⟩
  · next other =>
      rw [not_or] at other
      have notBegins : ¬Begins stream := fun begins => begins.2.elim other.1 other.2
      obtain ⟨⟨nonnegative, answered⟩, -⟩ := taken fun begins => absurd begins notBegins
      rw [pullLengths, fuel] at nonnegative
      rw [pulled, fuel] at answered
      exact (stops_other enough other.2 other.1 nonnegative answered).mono (fun _ reads => reads)
        (fun _ _ no => no.elim) fun _ intact => intact

end Every

/-! ## Runs that go wrong -/

theorem Remembers.not_intact {Value : Type} {program : Program Client Value}
    (remembers : Remembers program) :
    Triple (fun client => ¬client.Intact) program (fun _ client => ¬client.Intact)
      fun client => ¬client.Intact := by
  intro client overrun
  have still : ¬(program client).2.Intact := fun intact =>
    overrun fun access member => intact access ((remembers client).subset member)
  exact ⟨fun _ _ => still, fun _ => still⟩

theorem Client.Unsafe.not_intact {client : Client} (asked : client.Unsafe) : ¬client.Intact := by
  refine fun intact => asked fun access member => ?_
  have fits := intact access member
  cases access with
  | request capacity size => exact fits
  | terminate capacity index => exact fits
  | copy capacity size => trivial

/-- There is nothing on the disk, except perhaps one file. -/
def Elsewhere (file : WPath) (client : Client) : Prop :=
  ∀ path, path ≠ file → client.disk path = none

section Wrong

variable {stream : List UInt8} {file : WPath} {fail : Client → Prop}

theorem offline_elsewhere : Offline (Elsewhere file) := fun _ _ elsewhere => elsewhere

theorem elsewhere_note (access : Access) :
    Triple (Plain (Elsewhere file) stream) (note access)
      (fun _ => Plain (Elsewhere file) stream) fail :=
  plain_note fun _ elsewhere => elsewhere

theorem elsewhere_update (change : Option (List UInt8) → Option (List UInt8)) :
    Triple (Plain (Elsewhere file) stream)
      (onDisk fun disk => Function.update disk file (change (disk file)))
      (fun _ => Plain (Elsewhere file) stream) fail := by
  refine plain_onDisk fun client elsewhere path other => ?_
  rw [onDisk_disk, Function.update_of_ne other]
  exact elsewhere path other

theorem elsewhere_unlink (succeeds : Bool) :
    Triple (Plain (Elsewhere file) stream) (adbUnlink host succeeds lpath)
      (fun _ => Plain (Elsewhere file) stream) fail := by
  refine plain_onDisk fun client elsewhere path other => ?_
  rw [onDisk_disk]
  split
  · by_cases same : path = (host.ansi lpath).map separator
    · rw [same, Function.update_self]
    · rw [Function.update_of_ne same]
      exact elsewhere path other
  · exact elsewhere path other

theorem elsewhere_readBuffer {capacity len : Nat} (bound : len < 2 ^ 32)
    (enough : len ≤ stream.length) :
    Triple (Plain (Elsewhere file) stream) (readBuffer capacity len)
      (fun bytes client => bytes = stream.take len ∧
        Plain (Elsewhere file) (stream.drop len) client) fail :=
  plain_readBuffer offline_elsewhere bound (fun _ elsewhere => elsewhere) enough

/-- A refusal is no error. -/
theorem returns_remoteError {id size : UInt32} (small : id = idFail → size.toNat < 2 ^ 31)
    (text : id = idFail → min size.toNat 256 ≤ stream.length) :
    Triple (Plain (Elsewhere file) stream) (remoteError host calls lpath id size)
      (fun _ => Elsewhere file) fun _ => False := by
  rw [remoteError]
  refine (elsewhere_unlink _).bind fun _ => ?_
  split
  · next failed =>
      dsimp only
      rw [cut_asInt (small failed)]
      refine (elsewhere_readBuffer (by omega) (text failed)).bind fun _ => .assume fun _ => ?_
      exact (elsewhere_note _).mono (fun _ plain => plain) (fun _ _ plain => plain.1)
        fun _ no => no
  · exact (elsewhere_note _).mono (fun _ plain => plain) (fun _ _ plain => plain.1)
      fun _ no => no

theorem small_of_nonnegative {fuel : Nat} (enough : 8 ≤ stream.length)
    (nonnegative : Nonnegative (dataLengths (fuel + 1) stream)) (failed : wordOf stream = idFail) :
    (wordOf (stream.drop 4)).toNat < 2 ^ 31 := by
  rw [dataLengths, if_pos enough, if_neg (by rw [failed]; decide), if_pos failed] at nonnegative
  exact nonnegative _ List.mem_cons_self

theorem returns_handleData (writes : ∀ index, calls.write index = true) (fuel index : Nat)
    (nonnegative : Nonnegative (dataLengths fuel stream))
    (whole : (transfer fuel stream).2 ≠ .broken) :
    Triple (Plain (Elsewhere file) (stream.drop 8))
      (handleData host calls lpath file fuel index (stream.take 8)) (fun _ => Elsewhere file)
      fun _ => False := by
  induction fuel generalizing index stream with
  | zero => exact absurd rfl whole
  | succ fuel induction =>
      obtain ⟨enough, later, fuel_eq, kind⟩ := transfer_cases whole
      obtain rfl := Nat.succ.inj fuel_eq
      rw [handleData, wordOf_take (by omega), List.drop_take, wordOf_take (by omega)]
      rcases kind with isDone | ⟨isData, short, carried, whole⟩ | ⟨notDone, notData, text, -⟩
      · rw [if_pos isDone]
        exact .pure fun _ plain => plain.1
      · rw [if_neg (by rw [isData]; decide), if_pos isData]
        rw [dataLengths, if_pos enough, if_pos isData] at nonnegative
        obtain ⟨small, nonnegative⟩ := List.forall_mem_cons.mp nonnegative
        rw [if_pos short] at nonnegative
        obtain ⟨enough', -⟩ := transfer_cases whole
        rw [asInt_of_lt small, if_neg (by omega)]
        refine (elsewhere_readBuffer (by omega) (by rw [List.length_drop]; omega)).bind
          fun data => .assume fun _ => ?_
        rw [if_pos (writes index), List.drop_drop]
        refine (elsewhere_update fun content => content.map (· ++ data)).bind fun _ => ?_
        refine (plain_readx offline_elsewhere enough').bind fun header => .assume fun same => ?_
        obtain rfl := same
        exact induction _ nonnegative whole
      · rw [if_neg notDone, if_neg notData]
        refine returns_remoteError (small_of_nonnegative enough nonnegative) fun failed => ?_
        rw [List.length_drop]
        have := text failed
        omega

theorem returns_beginPull {path : WPath} (opens : opened host lpath = some path) :
    Triple (Plain (Elsewhere (path.map separator)) stream) (beginPull host {} lpath)
      (fun file client => file = path.map separator ∧ Plain (Elsewhere file) stream client)
      fail := by
  obtain ⟨str, str_eq, path_eq⟩ := eq_of_opened opens
  rw [beginPull]
  refine (elsewhere_unlink _).bind fun _ => ?_
  rw [str_eq]
  refine (elsewhere_note _).bind fun _ => ?_
  rw [adbCreat, path_eq]
  refine (elsewhere_update fun _ => some []).bind fun _ => ?_
  refine Triple.bind (plain_noteOpened fun _ elsewhere => elsewhere) fun _ => ?_
  exact .pure fun _ plain => ⟨rfl, plain⟩

theorem overruns_beginPull (overruns : Overruns host lpath) :
    Triple (Plain Anyhow stream) (beginPull host {} lpath) (fun _ client => ¬client.Intact)
      fun client => ¬client.Intact := by
  cases str_eq : replaceThird 47 (host.utf8ToGbk lpath) with
  | none =>
      rw [Overruns, str_eq] at overruns
      exact overruns.elim
  | some str =>
      rw [Overruns, str_eq] at overruns
      dsimp only at overruns
      rw [beginPull, str_eq]
      refine (anyhow_onDisk _).bind fun _ => ?_
      have noted : Triple (Plain Anyhow stream) (copyParent str)
          (fun _ client => ¬client.Intact) fun client => ¬client.Intact := by
        intro client _
        have overrun : ¬(copyParent str client).2.Intact := fun intact => by
          have copied : (parent str).length + 1 ≤ 260 :=
            intact (.copy 260 _) (List.mem_append_right _ (List.mem_singleton_self _))
          omega
        exact ⟨fun _ _ => overrun, fun _ => overrun⟩
      refine noted.bind fun _ => ?_
      have remembers : Remembers (adbCreat host {} lpath) := by
        rw [adbCreat]
        split
        · exact remembers_stop
        · refine (remembers_onDisk _).bind fun _ => ?_
          exact Remembers.bind (fun _ => List.prefix_rfl) fun _ => remembers_pure _
      exact remembers.not_intact

theorem overruns_receive (begins : Begins stream) (overruns : Overruns host lpath) :
    Triple (Plain Anyhow (stream.drop 8)) (receive host {} lpath (stream.take 8))
      (fun _ client => ¬client.Intact) fun client => ¬client.Intact := by
  rw [receive, wordOf_take (by omega), if_pos begins.2]
  refine (overruns_beginPull overruns).bind fun file => ?_
  have remembers : Remembers fun client =>
      handleData host {} lpath file (client.connection.incoming.length + 1) 0 (stream.take 8)
        client :=
    fun client => remembers_handleData file _ 0 (stream.take 8) client
  exact remembers.not_intact

/-- An answer that is not broken lets the pull return, whatever it says. -/
theorem returns_receive {path : WPath} (opens : Begins stream → opened host lpath = some path)
    (nonnegative : Nonnegative (pullLengths stream)) (whole : (pulled stream).2 ≠ .broken) :
    Triple (Plain (Elsewhere (path.map separator)) (stream.drop 8))
      (receive host {} lpath (stream.take 8)) (fun _ => Elsewhere (path.map separator))
      fun _ => False := by
  obtain ⟨enough, later, fuel_eq, kind⟩ := transfer_cases whole
  have fuel : stream.length - 7 = (stream.drop 8).length + 1 := by
    rw [List.length_drop]
    omega
  rw [pullLengths, fuel] at nonnegative
  rw [pulled, fuel] at whole
  rw [receive, wordOf_take (by omega), List.drop_take, wordOf_take (by omega)]
  split
  · next begins =>
      refine (returns_beginPull (opens ⟨enough, begins⟩)).bind fun file => .assume fun same => ?_
      obtain rfl := same
      exact plain_rounds (fun fuel => handleData host {} lpath _ fuel 0 (stream.take 8))
        (returns_handleData (fun _ => rfl) _ 0 nonnegative whole)
  · next other =>
      rw [not_or] at other
      rcases kind with isDone | ⟨isData, -⟩ | ⟨-, -, text, -⟩
      · exact absurd isDone other.2
      · exact absurd isData other.1
      · refine returns_remoteError (small_of_nonnegative enough nonnegative) fun failed => ?_
        rw [List.length_drop]
        have := text failed
        omega

end Wrong

/-! ## When a pull is exact -/

/-- In every run `sync_recv` stays inside its buffers, and if it returns zero the file is on the
disk as it was delivered. -/
def PullsExactly (host : Host) (lpath : List UInt8) (showProgress : Bool) (stream : List UInt8) :
    Prop :=
  ∀ calls rpath client, client.connection.incoming = stream → client.Intact →
    (syncRecv host calls rpath lpath showProgress client).2.Intact ∧
      ((syncRecv host calls rpath lpath showProgress client).1 = some () →
        Copied host lpath (afterStat stream showProgress)
          (syncRecv host calls rpath lpath showProgress client).2)

/-- The directory fits where it is copied to if the file is touched; and unless a conversion is too
short the answer is taken as it is, and the path has its separator if a file is delivered. -/
def Pullable (host : Host) (lpath stream : List UInt8) : Prop :=
  (Begins stream → ¬Overruns host lpath) ∧
    ((Begins stream → (opened host lpath).isSome) →
      Taken stream ∧ ((pulled stream).2 = .done → Rooted host lpath))

theorem pullsExactly_of_pullable {showProgress : Bool} {stream : List UInt8}
    (pullable : Pullable host lpath (afterStat stream showProgress)) :
    PullsExactly host lpath showProgress stream := by
  intro calls rpath client left intact
  have ran : Triple (Reads Client.Intact stream) (syncRecv host calls rpath lpath showProgress)
      (fun _ client => client.Intact ∧
        Copied host lpath (afterStat stream showProgress) client) Client.Intact :=
    triple_answer offline_intact rpath showProgress fun enough =>
      copied_receive enough pullable.1 pullable.2
  obtain ⟨returned, failed⟩ := ran client ⟨intact, left⟩
  cases result : (syncRecv host calls rpath lpath showProgress client).1 with
  | none => exact ⟨failed result, fun no => by cases no⟩
  | some value =>
      obtain ⟨intact', copied⟩ := returned value result
      exact ⟨intact', fun _ => copied⟩

section Exact

variable {showProgress : Bool} {stream : List UInt8}

/-- A run of a fresh client over which nothing fails. -/
theorem PullsExactly.run (exact : PullsExactly host lpath showProgress stream)
    {post : Unit → Client → Prop} {fail held : Client → Prop}
    (triple : Triple (Plain held stream) (syncRecv host {} [] lpath showProgress) post fail)
    (holds : held { connection := { incoming := stream } }) :
    ∃ after : Client, after.Intact ∧
      ((post () after ∧ Copied host lpath (afterStat stream showProgress) after) ∨ fail after) := by
  have fresh : ({ connection := { incoming := stream } } : Client).Intact := by
    simp [Client.Intact]
  obtain ⟨intact, copied⟩ := exact {} [] _ rfl fresh
  obtain ⟨returned, failed⟩ := triple _ ⟨holds, rfl, rfl, rfl⟩
  refine ⟨_, intact, ?_⟩
  cases result : (syncRecv host {} [] lpath showProgress
      { connection := { incoming := stream } }).1 with
  | none => exact .inr (failed result)
  | some value => exact .inl ⟨returned value result, copied result⟩

theorem not_overruns_of_exact (exact : PullsExactly host lpath showProgress stream)
    (begins : Begins (afterStat stream showProgress)) : ¬Overruns host lpath := by
  intro overruns
  obtain ⟨after, intact, ⟨no, -⟩ | no⟩ := exact.run
    (plain_answer offline_anyhow showProgress (Nat.zero_le _) begins.1
      (overruns_receive begins overruns)) trivial
  · exact no intact
  · exact no intact

theorem nonnegative_of_exact (exact : PullsExactly host lpath showProgress stream)
    (opens : Begins (afterStat stream showProgress) → (opened host lpath).isSome) :
    Nonnegative (pullLengths (afterStat stream showProgress)) := by
  by_contra negative
  have enough := enough_of_negative negative
  have receive := overrun_receive negative fun begins => by
    obtain ⟨path, opened_eq⟩ := Option.isSome_iff_exists.mp (opens ⟨enough, begins⟩)
    obtain ⟨str, gbk, wide⟩ := eq_of_opened opened_eq
    exact ⟨str, path, gbk, wide⟩
  obtain ⟨after, intact, ⟨no, -⟩ | no⟩ := exact.run
    (plain_answer offline_anyhow showProgress (Nat.zero_le _) enough receive) trivial
  · exact no.not_intact intact
  · exact no.not_intact intact

/-- Whatever returns zero has delivered the file where the path says. -/
theorem rooted_of_exact (exact : PullsExactly host lpath showProgress stream)
    (opens : Begins (afterStat stream showProgress) → (opened host lpath).isSome)
    (whole : (pulled (afterStat stream showProgress)).2 ≠ .broken) :
    (pulled (afterStat stream showProgress)).2 = .done ∧ Rooted host lpath := by
  have nonnegative := nonnegative_of_exact exact opens
  have opened_eq : Begins (afterStat stream showProgress) →
      opened host lpath = some ((opened host lpath).getD []) := fun begins => by
    obtain ⟨path, opened_eq⟩ := Option.isSome_iff_exists.mp (opens begins)
    rw [opened_eq, Option.getD_some]
  have enough := (transfer_cases whole).1
  obtain ⟨after, -, ⟨elsewhere, content, delivers, there⟩ | no⟩ := exact.run
    (plain_answer offline_elsewhere showProgress (Nat.zero_le _) enough
      (returns_receive opened_eq nonnegative whole)) fun _ _ => rfl
  · have done := delivers_iff.mp delivers
    refine ⟨congrArg Prod.snd done, (rooted_iff (opened_eq delivers.begins)).mpr ?_⟩
    by_contra other
    rw [elsewhere _ (Ne.symm other)] at there
    cases there
  · exact no.elim

/-- For every host, local path and answer: `sync_recv` pulls exactly in every run if and only if
the path and the answer are `Pullable`. -/
theorem syncRecv_exact_iff (host : Host) (lpath : List UInt8) (showProgress : Bool)
    (stream : List UInt8) :
    PullsExactly host lpath showProgress stream ↔
      Pullable host lpath (afterStat stream showProgress) := by
  refine ⟨fun exact => ⟨not_overruns_of_exact exact, fun opens => ?_⟩, pullsExactly_of_pullable⟩
  refine ⟨⟨nonnegative_of_exact exact opens, fun refused => ?_⟩, fun done => ?_⟩
  · obtain ⟨done, -⟩ := rooted_of_exact exact opens (by rw [refused]; decide)
    rw [refused] at done
    cases done
  · exact (rooted_of_exact exact opens (by rw [done]; decide)).2

end Exact

/-- A host whose three encodings are the same for ASCII. -/
def asciiHost : Host where
  utf8ToUnicode := List.map UInt8.toUInt16
  utf8ToGbk := id
  ansi := List.map UInt8.toUInt16

/-- A refusal ends in a zero without any file, and a path whose third character is not a separator
is created under another name. -/
theorem syncRecv_not_exact :
    ¬PullsExactly asciiHost (ascii "C:/out.txt") false (pair idFail 0) ∧
      ¬PullsExactly asciiHost (ascii "out.txt") false (pair idDone 0) := by
  have missing {lpath stream : List UInt8}
      (returned : (syncRecv asciiHost {} [] lpath false
        { connection := { incoming := stream } }).1 = some ())
      (absent : (syncRecv asciiHost {} [] lpath false
        { connection := { incoming := stream } }).2.disk (named asciiHost lpath) = none) :
      ¬PullsExactly asciiHost lpath false stream := by
    intro exact
    have fresh : ({ connection := { incoming := stream } } : Client).Intact := by
      simp [Client.Intact]
    obtain ⟨content, -, there⟩ := (exact {} [] _ rfl fresh).2 returned
    rw [absent] at there
    cases there
  refine ⟨missing ?_ ?_, missing ?_ ?_⟩
  · with_unfolding_all decide
  · with_unfolding_all decide
  · with_unfolding_all decide
  · with_unfolding_all decide

end Sync
end AdbWide
