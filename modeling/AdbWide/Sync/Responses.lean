import AdbWide.Sync.Service

/-!
# One response for each request

A client that waits for the response to one request before it sends the next one counts on getting
exactly one.  This file says what the responses are, and when the sync service keeps to them.
-/

namespace AdbWide
namespace Sync

open Wire (Connection Writable)
open Program (Emits attempt stop)
open Sockets.Server (ascii)

/-! ## Responses -/

/-- One `OKAY` or one `FAIL`. -/
def IsStatus (bytes : List UInt8) : Prop :=
  bytes = pair idOkay 0 ∨ ∃ reason : List UInt8, reason.length < 2 ^ 31 ∧
    bytes = message idFail reason

/-- So many statuses, one after the other. -/
def Statuses (count : Nat) (bytes : List UInt8) : Prop :=
  ∃ statuses : List (List UInt8), statuses.length = count ∧
    (∀ status ∈ statuses, IsStatus status) ∧ bytes = statuses.flatten

/-- An entry of a listing. -/
def dent (entry : Stat × List UInt8) : List UInt8 :=
  dentRecord idDent entry.1 (.ofNat entry.2.length) ++ entry.2

/-- The response to a request. -/
def Answers : Kind → List UInt8 → Prop
  | .stat, bytes => ∃ st, bytes = statRecord idStat st
  | .list, bytes => ∃ entries : List (Stat × List UInt8),
      (∀ entry ∈ entries, entry.2.length ≤ 256) ∧
      bytes = entries.flatMap dent ++ dentRecord idDone ⟨0, 0, 0⟩ 0
  | .send, bytes => IsStatus bytes
  | .recv, bytes => ∃ chunks : List (List UInt8), (∀ chunk ∈ chunks, chunk.length ≤ syncDataMax) ∧
      ∃ last, bytes = chunks.flatMap (message idData) ++ last ∧
        (last = pair idDone 0 ∨ ∃ reason : List UInt8, reason.length < 2 ^ 31 ∧
          last = message idFail reason)

theorem length_of_isStatus {status : List UInt8} (isStatus : IsStatus status) (rest : List UInt8) :
    status.length = 8 + (wordOf ((status ++ rest).drop 4)).toNat := by
  rcases isStatus with rfl | ⟨reason, short, rfl⟩
  · rw [wordOf_drop_pair_append]
    rfl
  · rw [message, List.append_assoc, wordOf_drop_pair_append, List.length_append, length_pair,
      UInt32.toNat_ofNat_of_lt' (by simp only [UInt32.size]; omega)]

/-- A client can tell one status from more of them. -/
theorem Statuses.eq_zero {count : Nat} {bytes : List UInt8} (statuses : Statuses (count + 1) bytes)
    (single : IsStatus bytes) : count = 0 := by
  obtain ⟨all, size, each, rfl⟩ := statuses
  cases all with
  | nil => cases size
  | cons first rest =>
      have size_first := length_of_isStatus (each first List.mem_cons_self) rest.flatten
      have size_all := length_of_isStatus single []
      rw [List.append_nil, List.flatten_cons, ← size_first, List.length_append] at size_all
      cases rest with
      | nil => simpa using size.symm
      | cons second rest =>
          have size_second := length_of_isStatus
            (each second (List.mem_cons_of_mem _ List.mem_cons_self)) []
          rw [List.flatten_cons, List.length_append] at size_all
          omega

theorem Statuses.none : Statuses 0 [] := ⟨[], rfl, by simp, rfl⟩

theorem Statuses.one {bytes : List UInt8} (isStatus : IsStatus bytes) : Statuses 1 bytes :=
  ⟨[bytes], rfl, by simpa using isStatus, by simp⟩

theorem Statuses.append {count count' : Nat} {bytes bytes' : List UInt8}
    (first : Statuses count bytes) (second : Statuses count' bytes') :
    Statuses (count + count') (bytes ++ bytes') := by
  obtain ⟨all, size, each, rfl⟩ := first
  obtain ⟨all', size', each', rfl⟩ := second
  refine ⟨all ++ all', by rw [List.length_append, size, size'], ?_, List.flatten_append.symm⟩
  intro status member
  rcases List.mem_append.mp member with inside | inside
  · exact each status inside
  · exact each' status inside

theorem Statuses.isStatus {bytes : List UInt8} (statuses : Statuses 1 bytes) : IsStatus bytes := by
  obtain ⟨all, size, each, rfl⟩ := statuses
  obtain ⟨status, rfl⟩ := List.length_eq_one_iff.mp size
  rw [List.flatten_singleton]
  exact each status List.mem_cons_self

/-! ## What each part writes -/

section

variable {strict : Prop} {device : Device} {calls : Calls}

theorem emits_failMessage (reason : List UInt8) :
    Emits (Strict strict) Connection.outgoing (failMessage reason)
      fun _ out => out = message idFail reason := by
  refine (emits_writex _).bind fun _ out header => ?_
  refine (emits_writex _).mono fun _ out' text => ?_
  rw [header, text, message]

theorem isSome_failMessage {connection : Connection} (writable : Writable connection.writes)
    (reason : List UInt8) : (failMessage reason connection).1.isSome := by
  have first := isSome_writex writable (pair idFail (.ofNat reason.length))
  have emits : Emits (Strict True) Connection.outgoing
      (writex (pair idFail (.ofNat reason.length))) _ := emits_writex _
  obtain ⟨_, -, later, -⟩ := emits connection fun _ => writable
  rw [failMessage, Program.bind_apply]
  cases ran : writex (pair idFail (.ofNat reason.length)) connection with
  | mk result middle =>
      rw [ran] at first later
      obtain ⟨_, rfl⟩ := Option.isSome_iff_exists.mp first
      exact isSome_writex (later trivial) reason

theorem emits_failErrno (errno : Nat) :
    Emits (Strict strict) Connection.outgoing (failErrno device errno)
      fun _ out => IsStatus out := by
  refine (emits_failMessage _).mono fun _ out text => ?_
  exact .inr ⟨device.strerror errno, device.strerror_short errno, text⟩

/-- A request that is refused does not come to an end. -/
theorem emits_refuse {Value : Type} {post : Value → List UInt8 → Prop} (reason : String) :
    Emits (Strict strict) Connection.outgoing (refuse reason) post :=
  (emits_failMessage _).attempt_any.bind fun _ _ _ => .stop

theorem emits_listEntries (entries : List DirEntry) :
    Emits (Strict strict) Connection.outgoing (listEntries entries) fun _ out =>
      ∃ sent : List (Stat × List UInt8), (∀ entry ∈ sent, entry.2.length ≤ 256) ∧
        out = sent.flatMap dent := by
  induction entries with
  | nil => exact (Emits.pure ()).mono fun _ out nothing => ⟨[], by simp, nothing.2⟩
  | cons entry entries induction =>
      rw [listEntries]
      split
      · exact induction
      · next short =>
          split
          · exact induction
          · next st found =>
              refine (emits_writex _).bind fun _ out record => ?_
              refine (emits_writex _).bind fun _ out' name => ?_
              refine induction.mono fun _ out'' later => ?_
              obtain ⟨sent, sizes, rfl⟩ := later
              refine ⟨(st, entry.name) :: sent, ?_, ?_⟩
              · rw [List.forall_mem_cons]
                exact ⟨Nat.le_of_not_lt short, sizes⟩
              · rw [record, name, List.flatMap_cons, dent, List.append_assoc]

theorem emits_doList :
    Emits (Strict strict) Connection.outgoing (doList calls)
      fun _ out => Answers .list out := by
  refine (emits_listEntries _).bind fun _ out listed => ?_
  refine (emits_writex _).mono fun _ out' last => ?_
  obtain ⟨sent, sizes, rfl⟩ := listed
  exact ⟨sent, sizes, by rw [last]⟩

theorem Answers.recv_cons {chunk out : List UInt8} (short : chunk.length ≤ syncDataMax)
    (later : Answers .recv out) : Answers .recv (message idData chunk ++ out) := by
  obtain ⟨chunks, sizes, last, rfl, closed⟩ := later
  refine ⟨chunk :: chunks, ?_, last, ?_, closed⟩
  · rw [List.forall_mem_cons]
    exact ⟨short, sizes⟩
  · rw [List.flatMap_cons, List.append_assoc]

theorem emits_recvLoop (reads : List ReadResult) :
    Emits (Strict strict) Connection.outgoing (recvLoop device reads)
      fun _ out => Answers .recv out := by
  have ended : Emits (Strict strict) Connection.outgoing (writex (pair idDone 0))
      fun _ out => Answers .recv out :=
    (emits_writex _).mono fun _ out last => ⟨[], by simp, out, by simp, .inl last⟩
  induction reads with
  | nil => exact ended
  | cons result reads induction =>
      cases result with
      | read bytes =>
          rw [recvLoop]
          split
          · exact ended
          · refine (emits_writex _).bind fun _ out header => ?_
            refine (emits_writex _).bind fun _ out' data => ?_
            refine induction.mono fun _ out'' later => ?_
            rw [header, data, ← List.append_assoc]
            exact later.recv_cons (List.length_take_le _ _)
      | failed errno =>
          rw [recvLoop]
          split
          · exact induction
          · refine (emits_failMessage _).mono fun _ out text => ?_
            exact ⟨[], by simp, out, by simp,
              .inr ⟨device.strerror errno, device.strerror_short errno, text⟩⟩

theorem emits_doRecv :
    Emits (Strict strict) Connection.outgoing (doRecv device calls)
      fun _ out => Answers .recv out := by
  rw [doRecv]
  split
  · exact emits_recvLoop _
  · next errno refused =>
      refine (emits_failMessage _).mono fun _ out text => ?_
      exact ⟨[], by simp, out, by simp,
        .inr ⟨device.strerror errno, device.strerror_short errno, text⟩⟩

end

/-! ## Files that are sent -/

/-- How the calls that create the file end. -/
def Calls.created (calls : Calls) (path : List UInt8) : CallResult :=
  if calls.create = .failed enoent then
    if mkdirs calls.mkdir enoent path = none then calls.createAgain
    else .failed calls.errnoAfterFail
  else calls.create

/-- The directories of the file are missing and cannot be made. -/
def Calls.mkdirsFails (calls : Calls) (path : List UInt8) : Bool :=
  calls.create = .failed enoent ∧ mkdirs calls.mkdir enoent path ≠ none

/-- The file is open and cannot be given to its owner. -/
def Calls.fchownFails (calls : Calls) (path : List UInt8) : Bool :=
  calls.reopened (calls.created path) = .done ∧ calls.fchown ≠ .done

section

variable {strict : Prop} {device : Device} {calls : Calls}

theorem emits_createFile (path : List UInt8) :
    Emits (Strict strict) Connection.outgoing (createFile device calls path)
      fun created out =>
        created = calls.created path ∧ Statuses (calls.mkdirsFails path).toNat out := by
  have quiet {created : CallResult} (same : calls.created path = created)
      (made : calls.mkdirsFails path = false) :
      Emits (Strict strict) Connection.outgoing (pure created : Program Connection CallResult)
        fun created out =>
          created = calls.created path ∧ Statuses (calls.mkdirsFails path).toNat out := by
    refine (Emits.pure created).mono fun _ out nothing => ?_
    obtain ⟨rfl, rfl⟩ := nothing
    rw [made]
    exact ⟨same.symm, .none⟩
  rw [createFile]
  split
  · next created =>
      exact quiet (by simp [Calls.created, created]) (by simp [Calls.mkdirsFails, created])
  · next errno uncreated =>
      split
      · next missing =>
          rw [missing] at uncreated
          split
          · next errno' unmade =>
              refine (emits_failErrno errno').bind fun _ out status => ?_
              refine (Emits.pure _).mono fun _ out' nothing => ?_
              obtain ⟨rfl, rfl⟩ := nothing
              have fails : calls.mkdirsFails path = true := by
                simp [Calls.mkdirsFails, uncreated, unmade]
              rw [fails, List.append_nil]
              exact ⟨by simp [Calls.created, uncreated, unmade], .one status⟩
          · next made =>
              exact quiet (by simp [Calls.created, uncreated, made])
                (by simp [Calls.mkdirsFails, made])
      · next other =>
          exact quiet (by simp [Calls.created, uncreated, other])
            (by simp [Calls.mkdirsFails, uncreated, other])

/-- Once the file is not open any more, nothing is written; until then at most one status is, and
the file is not open after it. -/
theorem emits_receiveFile (fuel index : Nat) (file : Option (List UInt8)) :
    Emits (Strict strict) Connection.outgoing (receiveFile device calls fuel index file)
      fun left out => left.isSome ∧ file.isSome ∧ out = [] ∨
        left = none ∧ Statuses file.isSome.toNat out := by
  induction fuel generalizing index file with
  | zero => exact .stop
  | succ fuel induction =>
      rw [receiveFile]
      refine (emits_readx 8).bind fun header out read => ?_
      obtain ⟨-, rfl⟩ := read
      simp only [List.nil_append]
      split
      · split
        · exact emits_refuse _
        · refine (emits_readx _).bind fun data out read => ?_
          obtain ⟨-, rfl⟩ := read
          simp only [List.nil_append]
          split
          · exact induction _ none
          · split
            · exact induction _ (some _)
            · refine (emits_failErrno _).bind fun _ out status => ?_
              refine (induction _ none).mono fun left out' later => ?_
              rcases later with ⟨-, opened, -⟩ | ⟨closed, nothing⟩
              · cases opened
              · exact .inr ⟨closed, (Statuses.one status).append nothing⟩
      · split
        · refine (Emits.pure _).mono fun left out nothing => ?_
          obtain ⟨rfl, rfl⟩ := nothing
          cases left with
          | none => exact .inr ⟨rfl, .none⟩
          | some written => exact .inl ⟨rfl, rfl, rfl⟩
        · exact emits_refuse _

theorem emits_finishFile (file : Option (List UInt8)) :
    Emits (Strict strict) Connection.outgoing (finishFile file)
      fun _ out => Statuses file.isSome.toNat out := by
  cases file with
  | none =>
      refine (Emits.pure _).mono fun _ out nothing => ?_
      rw [nothing.2]
      exact .none
  | some written =>
      refine (emits_writex _).bind fun _ out status => ?_
      refine (Emits.pure _).mono fun _ out' nothing => ?_
      rw [nothing.2, List.append_nil]
      exact .one (.inl status)

theorem emits_beginFile (opened : CallResult) :
    Emits (Strict strict) Connection.outgoing (beginFile device calls opened)
      fun file out => (opened = .done ∧ calls.fchown ≠ .done → strict) →
        ∃ count, Statuses count out ∧ count + file.isSome.toNat =
          1 + (decide (opened = .done ∧ calls.fchown ≠ .done)).toNat := by
  cases opened with
  | failed errno =>
      refine (emits_failErrno errno).bind fun _ out status => ?_
      refine (Emits.pure _).mono fun _ out' nothing _ => ?_
      obtain ⟨rfl, rfl⟩ := nothing
      rw [List.append_nil]
      exact ⟨1, .one status, by simp⟩
  | done =>
      rw [beginFile]
      split
      · next owned =>
          refine (Emits.pure _).mono fun _ out nothing _ => ?_
          obtain ⟨rfl, rfl⟩ := nothing
          exact ⟨0, .none, by simp [owned]⟩
      · next errno unowned =>
          have told : Emits (Strict strict) Connection.outgoing
              (attempt (failErrno device errno)) fun _ out => strict → IsStatus out := by
            by_cases asked : strict
            · refine Emits.mono ((emits_failErrno errno).attempt fun connection writable =>
                isSome_failMessage (writable asked) _) fun _ out status _ => ?_
              obtain ⟨-, -, status⟩ := status
              exact status
            · exact (emits_failErrno errno).attempt_any.mono fun _ _ _ given => absurd given asked
          refine told.bind fun _ out status => ?_
          refine (Emits.pure _).mono fun _ out' nothing given => ?_
          obtain ⟨rfl, rfl⟩ := nothing
          rw [List.append_nil]
          exact ⟨1, .one (status (given ⟨rfl, by simp [unowned]⟩)), by simp [unowned]⟩

/-- A file that is sent gets one status, and one more for each of the two failures that are told
before the file is given up.  The second of these messages may be cut off by the socket. -/
theorem emits_handleSendFile (path : List UInt8) :
    Emits (Strict strict) Connection.outgoing (handleSendFile device calls path)
      fun _ out => (calls.fchownFails path = true → strict) → Statuses
        ((calls.mkdirsFails path).toNat + (calls.fchownFails path).toNat + 1) out := by
  refine (emits_createFile path).bind fun created out same => ?_
  obtain ⟨rfl, statuses⟩ := same
  refine (emits_beginFile _).bind fun file begun begins => ?_
  have received : Emits (Strict strict) Connection.outgoing
      (fun connection =>
        receiveFile device calls (connection.incoming.length + 1) 0 file connection) _ :=
    fun connection => emits_receiveFile (connection.incoming.length + 1) 0 file connection
  refine received.bind fun left middle left_eq => ?_
  refine (emits_finishFile left).mono fun _ last finished told => ?_
  obtain ⟨count, statuses', total⟩ := begins (by simpa [Calls.fchownFails] using told)
  have rest : Statuses file.isSome.toNat (middle ++ last) := by
    rcases left_eq with ⟨opened, was, rfl⟩ | ⟨rfl, failed⟩
    · rw [opened] at finished
      rwa [was, List.nil_append]
    · exact failed.append finished
  have all := statuses.append (statuses'.append rest)
  rw [total] at all
  rw [Calls.fchownFails, Nat.add_assoc, Nat.add_comm _ 1]
  simpa only [List.append_assoc] using all

theorem emits_makeLink (path : List UInt8) :
    Emits (Strict strict) Connection.outgoing (makeLink device calls path)
      fun _ out => out = [] := by
  have quiet (linked : CallResult) : Emits (Strict strict) Connection.outgoing
      (pure linked : Program Connection CallResult) fun _ out => out = [] :=
    (Emits.pure linked).mono fun _ _ nothing => nothing.2
  rw [makeLink]
  split
  · exact quiet _
  · split
    · split
      · exact (emits_failErrno _).attempt_any.bind fun _ _ _ => .stop
      · exact quiet _
    · exact quiet _

theorem emits_finishLink (linked : CallResult) :
    Emits (Strict strict) Connection.outgoing (finishLink device linked)
      fun _ out => IsStatus out := by
  cases linked with
  | failed errno => exact (emits_failErrno _).attempt_any.bind fun _ _ _ => .stop
  | done =>
      refine (emits_readx 8).bind fun header out read => ?_
      rw [read.2]
      split
      · exact (emits_writex _).mono fun _ out' status => .inl status
      · exact emits_refuse _

theorem emits_handleSendLink (path : List UInt8) :
    Emits (Strict strict) Connection.outgoing (handleSendLink device calls path)
      fun _ out => IsStatus out := by
  refine (emits_readx 8).bind fun header out read => ?_
  obtain ⟨-, rfl⟩ := read
  simp only [List.nil_append]
  split
  · split
    · exact emits_refuse _
    · refine (emits_readx _).bind fun data out read => ?_
      obtain ⟨-, rfl⟩ := read
      refine (emits_makeLink path).bind fun linked out quiet => ?_
      obtain rfl := quiet
      simpa only [List.nil_append] using emits_finishLink linked
  · exact emits_refuse _

end

/-! ## Sessions -/

/-- The failures that are told to the client on top of the response: a file is sent and its
directories cannot be made, or it cannot be given to its owner. -/
def Surplus (device : Device) (calls : Calls) (kind : Kind) (path : List UInt8) : Prop :=
  kind = .send ∧ (sendTarget device path).2 = false ∧
    (calls.mkdirsFails (sendTarget device path).1 = true ∨
      calls.fchownFails (sendTarget device path).1 = true)

section

variable {strict : Prop} {device : Device} {calls : Calls}

/-- What is written for a request is one response, unless there is a failure on top of it. -/
theorem emits_answer (kind : Kind) (path : List UInt8) :
    Emits (Strict strict) Connection.outgoing (answer device calls kind path)
      fun _ out => (Surplus device calls kind path → strict) →
        (Answers kind out ↔ ¬Surplus device calls kind path) := by
  have plain {Value : Type} {program : Program Connection Value} {result : Value → _}
      (other : ¬Surplus device calls kind path)
      (emits : Emits (Strict strict) Connection.outgoing program fun _ out => Answers kind out) :
      Emits (Strict strict) Connection.outgoing
        (do
          let value ← program
          return result value)
        fun (_ : Option (List UInt8)) out => (Surplus device calls kind path → strict) →
          (Answers kind out ↔ ¬Surplus device calls kind path) := by
    refine emits.bind fun _ out answers => ?_
    refine (Emits.pure _).mono fun _ out' nothing _ => ?_
    rw [nothing.2, List.append_nil]
    exact iff_of_true answers other
  cases kind with
  | stat =>
      refine plain (by simp [Surplus]) ((emits_writex _).mono fun _ out written => ?_)
      exact ⟨_, written⟩
  | list => exact plain (by simp [Surplus]) emits_doList
  | recv => exact plain (by simp [Surplus]) emits_doRecv
  | send =>
      rw [answer, doSend]
      cases found : sendTarget device path with
      | mk target isLink =>
          cases isLink with
          | true => exact plain (by simp [Surplus, found]) (emits_handleSendLink _)
          | false =>
              refine (emits_handleSendFile _).mono fun _ out statuses told => ?_
              simp only [Surplus, found, true_and] at told ⊢
              have counted := statuses fun fails => told (.inr fails)
              constructor
              · intro single
                have zero := counted.eq_zero single
                simpa using zero
              · intro unfailed
                rw [not_or, Bool.not_eq_true, Bool.not_eq_true] at unfailed
                rw [unfailed.1, unfailed.2] at counted
                exact counted.isStatus

theorem emits_nextRequest :
    Emits (Strict strict) Connection.outgoing nextRequest fun _ out => out = [] := by
  have read (len : Nat) : Emits (Strict strict) Connection.outgoing (attempt (readx len))
      fun _ out => out = [] := by
    intro before writable
    exact ⟨[], (List.append_nil _).symm, writable, fun _ _ => rfl⟩
  refine (read 8).bind fun header out quiet => ?_
  obtain rfl := quiet
  simp only [List.nil_append]
  split
  · exact emits_refuse _
  · split
    · exact emits_refuse _
    · refine (read _).bind fun name out quiet => ?_
      obtain rfl := quiet
      simp only [List.nil_append]
      split
      · exact emits_refuse _
      · split
        · exact (Emits.pure _).mono fun _ out nothing => nothing.2
        · split
          · exact .stop
          · exact emits_refuse _

section Session

variable {world : Nat → Calls} {requests index : Nat} {connection asked answered last : Connection}
  {kind : Kind} {path : List UInt8} {stored : Option (List UInt8)}

theorem fileSyncService_stopped (next : nextRequest connection = (none, last)) :
    fileSyncService device world (requests + 1) index connection = ([], last) := by
  rw [fileSyncService, next]

theorem fileSyncService_failed (next : nextRequest connection = (some (kind, path), asked))
    (ran : answer device (world index) kind path asked = (none, last)) :
    fileSyncService device world (requests + 1) index connection = ([], last) := by
  rw [fileSyncService, next]
  simp only [ran]

theorem fileSyncService_answered (next : nextRequest connection = (some (kind, path), asked))
    (ran : answer device (world index) kind path asked = (some stored, answered)) :
    fileSyncService device world (requests + 1) index connection =
      (⟨kind, path, world index, answered.outgoing.drop asked.outgoing.length, stored⟩ ::
          (fileSyncService device world requests (index + 1) answered).1,
        (fileSyncService device world requests (index + 1) answered).2) := by
  rw [fileSyncService, next]
  simp only [ran]

end Session

/-- What a session writes is what it writes for the requests it completes, in their order, and what
it writes for the last one if that is not completed. -/
theorem session_output (device : Device) (world : Nat → Calls) (requests index : Nat)
    {connection : Connection} (writable : Strict strict connection) :
    ∃ tail, (fileSyncService device world requests index connection).2.outgoing =
        connection.outgoing ++
          (fileSyncService device world requests index connection).1.flatMap Exchange.output ++
          tail ∧
      ∀ e ∈ (fileSyncService device world requests index connection).1,
        (Surplus device e.calls e.kind e.path → strict) →
          (Answers e.kind e.output ↔ ¬Surplus device e.calls e.kind e.path) := by
  induction requests generalizing index connection with
  | zero => exact ⟨[], by simp [fileSyncService], by simp [fileSyncService]⟩
  | succ requests induction =>
      obtain ⟨out, asked_eq, writable', quiet⟩ := emits_nextRequest connection writable
      cases next : nextRequest connection with
      | mk result asked =>
          rw [next] at asked_eq writable' quiet
          dsimp only at asked_eq
          cases result with
          | none =>
              rw [fileSyncService_stopped next]
              exact ⟨out, by simpa using asked_eq, by simp⟩
          | some request =>
              obtain ⟨kind, path⟩ := request
              obtain rfl := quiet _ rfl
              rw [List.append_nil] at asked_eq
              have emits : Emits (Strict strict) Connection.outgoing
                  (answer device (world index) kind path) _ := emits_answer kind path
              obtain ⟨out, answered_eq, writable'', said⟩ := emits asked writable'
              cases ran : answer device (world index) kind path asked with
              | mk result answered =>
                  rw [ran] at answered_eq writable'' said
                  dsimp only at answered_eq
                  cases result with
                  | none =>
                      rw [fileSyncService_failed next ran]
                      exact ⟨out, by simpa [← asked_eq] using answered_eq, by simp⟩
                  | some stored =>
                      rw [fileSyncService_answered next ran]
                      obtain ⟨tail, last_eq, each⟩ := induction (index + 1) writable''
                      have output : answered.outgoing.drop asked.outgoing.length = out := by
                        rw [answered_eq, List.drop_left]
                      refine ⟨tail, ?_, ?_⟩
                      · dsimp only at last_eq ⊢
                        rw [last_eq, List.flatMap_cons, output, answered_eq, asked_eq]
                        simp only [List.append_assoc]
                      · rw [List.forall_mem_cons]
                        exact ⟨output ▸ said _ rfl, each⟩

end

/-- Each request that is completed got its response. -/
def InStep (session : List Exchange) : Prop :=
  ∀ e ∈ session, Answers e.kind e.output

/-- What a session writes is one response for each request it completes, in the order of the
requests, if no file is sent whose directories cannot be made or that cannot be given to its owner;
and only then, where the socket takes all that is written. -/
theorem fileSyncService_inStep (device : Device) (world : Nat → Calls) (requests : Nat)
    (connection : Connection) :
    (∃ tail, (fileSyncService device world requests 0 connection).2.outgoing =
      connection.outgoing ++
        (fileSyncService device world requests 0 connection).1.flatMap Exchange.output ++ tail) ∧
    ((∀ e ∈ (fileSyncService device world requests 0 connection).1,
        ¬Surplus device e.calls e.kind e.path) →
      InStep (fileSyncService device world requests 0 connection).1) ∧
    (Writable connection.writes →
      (InStep (fileSyncService device world requests 0 connection).1 ↔
        ∀ e ∈ (fileSyncService device world requests 0 connection).1,
          ¬Surplus device e.calls e.kind e.path)) := by
  have lax : Strict False connection := fun asked => asked.elim
  obtain ⟨tail, output, each⟩ := session_output device world requests 0 lax
  refine ⟨⟨tail, output⟩, ?_, ?_⟩
  · intro unfailed e member
    have plain := unfailed e member
    exact (each e member fun surplus => plain surplus).mpr plain
  · intro writable
    have firm : Strict True connection := fun _ => writable
    obtain ⟨-, -, each⟩ := session_output device world requests 0 firm
    exact forall₂_congr fun e member => each e member fun _ => trivial

theorem not_isStatus_append {first second : List UInt8} (isStatus : IsStatus first)
    (isStatus' : IsStatus second) : ¬IsStatus (first ++ second) := fun single =>
  absurd (((Statuses.one isStatus).append (.one isStatus')).eq_zero single) Nat.one_ne_zero

/-- A device whose only message says that the file system is read-only. -/
def readOnlyDevice : Device where
  strerror := fun _ => ascii "Read-only file system"
  strerror_short := fun _ => by with_unfolding_all decide
  longBits := 32
  long_wide := Nat.le_refl 32
  haveSymlinks := true

/-- A client that sends one empty file. -/
def sendsEmpty : Connection where
  incoming := message idSend (ascii "/x/y,33188") ++ pair idDone 0

/-- Where the directory cannot be made the client is told twice, and where the owner cannot be set
it is told that it failed and that it did not. -/
theorem fileSyncService_out_of_step :
    (∃ e ∈ (fileSyncService readOnlyDevice
        (fun _ => { create := .failed enoent, mkdir := fun _ => .failed 30 }) 1 0 sendsEmpty).1,
      e.output = message idFail (ascii "Read-only file system") ++
        message idFail (ascii "Read-only file system") ∧ ¬Answers e.kind e.output) ∧
    ∃ e ∈ (fileSyncService readOnlyDevice (fun _ => { fchown := .failed 1 }) 1 0 sendsEmpty).1,
      e.output = message idFail (ascii "Read-only file system") ++ pair idOkay 0 ∧
        ¬Answers e.kind e.output := by
  have refused : IsStatus (message idFail (ascii "Read-only file system")) :=
    .inr ⟨_, readOnlyDevice.strerror_short 0, rfl⟩
  have told {session : List Exchange} {second : List UInt8} (isStatus : IsStatus second)
      (run : session.map (fun e => (e.kind, e.output)) =
        [(.send, message idFail (ascii "Read-only file system") ++ second)]) :
      ∃ e ∈ session, e.output = message idFail (ascii "Read-only file system") ++ second ∧
        ¬Answers e.kind e.output := by
    obtain ⟨e, rfl, fields⟩ := List.map_eq_singleton_iff.mp run
    obtain ⟨kind, output⟩ := Prod.mk.inj fields
    refine ⟨e, List.mem_singleton_self e, output, ?_⟩
    rw [kind, output]
    exact not_isStatus_append refused isStatus
  constructor
  · exact told refused (by with_unfolding_all decide)
  · exact told (.inl rfl) (by with_unfolding_all decide)

end Sync
end AdbWide
