import Mathlib.Data.List.Infix
import AdbWide.Sync.Storing

/-!
# The requests of the client

Six functions of the client write requests.  `sync_ls`, `sync_recv` and `sync_send` look at the
length of the remote path, the functions that ask for a `STAT` do not, and `sync_send` puts the mode
behind the path after it has looked.  The service does not take names of more than 1024 bytes.
-/

namespace AdbWide
namespace Sync

open Wire (Connection)
open Program (Emits Triple attempt stop)
open Sockets.Server (cString)

/-! ## The code -/

/-- `sync_start_readtime`. -/
def syncStartReadtime (path : List UInt8) : Program Client Unit := do
  io (writex (pair idStat (.ofNat path.length)))
  io (writex path)

/-- `sync_finish_readtime`. -/
def syncFinishReadtime : Program Client Stat := do
  let record ← io (readx 16)
  if wordOf record = idStat then
    return ⟨wordOf (record.drop 4), wordOf (record.drop 8), wordOf (record.drop 12)⟩
  else
    stop

/-- `sync_readtime`. -/
def syncReadtime (path : List UInt8) : Program Client UInt32 := do
  syncStartReadtime path
  let stat ← syncFinishReadtime
  return stat.time

/-- `sync_readmode`. -/
def syncReadmode (path : List UInt8) : Program Client UInt32 := do
  syncStartReadtime path
  let stat ← syncFinishReadtime
  return stat.mode

/-- A C string, in an address space of 32 bits. -/
abbrev RemotePath := { path : List UInt8 // 0 ∉ path ∧ path.length < 2 ^ 31 }

/-- The calls of the client that write requests. -/
inductive Call where
  | ls (path : RemotePath)
  | readtime (path : RemotePath)
  | startReadtime (path : RemotePath)
  | readmode (path : RemotePath)
  | send (calls : PushCalls) (rpath : RemotePath) (mtime mode : UInt32)
      (verifyApk showProgress : Bool)
  | recv (host : Host) (calls : PullCalls) (rpath : RemotePath) (lpath : List UInt8)
      (showProgress : Bool)

/-- Make a call; nobody looks at what it returns. -/
def Call.run : Call → Program Client Unit
  | .ls path => do
      let _ ← syncLs path.val
      pure ()
  | .readtime path => do
      let _ ← syncReadtime path.val
      pure ()
  | .startReadtime path => syncStartReadtime path.val
  | .readmode path => do
      let _ ← syncReadmode path.val
      pure ()
  | .send calls rpath mtime mode verifyApk showProgress =>
      syncSend calls rpath.val mtime mode verifyApk showProgress
  | .recv host calls rpath lpath showProgress => syncRecv host calls rpath.val lpath showProgress

/-! ## What the service makes of it -/

/-- A request, with its name as far as it is there. -/
structure Request where
  id : UInt32
  namelen : UInt32
  name : List UInt8

/-- The requests in a stream as `file_sync_service` reads them: a header, and behind it the name.
What is behind the name of a `SEND` is the file. -/
def requestsLoop : Nat → List UInt8 → List Request
  | 0, _ => []
  | fuel + 1, stream =>
      if stream.length < 8 then []
      else
        let namelen := wordOf (stream.drop 4)
        let request := ⟨wordOf stream, namelen, (stream.drop 8).take namelen.toNat⟩
        if wordOf stream = idSend then [request]
        else request :: requestsLoop fuel ((stream.drop 8).drop namelen.toNat)

/-- The requests in a stream. -/
def requests (stream : List UInt8) : List Request := requestsLoop stream.length stream

/-- The file and the mode that a call wants to send. -/
def Call.file : Call → Option (List UInt8 × UInt32)
  | .send _ rpath _ mode _ _ => some (rpath.val, mode)
  | _ => none

/-- `do_send` finds the path and the mode in a name. -/
def TakesApart (name path : List UInt8) (mode : UInt32) : Prop :=
  ∃ text, splitLastComma (cString name) = some (path, text) ∧ ∀ longBits ≥ 32,
    (strtoul longBits text).1 % 2 ^ 32 = mode.toNat ∧ (strtoul longBits text).2 = false

/-- The service takes the names of all requests in a stream, and finds in a complete `SEND` what the
call wants to send. -/
structure Understood (call : Call) (stream : List UInt8) : Prop where
  accepted : ∀ request ∈ requests stream, request.namelen.toNat ≤ 1024
  recovered : ∀ request ∈ requests stream, request.id = idSend →
    request.name.length = request.namelen.toNat →
      ∃ path mode, call.file = some (path, mode) ∧ TakesApart request.name path mode

/-- Whatever the connection does, the service understands the requests of a call. -/
def Agrees (call : Call) : Prop :=
  ∀ client : Client, ∃ stream, (call.run client).2.connection.outgoing =
    client.connection.outgoing ++ stream ∧ Understood call stream

/-- The name is short enough, or it is looked at before anything is written. -/
def Call.Fits : Call → Prop
  | .ls _ | .recv .. => True
  | .readtime path | .startReadtime path | .readmode path => path.val.length ≤ 1024
  | .send calls rpath _ mode verifyApk _ =>
      1024 < rpath.val.length ∨ verifyApk = true ∧ loadApk calls = none ∨
        rpath.val.length + (modeText mode).length ≤ 1024

/-! ## Reading requests -/

section Reading

variable {id : UInt32} {name rest stream : List UInt8}

/-- The first request of what starts as a request does. -/
theorem header_front (enough : 8 ≤ stream.length) (front : stream <+: message id name ++ rest) :
    wordOf stream = id ∧ wordOf (stream.drop 4) = .ofNat name.length ∧
      stream.drop 8 <+: name ++ rest := by
  obtain ⟨later, whole⟩ := front
  have split := eq_pair_append enough
  rw [split, message_append, List.append_assoc] at whole
  have words := congrArg (List.take 8) whole
  rw [List.take_left' (length_pair _ _), List.take_left' (length_pair _ _)] at words
  refine ⟨?_, ?_, later, ?_⟩
  · simpa [wordOf_pair_append] using congrArg wordOf whole
  · have sizes := congrArg (fun bytes => wordOf (bytes.drop 4)) whole
    simpa only [wordOf_drop_pair_append] using sizes
  · rw [words] at whole
    exact List.append_cancel_left whole

/-- A request in what starts as a request does is this one or comes behind it. -/
theorem mem_requestsLoop {fuel : Nat} (short : name.length < 2 ^ 32)
    (front : stream <+: message id name ++ rest) {request : Request}
    (member : request ∈ requestsLoop (fuel + 1) stream) :
    (request.id = id ∧ request.namelen.toNat = name.length ∧ request.name <+: name) ∨
      id ≠ idSend ∧ ∃ later, later <+: rest ∧ request ∈ requestsLoop fuel later := by
  rw [requestsLoop] at member
  split at member
  · exact absurd member List.not_mem_nil
  · next enough =>
      obtain ⟨isId, namelen, behind⟩ := header_front (by omega) front
      have size : (wordOf (stream.drop 4)).toNat = name.length := by
        rw [namelen, UInt32.toNat_ofNat', Nat.mod_eq_of_lt short]
      have own : (stream.drop 8).take name.length <+: name := by
        have taken := List.IsPrefix.take behind name.length
        rwa [List.take_left] at taken
      dsimp only at member
      rw [size, isId] at member
      split at member
      · rw [List.mem_singleton] at member
        rw [member]
        exact .inl ⟨rfl, size, own⟩
      · next other =>
          rcases List.mem_cons.mp member with rfl | member
          · exact .inl ⟨rfl, size, own⟩
          · refine .inr ⟨other, _, ?_, member⟩
            have dropped := List.IsPrefix.drop behind name.length
            rwa [List.drop_left] at dropped

/-- A complete header is read. -/
theorem exists_request (short : name.length < 2 ^ 32) (rest : List UInt8) :
    ∃ request ∈ requests (message id name ++ rest), request.namelen.toNat = name.length := by
  have enough : (message id name ++ rest).length = (7 + name.length + rest.length) + 1 := by
    rw [List.length_append, length_message]
    omega
  obtain ⟨-, namelen, -⟩ := @header_front id name rest _ (by omega) (List.prefix_refl _)
  rw [requests, enough, requestsLoop, if_neg (by omega)]
  have size : (wordOf ((message id name ++ rest).drop 4)).toNat = name.length := by
    rw [namelen, UInt32.toNat_ofNat', Nat.mod_eq_of_lt short]
  dsimp only
  split
  · exact ⟨_, List.mem_singleton_self _, size⟩
  · exact ⟨_, List.mem_cons_self, size⟩

end Reading

/-! ## What is written -/

/-- So much has been written. -/
def Sent (start out : List UInt8) (connection : Connection) : Prop :=
  connection.outgoing = start ++ out

/-- Of so much a part has been written. -/
def Cut (start text : List UInt8) (connection : Connection) : Prop :=
  ∃ out, out <+: text ∧ Sent start out connection

/-- Writes nothing. -/
def Mute {Value : Type} (program : Program Client Value) : Prop :=
  ∀ client, (program client).2.connection.outgoing = client.connection.outgoing

section Writing

variable {Value Value' : Type} {start out text : List UInt8}

theorem Cut.mono {connection : Connection} (cut : Cut start text connection)
    (front : text <+: out) : Cut start out connection := by
  obtain ⟨part, inside, sent⟩ := cut
  exact ⟨part, inside.trans front, sent⟩

theorem Sent.cut {connection : Connection} (sent : Sent start out connection) :
    Cut start out connection :=
  ⟨out, List.prefix_refl _, sent⟩

theorem sent_writex (bytes : List UInt8) :
    Triple (Sent start out) (writex bytes) (fun _ => Sent start (out ++ bytes))
      (Cut start (out ++ bytes)) := by
  intro connection sent
  have grown : (writex bytes connection).2.outgoing =
      start ++ (out ++ (Wire.writexLoop connection.writes bytes).2.1) := by
    rw [← List.append_assoc, ← sent]
    rfl
  cases ok : (Wire.writexLoop connection.writes bytes).1 with
  | true =>
      rw [writexLoop_written ok] at grown
      exact ⟨fun _ _ => grown, fun _ => Sent.cut grown⟩
  | false =>
      obtain ⟨count, -, cut⟩ := writexLoop_cut ok
      refine ⟨fun _ returned => ?_, fun _ => ⟨_, ?_, grown⟩⟩
      · simp [writex, Wire.writex, ok] at returned
      · rw [cut]
        exact (List.prefix_append_right_inj out).mpr (List.take_prefix count bytes)

theorem triple_io {pre fail : Connection → Prop} {post : Value → Connection → Prop}
    {program : Program Connection Value} (triple : Triple pre program post fail) :
    Triple (fun client => pre client.connection) (io program)
      (fun value client => post value client.connection) fun client => fail client.connection :=
  fun client holds => triple client.connection holds

namespace Mute

theorem pure (value : Value) : Mute (pure value) := fun _ => rfl

theorem stop : Mute (stop : Program Client Value) := fun _ => rfl

theorem bind {program : Program Client Value} {next : Value → Program Client Value'}
    (first : Mute program) (second : ∀ value, Mute (next value)) : Mute (program >>= next) := by
  intro client
  rw [Program.bind_apply]
  cases ran : program client with
  | mk result middle =>
      have kept := first client
      rw [ran] at kept
      cases result with
      | none => exact kept
      | some value => exact (second value middle).trans kept

theorem readx (len : Nat) : Mute (io (readx len)) := fun _ => rfl

theorem note (access : Access) : Mute (note access) := fun _ => rfl

theorem readBuffer (capacity : Nat) (len : Int) : Mute (readBuffer capacity len) :=
  (note _).bind fun _ => readx _

theorem onDisk (change : (WPath → Option (List UInt8)) → WPath → Option (List UInt8)) :
    Mute (onDisk change) := fun _ => rfl

/-- As many rounds as something says. -/
theorem rounds {program : Nat → Program Client Value} (each : ∀ fuel, Mute (program fuel))
    (count : Client → Nat) : Mute fun client => program (count client) client :=
  fun client => each (count client) client

theorem triple {program : Program Client Value} (mute : Mute program) :
    Triple (fun client => Sent start out client.connection) program
      (fun _ client => Sent start out client.connection)
      fun client => Sent start out client.connection :=
  fun client sent => ⟨fun _ _ => (mute client).trans sent, fun _ => (mute client).trans sent⟩

end Mute

end Writing

/-! ## The functions that read -/

theorem mute_lsLoop (fuel : Nat) : Mute (lsLoop fuel) := by
  induction fuel with
  | zero => exact .stop
  | succ fuel induction =>
      rw [lsLoop]
      refine Mute.bind (.readx 20) fun record => ?_
      split
      · exact .pure _
      · split
        · dsimp only
          split
          · exact .stop
          · exact Mute.bind (.readBuffer _ _) fun _ => .bind (.note _) fun _ =>
              .bind induction fun _ => .pure _
        · exact .stop

theorem mute_remoteError (host : Host) (calls : PullCalls) (lpath : List UInt8)
    (id size : UInt32) : Mute (remoteError host calls lpath id size) := by
  rw [remoteError]
  refine Mute.bind (.onDisk _) fun _ => ?_
  split
  · exact Mute.bind (.readBuffer _ _) fun _ => .note _
  · exact .note _

theorem mute_handleData (host : Host) (calls : PullCalls) (lpath : List UInt8) (file : WPath)
    (fuel index : Nat) (header : List UInt8) :
    Mute (handleData host calls lpath file fuel index header) := by
  induction fuel generalizing index header with
  | zero => exact .stop
  | succ fuel induction =>
      rw [handleData]
      split
      · exact .pure _
      · split
        · split
          · exact .stop
          · refine Mute.bind (.readBuffer _ _) fun _ => ?_
            split
            · exact Mute.bind (.onDisk _) fun _ => .bind (.readx 8) fun _ => induction _ _
            · exact .stop
        · exact mute_remoteError host calls lpath _ _

theorem mute_beginPull (host : Host) (calls : PullCalls) (lpath : List UInt8) :
    Mute (beginPull host calls lpath) := by
  rw [beginPull]
  refine Mute.bind (.onDisk _) fun _ => ?_
  split
  · exact .stop
  · refine Mute.bind (.note _) fun _ => ?_
    rw [adbCreat]
    split
    · exact .stop
    · split
      · exact Mute.bind (.onDisk _) fun _ => .bind (fun _ => rfl) fun _ => .pure _
      · exact .stop

theorem mute_receive (host : Host) (calls : PullCalls) (lpath header : List UInt8) :
    Mute (receive host calls lpath header) := by
  rw [receive]
  split
  · exact Mute.bind (mute_beginPull host calls lpath) fun file =>
      .rounds (fun fuel => mute_handleData host calls lpath file fuel 0 header) _
  · exact mute_remoteError host calls lpath _ _

theorem mute_readStatus : Mute readStatus := by
  rw [readStatus]
  refine Mute.bind (.readx 8) fun _ => ?_
  split
  · exact .pure _
  · split
    · exact Mute.bind (.readBuffer _ _) fun _ => .bind (.note _) fun _ => .stop
    · exact .stop

theorem mute_syncFinishReadtime : Mute syncFinishReadtime := by
  rw [syncFinishReadtime]
  refine Mute.bind (.readx 16) fun _ => ?_
  split
  · exact .pure _
  · exact .stop

/-! ## The functions that write -/

section Calls

variable {start out : List UInt8}

/-- So much of a text is written when a call is over. -/
abbrev Within (start text : List UInt8) (client : Client) : Prop := Cut start text client.connection

/-- So much is written during a call. -/
abbrev After (start out : List UInt8) (client : Client) : Prop := Sent start out client.connection

theorem sent_header (id : UInt32) (name more : List UInt8) :
    Triple (After start out) (io (writex (pair id (.ofNat name.length))))
      (fun _ => After start (out ++ pair id (.ofNat name.length)))
      (Within start (out ++ message id name ++ more)) := by
  refine (triple_io (sent_writex _)).mono (fun _ sent => sent) (fun _ _ sent => sent)
    fun _ cut => cut.mono ?_
  rw [message, ← List.append_assoc, List.append_assoc]
  exact List.prefix_append _ _

theorem sent_name (id : UInt32) (name more : List UInt8) :
    Triple (After start (out ++ pair id (.ofNat name.length))) (io (writex name))
      (fun _ => After start (out ++ message id name))
      (Within start (out ++ message id name ++ more)) := by
  refine (triple_io (sent_writex _)).mono (fun _ sent => sent) (fun _ _ sent => ?_)
    fun _ cut => cut.mono ?_
  · rwa [List.append_assoc] at sent
  · rw [message, ← List.append_assoc]
    exact List.prefix_append _ _

theorem sent_syncStartReadtime (path more : List UInt8) :
    Triple (After start out) (syncStartReadtime path)
      (fun _ => After start (out ++ message idStat path))
      (Within start (out ++ message idStat path ++ more)) :=
  (sent_header idStat path more).bind fun _ => sent_name idStat path more

/-- Reading does not undo what was written. -/
theorem within_of_mute {Value : Type} {program : Program Client Value} (mute : Mute program)
    {text : List UInt8} (front : out <+: text) :
    Triple (After start out) program (fun _ => Within start text) (Within start text) :=
  mute.triple.mono (fun _ sent => sent) (fun _ _ sent => sent.cut.mono front)
    fun _ sent => sent.cut.mono front

/-- The requests a call writes when nothing fails. -/
def Call.asks : Call → List (UInt32 × List UInt8)
  | .ls path => if 1024 < path.val.length then [] else [(idList, path.val)]
  | .readtime path | .startReadtime path | .readmode path => [(idStat, path.val)]
  | .send calls rpath _ mode verifyApk _ =>
      if 1024 < rpath.val.length ∨ verifyApk = true ∧ loadApk calls = none then []
      else [(idSend, rpath.val ++ modeText mode)]
  | .recv _ _ rpath _ showProgress =>
      if 1024 < rpath.val.length then []
      else (if showProgress then [(idStat, rpath.val)] else []) ++ [(idRecv, rpath.val)]

/-- Requests as they are written. -/
def text (asks : List (UInt32 × List UInt8)) : List UInt8 :=
  asks.flatMap fun ask => message ask.1 ask.2

/-- What a call writes is a part of its requests. -/
abbrev Asks (call : Call) : Prop :=
  ∀ start, Triple (After start []) call.run (fun _ => Within start (text call.asks))
    (Within start (text call.asks))

theorem asks_ls (path : RemotePath) : Asks (.ls path) := by
  intro start
  rw [Call.run, Call.asks, syncLs]
  by_cases long : 1024 < path.val.length
  · rw [if_pos long, if_pos long]
    exact Triple.bind (.stop fun _ sent => sent.cut) fun _ => .pure fun _ cut => cut
  · rw [if_neg long, if_neg long]
    have header := @sent_header start [] idList path.val []
    have name := @sent_name start [] idList path.val []
    refine Triple.bind (header.bind fun _ => name.bind fun _ => ?_) fun _ => .pure fun _ cut => cut
    exact within_of_mute (Mute.rounds mute_lsLoop _) (List.prefix_append _ _)

theorem asks_stat (path : RemotePath) {Value : Type} (result : Stat → Value) (start : List UInt8) :
    Triple (After start []) (do
      syncStartReadtime path.val
      let stat ← syncFinishReadtime
      return result stat) (fun _ => Within start (text [(idStat, path.val)]))
      (Within start (text [(idStat, path.val)])) :=
  (@sent_syncStartReadtime start [] path.val []).bind fun _ =>
    within_of_mute (mute_syncFinishReadtime.bind fun _ => .pure _) (List.prefix_append _ _)

theorem sent_askStat (rpath more : List UInt8) (showProgress : Bool) :
    let asks := if showProgress then [(idStat, rpath)] else []
    Triple (After start []) (askStat rpath showProgress) (fun _ => After start (text asks))
      (Within start (text asks ++ more)) := by
  cases showProgress with
  | false => exact .pure fun _ sent => sent
  | true =>
      have header := @sent_header start [] idStat rpath more
      have name := @sent_name start [] idStat rpath more
      have whole : text [(idStat, rpath)] = [] ++ message idStat rpath := by simp [text]
      simp only [if_true, whole]
      refine header.bind fun _ => name.bind fun _ => ?_
      refine Triple.mono (Mute.triple (Mute.bind (.readx 16) fun record => ?_))
        (fun _ sent => sent) (fun _ _ sent => sent)
        fun _ sent => sent.cut.mono (List.prefix_append _ _)
      split
      · exact .pure _
      · exact .stop

theorem asks_recv (host : Host) (calls : PullCalls) (rpath : RemotePath) (lpath : List UInt8)
    (showProgress : Bool) : Asks (.recv host calls rpath lpath showProgress) := by
  intro start
  rw [Call.run, Call.asks, syncRecv]
  by_cases long : 1024 < rpath.val.length
  · rw [if_pos long, if_pos long]
    exact .stop fun _ sent => sent.cut
  · have asked := @sent_askStat start rpath.val (message idRecv rpath.val) showProgress
    rw [if_neg long, if_neg long]
    dsimp only at asked
    generalize (if showProgress then [(idStat, rpath.val)] else []) = before at asked ⊢
    have whole : text (before ++ [(idRecv, rpath.val)]) =
        text before ++ message idRecv rpath.val ++ [] := by simp [text]
    have header := @sent_header start (text before) idRecv rpath.val []
    have name := @sent_name start (text before) idRecv rpath.val []
    rw [whole]
    rw [List.append_nil] at header name ⊢
    exact asked.bind fun _ => header.bind fun _ => name.bind fun _ => within_of_mute
      (Mute.bind (.readx 8) fun _ => mute_receive host calls lpath _) (List.prefix_refl _)

/-! ## `sync_send` -/

/-- Writes something or nothing. -/
abbrev Writes {Value : Type} (program : Program Connection Value) : Prop :=
  Emits (fun _ => True) Connection.outgoing program fun _ _ => True

theorem writes_writex (bytes : List UInt8) : Writes (writex bytes) := by
  intro connection _
  exact ⟨_, rfl, trivial, fun _ _ => trivial⟩

theorem writes_sendChunks (chunks : List (List UInt8)) : Writes (sendChunks chunks) := by
  induction chunks with
  | nil => exact (Emits.pure ()).mono fun _ _ _ => trivial
  | cons chunk chunks induction => exact (writes_writex _).bind fun _ _ _ => induction

theorem writes_sendFile (calls : PushCalls) (mode : UInt32) (buffer : Option (List UInt8 × Int))
    (showProgress : Bool) : Writes (sendFile calls mode buffer showProgress) := by
  cases buffer with
  | some loaded =>
      obtain ⟨buffer, size⟩ := loaded
      rw [sendFile, writeDataBuffer, dataBufferLoop_eq]
      exact (writes_sendChunks _).attempt_any
  | none =>
      rw [sendFile]
      split
      · rw [writeDataFile]
        split
        · exact (Emits.stop : Writes (stop : Program Connection Unit)).attempt_any
        · rw [dataFileLoop_eq]
          exact (writes_sendChunks _).attempt_any
      · exact .stop

theorem sent_askSend (rpath : List UInt8) (mode : UInt32) :
    let request := message idSend (rpath ++ modeText mode)
    Triple (Sent start []) (askSend rpath mode) (fun _ => Sent start request)
      (Cut start request) := by
  have request_eq : message idSend (rpath ++ modeText mode) =
      [] ++ pair idSend (.ofNat (rpath.length + (modeText mode).length)) ++ rpath ++
        modeText mode := by
    rw [message, List.length_append, List.nil_append, List.append_assoc]
  dsimp only
  rw [request_eq, askSend]
  have header :=
    @sent_writex start [] (pair idSend (.ofNat (rpath.length + (modeText mode).length)))
  refine (header.mono (fun _ sent => sent) (fun _ _ sent => sent) fun _ cut => cut.mono ?_).bind
    fun _ => ((sent_writex rpath).mono (fun _ sent => sent) (fun _ _ sent => sent) fun _ cut =>
      cut.mono (List.prefix_append _ _)).bind fun _ => sent_writex (modeText mode)
  rw [List.append_assoc]
  exact List.prefix_append _ _

/-- So much has been written, and everything will be taken. -/
def Open (start out : List UInt8) (connection : Connection) : Prop :=
  connection.writes = [] ∧ Sent start out connection

theorem open_writex (bytes : List UInt8) :
    Triple (Open start out) (writex bytes) (fun _ => Open start (out ++ bytes))
      fun _ => False := by
  rintro connection ⟨plain, sent⟩
  rw [writex_plain plain]
  refine ⟨fun _ _ => ⟨plain, ?_⟩, fun gave_up => nomatch gave_up⟩
  rw [Sent, ← List.append_assoc, ← sent]

/-- What `sync_send` writes, if it looks at nothing that stops it: its request, and behind that
something else. -/
theorem writes_sendAll {calls : PushCalls} {rpath : List UInt8} {mode : UInt32}
    {verifyApk : Bool} (checked : ¬(1024 < rpath.length ∨ verifyApk = true ∧ loadApk calls = none))
    (mtime : UInt32) (showProgress : Bool) (connection : Connection) :
    let request := message idSend (rpath ++ modeText mode)
    ∃ out more, (sendAll calls rpath mtime mode verifyApk showProgress connection).2.outgoing =
      connection.outgoing ++ out ∧ out <+: request ++ more ∧
        (connection.writes = [] → request <+: out) := by
  intro request
  rw [sendAll, if_neg checked, Program.bind_apply]
  obtain ⟨said, failed⟩ := @sent_askSend connection.outgoing rpath mode connection
    (List.append_nil _).symm
  cases asked : askSend rpath mode connection with
  | mk result middle =>
      rw [asked] at said failed
      cases result with
      | none =>
          obtain ⟨out, inside, sent⟩ := failed rfl
          refine ⟨out, [], sent, by rwa [List.append_nil], fun plain => ?_⟩
          have goes_out : Triple (Open connection.outgoing []) (askSend rpath mode)
              (fun _ => Open connection.outgoing ([] ++ _ ++ _ ++ _)) fun _ => False :=
            (open_writex _).bind fun _ => (open_writex _).bind fun _ => open_writex _
          have refused := (goes_out connection ⟨plain, (List.append_nil _).symm⟩).2
          exact (refused (congrArg Prod.fst asked)).elim
      | some value =>
          have file := writes_sendFile calls mode (if verifyApk then loadApk calls else none)
            showProgress
          have ends : Writes (do
              let _ ← sendFile calls mode (if verifyApk then loadApk calls else none) showProgress
              writex (pair idDone mtime)) := file.bind fun _ _ _ => writes_writex _
          obtain ⟨more, grown, -, -⟩ := ends middle trivial
          refine ⟨request ++ more, more, ?_, List.prefix_refl _, fun _ => List.prefix_append _ _⟩
          have sent : middle.outgoing = connection.outgoing ++ request := said value rfl
          dsimp only
          rw [grown, sent, List.append_assoc]

theorem outgoing_syncSend (calls : PushCalls) (rpath : List UInt8) (mtime mode : UInt32)
    (verifyApk showProgress : Bool) (client : Client) :
    (syncSend calls rpath mtime mode verifyApk showProgress client).2.connection.outgoing =
      (sendAll calls rpath mtime mode verifyApk showProgress client.connection).2.outgoing := by
  rw [syncSend, Program.bind_apply, io_apply]
  cases (sendAll calls rpath mtime mode verifyApk showProgress client.connection).1 with
  | none => rfl
  | some value => exact mute_readStatus _

/-- Every call writes a part of its requests, and behind a `SEND` something else. -/
theorem exists_stream (call : Call) (client : Client) : ∃ stream more,
    (call.run client).2.connection.outgoing = client.connection.outgoing ++ stream ∧
      stream <+: text call.asks ++ more ∧ (more = [] ∨ ∃ ask ∈ call.asks, ask.1 = idSend) := by
  have within (asks : Asks call) : ∃ stream more, (call.run client).2.connection.outgoing =
      client.connection.outgoing ++ stream ∧ stream <+: text call.asks ++ more ∧
        (more = [] ∨ ∃ ask ∈ call.asks, ask.1 = idSend) := by
    obtain ⟨stream, front, sent⟩ := (asks client.connection.outgoing).always
      (List.append_nil _).symm
    exact ⟨stream, [], sent, by rwa [List.append_nil], .inl rfl⟩
  cases call with
  | ls path => exact within (asks_ls path)
  | readtime path =>
      exact within fun start => (asks_stat path _ start).bind fun _ => .pure fun _ cut => cut
  | startReadtime path =>
      refine within fun start => ?_
      refine Triple.mono (@sent_syncStartReadtime start [] path.val []) (fun _ sent => sent)
        (fun _ _ sent => ?_) fun _ cut => cut.mono (List.prefix_refl _)
      exact sent.cut.mono (List.prefix_append _ _)
  | readmode path =>
      exact within fun start => (asks_stat path _ start).bind fun _ => .pure fun _ cut => cut
  | send calls rpath mtime mode verifyApk showProgress =>
      rw [Call.run, outgoing_syncSend, Call.asks]
      by_cases checked : 1024 < rpath.val.length ∨ verifyApk = true ∧ loadApk calls = none
      · rw [if_pos checked, sendAll, if_pos checked]
        exact ⟨[], [], (List.append_nil _).symm, List.prefix_refl _, .inl rfl⟩
      · rw [if_neg checked]
        obtain ⟨out, more, grown, front, -⟩ :=
          writes_sendAll checked mtime showProgress client.connection
        refine ⟨out, more, grown, ?_, .inr ⟨_, List.mem_singleton_self _, rfl⟩⟩
        rwa [text, List.flatMap_singleton]
  | recv host calls rpath lpath showProgress =>
      exact within (asks_recv host calls rpath lpath showProgress)

/-- On a connection that takes everything, a `STAT` request goes out. -/
theorem open_syncStartReadtime (path : List UInt8) :
    Triple (fun client => Open start [] client.connection) (syncStartReadtime path)
      (fun _ => After start (message idStat path)) (After start (message idStat path)) := by
  have header := triple_io (@open_writex start [] (pair idStat (.ofNat path.length)))
  have name := triple_io (@open_writex start (pair idStat (.ofNat path.length)) path)
  rw [List.nil_append] at header
  rw [message]
  exact (header.bind fun _ => name).mono (fun _ opened => opened) (fun _ _ opened => opened.2)
    fun _ no => no.elim

theorem open_stat (path : List UInt8) {Value : Type} (result : Stat → Value) :
    Triple (fun client => Open start [] client.connection) (do
      syncStartReadtime path
      let stat ← syncFinishReadtime
      return result stat) (fun _ => After start (message idStat path))
      (After start (message idStat path)) :=
  (open_syncStartReadtime path).bind fun _ =>
    (mute_syncFinishReadtime.bind fun _ => .pure _).triple

/-- On such a connection, a call that does not look at the name asks for it. -/
theorem whole_stat {call : Call} {path : RemotePath}
    (kind : call = .readtime path ∨ call = .startReadtime path ∨ call = .readmode path) :
    (call.run {}).2.connection.outgoing = message idStat path.val := by
  have whole (opened : Triple (fun client => Open [] [] client.connection) call.run
      (fun _ => After [] (message idStat path.val)) (After [] (message idStat path.val))) :
      (call.run {}).2.connection.outgoing = message idStat path.val := by
    have begins : Open [] [] ({} : Client).connection := ⟨rfl, rfl⟩
    exact opened.always begins
  rcases kind with rfl | rfl | rfl
  · exact whole ((open_stat path.val _).bind fun _ => .pure fun _ sent => sent)
  · exact whole (open_syncStartReadtime path.val)
  · exact whole ((open_stat path.val _).bind fun _ => .pure fun _ sent => sent)

end Calls

/-! ## Agreement -/

theorem mem_requests_nil {fuel : Nat} {stream : List UInt8} (front : stream <+: []) :
    requestsLoop fuel stream = [] := by
  rw [List.prefix_nil.mp front]
  cases fuel with
  | zero => rfl
  | succ fuel => rfl

/-- Every request in a part of what is asked is one of those that are asked. -/
theorem mem_requests {asks : List (UInt32 × List UInt8)} {more stream : List UInt8} {fuel : Nat}
    (short : ∀ ask ∈ asks, ask.2.length < 2 ^ 32) (front : stream <+: text asks ++ more)
    (last : more = [] ∨ ∃ ask ∈ asks, ask.1 = idSend) {request : Request}
    (member : request ∈ requestsLoop fuel stream) :
    ∃ ask ∈ asks, request.id = ask.1 ∧ request.namelen.toNat = ask.2.length ∧
      request.name <+: ask.2 := by
  induction asks generalizing fuel stream with
  | nil =>
      obtain rfl := last.resolve_right (by simp)
      rw [mem_requests_nil front] at member
      exact absurd member List.not_mem_nil
  | cons ask asks induction =>
      cases fuel with
      | zero => exact absurd member List.not_mem_nil
      | succ fuel =>
          rw [text, List.flatMap_cons, List.append_assoc] at front
          rcases mem_requestsLoop (short ask List.mem_cons_self) front member with
            found | ⟨other, later, front, member⟩
          · exact ⟨ask, List.mem_cons_self, found⟩
          · have last : more = [] ∨ ∃ ask ∈ asks, ask.1 = idSend := by
              refine last.imp_right ?_
              rintro ⟨sends, among, isSend⟩
              rcases List.mem_cons.mp among with rfl | among
              · exact absurd isSend other
              · exact ⟨sends, among, isSend⟩
            obtain ⟨found, among, facts⟩ := induction
              (fun other among => short other (List.mem_cons_of_mem _ among)) front last member
            exact ⟨found, List.mem_cons_of_mem _ among, facts⟩

/-- The mode is read as it was written, zero included. -/
theorem strtoul_modeText {longBits : Nat} (wide : 32 ≤ longBits) (mode : UInt32) :
    (strtoul longBits (decimal (asInt mode))).1 % 2 ^ 32 = mode.toNat ∧
      (strtoul longBits (decimal (asInt mode))).2 = false := by
  rcases Nat.eq_zero_or_pos mode.toNat with zero | positive
  · have none : mode = 0 := UInt32.toNat_inj.mp zero
    have read : digitsValue 8 [48] = 0 := by decide
    have small : ¬2 ^ longBits ≤ 0 := Nat.not_le.mpr (Nat.two_pow_pos longBits)
    rw [none, show decimal (asInt 0) = [48] by decide]
    have front : splitSign ([48].dropWhile fun c => c = 32 ∨ 9 ≤ c ∧ c ≤ 13) = (false, [48]) := by
      decide
    rw [strtoul, front]
    simp only [splitBase, read, small, if_false, Bool.false_eq_true]
    decide
  · exact strtoul_mode wide positive

theorem takesApart_request {rpath : List UInt8} (plain : 0 ∉ rpath) (mode : UInt32) :
    TakesApart (rpath ++ modeText mode) rpath mode := by
  refine ⟨decimal (asInt mode), ?_, fun longBits wide => strtoul_modeText wide mode⟩
  rw [cString_request plain, modeText]
  exact splitLastComma_append fun comma => (mem_modeText comma).1 rfl

/-- The names in the requests of a call that fits are short enough. -/
theorem short_asks {call : Call} (fits : call.Fits) : ∀ ask ∈ call.asks, ask.2.length ≤ 1024 := by
  cases call with
  | ls path =>
      rw [Call.asks]
      split
      · simp
      · simp only [List.mem_singleton]
        rintro _ rfl
        dsimp only
        omega
  | readtime path | startReadtime path | readmode path =>
      simp only [Call.asks, List.mem_singleton]
      rintro _ rfl
      exact fits
  | send calls rpath mtime mode verifyApk showProgress =>
      rw [Call.asks]
      split
      · simp
      · next checked =>
          simp only [List.mem_singleton]
          rintro _ rfl
          rw [Call.Fits] at fits
          rw [List.length_append]
          tauto
  | recv host calls rpath lpath showProgress =>
      rw [Call.asks]
      split
      · simp
      · cases showProgress with
        | false =>
            simp
            omega
        | true =>
            simp
            omega

/-- A call only asks to send what it wants to send. -/
theorem file_of_asks {call : Call} : ∀ ask ∈ call.asks, ask.1 = idSend →
    ∃ path mode, call.file = some (path, mode) ∧ TakesApart ask.2 path mode := by
  have others : idList ≠ idSend ∧ idStat ≠ idSend ∧ idRecv ≠ idSend := by decide
  cases call with
  | ls path =>
      rw [Call.asks]
      split
      · simp
      · simp [others]
  | readtime path | startReadtime path | readmode path => simp [Call.asks, others]
  | send calls rpath mtime mode verifyApk showProgress =>
      rw [Call.asks]
      split
      · simp
      · simp only [List.mem_singleton]
        rintro _ rfl -
        exact ⟨_, _, rfl, takesApart_request rpath.property.1 mode⟩
  | recv host calls rpath lpath showProgress =>
      rw [Call.asks]
      split
      · simp
      · cases showProgress <;> simp [others]

theorem agrees_of_fits {call : Call} (fits : call.Fits) : Agrees call := by
  intro client
  obtain ⟨stream, more, grown, front, last⟩ := exists_stream call client
  have short := short_asks fits
  have found := fun request member => @mem_requests call.asks more stream stream.length
    (fun ask among => Nat.lt_of_le_of_lt (short ask among) (by decide)) front last request member
  refine ⟨stream, grown, fun request member => ?_, fun request member sends complete => ?_⟩
  · obtain ⟨ask, among, -, namelen, -⟩ := found request member
    rw [namelen]
    exact short ask among
  · obtain ⟨ask, among, id, namelen, name⟩ := found request member
    rw [namelen] at complete
    rw [name.eq_of_length complete]
    exact file_of_asks ask among (id.symm.trans sends)

/-- A request that goes out is accepted only if its name is short. -/
theorem short_of_agrees {call : Call} (agrees : Agrees call) {id : UInt32} {name : List UInt8}
    (bounded : name.length < 2 ^ 32)
    (sent : message id name <+: (call.run {}).2.connection.outgoing) :
    name.length ≤ 1024 := by
  obtain ⟨stream, grown, understood⟩ := agrees {}
  rw [grown] at sent
  obtain ⟨rest, whole⟩ := sent
  obtain ⟨request, member, namelen⟩ := @exists_request id name bounded rest
  rw [whole] at member
  rw [← namelen]
  exact understood.accepted request member

theorem fits_of_agrees {call : Call} (agrees : Agrees call) : call.Fits := by
  cases call with
  | ls path => trivial
  | readtime path | startReadtime path | readmode path =>
      refine @short_of_agrees _ agrees idStat _ (Nat.lt_trans path.property.2 (by decide)) ?_
      rw [@whole_stat _ path (by simp)]
  | send calls rpath mtime mode verifyApk showProgress =>
      by_contra long
      rw [Call.Fits, ← or_assoc, not_or] at long
      obtain ⟨checked, long⟩ := long
      obtain ⟨out, more, grown, -, goes_out⟩ :=
        @writes_sendAll _ _ mode _ checked mtime showProgress {}
      have text_short := length_modeText mode
      have bounded := rpath.property.2
      have short := @short_of_agrees _ agrees idSend (rpath.val ++ modeText mode)
        (by rw [List.length_append]; omega)
        (by
          rw [Call.run, outgoing_syncSend, grown]
          exact goes_out rfl)
      rw [List.length_append] at short
      exact long short
  | recv host calls rpath lpath showProgress => trivial

/-- The service understands what a call asks for if and only if the name is short enough, or the
call looks at its length and at the file before it writes anything. -/
theorem agrees_iff_fits (call : Call) : Agrees call ↔ call.Fits :=
  ⟨fits_of_agrees, agrees_of_fits⟩

/-- A path of so many letters. -/
def pathOf (length : Nat) (short : length < 2 ^ 31) : RemotePath :=
  ⟨List.replicate length 97, fun member => absurd (List.eq_of_mem_replicate member) (by decide),
    by rwa [List.length_replicate]⟩

/-- The service does not take the name that `sync_readmode` asks for. -/
theorem not_agrees_long : ¬Agrees (.readmode (pathOf 1025 (by decide))) := by
  intro agrees
  have short : (pathOf 1025 (by decide)).val.length ≤ 1024 := fits_of_agrees agrees
  rw [pathOf, List.length_replicate] at short
  exact absurd short (by decide)

end Sync
end AdbWide
