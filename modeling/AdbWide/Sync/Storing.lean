import AdbWide.Sync.ModeText

/-!
# What the service stores

When the calls of the device succeed, `file_sync_service` acknowledges a file only if its data were
delivered up to `DONE`, and then it has stored them.
-/

namespace AdbWide
namespace Sync

open Wire (Connection)
open Program (Triple attempt stop)
open Sockets.Server (cString)

/-- The calls that create the file and write to it succeed. -/
structure Calls.Succeeded (calls : Calls) (path : List UInt8) : Prop where
  created : calls.create = .done ∨ calls.create = .failed enoent ∧
    mkdirs calls.mkdir enoent path = none ∧ calls.createAgain = .done
  owned : calls.fchown = .done
  written : ∀ index, calls.write index = .done

/-- There is no acknowledgement at the front. -/
def Unacknowledged (out : List UInt8) : Prop := out.length < 8 ∨ wordOf out ≠ idOkay

/-- Some bytes have still to be read, and some have been written. -/
def Serves (stream out : List UInt8) (connection : Connection) : Prop :=
  connection.incoming = stream ∧ connection.outgoing = out

/-- Nothing was acknowledged. -/
def Silent (connection : Connection) : Prop := Unacknowledged connection.outgoing

theorem silent_nil {connection : Connection} (nothing : connection.outgoing = []) :
    Silent connection := by
  rw [Silent, nothing]
  exact .inl (by decide)

/-! ## The first request -/

section First

variable {rpath : List UInt8} {mode : UInt32}

theorem sendRequest_append (rest : List UInt8) :
    sendRequest rpath mode ++ rest = pair idSend (.ofNat (rpath.length + (modeText mode).length)) ++
      ((rpath ++ modeText mode) ++ rest) := by
  rw [sendRequest]
  simp only [List.append_assoc]

/-- What the service makes of the eight bytes in front of a path and a mode. -/
theorem header_request (short : rpath.length ≤ 1024) (rest : List UInt8) :
    let header :=
      (pair idSend (.ofNat (rpath.length + (modeText mode).length)) ++ rest).take 8
    wordOf header = idSend ∧ (wordOf (header.drop 4)).toNat = (rpath ++ modeText mode).length := by
  have text := length_modeText mode
  dsimp only
  rw [wordOf_take (by omega), List.drop_take, wordOf_take (by omega), wordOf_pair_append,
    wordOf_drop_pair_append, UInt32.toNat_ofNat', Nat.mod_eq_of_lt (by omega), List.length_append]
  exact ⟨rfl, rfl⟩

theorem cString_request (clean : 0 ∉ rpath) : cString (rpath ++ modeText mode) =
    rpath ++ modeText mode := by
  rw [cString, List.takeWhile_eq_self_iff]
  intro byte member
  have nonzero : byte ≠ 0 := by
    rcases List.mem_append.mp member with front | text
    · exact fun zero => clean (by rw [← zero]; exact front)
    · rcases List.mem_cons.mp text with rfl | text
      · decide
      · exact (mem_modeText text).2
  simpa using nonzero

/-- A service fails at reading a request or at answering it, or goes on with the next one. -/
theorem fileSyncService_first {device : Device} {world : Nat → Calls} {requests index : Nat}
    {pre middle fail : Connection → Prop} {post : Option (List UInt8) → Connection → Prop}
    {request : Kind × List UInt8}
    (asked : Triple pre nextRequest
      (fun request' connection => request' = request ∧ middle connection) fail)
    (answered : Triple middle (answer device (world index) request.1 request.2) post fail)
    {connection : Connection} (holds : pre connection) :
    fail (fileSyncService device world (requests + 1) index connection).2 ∨
      ∃ exchange after, post exchange.stored after ∧
        fileSyncService device world (requests + 1) index connection =
          (exchange :: (fileSyncService device world requests (index + 1) after).1,
            (fileSyncService device world requests (index + 1) after).2) := by
  obtain ⟨said, failed⟩ := asked connection holds
  rw [fileSyncService]
  cases ran : nextRequest connection with
  | mk request' middle' =>
      rw [ran] at said failed
      cases request' with
      | none => exact .inl (failed rfl)
      | some request' =>
          obtain ⟨rfl, holds'⟩ := said request' rfl
          obtain ⟨said', failed'⟩ := answered middle' holds'
          dsimp only
          cases ran' : answer device (world index) request'.1 request'.2 middle' with
          | mk stored after =>
              rw [ran'] at said' failed'
              cases stored with
              | none => exact .inl (failed' rfl)
              | some stored => exact .inr ⟨⟨_, _, _, _, stored⟩, after, said' stored rfl, rfl⟩

end First

/-! ## Every run -/

section Every

variable {stream out : List UInt8} {device : Device} {calls : Calls}

theorem serves_readx (len : Nat) :
    Triple (Serves stream out) (readx len)
      (fun bytes connection => (len ≤ stream.length ∧ bytes = stream.take len) ∧
        Serves (stream.drop len) out connection)
      fun connection => connection.outgoing = out := by
  rintro connection ⟨rfl, rfl⟩
  refine ⟨fun bytes came => ?_, fun _ => rfl⟩
  cases ran : readx len connection with
  | mk result after =>
      rw [ran] at came
      obtain rfl : result = some bytes := came
      have size := length_of_readx ran
      obtain ⟨split, same, -⟩ := readx_split ran
      refine ⟨⟨?_, ?_⟩, ?_, same⟩
      · rw [split, List.length_append]
        omega
      · rw [split, ← size, List.take_left]
      · rw [split, ← size, List.drop_left]

theorem outgoing_writex {connection : Connection} {bytes : List UInt8} {value : Unit}
    (returned : (writex bytes connection).1 = some value) :
    (writex bytes connection).2.outgoing = connection.outgoing ++ bytes := by
  have ok : (Wire.writexLoop connection.writes bytes).1 = true := by
    by_contra failed
    rw [Bool.not_eq_true] at failed
    simp [writex, Wire.writex, failed] at returned
  exact congrArg (connection.outgoing ++ ·) (writexLoop_written ok)

theorem silent_writex {connection : Connection} (nothing : connection.outgoing = [])
    {bytes : List UInt8} (refused : (writex bytes connection).1 = none) :
    ((writex bytes connection).2.outgoing).length < bytes.length := by
  have failed : (Wire.writexLoop connection.writes bytes).1 = false := by
    by_contra ok
    rw [Bool.not_eq_false] at ok
    simp [writex, Wire.writex, ok] at refused
  obtain ⟨count, short, cut⟩ := writexLoop_cut failed
  have written : (writex bytes connection).2.outgoing = bytes.take count := by
    simp [writex, Wire.writex, nothing, cut]
  rw [written, List.length_take]
  omega

theorem silent_failMessage (reason : List UInt8) :
    Triple (fun connection => connection.outgoing = []) (attempt (failMessage reason))
      (fun _ => Silent) Silent := by
  have begun : Triple (fun connection => connection.outgoing = [])
      (writex (pair idFail (.ofNat reason.length)))
      (fun _ connection => connection.outgoing = pair idFail (.ofNat reason.length)) Silent := by
    intro connection nothing
    refine ⟨fun _ returned => ?_, fun gave_up => ?_⟩
    · have written := outgoing_writex returned
      rw [nothing, List.nil_append] at written
      exact written
    · have short := silent_writex nothing gave_up
      rw [length_pair] at short
      exact .inl short
  refine Triple.attempt (begun.bind fun _ => ?_)
  intro connection said
  have still : Silent (writex reason connection).2 := by
    have written : (writex reason connection).2.outgoing =
        connection.outgoing ++ (Wire.writexLoop connection.writes reason).2.1 := rfl
    refine .inr ?_
    rw [written, said, wordOf_pair_append]
    decide
  exact ⟨fun _ _ => still, fun _ => still⟩

theorem silent_refuse {Value : Type} {post : Value → Connection → Prop} (reason : String) :
    Triple (fun connection => connection.outgoing = []) (refuse reason : Program Connection Value)
      post Silent :=
  (silent_failMessage _).bind fun _ => .stop fun _ silent => silent

theorem serves_receiveFile (written : ∀ index, calls.write index = .done) (fuel index : Nat)
    (content : List UInt8) :
    Triple (Serves stream []) (receiveFile device calls fuel index (some content))
      (fun file connection => ∃ more, (Delivers stream more ∧ file = some (content ++ more)) ∧
        connection.outgoing = []) Silent := by
  induction fuel generalizing stream index content with
  | zero => exact .stop fun _ serves => silent_nil serves.2
  | succ fuel induction =>
      rw [receiveFile]
      refine Triple.bind (Triple.mono (serves_readx 8) (fun _ serves => serves)
        (fun _ _ came => came) fun _ nothing => silent_nil nothing) fun header =>
          .assume fun came => ?_
      obtain ⟨enough, rfl⟩ := came
      dsimp only
      rw [wordOf_take (by omega), List.drop_take, wordOf_take (by omega)]
      split
      · next isData =>
          split
          · exact (silent_refuse _).mono (fun _ serves => serves.2) (fun _ _ said => said)
              fun _ silent => silent
          · next short =>
              refine Triple.bind (Triple.mono (serves_readx _) (fun _ serves => serves)
                (fun _ _ came => came) fun _ nothing => silent_nil nothing) fun data =>
                  .assume fun came => ?_
              obtain ⟨carried, rfl⟩ := came
              rw [List.length_drop] at carried
              rw [written index, List.drop_drop]
              refine (induction (index + 1) _).mono (fun _ serves => serves)
                (fun file connection said => ?_) fun _ silent => silent
              obtain ⟨more, ⟨delivers, rfl⟩, nothing⟩ := said
              refine ⟨_, ⟨.of_data isData (by omega) (by omega) delivers, ?_⟩, nothing⟩
              rw [List.append_assoc]
      · split
        · next isDone =>
            refine .pure fun _ serves => ⟨[], ⟨.of_done enough isDone, ?_⟩, serves.2⟩
            rw [List.append_nil]
        · exact (silent_refuse _).mono (fun _ serves => serves.2) (fun _ _ said => said)
            fun _ silent => silent

theorem handleSendFile_eq {path : List UInt8} (succeeded : calls.Succeeded path) :
    handleSendFile device calls path = (do
      let file ← fun connection =>
        receiveFile device calls (connection.incoming.length + 1) 0 (some []) connection
      finishFile file) := by
  have created : createFile device calls path = pure .done := by
    rcases succeeded.created with done | ⟨missing, made, done⟩
    · rw [createFile, done]
    · rw [createFile, missing]
      dsimp only
      rw [if_pos rfl, made]
      dsimp only
      rw [done]
  have begun : beginFile device calls (calls.reopened .done) = pure (some []) := by
    rw [Calls.reopened, if_neg (by decide), beginFile, succeeded.owned]
  rw [handleSendFile, created]
  have step (next : CallResult → Program Connection (Option (List UInt8))) :
      (pure .done >>= next) = next .done := rfl
  rw [step, begun]
  rfl

/-- What is acknowledged was delivered and is stored. -/
theorem serves_handleSendFile {path : List UInt8} (succeeded : calls.Succeeded path) :
    Triple (Serves stream []) (handleSendFile device calls path)
      (fun stored _ => ∃ content, Delivers stream content ∧ stored = some content) Silent := by
  rw [handleSendFile_eq succeeded]
  have received : Triple (Serves stream []) (fun connection =>
      receiveFile device calls (connection.incoming.length + 1) 0 (some []) connection)
      (fun file connection => ∃ content, (Delivers stream content ∧ file = some content) ∧
        connection.outgoing = []) Silent :=
    fun connection serves => serves_receiveFile succeeded.written _ 0 [] connection serves
  refine received.bind fun file => .choose fun content => .assume fun said => ?_
  obtain ⟨delivers, rfl⟩ := said
  rw [finishFile]
  have acknowledged : Triple (fun connection => connection.outgoing = []) (writex (pair idOkay 0))
      (fun _ _ => True) Silent :=
    fun connection nothing =>
      ⟨fun _ _ => trivial, fun refused => .inl (silent_writex nothing refused)⟩
  exact acknowledged.bind fun _ => .pure fun _ _ => ⟨content, delivers, rfl⟩

variable {rpath : List UInt8} {mode : UInt32}

/-- The service takes the request for what it is. -/
theorem serves_nextRequest (clean : 0 ∉ rpath) (short : rpath.length ≤ 1024) :
    Triple (Serves (sendRequest rpath mode ++ stream) []) nextRequest
      (fun request connection => request = (.send, rpath ++ modeText mode) ∧
        rpath.length + (modeText mode).length ≤ 1024 ∧ Serves stream [] connection) Silent := by
  obtain ⟨id, size⟩ := header_request short ((rpath ++ modeText mode) ++ stream)
  rw [sendRequest_append, nextRequest]
  refine (serves_readx 8).attempt_elim.bind fun header => ?_
  cases header with
  | none => exact silent_refuse _
  | some header =>
      refine Triple.assume fun came => ?_
      obtain ⟨-, rfl⟩ := came
      have left : (pair idSend (.ofNat (rpath.length + (modeText mode).length)) ++
          ((rpath ++ modeText mode) ++ stream)).drop 8 = (rpath ++ modeText mode) ++ stream := rfl
      dsimp only
      rw [id, size, left]
      split
      · exact (silent_refuse _).mono (fun _ serves => serves.2) (fun _ _ said => said)
          fun _ silent => silent
      · next fits =>
        rw [List.length_append, Nat.not_lt] at fits
        refine (serves_readx _).attempt_elim.bind fun name => ?_
        cases name with
        | none => exact silent_refuse _
        | some name =>
            refine Triple.assume fun came => ?_
            obtain ⟨-, rfl⟩ := came
            have kind : Kind.ofId idSend = some .send := by decide
            dsimp only
            rw [kind, List.take_left, List.drop_left, cString_request clean]
            exact .pure fun _ serves => ⟨rfl, fits, serves⟩

/-- What a service acknowledges was delivered to it, and it has stored it. -/
theorem stored_of_acknowledged (clean : 0 ∉ rpath) (short : rpath.length ≤ 1024)
    (regular : isReg mode = true) {world : Nat → Calls} (succeeded : (world 0).Succeeded rpath)
    (requests : Nat) {connection : Connection}
    (serves : Serves (sendRequest rpath mode ++ stream) [] connection)
    (acknowledged : ¬Silent (fileSyncService device world (requests + 1) 0 connection).2) :
    rpath.length + (modeText mode).length ≤ 1024 ∧ ∃ exchange later content,
      (fileSyncService device world (requests + 1) 0 connection).1 = exchange :: later ∧
        exchange.stored = some content ∧ Delivers stream content := by
  have answered : Triple
      (fun connection => rpath.length + (modeText mode).length ≤ 1024 ∧ Serves stream [] connection)
      (answer device (world 0) .send (rpath ++ modeText mode))
      (fun stored _ => rpath.length + (modeText mode).length ≤ 1024 ∧
        ∃ content, Delivers stream content ∧ stored = some content) Silent := by
    refine Triple.assume fun fits => ?_
    rw [answer, doSend, sendTarget_request device rpath regular]
    exact (serves_handleSendFile succeeded).mono (fun _ serves => serves)
      (fun _ _ said => ⟨fits, said⟩) fun _ silent => silent
  obtain ⟨exchange, after, ⟨fits, content, delivers, stored⟩, same⟩ :=
    (fileSyncService_first (serves_nextRequest clean short) answered serves).resolve_left
      acknowledged
  rw [same]
  exact ⟨fits, exchange, _, content, rfl, stored, delivers⟩

end Every

/-! ## Runs in which nothing fails -/

/-- As `Serves`, and no call on the connection fails or is cut short. -/
def Ready (stream out : List UInt8) (connection : Connection) : Prop :=
  connection.reads = [] ∧ connection.writes = [] ∧ Serves stream out connection

section Plain

variable {stream out content : List UInt8} {device : Device} {calls : Calls}
  {fail : Connection → Prop}

theorem ready_readx {len : Nat} (enough : len ≤ stream.length) :
    Triple (Ready stream out) (readx len)
      (fun bytes connection => bytes = stream.take len ∧ Ready (stream.drop len) out connection)
      fail := by
  rintro connection ⟨reads, writes, rfl, rfl⟩
  rw [readx_plain reads enough]
  refine ⟨fun bytes came => ?_, fun gave_up => by cases gave_up⟩
  obtain rfl := Option.some.inj came
  exact ⟨rfl, reads, writes, rfl, rfl⟩

theorem ready_writex (bytes : List UInt8) :
    Triple (Ready stream out) (writex bytes) (fun _ => Ready stream (out ++ bytes)) fail := by
  rintro connection ⟨reads, writes, rfl, rfl⟩
  rw [writex_plain writes]
  exact ⟨fun _ _ => ⟨reads, writes, rfl, rfl⟩, fun gave_up => by cases gave_up⟩

theorem ready_receiveFile (written : ∀ index, calls.write index = .done)
    (delivers : Delivers stream content) {fuel : Nat} (enough : stream.length - 7 ≤ fuel)
    (index : Nat) (before : List UInt8) :
    Triple (Ready stream out) (receiveFile device calls fuel index (some before))
      (fun file connection => file = some (before ++ content) ∧
        ∃ rest, Ready rest out connection) fail := by
  induction delivers generalizing fuel index before with
  | done size rest =>
      have length : (pair idDone size ++ rest).length = 8 + rest.length := by simp
      obtain ⟨fuel, rfl⟩ := Nat.exists_eq_succ_of_ne_zero (n := fuel) (by omega)
      rw [receiveFile]
      refine (ready_readx (by omega)).bind fun header => .assume fun came => ?_
      obtain rfl := came
      dsimp only
      rw [wordOf_take (by omega), wordOf_pair_append, if_neg (by decide), if_pos rfl,
        List.append_nil]
      exact .pure fun _ ready => ⟨rfl, _, ready⟩
  | @data payload rest content short later induction =>
      have length : (message idData payload ++ rest).length = 8 + payload.length + rest.length := by
        rw [List.length_append, length_message]
      have size := size_message_append idData rest (lt_of_le_syncDataMax short)
      obtain ⟨fuel, rfl⟩ := Nat.exists_eq_succ_of_ne_zero (n := fuel) (by omega)
      rw [receiveFile]
      refine (ready_readx (by omega)).bind fun header => .assume fun came => ?_
      obtain rfl := came
      dsimp only
      rw [wordOf_take (by omega), wordOf_message_append, if_pos rfl, List.drop_take,
        wordOf_take (by omega), size, if_neg (by omega), drop_message_append]
      refine (ready_readx (by rw [List.length_append]; omega)).bind fun data =>
        .assume fun came => ?_
      obtain rfl := came
      rw [List.take_left, List.drop_left, written index, ← List.append_assoc]
      exact induction (by omega) (index + 1) (before ++ payload)

theorem ready_handleSendFile {path : List UInt8} (succeeded : calls.Succeeded path)
    (delivers : Delivers stream content) :
    Triple (Ready stream out) (handleSendFile device calls path)
      (fun _ connection => connection.outgoing = out ++ pair idOkay 0) fail := by
  rw [handleSendFile_eq succeeded]
  have received : Triple (Ready stream out) (fun connection =>
      receiveFile device calls (connection.incoming.length + 1) 0 (some []) connection)
      (fun file connection => file = some ([] ++ content) ∧ ∃ rest, Ready rest out connection)
      fail := by
    rintro connection ⟨reads, writes, rfl, rfl⟩
    exact ready_receiveFile succeeded.written delivers (by omega) 0 [] connection
      ⟨reads, writes, rfl, rfl⟩
  refine received.bind fun file => .assume fun said => .choose fun rest => ?_
  obtain rfl := said
  rw [finishFile]
  exact (ready_writex _).bind fun _ => .pure fun _ ready => ready.2.2.2

variable {rpath : List UInt8} {mode : UInt32}

theorem ready_nextRequest (clean : 0 ∉ rpath)
    (fits : rpath.length + (modeText mode).length ≤ 1024) :
    Triple (Ready (sendRequest rpath mode ++ stream) out) nextRequest
      (fun request connection => request = (.send, rpath ++ modeText mode) ∧
        Ready stream out connection) fail := by
  obtain ⟨id, size⟩ := header_request (by omega : rpath.length ≤ 1024)
    ((rpath ++ modeText mode) ++ stream)
  rw [sendRequest_append, nextRequest]
  -- Neither of the two reads gives up.
  have header : Triple (Ready (pair idSend (.ofNat (rpath.length + (modeText mode).length)) ++
      ((rpath ++ modeText mode) ++ stream)) out) (readx 8) _ fun _ => False :=
    ready_readx (by rw [List.length_append, length_pair]; omega)
  refine header.attempt_elim.bind fun result => ?_
  cases result with
  | none => exact fun _ never => never.elim
  | some header =>
      refine Triple.assume fun came => ?_
      obtain rfl := came
      have left : (pair idSend (.ofNat (rpath.length + (modeText mode).length)) ++
          ((rpath ++ modeText mode) ++ stream)).drop 8 = (rpath ++ modeText mode) ++ stream := rfl
      dsimp only
      rw [id, size, left, if_neg (by rw [List.length_append]; omega)]
      have name : Triple (Ready ((rpath ++ modeText mode) ++ stream) out)
          (readx (rpath ++ modeText mode).length) _ fun _ => False :=
        ready_readx (by simp only [List.length_append]; omega)
      refine name.attempt_elim.bind fun result => ?_
      cases result with
      | none => exact fun _ never => never.elim
      | some name =>
          refine Triple.assume fun came => ?_
          obtain rfl := came
          have kind : Kind.ofId idSend = some .send := by decide
          dsimp only
          rw [kind, List.take_left, List.drop_left, cString_request clean]
          exact .pure fun _ ready => ⟨rfl, ready⟩

/-- A file that is delivered is acknowledged. -/
theorem acknowledged_of_delivers (clean : 0 ∉ rpath)
    (fits : rpath.length + (modeText mode).length ≤ 1024) (regular : isReg mode = true)
    {world : Nat → Calls} (succeeded : (world 0).Succeeded rpath)
    (delivers : Delivers stream content) :
    (fileSyncService device world 1 0
      { incoming := sendRequest rpath mode ++ stream }).2.outgoing = pair idOkay 0 := by
  have asked : Triple (Ready (sendRequest rpath mode ++ stream) []) nextRequest _ fun _ => False :=
    ready_nextRequest clean fits
  have answered : Triple (Ready stream []) (answer device (world 0) .send (rpath ++ modeText mode))
      (fun _ connection => connection.outgoing = pair idOkay 0) fun _ => False := by
    rw [answer, doSend, sendTarget_request device rpath regular]
    exact ready_handleSendFile succeeded delivers
  have ready : Ready (sendRequest rpath mode ++ stream) []
      { incoming := sendRequest rpath mode ++ stream } := ⟨rfl, rfl, rfl, rfl⟩
  obtain ⟨exchange, after, acknowledged, same⟩ :=
    (fileSyncService_first asked answered ready).resolve_left id
  rw [same]
  exact acknowledged

end Plain

end Sync
end AdbWide
