import AdbWide.Clients.Selection
import AdbWide.Sync.Service

/-!
# Replies

The server frames its replies with a status and four hexadecimal digits, and the client reads them
back with `adb_status` and `adb_query`.  Whatever the pieces are in which a reply goes out and comes
in, a reason for a failure gets through up to its 255th byte, and a message of fewer than `0xffff`
bytes gets through.
-/

namespace AdbWide
namespace Clients

open Wire (Connection IoResult Readable Writable)
open Program (Triple attempt stop)
open Sync (readx writex splitSign digitValue digitsValue)
open Sockets.Server

/-! ## The server -/

/-- `send_msg_with_okay`. -/
def sendMsgWithOkay (msg : List UInt8) : Program Connection Unit := do
  let msg := msg.take 0xffff
  let _ ← attempt (writex (ascii "OKAY" ++ hexLength msg.length))
  let _ ← attempt (writex msg)

/-- `sendfailmsg`, on a connection. -/
def sendfailmsgOn (reason : List UInt8) : Program Connection Unit := do
  let reason := (cString reason).take 0xffff
  writex (ascii "FAIL" ++ hexLength reason.length)
  writex reason

/-! ## The client -/

/-- The digits of a hexadecimal number, behind its prefix if there is one. -/
def splitHex (text : List UInt8) : List UInt8 :=
  match text with
  | 48 :: x :: digit :: rest =>
      if (x = 120 ∨ x = 88) ∧ digitValue digit < 16 then digit :: rest else text
  | _ => text

/-- `strtoul` with base 16, for an `unsigned long` of 32 bits. -/
def strtoulHex (text : List UInt8) : Nat :=
  let (negative, text) := splitSign (text.dropWhile fun c => c = 32 ∨ 9 ≤ c ∧ c ≤ 13)
  let value := digitsValue 16 (splitHex text)
  if 2 ^ 32 ≤ value then 2 ^ 32 - 1
  else if negative then (2 ^ 32 - value) % 2 ^ 32
  else value

/-- A client that is connected to the server. -/
structure Query where
  connection : Connection := {}
  /-- `__adb_error`. -/
  adbError : List UInt8 := []

section Client

variable {Value : Type}

/-- Do something with the connection. -/
def io (program : Program Connection Value) : Program Query Value :=
  fun query => ((program query.connection).1,
    { query with connection := (program query.connection).2 })

/-- Leave a text in `__adb_error` and fail. -/
def fault (text : List UInt8) : Program Query Value :=
  fun query => (none, { query with adbError := text })

end Client

/-- `%02x`. -/
def hexByte (byte : UInt8) : List UInt8 := [hexChar (byte.toNat / 16), hexChar (byte.toNat % 16)]

/-- `adb_status`; it returns zero if the program returns. -/
def adbStatus : Program Query Unit := do
  match ← attempt (io (readx 4)) with
  | none => fault (ascii "protocol fault (no status)")
  | some buf =>
      if buf = ascii "OKAY" then
        pure ()
      else if buf = ascii "FAIL" then
        match ← attempt (io (readx 4)) with
        | none => fault (ascii "protocol fault (status len)")
        | some buf =>
            match ← attempt (io (readx (min (strtoulHex buf) 255))) with
            | none => fault (ascii "protocol fault (status read)")
            | some text => fault (cString text)
      else
        fault (ascii "protocol fault (status " ++ (ascii " ").intercalate (buf.map hexByte) ++
          ascii "?!)")

/-- What `adb_query` reads once the service is connected. -/
def readReply (mallocs : Bool) : Program Query (List UInt8) := do
  let buf ← io (readx 4)
  let n := strtoulHex buf
  if 0xffff ≤ n then
    fault (ascii "reply is too long (>= 64kB)")
  else if mallocs then
    io (readx n)
  else stop

/-- What a client reads of the reply to a query. -/
def queryReply (mallocs : Bool) : Program Query (List UInt8) := do
  adbStatus
  readReply mallocs

/-! ## Four hexadecimal digits -/

theorem hexChar_facts : ∀ digit < 16, digitValue (hexChar digit) = digit ∧
    hexChar digit ≠ 45 ∧ hexChar digit ≠ 43 ∧ hexChar digit ≠ 120 ∧ hexChar digit ≠ 88 ∧
    ¬(hexChar digit = 32 ∨ 9 ≤ hexChar digit ∧ hexChar digit ≤ 13) := by
  decide

theorem splitHex_hexChar {first second : Nat} (small : second < 16) (rest : List UInt8) :
    splitHex (hexChar first :: hexChar second :: rest) =
      hexChar first :: hexChar second :: rest := by
  obtain ⟨-, -, -, notLower, notUpper, -⟩ := hexChar_facts second small
  unfold splitHex
  split
  · next x digit rest' same =>
      obtain ⟨-, rfl, -⟩ : _ ∧ hexChar second = x ∧ _ := by simpa using same
      rw [if_neg fun isPrefix => isPrefix.1.elim notLower notUpper]
  · rfl

theorem digitsValue_hexLength {n : Nat} (small : n < 65536) :
    digitsValue 16 (hexLength n) = n := by
  have value (digit : Nat) : digitValue (hexChar (digit % 16)) = digit % 16 :=
    (hexChar_facts _ (Nat.mod_lt _ (by decide))).1
  have all : (hexLength n).takeWhile (fun c => digitValue c < 16) = hexLength n := by
    simp only [hexLength, List.takeWhile_cons, value, List.takeWhile_nil,
      Nat.mod_lt _ (show 0 < 16 by decide), decide_true, if_true]
  rw [digitsValue, all]
  simp only [hexLength, List.foldl_cons, List.foldl_nil, value]
  omega

/-- The client reads the number that the server has written. -/
theorem strtoulHex_hexLength {n : Nat} (small : n < 65536) : strtoulHex (hexLength n) = n := by
  have first : n / 4096 % 16 < 16 := Nat.mod_lt _ (by decide)
  obtain ⟨-, notMinus, notPlus, -, -, notSpace⟩ := hexChar_facts _ first
  have front : (hexLength n).dropWhile (fun c => c = 32 ∨ 9 ≤ c ∧ c ≤ 13) = hexLength n := by
    rw [hexLength, List.dropWhile_cons_of_neg (by simpa using notSpace)]
  have sign : splitSign (hexLength n) = (false, hexLength n) := by
    rw [hexLength, splitSign]
    · exact fun rest same => notMinus (List.cons.inj same).1
    · exact fun rest same => notPlus (List.cons.inj same).1
  have digits : splitHex (hexLength n) = hexLength n :=
    splitHex_hexChar (Nat.mod_lt _ (by decide)) _
  rw [strtoulHex, front, sign]
  dsimp only
  rw [digits, digitsValue_hexLength small, if_neg (by omega), if_neg (by decide)]

/-! ## What gets through -/

section Replies

variable {stream : List UInt8} {fail : Query → Prop}

/-- Some bytes have still to be read, and no read fails. -/
def Reading (stream : List UInt8) (query : Query) : Prop :=
  Readable query.connection.reads ∧ query.connection.incoming = stream

theorem reading_readx {len : Nat} (enough : len ≤ stream.length) :
    Triple (Reading stream) (io (readx len))
      (fun bytes query => bytes = stream.take len ∧ Reading (stream.drop len) query) fail := by
  rintro query ⟨readable, rfl⟩
  obtain ⟨after, readable', left, read_eq⟩ := Wire.readx_of_le readable enough
  have ran : io (readx len) query = (some (query.connection.incoming.take len),
      { query with connection := after }) := by rw [io, readx, read_eq]
  rw [ran]
  refine ⟨fun bytes came => ?_, fun gave_up => by cases gave_up⟩
  obtain rfl := Option.some.inj came
  exact ⟨rfl, readable', left⟩

/-- The bytes are there, and the read does not fail. -/
theorem reading_attempt {len : Nat} (enough : len ≤ stream.length) {Value : Type}
    {next : Option (List UInt8) → Program Query Value} {post : Value → Query → Prop}
    (later : Triple (Reading (stream.drop len)) (next (some (stream.take len))) post fail) :
    Triple (Reading stream) (attempt (io (readx len)) >>= next) post fail := by
  have came : Triple (Reading stream) (io (readx len)) _ fun _ => False := reading_readx enough
  refine came.attempt_elim.bind fun result => ?_
  cases result with
  | none => exact fun _ never => never.elim
  | some bytes =>
      refine Triple.assume fun same => ?_
      rw [same]
      exact later

theorem fault_spec {Value : Type} {post : Value → Query → Prop} (text : List UInt8) :
    Triple (Reading stream) (fault text) post fun query => query.adbError = text :=
  fun _ _ => ⟨fun _ returned => (by cases returned), fun _ => rfl⟩

theorem okay_ne_fail : (ascii "OKAY").length = 4 ∧ (ascii "FAIL").length = 4 ∧
    ascii "FAIL" ≠ ascii "OKAY" := by
  with_unfolding_all decide

theorem adbStatus_okay :
    Triple (Reading (ascii "OKAY" ++ stream)) adbStatus (fun _ => Reading stream) fail := by
  have length := okay_ne_fail.1
  rw [adbStatus]
  refine reading_attempt (by rw [List.length_append]; omega) ?_
  dsimp only
  rw [List.take_left' length, List.drop_left' length, if_pos rfl]
  exact .pure fun _ reading => reading

/-- A reason gets through up to its 255th byte. -/
theorem adbStatus_fail {reason : List UInt8} (short : reason.length < 65536) :
    Triple (Reading (ascii "FAIL" ++ hexLength reason.length ++ reason ++ stream)) adbStatus
      (fun _ _ => False) fun query => query.adbError = cString (reason.take 255) := by
  obtain ⟨-, length, different⟩ := okay_ne_fail
  have digits := length_hexLength reason.length
  rw [adbStatus]
  refine reading_attempt (by simp only [List.length_append]; omega) ?_
  dsimp only
  simp only [List.append_assoc]
  rw [List.take_left' length, List.drop_left' length, if_neg different, if_pos rfl]
  refine reading_attempt (by simp only [List.length_append]; omega) ?_
  dsimp only
  rw [List.take_left' digits, List.drop_left' digits, strtoulHex_hexLength short]
  refine reading_attempt (by simp only [List.length_append]; omega) ?_
  dsimp only
  have text : (reason ++ stream).take (min reason.length 255) = reason.take 255 := by
    rw [List.take_append_of_le_length (Nat.min_le_left _ _), List.take_eq_take_iff]
    omega
  rw [text]
  exact fault_spec _

/-- A message of fewer than `0xffff` bytes gets through. -/
theorem readReply_short {message : List UInt8} (short : message.length < 0xffff) :
    Triple (Reading (hexLength message.length ++ message ++ stream)) (readReply true)
      (fun reply _ => reply = message) fail := by
  have digits := length_hexLength message.length
  rw [readReply, List.append_assoc]
  refine (reading_readx (by simp only [List.length_append]; omega)).bind fun buf =>
    .assume fun same => ?_
  rw [same, List.take_left' digits, List.drop_left' digits, strtoulHex_hexLength (by omega)]
  dsimp only
  rw [if_neg (by omega), if_pos rfl]
  have enough : message.length ≤ (message ++ stream).length := by
    rw [List.length_append]
    omega
  have came : Triple (Reading (message ++ stream)) (io (readx message.length)) _ fail :=
    reading_readx enough
  exact came.mono (fun _ reading => reading)
    (fun reply _ said => by rw [said.1, List.take_left]) fun _ failed => failed

/-- A message of `0xffff` bytes is taken for a longer one. -/
theorem readReply_long {message : List UInt8} (long : message.length = 0xffff) :
    Triple (Reading (hexLength message.length ++ message ++ stream)) (readReply true)
      (fun _ _ => False) fun query => query.adbError = ascii "reply is too long (>= 64kB)" := by
  have digits := length_hexLength message.length
  rw [readReply, List.append_assoc]
  refine (reading_readx (by simp only [List.length_append]; omega)).bind fun buf =>
    .assume fun same => ?_
  rw [same, List.take_left' digits, List.drop_left' digits, strtoulHex_hexLength (by omega)]
  dsimp only
  rw [if_pos (by omega)]
  exact fault_spec _

end Replies

/-! ## What is written -/

section Server

variable {out : List UInt8} {fail : Connection → Prop}

/-- Some bytes have been written, and no write fails. -/
def Writing (out : List UInt8) (server : Connection) : Prop :=
  Writable server.writes ∧ server.outgoing = out

theorem writing_writex (bytes : List UInt8) :
    Triple (Writing out) (writex bytes) (fun _ => Writing (out ++ bytes)) fail := by
  rintro server ⟨writable, rfl⟩
  obtain ⟨left, writable', loop_eq⟩ := Wire.writexLoop_eq writable bytes
  have ran : writex bytes server =
      (some (), { server with outgoing := server.outgoing ++ bytes, writes := left }) := by
    rw [writex, Wire.writex, loop_eq]
    rfl
  rw [ran]
  exact ⟨fun _ _ => ⟨writable', rfl⟩, fun gave_up => by cases gave_up⟩

/-- The bytes of `send_msg_with_okay`. -/
def okayMsg (msg : List UInt8) : List UInt8 :=
  ascii "OKAY" ++ frame (msg.take 0xffff)

theorem writing_sendMsgWithOkay (msg : List UInt8) :
    Triple (Writing out) (sendMsgWithOkay msg) (fun _ => Writing (out ++ okayMsg msg)) fail := by
  have header : Triple (Writing out)
      (writex (ascii "OKAY" ++ hexLength (msg.take 0xffff).length)) _ fun _ => False :=
    writing_writex _
  have body : Triple (Writing (out ++ (ascii "OKAY" ++ hexLength (msg.take 0xffff).length)))
      (writex (msg.take 0xffff)) _ fun _ => False := writing_writex _
  rw [sendMsgWithOkay]
  refine header.attempt_elim.bind fun result => ?_
  cases result with
  | none => exact fun _ never => never.elim
  | some _ =>
      refine body.attempt_elim.bind fun result => ?_
      cases result with
      | none => exact fun _ never => never.elim
      | some _ =>
          refine .pure fun _ writing => ?_
          rw [okayMsg, frame, ← List.append_assoc, ← List.append_assoc]
          rw [← List.append_assoc] at writing
          exact writing

theorem writing_sendfailmsgOn (reason : List UInt8) :
    Triple (Writing out) (sendfailmsgOn reason)
      (fun _ => Writing (out ++ sendfailmsg (cString reason))) fail := by
  rw [sendfailmsgOn, sendfailmsg, frame, ← List.append_assoc, ← List.append_assoc]
  refine (writing_writex _).bind fun _ => ?_
  rw [← List.append_assoc]
  exact writing_writex _

end Server

theorem cString_take_cString (reason : List UInt8) (count : Nat) :
    cString ((cString reason).take count) = (cString reason).take count := by
  rw [cString, List.takeWhile_eq_self_iff]
  intro byte member
  have front : byte ∈ reason.takeWhile (· ≠ 0) := List.mem_of_mem_take member
  exact List.mem_takeWhile_imp (p := fun c => decide (c ≠ 0)) front

/-- A message gets through up to its length in the frame, whatever the pieces are in which it goes
out and comes in, and whatever comes behind it. -/
def GetsThrough (message : List UInt8) : Prop :=
  ∀ (server : Connection) (query : Query) (rest : List UInt8),
    Writable server.writes → Readable query.connection.reads →
    query.connection.incoming =
      (sendMsgWithOkay message server).2.outgoing.drop server.outgoing.length ++ rest →
    (queryReply true query).1 = some (message.take 0xffff)

theorem incoming_of_written {program : Program Connection Unit} {server : Connection}
    {bytes incoming rest : List UInt8} (writable : Writable server.writes)
    (writes : Triple (Writing server.outgoing) program
      (fun _ => Writing (server.outgoing ++ bytes)) fun _ => False)
    (came : incoming = (program server).2.outgoing.drop server.outgoing.length ++ rest) :
    incoming = bytes ++ rest := by
  obtain ⟨said, failed⟩ := writes server ⟨writable, rfl⟩
  cases ran : (program server).1 with
  | none => exact (failed ran).elim
  | some value =>
      have written := (said value ran).2
      rw [came, written, List.drop_left]

theorem queryReply_short {message rest : List UInt8} (short : message.length < 0xffff) :
    Triple (Reading (okayMsg message ++ rest)) (queryReply true)
      (fun reply _ => reply = message) fun _ => False := by
  rw [queryReply, okayMsg, frame, List.append_assoc, List.take_of_length_le (by omega)]
  exact adbStatus_okay.bind fun _ => readReply_short short

theorem queryReply_long {message rest : List UInt8} (long : 0xffff ≤ message.length) :
    Triple (Reading (okayMsg message ++ rest)) (queryReply true) (fun _ _ => False)
      fun query => query.adbError = ascii "reply is too long (>= 64kB)" := by
  have length : (message.take 0xffff).length = 0xffff := by
    rw [List.length_take]
    omega
  rw [queryReply, okayMsg, frame, List.append_assoc]
  exact adbStatus_okay.bind fun _ => readReply_long length

theorem not_getsThrough {message : List UInt8} (long : 0xffff ≤ message.length) :
    ¬GetsThrough message := by
  intro through
  have none_fails : Writable ({} : Connection).writes ∧ Readable ({} : Connection).reads := by
    simp [Writable, Readable]
  have written : (sendMsgWithOkay message {}).2.outgoing.drop 0 ++ [] = okayMsg message ++ [] :=
    incoming_of_written none_fails.1 (writing_sendMsgWithOkay message) rfl
  have returned := through {} { connection := { incoming := okayMsg message ++ [] } } []
    none_fails.1 none_fails.2 written.symm
  exact (queryReply_long long _ ⟨none_fails.2, rfl⟩).1 _ returned

/-- A reply to a query gets through exactly if the message is shorter than `0xffff` bytes, and every
reason for a failure gets through up to its 255th byte. -/
theorem reply_roundTrip_iff (message reason : List UInt8) :
    (GetsThrough message ↔ message.length < 0xffff) ∧
      ∀ (server : Connection) (query : Query) (rest : List UInt8),
        Writable server.writes → Readable query.connection.reads →
        query.connection.incoming =
          (sendfailmsgOn reason server).2.outgoing.drop server.outgoing.length ++ rest →
        (adbStatus query).1 = none ∧ (adbStatus query).2.adbError = (cString reason).take 255 := by
  refine ⟨⟨fun through => ?_, fun short server query rest writable readable came => ?_⟩,
    fun server query rest writable readable came => ?_⟩
  · by_contra long
    exact not_getsThrough (Nat.not_lt.mp long) through
  · have stream := incoming_of_written writable (writing_sendMsgWithOkay message) came
    obtain ⟨said, failed⟩ := queryReply_short short query ⟨readable, stream⟩
    rw [List.take_of_length_le (by omega)]
    cases returned : (queryReply true query).1 with
    | none => exact (failed returned).elim
    | some reply => rw [said reply returned]
  · have stream := incoming_of_written writable (writing_sendfailmsgOn reason) came
    have short : ((cString reason).take 0xffff).length < 65536 := by
      rw [List.length_take]
      omega
    rw [sendfailmsg, frame, ← List.append_assoc] at stream
    obtain ⟨said, failed⟩ := adbStatus_fail short query ⟨readable, stream⟩
    have gave_up : (adbStatus query).1 = none := by
      cases returned : (adbStatus query).1 with
      | none => rfl
      | some value => exact (said value returned).elim
    refine ⟨gave_up, ?_⟩
    rw [failed gave_up, List.take_take, Nat.min_eq_left (by decide), cString_take_cString]

/-- A message of `0xffff` bytes is written whole, and the client refuses it. -/
theorem reply_not_roundTrip : ¬GetsThrough (List.replicate 0xffff 65) := by
  refine not_getsThrough ?_
  rw [List.length_replicate]

end Clients
end AdbWide
