import Mathlib.Algebra.GroupWithZero.Nat
import AdbWide.Wire.Packet

/-!
# The wire codec

`nextFrame` says what one message on the wire is, without loops and retries.  However the
connection cuts up what it carries, `remote_read` takes exactly that off the stream, and
`remote_write` puts exactly the bytes of the packet on it.
-/

namespace AdbWide
namespace Wire

open Sockets (maxPayload)

/-- The reads of a connection return short counts or are interrupted, and never fail. -/
def Readable (reads : List IoResult) : Prop :=
  ∀ result ∈ reads, result ≠ .again ∧ result ≠ .failed

/-- The writes of a connection return short counts or have to be tried again, and never fail. -/
def Writable (writes : List IoResult) : Prop :=
  ∀ result ∈ writes, result ≠ .failed

/-- A message: its header and its payload. -/
abbrev Frame := Amessage × List UInt8

/-- The message in a packet. -/
def Apacket.frame (p : Apacket) : Frame := (p.msg, p.payload)

/-- The bytes of a message on the wire. -/
def Frame.bytes (frame : Frame) : List UInt8 := frame.1.bytes ++ frame.2

/-- The header that the first 24 bytes make. -/
def headerOf (stream : List UInt8) : Amessage := .ofBytes (stream.take sizeofAmessage)

/-- What a byte stream has to begin with. -/
def StartsWithFrame (stream : List UInt8) : Prop :=
  let msg := headerOf stream
  let rest := stream.drop sizeofAmessage
  sizeofAmessage ≤ stream.length ∧ msg.magic = msg.command ^^^ 0xffffffff ∧
    msg.dataLength.toNat ≤ maxPayload ∧ msg.dataLength.toNat ≤ rest.length ∧
    ((rest.take msg.dataLength.toNat).map UInt8.toNat).sum % 2 ^ 32 = msg.dataCheck.toNat

instance (stream : List UInt8) : Decidable (StartsWithFrame stream) := by
  unfold StartsWithFrame
  infer_instance

/-- Split the message off that a byte stream begins with. -/
def nextFrame (stream : List UInt8) : Option (Frame × List UInt8) :=
  let msg := headerOf stream
  let rest := stream.drop sizeofAmessage
  if StartsWithFrame stream then
    some ((msg, rest.take msg.dataLength.toNat), rest.drop msg.dataLength.toNat)
  else none

/-! ## Headers and checksums -/

@[simp] theorem Amessage.length_bytes (msg : Amessage) : msg.bytes.length = sizeofAmessage := rfl

@[simp] theorem Amessage.ofBytes_bytes (msg : Amessage) : Amessage.ofBytes msg.bytes = msg := by
  simp [Amessage.ofBytes, Amessage.bytes]

theorem toNat_foldl_checksum (bytes : List UInt8) (sum : UInt32) :
    (bytes.foldl (fun sum byte => sum + byte.toUInt32) sum).toNat =
      (sum.toNat + (bytes.map UInt8.toNat).sum) % 2 ^ 32 := by
  induction bytes generalizing sum with
  | nil => simp [Nat.mod_eq_of_lt sum.toNat_lt]
  | cons byte bytes ih =>
      rw [List.foldl_cons, ih, UInt32.toNat_add, UInt8.toNat_toUInt32, List.map_cons, List.sum_cons,
        Nat.mod_add_mod, Nat.add_assoc]

theorem toNat_checksum (bytes : List UInt8) :
    (checksum bytes).toNat = (bytes.map UInt8.toNat).sum % 2 ^ 32 := by
  rw [checksum, toNat_foldl_checksum, UInt32.toNat_zero, Nat.zero_add]

theorem checksum_eq_iff (bytes : List UInt8) (check : UInt32) :
    checksum bytes = check ↔ (bytes.map UInt8.toNat).sum % 2 ^ 32 = check.toNat := by
  rw [← toNat_checksum, UInt32.toNat_inj]

/-! ## Retrying loops -/

theorem Readable.tail {result : IoResult} {reads : List IoResult}
    (readable : Readable (result :: reads)) : Readable reads :=
  fun other member => readable other (List.mem_cons_of_mem _ member)

/-- `readx` reads what it is asked for, in however many pieces it comes. -/
theorem readxLoop_of_le {reads : List IoResult} (readable : Readable reads) {len : Nat}
    {stream : List UInt8} (enough : len ≤ stream.length) :
    ∃ reads', Readable reads' ∧
      readxLoop reads len stream = (some (stream.take len), stream.drop len, reads') := by
  induction reads generalizing len stream with
  | nil =>
      cases len with
      | zero => exact ⟨[], readable, by simp [readxLoop]⟩
      | succ len => exact ⟨[], readable, by rw [readxLoop, if_pos enough]⟩
  | cons result reads ih =>
      cases len with
      | zero => exact ⟨result :: reads, readable, by simp [readxLoop]⟩
      | succ len =>
          cases result with
          | moved more =>
              have length_got : (stream.take (min (more + 1) (len + 1))).length =
                  min (more + 1) (len + 1) := by
                rw [List.length_take]
                omega
              have nonempty : stream.take (min (more + 1) (len + 1)) ≠ [] := by
                intro empty
                rw [empty, List.length_nil] at length_got
                omega
              have enough' : len + 1 - min (more + 1) (len + 1) ≤
                  (stream.drop (min (more + 1) (len + 1))).length := by
                rw [List.length_drop]
                omega
              obtain ⟨reads', readable', rest_eq⟩ := ih readable.tail enough'
              refine ⟨reads', readable', ?_⟩
              rw [readxLoop]
              simp only [nonempty, if_false, length_got, rest_eq, Option.map_some, List.drop_drop]
              rw [← List.take_add, Nat.add_sub_cancel' (Nat.min_le_right _ _)]
          | interrupted =>
              obtain ⟨reads', readable', rest_eq⟩ := ih readable.tail enough
              exact ⟨reads', readable', by rw [readxLoop, rest_eq]⟩
          | again => exact absurd rfl (readable .again List.mem_cons_self).1
          | failed => exact absurd rfl (readable .failed List.mem_cons_self).2

/-- `readx` fails at the end of the stream. -/
theorem readxLoop_of_lt {reads : List IoResult} {len : Nat} {stream : List UInt8}
    (short : stream.length < len) : (readxLoop reads len stream).1 = none := by
  induction reads generalizing len stream with
  | nil =>
      cases len with
      | zero => simp at short
      | succ len => rw [readxLoop, if_neg (by omega)]
  | cons result reads ih =>
      cases len with
      | zero => simp at short
      | succ len =>
          cases result with
          | moved more =>
              rw [readxLoop]
              split
              · rfl
              · have short' : (stream.drop (stream.take (min (more + 1) (len + 1))).length).length <
                    len + 1 - (stream.take (min (more + 1) (len + 1))).length := by
                  rw [List.length_drop, List.length_take]
                  omega
                simp only [ih short', Option.map_none]
          | interrupted =>
              rw [readxLoop]
              exact ih short
          | again => rfl
          | failed => rfl

theorem readx_of_le {connection : Connection} (readable : Readable connection.reads) {len : Nat}
    (enough : len ≤ connection.incoming.length) :
    ∃ connection', Readable connection'.reads ∧
      connection'.incoming = connection.incoming.drop len ∧
      readx connection len = (some (connection.incoming.take len), connection') := by
  obtain ⟨reads', readable', loop_eq⟩ := readxLoop_of_le readable enough
  exact ⟨{ connection with incoming := connection.incoming.drop len, reads := reads' }, readable',
    rfl, by rw [readx, loop_eq]⟩

theorem readx_of_lt {connection : Connection} {len : Nat}
    (short : connection.incoming.length < len) :
    ∃ connection', readx connection len = (none, connection') := by
  have failed : (readxLoop connection.reads len connection.incoming).1 = none :=
    readxLoop_of_lt short
  exact ⟨(readx connection len).2, by rw [readx]; simp [failed]⟩

/-- `writex` writes everything, in however many pieces it goes out. -/
theorem writexLoop_eq {writes : List IoResult} (writable : Writable writes)
    (bytes : List UInt8) :
    ∃ writes', Writable writes' ∧ writexLoop writes bytes = (true, bytes, writes') := by
  induction writes generalizing bytes with
  | nil =>
      cases bytes with
      | nil => exact ⟨[], writable, rfl⟩
      | cons byte bytes => exact ⟨[], writable, rfl⟩
  | cons result writes ih =>
      have writable' : Writable writes :=
        fun other member => writable other (List.mem_cons_of_mem _ member)
      cases bytes with
      | nil => exact ⟨result :: writes, writable, rfl⟩
      | cons byte bytes =>
          cases result with
          | moved more =>
              obtain ⟨left, writable'', rest_eq⟩ := ih writable' (bytes.drop more)
              refine ⟨left, writable'', ?_⟩
              rw [writexLoop, rest_eq]
              simp
          | interrupted =>
              obtain ⟨left, writable'', rest_eq⟩ := ih writable' (byte :: bytes)
              exact ⟨left, writable'', by rw [writexLoop, rest_eq]⟩
          | again =>
              obtain ⟨left, writable'', rest_eq⟩ := ih writable' (byte :: bytes)
              exact ⟨left, writable'', by rw [writexLoop, rest_eq]⟩
          | failed => exact absurd rfl (writable .failed List.mem_cons_self)

theorem remoteWrites_eq {connection : Connection} (writable : Writable connection.writes)
    (packets : List Apacket) :
    ∃ connection', connection'.outgoing =
        connection.outgoing ++ (packets.map Apacket.frame).flatMap Frame.bytes ∧
      remoteWrites packets connection = (true, connection') := by
  induction packets generalizing connection with
  | nil => exact ⟨connection, by simp, rfl⟩
  | cons p packets ih =>
      obtain ⟨writes', writable', loop_eq⟩ :=
        writexLoop_eq writable (p.msg.bytes ++ p.payload)
      have writable'' : Writable (Connection.writes { connection with
          outgoing := connection.outgoing ++ (p.msg.bytes ++ p.payload), writes := writes' }) :=
        writable'
      obtain ⟨connection', outgoing, rest_eq⟩ := ih writable''
      refine ⟨connection', ?_, ?_⟩
      · rw [outgoing]
        simp [Apacket.frame, Frame.bytes]
      · rw [remoteWrites, remoteWrite, writex, loop_eq]
        exact rest_eq

/-! ## One message -/

theorem Apacket.payload_store {p : Apacket} {bytes : List UInt8}
    (length_eq : bytes.length = p.msg.dataLength.toNat) (fits : bytes.length ≤ maxPayload) :
    (p.store bytes).payload = bytes := by
  simp only [Apacket.payload, Apacket.store, List.take_take]
  rw [Nat.min_eq_left (by omega), ← length_eq, List.take_left]

/-- `remote_read` of a stream whose header is good: it takes the payload and checks it. -/
theorem remoteRead_of_header {connection connection₁ connection₂ : Connection} {p : Apacket}
    {header bytes : List UInt8}
    (read₁ : readx connection sizeofAmessage = (some header, connection₁))
    (good : checkHeader { p with msg := .ofBytes header })
    (read₂ : readx connection₁ (Amessage.ofBytes header).dataLength.toNat =
      (some bytes, connection₂))
    (length_eq : bytes.length = (Amessage.ofBytes header).dataLength.toNat) :
    ∃ q : Apacket, q.msg = .ofBytes header ∧ q.payload = bytes ∧
      remoteRead p connection = (if checkData q then some q else none, connection₂) := by
  have fits : bytes.length ≤ maxPayload := length_eq ▸ (of_decide_eq_true good).2
  refine ⟨Apacket.store { p with msg := .ofBytes header } bytes, rfl,
    Apacket.payload_store length_eq fits, ?_⟩
  rw [remoteRead, read₁]
  simp only [good, if_true, read₂]
  split <;> rfl

theorem remoteRead_of_missing_payload {connection connection₁ connection₂ : Connection}
    {p : Apacket} {header : List UInt8}
    (read₁ : readx connection sizeofAmessage = (some header, connection₁))
    (good : checkHeader { p with msg := .ofBytes header })
    (read₂ : readx connection₁ (Amessage.ofBytes header).dataLength.toNat = (none, connection₂)) :
    remoteRead p connection = (none, connection₂) := by
  rw [remoteRead, read₁]
  simp only [good, if_true, read₂]

/-- `remote_read` takes the next message off the stream. -/
theorem remoteRead_of_startsWithFrame {connection : Connection} (p : Apacket)
    (readable : Readable connection.reads) (starts : StartsWithFrame connection.incoming) :
    ∃ q connection', remoteRead p connection = (some q, connection') ∧
      Readable connection'.reads ∧
      nextFrame connection.incoming = some (q.frame, connection'.incoming) := by
  have frame_eq : nextFrame connection.incoming = some _ := if_pos starts
  obtain ⟨header, magic, bound, enough, sum⟩ := starts
  obtain ⟨connection₁, readable₁, incoming₁, read₁⟩ := readx_of_le readable header
  rw [← incoming₁] at enough sum frame_eq
  obtain ⟨connection₂, readable₂, incoming₂, read₂⟩ := readx_of_le readable₁ enough
  obtain ⟨q, msg_eq, payload_eq, result⟩ := remoteRead_of_header (p := p) read₁
    (decide_eq_true ⟨magic, bound⟩) read₂ (List.length_take_of_le enough)
  have checked : checkData q := by
    rw [checkData, payload_eq, msg_eq, decide_eq_true_eq, checksum_eq_iff]
    exact sum
  refine ⟨q, connection₂, ?_, readable₂, ?_⟩
  · rw [result, if_pos checked]
  · rw [frame_eq, Apacket.frame, msg_eq, payload_eq, incoming₂]
    rfl

/-- `remote_read` takes nothing else. -/
theorem remoteRead_of_not_startsWithFrame {connection : Connection} (p : Apacket)
    (readable : Readable connection.reads) (bad : ¬ StartsWithFrame connection.incoming) :
    ∃ connection', remoteRead p connection = (none, connection') := by
  by_cases header : sizeofAmessage ≤ connection.incoming.length
  · obtain ⟨connection₁, readable₁, incoming₁, read₁⟩ := readx_of_le readable header
    by_cases good : checkHeader { p with msg := headerOf connection.incoming }
    · obtain ⟨magic, bound⟩ := of_decide_eq_true good
      by_cases enough : (headerOf connection.incoming).dataLength.toNat ≤
          connection₁.incoming.length
      · obtain ⟨connection₂, _, _, read₂⟩ := readx_of_le readable₁ enough
        obtain ⟨q, msg_eq, payload_eq, result⟩ := remoteRead_of_header (p := p) read₁ good read₂
          (List.length_take_of_le enough)
        refine ⟨connection₂, ?_⟩
        rw [result, if_neg]
        intro checked
        rw [checkData, payload_eq, msg_eq, decide_eq_true_eq, checksum_eq_iff, incoming₁] at checked
        rw [incoming₁] at enough
        exact bad ⟨header, magic, bound, enough, checked⟩
      · obtain ⟨connection₂, read₂⟩ := readx_of_lt (Nat.lt_of_not_le enough)
        exact ⟨connection₂, remoteRead_of_missing_payload read₁ good read₂⟩
    · refine ⟨connection₁, ?_⟩
      rw [remoteRead, read₁]
      exact if_neg good
  · obtain ⟨connection₁, read₁⟩ := readx_of_lt (Nat.lt_of_not_le header)
    exact ⟨connection₁, by rw [remoteRead, read₁]⟩

theorem remoteRead_isSome_iff {connection : Connection} (p : Apacket)
    (readable : Readable connection.reads) :
    (remoteRead p connection).1.isSome ↔ StartsWithFrame connection.incoming := by
  by_cases starts : StartsWithFrame connection.incoming
  · obtain ⟨q, connection', result, -, -⟩ := remoteRead_of_startsWithFrame p readable starts
    simp [result, starts]
  · obtain ⟨connection', result⟩ := remoteRead_of_not_startsWithFrame p readable starts
    simp [result, starts]

/-! ## All messages -/

/-- Reading again and again finds the messages of the stream, one after the other. -/
theorem map_frame_remoteReads (memory : Nat → Apacket) (rounds : Nat) {connection : Connection}
    (readable : Readable connection.reads) :
    (remoteReads memory rounds connection).map Apacket.frame =
      splitAll nextFrame rounds connection.incoming := by
  induction rounds generalizing connection with
  | zero => rfl
  | succ rounds ih =>
      by_cases starts : StartsWithFrame connection.incoming
      · obtain ⟨q, connection', result, readable', split_eq⟩ :=
          remoteRead_of_startsWithFrame (memory rounds) readable starts
        rw [remoteReads, result, splitAll, split_eq, List.map_cons, ih readable']
      · obtain ⟨connection', result⟩ :=
          remoteRead_of_not_startsWithFrame (memory rounds) readable starts
        rw [remoteReads, result, splitAll, nextFrame, if_neg starts, List.map_nil]

/-- A packet that `send_packet` has finished is split off again. -/
theorem nextFrame_bytes_append {p : Apacket} (bound : p.msg.dataLength.toNat ≤ maxPayload)
    (rest : List UInt8) :
    nextFrame ((sendPacket p).frame.bytes ++ rest) = some ((sendPacket p).frame, rest) := by
  have length_payload : p.payload.length = p.msg.dataLength.toNat := by
    rw [Apacket.payload, List.length_take, p.length_data]
    omega
  have header : headerOf ((sendPacket p).frame.bytes ++ rest) = (sendPacket p).msg := by
    rw [headerOf, Frame.bytes, List.append_assoc, List.take_left' (Amessage.length_bytes _)]
    exact Amessage.ofBytes_bytes _
  have behind : ((sendPacket p).frame.bytes ++ rest).drop sizeofAmessage = p.payload ++ rest := by
    rw [Frame.bytes, List.append_assoc, List.drop_left' (Amessage.length_bytes _)]
    rfl
  have taken : (p.payload ++ rest).take p.msg.dataLength.toNat = p.payload :=
    List.take_left' length_payload
  have starts : StartsWithFrame ((sendPacket p).frame.bytes ++ rest) := by
    refine ⟨by simp [Frame.bytes], ?_⟩
    rw [header, behind]
    refine ⟨rfl, bound, by simp [sendPacket, length_payload], ?_⟩
    change ((((p.payload ++ rest).take p.msg.dataLength.toNat).map UInt8.toNat).sum) % 2 ^ 32 = _
    rw [taken, ← toNat_checksum]
    rfl
  rw [nextFrame, if_pos starts, header, behind]
  change some (((sendPacket p).msg, (p.payload ++ rest).take p.msg.dataLength.toNat),
    (p.payload ++ rest).drop p.msg.dataLength.toNat) = _
  rw [taken, List.drop_left' length_payload]
  rfl

/-- The wire codec: packets that `send_packet` has finished come out of a connection as they went
in, however it cuts up what is written and read; and one `remote_read` succeeds on exactly the
streams that begin with a message. -/
theorem wire_roundTrip :
    (∀ (packets : List Apacket) (writer : Connection) (reads : List IoResult)
      (memory : Nat → Apacket),
      (∀ p ∈ packets, p.msg.dataLength.toNat ≤ maxPayload) → Writable writer.writes →
        Readable reads →
      ∃ bytes writer', remoteWrites (packets.map sendPacket) writer = (true, writer') ∧
        writer'.outgoing = writer.outgoing ++ bytes ∧
        (remoteReads memory (bytes.length + 1) { incoming := bytes, reads }).map Apacket.frame =
          packets.map fun p => (sendPacket p).frame) ∧
    ∀ (connection : Connection) (p : Apacket), Readable connection.reads →
      ((remoteRead p connection).1.isSome ↔
        sizeofAmessage ≤ connection.incoming.length ∧
        let msg := Amessage.ofBytes (connection.incoming.take sizeofAmessage)
        let rest := connection.incoming.drop sizeofAmessage
        msg.magic = msg.command ^^^ 0xffffffff ∧ msg.dataLength.toNat ≤ 4096 ∧
          msg.dataLength.toNat ≤ rest.length ∧
          ((rest.take msg.dataLength.toNat).map UInt8.toNat).sum % 2 ^ 32 =
            msg.dataCheck.toNat) := by
  refine ⟨fun packets writer reads memory bound writable readable => ?_,
    fun connection p readable => remoteRead_isSome_iff p readable⟩
  obtain ⟨writer', outgoing, result⟩ := remoteWrites_eq writable (packets.map sendPacket)
  refine ⟨_, writer', result, outgoing, ?_⟩
  rw [map_frame_remoteReads memory _ readable]
  have nonempty : ∀ frame ∈ (packets.map sendPacket).map Apacket.frame, frame.bytes ≠ [] := by
    intro frame _ empty
    have lengths := congrArg List.length empty
    simp [Frame.bytes, sizeofAmessage] at lengths
  have inverse : ∀ frame ∈ (packets.map sendPacket).map Apacket.frame, ∀ rest,
      nextFrame (frame.bytes ++ rest) = some (frame, rest) := by
    simp only [List.map_map, List.mem_map, Function.comp_apply]
    rintro _ ⟨p, member, rfl⟩ rest
    exact nextFrame_bytes_append (bound p member) rest
  rw [splitAll_flatMap rfl inverse (Nat.lt_succ_of_le (length_le_length_flatMap nonempty)),
    List.map_map]
  rfl

/-- A packet whose data are all the same. -/
def uniformPacket (length : UInt32) (byte : UInt8) : Apacket :=
  ⟨⟨0x45545257, 7, 1, length, 0, 0⟩, List.replicate maxPayload byte, List.length_replicate⟩

/-- Packets of three bytes, of none and of a whole buffer, written after an interruption and read
with a cut in the first header and another one in the last data. -/
theorem wire_roundTrip_short_counts :
    ∃ bytes writer', remoteWrites
        ([uniformPacket 3 65, uniformPacket 0 0, uniformPacket 4096 66].map sendPacket)
        { writes := [.interrupted, .again, .moved 4] } = (true, writer') ∧
      writer'.outgoing = [] ++ bytes ∧
      (remoteReads (fun _ => uniformPacket 0 0) (bytes.length + 1)
          { incoming := bytes,
            reads := [.moved 9, .interrupted, .moved 13, .moved 2, .moved 23, .moved 23,
              .moved 1000] }).map Apacket.frame =
        [uniformPacket 3 65, uniformPacket 0 0, uniformPacket 4096 66].map
          fun p => (sendPacket p).frame := by
  have bound : ∀ p ∈ [uniformPacket 3 65, uniformPacket 0 0, uniformPacket 4096 66],
      p.msg.dataLength.toNat ≤ maxPayload := by
    simp only [List.forall_mem_cons]
    exact ⟨by decide, by decide, by decide, fun _ member => by cases member⟩
  exact wire_roundTrip.1 _ _ _ _ bound (by simp [Writable]) (by simp [Readable])

end Wire
end AdbWide
