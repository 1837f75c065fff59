import AdbWide.Program
import AdbWide.Wire.Codec

/-!
# The messages of the sync protocol

Requests, records and statuses begin with a word that says what they are.  This file has their
layouts, and `readx` and `writex` as programs over a connection.
-/

namespace AdbWide
namespace Sync

open Wire (Connection IoResult Writable)
open Program (Emits)

/-- `MKID`. -/
def mkid (a b c d : Char) : UInt32 :=
  a.val ||| b.val <<< 8 ||| c.val <<< 16 ||| d.val <<< 24

def idStat : UInt32 := mkid 'S' 'T' 'A' 'T'
def idList : UInt32 := mkid 'L' 'I' 'S' 'T'
def idSend : UInt32 := mkid 'S' 'E' 'N' 'D'
def idRecv : UInt32 := mkid 'R' 'E' 'C' 'V'
def idDent : UInt32 := mkid 'D' 'E' 'N' 'T'
def idDone : UInt32 := mkid 'D' 'O' 'N' 'E'
def idData : UInt32 := mkid 'D' 'A' 'T' 'A'
def idOkay : UInt32 := mkid 'O' 'K' 'A' 'Y'
def idFail : UInt32 := mkid 'F' 'A' 'I' 'L'
def idQuit : UInt32 := mkid 'Q' 'U' 'I' 'T'

/-- `SYNC_DATA_MAX`. -/
def syncDataMax : Nat := 64 * 1024

/-- The members `req`, `data` and `status` of a `syncmsg`: two words. -/
def pair (id size : UInt32) : List UInt8 := wordBytes id ++ wordBytes size

/-- What `lstat` finds, as far as it is sent. -/
structure Stat where
  mode : UInt32
  size : UInt32
  time : UInt32
  deriving DecidableEq, Repr

/-- The member `stat` of a `syncmsg`. -/
def statRecord (id : UInt32) (st : Stat) : List UInt8 :=
  wordBytes id ++ wordBytes st.mode ++ wordBytes st.size ++ wordBytes st.time

/-- The member `dent` of a `syncmsg`. -/
def dentRecord (id : UInt32) (st : Stat) (namelen : UInt32) : List UInt8 :=
  statRecord id st ++ wordBytes namelen

/-- A message with its text or its data. -/
def message (id : UInt32) (text : List UInt8) : List UInt8 :=
  pair id (.ofNat text.length) ++ text

@[simp] theorem length_pair (id size : UInt32) : (pair id size).length = 8 := rfl

theorem length_message (id : UInt32) (text : List UInt8) :
    (message id text).length = 8 + text.length := by
  rw [message, List.length_append, length_pair]

theorem wordOf_pair_append (id size : UInt32) (rest : List UInt8) :
    wordOf (pair id size ++ rest) = id := by
  rw [pair, List.append_assoc, wordOf_wordBytes_append]

theorem wordOf_drop_pair_append (id size : UInt32) (rest : List UInt8) :
    wordOf ((pair id size ++ rest).drop 4) = size := by
  have dropped := drop_wordBytes_append id (wordBytes size ++ rest) 0
  rw [pair, List.append_assoc, dropped]
  exact wordOf_wordBytes_append size rest

section Messages

variable (id : UInt32) {text : List UInt8} (rest : List UInt8)

theorem message_append (text : List UInt8) :
    message id text ++ rest = pair id (.ofNat text.length) ++ (text ++ rest) :=
  List.append_assoc _ _ _

theorem wordOf_message_append (text : List UInt8) : wordOf (message id text ++ rest) = id := by
  rw [message_append, wordOf_pair_append]

theorem size_message_append (short : text.length < 2 ^ 32) :
    (wordOf ((message id text ++ rest).drop 4)).toNat = text.length := by
  rw [message_append, wordOf_drop_pair_append, UInt32.toNat_ofNat', Nat.mod_eq_of_lt short]

theorem drop_message_append (text : List UInt8) :
    (message id text ++ rest).drop 8 = text ++ rest := by
  rw [message_append]
  rfl

end Messages

/-- Eight bytes are the pair of words they make. -/
theorem eq_pair_append {stream : List UInt8} (enough : 8 ≤ stream.length) :
    stream = pair (wordOf stream) (wordOf (stream.drop 4)) ++ stream.drop 8 := by
  have dropped : 4 ≤ (stream.drop 4).length := by
    rw [List.length_drop]
    omega
  have split : stream.drop 8 = (stream.drop 4).drop 4 := by rw [List.drop_drop]
  rw [pair, wordBytes_wordOf (by omega), wordBytes_wordOf dropped, split, List.append_assoc,
    List.take_append_drop, List.take_append_drop]

/-! ## Reading and writing -/

/-- `readx`. -/
def readx (len : Nat) : Program Connection (List UInt8) :=
  fun connection => Wire.readx connection len

/-- `writex`. -/
def writex (bytes : List UInt8) : Program Connection Unit :=
  fun connection =>
    let (ok, connection) := Wire.writex connection bytes
    (if ok then some () else none, connection)

/-- What is read is as long as it was asked for, and comes off the front. -/
theorem readxLoop_some {reads : List IoResult} {len : Nat} {stream bytes : List UInt8}
    (came : (Wire.readxLoop reads len stream).1 = some bytes) :
    bytes.length = len ∧ stream = bytes ++ (Wire.readxLoop reads len stream).2.1 := by
  induction reads generalizing len stream bytes with
  | nil =>
      cases len with
      | zero =>
          obtain rfl := Option.some.inj came
          exact ⟨rfl, rfl⟩
      | succ len =>
          rw [Wire.readxLoop] at came ⊢
          split at came
          · next enough =>
              obtain rfl := Option.some.inj came
              rw [if_pos enough, List.take_append_drop, List.length_take]
              exact ⟨by omega, rfl⟩
          · cases came
  | cons result reads induction =>
      cases len with
      | zero =>
          obtain rfl := Option.some.inj came
          exact ⟨rfl, rfl⟩
      | succ len =>
          cases result with
          | moved more =>
              rw [Wire.readxLoop] at came ⊢
              split at came
              · cases came
              · next moved =>
                  obtain ⟨rest, came', rfl⟩ := Option.map_eq_some_iff.mp came
                  obtain ⟨size, later⟩ := induction came'
                  have short : (stream.take (min (more + 1) (len + 1))).length ≤ len + 1 := by
                    rw [List.length_take]
                    omega
                  simp only [moved, if_false]
                  constructor
                  · rw [List.length_append]
                    omega
                  · rw [List.append_assoc, ← later, List.prefix_iff_eq_append.mp
                      (List.take_prefix _ stream)]
          | interrupted => exact induction came
          | again => cases came
          | failed => cases came

theorem length_of_readx {connection after : Connection} {len : Nat} {bytes : List UInt8}
    (came : readx len connection = (some bytes, after)) : bytes.length = len :=
  (readxLoop_some (congrArg Prod.fst came)).1

/-- What is read comes off the front of what was sent. -/
theorem readx_split {connection after : Connection} {len : Nat} {bytes : List UInt8}
    (came : readx len connection = (some bytes, after)) :
    connection.incoming = bytes ++ after.incoming ∧ after.outgoing = connection.outgoing ∧
      after.writes = connection.writes := by
  have loop := (readxLoop_some (congrArg Prod.fst came)).2
  obtain rfl : _ = after := congrArg Prod.snd came
  exact ⟨loop, rfl, rfl⟩

/-- Where no read fails or is cut short, what is there is read. -/
theorem readx_plain {connection : Connection} (plain : connection.reads = []) {len : Nat}
    (enough : len ≤ connection.incoming.length) :
    readx len connection = (some (connection.incoming.take len),
      { connection with incoming := connection.incoming.drop len }) := by
  cases len with
  | zero => simp [readx, Wire.readx, Wire.readxLoop]
  | succ len => simp [readx, Wire.readx, plain, Wire.readxLoop, enough]

theorem writex_plain {connection : Connection} (plain : connection.writes = [])
    (bytes : List UInt8) :
    writex bytes connection = (some (),
      { connection with outgoing := connection.outgoing ++ bytes }) := by
  cases bytes with
  | nil => simp [writex, Wire.writex, Wire.writexLoop]
  | cons byte bytes => simp [writex, Wire.writex, plain, Wire.writexLoop]

theorem writexLoop_written {writes : List IoResult} {bytes : List UInt8}
    (ok : (Wire.writexLoop writes bytes).1 = true) :
    (Wire.writexLoop writes bytes).2.1 = bytes := by
  induction writes generalizing bytes with
  | nil =>
      cases bytes with
      | nil => rfl
      | cons byte bytes => rfl
  | cons result writes induction =>
      cases bytes with
      | nil => rfl
      | cons byte bytes =>
          cases result with
          | moved more =>
              rw [Wire.writexLoop] at ok ⊢
              have rest := induction ok
              simp only [rest, List.cons_append, List.take_append_drop]
          | interrupted => exact induction ok
          | again => exact induction ok
          | failed => cases ok

theorem writable_writexLoop {writes : List IoResult} (writable : Writable writes)
    (bytes : List UInt8) :
    (Wire.writexLoop writes bytes).1 = true ∧ Writable (Wire.writexLoop writes bytes).2.2 := by
  obtain ⟨left, writable', loop_eq⟩ := Wire.writexLoop_eq writable bytes
  rw [loop_eq]
  exact ⟨rfl, writable'⟩

section Emits

/-- The socket takes everything, where that is asked for. -/
def Strict (strict : Prop) (connection : Connection) : Prop :=
  strict → Writable connection.writes

variable {strict : Prop}

theorem emits_readx (len : Nat) :
    Emits (Strict strict) Connection.outgoing (readx len)
      fun bytes out => bytes.length = len ∧ out = [] := by
  intro before writable
  refine ⟨[], (List.append_nil _).symm, writable, fun bytes came => ⟨?_, rfl⟩⟩
  exact (readxLoop_some came).1

theorem emits_writex (bytes : List UInt8) :
    Emits (Strict strict) Connection.outgoing (writex bytes) fun _ out => out = bytes := by
  intro before writable
  refine ⟨(Wire.writexLoop before.writes bytes).2.1, rfl, ?_, ?_⟩
  · exact fun asked => (writable_writexLoop (writable asked) bytes).2
  · intro _ returned
    refine writexLoop_written ?_
    by_contra failed
    rw [writex, Wire.writex] at returned
    simp only [Bool.not_eq_true] at failed
    simp [failed] at returned

/-- Nothing that is written to such a socket is lost. -/
theorem isSome_writex {connection : Connection} (writable : Writable connection.writes)
    (bytes : List UInt8) : (writex bytes connection).1.isSome := by
  have ok := (writable_writexLoop writable bytes).1
  simp [writex, Wire.writex, ok]

end Emits

end Sync
end AdbWide
