import AdbWide.LittleEndian
import AdbWide.Sockets.Model

/-!
# Packets on a connection

A packet is a header of six words and an array of `MAX_PAYLOAD` bytes, of which `data_length` are
sent.  This file embeds `send_packet`, which fills in the checks, and the reader and the writer of
a socket transport with their retrying loops.

What a call of `adb_read` or `adb_write` returns is taken from a list of results; past its end every
call moves all it is asked for.  The bytes of a connection are those the other end sends before it
closes it.
-/

namespace AdbWide
namespace Wire

open Sockets (maxPayload)

/-- `amessage`. -/
structure Amessage where
  command : UInt32
  arg0 : UInt32
  arg1 : UInt32
  dataLength : UInt32
  dataCheck : UInt32
  magic : UInt32
  deriving DecidableEq, Repr

/-- `sizeof(amessage)`. -/
def sizeofAmessage : Nat := 24

/-- The header as it lies in memory and on the wire. -/
def Amessage.bytes (msg : Amessage) : List UInt8 :=
  wordBytes msg.command ++ (wordBytes msg.arg0 ++ (wordBytes msg.arg1 ++
    (wordBytes msg.dataLength ++ (wordBytes msg.dataCheck ++ wordBytes msg.magic))))

/-- The header that lies at the front of some bytes. -/
def Amessage.ofBytes (bytes : List UInt8) : Amessage where
  command := wordOf bytes
  arg0 := wordOf (bytes.drop 4)
  arg1 := wordOf (bytes.drop 8)
  dataLength := wordOf (bytes.drop 12)
  dataCheck := wordOf (bytes.drop 16)
  magic := wordOf (bytes.drop 20)

/-- `apacket`: the header and the whole array behind it, whatever it holds. -/
structure Apacket where
  msg : Amessage
  data : List UInt8
  length_data : data.length = maxPayload

/-- The bytes of the array that belong to the packet. -/
def Apacket.payload (p : Apacket) : List UInt8 := p.data.take p.msg.dataLength.toNat

/-- Put bytes at the front of the array. -/
def Apacket.store (p : Apacket) (bytes : List UInt8) : Apacket where
  msg := p.msg
  data := (bytes ++ p.data.drop bytes.length).take maxPayload
  length_data := by simp [p.length_data]; omega

/-- The loop of `send_packet` and `check_data` over the payload. -/
def checksum (bytes : List UInt8) : UInt32 :=
  bytes.foldl (fun sum byte => sum + byte.toUInt32) 0

/-- `send_packet`, up to where the packet is given to the transport. -/
def sendPacket (p : Apacket) : Apacket :=
  { p with
    msg := { p.msg with
      magic := p.msg.command ^^^ 0xffffffff
      dataCheck := checksum p.payload } }

/-- `check_header` returns zero. -/
def checkHeader (p : Apacket) : Bool :=
  p.msg.magic = p.msg.command ^^^ 0xffffffff ∧ p.msg.dataLength.toNat ≤ maxPayload

/-- `check_data` returns zero. -/
def checkData (p : Apacket) : Bool :=
  checksum p.payload = p.msg.dataCheck

/-- What a call of `adb_read` or `adb_write` returns. -/
inductive IoResult where
  /-- One more byte than this, or all there are; nothing is left at the end of the stream. -/
  | moved (more : Nat)
  /-- `EINTR`. -/
  | interrupted
  /-- `EAGAIN`. -/
  | again
  /-- Zero, or any other error. -/
  | failed
  deriving DecidableEq, Repr

/-- The socket of a transport. -/
structure Connection where
  /-- What is still to be read. -/
  incoming : List UInt8 := []
  reads : List IoResult := []
  /-- What has been written. -/
  outgoing : List UInt8 := []
  writes : List IoResult := []
  deriving DecidableEq

/-- The loop of `readx`: what was read if all of it came, what is left of the stream, and the
results of later calls. -/
def readxLoop :
    List IoResult → Nat → List UInt8 → Option (List UInt8) × List UInt8 × List IoResult
  | reads, 0, stream => (some [], stream, reads)
  | [], len + 1, stream =>
      if len + 1 ≤ stream.length then (some (stream.take (len + 1)), stream.drop (len + 1), [])
      else (none, [], [])
  | .moved more :: reads, len + 1, stream =>
      let got := stream.take (min (more + 1) (len + 1))
      if got = [] then (none, [], reads)
      else
        let (rest, left) := readxLoop reads (len + 1 - got.length) (stream.drop got.length)
        (rest.map (got ++ ·), left)
  | .interrupted :: reads, len + 1, stream => readxLoop reads (len + 1) stream
  | .again :: reads, _ + 1, stream => (none, stream, reads)
  | .failed :: reads, _ + 1, stream => (none, stream, reads)

/-- `readx`. -/
def readx (connection : Connection) (len : Nat) : Option (List UInt8) × Connection :=
  let (bytes, incoming, reads) := readxLoop connection.reads len connection.incoming
  (bytes, { connection with incoming, reads })

/-- The loop of `writex`: whether everything was written, what was, and the results of later
calls. -/
def writexLoop : List IoResult → List UInt8 → Bool × List UInt8 × List IoResult
  | writes, [] => (true, [], writes)
  | [], byte :: bytes => (true, byte :: bytes, [])
  | .moved more :: writes, byte :: bytes =>
      let (ok, written, left) := writexLoop writes (bytes.drop more)
      (ok, byte :: bytes.take more ++ written, left)
  | .interrupted :: writes, byte :: bytes => writexLoop writes (byte :: bytes)
  | .again :: writes, byte :: bytes => writexLoop writes (byte :: bytes)
  | .failed :: writes, _ :: _ => (false, [], writes)

/-- `writex` returns zero, with the connection after it. -/
def writex (connection : Connection) (bytes : List UInt8) : Bool × Connection :=
  let (ok, written, writes) := writexLoop connection.writes bytes
  (ok, { connection with outgoing := connection.outgoing ++ written, writes })

/-- `remote_read` of a socket transport into a packet. -/
def remoteRead (p : Apacket) (connection : Connection) : Option Apacket × Connection :=
  match readx connection sizeofAmessage with
  | (none, connection) => (none, connection)
  | (some header, connection) =>
      let p := { p with msg := .ofBytes header }
      if checkHeader p then
        match readx connection p.msg.dataLength.toNat with
        | (none, connection) => (none, connection)
        | (some bytes, connection) =>
            let p := p.store bytes
            if checkData p then (some p, connection) else (none, connection)
      else (none, connection)

/-- `remote_write` of a socket transport returns zero, with the connection after it.  The array
lies right behind the header. -/
def remoteWrite (p : Apacket) (connection : Connection) : Bool × Connection :=
  writex connection (p.msg.bytes ++ p.payload)

/-- `remote_write` of one packet after the other. -/
def remoteWrites : List Apacket → Connection → Bool × Connection
  | [], connection => (true, connection)
  | p :: packets, connection =>
      match remoteWrite p connection with
      | (true, connection) => remoteWrites packets connection
      | (false, connection) => (false, connection)

/-- `remote_read` into one new packet after the other, until it fails. -/
def remoteReads (memory : Nat → Apacket) : Nat → Connection → List Apacket
  | 0, _ => []
  | rounds + 1, connection =>
      match remoteRead (memory rounds) connection with
      | (none, _) => []
      | (some p, connection) => p :: remoteReads memory rounds connection

end Wire
end AdbWide
