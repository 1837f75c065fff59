import Mathlib.Algebra.Group.Int.Defs
import Mathlib.Algebra.Group.Nat.Defs
import Mathlib.Logic.Function.Basic
import AdbWide.Sockets.Traffic
import AdbWide.Sync.Protocol

/-!
# The sync client of the host

`sync_ls`, `sync_recv` and `sync_send` talk to a device over a connection.  Lengths that come from
the device are kept in an `int` and handed on as a `size_t`; what is done with the buffers is noted.
The calls of the host's file system are data of each function.
-/

namespace AdbWide
namespace Sync

open Wire (Connection IoResult)
open Program (attempt stop)
open Sockets.Server (ascii cString)

/-- What is done with a buffer of some capacity. -/
inductive Access where
  /-- `readx` is asked for so many bytes. -/
  | request (capacity size : Nat)
  /-- A zero is written behind what was read. -/
  | terminate (capacity : Nat) (index : Int)
  /-- `strcpy` of so many bytes, with the zero. -/
  | copy (capacity size : Nat)
  deriving DecidableEq, Repr

/-- A path as `CreateFileW` takes it. -/
abbrev WPath := List UInt16

/-- The program `adb` on the host. -/
structure Client where
  connection : Connection := {}
  /-- The files of the host. -/
  disk : WPath → Option (List UInt8) := fun _ => none
  /-- What was done with the buffers. -/
  accesses : List Access := []
  /-- The paths that `CreateFileW` opened for a pull. -/
  opened : List WPath := []

/-- Do something with the connection. -/
def io {Value : Type} (program : Program Connection Value) : Program Client Value :=
  fun client => ((program client.connection).1,
    { client with connection := (program client.connection).2 })

/-- Note what is done with a buffer. -/
def note (access : Access) : Program Client Unit :=
  fun client => (some (), { client with accesses := client.accesses ++ [access] })

/-- Change the files of the host. -/
def onDisk (change : (WPath → Option (List UInt8)) → WPath → Option (List UInt8)) :
    Program Client Unit :=
  fun client => (some (), { client with disk := change client.disk })

/-- Note that a path is opened. -/
def noteOpened (path : WPath) : Program Client Unit :=
  fun client => (some (), { client with opened := client.opened ++ [path] })

/-- An `unsigned` kept in an `int`. -/
def asInt (word : UInt32) : Int :=
  if word.toNat < 2 ^ 31 then word.toNat else (word.toNat : Int) - 2 ^ 32

/-- An `int` handed on as a `size_t`. -/
def asSize (len : Int) : Nat := (len % 2 ^ 32).toNat

/-- `readx` into a buffer. -/
def readBuffer (capacity : Nat) (len : Int) : Program Client (List UInt8) := do
  note (.request capacity (asSize len))
  io (readx (asSize len))

/-! ## `sync_ls` -/

/-- What the callback of `sync_ls` is given. -/
structure Dent where
  mode : UInt32
  size : UInt32
  time : UInt32
  name : List UInt8
  deriving DecidableEq, Repr

/-- The loop of `sync_ls`. -/
def lsLoop : Nat → Program Client (List Dent)
  | 0 => stop
  | fuel + 1 => do
      let record ← io (readx 20)
      if wordOf record = idDone then
        return []
      else if wordOf record = idDent then
        let len := asInt (wordOf (record.drop 16))
        if 256 < len then
          stop
        else
          let name ← readBuffer 257 len
          note (.terminate 257 len)
          let later ← lsLoop fuel
          return ⟨wordOf (record.drop 4), wordOf (record.drop 8), wordOf (record.drop 12),
            cString name⟩ :: later
      else
        stop

/-- `sync_ls`, with what the callback is given if it returns zero. -/
def syncLs (path : List UInt8) : Program Client (List Dent) :=
  if 1024 < path.length then
    stop
  else do
    io (writex (pair idList (.ofNat path.length)))
    io (writex path)
    fun client => lsLoop (client.connection.incoming.length + 1) client

/-! ## `sync_recv` -/

/-- What the host makes of a path. -/
structure Host where
  /-- `UTF8_to_Unicode`. -/
  utf8ToUnicode : List UInt8 → WPath
  /-- `UTF8_to_GBK`. -/
  utf8ToGbk : List UInt8 → List UInt8
  /-- The file `unlink` takes a path for. -/
  ansi : List UInt8 → WPath

/-- Both separators name the same file. -/
def separator (unit : UInt16) : UInt16 := if unit = 92 then 47 else unit

/-- The calls of the host's file system in `sync_recv`. -/
structure PullCalls where
  unlink : Bool := true
  creat : Bool := true
  write : Nat → Bool := fun _ => true
  /-- `adb_unlink` after an error. -/
  unlinkAgain : Bool := true

/-- `text.replace(2, 1, "/")`, which throws if the text is too short. -/
def replaceThird {Unit : Type} (slash : Unit) (text : List Unit) : Option (List Unit) :=
  if text.length < 2 then none else some (text.take 2 ++ slash :: text.drop 3)

/-- `adb_unlink`. -/
def adbUnlink (host : Host) (succeeds : Bool) (lpath : List UInt8) : Program Client Unit :=
  onDisk fun disk =>
    if succeeds then Function.update disk ((host.ansi lpath).map separator) none else disk

/-- `str.substr(0, str.find_last_of("/")).c_str()`. -/
def parent (str : List UInt8) : List UInt8 :=
  cString (str.take (str.length - (str.reverse.takeWhile (· ≠ 47)).length - 1))

/-- What is left of `mkdirs`: the copy of its argument. -/
def copyParent (str : List UInt8) : Program Client Unit :=
  note (.copy 260 ((parent str).length + 1))

/-- `adb_creat`: the file that is open. -/
def adbCreat (host : Host) (calls : PullCalls) (lpath : List UInt8) : Program Client WPath :=
  match replaceThird 47 (host.utf8ToUnicode lpath) with
  | none => stop
  | some path =>
      if calls.creat then do
        onDisk fun disk => Function.update disk (path.map separator) (some [])
        noteOpened path
        return path.map separator
      else stop

/-- `remote_error`. -/
def remoteError (host : Host) (calls : PullCalls) (lpath : List UInt8) (id size : UInt32) :
    Program Client Unit := do
  adbUnlink host calls.unlinkAgain lpath
  if id = idFail then
    let len := if 256 < asInt size then 256 else asInt size
    let _ ← readBuffer syncDataMax len
    note (.terminate syncDataMax len)
  else
    note (.terminate syncDataMax 4)

/-- The loop of `sync_recv` from `handle_data` on. -/
def handleData (host : Host) (calls : PullCalls) (lpath : List UInt8) (file : WPath) :
    Nat → Nat → List UInt8 → Program Client Unit
  | 0, _, _ => stop
  | fuel + 1, index, header =>
      let id := wordOf header
      let len := asInt (wordOf (header.drop 4))
      if id = idDone then
        pure ()
      else if id = idData then
        if syncDataMax < len then
          stop
        else do
          let data ← readBuffer syncDataMax len
          if calls.write index then
            onDisk fun disk => Function.update disk file ((disk file).map (· ++ data))
            let header ← io (readx 8)
            handleData host calls lpath file fuel (index + 1) header
          else stop
      else
        remoteError host calls lpath id (wordOf (header.drop 4))

/-- What `sync_recv` does with the file before `handle_data`. -/
def beginPull (host : Host) (calls : PullCalls) (lpath : List UInt8) : Program Client WPath := do
  adbUnlink host calls.unlink lpath
  match replaceThird 47 (host.utf8ToGbk lpath) with
  | none => stop
  | some str => do
      copyParent str
      adbCreat host calls lpath

/-- Ask for the size of the file, if the progress is shown. -/
def askStat (rpath : List UInt8) : Bool → Program Client Unit
  | false => pure ()
  | true => do
      io (writex (pair idStat (.ofNat rpath.length)))
      io (writex rpath)
      let record ← io (readx 16)
      if wordOf record = idStat then pure () else stop

/-- `sync_recv` from the first message of the answer on. -/
def receive (host : Host) (calls : PullCalls) (lpath header : List UInt8) : Program Client Unit :=
  if wordOf header = idData ∨ wordOf header = idDone then do
    let file ← beginPull host calls lpath
    fun client =>
      handleData host calls lpath file (client.connection.incoming.length + 1) 0 header client
  else
    remoteError host calls lpath (wordOf header) (wordOf (header.drop 4))

/-- `sync_recv`; it returns zero if the program returns. -/
def syncRecv (host : Host) (calls : PullCalls) (rpath lpath : List UInt8) (showProgress : Bool) :
    Program Client Unit :=
  if 1024 < rpath.length then
    stop
  else do
    askStat rpath showProgress
    io (writex (pair idRecv (.ofNat rpath.length)))
    io (writex rpath)
    let header ← io (readx 8)
    receive host calls lpath header

/-! ## `sync_send` -/

/-- A local file, and how the calls for it end. -/
structure PushCalls where
  content : List UInt8
  /-- `write_data_file`: `adb_open`, `lstat` and `adb_read`. -/
  opens : Bool := true
  stats : Bool := true
  reads : List IoResult := []
  /-- The check of an APK file: `adb_open`, `adb_lseek`, `malloc`, `adb_read` and what the zip
  library says. -/
  apkOpens : Bool := true
  seeks : Bool := true
  mallocs : Bool := true
  apkRead : IoResult := .moved (2 ^ 32)
  isApk : List UInt8 → Bool := fun _ => true

/-- `S_ISREG`. -/
def isReg (mode : UInt32) : Bool := mode &&& 0o170000 = 0o100000

/-- `%d`. -/
def decimal (number : Int) : List UInt8 :=
  (if number < 0 then [45] else []) ++
    (Nat.toDigits 10 number.natAbs).map fun c => c.toNat.toUInt8

/-- A message in the send buffer goes out in one `writex`. -/
def sendData (data : List UInt8) : Program Connection Unit := writex (message idData data)

/-- The loop of `write_data_file`. -/
def dataFileLoop : Nat → List IoResult → List UInt8 → Program Connection Unit
  | 0, _, _ => pure ()
  | fuel + 1, [], content =>
      let data := content.take syncDataMax
      if data = [] then
        pure ()
      else do
        sendData data
        dataFileLoop fuel [] (content.drop data.length)
  | fuel + 1, .moved more :: reads, content =>
      let data := content.take (min (more + 1) syncDataMax)
      if data = [] then
        pure ()
      else do
        sendData data
        dataFileLoop fuel reads (content.drop data.length)
  | fuel + 1, .interrupted :: reads, content => dataFileLoop fuel reads content
  | _ + 1, .again :: _, _ => pure ()
  | _ + 1, .failed :: _, _ => pure ()

/-- `write_data_file`. -/
def writeDataFile (calls : PushCalls) (showProgress : Bool) : Program Connection Unit :=
  if calls.opens = false ∨ showProgress = true ∧ calls.stats = false then stop
  else dataFileLoop (calls.content.length + calls.reads.length + 1) calls.reads calls.content

/-- The loop of `write_data_buffer`. -/
def dataBufferLoop (buffer : List UInt8) (size : Int) : Nat → Nat → Program Connection Unit
  | 0, _ => pure ()
  | fuel + 1, total =>
      if (total : Int) < size then do
        let count := min (size - total).toNat syncDataMax
        sendData ((buffer.drop total).take count)
        dataBufferLoop buffer size fuel (total + count)
      else pure ()

/-- `write_data_buffer`. -/
def writeDataBuffer (buffer : List UInt8) (size : Int) : Program Connection Unit :=
  dataBufferLoop buffer size (size.toNat + 1) 0

/-- What `adb_lseek` to the end returns. -/
def PushCalls.size (calls : PushCalls) : Int :=
  if calls.content.length < 2 ^ 32 - 1 then asInt (.ofNat calls.content.length) else -1

/-- The check of an APK file: the buffer it is read into, and its size. -/
def loadApk (calls : PushCalls) : Option (List UInt8 × Int) :=
  let got :=
    match calls.apkRead with
    | .moved more => some (calls.content.take (min (more + 1) (asSize calls.size)))
    | .interrupted | .again | .failed => none
  if calls.apkOpens = true ∧ calls.size ≠ -1 ∧ calls.seeks = true ∧ calls.mallocs = true then
    got.bind fun buffer =>
      if buffer.length = asSize calls.size ∧ calls.isApk buffer = true then
        some (buffer, calls.size)
      else none
  else none

/-- The requests of `sync_send`. -/
def askSend (rpath : List UInt8) (mode : UInt32) : Program Connection Unit := do
  let tmp := 44 :: decimal (asInt mode)
  writex (pair idSend (.ofNat (rpath.length + tmp.length)))
  writex rpath
  writex tmp

/-- The status at the end of `sync_send`. -/
def readStatus : Program Client Unit := do
  let status ← io (readx 8)
  if wordOf status = idOkay then
    pure ()
  else if wordOf status = idFail then
    let size := wordOf (status.drop 4)
    let len := if 256 < asInt size then 256 else asInt size
    let _ ← readBuffer syncDataMax len
    note (.terminate syncDataMax len)
    stop
  else
    stop

/-- What `sync_send` sends for the file; nobody looks at the results of the two functions. -/
def sendFile (calls : PushCalls) (mode : UInt32) (buffer : Option (List UInt8 × Int))
    (showProgress : Bool) : Program Connection (Option Unit) :=
  match buffer with
  | some (buffer, size) => attempt (writeDataBuffer buffer size)
  | none => if isReg mode then attempt (writeDataFile calls showProgress) else stop

/-- `sync_send` up to the status. -/
def sendAll (calls : PushCalls) (rpath : List UInt8) (mtime mode : UInt32)
    (verifyApk showProgress : Bool) : Program Connection Unit :=
  if 1024 < rpath.length ∨ verifyApk = true ∧ loadApk calls = none then
    stop
  else do
    askSend rpath mode
    let _ ← sendFile calls mode (if verifyApk then loadApk calls else none) showProgress
    writex (pair idDone mtime)

/-- `sync_send`; it returns zero if the program returns. -/
def syncSend (calls : PushCalls) (rpath : List UInt8) (mtime mode : UInt32)
    (verifyApk showProgress : Bool) : Program Client Unit := do
  io (sendAll calls rpath mtime mode verifyApk showProgress)
  readStatus

end Sync
end AdbWide
