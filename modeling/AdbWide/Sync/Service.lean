import Mathlib.Algebra.Group.Nat.Defs
import AdbWide.Sockets.Traffic
import AdbWide.Sync.Protocol

/-!
# The sync service of a device

`file_sync_service` reads requests from a connection and answers them.  What the file system answers
to the calls that are made for a request is data of that request, so that the results of this file
are about every such answer.
-/

namespace AdbWide
namespace Sync

open Wire (Connection Writable)
open Program (Emits attempt stop)
open Sockets.Server (ascii cString)

/-! ## The file system and the C library of the device -/

def enoent : Nat := 2
def eintr : Nat := 4
def eexist : Nat := 17

/-- What a call returns that gives nothing but success or `errno`. -/
inductive CallResult where
  | done
  | failed (errno : Nat)
  deriving DecidableEq, Repr

/-- What the calls of `mkdirs` for one directory return: `adb_mkdir`, and `chown` for a directory
that has been made. -/
inductive DirResult where
  | made
  | failed (errno : Nat)
  | unowned (errno : Nat)
  deriving DecidableEq, Repr

/-- What `adb_read` of a file returns; no bytes are the end of it. -/
inductive ReadResult where
  | read (bytes : List UInt8)
  | failed (errno : Nat)
  deriving DecidableEq, Repr

/-- What `readdir` gives, and what `lstat` says about it. -/
structure DirEntry where
  name : List UInt8
  lstat : Option Stat
  deriving DecidableEq, Repr

/-- The answers of the file system to the calls made for one request. -/
structure Calls where
  /-- `do_stat`. -/
  lstat : Option Stat := none
  /-- `do_list`. -/
  opendir : Option (List DirEntry) := none
  /-- `do_recv`: `adb_open`, and `adb_read` until the end of the file. -/
  openRead : CallResult := .done
  reads : List ReadResult := []
  /-- `handle_send_file`: the two calls that create the file, and the one that opens a file that
  is there. -/
  create : CallResult := .done
  createAgain : CallResult := .done
  reopen : CallResult := .done
  mkdir : Nat → DirResult := fun _ => .made
  /-- `errno` after the message about `mkdirs` has been written. -/
  errnoAfterFail : Nat := 0
  fchown : CallResult := .done
  /-- `writex` of what the messages bring. -/
  write : Nat → CallResult := fun _ => .done
  /-- `handle_send_link`. -/
  symlink : CallResult := .done
  symlinkAgain : CallResult := .done

/-- The C library of a device and how the service was built. -/
structure Device where
  strerror : Nat → List UInt8
  strerror_short : ∀ errno, (strerror errno).length < 2 ^ 31
  /-- The width of `unsigned long`. -/
  longBits : Nat
  long_wide : 32 ≤ longBits
  /-- `HAVE_SYMLINKS`. -/
  haveSymlinks : Bool

/-- The value of a letter or a digit. -/
def digitValue (c : UInt8) : Nat :=
  if 48 ≤ c ∧ c ≤ 57 then (c - 48).toNat
  else if 97 ≤ c ∧ c ≤ 122 then (c - 87).toNat
  else if 65 ≤ c ∧ c ≤ 90 then (c - 55).toNat
  else 36

/-- Whether a number has a minus sign, and what follows the sign. -/
def splitSign (text : List UInt8) : Bool × List UInt8 :=
  match text with
  | 45 :: rest => (true, rest)
  | 43 :: rest => (false, rest)
  | _ => (false, text)

/-- The base that the beginning of a number stands for, and its digits. -/
def splitBase (text : List UInt8) : Nat × List UInt8 :=
  match text with
  | 48 :: x :: digit :: rest =>
      if (x = 120 ∨ x = 88) ∧ digitValue digit < 16 then (16, digit :: rest) else (8, text)
  | 48 :: _ => (8, text)
  | _ => (10, text)

/-- The value of the digits at the front. -/
def digitsValue (base : Nat) (text : List UInt8) : Nat :=
  (text.takeWhile fun c => digitValue c < base).foldl (fun value c => value * base + digitValue c) 0

/-- `strtoul` with base zero: the value, and whether `errno` is set. -/
def strtoul (longBits : Nat) (text : List UInt8) : Nat × Bool :=
  let (negative, text) := splitSign (text.dropWhile fun c => c = 32 ∨ 9 ≤ c ∧ c ≤ 13)
  let (base, digits) := splitBase text
  let value := digitsValue base digits
  if 2 ^ longBits ≤ value then (2 ^ longBits - 1, true)
  else if negative then ((2 ^ longBits - value) % 2 ^ longBits, false)
  else (value, false)

/-- `S_ISLNK`. -/
def isLnk (mode : Nat) : Bool := mode &&& 0o170000 = 0o120000

/-- `strrchr(text, ',')`: what comes before the last comma and what comes after it. -/
def splitLastComma (text : List UInt8) : Option (List UInt8 × List UInt8) :=
  let behind := (text.reverse.takeWhile (· ≠ 44)).reverse
  if 44 ∈ text then some (text.take (text.length - behind.length - 1), behind) else none

/-! ## The requests -/

/-- `fail_message`. -/
def failMessage (reason : List UInt8) : Program Connection Unit := do
  writex (pair idFail (.ofNat reason.length))
  writex reason

/-- `fail_errno`. -/
def failErrno (device : Device) (errno : Nat) : Program Connection Unit :=
  failMessage (device.strerror errno)

/-- `fail_message` where nobody looks at the result, and the request fails. -/
def refuse {Value : Type} (reason : String) : Program Connection Value := do
  let _ ← attempt (failMessage (ascii reason))
  stop

/-- The loop of `mkdirs` over the slashes of a name: the `errno` it fails with. -/
def mkdirsLoop (mkdir : Nat → DirResult) (index : Nat) : Nat → Option Nat
  | 0 => none
  | slashes + 1 =>
      match mkdir index with
      | .made => mkdirsLoop mkdir (index + 1) slashes
      | .failed errno =>
          if errno = eexist then mkdirsLoop mkdir (index + 1) slashes else some errno
      | .unowned errno => some errno

/-- `mkdirs`; a name that does not begin with a slash leaves `errno` as it is. -/
def mkdirs (mkdir : Nat → DirResult) (errno : Nat) : List UInt8 → Option Nat
  | 47 :: rest => mkdirsLoop mkdir 0 (rest.count 47)
  | _ => some errno

/-- `do_stat`. -/
def doStat (calls : Calls) : Program Connection Unit :=
  writex (statRecord idStat (calls.lstat.getD ⟨0, 0, 0⟩))

/-- The loop of `do_list`. -/
def listEntries : List DirEntry → Program Connection Unit
  | [] => pure ()
  | entry :: entries =>
      if 256 < entry.name.length then
        listEntries entries
      else
        match entry.lstat with
        | none => listEntries entries
        | some st => do
            writex (dentRecord idDent st (.ofNat entry.name.length))
            writex entry.name
            listEntries entries

/-- `do_list`. -/
def doList (calls : Calls) : Program Connection Unit := do
  listEntries (calls.opendir.getD [])
  writex (dentRecord idDone ⟨0, 0, 0⟩ 0)

/-- The loop of `do_recv`. -/
def recvLoop (device : Device) : List ReadResult → Program Connection Unit
  | [] => writex (pair idDone 0)
  | .read bytes :: reads =>
      let chunk := bytes.take syncDataMax
      if chunk = [] then
        writex (pair idDone 0)
      else do
        writex (pair idData (.ofNat chunk.length))
        writex chunk
        recvLoop device reads
  | .failed errno :: reads =>
      if errno = eintr then recvLoop device reads else failErrno device errno

/-- `do_recv`. -/
def doRecv (device : Device) (calls : Calls) : Program Connection Unit :=
  match calls.openRead with
  | .done => recvLoop device calls.reads
  | .failed errno => failErrno device errno

/-- The loop of `handle_send_file` over the messages with data.  The file is what has been written
to it, as long as it is open. -/
def receiveFile (device : Device) (calls : Calls) :
    Nat → Nat → Option (List UInt8) → Program Connection (Option (List UInt8))
  | 0, _, _ => stop
  | fuel + 1, index, file => do
      let header ← readx 8
      let len := wordOf (header.drop 4)
      if wordOf header = idData then
        if syncDataMax < len.toNat then
          refuse "oversize data message"
        else
          let data ← readx len.toNat
          match file with
          | none => receiveFile device calls fuel (index + 1) none
          | some written =>
              match calls.write index with
              | .done => receiveFile device calls fuel (index + 1) (some (written ++ data))
              | .failed errno => do
                  failErrno device errno
                  receiveFile device calls fuel (index + 1) none
      else if wordOf header = idDone then
        return file
      else
        refuse "invalid data message"

/-- The calls of `handle_send_file` that create the file, and the message if `mkdirs` fails. -/
def createFile (device : Device) (calls : Calls) (path : List UInt8) :
    Program Connection CallResult :=
  match calls.create with
  | .done => pure .done
  | .failed errno =>
      if errno = enoent then
        match mkdirs calls.mkdir enoent path with
        | some errno => do
            failErrno device errno
            return .failed calls.errnoAfterFail
        | none => pure calls.createAgain
      else pure (.failed errno)

/-- The call that opens a file that is there. -/
def Calls.reopened (calls : Calls) (created : CallResult) : CallResult :=
  if created = .failed eexist then calls.reopen else created

/-- What `handle_send_file` does before the loop, with the file if it is open. -/
def beginFile (device : Device) (calls : Calls) :
    CallResult → Program Connection (Option (List UInt8))
  | .failed errno => do
      failErrno device errno
      return none
  | .done =>
      match calls.fchown with
      | .done => pure (some [])
      | .failed errno => do
          let _ ← attempt (failErrno device errno)
          return some []

/-- What `handle_send_file` does after the loop. -/
def finishFile : Option (List UInt8) → Program Connection (Option (List UInt8))
  | some written => do
      writex (pair idOkay 0)
      return some written
  | none => pure none

/-- `handle_send_file`, with what it has written to the file. -/
def handleSendFile (device : Device) (calls : Calls) (path : List UInt8) :
    Program Connection (Option (List UInt8)) := do
  let created ← createFile device calls path
  let file ← beginFile device calls (calls.reopened created)
  let file ← fun connection =>
    receiveFile device calls (connection.incoming.length + 1) 0 file connection
  finishFile file

/-- The calls of `handle_send_link` that make the link. -/
def makeLink (device : Device) (calls : Calls) (path : List UInt8) :
    Program Connection CallResult :=
  match calls.symlink with
  | .done => pure .done
  | .failed errno =>
      if errno = enoent then
        match mkdirs calls.mkdir enoent path with
        | some errno => do
            let _ ← attempt (failErrno device errno)
            stop
        | none => pure calls.symlinkAgain
      else pure (.failed errno)

/-- What `handle_send_link` does once the link is made or not. -/
def finishLink (device : Device) : CallResult → Program Connection Unit
  | .failed errno => do
      let _ ← attempt (failErrno device errno)
      stop
  | .done => do
      let header ← readx 8
      if wordOf header = idDone then
        writex (pair idOkay 0)
      else
        refuse "invalid data message: expected ID_DONE"

/-- `handle_send_link`. -/
def handleSendLink (device : Device) (calls : Calls) (path : List UInt8) :
    Program Connection Unit := do
  let header ← readx 8
  let len := wordOf (header.drop 4)
  if wordOf header = idData then
    if syncDataMax < len.toNat then
      refuse "oversize data message"
    else
      let _ ← readx len.toNat
      let linked ← makeLink device calls path
      finishLink device linked
  else
    refuse "invalid data message: expected ID_DATA"

/-- What `do_send` makes of the path it is given: the path of the file, and whether a link is
meant. -/
def sendTarget (device : Device) (path : List UInt8) : List UInt8 × Bool :=
  match splitLastComma path with
  | none => (path, false)
  | some (front, text) =>
      let (mode, bad) := strtoul device.longBits text
      (front, !bad && device.haveSymlinks && isLnk (mode % 2 ^ 32))

/-- `do_send`, with what it has written to the file. -/
def doSend (device : Device) (calls : Calls) (path : List UInt8) :
    Program Connection (Option (List UInt8)) :=
  let (path, isLink) := sendTarget device path
  if isLink then do
    handleSendLink device calls path
    return none
  else handleSendFile device calls path

/-- The requests that are answered. -/
inductive Kind where
  | stat
  | list
  | send
  | recv
  deriving DecidableEq, Repr

/-- The cases of `switch(msg.req.id)`. -/
def Kind.ofId (id : UInt32) : Option Kind :=
  if id = idStat then some .stat
  else if id = idList then some .list
  else if id = idSend then some .send
  else if id = idRecv then some .recv
  else none

/-- Answer a request; for a file that is sent, what has been written to it. -/
def answer (device : Device) (calls : Calls) (kind : Kind) (path : List UInt8) :
    Program Connection (Option (List UInt8)) :=
  match kind with
  | .stat => do
      doStat calls
      return none
  | .list => do
      doList calls
      return none
  | .send => doSend device calls path
  | .recv => do
      doRecv device calls
      return none

/-- What `file_sync_service` does before it comes to the `switch`. -/
def nextRequest : Program Connection (Kind × List UInt8) := do
  match ← attempt (readx 8) with
  | none => refuse "command read failure"
  | some header =>
      let namelen := wordOf (header.drop 4)
      if 1024 < namelen.toNat then
        refuse "invalid namelen"
      else
        match ← attempt (readx namelen.toNat) with
        | none => refuse "filename read failure"
        | some name =>
            match Kind.ofId (wordOf header) with
            | some kind => return (kind, cString name)
            | none => if wordOf header = idQuit then stop else refuse "unknown command"

/-- A request that was completed. -/
structure Exchange where
  kind : Kind
  path : List UInt8
  calls : Calls
  /-- What was written while it was answered. -/
  output : List UInt8
  /-- What was written to the file, for a file that is sent. -/
  stored : Option (List UInt8)

/-- `file_sync_service`, for so many requests: those it completed, and the connection it leaves. -/
def fileSyncService (device : Device) (world : Nat → Calls) :
    Nat → Nat → Connection → List Exchange × Connection
  | 0, _, connection => ([], connection)
  | requests + 1, index, connection =>
      match nextRequest connection with
      | (none, connection) => ([], connection)
      | (some (kind, path), asked) =>
          match answer device (world index) kind path asked with
          | (none, connection) => ([], connection)
          | (some stored, answered) =>
              let (later, last) := fileSyncService device world requests (index + 1) answered
              (⟨kind, path, world index, answered.outgoing.drop asked.outgoing.length, stored⟩ ::
                later, last)

end Sync
end AdbWide
