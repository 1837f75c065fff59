import AdbWide.Block

/-!
# The emulated socketpair buffer

One direction of a Win32 socketpair is a buffer of two regions: region A holds the bytes from
`aStart` to `aEnd`, region B the bytes from `0` to `bEnd`.  Reading starts at `aStart`; writing
starts at `aEnd`, and at `bEnd` once region A has reached the end of the block.  This file embeds
`bip_buffer_init`, `bip_buffer_close` and the critical sections of `bip_buffer_write` and
`bip_buffer_read`; a copy outside the block and a failing `assert` are faults.
-/

namespace AdbWide

/-- `BIP_BUFFER_SIZE`. -/
def bipBufferSize : Nat := 4096

/-- `BipBufferRec`, with each event handle replaced by whether the event is signalled. -/
structure BipBuffer where
  /-- Where reading starts. -/
  aStart : Nat
  /-- End of region A. -/
  aEnd : Nat
  /-- End of region B, which starts at address zero. -/
  bEnd : Nat
  /-- Set once by `bip_buffer_close`. -/
  closed : Bool
  /-- There is room for at least one byte. -/
  canWrite : Bool
  /-- The manual-reset event `evt_write` is signalled. -/
  evtWrite : Bool
  /-- There is at least one byte to read. -/
  canRead : Bool
  /-- The manual-reset event `evt_read` is signalled. -/
  evtRead : Bool
  /-- The bytes of both regions. -/
  buff : Block UInt8 bipBufferSize

namespace BipBuffer

/-- `bip_buffer_init`; the block itself is left as the allocator returned it. -/
def bipBufferInit (buff : Block UInt8 bipBufferSize) : BipBuffer where
  aStart := 0
  aEnd := 0
  bEnd := 0
  closed := false
  canWrite := true
  evtWrite := true
  canRead := false
  evtRead := false
  buff := buff

/-- `bip_buffer_close`: mark the buffer and wake whoever may be waiting on it. -/
def bipBufferClose (bip : BipBuffer) : BipBuffer :=
  { bip with
    closed := true
    evtRead := if bip.canRead then bip.evtRead else true
    evtWrite := if bip.canWrite then bip.evtWrite else true }

/-- The common exit of a write: the buffer can now be read. -/
def writeExit (bip : BipBuffer) (count : Nat) : Except Fault (Nat × BipBuffer) := do
  assertThat (0 < count)
  if bip.canRead then
    return (count, bip)
  else
    return (count, { bip with canRead := true, evtRead := true })

/-- The second half of a write, which continues in region B. -/
def writeRegionB (bip : BipBuffer) (src : List UInt8) (count : Nat) :
    Except Fault (Nat × BipBuffer) := do
  if src.length = 0 then
    writeExit bip count
  else
    assertThat (0 < bip.aStart - bip.bEnd)
    let avail := min (bip.aStart - bip.bEnd) src.length
    let buff ← bip.buff.store bip.bEnd (src.take avail)
    let bip := { bip with buff, bEnd := bip.bEnd + avail }
    if bip.bEnd = bip.aStart then
      writeExit { bip with canWrite := false, evtWrite := false } (count + avail)
    else
      writeExit bip (count + avail)

/-- `bip_buffer_write` from the point where `can_write` was seen set, under the lock. -/
def writeCritical (bip : BipBuffer) (src : List UInt8) : Except Fault (Nat × BipBuffer) := do
  if 0 < bipBufferSize - bip.aEnd then
    let avail := min (bipBufferSize - bip.aEnd) src.length
    let buff ← bip.buff.store bip.aEnd (src.take avail)
    let bip := { bip with buff, aEnd := bip.aEnd + avail }
    if bip.aEnd = bipBufferSize ∧ bip.aStart = 0 then
      writeExit { bip with canWrite := false, evtWrite := false } avail
    else
      writeRegionB bip (src.drop avail) avail
  else
    writeRegionB bip src 0

/-- The common exit of a read: the buffer can now be written. -/
def readExit (bip : BipBuffer) (dst : List UInt8) : Except Fault (List UInt8 × BipBuffer) := do
  assertThat (0 < dst.length)
  if bip.canWrite then
    return (dst, bip)
  else
    return (dst, { bip with canWrite := true, evtWrite := true })

/-- The second half of a read: region A is used up, and region B takes its place. -/
def readRegionB (bip : BipBuffer) (len : Nat) (dst : List UInt8) :
    Except Fault (List UInt8 × BipBuffer) := do
  let bip := { bip with aStart := 0, aEnd := bip.bEnd, bEnd := 0 }
  if 0 < bip.aEnd then
    let avail := min bip.aEnd len
    let bytes ← bip.buff.load 0 avail
    let bip := { bip with aStart := avail }
    if bip.aStart < bip.aEnd then
      readExit bip (dst ++ bytes)
    else
      readExit { bip with aStart := 0, aEnd := 0, canRead := false, evtRead := false }
        (dst ++ bytes)
  else
    readExit { bip with canRead := false, evtRead := false } dst

/-- `bip_buffer_read` from the point where `can_read` was seen set, under the lock. -/
def readCritical (bip : BipBuffer) (len : Nat) : Except Fault (List UInt8 × BipBuffer) := do
  assertThat (0 < bip.aEnd - bip.aStart)
  let avail := min (bip.aEnd - bip.aStart) len
  let bytes ← bip.buff.load bip.aStart avail
  let bip := { bip with aStart := bip.aStart + avail }
  if bip.aStart < bip.aEnd then
    readExit bip bytes
  else
    readRegionB bip (len - avail) bytes

/-- How a call on the buffer made by a single thread ends. -/
inductive Answer (α : Type) where
  /-- The call returns the number of bytes written, or the bytes read. -/
  | returns (value : α)
  /-- The call returns `-1` with `errno = EPIPE`. -/
  | brokenPipe
  /-- The call waits, and nobody else is there to wake it. -/
  | waits
  deriving DecidableEq, Repr

/-- `bip_buffer_write`, called while no other thread uses the buffer. -/
def bipBufferWrite (bip : BipBuffer) (src : List UInt8) :
    Except Fault (Answer Nat × BipBuffer) :=
  if src.length = 0 then
    .ok (.returns 0, bip)
  else if bip.canWrite then
    (bip.writeCritical src).map fun (count, after) => (.returns count, after)
  else if bip.closed then
    .ok (.brokenPipe, bip)
  else
    .ok (.waits, bip)

/-- `bip_buffer_read`, called while no other thread uses the buffer. -/
def bipBufferRead (bip : BipBuffer) (len : Nat) :
    Except Fault (Answer (List UInt8) × BipBuffer) :=
  if len = 0 then
    .ok (.returns [], bip)
  else if bip.canRead then
    (bip.readCritical len).map fun (bytes, after) => (.returns bytes, after)
  else if bip.closed then
    .ok (.brokenPipe, bip)
  else
    .ok (.waits, bip)

/-- The bytes accepted and not yet read, oldest first. -/
def contents (bip : BipBuffer) : List UInt8 :=
  bip.buff.segment bip.aStart bip.aEnd ++ bip.buff.segment 0 bip.bEnd

/-- The number of bytes in the buffer, as the indices give it. -/
def size (bip : BipBuffer) : Nat := bip.aEnd - bip.aStart + bip.bEnd

end BipBuffer
end AdbWide
