import AdbWide.Sync.Client

/-!
# Rules for the steps of the client

Each step of a client reads or writes the connection, changes the files, or is noted.  The rules of
this file come in two kinds: what holds in every run, and what happens in a run in which no call
fails or is cut short.  Both leave open what is said about the files and the notes.
-/

namespace AdbWide
namespace Sync

open Wire (Connection)
open Program (Triple)

/-! ## Lengths -/

theorem asInt_of_lt {word : UInt32} (small : word.toNat < 2 ^ 31) : asInt word = word.toNat := by
  rw [asInt, if_pos small]

theorem asInt_neg {word : UInt32} (large : ¬word.toNat < 2 ^ 31) : asInt word < 0 := by
  have bound : word.toNat < 2 ^ 32 := word.toNat_lt
  rw [asInt, if_neg large]
  omega

theorem asSize_natCast {len : Nat} (bound : len < 2 ^ 32) : asSize len = len := by
  rw [asSize]
  omega

theorem asSize_asInt (word : UInt32) : asSize (asInt word) = word.toNat := by
  have bound : word.toNat < 2 ^ 32 := word.toNat_lt
  rw [asInt]
  split
  · exact asSize_natCast bound
  · rw [asSize]
    omega

/-- The message of a failure is cut at 256 bytes. -/
theorem cut_asInt {size : UInt32} (small : size.toNat < 2 ^ 31) :
    (if 256 < asInt size then 256 else asInt size) = (min size.toNat 256 : Nat) := by
  rw [asInt_of_lt small]
  split
  · omega
  · omega

theorem io_apply {Value : Type} (program : Program Connection Value) (client : Client) :
    io program client = ((program client.connection).1,
      { client with connection := (program client.connection).2 }) := rfl

theorem onDisk_disk (change : (WPath → Option (List UInt8)) → WPath → Option (List UInt8))
    (client : Client) : (onDisk change client).2.disk = change client.disk := rfl

/-- What does not depend on the connection. -/
def Offline (held : Client → Prop) : Prop :=
  ∀ client connection, held client → held { client with connection }

/-- What is left after the answer to `STAT`, if the progress is shown. -/
def afterStat (stream : List UInt8) : Bool → List UInt8
  | false => stream
  | true => if 16 ≤ stream.length ∧ wordOf stream = idStat then stream.drop 16 else []

section Runs

variable {held held' fail : Client → Prop} {stream : List UInt8}

/-! ## Every run -/

/-- Something holds, and some bytes have still to be read. -/
def Reads (held : Client → Prop) (stream : List UInt8) (client : Client) : Prop :=
  held client ∧ client.connection.incoming = stream

/-- What was read came from the front. -/
def Came (held : Client → Prop) (stream : List UInt8) (len : Nat) (bytes : List UInt8)
    (client : Client) : Prop :=
  (len ≤ stream.length ∧ bytes = stream.take len) ∧ Reads held (stream.drop len) client

theorem triple_readx (offline : Offline held) (len : Nat) :
    Triple (Reads held stream) (io (readx len)) (Came held stream len) held := by
  rintro client ⟨holds, rfl⟩
  refine ⟨fun bytes came => ?_, fun _ => offline client _ holds⟩
  cases ran : readx len client.connection with
  | mk result after =>
      obtain rfl : result = some bytes := by simpa [io, ran] using came
      have size := length_of_readx ran
      obtain ⟨split, -⟩ := readx_split ran
      have left : (io (readx len) client).2.connection = after := congrArg Prod.snd ran
      refine ⟨⟨?_, ?_⟩, offline client _ holds, ?_⟩
      · rw [split, List.length_append]
        omega
      · rw [split, ← size, List.take_left]
      · rw [left, split, ← size, List.drop_left]

theorem triple_writex (offline : Offline held) (bytes : List UInt8) :
    Triple (Reads held stream) (io (writex bytes)) (fun _ => Reads held stream) held :=
  fun client reads =>
    ⟨fun _ _ => ⟨offline client _ reads.1, reads.2⟩, fun _ => offline client _ reads.1⟩

theorem triple_note {access : Access} (after : ∀ client, held client →
    held' (note access client).2) :
    Triple (Reads held stream) (note access) (fun _ => Reads held' stream) fail :=
  fun client reads => ⟨fun _ _ => ⟨after client reads.1, reads.2⟩, fun gave_up => by cases gave_up⟩

theorem triple_onDisk {change : (WPath → Option (List UInt8)) → WPath → Option (List UInt8)}
    (after : ∀ client, held client → held' (onDisk change client).2) :
    Triple (Reads held stream) (onDisk change) (fun _ => Reads held' stream) fail :=
  fun client reads => ⟨fun _ _ => ⟨after client reads.1, reads.2⟩, fun gave_up => by cases gave_up⟩

theorem triple_noteOpened {path : WPath} (after : ∀ client, held client →
    held (noteOpened path client).2) :
    Triple (Reads held stream) (noteOpened path) (fun _ => Reads held stream) fail :=
  fun client reads => ⟨fun _ _ => ⟨after client reads.1, reads.2⟩, fun gave_up => by cases gave_up⟩

theorem triple_readBuffer (offline : Offline held) {capacity len : Nat} (bound : len < 2 ^ 32)
    (after : ∀ client, held client → held (note (.request capacity len) client).2) :
    Triple (Reads held stream) (readBuffer capacity len) (Came held stream len) held := by
  rw [readBuffer, asSize_natCast bound]
  exact (triple_note after).bind fun _ => triple_readx offline len

/-- As many rounds as there are bytes. -/
theorem triple_rounds {Value : Type} (program : Nat → Program Client Value)
    {post : Value → Client → Prop}
    (triple : Triple (Reads held stream) (program (stream.length + 1)) post fail) :
    Triple (Reads held stream)
      (fun client => program (client.connection.incoming.length + 1) client) post fail := by
  rintro client ⟨holds, rfl⟩
  exact triple client ⟨holds, rfl⟩

theorem triple_askStat (offline : Offline held) (rpath : List UInt8) (showProgress : Bool) :
    Triple (Reads held stream) (askStat rpath showProgress)
      (fun _ => Reads held (afterStat stream showProgress)) held := by
  cases showProgress with
  | false => exact .pure fun _ reads => reads
  | true =>
      rw [askStat, afterStat]
      refine (triple_writex offline _).bind fun _ => ?_
      refine (triple_writex offline _).bind fun _ => ?_
      refine (triple_readx offline 16).bind fun record => .assume fun came => ?_
      obtain ⟨enough, rfl⟩ := came
      rw [wordOf_take (by omega)]
      split
      · next isStat =>
          rw [if_pos ⟨enough, isStat⟩]
          exact .pure fun _ reads => reads
      · exact .stop fun _ reads => reads.1

/-- `sync_recv` up to the first message of the answer. -/
theorem triple_answer {host : Host} {calls : PullCalls} {lpath : List UInt8}
    {post : Unit → Client → Prop} (offline : Offline held) (rpath : List UInt8)
    (showProgress : Bool)
    (answered : 8 ≤ (afterStat stream showProgress).length →
      Triple (Reads held ((afterStat stream showProgress).drop 8))
        (receive host calls lpath ((afterStat stream showProgress).take 8)) post held) :
    Triple (Reads held stream) (syncRecv host calls rpath lpath showProgress) post held := by
  rw [syncRecv]
  split
  · exact .stop fun _ reads => reads.1
  · refine (triple_askStat offline rpath showProgress).bind fun _ => ?_
    refine (triple_writex offline _).bind fun _ => ?_
    refine (triple_writex offline _).bind fun _ => ?_
    refine (triple_readx offline 8).bind fun header => .assume fun came => ?_
    obtain ⟨enough, rfl⟩ := came
    exact answered enough

/-! ## Runs in which nothing fails -/

/-- Something holds, some bytes have still to be read, and no call fails or is cut short. -/
def Plain (held : Client → Prop) (stream : List UInt8) (client : Client) : Prop :=
  held client ∧ client.connection.reads = [] ∧ client.connection.writes = [] ∧
    client.connection.incoming = stream

theorem plain_readx (offline : Offline held) {len : Nat} (enough : len ≤ stream.length) :
    Triple (Plain held stream) (io (readx len))
      (fun bytes client => bytes = stream.take len ∧ Plain held (stream.drop len) client)
      fail := by
  rintro client ⟨holds, reads, writes, rfl⟩
  have ran := readx_plain reads enough
  rw [io_apply, ran]
  refine ⟨fun bytes came => ?_, fun gave_up => by cases gave_up⟩
  obtain rfl := Option.some.inj came
  exact ⟨rfl, offline client _ holds, reads, writes, rfl⟩

theorem plain_writex (offline : Offline held) (bytes : List UInt8) :
    Triple (Plain held stream) (io (writex bytes)) (fun _ => Plain held stream) fail := by
  rintro client ⟨holds, reads, writes, rfl⟩
  have ran := writex_plain writes bytes
  rw [io_apply, ran]
  exact ⟨fun _ _ => ⟨offline client _ holds, reads, writes, rfl⟩, fun gave_up => by cases gave_up⟩

theorem plain_note {access : Access} (after : ∀ client, held client →
    held' (note access client).2) :
    Triple (Plain held stream) (note access) (fun _ => Plain held' stream) fail :=
  fun client plain =>
    ⟨fun _ _ => ⟨after client plain.1, plain.2⟩, fun gave_up => by cases gave_up⟩

theorem plain_onDisk {change : (WPath → Option (List UInt8)) → WPath → Option (List UInt8)}
    (after : ∀ client, held client → held' (onDisk change client).2) :
    Triple (Plain held stream) (onDisk change) (fun _ => Plain held' stream) fail :=
  fun client plain =>
    ⟨fun _ _ => ⟨after client plain.1, plain.2⟩, fun gave_up => by cases gave_up⟩

theorem plain_noteOpened {path : WPath} (after : ∀ client, held client →
    held (noteOpened path client).2) :
    Triple (Plain held stream) (noteOpened path) (fun _ => Plain held stream) fail :=
  fun client plain =>
    ⟨fun _ _ => ⟨after client plain.1, plain.2⟩, fun gave_up => by cases gave_up⟩

theorem plain_readBuffer (offline : Offline held) {capacity len : Nat} (bound : len < 2 ^ 32)
    (after : ∀ client, held client → held (note (.request capacity len) client).2)
    (enough : len ≤ stream.length) :
    Triple (Plain held stream) (readBuffer capacity len)
      (fun bytes client => bytes = stream.take len ∧ Plain held (stream.drop len) client)
      fail := by
  rw [readBuffer, asSize_natCast bound]
  exact (plain_note after).bind fun _ => plain_readx offline enough

theorem plain_rounds {Value : Type} (program : Nat → Program Client Value)
    {post : Value → Client → Prop}
    (triple : Triple (Plain held stream) (program (stream.length + 1)) post fail) :
    Triple (Plain held stream)
      (fun client => program (client.connection.incoming.length + 1) client) post fail := by
  rintro client ⟨holds, reads, writes, rfl⟩
  exact triple client ⟨holds, reads, writes, rfl⟩

theorem plain_askStat (offline : Offline held) {rpath : List UInt8}
    (showProgress : Bool) (answered : afterStat stream showProgress ≠ []) :
    Triple (Plain held stream) (askStat rpath showProgress)
      (fun _ => Plain held (afterStat stream showProgress)) fail := by
  cases showProgress with
  | false => exact .pure fun _ plain => plain
  | true =>
      rw [afterStat] at answered ⊢
      split at answered
      · next record =>
          obtain ⟨enough, isStat⟩ := record
          rw [askStat]
          refine (plain_writex offline _).bind fun _ => ?_
          refine (plain_writex offline _).bind fun _ => ?_
          refine (plain_readx offline enough).bind fun record => .assume fun record_eq => ?_
          obtain rfl := record_eq
          rw [wordOf_take (by omega), if_pos isStat, if_pos ⟨enough, isStat⟩]
          exact .pure fun _ plain => plain
      · exact absurd rfl answered

theorem plain_answer {host : Host} {calls : PullCalls} {lpath : List UInt8}
    {post : Unit → Client → Prop} (offline : Offline held) (showProgress : Bool)
    {rpath : List UInt8} (short : rpath.length ≤ 1024)
    (enough : 8 ≤ (afterStat stream showProgress).length)
    (answered : Triple (Plain held ((afterStat stream showProgress).drop 8))
      (receive host calls lpath ((afterStat stream showProgress).take 8)) post fail) :
    Triple (Plain held stream) (syncRecv host calls rpath lpath showProgress) post fail := by
  have nonempty : afterStat stream showProgress ≠ [] := by
    intro empty
    rw [empty] at enough
    cases enough
  rw [syncRecv, if_neg (by omega)]
  refine (plain_askStat offline showProgress nonempty).bind fun _ => ?_
  refine (plain_writex offline _).bind fun _ => ?_
  refine (plain_writex offline _).bind fun _ => ?_
  refine (plain_readx offline enough).bind fun header => .assume fun header_eq => ?_
  obtain rfl := header_eq
  exact answered

end Runs

end Sync
end AdbWide
