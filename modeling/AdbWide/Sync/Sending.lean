import AdbWide.Sync.Delivery
import AdbWide.Sync.Rules

/-!
# What the client sends

`sync_send` hands a request, the parts of a file and `DONE` to `writex`, one after the other.  This
file says which parts those are, and what goes out for given outcomes of the socket: a part that is
refused ends the file, but not the request.
-/

namespace AdbWide
namespace Sync

open Wire (Connection IoResult)
open Program (Triple attempt stop)

/-! ## The parts of a file -/

/-- Parts go out until one is refused. -/
def sendChunks : List (List UInt8) → Program Connection Unit
  | [] => pure ()
  | chunk :: chunks => do
      sendData chunk
      sendChunks chunks

/-- What one `adb_read` after the other gives. -/
def fileChunks : Nat → List IoResult → List UInt8 → List (List UInt8)
  | 0, _, _ => []
  | fuel + 1, [], content =>
      let data := content.take syncDataMax
      if data = [] then [] else data :: fileChunks fuel [] (content.drop data.length)
  | fuel + 1, .moved more :: reads, content =>
      let data := content.take (min (more + 1) syncDataMax)
      if data = [] then [] else data :: fileChunks fuel reads (content.drop data.length)
  | fuel + 1, .interrupted :: reads, content => fileChunks fuel reads content
  | _ + 1, .again :: _, _ => []
  | _ + 1, .failed :: _, _ => []

/-- The parts of a buffer. -/
def bufferChunks (buffer : List UInt8) (size : Int) : Nat → Nat → List (List UInt8)
  | 0, _ => []
  | fuel + 1, total =>
      if (total : Int) < size then
        let count := min (size - total).toNat syncDataMax
        (buffer.drop total).take count :: bufferChunks buffer size fuel (total + count)
      else []

theorem dataFileLoop_eq (fuel : Nat) (reads : List IoResult) (content : List UInt8) :
    dataFileLoop fuel reads content = sendChunks (fileChunks fuel reads content) := by
  induction fuel generalizing reads content with
  | zero => rfl
  | succ fuel induction =>
      cases reads with
      | nil =>
          rw [dataFileLoop, fileChunks]
          split
          · rfl
          · rw [induction]
            rfl
      | cons result reads =>
          cases result with
          | moved more =>
              rw [dataFileLoop, fileChunks]
              split
              · rfl
              · rw [induction]
                rfl
          | interrupted => exact induction reads content
          | again => rfl
          | failed => rfl

theorem dataBufferLoop_eq (buffer : List UInt8) (size : Int) (fuel total : Nat) :
    dataBufferLoop buffer size fuel total = sendChunks (bufferChunks buffer size fuel total) := by
  induction fuel generalizing total with
  | zero => rfl
  | succ fuel induction =>
      rw [dataBufferLoop, bufferChunks]
      split
      · dsimp only
        rw [induction]
        rfl
      · rfl

/-- No read fails before the end of the file is reached. -/
def ReadsThrough : List IoResult → List UInt8 → Prop
  | [], _ => True
  | .moved more :: reads, content =>
      content = [] ∨ ReadsThrough reads (content.drop (min (more + 1) syncDataMax))
  | .interrupted :: reads, content => ReadsThrough reads content
  | .again :: _, content => content = []
  | .failed :: _, content => content = []

theorem take_eq_nil {content : List UInt8} {count : Nat} (positive : 0 < count) :
    content.take count = [] ↔ content = [] := by
  rw [List.take_eq_nil_iff]
  exact ⟨fun empty => empty.resolve_left (by omega), .inr⟩

theorem drop_length_take (content : List UInt8) (count : Nat) :
    content.drop (content.take count).length = content.drop count := by
  rw [List.length_take]
  by_cases short : count ≤ content.length
  · rw [Nat.min_eq_left short]
  · rw [Nat.min_eq_right (by omega), List.drop_of_length_le (Nat.le_refl _),
      List.drop_of_length_le (by omega)]

theorem take_append_eq_self {content rest : List UInt8} (count : Nat) :
    content.take count ++ rest = content ↔ rest = content.drop count := by
  refine ⟨fun same => ?_, fun same => ?_⟩
  · exact List.append_cancel_left (same.trans (List.take_append_drop count content).symm)
  · rw [same, List.take_append_drop]

theorem min_syncDataMax_pos (more : Nat) : 0 < min (more + 1) syncDataMax := by
  have positive : 0 < syncDataMax := by decide
  omega

/-- The whole file is read exactly if no read fails before its end. -/
theorem flatten_fileChunks {fuel : Nat} {reads : List IoResult} {content : List UInt8}
    (enough : content.length + reads.length < fuel) :
    (fileChunks fuel reads content).flatten = content ↔ ReadsThrough reads content := by
  induction fuel generalizing reads content with
  | zero => omega
  | succ fuel induction =>
      by_cases empty : content = []
      · cases reads with
        | nil => simp [fileChunks, ReadsThrough, empty]
        | cons result reads =>
            cases result with
            | moved more => simp [fileChunks, ReadsThrough, empty]
            | interrupted =>
                rw [List.length_cons] at enough
                exact induction (by omega)
            | again => simp [fileChunks, ReadsThrough, empty]
            | failed => simp [fileChunks, ReadsThrough, empty]
      · have long := List.length_pos_of_ne_nil empty
        have some_read {count : Nat} (positive : 0 < count) : content.take count ≠ [] := fun no =>
          empty ((take_eq_nil positive).mp no)
        cases reads with
        | nil =>
            have positive : 0 < syncDataMax := by decide
            rw [fileChunks, if_neg (some_read positive), List.flatten_cons, drop_length_take,
              take_append_eq_self]
            rw [List.length_nil] at enough
            refine induction ?_
            rw [List.length_drop, List.length_nil]
            omega
        | cons result reads =>
            rw [List.length_cons] at enough
            cases result with
            | moved more =>
                rw [fileChunks, ReadsThrough, if_neg (some_read (min_syncDataMax_pos more)),
                  List.flatten_cons, drop_length_take, take_append_eq_self, or_iff_right empty]
                refine induction ?_
                rw [List.length_drop]
                omega
            | interrupted => exact induction (by omega)
            | again =>
                rw [fileChunks, ReadsThrough, List.flatten_nil]
                exact eq_comm
            | failed =>
                rw [fileChunks, ReadsThrough, List.flatten_nil]
                exact eq_comm

theorem readsThrough_nil (reads : List IoResult) : ReadsThrough reads [] := by
  induction reads with
  | nil => trivial
  | cons result reads induction =>
      cases result with
      | moved more => exact .inl rfl
      | interrupted => exact induction
      | again => rfl
      | failed => rfl

/-- Parts of some content: none is empty or too long, and they are not more than there is. -/
structure Parts (content : List UInt8) (chunks : List (List UInt8)) : Prop where
  short : ∀ chunk ∈ chunks, chunk.length ≤ syncDataMax
  nonempty : ∀ chunk ∈ chunks, chunk ≠ []
  total : chunks.flatten.length ≤ content.length

theorem Parts.nil (content : List UInt8) : Parts content [] :=
  ⟨by simp, by simp, by simp⟩

theorem Parts.cons {content : List UInt8} {count : Nat} (short : count ≤ syncDataMax)
    (some_read : content.take count ≠ []) {chunks : List (List UInt8)}
    (parts : Parts (content.drop count) chunks) : Parts content (content.take count :: chunks) := by
  refine ⟨?_, ?_, ?_⟩
  · rw [List.forall_mem_cons]
    refine ⟨?_, parts.short⟩
    rw [List.length_take]
    omega
  · rw [List.forall_mem_cons]
    exact ⟨some_read, parts.nonempty⟩
  · have total := parts.total
    rw [List.length_drop] at total
    rw [List.flatten_cons, List.length_append, List.length_take]
    omega

theorem parts_fileChunks (fuel : Nat) (reads : List IoResult) (content : List UInt8) :
    Parts content (fileChunks fuel reads content) := by
  induction fuel generalizing reads content with
  | zero => exact .nil content
  | succ fuel induction =>
      cases reads with
      | nil =>
          rw [fileChunks]
          split
          · exact .nil content
          · next some_read =>
              rw [drop_length_take]
              exact .cons (Nat.le_refl _) some_read (induction _ _)
      | cons result reads =>
          cases result with
          | moved more =>
              rw [fileChunks]
              split
              · exact .nil content
              · next some_read =>
                  rw [drop_length_take]
                  exact .cons (Nat.min_le_right _ _) some_read (induction _ _)
          | interrupted => exact induction _ _
          | again => exact .nil content
          | failed => exact .nil content

theorem bufferChunks_spec {buffer : List UInt8} {size : Nat} (fuel total : Nat)
    (length : buffer.length = size) (within : total ≤ size) (enough : size < total + fuel) :
    Parts (buffer.drop total) (bufferChunks buffer size fuel total) ∧
      (bufferChunks buffer size fuel total).flatten = buffer.drop total := by
  induction fuel generalizing total with
  | zero => omega
  | succ fuel induction =>
      rw [bufferChunks]
      split
      · next more =>
          have positive : 0 < syncDataMax := by decide
          have count : ((size : Int) - total).toNat = size - total := by omega
          dsimp only
          rw [count]
          obtain ⟨parts, whole⟩ :=
            induction (total + min (size - total) syncDataMax) (by omega) (by omega)
          have dropped : buffer.drop (total + min (size - total) syncDataMax) =
              (buffer.drop total).drop (min (size - total) syncDataMax) := by rw [List.drop_drop]
          rw [dropped] at parts whole
          refine ⟨.cons (Nat.min_le_right _ _) ?_ parts, ?_⟩
          · intro no
            have none := congrArg List.length no
            rw [List.length_take, List.length_drop, List.length_nil] at none
            omega
          · rw [List.flatten_cons, whole, List.take_append_drop]
      · next all =>
          rw [List.drop_of_length_le (by omega)]
          exact ⟨.nil [], rfl⟩

/-! ## The parts of a push -/

/-- The buffer of an APK file that is checked. -/
def loaded (calls : PushCalls) (verifyApk : Bool) : Option (List UInt8 × Int) :=
  if verifyApk then loadApk calls else none

/-- The parts that are handed to `writex`, unless one is refused. -/
def pushChunks (calls : PushCalls) (verifyApk showProgress : Bool) : List (List UInt8) :=
  match loaded calls verifyApk with
  | some (buffer, size) => bufferChunks buffer size (size.toNat + 1) 0
  | none =>
      if calls.opens = false ∨ showProgress = true ∧ calls.stats = false then []
      else fileChunks (calls.content.length + calls.reads.length + 1) calls.reads calls.content

/-- The local file is read to its end: for an APK file its size is not negative, and otherwise it is
empty or can be opened, its size is known if the progress is shown, and no read fails before its
end. -/
def ReadsWhole (calls : PushCalls) (verifyApk showProgress : Bool) : Prop :=
  if verifyApk then calls.content.length < 2 ^ 31
  else calls.content = [] ∨ calls.opens = true ∧ (showProgress = true → calls.stats = true) ∧
    ReadsThrough calls.reads calls.content

theorem loadApk_eq {calls : PushCalls} {buffer : List UInt8} {size : Int}
    (load : loadApk calls = some (buffer, size)) :
    size = calls.size ∧ buffer.length = asSize calls.size ∧ buffer <+: calls.content ∧
      calls.content.length < 2 ^ 32 - 1 := by
  rw [loadApk] at load
  split at load
  · next checked =>
      obtain ⟨got, got_eq, load⟩ := Option.bind_eq_some_iff.mp load
      split at load
      · next fits =>
          cases load
          refine ⟨rfl, fits.1, ?_, ?_⟩
          · split at got_eq
            · obtain rfl := Option.some.inj got_eq
              exact List.take_prefix _ _
            · cases got_eq
            · cases got_eq
            · cases got_eq
          · by_contra long
            refine checked.2.1 ?_
            rw [PushCalls.size, if_neg long]
      · cases load
  · cases load

theorem asInt_ofNat {len : Nat} (bound : len < 2 ^ 32) :
    asInt (.ofNat len) = if len < 2 ^ 31 then (len : Int) else len - 2 ^ 32 := by
  rw [asInt, UInt32.toNat_ofNat', Nat.mod_eq_of_lt bound]

theorem pushChunks_spec (calls : PushCalls) (verifyApk showProgress : Bool)
    (checked : verifyApk = true → loadApk calls ≠ none) :
    Parts calls.content (pushChunks calls verifyApk showProgress) ∧
      ((pushChunks calls verifyApk showProgress).flatten = calls.content ↔
        ReadsWhole calls verifyApk showProgress) := by
  rw [pushChunks, loaded, ReadsWhole]
  cases verifyApk with
  | false =>
      simp only [Bool.false_eq_true, if_false]
      split
      · next closed =>
          refine ⟨.nil _, ?_⟩
          rw [List.flatten_nil, eq_comm]
          refine ⟨.inl, fun whole => whole.resolve_right fun opens => ?_⟩
          rcases closed with closed | ⟨shown, unknown⟩
          · rw [opens.1] at closed
            cases closed
          · rw [opens.2.1 shown] at unknown
            cases unknown
      · next opens =>
          refine ⟨parts_fileChunks _ _ _, ?_⟩
          rw [flatten_fileChunks (by omega)]
          simp only [not_or, not_and, Bool.not_eq_false] at opens
          refine ⟨fun through => .inr ⟨opens.1, opens.2, through⟩, ?_⟩
          rintro (empty | whole)
          · rw [empty]
            exact readsThrough_nil calls.reads
          · exact whole.2.2
  | true =>
      simp only [if_true]
      cases load : loadApk calls with
      | none => exact absurd load (checked rfl)
      | some result =>
          obtain ⟨buffer, size⟩ := result
          obtain ⟨rfl, length, front, bound⟩ := loadApk_eq load
          dsimp only
          rw [PushCalls.size, if_pos bound, asInt_ofNat (by omega)] at length ⊢
          split
          · next small =>
              rw [if_pos small, asSize_natCast (by omega)] at length
              obtain rfl := front.eq_of_length length
              obtain ⟨parts, whole⟩ := bufferChunks_spec (calls.content.length + 1) 0 rfl
                (Nat.zero_le calls.content.length) (by omega)
              exact ⟨parts, fun _ => small, fun _ => whole⟩
          · next large =>
              have none : bufferChunks buffer ((calls.content.length : Int) - 2 ^ 32)
                  (((calls.content.length : Int) - 2 ^ 32).toNat + 1) 0 = [] := by
                rw [bufferChunks, if_neg (by omega)]
              rw [none]
              refine ⟨.nil _, fun empty => ?_, fun small => absurd small large⟩
              rw [← empty] at large
              simp at large

/-! ## What goes out -/

/-- The outcomes that are left when `writex` returns zero. -/
def taken (writes : List IoResult) (bytes : List UInt8) : Option (List IoResult) :=
  if (Wire.writexLoop writes bytes).1 then some (Wire.writexLoop writes bytes).2.2 else none

/-- What becomes of parts that are sent until one is refused. -/
structure Offered where
  /-- The parts that went out. -/
  sent : List (List UInt8)
  /-- What went out of a part that was refused. -/
  cut : Option (List UInt8)
  /-- The outcomes that are left. -/
  left : List IoResult

/-- Hand one part after the other to `writex`. -/
def offer : List IoResult → List (List UInt8) → Offered
  | writes, [] => ⟨[], none, writes⟩
  | writes, chunk :: chunks =>
      let (ok, written, left) := Wire.writexLoop writes (message idData chunk)
      if ok then { offer left chunks with sent := chunk :: (offer left chunks).sent }
      else ⟨[], some written, left⟩

/-- The bytes that went out. -/
def Offered.bytes (offered : Offered) : List UInt8 :=
  offered.sent.flatMap (message idData) ++ offered.cut.getD []

/-- The text of the mode behind the remote path. -/
def modeText (mode : UInt32) : List UInt8 := 44 :: decimal (asInt mode)

/-- The request of `sync_send`. -/
def sendRequest (rpath : List UInt8) (mode : UInt32) : List UInt8 :=
  pair idSend (.ofNat (rpath.length + (modeText mode).length)) ++ rpath ++ modeText mode

/-- The outcomes that are left when the request went out. -/
def asked (writes : List IoResult) (rpath : List UInt8) (mode : UInt32) :
    Option (List IoResult) :=
  (taken writes (pair idSend (.ofNat (rpath.length + (modeText mode).length)))).bind fun writes =>
    (taken writes rpath).bind fun writes => taken writes (modeText mode)

theorem writexLoop_cut {writes : List IoResult} {bytes : List UInt8}
    (refused : (Wire.writexLoop writes bytes).1 = false) :
    ∃ count < bytes.length, (Wire.writexLoop writes bytes).2.1 = bytes.take count := by
  induction writes generalizing bytes with
  | nil =>
      cases bytes with
      | nil => cases refused
      | cons byte bytes => cases refused
  | cons result writes induction =>
      cases bytes with
      | nil => cases refused
      | cons byte bytes =>
          cases result with
          | moved more =>
              rw [Wire.writexLoop] at refused ⊢
              obtain ⟨count, short, cut⟩ := induction refused
              rw [List.length_drop] at short
              refine ⟨more + 1 + count, by rw [List.length_cons]; omega, ?_⟩
              have all : more ≤ bytes.length := by omega
              simp only [cut]
              rw [show more + 1 + count = (more + count) + 1 by omega, List.take_succ_cons,
                List.take_add, List.cons_append]
          | interrupted => exact induction refused
          | again => exact induction refused
          | failed => exact ⟨0, by simp, rfl⟩

/-- The parts that went out come first, and a part that was refused went out as far as it was
cut. -/
theorem offer_spec (writes : List IoResult) (chunks : List (List UInt8)) :
    ((offer writes chunks).cut = none → (offer writes chunks).sent = chunks) ∧
      ∀ written, (offer writes chunks).cut = some written → ∃ chunk later count,
        chunks = (offer writes chunks).sent ++ chunk :: later ∧ count < 8 + chunk.length ∧
          written = (message idData chunk).take count := by
  induction chunks generalizing writes with
  | nil => exact ⟨fun _ => rfl, fun _ no => (by cases no)⟩
  | cons chunk chunks induction =>
      rw [offer]
      cases ok : (Wire.writexLoop writes (message idData chunk)).1 with
      | true =>
          obtain ⟨all, cut⟩ := induction (Wire.writexLoop writes (message idData chunk)).2.2
          simp only [ok, if_true]
          refine ⟨fun none_cut => by rw [all none_cut], fun written some_cut => ?_⟩
          obtain ⟨refused, later, count, split, short, written_eq⟩ := cut written some_cut
          exact ⟨refused, later, count, congrArg (chunk :: ·) split, short, written_eq⟩
      | false =>
          obtain ⟨count, short, cut⟩ := writexLoop_cut ok
          simp only [ok, Bool.false_eq_true, if_false]
          refine ⟨fun no => (by cases no), fun written written_eq => ?_⟩
          rw [length_message] at short
          exact ⟨chunk, chunks, count, rfl, short, (Option.some.inj written_eq).symm.trans cut⟩

/-- A connection after some bytes went out. -/
def At (start : Connection) (writes : List IoResult) (out : List UInt8) (connection : Connection) :
    Prop :=
  connection = { start with outgoing := start.outgoing ++ out, writes }

section Sends

variable {start : Connection} {writes : List IoResult} {out : List UInt8}

theorem at_writex (bytes : List UInt8) :
    Triple (At start writes out) (writex bytes)
      (fun _ connection => ∃ left, taken writes bytes = some left ∧
        At start left (out ++ bytes) connection)
      fun _ => taken writes bytes = none := by
  rintro connection rfl
  cases ok : (Wire.writexLoop writes bytes).1 with
  | true =>
      have written := writexLoop_written ok
      refine ⟨fun _ _ => ⟨(Wire.writexLoop writes bytes).2.2, ?_, ?_⟩, fun gave_up => ?_⟩
      · rw [taken, if_pos ok]
      · simp only [At, writex, Wire.writex, written, List.append_assoc]
      · simp [writex, Wire.writex, ok] at gave_up
  | false =>
      refine ⟨fun _ returned => ?_, fun _ => ?_⟩
      · simp [writex, Wire.writex, ok] at returned
      · rw [taken, if_neg (by simp [ok])]

theorem at_sendChunks (chunks : List (List UInt8)) {connection : Connection}
    (here : At start writes out connection) :
    At start (offer writes chunks).left (out ++ (offer writes chunks).bytes)
      (sendChunks chunks connection).2 := by
  induction chunks generalizing writes out connection with
  | nil =>
      have same : (sendChunks [] connection).2 = connection := rfl
      rw [same, offer, Offered.bytes]
      simpa using here
  | cons chunk chunks induction =>
      obtain rfl := here
      rw [sendChunks, Program.bind_apply, offer]
      cases ok : (Wire.writexLoop writes (message idData chunk)).1 with
      | true =>
          have written := writexLoop_written ok
          have later := @induction (Wire.writexLoop writes (message idData chunk)).2.2
            (out ++ message idData chunk) _ rfl
          simp only [sendData, writex, Wire.writex, ok, if_true, written]
          simpa [Offered.bytes, List.append_assoc] using later
      | false =>
          simp [sendData, writex, Wire.writex, ok, Offered.bytes, At]

theorem at_askSend (rpath : List UInt8) (mode : UInt32) :
    Triple (At start writes out) (askSend rpath mode)
      (fun _ connection => ∃ left, asked writes rpath mode = some left ∧
        At start left (out ++ sendRequest rpath mode) connection)
      fun _ => asked writes rpath mode = none := by
  rw [askSend, asked]
  refine Triple.bind (Triple.mono (at_writex _) (fun _ here => here) (fun _ _ said => said)
    fun _ refused => ?_) fun _ => .choose fun left => .assume fun first => ?_
  · have none : taken writes (pair idSend (.ofNat (rpath.length + (modeText mode).length))) =
        none := refused
    rw [none, Option.bind_none]
  have first : taken writes (pair idSend (.ofNat (rpath.length + (modeText mode).length))) =
      some left := first
  rw [first, Option.bind_some]
  refine Triple.bind (Triple.mono (at_writex _) (fun _ here => here) (fun _ _ said => said)
    fun _ refused => ?_) fun _ => .choose fun left' => .assume fun second => ?_
  · rw [refused, Option.bind_none]
  rw [second, Option.bind_some]
  refine Triple.mono (at_writex _) (fun _ here => here) (fun _ connection said => ?_)
    fun _ refused => refused
  obtain ⟨last, third, here⟩ := said
  refine ⟨last, third, ?_⟩
  rw [sendRequest, ← List.append_assoc, ← List.append_assoc]
  exact here

/-- What became of the parts, if `DONE` went out as well. -/
def pushOutcome (calls : PushCalls) (rpath : List UInt8) (mtime mode : UInt32)
    (verifyApk showProgress : Bool) (writes : List IoResult) : Option Offered :=
  if 1024 < rpath.length ∨ verifyApk = true ∧ loadApk calls = none then none
  else
    (asked writes rpath mode).bind fun left =>
      let offered := offer left (pushChunks calls verifyApk showProgress)
      (taken offered.left (pair idDone mtime)).map fun _ => offered

theorem at_sendFile {calls : PushCalls} {mode : UInt32} (regular : isReg mode = true)
    (verifyApk showProgress : Bool) {fail : Connection → Prop} :
    Triple (At start writes out)
      (sendFile calls mode (if verifyApk then loadApk calls else none) showProgress)
      (fun _ => At start (offer writes (pushChunks calls verifyApk showProgress)).left
        (out ++ (offer writes (pushChunks calls verifyApk showProgress)).bytes)) fail := by
  have sent (chunks : List (List UInt8)) : Triple (At start writes out)
      (attempt (sendChunks chunks)) (fun _ => At start (offer writes chunks).left
        (out ++ (offer writes chunks).bytes)) fail :=
    fun connection here => ⟨fun _ _ => at_sendChunks chunks here, fun gave_up => by cases gave_up⟩
  rw [← loaded, pushChunks]
  cases loaded calls verifyApk with
  | some result =>
      rw [sendFile, writeDataBuffer, dataBufferLoop_eq]
      exact sent _
  | none =>
      rw [sendFile, if_pos regular, writeDataFile]
      dsimp only
      split
      · -- Nothing is sent for a file that cannot be opened.
        intro connection here
        refine ⟨fun _ _ => ?_, fun gave_up => by cases gave_up⟩
        exact at_sendChunks [] here
      · rw [dataFileLoop_eq]
        exact sent _

theorem at_sendAll (calls : PushCalls) (rpath : List UInt8) (mtime : UInt32) {mode : UInt32}
    (regular : isReg mode = true) (verifyApk showProgress : Bool) :
    Triple (At start writes []) (sendAll calls rpath mtime mode verifyApk showProgress)
      (fun _ connection => ∃ offered,
        pushOutcome calls rpath mtime mode verifyApk showProgress writes = some offered ∧
          ∃ left, At start left (sendRequest rpath mode ++ offered.bytes ++ pair idDone mtime)
            connection)
      fun _ => pushOutcome calls rpath mtime mode verifyApk showProgress writes = none := by
  rw [sendAll, pushOutcome]
  split
  · exact .stop fun _ _ => rfl
  · refine Triple.bind (Triple.mono (at_askSend rpath mode) (fun _ here => here)
      (fun _ _ said => said) fun _ refused => ?_) fun _ =>
        .choose fun left => .assume fun first => ?_
    · rw [refused, Option.bind_none]
    rw [first, Option.bind_some]
    refine (at_sendFile regular verifyApk showProgress).bind fun _ => ?_
    dsimp only
    refine Triple.mono (at_writex _) (fun _ here => here) (fun _ connection said => ?_)
      fun _ refused => ?_
    · obtain ⟨last, done, here⟩ := said
      exact ⟨_, by rw [done, Option.map_some], last, here⟩
    · rw [refused, Option.map_none]

end Sends

end Sync
end AdbWide
