import AdbWide.Sync.Buffers
import AdbWide.Sync.Responses
import AdbWide.Sync.Storing

/-!
# A push that is reported as done

`sync_send` returns zero on the status `OKAY`, and nobody looks at what became of the local file and
of its parts.  The content that the service has stored is the content of the file if the file was
read to its end and no part was refused before its first byte.
-/

namespace AdbWide
namespace Sync

open Wire (Connection IoResult)
open Program (Triple)

/-! ## The two halves of `sync_send` -/

section Halves

variable {calls : PushCalls} {rpath : List UInt8} {mtime mode : UInt32}
  {verifyApk showProgress : Bool}

/-- What goes out if the request and `DONE` do. -/
def sentBytes (rpath : List UInt8) (mtime mode : UInt32) (offered : Offered) : List UInt8 :=
  sendRequest rpath mode ++ (offered.bytes ++ pair idDone mtime)

theorem sendAll_of_outcome (regular : isReg mode = true) {start : Connection} {offered : Offered}
    (outcome : pushOutcome calls rpath mtime mode verifyApk showProgress start.writes =
      some offered) :
    ∃ left, sendAll calls rpath mtime mode verifyApk showProgress start =
      (some (), { start with
        outgoing := start.outgoing ++ sentBytes rpath mtime mode offered, writes := left }) := by
  have here : At start start.writes [] start := by
    rw [At, List.append_nil]
  obtain ⟨said, failed⟩ :=
    at_sendAll calls rpath mtime regular verifyApk showProgress start here
  cases ran : sendAll calls rpath mtime mode verifyApk showProgress start with
  | mk result after =>
      rw [ran] at said failed
      cases result with
      | none =>
          rw [outcome] at failed
          cases failed rfl
      | some value =>
          obtain ⟨offered', outcome', left, sent⟩ := said () rfl
          obtain rfl : offered = offered' := Option.some.inj (outcome.symm.trans outcome')
          rw [At, List.append_assoc] at sent
          exact ⟨left, congrArg (Prod.mk (some ())) sent⟩

theorem outcome_of_sendAll (regular : isReg mode = true) {start : Connection}
    (returned : (sendAll calls rpath mtime mode verifyApk showProgress start).1 = some ()) :
    ∃ offered, pushOutcome calls rpath mtime mode verifyApk showProgress start.writes =
      some offered := by
  have here : At start start.writes [] start := by
    rw [At, List.append_nil]
  obtain ⟨offered, outcome, -⟩ :=
    (at_sendAll calls rpath mtime regular verifyApk showProgress start here).1 () returned
  exact ⟨offered, outcome⟩

theorem acknowledged_of_readStatus {client : Client}
    (returned : (readStatus client).1 = some ()) :
    ¬Unacknowledged client.connection.incoming := by
  rw [readStatus, Program.bind_apply, io_apply] at returned
  cases ran : readx 8 client.connection with
  | mk result after =>
      rw [ran] at returned
      cases result with
      | none => cases returned
      | some status =>
          have size := length_of_readx ran
          obtain ⟨split, -⟩ := readx_split ran
          dsimp only at returned
          have isOkay : wordOf status = idOkay := by
            by_contra other
            rw [if_neg other] at returned
            split at returned
            · rw [Program.bind_apply] at returned
              split at returned
              · cases returned
              · cases returned
            · cases returned
          rw [Unacknowledged, split, List.length_append, size,
            ← wordOf_take (Nat.le_refl 4) (status ++ _), List.take_append_of_le_length (by omega),
            wordOf_take (Nat.le_refl 4)]
          rintro (short | other)
          · omega
          · exact other isOkay

theorem readStatus_okay {client : Client} (plain : client.connection.reads = [])
    (okay : client.connection.incoming = pair idOkay 0) : (readStatus client).1 = some () := by
  have enough : 8 ≤ client.connection.incoming.length := by rw [okay, length_pair]
  rw [readStatus, Program.bind_apply, io_apply, readx_plain plain enough, okay]
  rfl

/-- If zero is returned, then everything went out and the status is `OKAY`. -/
theorem acknowledged_of_syncSend {client : Client}
    (returned : (syncSend calls rpath mtime mode verifyApk showProgress client).1 = some ()) :
    (sendAll calls rpath mtime mode verifyApk showProgress client.connection).1 = some () ∧
      ¬Unacknowledged client.connection.incoming := by
  have unread : (sendAll calls rpath mtime mode verifyApk showProgress
      client.connection).2.incoming = client.connection.incoming :=
    (unread_sendAll calls rpath mtime mode verifyApk showProgress _).always rfl
  rw [syncSend, Program.bind_apply, io_apply] at returned
  cases ran : sendAll calls rpath mtime mode verifyApk showProgress client.connection with
  | mk result after =>
      rw [ran] at returned unread
      cases result with
      | none => cases returned
      | some value =>
          have acknowledged := acknowledged_of_readStatus returned
          rw [← unread]
          exact ⟨rfl, acknowledged⟩

/-- Where nothing fails, zero is returned on `OKAY`. -/
theorem syncSend_okay (regular : isReg mode = true) {client : Client} {offered : Offered}
    (outcome : pushOutcome calls rpath mtime mode verifyApk showProgress
      client.connection.writes = some offered)
    (plain : client.connection.reads = [])
    (okay : client.connection.incoming = pair idOkay 0) :
    (syncSend calls rpath mtime mode verifyApk showProgress client).1 = some () := by
  obtain ⟨left, sent⟩ := sendAll_of_outcome regular outcome
  rw [syncSend, Program.bind_apply, io_apply, sent]
  exact readStatus_okay plain okay

end Halves

/-! ## What the service has stored -/

/-- If `sync_send` returns zero, the service has stored the file: whatever becomes of the status, of
the calls of the device and of its connection. -/
def PushesAll (calls : PushCalls) (rpath : List UInt8) (mtime mode : UInt32)
    (verifyApk showProgress : Bool) (writes : List IoResult) : Prop :=
  ∀ (reads : List IoResult) (device : Device) (world : Nat → Calls) (requests : Nat)
    (serviceReads serviceWrites : List IoResult), (world 0).Succeeded rpath →
    let sent :=
      (sendAll calls rpath mtime mode verifyApk showProgress { writes }).2.outgoing
    let service := fileSyncService device world (requests + 1) 0
      { incoming := sent, reads := serviceReads, writes := serviceWrites }
    (syncSend calls rpath mtime mode verifyApk showProgress
      { connection := { writes, reads, incoming := service.2.outgoing } }).1 = some () →
      ∃ exchange later, service.1 = exchange :: later ∧ exchange.stored = some calls.content

section Stored

variable {calls : PushCalls} {rpath : List UInt8} {mtime mode : UInt32}
  {verifyApk showProgress : Bool} {writes : List IoResult} {offered : Offered}

theorem pushOutcome_checked
    (outcome : pushOutcome calls rpath mtime mode verifyApk showProgress writes = some offered) :
    rpath.length ≤ 1024 ∧ (verifyApk = true → loadApk calls ≠ none) ∧
      ∃ left, offered = offer left (pushChunks calls verifyApk showProgress) := by
  rw [pushOutcome] at outcome
  split at outcome
  · cases outcome
  · next checked =>
      obtain ⟨left, -, outcome⟩ := Option.bind_eq_some_iff.mp outcome
      obtain ⟨-, -, offered_eq⟩ := Option.map_eq_some_iff.mp outcome
      rw [not_or, Nat.not_lt] at checked
      exact ⟨checked.1, fun verified missing => checked.2 ⟨verified, missing⟩, left,
        offered_eq.symm⟩

/-- What is delivered by the parts that went out is the file only if none was refused before its
first byte and the file was read to its end. -/
theorem delivers_offered_iff
    (outcome : pushOutcome calls rpath mtime mode verifyApk showProgress writes = some offered) :
    (∀ content, Delivers (offered.bytes ++ pair idDone mtime) content →
        content = calls.content) ↔
      offered.cut ≠ some [] ∧
        (offered.cut = none → ReadsWhole calls verifyApk showProgress) := by
  obtain ⟨-, checked, left, rfl⟩ := pushOutcome_checked outcome
  obtain ⟨parts, whole⟩ := pushChunks_spec calls verifyApk showProgress checked
  obtain ⟨all, refused⟩ := offer_spec left (pushChunks calls verifyApk showProgress)
  have done : Delivers (pair idDone mtime) [] := by
    have ended := Delivers.done mtime []
    rwa [List.append_nil] at ended
  rw [Offered.bytes]
  cases cut : (offer left (pushChunks calls verifyApk showProgress)).cut with
  | none =>
      rw [all cut, Option.getD_none, List.append_nil]
      refine ⟨fun delivered => ⟨by simp, fun _ => whole.mp ?_⟩,
        fun condition content delivers => ?_⟩
      · refine delivered _ ?_
        have delivers := done.messages parts.short
        rwa [List.append_nil] at delivers
      · obtain ⟨later, rfl, ended⟩ := delivers.after_messages parts.short
        rw [← List.append_nil (pair idDone mtime)] at ended
        rw [ended.after_done, List.append_nil]
        exact whole.mpr (condition.2 rfl)
  | some written =>
      obtain ⟨chunk, later, count, split, short, rfl⟩ := refused written cut
      have short_sent : ∀ chunk ∈ (offer left (pushChunks calls verifyApk showProgress)).sent,
          chunk.length ≤ syncDataMax := fun other member =>
        parts.short other (by rw [split]; exact List.mem_append_left _ member)
      have member : chunk ∈ pushChunks calls verifyApk showProgress := by
        rw [split]
        exact List.mem_append_right _ (List.mem_cons_self)
      rw [Option.getD_some, List.append_assoc]
      by_cases unsent : count = 0
      · -- The part is left out, and the others are too short together.
        obtain rfl := unsent
        rw [List.take_zero, List.nil_append]
        refine ⟨fun delivered => ?_, fun condition => absurd rfl condition.1⟩
        have delivers := done.messages short_sent
        have same := congrArg List.length (delivered _ delivers)
        have long := List.length_pos_of_ne_nil (parts.nonempty chunk member)
        have total := parts.total
        rw [split, List.flatten_append, List.flatten_cons, List.length_append,
          List.length_append] at total
        rw [List.length_append, List.length_nil] at same
        omega
      · refine ⟨fun _ => ⟨?_, by simp⟩, fun _ content delivers => ?_⟩
        · intro empty
          have none := congrArg List.length (Option.some.inj empty)
          rw [List.length_take, length_message, List.length_nil] at none
          omega
        · obtain ⟨later, -, ended⟩ := delivers.after_messages short_sent
          have some_out := Nat.pos_of_ne_zero unsent
          exact absurd ended (not_delivers_cut (parts.short chunk member) some_out short mtime)

/-- What goes out of a connection that is new. -/
theorem sent_of_outcome (regular : isReg mode = true)
    (outcome : pushOutcome calls rpath mtime mode verifyApk showProgress writes = some offered) :
    (sendAll calls rpath mtime mode verifyApk showProgress { writes }).1 = some () ∧
      (sendAll calls rpath mtime mode verifyApk showProgress { writes }).2.outgoing =
        sentBytes rpath mtime mode offered := by
  have start : ({ writes } : Connection).writes = writes := rfl
  rw [← start] at outcome
  obtain ⟨left, sent⟩ := sendAll_of_outcome regular outcome
  rw [sent]
  exact ⟨rfl, List.nil_append _⟩

/-- A file that is delivered is what the service must have stored. -/
theorem PushesAll.delivered
    (pushes : PushesAll calls rpath mtime mode verifyApk showProgress writes)
    (regular : isReg mode = true) (clean : 0 ∉ rpath)
    (outcome : pushOutcome calls rpath mtime mode verifyApk showProgress writes = some offered)
    (fits : rpath.length + (modeText mode).length ≤ 1024) {content : List UInt8}
    (delivers : Delivers (offered.bytes ++ pair idDone mtime) content) :
    content = calls.content := by
  have succeeded : Calls.Succeeded {} rpath := ⟨.inl rfl, rfl, fun _ => rfl⟩
  obtain ⟨-, sent⟩ := sent_of_outcome regular outcome
  have world : ((fun _ => {} : Nat → Calls) 0).Succeeded rpath := succeeded
  have okay : (fileSyncService readOnlyDevice (fun _ => {}) 1 0
      { incoming := (sendAll calls rpath mtime mode verifyApk showProgress
          { writes }).2.outgoing }).2.outgoing = pair idOkay 0 := by
    rw [sent, sentBytes]
    exact acknowledged_of_delivers clean fits regular world delivers
  obtain ⟨exchange, later, exchanges, stored⟩ := pushes [] readOnlyDevice (fun _ => {}) 0 [] []
    succeeded (syncSend_okay regular outcome rfl okay)
  have serves : Serves (sendRequest rpath mode ++ (offered.bytes ++ pair idDone mtime)) []
      { incoming := (sendAll calls rpath mtime mode verifyApk showProgress
          { writes }).2.outgoing } := ⟨sent, rfl⟩
  have acknowledged : ¬Silent (fileSyncService readOnlyDevice (fun _ => {}) 1 0
      { incoming := (sendAll calls rpath mtime mode verifyApk showProgress
          { writes }).2.outgoing }).2 := by
    rw [Silent, okay, Unacknowledged]
    decide
  obtain ⟨-, exchange', later', content', exchanges', stored', delivers'⟩ :=
    stored_of_acknowledged clean (by omega) regular world 0 serves acknowledged
  obtain ⟨rfl, -⟩ := List.cons.inj (exchanges.symm.trans exchanges')
  obtain rfl : calls.content = content' := Option.some.inj (stored.symm.trans stored')
  exact congrArg Prod.fst ((delivers_iff.mp delivers).symm.trans (delivers_iff.mp delivers'))

end Stored

/-- For every regular file, whatever becomes of it and of the connection, zero is returned only for
a file that is stored exactly if this holds where the request and `DONE` go out and the service
takes the request: no part of the file is refused before its first byte, and unless one is refused
after it the file is read to its end. -/
theorem syncSend_full_iff (calls : PushCalls) {rpath : List UInt8} (clean : 0 ∉ rpath)
    (mtime : UInt32) {mode : UInt32} (regular : isReg mode = true) (verifyApk showProgress : Bool)
    (writes : List IoResult) :
    PushesAll calls rpath mtime mode verifyApk showProgress writes ↔
      ∀ offered, pushOutcome calls rpath mtime mode verifyApk showProgress writes = some offered →
        rpath.length + (modeText mode).length ≤ 1024 →
          offered.cut ≠ some [] ∧
            (offered.cut = none → ReadsWhole calls verifyApk showProgress) := by
  refine ⟨fun pushes offered outcome fits => ?_, fun condition => ?_⟩
  · exact (delivers_offered_iff outcome).mp fun content delivers =>
      pushes.delivered regular clean outcome fits delivers
  · intro reads device world requests serviceReads serviceWrites succeeded sent service returned
    obtain ⟨everything, acknowledged⟩ := acknowledged_of_syncSend returned
    obtain ⟨offered, outcome⟩ := outcome_of_sendAll regular everything
    obtain ⟨-, sent_eq⟩ := sent_of_outcome regular outcome
    obtain ⟨short, -⟩ := pushOutcome_checked outcome
    have serves : Serves (sendRequest rpath mode ++ (offered.bytes ++ pair idDone mtime)) []
        { incoming := sent, reads := serviceReads, writes := serviceWrites } := ⟨sent_eq, rfl⟩
    have acknowledged : ¬Silent service.2 := acknowledged
    obtain ⟨fits, exchange, later, content, exchanges, stored, delivers⟩ :=
      stored_of_acknowledged clean short regular succeeded requests serves acknowledged
    have whole := (delivers_offered_iff outcome).mpr (condition offered outcome fits) _ delivers
    exact ⟨exchange, later, exchanges, by rw [stored, whole]⟩

/-- A file that is read in three parts and sent with an interruption and short counts. -/
theorem syncSend_full_parts :
    PushesAll { content := [1, 2, 3, 4, 5], reads := [.moved 1, .interrupted, .moved 0] }
      [47, 120] 0 0o100644 false false [.moved 3, .interrupted, .moved 0, .moved 9, .moved 4] := by
  refine (syncSend_full_iff _ (by decide) 0 (by decide) false false _).mpr
    fun offered outcome _ => ?_
  have computed : (pushOutcome
      { content := [1, 2, 3, 4, 5], reads := [.moved 1, .interrupted, .moved 0] } [47, 120] 0
        0o100644 false false [.moved 3, .interrupted, .moved 0, .moved 9, .moved 4]).map
          (fun offered => (offered.sent, offered.cut)) =
      some ([[1, 2], [3], [4, 5]], none) := by
    with_unfolding_all decide
  rw [outcome] at computed
  have uncut : offered.cut = none := congrArg Prod.snd (Option.some.inj computed)
  refine ⟨by simp [uncut], fun _ => ?_⟩
  exact .inr ⟨rfl, fun _ => rfl, .inr (.inr trivial)⟩

/-- A file of one byte that cannot be opened, and one whose only part is refused at once, are stored
empty, and zero is returned. -/
theorem syncSend_not_full :
    ¬PushesAll { content := [1], opens := false } [47, 120] 0 0o100644 false false [] ∧
      ¬PushesAll { content := [1] } [47, 120] 0 0o100644 false false
        [.moved 7, .moved 1, .moved 5, .failed] := by
  have refuted {calls : PushCalls} {writes : List IoResult}
      (returned : (syncSend calls [47, 120] 0 0o100644 false false
        { connection := { writes, incoming := pair idOkay 0 } }).1 = some ())
      (service : ((fileSyncService readOnlyDevice (fun _ => {}) 1 0 { incoming :=
          (sendAll calls [47, 120] 0 0o100644 false false { writes }).2.outgoing }).1.map
            Exchange.stored,
        (fileSyncService readOnlyDevice (fun _ => {}) 1 0 { incoming :=
          (sendAll calls [47, 120] 0 0o100644 false false { writes }).2.outgoing }).2.outgoing) =
        ([some []], pair idOkay 0)) (long : calls.content = [1]) :
      ¬PushesAll calls [47, 120] 0 0o100644 false false writes := by
    intro pushes
    obtain ⟨stored, okay⟩ := Prod.mk.inj service
    obtain ⟨exchange, later, exchanges, stored'⟩ :=
      pushes [] readOnlyDevice (fun _ => {}) 0 [] [] ⟨.inl rfl, rfl, fun _ => rfl⟩
        (by rw [okay]; exact returned)
    rw [exchanges, List.map_cons, stored', long] at stored
    cases stored
  constructor
  · exact refuted (by with_unfolding_all decide) (by with_unfolding_all decide) rfl
  · exact refuted (by with_unfolding_all decide) (by with_unfolding_all decide) rfl

end Sync
end AdbWide
