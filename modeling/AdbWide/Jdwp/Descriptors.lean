import Mathlib.Data.List.Infix
import Mathlib.Data.List.Range
import Mathlib.Logic.Function.Basic
import Mathlib.Tactic.SplitIfs

/-!
# The descriptors for a JDWP process

A debugger is connected to a process on the device by a pair of sockets, one end of which goes to
the process over its control socket.  The ends wait in `out_fds`.  As long as every descriptor that
is sent also leaves the queue, `sent ++ queue` is the sequence of all that were created.
-/

namespace AdbWide
namespace Jdwp

/-- `MAX_OUT_FDS`. -/
def maxOutFds : Nat := 4

/-- A `JdwpProcess`.  Descriptors are numbered as they are created. -/
structure JdwpProcess where
  pid : Int
  /-- The part of `in_buff` that has been read, `in_len` bytes. -/
  inBuff : List UInt8
  outFds : Nat → Nat
  outCount : Nat
  /-- Whether `FDE_WRITE` is wanted. -/
  wantsWrite : Bool

/-- The descriptors that wait, in their order. -/
def JdwpProcess.queue (proc : JdwpProcess) : List Nat :=
  (List.range proc.outCount).map proc.outFds

/-- The process, until it is freed, and what became of the descriptors. -/
structure State where
  proc : Option JdwpProcess
  sent : List Nat
  closed : List Nat
  created : Nat

/-- What `jdwp_process_alloc` makes. -/
def start : State := ⟨some ⟨-1, [], fun _ => 0, 0, false⟩, [], [], 0⟩

/-! ## Reading -/

/-- What a call of `recv` comes to. -/
inductive Recv where
  | data (byte : UInt8) (bytes : List UInt8)
  | eof
  | interrupted
  | again
  | fails

/-- How the event goes on after reading. -/
inductive Progress where
  | returns (proc : JdwpProcess)
  | closeProcess (proc : JdwpProcess)
  | goesOn (proc : JdwpProcess)

/-- The process as reading leaves it. -/
def Progress.proc : Progress → JdwpProcess
  | .returns proc | .closeProcess proc | .goesOn proc => proc

/-- Decode the pid. -/
def decodePid (sscanf : List UInt8 → Option Int) (proc : JdwpProcess) : Progress :=
  match sscanf proc.inBuff with
  | none => .closeProcess proc
  | some pid => .goesOn { proc with pid := pid }

/-- Read the pid, with what the calls of `recv` come to; behind them there is nothing to read. -/
def readPid (sscanf : List UInt8 → Option Int) : List Recv → JdwpProcess → Progress
  | [], proc => if proc.inBuff.length < 4 then .returns proc else decodePid sscanf proc
  | recv :: recvs, proc =>
      if proc.inBuff.length < 4 then
        match recv with
        | .data byte bytes =>
            let read := (byte :: bytes).take (4 - proc.inBuff.length)
            readPid sscanf recvs { proc with inBuff := proc.inBuff ++ read }
        | .eof => .closeProcess proc
        | .interrupted => readPid sscanf recvs proc
        | .again => .returns proc
        | .fails => .closeProcess proc
      else decodePid sscanf proc

/-- Read what comes behind the pid. -/
def readOn : List Recv → JdwpProcess → Progress
  | [], proc => .returns proc
  | recv :: recvs, proc =>
      match recv with
      | .data _ _ => readOn recvs proc
      | .eof => .closeProcess proc
      | .interrupted => readOn recvs proc
      | .again => .returns proc
      | .fails => .closeProcess proc

/-- The part of `jdwp_process_event` for `FDE_READ`. -/
def readEvent (sscanf : List UInt8 → Option Int) (read : Bool) (recvs : List Recv)
    (proc : JdwpProcess) : Progress :=
  if read then
    if proc.pid < 0 then readPid sscanf recvs proc else readOn recvs proc
  else .goesOn proc

/-! ## Writing -/

/-- `jdwp_process_free`. -/
def jdwpProcessFree (proc : JdwpProcess) (state : State) : State :=
  { state with proc := none, closed := state.closed ++ proc.queue }

/-- The loop that moves the descriptors to the front. -/
def shift (outFds : Nat → Nat) (outCount : Nat) : Nat → Nat :=
  (List.range' 1 (outCount - 1)).foldl (fun fds n => Function.update fds (n - 1) (fds n)) outFds

/-- Whether the calls of `fcntl` and `sendmsg` succeed, in their order. -/
structure Calls where
  getfl : Bool
  clear : Bool
  sendmsg : Bool
  restore : Bool

/-- The part of `jdwp_process_event` for `FDE_WRITE`. -/
def writeEvent (calls : Calls) (proc : JdwpProcess) (state : State) : State :=
  if 0 < proc.outCount then
    let fd := proc.outFds 0
    if calls.getfl && calls.clear && calls.sendmsg then
      let sent := { state with sent := state.sent ++ [fd], closed := state.closed ++ [fd] }
      let shifted := { proc with outFds := shift proc.outFds proc.outCount }
      if calls.restore then
        { sent with
          proc := some { shifted with
            outCount := proc.outCount - 1
            wantsWrite := if proc.outCount - 1 = 0 then false else proc.wantsWrite } }
      else jdwpProcessFree shifted sent
    else jdwpProcessFree proc state
  else { state with proc := some proc }

/-- `jdwp_process_event`. -/
def jdwpProcessEvent (sscanf : List UInt8 → Option Int) (read write : Bool) (recvs : List Recv)
    (calls : Calls) (state : State) : State :=
  match state.proc with
  | none => state
  | some proc =>
      match readEvent sscanf read recvs proc with
      | .returns proc => { state with proc := some proc }
      | .closeProcess proc => jdwpProcessFree proc state
      | .goesOn proc =>
          if write then writeEvent calls proc state else { state with proc := some proc }

/-- `create_jdwp_connection_fd`, with the outcome of `adb_socketpair`; what is returned is the other
end of the pair. -/
def createJdwpConnectionFd (pid : Int) (socketpair : Bool) (state : State) :
    Option Nat × State :=
  match state.proc with
  | none => (none, state)
  | some proc =>
      if proc.pid = pid ∧ proc.outCount < maxOutFds ∧ socketpair then
        (some state.created, { state with
          proc := some { proc with
            outFds := Function.update proc.outFds proc.outCount state.created
            outCount := proc.outCount + 1
            wantsWrite := if proc.outCount + 1 = 1 then true else proc.wantsWrite }
          created := state.created + 1 })
      else (none, state)

/-- A call of one of the two. -/
inductive Event where
  | create (pid : Int) (socketpair : Bool)
  | event (read write : Bool) (recvs : List Recv) (calls : Calls)

/-- Make a call. -/
def next (sscanf : List UInt8 → Option Int) (state : State) : Event → State
  | .create pid socketpair => (createJdwpConnectionFd pid socketpair state).2
  | .event read write recvs calls => jdwpProcessEvent sscanf read write recvs calls state

/-- Make calls one after the other. -/
def run (sscanf : List UInt8 → Option Int) (events : List Event) : State :=
  events.foldl (next sscanf) start

/-! ## Handing over -/

/-- The descriptors are sent in the order in which they were created, none is closed twice, those
that were sent or whose process was freed are closed, and a process that is there has no more of
them than it may, and asks to write if and only if it has some. -/
structure Handed (state : State) : Prop where
  fifo : state.sent <+: List.range state.created
  once : state.closed.Nodup
  left : ∀ fd < state.created, fd ∈ state.sent ∨ state.proc = none → fd ∈ state.closed
  bound : ∀ proc, state.proc = some proc → proc.outCount ≤ maxOutFds
  wanted : ∀ proc, state.proc = some proc → (proc.wantsWrite = true ↔ 0 < proc.outCount)

/-- A descriptor is sent in the event, and then the flags of the socket cannot be set back. -/
def Stuck (sscanf : List UInt8 → Option Int) (state : State) : Event → Prop
  | .create _ _ => False
  | .event read write recvs calls => write = true ∧ calls = ⟨true, true, true, false⟩ ∧
      ∃ before proc, state.proc = some before ∧ 0 < proc.outCount ∧
        readEvent sscanf read recvs before = .goesOn proc

section Queues

variable {proc : JdwpProcess} {fds : Nat → Nat} {count : Nat}

theorem shift_apply (fds : Nat → Nat) (n i : Nat) :
    shift fds (n + 1) i = if i < n then fds (i + 1) else fds i := by
  rw [shift, Nat.add_sub_cancel]
  induction n generalizing i with
  | zero => simp
  | succ n induction =>
      have last := induction (n + 1)
      rw [if_neg (by omega)] at last
      rw [List.range'_1_concat, List.foldl_append, List.foldl_cons, List.foldl_nil,
        Nat.add_comm 1 n, Nat.add_sub_cancel, last, Function.update_apply, induction]
      split_ifs <;> first | rfl | omega | (subst_vars; rfl)

/-- What is behind the first descriptor moves to the front. -/
theorem map_shift (fds : Nat → Nat) (n : Nat) :
    fds 0 :: (List.range n).map (shift fds (n + 1)) = (List.range (n + 1)).map fds := by
  rw [List.range_succ_eq_map, List.map_cons, List.map_map]
  refine congrArg (fds 0 :: ·) (List.map_congr_left fun i mem => ?_)
  rw [shift_apply, if_pos (List.mem_range.mp mem), Function.comp_apply]

/-- The last descriptor stays where it is as well. -/
theorem map_shift_last (fds : Nat → Nat) (n : Nat) :
    (List.range (n + 1)).map (shift fds (n + 1)) =
      (List.range n).map (shift fds (n + 1)) ++ [fds n] := by
  rw [List.range_succ, List.map_append, List.map_singleton, shift_apply,
    if_neg (Nat.lt_irrefl n)]

theorem map_update (fds : Nat → Nat) (n fd : Nat) :
    (List.range (n + 1)).map (Function.update fds n fd) = (List.range n).map fds ++ [fd] := by
  rw [List.range_succ, List.map_append, List.map_singleton, Function.update_self]
  refine congrArg (· ++ [fd]) (List.map_congr_left fun i mem => ?_)
  exact Function.update_of_ne (List.mem_range.mp mem).ne _ _

end Queues

/-! ## What every event keeps -/

/-- A process that is there, with what became of its descriptors. -/
structure Waiting (proc : JdwpProcess) (state : State) : Prop where
  closed : state.closed = state.sent
  history : state.sent ++ proc.queue = List.range state.created
  bound : proc.outCount ≤ maxOutFds
  wanted : proc.wantsWrite = true ↔ 0 < proc.outCount

/-- A process that is there waits with what was not sent, and one that is not has left all of its
descriptors closed. -/
structure Kept (state : State) : Prop where
  waiting : ∀ proc, state.proc = some proc → Waiting proc state
  freed : state.proc = none →
    state.closed = List.range state.created ∧ state.sent <+: List.range state.created

section Events

variable {sscanf : List UInt8 → Option Int} {proc : JdwpProcess} {state : State}

theorem Kept.handed (kept : Kept state) : Handed state := by
  cases found : state.proc with
  | none =>
      obtain ⟨closed, fifo⟩ := kept.freed found
      exact {
        fifo := fifo
        once := closed ▸ List.nodup_range
        left := fun fd created _ => closed ▸ List.mem_range.mpr created
        bound := fun proc there => nomatch found.symm.trans there
        wanted := fun proc there => nomatch found.symm.trans there }
  | some proc =>
      have waiting := kept.waiting proc found
      have fifo : state.sent <+: List.range state.created := ⟨proc.queue, waiting.history⟩
      exact {
        fifo := fifo
        once := waiting.closed ▸ fifo.sublist.nodup List.nodup_range
        left := fun fd _ left =>
          waiting.closed ▸ left.resolve_right fun gone => nomatch found.symm.trans gone
        bound := fun other there => by
          obtain rfl := Option.some.inj (found.symm.trans there)
          exact waiting.bound
        wanted := fun other there => by
          obtain rfl := Option.some.inj (found.symm.trans there)
          exact waiting.wanted }

theorem Kept.of_waiting (found : state.proc = some proc) (waiting : Waiting proc state) :
    Kept state where
  waiting other there := by
    obtain rfl := Option.some.inj (found.symm.trans there)
    exact waiting
  freed gone := nomatch found.symm.trans gone

/-- A process that waits is freed with all of its descriptors. -/
theorem Waiting.free (waiting : Waiting proc state) : Kept (jdwpProcessFree proc state) where
  waiting _ there := nomatch there
  freed _ := by
    have all : state.closed ++ proc.queue = List.range state.created := by
      rw [waiting.closed, waiting.history]
    exact ⟨all, proc.queue, waiting.history⟩

theorem readPid_proc (recvs : List Recv) (proc : JdwpProcess) :
    ∃ pid inBuff,
      (readPid sscanf recvs proc).proc = { proc with pid := pid, inBuff := inBuff } := by
  have decoded (proc : JdwpProcess) : ∃ pid inBuff,
      (decodePid sscanf proc).proc = { proc with pid := pid, inBuff := inBuff } := by
    rw [decodePid]
    split
    · exact ⟨proc.pid, proc.inBuff, rfl⟩
    · next pid _ => exact ⟨pid, proc.inBuff, rfl⟩
  induction recvs generalizing proc with
  | nil =>
      rw [readPid]
      split
      · exact ⟨proc.pid, proc.inBuff, rfl⟩
      · exact decoded proc
  | cons recv recvs induction =>
      rw [readPid.eq_def]
      dsimp only
      split
      · cases recv with
        | data byte bytes => exact induction _
        | interrupted => exact induction proc
        | eof | again | fails => exact ⟨proc.pid, proc.inBuff, rfl⟩
      · exact decoded proc

theorem readOn_proc (recvs : List Recv) (proc : JdwpProcess) :
    (readOn recvs proc).proc = proc := by
  induction recvs with
  | nil => rfl
  | cons recv recvs induction =>
      cases recv with
      | data | interrupted => exact induction
      | eof | again | fails => rfl

/-- Reading leaves the descriptors as they are. -/
theorem Waiting.readEvent (waiting : Waiting proc state) (read : Bool) (recvs : List Recv) :
    Waiting (readEvent sscanf read recvs proc).proc state := by
  rw [Jdwp.readEvent]
  split
  · split
    · obtain ⟨pid, inBuff, same⟩ := @readPid_proc sscanf recvs proc
      rw [same]
      exact ⟨waiting.closed, waiting.history, waiting.bound, waiting.wanted⟩
    · rw [readOn_proc]
      exact waiting
  · exact waiting

/-- A pair of sockets that is made waits behind the others. -/
theorem Waiting.create (waiting : Waiting proc state) (found : state.proc = some proc) (pid : Int)
    (socketpair : Bool) : Kept (createJdwpConnectionFd pid socketpair state).2 := by
  rw [createJdwpConnectionFd, found]
  dsimp only
  split
  · next fits =>
    obtain ⟨-, room, -⟩ := fits
    refine .of_waiting rfl ⟨waiting.closed, ?_, room, ?_⟩
    · rw [JdwpProcess.queue, map_update, ← List.append_assoc, List.range_succ]
      exact congrArg (· ++ [state.created]) waiting.history
    · have wanted := waiting.wanted
      dsimp only
      split_ifs with first
      · exact iff_of_true rfl (Nat.succ_pos _)
      · rw [wanted]
        omega
  · exact .of_waiting found waiting

/-- A descriptor that is sent leaves the queue, unless the flags of the socket cannot be set
back. -/
theorem Waiting.write (waiting : Waiting proc state) {calls : Calls}
    (fine : 0 < proc.outCount → calls ≠ ⟨true, true, true, false⟩) :
    Kept (writeEvent calls proc state) := by
  rw [writeEvent]
  split
  · next some =>
      split
      · next sends =>
          dsimp only
          split
          · obtain ⟨n, count⟩ := Nat.exists_eq_succ_of_ne_zero some.ne'
            have bound := waiting.bound
            have wanted := waiting.wanted
            refine .of_waiting rfl ⟨congrArg (· ++ [proc.outFds 0]) waiting.closed, ?_, ?_, ?_⟩
            · rw [← waiting.history, JdwpProcess.queue, JdwpProcess.queue, count, ← map_shift]
              exact List.append_assoc _ _ _
            · exact (Nat.sub_le _ 1).trans bound
            · dsimp only
              split_ifs with last
              · exact iff_of_false id (last ▸ Nat.lt_irrefl 0)
              · rw [wanted]
                omega
          · next stays =>
              refine absurd ?_ (fine some)
              obtain ⟨getfl, clear, sendmsg, restore⟩ := calls
              grind
      · exact waiting.free
  · exact .of_waiting rfl ⟨waiting.closed, waiting.history, waiting.bound, waiting.wanted⟩

/-- If the flags cannot be set back, the last descriptor is closed twice. -/
theorem not_nodup_stuck (some : 0 < proc.outCount) :
    ¬(writeEvent ⟨true, true, true, false⟩ proc state).closed.Nodup := by
  obtain ⟨n, count⟩ := Nat.exists_eq_succ_of_ne_zero some.ne'
  rw [writeEvent, if_pos some]
  change ¬(state.closed ++ [proc.outFds 0] ++
    (List.range proc.outCount).map (shift proc.outFds proc.outCount)).Nodup
  rw [count, map_shift_last, List.append_assoc, ← List.append_assoc [proc.outFds 0],
    List.singleton_append, map_shift]
  intro nodup
  have twice := (List.nodup_append.mp nodup).2.1
  refine (List.nodup_append.mp twice).2.2 (proc.outFds n) ?_ (proc.outFds n)
    (List.mem_singleton_self _) rfl
  exact List.mem_map_of_mem List.self_mem_range_succ

/-- An event keeps the descriptors, or it gets stuck and closes one of them twice. -/
theorem Kept.next_cases (kept : Kept state) (event : Event) :
    ¬Stuck sscanf state event ∧ Kept (next sscanf state event) ∨
      Stuck sscanf state event ∧ ¬(next sscanf state event).closed.Nodup := by
  cases found : state.proc with
  | none =>
      have still : next sscanf state event = state := by
        cases event with
        | create pid socketpair => rw [next, createJdwpConnectionFd, found]
        | event read write recvs calls => rw [next, jdwpProcessEvent, found]
      rw [still]
      refine .inl ⟨?_, kept⟩
      cases event with
      | create pid socketpair => exact id
      | event read write recvs calls =>
          rintro ⟨-, -, before, -, there, -⟩
          exact nomatch found.symm.trans there
  | some before =>
      have waiting := kept.waiting before found
      cases event with
      | create pid socketpair => exact .inl ⟨id, waiting.create found pid socketpair⟩
      | event read write recvs calls =>
          have reading := @Waiting.readEvent sscanf before state waiting read recvs
          rw [next, jdwpProcessEvent, found]
          dsimp only
          cases progress : readEvent sscanf read recvs before with
          | returns proc =>
              rw [progress] at reading
              refine .inl ⟨?_, .of_waiting rfl
                ⟨reading.closed, reading.history, reading.bound, reading.wanted⟩⟩
              rintro ⟨-, -, other, proc, there, -, goesOn⟩
              obtain rfl := Option.some.inj (found.symm.trans there)
              exact nomatch progress.symm.trans goesOn
          | closeProcess proc =>
              rw [progress] at reading
              refine .inl ⟨?_, reading.free⟩
              rintro ⟨-, -, other, proc, there, -, goesOn⟩
              obtain rfl := Option.some.inj (found.symm.trans there)
              exact nomatch progress.symm.trans goesOn
          | goesOn proc =>
              rw [progress] at reading
              cases write with
              | false =>
                  refine .inl ⟨fun stuck => Bool.false_ne_true stuck.1, .of_waiting rfl
                    ⟨reading.closed, reading.history, reading.bound, reading.wanted⟩⟩
              | true =>
                  by_cases stays : 0 < proc.outCount ∧ calls = ⟨true, true, true, false⟩
                  · obtain ⟨some, rfl⟩ := stays
                    exact .inr ⟨⟨rfl, rfl, before, proc, found, some, progress⟩,
                      not_nodup_stuck some⟩
                  · refine .inl ⟨?_, reading.write fun some same => stays ⟨some, same⟩⟩
                    rintro ⟨-, same, other, proc', there, some, goesOn⟩
                    obtain rfl := Option.some.inj (found.symm.trans there)
                    obtain rfl := Progress.goesOn.inj (progress.symm.trans goesOn)
                    exact stays ⟨some, same⟩

theorem kept_start : Kept start :=
  .of_waiting rfl ⟨rfl, rfl, Nat.zero_le _, iff_of_false Bool.false_ne_true (Nat.lt_irrefl 0)⟩

theorem run_concat (events : List Event) (event : Event) :
    run sscanf (events ++ [event]) = next sscanf (run sscanf events) event := by
  rw [run, List.foldl_append]
  rfl

/-- What every event of a run keeps holds throughout it. -/
theorem kept_run {events : List Event} (kept_concat : ∀ front event, front ++ [event] <+: events →
    Kept (run sscanf front) → Kept (run sscanf (front ++ [event]))) :
    ∀ front, front <+: events → Kept (run sscanf front) := by
  intro front
  induction front using List.reverseRecOn with
  | nil => exact fun _ => kept_start
  | append_singleton front event induction =>
      intro inside
      exact kept_concat front event inside (induction ((List.prefix_append _ _).trans inside))

/-- The descriptors are handed over throughout a run if and only if no event of it gets stuck. -/
theorem handed_iff (sscanf : List UInt8 → Option Int) (events : List Event) :
    (∀ front, front <+: events → Handed (run sscanf front)) ↔
      ∀ front event, front ++ [event] <+: events → ¬Stuck sscanf (run sscanf front) event := by
  constructor
  · intro handed
    have once (front : List Event) (event : Event) (inside : front ++ [event] <+: events) :
        (next sscanf (run sscanf front) event).closed.Nodup :=
      run_concat front event ▸ (handed _ inside).once
    have kept : ∀ front, front <+: events → Kept (run sscanf front) := by
      refine kept_run fun front event inside before => ?_
      rw [run_concat]
      obtain ⟨-, after⟩ | ⟨-, twice⟩ := before.next_cases event
      · exact after
      · exact absurd (once front event inside) twice
    intro front event inside
    obtain ⟨fine, -⟩ | ⟨-, twice⟩ :=
      (kept front ((List.prefix_append _ _).trans inside)).next_cases event
    · exact fine
    · exact absurd (once front event inside) twice
  · intro fine front inside
    refine (kept_run (fun front event further before => ?_) front inside).handed
    rw [run_concat]
    obtain ⟨-, after⟩ | ⟨stuck, -⟩ := before.next_cases event
    · exact after
    · exact absurd stuck (fine front event further)

/-- The process 42 gets a descriptor, but the flags of its socket are not set back. -/
theorem not_handed_stuck :
    ¬∀ front, front <+: [Event.event true false [.data 48 [48, 50, 97]] ⟨true, true, true, true⟩,
        .create 42 true, .event false true [] ⟨true, true, true, false⟩] →
      Handed (run (fun _ => some 42) front) := by
  intro handed
  have once := (handed _ (List.prefix_refl _)).once
  exact absurd once (by decide)

end Events

end Jdwp
end AdbWide
