import Mathlib.Data.List.TakeWhile
import AdbWide.Sockets.Lineage
import AdbWide.Wire.Codec

/-!
# The pump of a transport

The output thread of a transport reads packets from the remote and passes them to the main loop;
the input thread takes the packets the main loop sends and writes them to the remote.  The two
tell each other that the connection goes up and down by `SYNC` packets, which travel the same way
through the main loop as everything else.

The output thread looks at the header and the checksum of a message and not at its command.
-/

namespace AdbWide
namespace Wire

open Sockets (Command Message Server Step Outside ServerStep Consistent)

/-! ## The threads -/

/-- `A_SYNC`. -/
def aSync : UInt32 := 0x434e5953

/-- The commands of `adb.h`. -/
def commandOf (word : UInt32) : Command :=
  if word = aSync then .sync
  else if word = 0x4e584e43 then .cnxn
  else if word = 0x48545541 then .auth
  else if word = 0x4e45504f then .open
  else if word = 0x59414b4f then .okay
  else if word = 0x45534c43 then .clse
  else if word = 0x45545257 then .wrte
  else .other word.toNat

/-- What `handle_packet` is given. -/
def Frame.message (frame : Frame) : Message :=
  ⟨commandOf frame.1.command, frame.1.arg0.toNat, frame.1.arg1.toNat, frame.2⟩

/-- A `SYNC` packet of the output thread, made in a packet of `get_apacket`. -/
def syncPacket (p : Apacket) (online token : UInt32) : Apacket :=
  { p with msg := ⟨aSync, online, token, 0, 0, aSync ^^^ 0xffffffff⟩ }

/-- The loop of `output_thread`: the packets it passes on, and what is left of the results of
`write_packet` if it was `read_from_remote` that failed.  Past the end of the results every call
succeeds. -/
def outputLoop (memory : Nat → Apacket) :
    Nat → Connection → List Bool → List Apacket × Option (List Bool)
  | 0, _, _ => ([], none)
  | rounds + 1, connection, pipe =>
      match remoteRead (memory rounds) connection with
      | (none, _) => ([], some pipe)
      | (some p, connection) =>
          if pipe.headD true then
            let (packets, left) := outputLoop memory rounds connection pipe.tail
            (p :: packets, left)
          else ([], none)

/-- `output_thread`: the packets the main loop gets.  Every round takes a message off the stream. -/
def outputThread (syncToken : UInt32) (memory : Nat → Apacket) (connection : Connection)
    (pipe : List Bool) : List Apacket :=
  if pipe.headD true then
    let online := syncPacket (memory 0) 1 (syncToken + 1)
    match outputLoop memory (connection.incoming.length + 1) connection pipe.tail with
    | (packets, none) => online :: packets
    | (packets, some pipe) =>
        if pipe.headD true then online :: packets ++ [syncPacket (memory 0) 0 0]
        else online :: packets
  else []

/-- What `input_thread` does with a packet. -/
inductive InputAction where
  /-- Its branch for `A_SYNC`. -/
  | sync (message : Message)
  /-- `write_to_remote`. -/
  | forward (message : Message)
  | discard (message : Message)

/-- `input_thread`, for the packets it reads. -/
def inputThread (syncToken : Nat) : Bool → List Message → List InputAction
  | _, [] => []
  | active, message :: messages =>
      if message.command = .sync then
        if message.arg0 = 0 then [.sync message]
        else if message.arg1 = syncToken then
          .sync message :: inputThread syncToken true messages
        else .sync message :: inputThread syncToken active messages
      else if active then .forward message :: inputThread syncToken active messages
      else .discard message :: inputThread syncToken active messages

/-! ## What the threads are for -/

/-- The commands that are valid on the wire. -/
def OnWire : Command → Bool
  | .cnxn | .auth | .open | .okay | .clse | .wrte => true
  | .sync | .other _ => false

/-- The messages of a stream, up to the first with a bad header, a corrupt payload or no end. -/
def messagesOf (stream : List UInt8) : List Frame :=
  splitAll nextFrame (stream.length + 1) stream

/-- The messages of a stream before the first that has to end the connection. -/
def acceptable (stream : List UInt8) : List Frame :=
  (messagesOf stream).takeWhile fun frame => OnWire (commandOf frame.1.command)

/-- `SYNC(1, token)` of the output thread. -/
def syncOnline (syncToken : UInt32) : Frame :=
  (⟨aSync, 1, syncToken + 1, 0, 0, aSync ^^^ 0xffffffff⟩, [])

/-- `SYNC(0, 0)` of the output thread. -/
def syncOffline : Frame := (⟨aSync, 0, 0, 0, 0, aSync ^^^ 0xffffffff⟩, [])

/-- The packets of a transport among what happens to the server, as far as `handle_packet` is
called for them. -/
def handled (transport : Nat) (labels : List (Step × Outside)) : List Message :=
  labels.flatMap fun label =>
    match label.1 with
    | .packet t message => if t = transport then [message] else []
    | _ => []

/-- The packets the main loop has sent on a transport, which are those its input thread reads. -/
def sentTo (transport : Nat) (server : Server) : List Message :=
  (server.sent.filter fun entry => entry.1 = transport).map Prod.snd

/-- The packets for which the branch for `A_SYNC` is taken. -/
def syncs (messages : List Message) : List Message :=
  messages.filter fun message => message.command = .sync

/-- The packet for which the branch for `A_SYNC` of the input thread is taken. -/
def InputAction.synced : InputAction → Option Message
  | .sync message => some message
  | .forward _ | .discard _ => none

/-- `send_auth_response` and `send_auth_publickey` send `A_AUTH` packets. -/
def AnswersAuth (_ : Server) (label : Step × Outside) : Prop :=
  ∀ answer, label.2.authAnswer = some answer → answer.command = .auth

/-- A stream is treated as the protocol demands: what the main loop gets between the two `SYNC`
packets of the output thread are the messages before the first bad one, and neither
`handle_packet` nor the input thread takes its branch for `A_SYNC` for anything but these two. -/
structure WireValid (stream : List UInt8) : Prop where
  passed : ∀ syncToken memory reads pipe, Readable reads →
    (outputThread syncToken memory { incoming := stream, reads } pipe).map Apacket.frame <+:
      syncOnline syncToken :: acceptable stream ++ [syncOffline]
  ended : ∀ syncToken memory reads pipe, Readable reads → (∀ ok ∈ pipe, ok = true) →
    (outputThread syncToken memory { incoming := stream, reads } pipe).map Apacket.frame =
      syncOnline syncToken :: acceptable stream ++ [syncOffline]
  internal : ∀ syncToken memory reads pipe, Readable reads →
    ∀ transport server labels server', Reachable ServerStep Server.start server →
      sentTo transport server = [] →
      Trace (Guarded ServerStep AnswersAuth) server labels server' →
      handled transport labels <+:
        (outputThread syncToken memory { incoming := stream, reads } pipe).map
          (fun p => p.frame.message) →
      syncs (handled transport labels) <+:
          [(syncOnline syncToken).message, syncOffline.message] ∧
        (inputThread (syncToken + 1).toNat false (sentTo transport server')).filterMap
            InputAction.synced <+:
          [(syncOnline syncToken).message, syncOffline.message]

/-! ## The output thread -/

theorem length_of_nextFrame {stream rest : List UInt8} {frame : Frame}
    (found : nextFrame stream = some (frame, rest)) : rest.length < stream.length := by
  simp only [nextFrame] at found
  split at found
  · rename_i starts
    simp only [Option.some.injEq, Prod.mk.injEq] at found
    have header := starts.1
    rw [← found.2, List.length_drop, List.length_drop]
    simp only [sizeofAmessage] at header ⊢
    omega
  · cases found

/-- The loop of the output thread passes on the messages of the stream, all of them unless
`write_packet` fails. -/
theorem outputLoop_spec (memory : Nat → Apacket) (rounds : Nat) (connection : Connection)
    (readable : Readable connection.reads) (pipe : List Bool) :
    ((outputLoop memory rounds connection pipe).1.map Apacket.frame <+:
        splitAll nextFrame rounds connection.incoming) ∧
      ((outputLoop memory rounds connection pipe).2 ≠ none →
        (outputLoop memory rounds connection pipe).1.map Apacket.frame =
          splitAll nextFrame rounds connection.incoming) ∧
      ((∀ ok ∈ pipe, ok = true) → connection.incoming.length < rounds →
        ∃ left, (outputLoop memory rounds connection pipe).2 = some left ∧
          ∀ ok ∈ left, ok = true) := by
  induction rounds generalizing connection pipe with
  | zero => simp [outputLoop]
  | succ rounds ih =>
      by_cases starts : StartsWithFrame connection.incoming
      · obtain ⟨q, connection', result, readable', split_eq⟩ :=
          remoteRead_of_startsWithFrame (memory rounds) readable starts
        obtain ⟨begins, complete, leaves⟩ := ih connection' readable' pipe.tail
        rw [outputLoop, result, splitAll, split_eq]
        by_cases ok : pipe.headD true
        · simp only [ok, if_true, List.map_cons]
          refine ⟨List.cons_prefix_cons.mpr ⟨rfl, begins⟩, fun ended => by rw [complete ended], ?_⟩
          intro all long
          have shorter := length_of_nextFrame split_eq
          exact leaves (fun ok member => all ok (List.mem_of_mem_tail member)) (by omega)
        · simp only [ok, Bool.false_eq_true, if_false]
          refine ⟨List.nil_prefix, fun ended => absurd rfl ended, fun all _ => ?_⟩
          cases pipe with
          | nil => simp at ok
          | cons first pipe => exact absurd (all first List.mem_cons_self) (by simpa using ok)
      · obtain ⟨connection', result⟩ :=
          remoteRead_of_not_startsWithFrame (memory rounds) readable starts
        rw [outputLoop, result, splitAll, nextFrame, if_neg starts]
        exact ⟨List.nil_prefix, fun _ => rfl, fun all _ => ⟨pipe, rfl, all⟩⟩

theorem frame_syncPacket (p : Apacket) (online token : UInt32) :
    (syncPacket p online token).frame =
      (⟨aSync, online, token, 0, 0, aSync ^^^ 0xffffffff⟩, []) := by
  simp [syncPacket, Apacket.frame, Apacket.payload]

/-- The output thread passes on all messages of the stream, whatever their commands. -/
theorem outputThread_begins (syncToken : UInt32) (memory : Nat → Apacket) {reads : List IoResult}
    (stream : List UInt8) (readable : Readable reads) (pipe : List Bool) :
    (outputThread syncToken memory { incoming := stream, reads } pipe).map Apacket.frame <+:
      syncOnline syncToken :: messagesOf stream ++ [syncOffline] := by
  obtain ⟨begins, complete, -⟩ := outputLoop_spec memory (stream.length + 1)
    { incoming := stream, reads } readable pipe.tail
  simp only [outputThread]
  split
  · cases loop : outputLoop memory (stream.length + 1) { incoming := stream, reads } pipe.tail with
    | mk packets left =>
        rw [loop] at begins complete
        have part : syncOnline syncToken :: packets.map Apacket.frame <+:
            syncOnline syncToken :: messagesOf stream ++ [syncOffline] :=
          List.cons_prefix_cons.mpr ⟨rfl, begins.trans (List.prefix_append _ _)⟩
        cases left with
        | none => simpa [frame_syncPacket, syncOnline] using part
        | some pipe =>
            simp only
            split
            · have all := complete (by simp)
              simp only at all
              simp [frame_syncPacket, syncOnline, syncOffline, all, messagesOf]
            · simpa [frame_syncPacket, syncOnline] using part
  · exact List.nil_prefix

theorem outputThread_eq (syncToken : UInt32) (memory : Nat → Apacket) {reads : List IoResult}
    (stream : List UInt8) (readable : Readable reads) {pipe : List Bool}
    (all : ∀ ok ∈ pipe, ok = true) :
    (outputThread syncToken memory { incoming := stream, reads } pipe).map Apacket.frame =
      syncOnline syncToken :: messagesOf stream ++ [syncOffline] := by
  have head_eq : ∀ {pipe : List Bool}, (∀ ok ∈ pipe, ok = true) → pipe.headD true = true := by
    intro pipe all
    cases pipe with
    | nil => rfl
    | cons first pipe => exact all first List.mem_cons_self
  obtain ⟨-, complete, leaves⟩ := outputLoop_spec memory (stream.length + 1)
    { incoming := stream, reads } readable pipe.tail
  obtain ⟨left, left_eq, all'⟩ := leaves
    (fun ok member => all ok (List.mem_of_mem_tail member)) (Nat.lt_succ_self _)
  have packets_eq := complete (by simp [left_eq])
  cases loop : outputLoop memory (stream.length + 1) { incoming := stream, reads } pipe.tail with
  | mk packets left' =>
      rw [loop] at left_eq packets_eq
      simp only at left_eq packets_eq
      simp only [outputThread, head_eq all, if_true, loop, left_eq, head_eq all']
      simp [frame_syncPacket, syncOnline, syncOffline, packets_eq, messagesOf]

/-! ## The main loop and the input thread -/

@[simp] theorem syncs_append (left right : List Message) :
    syncs (left ++ right) = syncs left ++ syncs right :=
  List.filter_append ..

theorem sentTo_sendPacket (transport other : Nat) (server : Server) (message : Message) :
    sentTo transport (server.sendPacket other message) =
      sentTo transport server ++ if other = transport then [message] else [] := by
  simp only [sentTo, Server.sendPacket, List.filter_append, List.map_append]
  by_cases same : other = transport <;> simp [same]

theorem syncs_sentTo_sendPacket {message : Message} (other : message.command ≠ .sync)
    (transport t : Nat) (server : Server) :
    syncs (sentTo transport (server.sendPacket t message)) = syncs (sentTo transport server) := by
  rw [sentTo_sendPacket, syncs_append]
  split <;> simp [syncs, other]

/-- What sockets send are no `SYNC` packets. -/
theorem syncs_sentTo_of_advances {server server' : Server} {heard : List Message}
    (advances : Sockets.Advances server server' heard) (transport : Nat) :
    syncs (sentTo transport server') = syncs (sentTo transport server) := by
  obtain ⟨extra, sent, isSocket⟩ := advances.sent
  have none : syncs ((extra.filter fun entry => entry.1 = transport).map Prod.snd) = [] := by
    rw [syncs, List.filter_eq_nil_iff]
    intro message member
    obtain ⟨entry, found, rfl⟩ := List.mem_map.mp member
    have command := (isSocket entry (List.mem_of_mem_filter found)).1
    simpa using command
  rw [sentTo, sent, List.filter_append, List.map_append, syncs_append, none, List.append_nil]
  rfl

theorem syncs_sentTo_handleOffline {server : Server} (consistent : Consistent server)
    (transport t : Nat) :
    syncs (sentTo transport (server.handleOffline t)) = syncs (sentTo transport server) := by
  have offline := consistent.modifyTransport t (fun t => { t with online := false }) fun _ => rfl
  exact syncs_sentTo_of_advances (Sockets.Effects.advances (Sockets.effects_foldl_close _ offline))
    transport

theorem syncs_sentTo_parseBanner {server : Server} (consistent : Consistent server)
    (transport t : Nat) (banner deviceList : List UInt8) :
    syncs (sentTo transport (server.parseBanner t banner deviceList)) =
      syncs (sentTo transport server) := by
  have told : ∀ state, syncs (sentTo transport ((server.modifyTransport t
      fun t => { t with connectionState := state }).updateTransports deviceList)) =
      syncs (sentTo transport server) := by
    intro state
    have set := consistent.modifyTransport t (fun t => { t with connectionState := state })
      fun _ => rfl
    exact syncs_sentTo_of_advances
      (Sockets.Effects.advances (Sockets.effects_updateTransports set deviceList)) transport
  rcases server.parseBanner_cases t banner deviceList with same | ⟨state, -, same⟩
  · rw [same]
    rfl
  · rw [same]
    exact told state

/-- `handle_packet` sends the `SYNC` packets it is given back, and no others. -/
theorem syncs_sentTo_handlePacket {server : Server} (consistent : Consistent server)
    (transport t : Nat) (message : Message) {outside : Outside}
    (answers : ∀ answer, outside.authAnswer = some answer → answer.command = .auth) :
    syncs (sentTo transport (server.handlePacket t message outside)) =
      syncs (sentTo transport server) ++ syncs (if t = transport then [message] else []) := by
  by_cases isSocket : message.IsSocket
  · have handles := Sockets.handles_handlePacket consistent t isSocket outside
    rw [syncs_sentTo_of_advances handles.advances transport]
    split <;> simp [syncs, isSocket.1]
  have logged : Consistent { server with
      received := server.received ++ [(t, message)], writes := outside.writes } :=
    consistent.congr (.of rfl fun _ => rfl)
  simp only [Server.handlePacket]
  cases command : message.command with
  | sync =>
      simp only [Server.handleSync]
      split
      · rw [Server.sendConnect, syncs_sentTo_sendPacket (by simp), sentTo_sendPacket, syncs_append]
        rfl
      · have offline := logged.modifyTransport t (fun t => { t with connectionState := .offline })
          fun _ => rfl
        rw [sentTo_sendPacket, syncs_append, syncs_sentTo_handleOffline offline]
        rfl
  | cnxn =>
      have offline := logged.modifyTransport t (fun t => { t with connectionState := .offline })
        fun _ => rfl
      have none : syncs (if t = transport then [message] else []) = [] := by
        split <;> simp [syncs, command]
      rw [none, List.append_nil]
      simp only [Server.handleConnect]
      split
      · exact syncs_sentTo_parseBanner logged transport t _ _
      · exact (syncs_sentTo_parseBanner (offline.handleOffline t) transport t _ _).trans
          (syncs_sentTo_handleOffline offline transport t)
  | auth =>
      have none : syncs (if t = transport then [message] else []) = [] := by
        split <;> simp [syncs, command]
      rw [none, List.append_nil]
      simp only [Server.handleAuth]
      cases answer : outside.authAnswer with
      | none =>
          simp only
          split <;> rfl
      | some reply =>
          simp only
          rw [syncs_sentTo_sendPacket (by simp [answers reply answer])]
          split <;> rfl
  | «open» | okay | clse | wrte | other => simp [Sockets.Message.IsSocket, command] at isSocket

/-- In every run the `SYNC` packets sent on a transport are those received on it. -/
theorem syncs_sentTo_of_trace {server server' : Server} {labels : List (Step × Outside)}
    (consistent : Consistent server)
    (trace : Trace (Guarded ServerStep AnswersAuth) server labels server') (transport : Nat) :
    Consistent server' ∧ syncs (sentTo transport server') =
      syncs (sentTo transport server) ++ syncs (handled transport labels) := by
  induction trace with
  | nil => exact ⟨consistent, by simp [handled, syncs]⟩
  | @snoc labels before after label _ last induction =>
      obtain ⟨consistent', before_eq⟩ := induction
      obtain ⟨answers, step⟩ := last
      refine ⟨consistent'.step step, ?_⟩
      rw [handled, List.flatMap_append, syncs_append, ← handled, ← List.append_assoc, ← before_eq]
      obtain ⟨step, outside⟩ := label
      obtain ⟨allowed, rfl⟩ := step
      cases step with
      | packet t message =>
          simpa [Step.apply] using
            syncs_sentTo_handlePacket consistent' transport t message answers
      | event | client | forward | closeAll | disconnect | update =>
          have effects := Sockets.effects_step consistent' allowed (by simp) outside
          simpa [syncs] using
            syncs_sentTo_of_advances (Sockets.Effects.advances effects) transport

/-- The input thread takes its branch for `A_SYNC` for `SYNC` packets only. -/
theorem inputThread_synced (syncToken : Nat) (active : Bool) (messages : List Message) :
    (inputThread syncToken active messages).filterMap InputAction.synced <+: syncs messages := by
  induction messages generalizing active with
  | nil => simp [inputThread]
  | cons message messages ih =>
      rw [inputThread]
      by_cases command : message.command = .sync
      · have head_eq : syncs (message :: messages) = message :: syncs messages := by
          simp [syncs, command]
        rw [head_eq, if_pos command]
        split
        · simp [InputAction.synced]
        · split <;> simpa [InputAction.synced] using ih _
      · have head_eq : syncs (message :: messages) = syncs messages := by
          simp [syncs, command]
        rw [head_eq, if_neg command]
        split <;> exact ih active

/-! ## Which streams are treated as the protocol demands -/

/-- A stream with a message of another command is passed on beyond it. -/
theorem WireValid.onWire {stream : List UInt8} (valid : WireValid stream) :
    ∀ frame ∈ messagesOf stream, OnWire (commandOf frame.1.command) := by
  have readable : Readable [] := by simp [Readable]
  have all : ∀ ok ∈ ([] : List Bool), ok = true := by simp
  have memory : Nat → Apacket :=
    fun _ => ⟨⟨0, 0, 0, 0, 0, 0⟩, List.replicate Sockets.maxPayload 0, List.length_replicate⟩
  have passed := valid.ended 0 memory [] [] readable all
  rw [outputThread_eq 0 memory stream readable all, List.append_left_inj, List.cons_inj_right,
    eq_comm, acceptable, List.takeWhile_eq_self_iff] at passed
  exact passed

/-- The output thread treats a stream as the protocol demands if and only if no message in it,
before the first malformed one, has a command other than the six of the protocol. -/
theorem wireValid_iff_onWire (stream : List UInt8) :
    WireValid stream ↔ ∀ frame ∈ messagesOf stream, OnWire (commandOf frame.1.command) := by
  refine ⟨WireValid.onWire, fun onWire => ?_⟩
  have acceptable_eq : acceptable stream = messagesOf stream :=
    List.takeWhile_eq_self_iff.mpr onWire
  refine ⟨?_, ?_, ?_⟩
  · intro syncToken memory reads pipe readable
    rw [acceptable_eq]
    exact outputThread_begins syncToken memory stream readable pipe
  · intro syncToken memory reads pipe readable all
    rw [acceptable_eq]
    exact outputThread_eq syncToken memory stream readable all
  · intro syncToken memory reads pipe readable transport server labels server' reachable unsent
      trace received
    have plain : syncs ((messagesOf stream).map Frame.message) = [] := by
      rw [syncs, List.filter_eq_nil_iff]
      intro message member
      obtain ⟨frame, found, rfl⟩ := List.mem_map.mp member
      have good := onWire frame found
      intro isSync
      rw [decide_eq_true_eq] at isSync
      have command : commandOf frame.1.command = .sync := isSync
      rw [command] at good
      cases good
    have begins := (outputThread_begins syncToken memory stream readable pipe).map Frame.message
    rw [List.map_map] at begins
    have whole : syncs ((syncOnline syncToken :: messagesOf stream ++ [syncOffline]).map
        Frame.message) = [(syncOnline syncToken).message, syncOffline.message] := by
      rw [List.map_append, List.map_cons, ← List.singleton_append, syncs_append, syncs_append,
        plain]
      rfl
    have own : syncs (handled transport labels) <+:
        [(syncOnline syncToken).message, syncOffline.message] := by
      rw [← whole]
      exact (received.trans begins).filter _
    have echoed := (syncs_sentTo_of_trace (Sockets.consistent_of_reachable reachable) trace
      transport).2
    rw [unsent] at echoed
    refine ⟨own, (inputThread_synced _ _ _).trans ?_⟩
    rw [echoed]
    exact own

/-- A header with the command `A_SYNC`, which the remote can send like any other. -/
def wireSync : Amessage := ⟨aSync, 0, 0, 0, 0, aSync ^^^ 0xffffffff⟩

/-- A remote takes a transport offline by a `SYNC` packet of its own. -/
theorem wireValid_fails_on_sync : ¬ WireValid wireSync.bytes := by
  intro valid
  have onWire := valid.onWire
  exact absurd (onWire (wireSync, []) (by decide)) (by decide)

end Wire
end AdbWide
