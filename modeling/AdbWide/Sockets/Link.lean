import AdbWide.Sockets.Lineage

/-!
# Two servers and the streams between them

The first transports of two servers are joined: the packets one of them sends arrive at the other
one by one and in order.  Whatever the servers do apart from that and in whichever order, what comes
out at one end of a stream is what went in at the other, and every `A_WRTE` packet waits for the
answer to the one before.
-/

namespace AdbWide
namespace Sockets

/-! ## The link -/

/-- A server whose first transport has been connected. -/
def Server.connected (state : ConnectionState) : Server :=
  Server.start.modifyTransport 0 fun t => { t with online := true, connectionState := state }

/-- The packets on their way from one server to another. -/
def inFlight (near far : Server) : List Message :=
  far.outbox.drop near.inbox.length

/-- Two servers, each at the other end of the first transport of the other. -/
structure Link where
  left : Server
  right : Server

inductive Side where
  | left
  | right
  deriving DecidableEq, Repr

/-- A packet that is handled is the next one on its way; other steps need no packet. -/
def Arrives (near far : Server) : Step → Prop
  | .packet transport message => transport = 0 ∧ (inFlight near far).head? = some message
  | _ => True

/-- One of the servers can do a step. -/
def Link.Possible (link : Link) : Side × Step × Outside → Prop
  | (.left, step, _) => Arrives link.left link.right step ∧ step.Allowed link.left
  | (.right, step, _) => Arrives link.right link.left step ∧ step.Allowed link.right

/-- One of the servers does a step. -/
def Link.apply (link : Link) : Side × Step × Outside → Link
  | (.left, step, outside) => { link with left := step.apply outside link.left }
  | (.right, step, outside) => { link with right := step.apply outside link.right }

/-- A step of the link. -/
def LinkStep (before : Link) (label : Side × Step × Outside) (after : Link) : Prop :=
  before.Possible label ∧ after = before.apply label

/-- The link before anything was sent. -/
def Link.connected (left right : ConnectionState) : Link :=
  ⟨.connected left, .connected right⟩

/-! ## What holds of both servers -/

/-- What the link itself sees to at one of its servers. -/
structure Joined (near far : Server) : Prop where
  consistent : Consistent near
  inbox : near.inbox <+: far.outbox
  isSocket : ∀ entry ∈ near.sent, entry.2.IsSocket

/-- The streams of one server are in order, and those it opened were accepted by the other. -/
structure Facing (near far : Server) : Prop where
  streaming : Streaming near
  answered : ∀ a mate, (near.history a).origin = .opened → (near.history a).mate = some mate →
    ∃ b, (far.history b).id = mate ∧ (far.history b).origin = .accepted ∧
      (far.history b).mate = some (near.history a).id

theorem Server.mem_outbox {server : Server} {message : Message} :
    message ∈ server.outbox ↔ (0, message) ∈ server.sent := by
  simp [Server.outbox]

theorem Numbered.id_ne_of_origin {server : Server} (numbered : Numbered server) {a : Nat}
    (origin : (server.history a).origin ≠ .none) : (server.history a).id ≠ 0 := by
  intro zero
  rw [numbered.blank a zero] at origin
  exact origin rfl

section Legit

variable {near far : Server} {message : Message}

/-- What has arrived, with the packet that comes next. -/
theorem Joined.next (joined : Joined near far) (next : (inFlight near far).head? = some message) :
    near.inbox ++ [message] <+: far.outbox := by
  obtain ⟨rest, equal⟩ := joined.inbox
  rw [inFlight, ← equal, List.drop_left] at next
  obtain ⟨later, rfl⟩ := List.head?_eq_some_iff.mp next
  exact ⟨later, by rw [← equal]; simp⟩

/-- The streams that one server accepted were opened by the other. -/
theorem Facing.opener (facing : Facing near far) (facing' : Facing far near)
    (joined : Joined near far) {a mate : Nat} (origin : (near.history a).origin = .accepted)
    (mated : (near.history a).mate = some mate) :
    ∃ b, (far.history b).id = mate ∧ (far.history b).id ≠ 0 ∧
      (far.history b).origin = .opened := by
  have asked := (facing.streaming.ends a).asked mate mated origin
  obtain ⟨rest, equal⟩ := joined.inbox
  refine facing'.streaming.spoken.opens_own mate ?_
  rw [← equal, opens_append]
  exact List.mem_append_left _ asked

/-- The sender of a packet of a stream, and the socket it is sent to. -/
theorem Facing.correspondents (facing : Facing near far) (facing' : Facing far near)
    (joined' : Joined far near) (sent : message ∈ far.outbox) (isStream : message.IsStream) :
    ∃ b a, (far.history b).id = message.arg0 ∧ (far.history b).id ≠ 0 ∧
      (far.history b).mate = some message.arg1 ∧ (near.history a).id = message.arg1 ∧
      (near.history a).id ≠ 0 ∧
        ((far.history b).origin = .accepted ∧ (near.history a).origin = .opened ∨
          (near.history a).origin = .accepted ∧ (near.history a).mate = some message.arg0) := by
  obtain ⟨b, id_b, nonzero_b, mated⟩ := facing'.streaming.spoken.words message sent isStream
  have some_origin := (facing'.streaming.ends b).mated (by simp [mated])
  cases origin : (far.history b).origin with
  | none => exact absurd origin some_origin
  | opened =>
      obtain ⟨a, id_a, accepted, mated_a⟩ := facing'.answered b _ origin mated
      have nonzero := facing.streaming.numbered.id_ne_of_origin (a := a) (by simp [accepted])
      exact ⟨b, a, id_b, nonzero_b, mated, id_a, nonzero, .inr ⟨accepted, by rw [mated_a, id_b]⟩⟩
  | accepted =>
      obtain ⟨a, id_a, nonzero, opened⟩ := facing'.opener facing joined' origin mated
      exact ⟨b, a, id_b, nonzero_b, mated, id_a, nonzero, .inl ⟨origin, opened⟩⟩

/-- The packets of the other server can be expected. -/
theorem Facing.legit (facing : Facing near far) (facing' : Facing far near)
    (joined : Joined near far) (joined' : Joined far near)
    (next : (inFlight near far).head? = some message) : Legit near message := by
  have arrived := joined.next next
  have sent : message ∈ far.outbox := arrived.subset (by simp)
  refine ⟨?_, ?_, ?_, ?_⟩
  · intro command member
    obtain ⟨rest, equal⟩ := arrived
    have nodup := facing'.streaming.spoken.opens_nodup
    rw [← equal, opens_append, opens_append] at nodup
    have nodup' := (List.nodup_append.mp nodup).1
    have disjoint := (List.nodup_append.mp nodup').2.2
    exact disjoint _ member _ (by simp [opens, command]) rfl
  · intro isStream zero
    obtain ⟨b, _, id_b, nonzero, _⟩ := facing.correspondents facing' joined' sent isStream
    exact nonzero (id_b.trans zero)
  · intro isStream
    obtain ⟨_, a, _, _, _, id_a, nonzero, origins⟩ :=
      facing.correspondents facing' joined' sent isStream
    refine ⟨a, id_a, nonzero, ?_⟩
    rcases origins with ⟨_, opened⟩ | ⟨accepted, _⟩
    · simp [opened]
    · simp [accepted]
  · intro command a s live id_a unmated
    obtain ⟨b, a', id_b, _, mated, id_a', nonzero, origins⟩ :=
      facing.correspondents facing' joined' sent (.inl command)
    have same := facing.streaming.numbered.unique a' a nonzero (id_a'.trans id_a.symm)
    subst same
    rcases origins with ⟨accepted, opened⟩ | ⟨_, mated_a⟩
    · obtain ⟨_, unheard⟩ := (facing.streaming.ends a').waiting opened unmated s live
      obtain ⟨_, earlier⟩ := (facing'.streaming.ends b).first _ mated accepted
      rw [← id_b]
      refine earlier near.inbox joined.inbox ?_
      rw [okays, List.countP_eq_zero]
      intro other member isOkay
      simp only [Message.isOkay, decide_eq_true_eq] at isOkay
      exact unheard other member isOkay.1 (isOkay.2.2.trans id_a.symm)
    · rw [unmated] at mated_a
      cases mated_a

end Legit

/-! ## Steps of one server -/

section Step

variable {near near' far far' : Server} {heard : List Message}

theorem Joined.advance (joined : Joined near far) (consistent' : Consistent near')
    (advances : Advances near near' heard) (arrived : near.inbox ++ heard <+: far.outbox) :
    Joined near' far :=
  ⟨consistent', by rwa [advances.inbox], advances.isSocket joined.isSocket⟩

theorem Joined.watch (joined : Joined near far) (advances : Advances far far' heard) :
    Joined near far' :=
  ⟨joined.consistent, joined.inbox.trans advances.outbox, joined.isSocket⟩

/-- A stream that gets its mate gets the one that accepted it. -/
theorem Facing.advance (facing : Facing near far) (facing' : Facing far near)
    (joined' : Joined far near) (streaming' : Streaming near')
    (lineage : ∀ c, Lineage heard (near.history c) (near'.history c))
    (arrived : near.inbox ++ heard <+: far.outbox) : Facing near' far := by
  refine ⟨streaming', fun a mate opened' mated' => ?_⟩
  rcases (lineage a).wed mate mated' with mated | accepted | ⟨unmated, message, member, okay⟩
  · have some_origin := (facing.streaming.ends a).mated (by simp [mated])
    have nonzero := facing.streaming.numbered.id_ne_of_origin some_origin
    rw [(lineage a).origin some_origin] at opened'
    rw [(lineage a).id nonzero]
    exact facing.answered a mate opened' mated
  · rw [opened'] at accepted
    cases accepted
  · obtain ⟨isOkay, arg0, arg1⟩ := okay
    have sent : message ∈ far.outbox := arrived.subset (List.mem_append_right _ member)
    obtain ⟨b, c, id_b, _, mated, id_c, nonzero, origins⟩ :=
      facing.correspondents facing' joined' sent (.inl isOkay)
    have same := facing.streaming.numbered.unique c a nonzero (id_c.trans arg1)
    subst same
    rcases origins with ⟨accepted, _⟩ | ⟨_, mated_c⟩
    · exact ⟨b, id_b.trans arg0, accepted, by rw [(lineage c).id nonzero, mated, arg1]⟩
    · rw [unmated] at mated_c
      cases mated_c

theorem Facing.watch (facing : Facing near far) (facing' : Facing far near)
    (lineage : ∀ c, Lineage heard (far.history c) (far'.history c)) : Facing near far' := by
  refine ⟨facing.streaming, fun a mate opened mated => ?_⟩
  obtain ⟨b, id_b, accepted, mated_b⟩ := facing.answered a mate opened mated
  have some_origin : (far.history b).origin ≠ .none := by simp [accepted]
  have nonzero := facing'.streaming.numbered.id_ne_of_origin some_origin
  exact ⟨b, by rw [(lineage b).id nonzero, id_b],
    by rw [(lineage b).origin some_origin, accepted], (lineage b).mate _ mated_b⟩

/-- Both servers are joined, and as long as ids are not used again they face each other. -/
structure Pair (near far : Server) : Prop where
  joined : Joined near far
  joined' : Joined far near
  facing : near.installs < 2 ^ 32 - 1 → far.installs < 2 ^ 32 - 1 →
    Facing near far ∧ Facing far near

theorem Pair.symm (pair : Pair near far) : Pair far near :=
  ⟨pair.joined', pair.joined, fun few few' => (pair.facing few' few).symm⟩

theorem Pair.advance (pair : Pair near far) (consistent' : Consistent near')
    (advances : Advances near near' heard) (arrived : near.inbox ++ heard <+: far.outbox)
    (keeps : Facing near far → Facing far near → near'.installs < 2 ^ 32 - 1 →
      Streaming near' ∧ ∀ c, Lineage heard (near.history c) (near'.history c)) :
    Pair near' far := by
  refine ⟨pair.joined.advance consistent' advances arrived, pair.joined'.watch advances, ?_⟩
  intro few few'
  have fewer := advances.installs
  obtain ⟨facing, facing'⟩ := pair.facing (by omega) few'
  obtain ⟨streaming', lineage⟩ := keeps facing facing' few
  exact ⟨facing.advance facing' pair.joined' streaming' lineage arrived,
    facing'.watch facing lineage⟩

theorem Pair.step {step : Step} (pair : Pair near far) (arrives : Arrives near far step)
    (allowed : step.Allowed near) (outside : Outside) : Pair (step.apply outside near) far := by
  have consistent := pair.joined.consistent
  have taken : ServerStep near (step, outside) (step.apply outside near) := ⟨allowed, rfl⟩
  have consistent' := consistent.step taken
  cases step with
  | packet transport message =>
      obtain ⟨rfl, next⟩ := arrives
      have arrived := pair.joined.next next
      have sent : message ∈ far.outbox := arrived.subset (by simp)
      have isSocket := pair.joined'.isSocket _ (Server.mem_outbox.mp sent)
      have handles := handles_handlePacket consistent 0 isSocket outside
      refine pair.advance consistent' handles.advances arrived fun facing facing' few => ?_
      have legit := facing.legit facing' pair.joined pair.joined' next
      exact ⟨facing.streaming.handles consistent legit handles few,
        handles.lineage facing.streaming consistent legit few⟩
  | event | client | forward | closeAll | disconnect | update =>
      have effects := effects_step consistent allowed (by simp) outside
      refine pair.advance consistent' (Effects.advances effects)
        (by rw [List.append_nil]; exact pair.joined.inbox) fun facing _ few => ?_
      exact ⟨facing.streaming.effects consistent effects few,
        Effects.lineage effects facing.streaming consistent few⟩

end Step

/-! ## Every link is in order -/

theorem streaming_connected (state : ConnectionState) : Streaming (.connected state) := by
  have blank : ∀ a, (Server.connected state).history a = {} := fun _ => rfl
  have dead : ∀ a, (Server.connected state).sockets a = none := fun _ => rfl
  have unsent : (Server.connected state).outbox = [] := rfl
  have unheard : (Server.connected state).inbox = [] := rfl
  have numbered : Numbered (.connected state) := by
    refine ⟨rfl, ?_, ?_, ?_, ?_, ?_, ?_⟩ <;> simp [blank, dead]
  have spoken : Spoken (.connected state) := by
    have online : ((Server.connected state).transports 0).online = true := by
      simp [Server.connected, Server.modifyTransport]
    refine ⟨online, ?_, ?_, ?_, ?_, ?_, ?_⟩ <;> simp [blank, dead, unsent, unheard, opens]
  exact ⟨⟨numbered, spoken, by simp [Unwritten, dead]⟩, fun _ => streamOk_of_none rfl rfl⟩

theorem pair_connected (left right : ConnectionState) :
    Pair (.connected left) (.connected right) := by
  have joined : ∀ near far, Joined (.connected near) (.connected far) := fun near far =>
    ⟨consistent_start.modifyTransport 0 _ fun _ => rfl, List.prefix_refl _,
      by simp [Server.connected, Server.modifyTransport, Server.start]⟩
  have facing : ∀ near far, Facing (.connected near) (.connected far) := fun near far =>
    ⟨streaming_connected near, by simp [Server.connected, Server.modifyTransport, Server.start]⟩
  exact ⟨joined left right, joined right left, fun _ _ => ⟨facing left right, facing right left⟩⟩

theorem pair_of_reachable {left right : ConnectionState} {link : Link}
    (reachable : Reachable LinkStep (.connected left right) link) : Pair link.left link.right := by
  refine reachable.invariant (fun link => Pair link.left link.right) (pair_connected left right) ?_
  rintro before ⟨side, step, outside⟩ after pair taken
  obtain ⟨possible, rfl⟩ := taken
  cases side with
  | left => exact pair.step possible.1 possible.2 outside
  | right => exact (pair.symm.step possible.1 possible.2 outside).symm

/-! ## Streams between the servers -/

/-- How many `A_WRTE` packets one end of a stream has sent that are not answered yet.  The first
`A_OKAY` packet that comes to the end that opened the stream answers its `A_OPEN` packet. -/
def unansweredWrites (near : Server) (h k : History) : Nat :=
  wrtes h.id k.id near.outbox -
    (okays k.id h.id near.inbox - if h.origin = .opened then 1 else 0)

/-- What comes out at one end of a stream went in at the other, and at most one `A_WRTE` packet
waits for its answer. -/
structure Flows (near far : Server) (h k : History) : Prop where
  written : k.output <+: h.input
  unanswered : unansweredWrites near h k ≤ 1
  /-- There is an answer only to the `A_OPEN` packet and to the `A_WRTE` packets that arrived. -/
  answers : okays k.id h.id far.outbox ≤
    (if h.origin = .opened then 1 else 0) + wrtes h.id k.id far.inbox

/-- The streams that one server opened and the other accepted flow both ways. -/
def StreamsFlow (opener acceptor : Server) : Prop :=
  ∀ a b, (opener.history a).origin = .opened → (acceptor.history b).origin = .accepted →
    (acceptor.history b).mate = some (opener.history a).id →
      Flows opener acceptor (opener.history a) (acceptor.history b) ∧
        Flows acceptor opener (acceptor.history b) (opener.history a)

section Flows

variable {near far : Server} {a b : Nat}

/-- A stream without a mate has sent nothing. -/
theorem Facing.silent (facing : Facing near far) (unmated : (near.history a).mate = none) :
    Silent (near.history a).id near.outbox := by
  intro message member isStream sender
  obtain ⟨c, id_c, nonzero, mated⟩ := facing.streaming.spoken.words message member isStream
  have same := facing.streaming.numbered.unique c a nonzero (id_c.trans sender)
  rw [same, unmated] at mated
  cases mated

/-- The mate of the socket that opened a stream is the one that accepted it. -/
theorem Facing.mate_eq (facing : Facing near far) (facing' : Facing far near) {mate : Nat}
    (opened : (near.history a).origin = .opened) (accepted : (far.history b).origin = .accepted)
    (mated_b : (far.history b).mate = some (near.history a).id)
    (mated : (near.history a).mate = some mate) : mate = (far.history b).id := by
  obtain ⟨c, id_c, accepted_c, mated_c⟩ := facing.answered a mate opened mated
  have same := facing'.streaming.spoken.accepted_unique c b accepted_c accepted
    (mated_c.trans mated_b.symm)
  rw [← id_c, same]

/-- From the end that opened the stream to the end that accepted it. -/
theorem Facing.flows_forth (facing : Facing near far) (facing' : Facing far near)
    (joined' : Joined far near) (opened : (near.history a).origin = .opened)
    (accepted : (far.history b).origin = .accepted)
    (mated_b : (far.history b).mate = some (near.history a).id) :
    Flows near far (near.history a) (far.history b) := by
  have ok_b := facing'.streaming.ends b
  have arrived : (far.history b).output <+:
      data (near.history a).id (far.history b).id near.outbox :=
    (ok_b.output _ mated_b).trans (data_mono joined'.inbox)
  have answers := ok_b.answers _ mated_b
  simp only [credit, accepted, if_true] at answers
  cases mated : (near.history a).mate with
  | none =>
      have silent := facing.silent mated
      rw [data_of_wrtes silent.wrtes_eq, List.prefix_nil] at arrived
      refine ⟨by simp [arrived], ?_, ?_⟩
      · rw [unansweredWrites, silent.wrtes_eq]
        omega
      · rw [opened, if_pos rfl]
        omega
  | some mate =>
      have ok_a := facing.streaming.ends a
      have same := facing.mate_eq facing' opened accepted mated_b mated
      rw [same] at mated
      have sends := ok_a.sends _ mated
      simp only [credit, opened, reduceCtorEq, if_false] at sends
      refine ⟨by rwa [ok_a.input _ mated], ?_, ?_⟩
      · rw [unansweredWrites, opened, if_pos rfl]
        omega
      · rw [opened, if_pos rfl]
        omega

/-- From the end that accepted the stream to the end that opened it. -/
theorem Facing.flows_back (facing : Facing near far) (facing' : Facing far near)
    (joined : Joined near far) (opened : (near.history a).origin = .opened)
    (accepted : (far.history b).origin = .accepted)
    (mated_b : (far.history b).mate = some (near.history a).id) :
    Flows far near (far.history b) (near.history a) := by
  have ok_a := facing.streaming.ends a
  have ok_b := facing'.streaming.ends b
  have sends := ok_b.sends _ mated_b
  simp only [credit, accepted, if_true] at sends
  have unanswered : unansweredWrites far (far.history b) (near.history a) ≤ 1 := by
    simp only [unansweredWrites, accepted, reduceCtorEq, if_false]
    omega
  cases mated : (near.history a).mate with
  | none =>
      obtain ⟨_, unwritten⟩ := ok_a.fresh opened mated
      refine ⟨by simp [unwritten], unanswered, ?_⟩
      rw [(facing.silent mated).okays_eq]
      exact Nat.zero_le _
  | some mate =>
      have same := facing.mate_eq facing' opened accepted mated_b mated
      rw [same] at mated
      have answers := ok_a.answers _ mated
      simp only [credit, opened, reduceCtorEq, if_false] at answers
      refine ⟨?_, unanswered, ?_⟩
      · rw [ok_b.input _ mated_b]
        exact (ok_a.output _ mated).trans (data_mono joined.inbox)
      · simp only [accepted, reduceCtorEq, if_false]
        omega

end Flows

theorem Pair.streamsFlow {near far : Server} (pair : Pair near far)
    (few : near.installs < 2 ^ 32 - 1) (few' : far.installs < 2 ^ 32 - 1) :
    StreamsFlow near far := by
  obtain ⟨facing, facing'⟩ := pair.facing few few'
  intro a b opened accepted mated
  exact ⟨facing.flows_forth facing' pair.joined' opened accepted mated,
    facing.flows_back facing' pair.joined opened accepted mated⟩

/-- Whatever two servers do, in whichever order, the streams between them carry the bytes that were
read at one end in order to the other, and at most one `A_WRTE` packet of each end is not answered,
as long as fewer than `2^32 - 1` local sockets are made. -/
theorem streams_flow {left right : ConnectionState} {link : Link}
    (reachable : Reachable LinkStep (.connected left right) link)
    (few : link.left.installs < 2 ^ 32 - 1) (few' : link.right.installs < 2 ^ 32 - 1) :
    StreamsFlow link.left link.right ∧ StreamsFlow link.right link.left := by
  have pair := pair_of_reachable reachable
  exact ⟨pair.streamsFlow few few', pair.symm.streamsFlow few' few⟩

/-! ## A run of the link -/

instance (server : Server) : (step : Step) → Decidable (step.Allowed server)
  | .event address write read =>
      decidable_of_iff ((server.sockets address).any fun s => s.kind = .localSocket ∧
          (write = true → s.wantWrite = true) ∧
          (read = true → s.wantRead = true ∨ s.closing = true)) (by
        cases live : server.sockets address <;> cases write <;> cases read <;>
          simp [Step.Allowed, live])
  | .forward _ destination =>
      inferInstanceAs (Decidable (destination.length + 1 ≤ maxPayload - 1))
  | .packet .. | .client | .closeAll _ | .disconnect _ | .update => .isTrue trivial

instance (near far : Server) : (step : Step) → Decidable (Arrives near far step)
  | .packet transport message =>
      inferInstanceAs (Decidable (transport = 0 ∧ (inFlight near far).head? = some message))
  | .event .. | .client | .forward .. | .closeAll _ | .disconnect _ | .update => .isTrue trivial

instance (link : Link) : (label : Side × Step × Outside) → Decidable (link.Possible label)
  | (.left, step, _) =>
      inferInstanceAs (Decidable (Arrives link.left link.right step ∧ step.Allowed link.left))
  | (.right, step, _) =>
      inferInstanceAs (Decidable (Arrives link.right link.left step ∧ step.Allowed link.right))

/-- The link after a list of steps, if all of them are possible. -/
def Link.run (link : Link) : List (Side × Step × Outside) → Option Link
  | [] => some link
  | label :: labels => if link.Possible label then (link.apply label).run labels else none

theorem Link.reachable_run {initial link final : Link} {labels : List (Side × Step × Outside)}
    (reachable : Reachable LinkStep initial link) (runs : link.run labels = some final) :
    Reachable LinkStep initial final := by
  induction labels generalizing link with
  | nil =>
      cases runs
      exact reachable
  | cons label labels induction =>
      simp only [Link.run] at runs
      split at runs
      · rename_i possible
        obtain ⟨earlier, trace⟩ := reachable
        exact induction ⟨earlier ++ [label], .snoc trace ⟨possible, rfl⟩⟩ runs
      · cases runs

/-- The left server forwards a connection and reads two bytes from it.  At the right server one of
them is written, the other has to wait. -/
def exchange : List (Side × Step × Outside) :=
  [(.left, .forward 0 [], {}), (.right, .packet 0 ⟨.open, 1, 0, [0]⟩, {}),
    (.left, .packet 0 ⟨.okay, 1, 1, []⟩, {}),
    (.left, .event 0 false true, { reads := [.got 104 [105]] }),
    (.right, .packet 0 ⟨.wrte, 1, 1, [104, 105]⟩, { writes := [.wrote 0, .again] })]

/-- The link after these steps. -/
def exchanged : Link :=
  ((Link.connected .device .host).run exchange).get (by decide)

theorem reachable_exchanged : Reachable LinkStep (.connected .device .host) exchanged :=
  Link.reachable_run ⟨[], .nil⟩ (Option.some_get _).symm

theorem streams_flow_exchanged :
    (exchanged.left.history 0).input = [104, 105] ∧ (exchanged.right.history 0).output = [104] ∧
      unansweredWrites exchanged.left (exchanged.left.history 0) (exchanged.right.history 0) = 1 ∧
      Flows exchanged.left exchanged.right (exchanged.left.history 0) (exchanged.right.history 0) ∧
      Flows exchanged.right exchanged.left (exchanged.right.history 0) (exchanged.left.history 0) :=
  ⟨by decide, by decide, by decide,
    (streams_flow reachable_exchanged (by decide) (by decide)).1 0 0
      (by decide) (by decide) (by decide)⟩

end Sockets
end AdbWide
