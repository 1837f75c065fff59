import AdbWide.Sockets.Reachability

/-!
# One end of a stream

What a local socket knows about its stream is its history, the packets that were received and the
packets that were sent.  `StreamOk` says how they fit together: data is read only with leave of the
other end, what was read is what was sent, what was received has been written or waits in the queue,
and no more packets are answered than were received.
-/

namespace AdbWide
namespace Sockets

/-! ## Logs of packets -/

/-- An `A_OKAY` packet from one socket to another. -/
def Message.isOkay (sender receiver : Nat) (message : Message) : Bool :=
  message.command = .okay ∧ message.arg0 = sender ∧ message.arg1 = receiver

/-- An `A_WRTE` packet from one socket to another. -/
def Message.isWrte (sender receiver : Nat) (message : Message) : Bool :=
  message.command = .wrte ∧ message.arg0 = sender ∧ message.arg1 = receiver

/-- The number of `A_OKAY` packets from one socket to another. -/
def okays (sender receiver : Nat) (log : List Message) : Nat :=
  log.countP (Message.isOkay sender receiver)

/-- The number of `A_WRTE` packets from one socket to another. -/
def wrtes (sender receiver : Nat) (log : List Message) : Nat :=
  log.countP (Message.isWrte sender receiver)

/-- The bytes in the `A_WRTE` packets from one socket to another. -/
def data (sender receiver : Nat) (log : List Message) : List UInt8 :=
  (log.filter (Message.isWrte sender receiver)).flatMap Message.payload

/-- The ids in the `A_OPEN` packets. -/
def opens (log : List Message) : List Nat :=
  (log.filter fun message => message.command = .open).map Message.arg0

/-- A packet is an `A_OKAY` or `A_WRTE` packet. -/
def Message.IsStream (message : Message) : Prop :=
  message.command = .okay ∨ message.command = .wrte

/-- No `A_OKAY` or `A_WRTE` packet is from the given socket. -/
def Silent (sender : Nat) (log : List Message) : Prop :=
  ∀ message ∈ log, message.IsStream → message.arg0 ≠ sender

variable {sender receiver : Nat} {log more : List Message} {message : Message}

theorem okays_append : okays sender receiver (log ++ more) =
    okays sender receiver log + okays sender receiver more :=
  List.countP_append

theorem wrtes_append : wrtes sender receiver (log ++ more) =
    wrtes sender receiver log + wrtes sender receiver more :=
  List.countP_append

theorem data_append : data sender receiver (log ++ more) =
    data sender receiver log ++ data sender receiver more := by
  simp [data]

theorem opens_append : opens (log ++ more) = opens log ++ opens more := by
  simp [opens]

theorem Silent.okays_eq (silent : Silent sender log) : okays sender receiver log = 0 := by
  rw [okays, List.countP_eq_zero]
  intro message member isOkay
  simp only [Message.isOkay, decide_eq_true_eq] at isOkay
  exact silent message member (.inl isOkay.1) isOkay.2.1

theorem Silent.wrtes_eq (silent : Silent sender log) : wrtes sender receiver log = 0 := by
  rw [wrtes, List.countP_eq_zero]
  intro message member isWrte
  simp only [Message.isWrte, decide_eq_true_eq] at isWrte
  exact silent message member (.inr isWrte.1) isWrte.2.1

theorem data_of_wrtes (none_sent : wrtes sender receiver log = 0) :
    data sender receiver log = [] := by
  rw [wrtes, List.countP_eq_zero] at none_sent
  simp only [data, List.filter_eq_nil_iff.mpr none_sent, List.flatMap_nil]

theorem data_mono (part : log <+: more) :
    data sender receiver log <+: data sender receiver more := by
  obtain ⟨rest, rfl⟩ := part
  rw [data_append]
  exact List.prefix_append _ _

theorem wrtes_mono (part : log <+: more) :
    wrtes sender receiver log ≤ wrtes sender receiver more := by
  obtain ⟨rest, rfl⟩ := part
  rw [wrtes_append]
  omega

theorem okays_mono (part : log <+: more) :
    okays sender receiver log ≤ okays sender receiver more := by
  obtain ⟨rest, rfl⟩ := part
  rw [okays_append]
  omega

/-! ## One packet more -/

section One

variable {s r : Nat} {payload : List UInt8}

theorem okays_okay : okays s r [⟨.okay, s, r, payload⟩] = 1 := by
  simp [okays, Message.isOkay]

theorem okays_wrte {s' r' : Nat} : okays s r [⟨.wrte, s', r', payload⟩] = 0 := by
  simp [okays, Message.isOkay]

theorem wrtes_wrte : wrtes s r [⟨.wrte, s, r, payload⟩] = 1 := by
  simp [wrtes, Message.isWrte]

theorem wrtes_okay {s' r' : Nat} : wrtes s r [⟨.okay, s', r', payload⟩] = 0 := by
  simp [wrtes, Message.isWrte]

theorem data_wrte : data s r [⟨.wrte, s, r, payload⟩] = payload := by
  simp [data, Message.isWrte]

theorem data_okay {s' r' : Nat} : data s r [⟨.okay, s', r', payload⟩] = [] := by
  simp [data, Message.isWrte]

end One

/-! ## What holds at one end of a stream -/

/-- One if the socket may read its file descriptor. -/
def reading : Option Asocket → Nat
  | some s => if s.wantRead then 1 else 0
  | none => 0

/-- One if the socket has packets left to write. -/
def unanswered : Option Asocket → Nat
  | some s => if s.queue.first.isSome then 1 else 0
  | none => 0

/-- The socket that accepted a stream may send, and has answered, one packet before any other. -/
def credit (h : History) : Nat :=
  if h.origin = .accepted then 1 else 0

/-- The history of a socket fits what was received and sent. -/
structure StreamOk (h : History) (socket : Option Asocket) (inbox outbox : List Message) :
    Prop where
  mated : h.mate ≠ none → h.origin ≠ .none
  accepted : h.origin = .accepted → h.mate ≠ none
  unpeered : ∀ s, socket = some s → s.closing = false → s.peer = none → h.mate = none
  fresh : h.origin = .opened → h.mate = none → h.input = [] ∧ h.output = []
  waiting : h.origin = .opened → h.mate = none → ∀ s, socket = some s →
    s.queue.first = none ∧ ∀ message ∈ inbox, message.command = .okay → message.arg1 ≠ h.id
  input : ∀ mate, h.mate = some mate → h.input = data h.id mate outbox
  sends : ∀ mate, h.mate = some mate →
    wrtes h.id mate outbox + reading socket ≤ credit h + okays mate h.id inbox
  output : ∀ mate, h.mate = some mate → h.output <+: data mate h.id inbox
  backlog : ∀ mate s packets, h.mate = some mate → socket = some s →
    s.queue.Represents packets →
      h.output ++ packets.flatten <+: data mate h.id inbox ∧
        (s.closing = false → h.output ++ packets.flatten = data mate h.id inbox)
  answers : ∀ mate, h.mate = some mate →
    okays h.id mate outbox + unanswered socket ≤ credit h + wrtes mate h.id inbox
  opened : ∀ mate, h.mate = some mate → h.origin = .opened → 0 < okays mate h.id inbox
  asked : ∀ mate, h.mate = some mate → h.origin = .accepted → mate ∈ opens inbox
  first : ∀ mate, h.mate = some mate → h.origin = .accepted →
    0 < okays h.id mate outbox ∧
      ∀ part, part <+: outbox → okays h.id mate part = 0 → wrtes h.id mate part = 0

/-- A socket without a stream has nothing to fit. -/
theorem streamOk_of_none {h : History} {socket : Option Asocket} {inbox outbox : List Message}
    (origin : h.origin = .none) (unmated : h.mate = none) : StreamOk h socket inbox outbox where
  mated := by simp [unmated]
  accepted := by simp [origin]
  unpeered := fun _ _ _ _ => unmated
  fresh := by simp [origin]
  waiting := by simp [origin]
  input := by simp [unmated]
  sends := by simp [unmated]
  output := by simp [unmated]
  backlog := by simp [unmated]
  answers := by simp [unmated]
  opened := by simp [unmated]
  asked := by simp [unmated]
  first := by simp [unmated]

/-- A socket goes on, reads less, or comes to its end. -/
inductive Milder : Option Asocket → Option Asocket → Prop where
  | gone {before : Option Asocket} : Milder before none
  | goesOn {s s' : Asocket} : s'.closing = s.closing → s'.peer = s.peer → s'.queue = s.queue →
      (s'.wantRead = true → s.wantRead = true) → Milder (some s) (some s')
  | lingers {s s' : Asocket} : s'.closing = true → s'.queue = s.queue → s'.wantRead = false →
      s.queue.first ≠ none → Milder (some s) (some s')

theorem Milder.refl (socket : Option Asocket) : Milder socket socket := by
  cases socket with
  | none => exact .gone
  | some s => exact .goesOn rfl rfl rfl id

theorem Milder.reading_le {before after : Option Asocket} (milder : Milder before after) :
    reading after ≤ reading before := by
  cases milder with
  | gone => simp [reading]
  | @goesOn s s' _ _ _ reads =>
      cases wants : s'.wantRead with
      | true => simp [reading, wants, reads wants]
      | false => simp [reading, wants]
  | lingers _ _ unread _ => simp [reading, unread]

theorem Milder.unanswered_le {before after : Option Asocket} (milder : Milder before after) :
    unanswered after ≤ unanswered before := by
  cases milder with
  | gone => simp [unanswered]
  | goesOn _ _ queue _ => simp [unanswered, queue]
  | lingers _ queue _ _ => simp [unanswered, queue]

/-- What was left of a socket in its stream. -/
theorem Milder.before {before : Option Asocket} {s' : Asocket} (milder : Milder before (some s')) :
    ∃ s, before = some s ∧ s'.queue = s.queue ∧
      (s'.closing = false → s.closing = false ∧ s'.peer = s.peer) := by
  cases milder with
  | goesOn closing peer queue _ => exact ⟨_, rfl, queue, fun stillOpen =>
      ⟨closing ▸ stillOpen, peer⟩⟩
  | lingers closing queue _ _ =>
      refine ⟨_, rfl, queue, fun stillOpen => ?_⟩
      rw [closing] at stillOpen
      cases stillOpen

/-! ## Other packets -/

/-- As long as nothing was answered nothing was sent, also after more packets. -/
theorem noWrte_before {part : List Message} (answered : 0 < okays sender receiver log)
    (earlier : ∀ part, part <+: log → okays sender receiver part = 0 →
      wrtes sender receiver part = 0)
    (short : part <+: log ++ more) (none_yet : okays sender receiver part = 0) :
    wrtes sender receiver part = 0 := by
  rcases List.prefix_or_prefix_of_prefix short (List.prefix_append log more) with inside | longer
  · exact earlier part inside none_yet
  · have answered_too : okays sender receiver log ≤ okays sender receiver part := okays_mono longer
    omega

section StreamOk

variable {h : History} {socket socket' : Option Asocket} {inbox outbox : List Message}

/-- More packets from the peer let the socket send no less. -/
theorem StreamOk.sends_append (ok : StreamOk h socket inbox outbox) (more : List Message)
    (mate : Nat) (mated : h.mate = some mate) :
    wrtes h.id mate outbox + reading socket ≤ credit h + okays mate h.id (inbox ++ more) := by
  have less := ok.sends mate mated
  rw [okays_append]
  omega

theorem StreamOk.opened_append (ok : StreamOk h socket inbox outbox) (more : List Message)
    (mate : Nat) (mated : h.mate = some mate) (origin : h.origin = .opened) :
    0 < okays mate h.id (inbox ++ more) := by
  have before := ok.opened mate mated origin
  rw [okays_append]
  omega

theorem StreamOk.asked_append (ok : StreamOk h socket inbox outbox) (more : List Message)
    (mate : Nat) (mated : h.mate = some mate) (origin : h.origin = .accepted) :
    mate ∈ opens (inbox ++ more) := by
  rw [opens_append]
  exact List.mem_append_left _ (ok.asked mate mated origin)

/-- What a stream was answered with first stays, whatever else is sent. -/
theorem StreamOk.first_append (ok : StreamOk h socket inbox outbox) (more : List Message)
    (mate : Nat) (mated : h.mate = some mate) (origin : h.origin = .accepted) :
    0 < okays h.id mate (outbox ++ more) ∧
      ∀ part, part <+: outbox ++ more → okays h.id mate part = 0 → wrtes h.id mate part = 0 := by
  obtain ⟨answered, earlier⟩ := ok.first mate mated origin
  refine ⟨?_, fun part short none_yet => noWrte_before answered earlier short none_yet⟩
  rw [okays_append]
  omega

/-- The socket reads less or comes to its end, and others send packets. -/
theorem StreamOk.frame {extra : List Message} (ok : StreamOk h socket inbox outbox)
    (milder : Milder socket socket') (silent : Silent h.id extra) :
    StreamOk h socket' inbox (outbox ++ extra) where
  mated := ok.mated
  accepted := ok.accepted
  unpeered := by
    rintro s' rfl stillOpen unpeered
    obtain ⟨s, rfl, _, rest⟩ := milder.before
    obtain ⟨stillOpen', peer⟩ := rest stillOpen
    exact ok.unpeered s rfl stillOpen' (by rw [← peer, unpeered])
  fresh := ok.fresh
  waiting := by
    rintro origin unmated s' rfl
    obtain ⟨s, rfl, queue, _⟩ := milder.before
    rw [queue]
    exact ok.waiting origin unmated s rfl
  input := by
    intro mate mated
    rw [data_append, data_of_wrtes silent.wrtes_eq, List.append_nil]
    exact ok.input mate mated
  sends := by
    intro mate mated
    have before := ok.sends mate mated
    have less := milder.reading_le
    rw [wrtes_append, silent.wrtes_eq]
    omega
  output := ok.output
  backlog := by
    rintro mate s' packets mated rfl represents
    obtain ⟨s, rfl, queue, rest⟩ := milder.before
    rw [queue] at represents
    obtain ⟨part, whole⟩ := ok.backlog mate s packets mated rfl represents
    exact ⟨part, fun stillOpen => whole (rest stillOpen).1⟩
  answers := by
    intro mate mated
    have before := ok.answers mate mated
    have less := milder.unanswered_le
    rw [okays_append, silent.okays_eq]
    omega
  opened := ok.opened
  asked := ok.asked
  first := ok.first_append extra

/-- A packet arrives that is not for the socket, or finds it past hearing. -/
theorem StreamOk.hear (ok : StreamOk h socket inbox outbox) (message : Message)
    (unheard : ∀ mate s, h.mate = some mate → socket = some s → s.closing = false →
      message.isWrte mate h.id = false)
    (unanswered : h.origin = .opened → h.mate = none → ∀ s, socket = some s →
      message.command = .okay → message.arg1 ≠ h.id) :
    StreamOk h socket (inbox ++ [message]) outbox where
  mated := ok.mated
  accepted := ok.accepted
  unpeered := ok.unpeered
  fresh := ok.fresh
  waiting := by
    intro origin unmated s live
    obtain ⟨unqueued, before⟩ := ok.waiting origin unmated s live
    refine ⟨unqueued, fun other member isOkay => ?_⟩
    rcases List.mem_append.mp member with earlier | latest
    · exact before other earlier isOkay
    · rw [List.mem_singleton.mp latest] at isOkay ⊢
      exact unanswered origin unmated s live isOkay
  input := ok.input
  sends := ok.sends_append [message]
  output := by
    intro mate mated
    exact (ok.output mate mated).trans (data_mono (List.prefix_append _ _))
  backlog := by
    intro mate s packets mated live represents
    obtain ⟨part, whole⟩ := ok.backlog mate s packets mated live represents
    refine ⟨part.trans (data_mono (List.prefix_append _ _)), fun stillOpen => ?_⟩
    have nothing : data mate h.id [message] = [] := by
      simp [data, unheard mate s mated live stillOpen]
    rw [data_append, nothing, List.append_nil]
    exact whole stillOpen
  answers := by
    intro mate mated
    have before := ok.answers mate mated
    rw [wrtes_append]
    omega
  opened := ok.opened_append [message]
  asked := ok.asked_append [message]
  first := ok.first

end StreamOk

/-! ## The life of a stream -/

theorem unanswered_of_first {s : Asocket} (unqueued : s.queue.first = none) :
    unanswered (some s) = 0 := by
  simp [unanswered, unqueued]

theorem unanswered_of_packets {s : Asocket} {packets : List (List UInt8)}
    (represents : s.queue.Represents packets) (nonempty : packets ≠ []) :
    unanswered (some s) = 1 := by
  have queued : s.queue.first ≠ none := by simp [represents.first_eq_none_iff, nonempty]
  simp [unanswered, Option.isSome_iff_ne_none.mpr queued]

theorem unanswered_le_one (socket : Option Asocket) : unanswered socket ≤ 1 := by
  cases socket with
  | none => simp [unanswered]
  | some s =>
      simp only [unanswered]
      split <;> omega

theorem reading_le_one (socket : Option Asocket) : reading socket ≤ 1 := by
  cases socket with
  | none => simp [reading]
  | some s =>
      simp only [reading]
      split <;> omega

/-- An `A_OPEN` packet has been sent. -/
theorem streamOk_opened {h : History} {s : Asocket} {inbox outbox : List Message}
    (unmated : h.mate = none) (unwritten : h.output = []) (unqueued : s.queue.first = none)
    (unheard : ∀ message ∈ inbox, message.command = .okay → message.arg1 ≠ h.id) :
    StreamOk { h with origin := .opened, input := [] } (some s) inbox outbox where
  mated := by simp
  accepted := by simp
  unpeered := fun _ _ _ _ => unmated
  fresh := fun _ _ => ⟨rfl, unwritten⟩
  waiting := by
    rintro _ _ s' equal
    cases equal
    exact ⟨unqueued, unheard⟩
  input := by simp [unmated]
  sends := by simp [unmated]
  output := by simp [unmated]
  backlog := by simp [unmated]
  answers := by simp [unmated]
  opened := by simp [unmated]
  asked := by simp [unmated]
  first := by simp [unmated]

/-- An `A_OPEN` packet has been received and answered. -/
theorem streamOk_accepted {id mate : Nat} {s : Asocket} {message : Message}
    {inbox outbox : List Message} (peered : s.peer ≠ none) (unqueued : s.queue.Represents [])
    (command : message.command = .open) (is_arg0 : message.arg0 = mate)
    (silent : Silent id outbox)
    (unheard : ∀ message ∈ inbox, message.IsStream → message.arg1 ≠ id) :
    StreamOk { id, origin := .accepted, mate := some mate } (some s)
      (inbox ++ [message]) (outbox ++ [⟨.okay, id, mate, []⟩]) := by
  have nothing_heard : data mate id (inbox ++ [message]) = [] := by
    apply data_of_wrtes
    rw [wrtes, List.countP_eq_zero]
    intro other member isWrte
    simp only [Message.isWrte, decide_eq_true_eq] at isWrte
    rcases List.mem_append.mp member with earlier | latest
    · exact unheard other earlier (.inr isWrte.1) isWrte.2.2
    · rw [List.mem_singleton.mp latest, command] at isWrte
      cases isWrte.1
  have nothing_sent : wrtes id mate (outbox ++ [⟨.okay, id, mate, []⟩]) = 0 := by
    rw [wrtes_append, silent.wrtes_eq, wrtes_okay]
  have one_answer : okays id mate (outbox ++ [⟨.okay, id, mate, []⟩]) = 1 := by
    rw [okays_append, silent.okays_eq, okays_okay]
  refine ⟨by simp, by simp, ?_, by simp, by simp, ?_, ?_, ?_, ?_, ?_, by simp, ?_, ?_⟩
  · rintro s' equal _ unpeered
    cases equal
    exact absurd unpeered peered
  · rintro mate' equal
    cases equal
    exact (data_of_wrtes nothing_sent).symm
  · rintro mate' equal
    cases equal
    have once := reading_le_one (some s)
    simp only [nothing_sent, credit, if_true]
    omega
  · rintro mate' equal
    simp
  · rintro mate' s' packets equal same represents
    cases equal
    cases same
    rw [represents.unique unqueued, nothing_heard]
    simp
  · rintro mate' equal
    cases equal
    rw [unanswered_of_first (unqueued.first_eq_none_iff.mpr rfl), one_answer]
    simp [credit]
  · rintro mate' equal _
    cases equal
    simp [opens, command, is_arg0]
  · rintro mate' equal _
    cases equal
    refine ⟨by rw [one_answer]; omega, fun part short _ => ?_⟩
    have less : wrtes id mate part ≤ _ := wrtes_mono short
    rw [nothing_sent] at less
    exact Nat.le_zero.mp less

section Life

variable {h : History} {s : Asocket} {mate : Nat} {inbox outbox : List Message}

/-- Data has been read and sent. -/
theorem StreamOk.read (ok : StreamOk h (some s) inbox outbox) (mated : h.mate = some mate)
    (reads : s.wantRead = true) (bytes : List UInt8) :
    StreamOk { h with input := h.input ++ bytes } (some { s with wantRead := false }) inbox
      (outbox ++ [⟨.wrte, h.id, mate, bytes⟩]) where
  mated := ok.mated
  accepted := ok.accepted
  unpeered := by
    rintro s' equal
    cases equal
    exact ok.unpeered s rfl
  fresh := by simp [mated]
  waiting := by simp [mated]
  input := by
    rintro mate' mated'
    rw [mated] at mated'
    cases mated'
    rw [data_append, data_wrte, ok.input mate mated]
  sends := by
    rintro mate' mated'
    rw [mated] at mated'
    cases mated'
    have before := ok.sends mate mated
    simp only [reading, reads, if_true] at before
    simp only [reading, wrtes_append, wrtes_wrte, Bool.false_eq_true, if_false]
    exact before
  output := ok.output
  backlog := by
    rintro mate' s' packets mated' equal
    cases equal
    exact ok.backlog mate' s packets mated' rfl
  answers := by
    rintro mate' mated'
    have before := ok.answers mate' mated'
    rw [okays_append, okays_wrte]
    exact before
  opened := ok.opened
  asked := ok.asked
  first := ok.first_append _

/-- Some of the packets have been written. -/
theorem StreamOk.drain {packets packets' : List (List UInt8)} {bytes : List UInt8}
    {queue : LinkedQueue (List UInt8)} (ok : StreamOk h (some s) inbox outbox)
    (before : s.queue.Represents packets) (after : queue.Represents packets')
    (nonempty : packets ≠ []) (flat : packets.flatten = bytes ++ packets'.flatten) :
    StreamOk { h with output := h.output ++ bytes } (some { s with queue }) inbox outbox := by
  have queued : s.queue.first ≠ none := by simp [before.first_eq_none_iff, nonempty]
  refine ⟨ok.mated, ok.accepted, ?_, ?_, ?_, ok.input, ok.sends, ?_, ?_, ?_, ok.opened, ok.asked,
    ok.first⟩
  · rintro s' equal
    cases equal
    exact ok.unpeered s rfl
  · intro origin unmated
    exact absurd (ok.waiting origin unmated s rfl).1 queued
  · intro origin unmated
    exact absurd (ok.waiting origin unmated s rfl).1 queued
  · intro mate mated
    have part := (ok.backlog mate s packets mated rfl before).1
    rw [flat, ← List.append_assoc] at part
    exact (List.prefix_append _ _).trans part
  · rintro mate s' packets'' mated equal represents
    cases equal
    rw [represents.unique after]
    have both := ok.backlog mate s packets mated rfl before
    rw [flat, ← List.append_assoc] at both
    exact both
  · intro mate mated
    have less := ok.answers mate mated
    rw [unanswered_of_packets before nonempty] at less
    have once := unanswered_le_one (some { s with queue })
    simp only [credit] at less ⊢
    omega

/-- All packets have been written, and the other end is told. -/
theorem StreamOk.answer {packets : List (List UInt8)} {queue : LinkedQueue (List UInt8)}
    (ok : StreamOk h (some s) inbox outbox) (mated : h.mate = some mate)
    (before : s.queue.Represents packets) (after : queue.Represents [])
    (nonempty : packets ≠ []) :
    StreamOk { h with output := h.output ++ packets.flatten }
      (some { s with queue, wantWrite := false }) inbox
      (outbox ++ [⟨.okay, h.id, mate, []⟩]) := by
  refine ⟨ok.mated, ok.accepted, ?_, by simp [mated], by simp [mated], ?_, ?_, ?_, ?_, ?_,
    ok.opened, ok.asked, ok.first_append _⟩
  · rintro s' equal
    cases equal
    exact ok.unpeered s rfl
  · intro mate' mated'
    rw [data_append, data_okay, List.append_nil]
    exact ok.input mate' mated'
  · intro mate' mated'
    rw [wrtes_append, wrtes_okay]
    exact ok.sends mate' mated'
  · intro mate' mated'
    exact (ok.backlog mate' s packets mated' rfl before).1
  · rintro mate' s' packets' mated' equal represents
    cases equal
    have both := ok.backlog mate' s packets mated' rfl before
    rw [represents.unique after]
    simpa using both
  · intro mate' mated'
    rw [mated] at mated'
    cases mated'
    have less := ok.answers mate mated
    rw [unanswered_of_packets before nonempty] at less
    rw [unanswered_of_first (after.first_eq_none_iff.mpr rfl), okays_append, okays_okay]
    exact less

/-- All packets of a closing socket have been written. -/
theorem StreamOk.destroy {packets : List (List UInt8)} (ok : StreamOk h (some s) inbox outbox)
    (before : s.queue.Represents packets) :
    StreamOk { h with output := h.output ++ packets.flatten } none inbox outbox := by
  refine ⟨ok.mated, ok.accepted, by simp, ?_, by simp, ok.input, ?_, ?_, by simp, ?_, ok.opened,
    ok.asked, ok.first⟩
  · intro origin unmated
    obtain ⟨input, output⟩ := ok.fresh origin unmated
    have unqueued := (ok.waiting origin unmated s rfl).1
    have nothing := before.first_eq_none_iff.mp unqueued
    exact ⟨input, by simp [output, nothing]⟩
  · intro mate mated
    have less := ok.sends mate mated
    simp only [reading, credit] at less ⊢
    omega
  · intro mate mated
    exact (ok.backlog mate s packets mated rfl before).1
  · intro mate mated
    have less := ok.answers mate mated
    simp only [unanswered, credit] at less ⊢
    omega

/-! ## Packets of the stream -/

/-- The answer to the `A_OPEN` packet has been received. -/
theorem StreamOk.connect {s' : Asocket} {payload : List UInt8}
    (ok : StreamOk h (some s) inbox outbox) (origin : h.origin = .opened)
    (unmated : h.mate = none) (peered : s'.peer ≠ none) (queue : s'.queue = s.queue)
    (silent : Silent h.id outbox) (unheard : wrtes mate h.id inbox = 0) :
    StreamOk { h with mate := some mate } (some s')
      (inbox ++ [⟨.okay, mate, h.id, payload⟩]) outbox := by
  obtain ⟨input, output⟩ := ok.fresh origin unmated
  have unqueued := (ok.waiting origin unmated s rfl).1
  have unqueued' : s'.queue.first = none := by rw [queue, unqueued]
  have nothing_heard : data mate h.id (inbox ++ [⟨.okay, mate, h.id, payload⟩]) = [] := by
    rw [data_append, data_of_wrtes unheard, data_okay, List.append_nil]
  refine ⟨by simp [origin], by simp, ?_, by simp, by simp, ?_, ?_, ?_, ?_, ?_, ?_, by simp [origin],
    by simp [origin]⟩
  · rintro s'' equal _ unpeered
    cases equal
    exact absurd unpeered peered
  · rintro mate' equal
    cases equal
    rw [data_of_wrtes silent.wrtes_eq]
    exact input
  · rintro mate' equal
    cases equal
    have once := reading_le_one (some s')
    simp only [silent.wrtes_eq, okays_append, okays_okay]
    omega
  · rintro mate' equal
    simp [output]
  · rintro mate' s'' packets equal same represents
    cases equal
    cases same
    have nothing := represents.first_eq_none_iff.mp unqueued'
    simp [nothing, output, nothing_heard]
  · rintro mate' equal
    cases equal
    simp only [silent.okays_eq, unanswered_of_first unqueued']
    omega
  · rintro mate' equal _
    cases equal
    rw [okays_append, okays_okay]
    omega

/-- The other end takes more data. -/
theorem StreamOk.resume {payload : List UInt8} (ok : StreamOk h (some s) inbox outbox)
    (mated : h.mate = some mate) :
    StreamOk h (some { s with wantRead := true }) (inbox ++ [⟨.okay, mate, h.id, payload⟩])
      outbox := by
  have heard := ok.hear ⟨.okay, mate, h.id, payload⟩ (by simp [Message.isWrte]) (by simp [mated])
  refine ⟨heard.mated, heard.accepted, ?_, heard.fresh, by simp [mated], heard.input, ?_,
    heard.output, ?_, heard.answers, heard.opened, heard.asked, heard.first⟩
  · rintro s' equal
    cases equal
    exact heard.unpeered s rfl
  · intro mate' mated'
    rw [mated] at mated'
    cases mated'
    have less := ok.sends mate mated
    have once := reading_le_one (some { s with wantRead := true })
    rw [okays_append, okays_okay]
    omega
  · rintro mate' s' packets mated' equal
    cases equal
    exact heard.backlog mate' s packets mated' rfl

/-- Data has been received and written at once. -/
theorem StreamOk.written (ok : StreamOk h (some s) inbox outbox) (payload : List UInt8)
    (mated : h.mate = some mate) (unqueued : s.queue.Represents [])
    (stillOpen : s.closing = false) :
    StreamOk { h with output := h.output ++ payload } (some s)
      (inbox ++ [⟨.wrte, mate, h.id, payload⟩]) (outbox ++ [⟨.okay, h.id, mate, []⟩]) := by
  have all_written : h.output = data mate h.id inbox := by
    simpa using (ok.backlog mate s [] mated rfl unqueued).2 stillOpen
  refine ⟨ok.mated, ok.accepted, ok.unpeered, by simp [mated], by simp [mated], ?_, ?_, ?_, ?_, ?_,
    ok.opened_append _, ok.asked_append _, ok.first_append _⟩
  · intro mate' mated'
    rw [data_append, data_okay, List.append_nil]
    exact ok.input mate' mated'
  · intro mate' mated'
    rw [wrtes_append, wrtes_okay]
    exact ok.sends_append _ mate' mated'
  · rintro mate' mated'
    rw [mated] at mated'
    cases mated'
    simpa only [data_append, data_wrte, all_written] using List.prefix_refl _
  · rintro mate' s' packets mated' equal represents
    rw [mated] at mated'
    cases mated'
    cases equal
    rw [represents.unique unqueued, data_append, data_wrte, all_written]
    simp
  · intro mate' mated'
    rw [mated] at mated'
    cases mated'
    have less := ok.answers mate mated
    rw [okays_append, okays_okay, wrtes_append, wrtes_wrte]
    simp only [credit] at less ⊢
    omega

/-- Data has been received and what could not be written is queued. -/
theorem StreamOk.queued {packets : List (List UInt8)} (ok : StreamOk h (some s) inbox outbox)
    (bytes rest : List UInt8) (mated : h.mate = some mate)
    (represents : s.queue.Represents packets) (stillOpen : s.closing = false)
    (order : packets ≠ [] → bytes = []) :
    StreamOk { h with output := h.output ++ bytes }
      (some { s with queue := s.queue.push rest, wantWrite := true })
      (inbox ++ [⟨.wrte, mate, h.id, bytes ++ rest⟩]) outbox := by
  have pushed := represents.push rest
  have all_here : h.output ++ packets.flatten = data mate h.id inbox :=
    (ok.backlog mate s packets mated rfl represents).2 stillOpen
  have all_after : (h.output ++ bytes) ++ (packets ++ [rest]).flatten =
      data mate h.id (inbox ++ [⟨.wrte, mate, h.id, bytes ++ rest⟩]) := by
    rw [data_append, data_wrte, ← all_here]
    cases packets with
    | nil => simp
    | cons packet packets => simp [order (by simp)]
  refine ⟨ok.mated, ok.accepted, ?_, by simp [mated], by simp [mated], ok.input,
    ok.sends_append _, ?_, ?_, ?_, ok.opened_append _, ok.asked_append _, ok.first⟩
  · rintro s' equal
    cases equal
    exact ok.unpeered s rfl
  · intro mate' mated'
    rw [mated] at mated'
    cases mated'
    rw [← all_after]
    exact List.prefix_append _ _
  · rintro mate' s' packets' mated' equal represents'
    rw [mated] at mated'
    cases mated'
    cases equal
    rw [represents'.unique pushed, all_after]
    simp
  · intro mate' mated'
    rw [mated] at mated'
    cases mated'
    have less := ok.answers mate mated
    have once := unanswered_le_one
      (some { s with queue := s.queue.push rest, wantWrite := true })
    rw [wrtes_append, wrtes_wrte]
    simp only [credit] at less ⊢
    omega

/-- Data has been received and could not be written, which was the end of the socket. -/
theorem StreamOk.broke (ok : StreamOk h (some s) inbox outbox) (bytes rest : List UInt8)
    (mated : h.mate = some mate) (unqueued : s.queue.Represents [])
    (stillOpen : s.closing = false) :
    StreamOk { h with output := h.output ++ bytes } none
      (inbox ++ [⟨.wrte, mate, h.id, bytes ++ rest⟩]) outbox := by
  have all_written : h.output = data mate h.id inbox := by
    simpa using (ok.backlog mate s [] mated rfl unqueued).2 stillOpen
  refine ⟨ok.mated, ok.accepted, by simp, by simp [mated], by simp, ok.input, ?_, ?_, by simp, ?_,
    ok.opened_append _, ok.asked_append _, ok.first⟩
  · intro mate' mated'
    have less := ok.sends_append [⟨.wrte, mate, h.id, bytes ++ rest⟩] mate' mated'
    simp only [credit, reading] at less ⊢
    omega
  · intro mate' mated'
    rw [mated] at mated'
    cases mated'
    rw [data_append, data_wrte, all_written, ← List.append_assoc]
    exact List.prefix_append _ _
  · intro mate' mated'
    have less := ok.answers mate' mated'
    rw [wrtes_append]
    simp only [credit, unanswered] at less ⊢
    omega

end Life

end Sockets
end AdbWide
