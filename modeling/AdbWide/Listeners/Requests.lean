import AdbWide.Listeners.Disconnects

/-!
# Requests about listeners

`handle_host_request` lets every client of the server install listeners, list them and remove them.
The smart socket, through which the clients come, is a listener as well.  Installing refuses to
touch it and so does removing all, but a listener that is removed by its name is not looked at any
further.  This file proves that nothing else takes the smart socket away.
-/

namespace AdbWide
namespace Listeners

open Table
open Sockets.Server (ascii)

/-- What a request is about. -/
inductive Request where
  | listForward
  | killforwardAll
  | forward (noRebind : Bool) (localName remote : List UInt8)
  | killforward (localName : List UInt8)
  /-- It is to be answered by `"malformed forward spec"`. -/
  | malformed
  /-- It is not about listeners. -/
  | other
  deriving DecidableEq, Repr

/-- `strchr(text, c) + 1`, for a text that has the character. -/
def behind (c : UInt8) (text : List UInt8) : List UInt8 := (text.dropWhile (· ≠ c)).tail

/-- `<local>;<remote>`. -/
def parseSpec (noRebind : Bool) (spec : List UInt8) : Request :=
  if 59 ∈ spec then
    -- the semicolon is overwritten by zero
    let localName := spec.takeWhile (· ≠ 59)
    let remote := behind 59 spec
    if localName = [] ∨ remote = [] ∨ (ascii "*").isPrefixOf remote then
      .malformed
    else
      .forward noRebind localName remote
  else
    .malformed

/-- The arguments of a `forward:` request. -/
def parseForward (arguments : List UInt8) : Request :=
  if (ascii "norebind:").isPrefixOf arguments then
    parseSpec true (behind 58 arguments)
  else
    parseSpec false arguments

/-- How `handle_host_request` takes a request apart. -/
def parseRequest (service : List UInt8) : Request :=
  if service = ascii "list-forward" then .listForward
  else if service = ascii "killforward-all" then .killforwardAll
  else if (ascii "forward:").isPrefixOf service ∨ (ascii "killforward:").isPrefixOf service then
    let arguments := behind 58 service
    if (ascii "kill").isPrefixOf service then
      if arguments = [] then .malformed else .killforward arguments
    else
      parseForward arguments
  else .other

/-- What is written to `reply_fd`. -/
inductive Reply where
  /-- `"OKAY"` and what `format_listeners` makes. -/
  | listing
  | okayOkay
  | fail (reason : List UInt8)
  /-- Whatever answers another request. -/
  | other
  deriving DecidableEq, Repr

/-- The message for a status of `install_listener`. -/
def InstallStatus.reply : InstallStatus → Reply
  | .ok => .okayOkay
  | .cannotBind => .fail (ascii "cannot bind to socket")
  | .cannotRebind => .fail (ascii "cannot rebind existing socket")
  | .internalError => .fail (ascii "internal error")

/-- `handle_host_request`, with what `acquire_one_transport` returns. -/
def Table.handleHostRequest (table : Table) (outside : Outside)
    (acquired : Except (List UInt8) Nat) (service : List UInt8) (fuel : Nat) :
    Except Fault (Reply × Table) :=
  match parseRequest service with
  | .listForward => .ok (.listing, table)
  | .killforwardAll => do
      let table ← table.removeAllListeners fuel
      return (.okayOkay, table)
  | .malformed => .ok (.fail (ascii "malformed forward spec"), table)
  | .other => .ok (.other, table)
  | .forward noRebind localName remote =>
      match acquired with
      | .error err => .ok (.fail err, table)
      | .ok transport => do
          let (status, table) ←
            table.installListener outside localName remote (some transport) noRebind fuel
          return (status.reply, table)
  | .killforward localName =>
      match acquired with
      | .error err => .ok (.fail err, table)
      | .ok _ => do
          let (r, table) ← table.removeListener localName fuel
          return (if r = 0 then .okayOkay else .fail (ascii "cannot remove listener"), table)

/-- The calls that no client asks for. -/
def Call.Background : Call → Prop
  | .runTransportDisconnects _ | .registerTransport _ | .removeTransport _
  | .createRemoteSocket _ _ | .remoteSocketClose _ => True
  | .installSmartsocket _ | .installListener _ _ _ _ | .removeListener _ | .removeAllListeners =>
      False

/-- What the server does. -/
inductive Event where
  /-- A request, with what `acquire_one_transport` returns. -/
  | request (service : List UInt8) (acquired : Except (List UInt8) Nat)
  /-- Transports and remote sockets come and go. -/
  | background (call : Call)

inductive ServerStep : Table → Event → Table → Prop where
  | request {table after : Table} {service : List UInt8} {acquired : Except (List UInt8) Nat}
      {outside : Outside} {reply : Reply} :
      (∀ transport, acquired = .ok transport → table.transports transport = true) →
      table.listeners outside.address = none →
      Returns (table.handleHostRequest outside acquired service) (reply, after) →
      ServerStep table (.request service acquired) after
  | background {table after : Table} {call : Call} :
      call.Background → CallStep table call after → ServerStep table (.background call) after

/-- `adb_main` has installed the smart socket. -/
def Started (localName : List UInt8) (address : Nat) (table : Table) : Prop :=
  ∃ disconnects outside, outside.address = address ∧
    Returns ((Table.empty disconnects).installListener outside localName smartsocket none false)
      (.ok, table)

/-- The smart socket is in `listener_list`, under its name. -/
def SmartsocketKept (localName : List UInt8) (address : Nat) (table : Table) : Prop :=
  table.links.Collects .listenerList table.Listed ∧
    ∃ l, table.listeners address = some l ∧ l.localName = localName ∧ l.connectTo = smartsocket

/-- A request to remove the listener of a name, with a transport. -/
def Event.Removes (localName : List UInt8) : Event → Prop
  | .request service acquired =>
      service = ascii "killforward:" ++ localName ∧ ∃ transport, acquired = .ok transport
  | .background _ => False

/-! ## Taking requests apart -/

theorem ascii_killforward :
    ascii "killforward:" = [107, 105, 108, 108, 102, 111, 114, 119, 97, 114, 100, 58] := by
  with_unfolding_all decide

theorem ascii_kill : ascii "kill" = [107, 105, 108, 108] := by
  with_unfolding_all decide

theorem ascii_forward : ascii "forward:" = [102, 111, 114, 119, 97, 114, 100, 58] := by
  with_unfolding_all decide

theorem ascii_listForward :
    ascii "list-forward" = [108, 105, 115, 116, 45, 102, 111, 114, 119, 97, 114, 100] := by
  with_unfolding_all decide

theorem ascii_killforwardAll :
    ascii "killforward-all" =
      [107, 105, 108, 108, 102, 111, 114, 119, 97, 114, 100, 45, 97, 108, 108] := by
  with_unfolding_all decide

theorem behind_killforward (arguments : List UInt8) :
    behind 58 (ascii "killforward:" ++ arguments) = arguments := by
  simp [behind, ascii_killforward]

theorem parseRequest_killforward {arguments : List UInt8} (nonempty : arguments ≠ []) :
    parseRequest (ascii "killforward:" ++ arguments) = .killforward arguments := by
  have named : (ascii "killforward:").isPrefixOf (ascii "killforward:" ++ arguments) = true := by
    simp
  have kills : (ascii "kill").isPrefixOf (ascii "killforward:" ++ arguments) = true := by
    simp [ascii_kill, ascii_killforward]
  have not_list : ascii "killforward:" ++ arguments ≠ ascii "list-forward" := by
    simp [ascii_killforward, ascii_listForward]
  have not_all : ascii "killforward:" ++ arguments ≠ ascii "killforward-all" := by
    simp [ascii_killforward, ascii_killforwardAll]
  rw [parseRequest, if_neg not_list, if_neg not_all, if_pos (.inr named), behind_killforward,
    if_pos kills, if_neg nonempty]

theorem parseSpec_cases (noRebind : Bool) (spec : List UInt8) :
    parseSpec noRebind spec = .malformed ∨
      ∃ localName remote, parseSpec noRebind spec = .forward noRebind localName remote ∧
        (ascii "*").isPrefixOf remote = false := by
  unfold parseSpec
  split
  · dsimp only
    split
    · exact .inl rfl
    · rename_i wellFormed
      rw [not_or, not_or] at wellFormed
      exact .inr ⟨_, _, rfl, eq_false_of_ne_true wellFormed.2.2⟩
  · exact .inl rfl

theorem parseForward_cases (arguments : List UInt8) :
    parseForward arguments = .malformed ∨
      ∃ noRebind localName remote, parseForward arguments = .forward noRebind localName remote ∧
        (ascii "*").isPrefixOf remote = false := by
  unfold parseForward
  split
  · exact (parseSpec_cases true _).imp id fun found => ⟨true, found⟩
  · exact (parseSpec_cases false _).imp id fun found => ⟨false, found⟩

theorem not_kill_of_forward {service : List UInt8}
    (forward : (ascii "forward:").isPrefixOf service = true) :
    (ascii "kill").isPrefixOf service = false := by
  obtain ⟨rest, rfl⟩ := List.isPrefixOf_iff_prefix.mp forward
  rw [ascii_forward, ascii_kill]
  rfl

/-- What is known of a request that names listeners. -/
def Request.From (service : List UInt8) : Request → Prop
  | .killforward localName => service = ascii "killforward:" ++ localName
  | .forward _ _ remote => (ascii "*").isPrefixOf remote = false
  | .listForward | .killforwardAll | .malformed | .other => True

theorem parseRequest_from (service : List UInt8) : (parseRequest service).From service := by
  unfold parseRequest
  split
  · trivial
  split
  · trivial
  split
  swap
  · trivial
  rename_i named
  dsimp only
  split
  · rename_i kills
    split
    · trivial
    · rcases named with forward | killforward
      · simp [not_kill_of_forward forward] at kills
      · obtain ⟨arguments, rfl⟩ := List.isPrefixOf_iff_prefix.mp killforward
        rw [behind_killforward]
        exact rfl
  · rcases parseForward_cases (behind 58 service) with malformed | ⟨_, _, _, parsed, ordinary⟩
    · rw [malformed]
      trivial
    · rw [parsed]
      exact ordinary

/-! ## What a step does to the listeners -/

/-- The listeners after a step of the server. -/
inductive Reshaped (table : Table) (event : Event) (after : Table) : Prop where
  | same : after.listeners = table.listeners → Reshaped table event after
  | rebound {address : Nat} {l : Alistener} {connectTo : List UInt8} {transport : Option Nat} :
      table.listeners address = some l → l.special = false →
      (ascii "*").isPrefixOf connectTo = false →
      after.listeners =
        Function.update table.listeners address (some { l with connectTo, transport }) →
      Reshaped table event after
  | added {address : Nat} {l : Alistener} :
      table.listeners address = none → l.special = false →
      after.listeners = Function.update table.listeners address (some l) →
      Reshaped table event after
  | removed {address : Nat} {l : Alistener} :
      table.listeners address = some l → event.Removes l.localName →
      after.listeners = Function.update table.listeners address none →
      Reshaped table event after
  | spared :
      after.listeners = (fun address => (table.listeners address).filter (·.special)) →
      Reshaped table event after
  | disconnected {transport : Nat} :
      (∀ address, after.listeners address =
        if table.transportOf (.listener address) = some transport then none
        else table.listeners address) →
      Reshaped table event after

theorem CallStep.reshaped {table after : Table} {call : Call} (intact : Intact table)
    (background : call.Background) (step : CallStep table call after) (event : Event) :
    Reshaped table event after := by
  cases step with
  | installSmartsocket | installListener | removeListener | removeAllListeners =>
      exact background.elim
  | runTransportDisconnects live returns =>
      obtain ⟨_, returns', -, -, listeners_eq, -⟩ := intact.runTransportDisconnects_spec live
      rw [returns.unique returns']
      exact .disconnected listeners_eq
  | registerTransport unknown => exact .same rfl
  | removeTransport live returns =>
      obtain ⟨middle, returns', -, -, listeners_eq, -⟩ := intact.runTransportDisconnects_spec live
      rw [returns.unique (returns'.bind ⟨0, fun _ _ => rfl⟩)]
      exact .disconnected listeners_eq
  | createRemoteSocket live unused result =>
      obtain ⟨_, result', -, listeners_eq⟩ := intact.createRemoteSocket_spec live unused
      rw [Except.ok.inj (result.symm.trans result')]
      exact .same listeners_eq
  | remoteSocketClose found result =>
      obtain ⟨_, result', disconnected⟩ := intact.remoteSocketDisconnect_spec found
      rw [Except.ok.inj (result.symm.trans result')]
      exact .same (funext fun address => by simpa using disconnected.listeners_eq address)

theorem Installed.reshaped {table after : Table} {outside : Outside}
    {localName remote : List UInt8} {transport : Option Nat} {noRebind : Bool}
    {status : InstallStatus} (event : Event) (unused : table.listeners outside.address = none)
    (ordinary : (ascii "*").isPrefixOf remote = false)
    (installed : Installed table outside localName remote transport noRebind status after) :
    Reshaped table event after := by
  cases installed with
  | refused => exact .same rfl
  | unbound => exact .same rfl
  | rebound found name special rebinds relisted =>
      exact .rebound found special ordinary relisted.listeners_eq
  | @added _ fd fresh bound relisted =>
      have special : (outside.listener fd localName remote transport).special = false := ordinary
      exact .added unused special relisted.listeners_eq

section requests

variable {table after : Table} {outside : Outside} {acquired : Except (List UInt8) Nat}
  {service : List UInt8} {reply : Reply}

/-- A request leaves the table as it is, or makes one of three calls. -/
theorem handleHostRequest_cases (intact : Intact table)
    (live : ∀ transport, acquired = .ok transport → table.transports transport = true)
    (unused : table.listeners outside.address = none)
    (returns : Returns (table.handleHostRequest outside acquired service) (reply, after)) :
    Intact after ∧ Reshaped table (.request service acquired) after := by
  have origin := parseRequest_from service
  unfold handleHostRequest at returns
  cases parsed : parseRequest service with
  | listForward | malformed | other =>
      simp only [parsed] at returns
      obtain ⟨-, rfl⟩ := Prod.mk.inj (returns.unique (Returns.pure _))
      exact ⟨intact, .same rfl⟩
  | killforwardAll =>
      simp only [parsed] at returns
      obtain ⟨middle, returns', relisted⟩ := intact.removeAllListeners_spec
      obtain ⟨-, rfl⟩ := Prod.mk.inj (returns.unique (returns'.bind ⟨0, fun _ _ => rfl⟩))
      exact ⟨relisted.intact, .spared relisted.listeners_eq⟩
  | forward noRebind localName remote =>
      have ordinary : (ascii "*").isPrefixOf remote = false := by rwa [parsed] at origin
      simp only [parsed] at returns
      cases acquired with
      | error err =>
          obtain ⟨-, rfl⟩ := Prod.mk.inj (returns.unique (Returns.pure _))
          exact ⟨intact, .same rfl⟩
      | ok transport =>
          have live' : ∀ target, some transport = some target → table.transports target = true :=
            fun target same => Option.some.inj same ▸ live transport rfl
          have unspecial : some transport = none → (ascii "*").isPrefixOf remote = true := by
            intro none
            cases none
          have rebinds : ∀ address l, table.listeners address = some l →
              l.localName = localName → (some transport).isSome := fun _ _ _ _ => rfl
          rcases intact.installListener_spec noRebind unused live' unspecial rebinds with
            ⟨status, after', returns', installed⟩ | ⟨-, fatal⟩
          · obtain ⟨-, rfl⟩ := Prod.mk.inj (returns.unique (returns'.bind ⟨0, fun _ _ => rfl⟩))
            exact ⟨installed.intact intact, installed.reshaped _ unused ordinary⟩
          · exact absurd returns ((fatal.bind _).not_returns _)
  | killforward localName =>
      have named : service = ascii "killforward:" ++ localName := by rwa [parsed] at origin
      simp only [parsed] at returns
      cases acquired with
      | error err =>
          obtain ⟨-, rfl⟩ := Prod.mk.inj (returns.unique (Returns.pure _))
          exact ⟨intact, .same rfl⟩
      | ok transport =>
          rcases intact.removeListener_cases localName with
            ⟨address, l, found, name, returns'⟩ | ⟨-, returns'⟩
          · obtain ⟨-, rfl⟩ := Prod.mk.inj (returns.unique (returns'.bind ⟨0, fun _ _ => rfl⟩))
            refine ⟨intact.freed found, .removed found ⟨?_, transport, rfl⟩ rfl⟩
            rw [name]
            exact named
          · obtain ⟨-, rfl⟩ := Prod.mk.inj (returns.unique (returns'.bind ⟨0, fun _ _ => rfl⟩))
            exact ⟨intact, .same rfl⟩

end requests

theorem ServerStep.reshaped {table after : Table} {event : Event} (intact : Intact table)
    (step : ServerStep table event after) : Intact after ∧ Reshaped table event after := by
  cases step with
  | request live unused returns => exact handleHostRequest_cases intact live unused returns
  | background background step =>
      exact ⟨step.intact intact, step.reshaped intact background _⟩

/-! ## The smart socket -/

/-- The smart socket is there, and no other special listener is. -/
structure Present (localName : List UInt8) (address : Nat) (table : Table) : Prop where
  intact : Intact table
  nonempty : localName ≠ []
  there : ∃ l, table.listeners address = some l ∧ l.localName = localName ∧
    l.connectTo = smartsocket ∧ l.transport = none
  only : ∀ other l, table.listeners other = some l → l.special = true → other = address

/-- There is no special listener. -/
structure Gone (table : Table) : Prop where
  intact : Intact table
  none : ∀ address l, table.listeners address = some l → l.special = false

section smartsocket

variable {table after : Table} {event : Event} {localName : List UInt8} {address : Nat}

theorem special_of_smartsocket {l : Alistener} (smart : l.connectTo = smartsocket) :
    l.special = true := by
  rw [Alistener.special, smart]
  exact special_smartsocket

theorem Present.kept (present : Present localName address table) :
    SmartsocketKept localName address table := by
  obtain ⟨l, found, name, smart, -⟩ := present.there
  exact ⟨present.intact.listed, l, found, name, smart⟩

theorem Gone.not_kept (gone : Gone table) : ¬SmartsocketKept localName address table := by
  rintro ⟨-, l, found, -, smart⟩
  have ordinary := gone.none address l found
  rw [special_of_smartsocket smart] at ordinary
  cases ordinary

/-- A special listener after a step has been there before. -/
theorem Reshaped.earlier (reshaped : Reshaped table event after) {other : Nat} {l : Alistener}
    (found : after.listeners other = some l) (special : l.special = true) :
    table.listeners other = some l := by
  cases reshaped with
  | same listeners_eq => rwa [← listeners_eq]
  | @rebound address l' connectTo transport found' ordinary target listeners_eq =>
      rw [listeners_eq] at found
      rcases eq_or_ne other address with rfl | different
      · obtain rfl : { l' with connectTo, transport } = l := by simpa using found
        cases target.symm.trans special
      · simpa [different] using found
  | @added address l' unused ordinary listeners_eq =>
      rw [listeners_eq] at found
      rcases eq_or_ne other address with rfl | different
      · obtain rfl : l' = l := by simpa using found
        cases ordinary.symm.trans special
      · simpa [different] using found
  | @removed address l' found' removes listeners_eq =>
      rw [listeners_eq] at found
      rcases eq_or_ne other address with rfl | different
      · simp at found
      · simpa [different] using found
  | spared listeners_eq =>
      rw [listeners_eq] at found
      exact (Option.filter_eq_some_iff.mp found).1
  | disconnected listeners_eq =>
      rw [listeners_eq] at found
      split at found
      · cases found
      · exact found

theorem Gone.step (gone : Gone table) (step : ServerStep table event after) : Gone after := by
  obtain ⟨intact, reshaped⟩ := step.reshaped gone.intact
  refine ⟨intact, fun other l found => ?_⟩
  cases special : l.special with
  | false => rfl
  | true => exact special.symm.trans (gone.none other l (reshaped.earlier found special))

theorem Present.step (present : Present localName address table)
    (step : ServerStep table event after) (spares : ¬event.Removes localName) :
    Present localName address after := by
  obtain ⟨intact, reshaped⟩ := step.reshaped present.intact
  obtain ⟨l, found, name, smart, unowned⟩ := present.there
  have special := special_of_smartsocket smart
  refine ⟨intact, present.nonempty, ⟨l, ?_, name, smart, unowned⟩,
    fun other l' found' special' =>
      present.only other l' (reshaped.earlier found' special') special'⟩
  cases reshaped with
  | same listeners_eq => rwa [listeners_eq]
  | @rebound address' l' _ _ found' ordinary _ listeners_eq =>
      have different : address ≠ address' := by
        rintro rfl
        obtain rfl := Option.some.inj (found.symm.trans found')
        cases ordinary.symm.trans special
      simpa [listeners_eq, different] using found
  | @added address' _ unused _ listeners_eq =>
      have different : address ≠ address' := by
        rintro rfl
        cases unused.symm.trans found
      simpa [listeners_eq, different] using found
  | @removed address' l' found' removes listeners_eq =>
      have different : address ≠ address' := by
        rintro rfl
        obtain rfl := Option.some.inj (found.symm.trans found')
        exact spares (name ▸ removes)
      simpa [listeners_eq, different] using found
  | spared listeners_eq => simp [listeners_eq, found, special, Option.filter]
  | disconnected listeners_eq =>
      have apart : table.transportOf (.listener address) = none :=
        (transportOf_listener found).trans unowned
      rw [listeners_eq, apart]
      simpa using found

/-- What `killforward:` does with the name of the smart socket. -/
theorem Present.removeListener (present : Present localName address table) :
    ∃ l, Returns (table.removeListener localName) (0, table.freed address l) ∧
      Gone (table.freed address l) := by
  obtain ⟨l, found, name, smart, unowned⟩ := present.there
  rcases present.intact.removeListener_cases localName with
    ⟨address', l', found', name', returns⟩ | ⟨fresh, -⟩
  · obtain rfl := present.intact.names _ _ _ _ found found' (name.trans name'.symm)
    refine ⟨l', returns, present.intact.freed found', fun other l'' kept => ?_⟩
    cases special : l''.special with
    | false => rfl
    | true =>
        rcases eq_or_ne other address with rfl | different
        · simp [Table.freed] at kept
        · have found'' : table.listeners other = some l'' := by
            simpa [Table.freed, different] using kept
          exact absurd (present.only other l'' found'' special) different
  · exact absurd name (fresh address l found)

theorem Present.handleHostRequest (present : Present localName address table) (outside : Outside)
    (transport : Nat) :
    ∃ after, Returns (table.handleHostRequest outside (.ok transport)
        (ascii "killforward:" ++ localName)) (.okayOkay, after) ∧ Gone after := by
  obtain ⟨l, returns, gone⟩ := present.removeListener
  refine ⟨table.freed address l, ?_, gone⟩
  unfold Table.handleHostRequest
  simp only [parseRequest_killforward present.nonempty]
  exact returns.bind ⟨0, fun _ _ => rfl⟩

theorem Present.removed (present : Present localName address table)
    (step : ServerStep table event after) (removes : event.Removes localName) : Gone after := by
  cases step with
  | background => exact removes.elim
  | @request _ _ _ outside _ _ _ returns =>
      obtain ⟨rfl, transport, rfl⟩ := removes
      obtain ⟨_, returns', gone⟩ := present.handleHostRequest outside transport
      obtain ⟨-, rfl⟩ := Prod.mk.inj (returns.unique returns')
      exact gone

theorem Started.present (started : Started localName address table) :
    Present localName address table := by
  obtain ⟨disconnects, outside, rfl, returns⟩ := started
  have intact := intact_empty disconnects
  have nobody : ∀ address l, (Table.empty disconnects).listeners address = some l →
      l.localName = localName → (none : Option Nat).isSome := by
    intro _ _ found
    cases found
  have unowned : ∀ target, (none : Option Nat) = some target →
      (Table.empty disconnects).transports target = true := by
    intro _ some
    cases some
  have installed := intact.installed rfl unowned (fun _ => special_smartsocket) nobody returns
  cases installed with
  | refused found => cases found
  | rebound found => cases found
  | @added _ fd fresh bound relisted =>
      refine ⟨relisted.intact, ?_, ?_, ?_⟩
      · rintro rfl
        have unknown : (ascii "tcp:").isPrefixOf [] = false := by with_unfolding_all decide
        simp [localNameToFd, unknown] at bound
      · exact ⟨outside.listener fd localName smartsocket none,
          by simp [relisted.listeners_eq], rfl, rfl, rfl⟩
      · intro other l found special
        rw [relisted.listeners_eq] at found
        rcases eq_or_ne other outside.address with same | different
        · exact same
        · simp [different, Table.empty] at found

end smartsocket

/-- The smart socket stays where it is exactly as long as nobody asks to remove the listener of its
name. -/
theorem smartsocketKept_iff {localName : List UInt8} {address : Nat} {start table : Table}
    {events : List Event} (started : Started localName address start)
    (trace : Trace ServerStep start events table) :
    SmartsocketKept localName address table ↔ ∀ event ∈ events, ¬event.Removes localName := by
  have cases : (Present localName address table ∧ ∀ event ∈ events, ¬event.Removes localName) ∨
      (Gone table ∧ ∃ event ∈ events, event.Removes localName) := by
    induction trace with
    | nil => exact .inl ⟨started.present, by simp⟩
    | @snoc events before after event _ step induction =>
        rcases induction with ⟨present, spared⟩ | ⟨gone, earlier, member, removes⟩
        · by_cases removes : event.Removes localName
          · exact .inr ⟨present.removed step removes, event, by simp, removes⟩
          · refine .inl ⟨present.step step removes, fun other member => ?_⟩
            rcases List.mem_append.mp member with earlier | last
            · exact spared other earlier
            · rwa [List.mem_singleton.mp last]
        · exact .inr ⟨gone.step step, earlier, by simp [member], removes⟩
  rcases cases with ⟨present, spared⟩ | ⟨gone, event, member, removes⟩
  · exact iff_of_true present.kept spared
  · exact iff_of_false gone.not_kept fun spared => spared event member removes

/-- The server listens at port 5037, and there is a device. -/
theorem exists_started :
    ∃ start table, Started (ascii "tcp:5037") 0 start ∧
      Trace ServerStep start [.background (.registerTransport 7)] table ∧
      Present (ascii "tcp:5037") 0 table ∧ table.listeners 1 = none ∧
      ∀ transport, (.ok 7 : Except (List UInt8) Nat) = .ok transport →
        table.transports transport = true := by
  have bound : localNameToFd { address := 0, server := some 4 } (ascii "tcp:5037") = some 4 := by
    with_unfolding_all decide
  have nobody : ∀ address l, (Table.empty { next := id, prev := id }).listeners address = some l →
      l.localName = ascii "tcp:5037" → (none : Option Nat).isSome := by
    intro _ _ found
    cases found
  have unowned : ∀ target, (none : Option Nat) = some target →
      (Table.empty { next := id, prev := id }).transports target = true := by
    intro _ some
    cases some
  rcases (intact_empty { next := id, prev := id }).installListener_spec false rfl unowned
      (fun _ => special_smartsocket) nobody with ⟨status, start, returns, installed⟩ | ⟨none, -⟩
  · have relisted := installed.relisted_added (by intro _ _ found; cases found) bound
    have unknown : start.transports 7 = false := congrFun relisted.transports_eq 7
    cases installed with
    | refused found => cases found
    | unbound _ unbound => cases unbound.symm.trans bound
    | rebound found => cases found
    | added =>
        have started : Started (ascii "tcp:5037") 0 start := ⟨_, _, rfl, returns⟩
        have step : ServerStep start (.background (.registerTransport 7))
            (start.registerTransport 7) := .background trivial (.registerTransport unknown)
        refine ⟨start, _, started, Trace.nil.snoc step, started.present.step step id,
          congrFun relisted.listeners_eq 1, ?_⟩
        intro transport same
        obtain rfl := Except.ok.inj same
        simp [Table.registerTransport]
  · cases none

/-- All listeners are removed. -/
theorem smartsocketKept_iff_killforwardAll :
    ∃ start table, Started (ascii "tcp:5037") 0 start ∧
      Trace ServerStep start
        [.background (.registerTransport 7), .request (ascii "killforward-all") (.ok 7)] table ∧
      SmartsocketKept (ascii "tcp:5037") 0 table := by
  obtain ⟨start, middle, started, trace, present, unused, live⟩ := exists_started
  have parsed : parseRequest (ascii "killforward-all") = .killforwardAll := by
    with_unfolding_all decide
  obtain ⟨table, returns, -⟩ := present.intact.removeAllListeners_spec
  have step : ServerStep middle (.request (ascii "killforward-all") (.ok 7)) table := by
    have answered : Returns (middle.handleHostRequest { address := 1, server := none } (.ok 7)
        (ascii "killforward-all")) (.okayOkay, table) := by
      unfold Table.handleHostRequest
      simp only [parsed]
      exact returns.bind ⟨0, fun _ _ => rfl⟩
    refine .request live ?_ answered
    exact unused
  have run := trace.snoc step
  refine ⟨start, table, started, run, (smartsocketKept_iff started run).mpr ?_⟩
  intro event member
  rcases List.mem_pair.mp member with rfl | rfl
  · exact id
  · rintro ⟨same, -⟩
    exact absurd same (by with_unfolding_all decide)

/-- The listener of the server itself is removed by its name. -/
theorem smartsocket_removed_by_name :
    ∃ start table, Started (ascii "tcp:5037") 0 start ∧
      Trace ServerStep start
        [.background (.registerTransport 7), .request (ascii "killforward:tcp:5037") (.ok 7)]
        table ∧
      ¬SmartsocketKept (ascii "tcp:5037") 0 table := by
  obtain ⟨start, middle, started, trace, present, unused, live⟩ := exists_started
  have service : ascii "killforward:tcp:5037" = ascii "killforward:" ++ ascii "tcp:5037" := by
    with_unfolding_all decide
  obtain ⟨table, returns, gone⟩ :=
    present.handleHostRequest { address := 1, server := none } 7
  rw [← service] at returns
  have step : ServerStep middle (.request (ascii "killforward:tcp:5037") (.ok 7)) table := by
    refine .request live ?_ returns
    exact unused
  exact ⟨start, table, started, trace.snoc step, gone.not_kept⟩

end Listeners
end AdbWide
