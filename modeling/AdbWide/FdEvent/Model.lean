import AdbWide.CircularList

/-!
# File descriptor events

An `fdevent` says which events of a file descriptor are wanted.  What was reported for it waits on
the list of pending ones until `fdevent_loop` calls its function.  The code is there twice: the
Win32 host keeps a hook for each file descriptor it looks after, the other platforms keep the sets
they give to `select`.  This file embeds what the two have in common, and both ways to be told of
events.

The 16 bits of `state` are kept as the event mask and the flags.  The function to call is left out,
so that a call of it is known by its `fdevent`.
-/

namespace AdbWide
namespace FdEvent

/-- The bits in `FDE_EVENTMASK`. -/
abbrev EventMask := BitVec 8

/-- `FDE_READ`. -/
def fdeRead : EventMask := 0x01

/-- `FDE_WRITE`. -/
def fdeWrite : EventMask := 0x02

/-- `FDE_ERROR`. -/
def fdeError : EventMask := 0x04

/-- `fdevent`. -/
structure Fdevent where
  fd : Nat := 0
  /-- `state & FDE_EVENTMASK`. -/
  wanted : EventMask := 0
  /-- `FDE_ACTIVE`. -/
  active : Bool := false
  /-- `FDE_PENDING`. -/
  pending : Bool := false
  events : EventMask := 0
  deriving DecidableEq, Repr

/-- The part of `fdevent_set` that changes the `fdevent` itself.  One that is no longer pending is
taken off the list, too. -/
def Fdevent.want (fde : Fdevent) (events : EventMask) : Fdevent :=
  if fde.pending then
    -- What stays are the events that are not wanted.
    let left := fde.events &&& ~~~events
    { fde with wanted := events, events := left, pending := left ≠ 0 }
  else { fde with wanted := events }

/-- What `fdevent_set` makes of an `fdevent`. -/
def Fdevent.set (fde : Fdevent) (events : EventMask) : Fdevent :=
  if fde.wanted = events then fde else fde.want events

/-! ## The ways to be told of events -/

/-- What `fdevent_connect`, `fdevent_disconnect` and `fdevent_update` work on. -/
structure Poller where
  State : Type
  start : State
  /-- `fdevent_connect`, with the file descriptor and its mask. -/
  connect : State → Nat → EventMask → State
  /-- `fdevent_disconnect`. -/
  disconnect : State → Nat → EventMask → State
  /-- `fdevent_update`, with the mask before and the one after. -/
  update : State → Nat → EventMask → EventMask → State
  /-- The events `fdevent_process` may report for a file descriptor. -/
  Reports : State → Nat → EventMask → Prop

/-- `EventHookRec`.  Its `fh` is known by its file descriptor, which is open as long as there is a
hook. -/
structure EventHook where
  fd : Nat
  wanted : EventMask
  deriving DecidableEq, Repr

/-- The end of `event_looper_hook`. -/
def EventHook.add (node : EventHook) (events : EventMask) : EventHook :=
  if node.wanted &&& events ≠ events then { node with wanted := node.wanted ||| events } else node

/-- `event_looper_hook`: a new hook is put at the end. -/
def eventLooperHook (fd : Nat) (events : EventMask) : List EventHook → List EventHook
  | [] => [EventHook.add { fd, wanted := 0 } events]
  | node :: hooks =>
      if node.fd = fd then node.add events :: hooks else node :: eventLooperHook fd events hooks

/-- `event_looper_unhook`. -/
def eventLooperUnhook (fd : Nat) (events : EventMask) : List EventHook → List EventHook
  | [] => []
  | node :: hooks =>
      if node.fd = fd then
        let events2 := events &&& node.wanted
        if events2 = 0 then node :: hooks
        else
          let wanted := node.wanted &&& ~~~events2
          if wanted = 0 then hooks else { node with wanted } :: hooks
      else node :: eventLooperUnhook fd events hooks

/-- `fdevent_connect` of the Win32 host. -/
def fdeventConnect (hooks : List EventHook) (fd : Nat) (events : EventMask) : List EventHook :=
  if events ≠ 0 then eventLooperHook fd events hooks else hooks

/-- `fdevent_disconnect` of the Win32 host. -/
def fdeventDisconnect (hooks : List EventHook) (fd : Nat) (events : EventMask) : List EventHook :=
  if events ≠ 0 then eventLooperUnhook fd events hooks else hooks

/-- `fdevent_update` of the Win32 host. -/
def fdeventUpdate (hooks : List EventHook) (fd : Nat) (events0 events : EventMask) :
    List EventHook :=
  if events ≠ events0 then
    let removes := events0 &&& ~~~events
    let adds := events &&& ~~~events0
    let hooks := if removes ≠ 0 then eventLooperUnhook fd removes hooks else hooks
    if adds ≠ 0 then eventLooperHook fd adds hooks else hooks
  else hooks

/-- The hooks of `win32_looper`. -/
def win32 : Poller where
  State := List EventHook
  start := []
  connect := fdeventConnect
  disconnect := fdeventDisconnect
  update := fdeventUpdate
  -- `event_hook_signal` reports all the hook wants.
  Reports hooks fd events := ∃ hook ∈ hooks, hook.fd = fd ∧ hook.wanted = events

/-- `read_fds`, `write_fds` and `error_fds`. -/
structure FdSets where
  read : Nat → Bool
  write : Nat → Bool
  error : Nat → Bool

/-- The events of a file descriptor that are in the sets. -/
def FdSets.asked (sets : FdSets) (fd : Nat) : EventMask :=
  (if sets.read fd then fdeRead else 0) ||| (if sets.write fd then fdeWrite else 0) |||
    (if sets.error fd then fdeError else 0)

/-- `FD_SET` or `FD_CLR` for each of the events. -/
def FdSets.put (sets : FdSets) (fd : Nat) (events : EventMask) : FdSets where
  read := Function.update sets.read fd (events &&& fdeRead ≠ 0)
  write := Function.update sets.write fd (events &&& fdeWrite ≠ 0)
  error := Function.update sets.error fd (events &&& fdeError ≠ 0)

/-- The sets for `select`. -/
def select : Poller where
  State := FdSets
  start := ⟨fun _ => false, fun _ => false, fun _ => false⟩
  connect sets _ _ := sets
  disconnect sets fd _ := sets.put fd 0
  update sets fd _ events := sets.put fd events
  -- After an error `fdevent_fd_check` fakes an `FDE_READ`, wanted or not.
  Reports sets fd events := events ≠ 0 ∧ events &&& ~~~sets.asked fd = 0 ∨ events = fdeRead

/-! ## The pending list -/

/-- What has a `next` and a `prev` link; `null` is where a null pointer leads to. -/
inductive Node where
  | listPending
  | fdevent (address : Nat)
  | null
  deriving DecidableEq, Repr

/-- `fdevent_plist_enqueue`. -/
def plistEnqueue (links : Links Node) (node : Node) : Links Node :=
  let next := Function.update links.next node .listPending
  let prev := Function.update links.prev node (links.prev .listPending)
  let next := Function.update next (prev node) node
  { next, prev := Function.update prev .listPending node }

/-- `fdevent_plist_remove`. -/
def plistRemove (links : Links Node) (node : Node) : Links Node :=
  let next := Function.update links.next (links.prev node) (links.next node)
  let prev := Function.update links.prev (next node) (links.prev node)
  { next := Function.update next node .null, prev := Function.update prev node .null }

/-- `fdevent_plist_dequeue`. -/
def plistDequeue (links : Links Node) : Option (Node × Links Node) :=
  let node := links.next .listPending
  if node = .listPending then none
  else
    let next := Function.update links.next .listPending (links.next node)
    let prev := Function.update links.prev (next .listPending) .listPending
    some (node,
      { next := Function.update next node .null, prev := Function.update prev node .null })

/-! ## The functions -/

/-- The state of the event loop. -/
structure Loop (poller : Poller) where
  fdevents : Nat → Fdevent
  links : Links Node
  /-- `fd_table`, whose entries are null where it ends. -/
  fdTable : Nat → Option Nat
  poll : poller.State

namespace Loop

variable {poller : Poller}

/-- Nothing is installed. -/
def start (poller : Poller) : Loop poller where
  fdevents := fun _ => {}
  links :=
    { next := fun node => if node = .listPending then .listPending else .null
      prev := fun node => if node = .listPending then .listPending else .null }
  fdTable := fun _ => none
  poll := poller.start

/-- Give an `fdevent` another value. -/
def put (loop : Loop poller) (address : Nat) (fde : Fdevent) : Loop poller :=
  { loop with fdevents := Function.update loop.fdevents address fde }

/-- `fdevent_install`. -/
def fdeventInstall (loop : Loop poller) (address fd : Nat) : Loop poller :=
  { loop.put address { fd, active := true } with
    fdTable := Function.update loop.fdTable fd (some address)
    poll := poller.connect loop.poll fd 0 }

/-- `fdevent_remove`.  The result is `none` when `fdevent_unregister` finds the table out of
sync. -/
def fdeventRemove (loop : Loop poller) (address : Nat) : Option (Loop poller) :=
  let fde := loop.fdevents address
  let loop :=
    if fde.pending then { loop with links := plistRemove loop.links (.fdevent address) } else loop
  let removed := loop.put address { fd := fde.fd }
  if fde.active then
    if loop.fdTable fde.fd ≠ some address then none
    else
      some
        { removed with
          poll := poller.disconnect loop.poll fde.fd fde.wanted
          fdTable := Function.update loop.fdTable fde.fd none }
  else some removed

/-- `fdevent_set`. -/
def fdeventSet (loop : Loop poller) (address : Nat) (events : BitVec 32) : Loop poller :=
  let events : EventMask := events.setWidth 8
  let fde := loop.fdevents address
  if fde.wanted = events then loop
  else
    let changed := fde.want events
    { loop.put address changed with
      poll := if fde.active then poller.update loop.poll fde.fd fde.wanted events else loop.poll
      links :=
        if fde.pending ∧ ¬changed.pending then plistRemove loop.links (.fdevent address)
        else loop.links }

/-- `fdevent_add`. -/
def fdeventAdd (loop : Loop poller) (address : Nat) (events : BitVec 32) : Loop poller :=
  loop.fdeventSet address
    ((loop.fdevents address).wanted.setWidth 32 ||| (events &&& 0xff))

/-- `fdevent_del`. -/
def fdeventDel (loop : Loop poller) (address : Nat) (events : BitVec 32) : Loop poller :=
  loop.fdeventSet address
    ((loop.fdevents address).wanted.setWidth 32 &&& ~~~(events &&& 0xff))

/-- `event_hook_signal`, and what `fdevent_process` does for a file descriptor elsewhere. -/
def report (loop : Loop poller) (fd : Nat) (events : EventMask) : Loop poller :=
  match loop.fdTable fd with
  | none => loop
  | some address =>
      let fde := loop.fdevents address
      if fde.fd = fd then
        { loop.put address { fde with pending := true, events := fde.events ||| events } with
          links := if fde.pending then loop.links else plistEnqueue loop.links (.fdevent address) }
      else loop

/-- A round of `fdevent_loop`: the `fdevent` whose function is called, and the events it is called
with.  `fdevent_call_fdfunc` does the same. -/
def dispatch (loop : Loop poller) : Option (Nat × EventMask × Loop poller) :=
  match plistDequeue loop.links with
  | some (.fdevent address, links) =>
      let fde := loop.fdevents address
      some (address, fde.events,
        { loop.put address { fde with events := 0, pending := false } with links })
  | _ => none

end Loop

/-- What happens in the event loop. -/
inductive Label where
  | install (address fd : Nat)
  | remove (address : Nat)
  | set (address : Nat) (events : BitVec 32)
  | add (address : Nat) (events : BitVec 32)
  | del (address : Nat) (events : BitVec 32)
  /-- `fdevent_process` reports events of a file descriptor. -/
  | report (fd : Nat) (events : EventMask)
  /-- `fdevent_loop` calls the function of an `fdevent`, whose own calls are the steps after. -/
  | callback (address : Nat) (events : EventMask)
  deriving DecidableEq, Repr

/-- The steps of the event loop.  What is installed is not installed yet, with a file descriptor
that no other uses. -/
inductive LoopStep {poller : Poller} (loop : Loop poller) : Label → Loop poller → Prop where
  | install {address fd : Nat} :
      (loop.fdevents address).active = false →
      (∀ other, (loop.fdevents other).active = true → (loop.fdevents other).fd ≠ fd) →
      LoopStep loop (.install address fd) (loop.fdeventInstall address fd)
  | remove {address : Nat} {loop' : Loop poller} :
      loop.fdeventRemove address = some loop' → LoopStep loop (.remove address) loop'
  | set (address : Nat) (events : BitVec 32) :
      LoopStep loop (.set address events) (loop.fdeventSet address events)
  | add (address : Nat) (events : BitVec 32) :
      LoopStep loop (.add address events) (loop.fdeventAdd address events)
  | del (address : Nat) (events : BitVec 32) :
      LoopStep loop (.del address events) (loop.fdeventDel address events)
  | report {fd : Nat} {events : EventMask} :
      poller.Reports loop.poll fd events →
      LoopStep loop (.report fd events) (loop.report fd events)
  | callback {address : Nat} {events : EventMask} {loop' : Loop poller} :
      loop.dispatch = some (address, events, loop') →
      LoopStep loop (.callback address events) loop'

end FdEvent
end AdbWide
