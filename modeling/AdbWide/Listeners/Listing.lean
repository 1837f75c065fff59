import AdbWide.CText
import AdbWide.Sockets.Traffic

/-!
# Listing the listeners

`list-forward` is answered with one line for each listener.  `format_listeners` is called twice: the
first pass adds the lengths of the lines up, the second writes the lines into a buffer of that size
and one byte more.
-/

namespace AdbWide
namespace Listeners

open Sockets.Server (ascii)

/-! ## The code -/

/-- The texts of an `alistener` and of its transport that `format_listeners` reads. -/
structure ListedListener where
  serial : List UInt8
  localName : List UInt8
  connectTo : List UInt8
  deriving DecidableEq, Repr

namespace ListedListener

/-- `l->connect_to[0] == '*'`. -/
def special (l : ListedListener) : Bool := (ascii "*").isPrefixOf l.connectTo

/-- `%s %s %s\n`. -/
def line (l : ListedListener) : List UInt8 :=
  l.serial ++ ascii " " ++ l.localName ++ ascii " " ++ l.connectTo ++ ascii "\n"

end ListedListener

/-- `buf` and `buflen`. -/
structure Room (size : Nat) where
  block : Block UInt8 size
  buf : Int
  buflen : Nat

/-- `format_listener`, which writes nothing if it has no buffer. -/
def formatListener {size : Nat} (l : ListedListener) (room : Option (Room size)) :
    Except AdbWide.Fault (Option (Room size) × Int) := do
  let len := signed (l.localName.length + l.connectTo.length + l.serial.length + 3)
  match room with
  | none => .ok (none, len)
  | some room =>
      let block ← room.block.put room.buf (Formatted.msvc room.buflen l.line).written
      .ok (some { room with block }, len)

/-- The loop of `format_listeners`. -/
def formatListenersLoop {size : Nat} : List ListedListener → Option (Room size) → Int →
    Except AdbWide.Fault (Option (Room size) × Int)
  | [], room, result => .ok (room, result)
  | l :: list, room, result =>
      if l.special then formatListenersLoop list room result
      else do
        let (room, len) ← formatListener l room
        let result := signed (result + len)
        match room with
        | none => formatListenersLoop list none result
        | some room =>
            let room : Room size :=
              { room with buf := room.buf + len, buflen := unsigned (room.buflen - len) }
            if room.buflen = 0 then .ok (some room, result)
            else formatListenersLoop list (some room) result

/-- `format_listeners`, into a buffer of the given length or into none. -/
def formatListeners {size : Nat} (list : List ListedListener) (buf : Option (Block UInt8 size))
    (buflen : Nat) : Except AdbWide.Fault (Option (Block UInt8 size) × Int) := do
  let (room, result) ← formatListenersLoop list (buf.map fun block => ⟨block, 0, buflen⟩) 0
  .ok (room.map Room.block, result)

/-! ## The property -/

/-- The lines of the listeners that are not special, in the order of the list. -/
def listing (list : List ListedListener) : List UInt8 :=
  (list.filter (¬·.special)).flatMap ListedListener.line

/-- The second pass fills the buffer that the first one has measured with the lines and a
terminator. -/
def ListsForwards (list : List ListedListener) : Prop :=
  ∃ n : Nat, formatListeners list (none : Option (Block UInt8 0)) 0 = .ok (none, n) ∧
    n = (listing list).length ∧
    ∀ buffer : Block UInt8 (n + 1), ∃ buffer',
      formatListeners list (some buffer) (n + 1) = .ok (some buffer', n) ∧
        buffer'.cells = listing list ++ [0]

@[simp] theorem listing_nil : listing [] = [] := rfl

theorem listing_cons_special {l : ListedListener} (special : l.special = true)
    (list : List ListedListener) : listing (l :: list) = listing list := by
  rw [listing, List.filter_cons_of_neg (by simp [special])]
  rfl

theorem listing_cons {l : ListedListener} (ordinary : l.special = false)
    (list : List ListedListener) : listing (l :: list) = l.line ++ listing list := by
  rw [listing, List.filter_cons_of_pos (by simp [ordinary]), List.flatMap_cons]
  rfl

namespace ListedListener

theorem length_line (l : ListedListener) :
    l.line.length = l.localName.length + l.connectTo.length + l.serial.length + 3 := by
  have space : (ascii " ").length = 1 := by with_unfolding_all decide
  have newline : (ascii "\n").length = 1 := by with_unfolding_all decide
  simp only [line, List.length_append, space, newline]
  omega

end ListedListener

/-! ## The first pass -/

theorem signed_add_signed (first second : Int) :
    signed (signed first + signed second) = signed (first + second) := by
  rw [signed, signed, signed, signed, Int.add_bmod_bmod, Int.bmod_add_bmod]

/-- The first pass adds the lengths up. -/
theorem formatListenersLoop_none {size : Nat} (list : List ListedListener) (count : Int) :
    formatListenersLoop list (none : Option (Room size)) (signed count) =
      .ok (none, signed (count + (listing list).length)) := by
  induction list generalizing count with
  | nil => simp [formatListenersLoop]
  | cons l list induction =>
      rw [formatListenersLoop]
      cases special : l.special with
      | true => rw [if_pos rfl, listing_cons_special special, induction]
      | false =>
          have length : ((l.localName.length : Int) + l.connectTo.length + l.serial.length + 3) =
              l.line.length := by
            rw [l.length_line]
            omega
          rw [if_neg (by decide), listing_cons special]
          simp only [formatListener, length, ok_bind, signed_add_signed]
          rw [induction, List.length_append, Int.natCast_add, Int.add_assoc]

theorem formatListeners_none (list : List ListedListener) :
    formatListeners list (none : Option (Block UInt8 0)) 0 =
      .ok (none, signed (listing list).length) := by
  have zero : (0 : Int) = signed 0 := by decide
  rw [formatListeners, zero, Option.map_none, formatListenersLoop_none, ok_bind, Int.zero_add]
  rfl

/-! ## The second pass -/

/-- A line goes behind the lines before it, in the place of their terminator. -/
theorem formatListener_some {size : Nat} {room : Room size} {before : List UInt8}
    (place : room.buf = before.length) (shown : room.block.segment 0 before.length = before)
    (inside : before.length + room.buflen ≤ size) {l : ListedListener}
    (fits : l.line.length < room.buflen) (short : l.line.length < 2 ^ 31) :
    ∃ block, formatListener l (some room) = .ok (some { room with block }, l.line.length) ∧
      block.segment 0 ((before ++ l.line).length + 1) = before ++ l.line ++ [0] := by
  obtain ⟨block, puts, cells⟩ := room.block.put_eq_ok before.length (l.line ++ [0])
    (by rw [List.length_append, List.length_singleton]; omega)
  rw [shown, List.length_append, ← Nat.add_assoc, ← List.length_append, ← List.append_assoc]
    at cells
  refine ⟨block, ?_, cells⟩
  have length : signed ((l.localName.length : Int) + l.connectTo.length + l.serial.length + 3) =
      l.line.length := by
    rw [l.length_line, signed_of_lt (by omega) (by rw [l.length_line] at short; omega)]
    omega
  rw [formatListener, length, Formatted.msvc_of_lt fits, place]
  simp only [Formatted.whole, puts, ok_bind]

/-- The second pass writes the lines one behind the other, and a terminator behind the last. -/
theorem formatListenersLoop_some {size : Nat} (list : List ListedListener) {room : Room size}
    {before : List UInt8} (place : room.buf = before.length)
    (shown : room.block.segment 0 before.length = before)
    (inside : before.length + room.buflen = size)
    (left : room.buflen = (listing list).length + 1)
    (short : before.length + (listing list).length < 2 ^ 31) :
    ∃ room', formatListenersLoop list (some room) before.length =
        .ok (some room', (before ++ listing list).length) ∧
      (listing list = [] → room' = room) ∧
      (listing list ≠ [] → room'.block.segment 0 ((before ++ listing list).length + 1) =
        before ++ listing list ++ [0]) := by
  induction list generalizing room before with
  | nil =>
      refine ⟨room, ?_, fun _ => rfl, fun some_line => absurd rfl some_line⟩
      rw [listing_nil, List.append_nil]
      rfl
  | cons l list induction =>
      rw [formatListenersLoop]
      cases special : l.special with
      | true =>
          rw [listing_cons_special special] at left short ⊢
          rw [if_pos rfl]
          exact induction place shown inside left short
      | false =>
          rw [listing_cons special] at left short ⊢
          rw [List.length_append] at left short
          obtain ⟨block, formats, cells⟩ := formatListener_some place shown (by omega)
            (by omega : l.line.length < room.buflen) (by omega)
          have total : signed ((before.length : Int) + l.line.length) =
              ((before ++ l.line).length : Nat) := by
            rw [List.length_append, signed_of_lt (by omega) (by omega)]
            omega
          have rest : unsigned ((room.buflen : Int) - l.line.length) =
              room.buflen - l.line.length := unsigned_sub (by omega) (by omega)
          rw [if_neg (by decide), formats, ok_bind]
          simp only [total, rest]
          rw [if_neg (by omega)]
          have place' : (Room.mk block (room.buf + l.line.length)
              (room.buflen - l.line.length)).buf = (before ++ l.line).length := by
            rw [place, List.length_append]
            rfl
          obtain ⟨room', loop, unchanged, terminated⟩ := induction place'
            (block.segment_of_append cells).1 (by rw [List.length_append]; dsimp only; omega)
            (by dsimp only; omega) (by rw [List.length_append]; omega)
          rw [← List.append_assoc]
          refine ⟨room', loop, fun empty => ?_, fun _ => ?_⟩
          · have nonempty := congrArg List.length empty
            rw [List.length_append, l.length_line, List.length_nil] at nonempty
            omega
          · by_cases last : listing list = []
            · rw [unchanged last, last, List.append_nil]
              exact cells
            · exact terminated last

theorem formatListeners_some (list : List ListedListener) (short : (listing list).length < 2 ^ 31)
    (buffer : Block UInt8 ((listing list).length + 1)) :
    ∃ buffer', formatListeners list (some buffer) ((listing list).length + 1) =
        .ok (some buffer', (listing list).length) ∧
      (listing list = [] → buffer' = buffer) ∧
      (listing list ≠ [] → buffer'.cells = listing list ++ [0]) := by
  have place : (Room.mk buffer 0 ((listing list).length + 1)).buf = ([] : List UInt8).length := rfl
  obtain ⟨room', loop, unchanged, terminated⟩ := formatListenersLoop_some list place rfl
    (Nat.zero_add _) rfl (by rw [List.length_nil]; omega)
  rw [List.nil_append] at loop terminated
  refine ⟨room'.block, ?_, fun empty => by rw [unchanged empty], fun some_line => ?_⟩
  · have zero : ((0 : Nat) : Int) = 0 := rfl
    rw [List.length_nil, zero] at loop
    rw [formatListeners, Option.map_some, loop, ok_bind]
    rfl
  · rw [← terminated some_line, Block.segment_zero, List.take_of_length_le]
    rw [room'.block.length_cells]

theorem listing_eq_nil_iff (list : List ListedListener) :
    listing list = [] ↔ ∀ l ∈ list, l.special = true := by
  induction list with
  | nil => simp
  | cons l list induction =>
      rw [List.forall_mem_cons, ← induction]
      cases special : l.special with
      | true => simp [listing_cons_special special]
      | false =>
          have line : l.line ≠ [] := by
            rw [← List.length_pos_iff, l.length_line]
            omega
          simp [listing_cons special, line]

/-- The listing comes out right exactly when there is a line in it and its length is an `int`. -/
theorem listsForwards_iff (list : List ListedListener) :
    ListsForwards list ↔
      (∃ l ∈ list, l.special = false) ∧ (listing list).length < 2 ^ 31 := by
  have ordinary : (∃ l ∈ list, l.special = false) ↔ listing list ≠ [] := by
    rw [ne_eq, listing_eq_nil_iff]
    simp
  rw [ordinary]
  constructor
  · rintro ⟨n, first, rfl, second⟩
    rw [formatListeners_none] at first
    have same : signed (listing list).length = (listing list).length := by
      simpa using first
    have short : (listing list).length < 2 ^ 31 := by
      have := (signed_bounds (listing list).length).2
      omega
    refine ⟨fun empty => ?_, short⟩
    obtain ⟨buffer', writes, cells⟩ := second ⟨List.replicate _ 1, List.length_replicate⟩
    obtain ⟨buffer'', writes', unchanged, -⟩ := formatListeners_some list short
      ⟨List.replicate _ 1, List.length_replicate⟩
    rw [writes] at writes'
    obtain rfl : buffer' = buffer'' := by simpa using writes'
    rw [unchanged empty] at cells
    have filled : List.replicate ((listing list).length + 1) (1 : UInt8) = listing list ++ [0] :=
      cells
    have zero : (0 : UInt8) ∈ List.replicate ((listing list).length + 1) 1 := by
      rw [filled]
      exact List.mem_append_right _ List.mem_cons_self
    exact absurd (List.eq_of_mem_replicate zero) (by decide)
  · rintro ⟨some_line, short⟩
    refine ⟨(listing list).length, ?_, rfl, fun buffer => ?_⟩
    · rw [formatListeners_none, signed_of_lt (by omega) (by omega)]
    · obtain ⟨buffer', writes, -, terminated⟩ := formatListeners_some list short buffer
      exact ⟨buffer', writes, terminated some_line⟩

/-- With the smart socket as the only listener, the terminator is not written. -/
theorem not_listsForwards_smartsocket :
    ¬ListsForwards [⟨[], ascii "tcp:5037", ascii "*smartsocket*"⟩] := by
  rintro ⟨n, -, length, second⟩
  have special : (⟨[], ascii "tcp:5037", ascii "*smartsocket*"⟩ : ListedListener).special = true :=
    by with_unfolding_all decide
  have empty : listing [⟨[], ascii "tcp:5037", ascii "*smartsocket*"⟩] = [] := by
    rw [listing_cons_special special, listing_nil]
  rw [empty] at length
  subst length
  obtain ⟨buffer', writes, cells⟩ := second ⟨[1], rfl⟩
  rw [formatListeners, Option.map_some, formatListenersLoop, if_pos special] at writes
  obtain rfl : (⟨[1], rfl⟩ : Block UInt8 1) = buffer' :=
    Option.some.inj (congrArg Prod.fst (Except.ok.inj writes))
  rw [empty] at cells
  exact absurd (List.cons.inj cells).1 (by decide)

end Listeners
end AdbWide
