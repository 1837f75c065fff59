import Mathlib.Data.List.Induction
import AdbWide.Clients.Qualifiers

/-!
# Listing the devices

`list_transports` writes one line for each transport, as far as the buffer goes.  `_snprintf`
returns `-1` for a text that it had to cut, and the length is added to the place for the next line,
so that the place moves back by one byte.  The `%n` in the format of a qualifier ends the program.
-/

namespace AdbWide
namespace Clients

open Sockets (ConnectionState)
open Sockets.Server

/-! ## The code -/

/-- `statename`. -/
def statename : ConnectionState → List UInt8
  | .offline => ascii "offline"
  | .bootloader => ascii "bootloader"
  | .device => ascii "device"
  | .host => ascii "host"
  | .recovery => ascii "recovery"
  | .sideload => ascii "sideload"
  | .noPerm => ascii "no permissions"
  | .unauthorized => ascii "unauthorized"

/-- The serial of a line of the listing. -/
def shownSerial (t : Atransport) : List UInt8 :=
  match t.serial with
  | none | some [] => ascii "????????????"
  | some serial => serial

/-- `%-22s`. -/
def padded (text : List UInt8) : List UInt8 :=
  text ++ List.replicate (22 - text.length) 32

/-- `format_transport`: the buffer after it, and the length it returns. -/
def formatTransport {size : Nat} (runtime : Runtime) (t : Atransport)
    (block : Block UInt8 size) (buf : Int) (bufsize : Nat) (longListing : Bool) :
    Except Fault (Block UInt8 size × Nat) :=
  match longListing with
  | false => do
      let out := runtime.snprintf bufsize
        (shownSerial t ++ ascii "\t" ++ statename t.connectionState ++ ascii "\n")
      let block ← block.put buf out.written
      .ok (block, unsigned out.length)
  | true => do
      let out := runtime.snprintf bufsize
        (padded (shownSerial t) ++ ascii " " ++ statename t.connectionState)
      let block ← block.put buf out.written
      let cursor : Cursor size :=
        { block, buf := signed (buf + out.length), remaining := unsigned (bufsize - out.length) }
      let cursor ← addQual runtime cursor (ascii " ") t.devpath false
      let cursor ← addQual runtime cursor (ascii " product:") t.product false
      let cursor ← addQual runtime cursor (ascii " model:") t.model true
      let cursor ← addQual runtime cursor (ascii " device:") t.device false
      let out := runtime.snprintf cursor.remaining (ascii "\n")
      let block ← cursor.block.put cursor.buf out.written
      let remaining := unsigned (cursor.remaining - out.length)
      .ok (block, unsigned (bufsize - remaining))

/-- The loop of `list_transports`, with the place for the next line. -/
def listTransportsLoop {size : Nat} (longListing : Bool) :
    List Atransport → Block UInt8 size → Int → Except Fault (Block UInt8 size × Int)
  | [], block, p => .ok (block, p)
  | t :: list, block, p => do
      let (block, length) ←
        formatTransport .msvc t block p (unsigned (size - p)) longListing
      let len := signed length
      if (size : Int) ≤ p + len then .ok (block, p)
      else listTransportsLoop longListing list block (p + len)

/-- `list_transports`, into a buffer that is the whole block. -/
def listTransports {size : Nat} (list : List Atransport) (block : Block UInt8 size)
    (longListing : Bool) : Except Fault (Block UInt8 size × Int) := do
  let (block, p) ← listTransportsLoop longListing list block 0
  let block ← block.put p [0]
  .ok (block, signed p)

/-- `%x`. -/
def hexDigits (value : Nat) : List UInt8 :=
  (Nat.toDigits 16 value).map fun c => c.toNat.toUInt8

/-- `%04x`. -/
def hexText (value : Nat) : List UInt8 :=
  List.replicate (4 - (hexDigits value).length) 48 ++ hexDigits value

/-- `list_transports_msg`, with the first four bytes of the buffer and the part behind them. -/
def listTransportsMsg {size : Nat} (list : List Atransport) (front : Block UInt8 4)
    (rest : Block UInt8 size) : Except Fault (Block UInt8 4 × Block UInt8 size × Int) := do
  let (rest, len) ← listTransports list rest false
  let head := (Formatted.msvc 5 (hexText (unsigned len))).written
  let front ← front.put 0 (head.take 4)
  .ok (front, rest, signed (len + 4))

/-! ## What a line should be -/

/-- A line of the listing. -/
def deviceLine (longListing : Bool) (t : Atransport) : List UInt8 :=
  match longListing with
  | false => shownSerial t ++ ascii "\t" ++ statename t.connectionState ++ ascii "\n"
  | true =>
      padded (shownSerial t) ++ ascii " " ++ statename t.connectionState ++
        qualText (ascii " ") t.devpath false ++ qualText (ascii " product:") t.product false ++
        qualText (ascii " model:") t.model true ++ qualText (ascii " device:") t.device false ++
        ascii "\n"

/-- The lines of a listing. -/
def deviceLines (longListing : Bool) (list : List Atransport) : List UInt8 :=
  list.flatMap (deviceLine longListing)

/-- The buffer shows the lines of a part of the list from its start on, the next line would not
fit, and `len` is the length of the text. -/
def Shows {size : Nat} (list : List Atransport) (longListing : Bool) (block : Block UInt8 size)
    (len : Int) : Prop :=
  ∃ shown rest, list = shown ++ rest ∧ len = (deviceLines longListing shown).length ∧
    (deviceLines longListing shown).length < size ∧
    block.segment 0 ((deviceLines longListing shown).length + 1) =
      deviceLines longListing shown ++ [0] ∧
    ∀ t ∈ rest.head?, size ≤ (deviceLines longListing (shown ++ [t])).length

/-- `list_transports` writes inside the buffer, and shows there what fits. -/
def ListsWell {size : Nat} (list : List Atransport) (longListing : Bool)
    (block : Block UInt8 size) : Prop :=
  ∃ block' len, listTransports list block longListing = .ok (block', len) ∧
    Shows list longListing block' len

/-- `list_transports_msg` puts the length of the listing in front of it. -/
def MsgListsWell {size : Nat} (list : List Atransport) (front : Block UInt8 4)
    (rest : Block UInt8 size) : Prop :=
  ∃ front' rest' len, listTransportsMsg list front rest = .ok (front', rest', len + 4) ∧
    Shows list false rest' len ∧ front'.cells = hexLength len.toNat ∧ unhex front'.cells = len.toNat

/-- No qualifier is known. -/
def Unqualified (t : Atransport) : Prop :=
  ∀ qual ∈ [t.devpath, t.product, t.model, t.device], qual = none ∨ qual = some []

/-- The line of the transport can be formatted. -/
def Printable (longListing : Bool) (t : Atransport) : Prop :=
  longListing = true → Unqualified t

/-- What a line of the long listing starts with. -/
def lineHead (t : Atransport) : List UInt8 :=
  padded (shownSerial t) ++ ascii " " ++ statename t.connectionState

/-- The line of the long listing is cut before its qualifiers.  The newline then goes where another
one stands. -/
def PassedOver (longListing : Bool) (room : Nat) (t : Atransport) : Prop :=
  longListing = true ∧ Unqualified t ∧ room < (lineHead t).length

/-- The lines of the first transports leave room, and those behind them are passed over. -/
structure Listed (longListing : Bool) (room : Nat) (front passed : List Atransport) : Prop where
  fits : (deviceLines longListing front).length < room
  printable : ∀ t ∈ front, Printable longListing t
  skipped : ∀ t ∈ passed, front ≠ [] ∧
    PassedOver longListing (room - (deviceLines longListing front).length) t

/-- After the lines that fit and those that are passed over comes one that ends with the room, or
none. -/
def Listable (longListing : Bool) (room : Nat) (list : List Atransport) : Prop :=
  ∃ front passed rest, list = front ++ passed ++ rest ∧ Listed longListing room front passed ∧
    ∀ t ∈ rest.head?, Printable longListing t ∧
      (deviceLines longListing (front ++ [t])).length = room

@[simp] theorem deviceLines_nil (longListing : Bool) : deviceLines longListing [] = [] := rfl

@[simp] theorem deviceLines_cons (longListing : Bool) (t : Atransport) (list : List Atransport) :
    deviceLines longListing (t :: list) =
      deviceLine longListing t ++ deviceLines longListing list := rfl

theorem deviceLines_append (longListing : Bool) (list list' : List Atransport) :
    deviceLines longListing (list ++ list') =
      deviceLines longListing list ++ deviceLines longListing list' :=
  List.flatMap_append

/-! ## One line -/

theorem length_newline : (ascii "\n").length = 1 := by
  with_unfolding_all decide

theorem qualText_nothing {qual : Option (List UInt8)} (nothing : qual = none ∨ qual = some [])
    (pre : List UInt8) (sanitizeQual : Bool) : qualText pre qual sanitizeQual = [] := by
  rcases nothing with rfl | rfl
  · rfl
  · rfl

theorem deviceLine_of_unqualified {t : Atransport} (unqualified : Unqualified t) :
    deviceLine true t = lineHead t ++ ascii "\n" := by
  simp only [Unqualified, List.forall_mem_cons, List.not_mem_nil, false_implies, implies_true,
    and_true] at unqualified
  obtain ⟨devpath, product, model, device⟩ := unqualified
  rw [deviceLine, qualText_nothing devpath, qualText_nothing product, qualText_nothing model,
    qualText_nothing device, List.append_nil, List.append_nil, List.append_nil, List.append_nil,
    lineHead]

/-- `add_qual` prints nothing when there is nothing to print, or no room. -/
theorem addQual_silent {size : Nat} {cursor : Cursor size} {qual : Option (List UInt8)}
    (silent : (qual = none ∨ qual = some []) ∨ cursor.remaining = 0) (pre : List UInt8)
    (sanitizeQual : Bool) : addQual .msvc cursor pre qual sanitizeQual = .ok cursor := by
  match qual, silent with
  | none, _ => rfl
  | some [], _ => rfl
  | some (c :: qual), .inr full => exact if_pos full

/-- `add_qual` with something to print and room for it ends the program. -/
theorem addQual_msvc {size : Nat} {cursor : Cursor size} {qual : Option (List UInt8)}
    (something : ¬(qual = none ∨ qual = some [])) (some_room : cursor.remaining ≠ 0)
    (pre : List UInt8) (sanitizeQual : Bool) :
    addQual .msvc cursor pre qual sanitizeQual = .error .invalidParameter := by
  match qual, something with
  | none, something => exact absurd (.inl rfl) something
  | some [], something => exact absurd (.inr rfl) something
  | some (c :: qual), _ =>
      rw [addQual]
      · rw [if_neg some_room]
        rfl
      · simp

/-- A line without qualifiers, or without room for them. -/
theorem formatTransport_silent {size bufsize remaining : Nat} {t : Atransport}
    (left : unsigned (bufsize - (Formatted.msvc bufsize (lineHead t)).length) = remaining)
    (silent : Unqualified t ∨ remaining = 0) (block : Block UInt8 size) (buf : Int) :
    formatTransport .msvc t block buf bufsize true =
      (do
        let block ← block.put buf (Formatted.msvc bufsize (lineHead t)).written
        let block ← block.put (signed (buf + (Formatted.msvc bufsize (lineHead t)).length))
          (Formatted.msvc remaining (ascii "\n")).written
        .ok (block, unsigned (bufsize -
          unsigned (remaining - (Formatted.msvc remaining (ascii "\n")).length)))) := by
  subst left
  have nothing : ∀ qual ∈ [t.devpath, t.product, t.model, t.device],
      (qual = none ∨ qual = some []) ∨
        unsigned (bufsize - (Formatted.msvc bufsize (lineHead t)).length) = 0 :=
    fun qual member => silent.imp_left fun unqualified => unqualified qual member
  simp only [List.forall_mem_cons, List.not_mem_nil, false_implies, implies_true, and_true]
    at nothing
  obtain ⟨devpath, product, model, device⟩ := nothing
  rw [formatTransport, ← lineHead]
  refine bind_congr fun stored => ?_
  let cursor : Cursor size :=
    { block := stored
      buf := signed (buf + (Formatted.msvc bufsize (lineHead t)).length)
      remaining := unsigned (bufsize - (Formatted.msvc bufsize (lineHead t)).length) }
  change (addQual .msvc cursor (ascii " ") t.devpath false >>= _) = _
  rw [addQual_silent devpath, ok_bind, addQual_silent product, ok_bind, addQual_silent model,
    ok_bind, addQual_silent device, ok_bind]
  rfl

/-- A line that is cut before its qualifiers: the newline goes where the byte before it is, and the
length is zero. -/
theorem formatTransport_cut {size bufsize : Nat} {t : Atransport} (unqualified : Unqualified t)
    (some_room : 0 < bufsize) (addressable : bufsize < 2 ^ 31)
    (exceeds : bufsize < (lineHead t).length) (block : Block UInt8 size) (buf : Int) :
    formatTransport .msvc t block buf bufsize true =
      (do
        let block ← block.put buf ((lineHead t).take bufsize)
        let block ← block.put (signed (buf + -1)) (ascii "\n" ++ [0])
        .ok (block, 0)) := by
  have cut := Formatted.msvc_of_gt exceeds
  have left : unsigned (bufsize - (Formatted.msvc bufsize (lineHead t)).length) =
      bufsize + 1 := by
    rw [cut]
    dsimp only
    rw [unsigned]
    omega
  have newline : Formatted.msvc (bufsize + 1) (ascii "\n") = .whole (ascii "\n") [0] :=
    Formatted.msvc_of_lt (by rw [length_newline]; omega)
  have room : unsigned ((bufsize + 1 : Nat) - (ascii "\n").length) = bufsize := by
    rw [length_newline]
    exact unsigned_sub (by omega) (by omega)
  have nothing : unsigned (bufsize - bufsize) = 0 := by rw [Int.sub_self]; decide
  rw [formatTransport_silent left (.inl unqualified), cut, newline]
  simp only [Formatted.whole, room, nothing]

/-- A line with a qualifier and room for it. -/
theorem formatTransport_qualified {size bufsize : Nat} {t : Atransport}
    (qualified : ¬Unqualified t)
    (some_room : unsigned (bufsize - (Formatted.msvc bufsize (lineHead t)).length) ≠ 0)
    {block stored : Block UInt8 size} {buf : Int}
    (puts : block.put buf (Formatted.msvc bufsize (lineHead t)).written = .ok stored) :
    formatTransport .msvc t block buf bufsize true = .error .invalidParameter := by
  rw [formatTransport, ← lineHead]
  change (block.put buf (Formatted.msvc bufsize (lineHead t)).written >>= _) = _
  rw [puts, ok_bind]
  let cursor : Cursor size :=
    { block := stored
      buf := signed (buf + (Formatted.msvc bufsize (lineHead t)).length)
      remaining := unsigned (bufsize - (Formatted.msvc bufsize (lineHead t)).length) }
  change (addQual .msvc cursor (ascii " ") t.devpath false >>= _) = _
  by_cases devpath : t.devpath = none ∨ t.devpath = some []
  · rw [addQual_silent (.inl devpath), ok_bind]
    by_cases product : t.product = none ∨ t.product = some []
    · rw [addQual_silent (.inl product), ok_bind]
      by_cases model : t.model = none ∨ t.model = some []
      · rw [addQual_silent (.inl model), ok_bind]
        by_cases device : t.device = none ∨ t.device = some []
        · refine absurd ?_ qualified
          simp only [Unqualified, List.forall_mem_cons, List.not_mem_nil, false_implies,
            implies_true, and_true]
          exact ⟨devpath, product, model, device⟩
        · rw [addQual_msvc device some_room]
          rfl
      · rw [addQual_msvc model some_room]
        rfl
    · rw [addQual_msvc product some_room]
      rfl
  · rw [addQual_msvc devpath some_room]
    rfl

section Line

variable {size : Nat} (addressable : size < 2 ^ 31)

include addressable

/-- A line for which there is room is written whole, and its length is returned. -/
theorem formatTransport_of_le {block : Block UInt8 size} {before : List UInt8} {room : Nat}
    (shown : block.segment 0 before.length = before) (inside : before.length + room ≤ size)
    {t : Atransport} {longListing : Bool} (printable : Printable longListing t)
    (fits : (deviceLine longListing t).length ≤ room) :
    ∃ block', formatTransport .msvc t block before.length room longListing =
        .ok (block', (deviceLine longListing t).length) ∧
      block'.segment 0 (before ++ deviceLine longListing t).length =
        before ++ deviceLine longListing t := by
  cases longListing with
  | false =>
      obtain ⟨length, block', puts, cells⟩ := Formatted.put_msvc shown fits inside
      refine ⟨block', ?_, cells⟩
      rw [deviceLine] at length puts
      rw [deviceLine] at fits
      rw [formatTransport, Runtime.msvc, puts, ok_bind, length, unsigned_natCast (by omega)]
      rfl
  | true =>
      have unqualified := printable rfl
      rw [deviceLine_of_unqualified unqualified, List.length_append, length_newline] at fits
      obtain ⟨length, block', puts, cells⟩ :=
        Formatted.put_msvc shown (by omega : (lineHead t).length ≤ room) inside
      have place : signed (before.length + (lineHead t).length) =
          ((before ++ lineHead t).length : Nat) := by
        rw [List.length_append, signed_of_lt] <;> omega
      have left : unsigned (room - (lineHead t).length) = room - (lineHead t).length :=
        unsigned_sub (by omega) (by omega)
      obtain ⟨length', block'', puts', cells'⟩ := Formatted.put_msvc cells
        (show (ascii "\n").length ≤ room - (lineHead t).length by rw [length_newline]; omega)
        (by rw [List.length_append]; omega)
      have rest : unsigned ((room - (lineHead t).length : Nat) - (ascii "\n").length) =
          room - (lineHead t).length - 1 := by
        rw [length_newline]
        exact unsigned_sub (by omega) (by omega)
      have returned : unsigned (room - (room - (lineHead t).length - 1 : Nat)) =
          (lineHead t).length + 1 := by
        rw [unsigned_sub (by omega) (by omega)]
        omega
      refine ⟨block'', ?_, ?_⟩
      · rw [formatTransport_silent (by rw [length, left]) (.inl unqualified), puts, ok_bind,
          length, place, puts', ok_bind, length', rest, returned,
          deviceLine_of_unqualified unqualified, List.length_append, length_newline]
      · rw [deviceLine_of_unqualified unqualified, ← List.append_assoc]
        exact cells'

end Line

/-! ## The list -/

theorem length_deviceLines_snoc (longListing : Bool) (front : List Atransport) (t : Atransport) :
    (deviceLines longListing (front ++ [t])).length =
      (deviceLines longListing front).length + (deviceLine longListing t).length := by
  rw [deviceLines_append, deviceLines_cons, deviceLines_nil, List.append_nil, List.length_append]

theorem length_deviceLines_le (longListing : Bool) {front list : List Atransport}
    (part : front <+: list) :
    (deviceLines longListing front).length ≤ (deviceLines longListing list).length := by
  obtain ⟨rest, rfl⟩ := part
  rw [deviceLines_append, List.length_append]
  omega

/-- Every line ends with a newline. -/
theorem deviceLines_newline (longListing : Bool) {front : List Atransport} (nonempty : front ≠ []) :
    ∃ text, deviceLines longListing front = text ++ ascii "\n" := by
  induction front using List.reverseRecOn with
  | nil => exact absurd rfl nonempty
  | append_singleton front t =>
      rw [deviceLines_append, deviceLines_cons, deviceLines_nil, List.append_nil]
      cases longListing with
      | false => exact ⟨_, (List.append_assoc _ _ _).symm⟩
      | true => exact ⟨_, (List.append_assoc _ _ _).symm⟩

/-- The long listing pads every serial. -/
theorem one_lt_length_lineHead (t : Atransport) : 1 < (lineHead t).length := by
  have space : (ascii " ").length = 1 := by with_unfolding_all decide
  rw [lineHead, List.length_append, List.length_append, padded, List.length_append,
    List.length_replicate, space]
  omega

theorem length_lineHead_le (t : Atransport) :
    (lineHead t).length ≤ (deviceLine true t).length := by
  simp only [lineHead, deviceLine, List.length_append]
  omega

theorem length_deviceLine_pos (longListing : Bool) (t : Atransport) :
    0 < (deviceLine longListing t).length := by
  cases longListing with
  | false =>
      rw [deviceLine, List.length_append, length_newline]
      omega
  | true =>
      have longer := one_lt_length_lineHead t
      have inside := length_lineHead_le t
      omega

/-- A line that is passed over would not have fitted. -/
theorem PassedOver.exceeds {longListing : Bool} {room : Nat} {t : Atransport}
    (passed : PassedOver longListing room t) : room < (deviceLine longListing t).length := by
  obtain ⟨rfl, unqualified, exceeds⟩ := passed
  rw [deviceLine_of_unqualified unqualified, List.length_append]
  omega

/-- The condition is on the transports up to some one of them. -/
theorem Listable.dropLast {longListing : Bool} {room : Nat} {list : List Atransport}
    {t : Atransport} (listable : Listable longListing room (list ++ [t])) :
    Listable longListing room list := by
  obtain ⟨front, passed, rest, split, ⟨fits, printable, skipped⟩, last⟩ := listable
  rcases List.eq_nil_or_concat rest with rfl | ⟨rest, u, rfl⟩
  · rw [List.append_nil] at split
    rcases List.eq_nil_or_concat passed with rfl | ⟨passed, u, rfl⟩
    · rw [List.append_nil] at split
      subst split
      refine ⟨list, [], [], by simp, ⟨?_, ?_, by simp⟩, by simp⟩
      · rw [deviceLines_append, List.length_append] at fits
        omega
      · exact fun u member => printable u (List.mem_append_left _ member)
    · rw [List.concat_eq_append, ← List.append_assoc] at split
      obtain ⟨rfl, -⟩ := List.append_inj' split rfl
      refine ⟨front, passed, [], by simp, ⟨fits, printable, ?_⟩, by simp⟩
      exact fun u member => skipped u (by simp [member])
  · rw [List.concat_eq_append, ← List.append_assoc] at split
    obtain ⟨rfl, -⟩ := List.append_inj' split rfl
    refine ⟨front, passed, rest, rfl, ⟨fits, printable, skipped⟩, fun v member => last v ?_⟩
    cases rest with
    | nil => cases member
    | cons w rest => exact member

section Loop

variable {size : Nat} (addressable : size < 2 ^ 31)

include addressable

/-- One round of the loop, when the line has been formatted. -/
theorem listTransportsLoop_step {longListing : Bool} {t : Atransport}
    {block stored : Block UInt8 size} {before length : Nat} (inside : before ≤ size)
    (formats : formatTransport .msvc t block before (size - before) longListing =
      .ok (stored, length)) (rest : List Atransport) :
    listTransportsLoop longListing (t :: rest) block before =
      if (size : Int) ≤ before + signed length then .ok (stored, before)
      else listTransportsLoop longListing rest stored (before + signed length) := by
  have left : unsigned (size - before) = size - before := unsigned_sub (by omega) inside
  rw [listTransportsLoop, left, formats, ok_bind]

/-- A line that leaves some room is written, and the next one goes behind it. -/
theorem listTransportsLoop_line {longListing : Bool} {t : Atransport}
    (printable : Printable longListing t) {block : Block UInt8 size} {before : List UInt8}
    (shown : block.segment 0 before.length = before)
    (fits : before.length + (deviceLine longListing t).length < size) (rest : List Atransport) :
    ∃ block', listTransportsLoop longListing (t :: rest) block before.length =
        listTransportsLoop longListing rest block' (before ++ deviceLine longListing t).length ∧
      block'.segment 0 (before ++ deviceLine longListing t).length =
        before ++ deviceLine longListing t := by
  have length : signed (deviceLine longListing t).length = (deviceLine longListing t).length :=
    signed_of_lt (by omega) (by omega)
  obtain ⟨stored, formats, cells⟩ := formatTransport_of_le addressable shown
    (by omega : before.length + (size - before.length) ≤ size) printable (by omega)
  refine ⟨stored, ?_, cells⟩
  rw [listTransportsLoop_step addressable (by omega) formats, length, if_neg (by omega),
    List.length_append]
  rfl

/-- The loop writes the lines that leave some room, one behind the other. -/
theorem listTransportsLoop_append {longListing : Bool} {front : List Atransport}
    (printable : ∀ t ∈ front, Printable longListing t) {block : Block UInt8 size}
    {before : List UInt8} (shown : block.segment 0 before.length = before)
    (fits : (before ++ deviceLines longListing front).length < size) (rest : List Atransport) :
    ∃ block', listTransportsLoop longListing (front ++ rest) block before.length =
        listTransportsLoop longListing rest block'
          (before ++ deviceLines longListing front).length ∧
      block'.segment 0 (before ++ deviceLines longListing front).length =
        before ++ deviceLines longListing front := by
  induction front generalizing block before with
  | nil =>
      refine ⟨block, ?_, ?_⟩
      · rw [deviceLines_nil, List.append_nil, List.nil_append]
      · rw [deviceLines_nil, List.append_nil]
        exact shown
  | cons t front induction =>
      rw [List.forall_mem_cons] at printable
      rw [deviceLines_cons, ← List.append_assoc] at fits ⊢
      have total := fits
      rw [List.length_append, List.length_append] at total
      obtain ⟨stored, line, cells⟩ := listTransportsLoop_line addressable printable.1 shown
        (by omega) (front ++ rest)
      obtain ⟨block', loop, cells'⟩ := induction printable.2 cells fits
      exact ⟨block', line.trans loop, cells'⟩

/-- A line that ends with the room is discarded. -/
theorem listTransportsLoop_full {longListing : Bool} {t : Atransport}
    (printable : Printable longListing t) {block : Block UInt8 size} {before : List UInt8}
    (shown : block.segment 0 before.length = before)
    (full : before.length + (deviceLine longListing t).length = size) (rest : List Atransport) :
    ∃ block', listTransportsLoop longListing (t :: rest) block before.length =
        .ok (block', before.length) ∧
      block'.segment 0 before.length = before := by
  have length : signed (deviceLine longListing t).length = (deviceLine longListing t).length :=
    signed_of_lt (by omega) (by omega)
  obtain ⟨block', formats, cells⟩ := formatTransport_of_le addressable shown
    (by omega : before.length + (size - before.length) ≤ size) printable (by omega)
  refine ⟨block', ?_, (block'.segment_of_append cells).1⟩
  rw [listTransportsLoop_step addressable (by omega) formats, length, if_pos (by omega)]

/-- A line that is cut before its qualifiers leaves what stands before it as it is. -/
theorem listTransportsLoop_passedOver {longListing : Bool} {t : Atransport}
    {block : Block UInt8 size} {text : List UInt8}
    (shown : block.segment 0 (text ++ ascii "\n").length = text ++ ascii "\n")
    (short : (text ++ ascii "\n").length < size)
    (passed : PassedOver longListing (size - (text ++ ascii "\n").length) t)
    (rest : List Atransport) :
    ∃ block', listTransportsLoop longListing (t :: rest) block (text ++ ascii "\n").length =
        listTransportsLoop longListing rest block' (text ++ ascii "\n").length ∧
      block'.segment 0 (text ++ ascii "\n").length = text ++ ascii "\n" := by
  obtain ⟨rfl, unqualified, exceeds⟩ := passed
  have before : (text ++ ascii "\n").length = text.length + 1 := by
    rw [List.length_append, length_newline]
  rw [before] at short exceeds shown ⊢
  obtain ⟨stored, puts, grown⟩ := block.put_eq_ok (text.length + 1)
    ((lineHead t).take (size - (text.length + 1))) (by rw [List.length_take]; omega)
  rw [shown, List.append_assoc] at grown
  have kept := (stored.segment_of_append grown).1
  -- the place is moved back by one byte, to the newline
  have back : signed (((text.length + 1 : Nat) : Int) + -1) = text.length := by
    rw [signed_of_lt] <;> omega
  obtain ⟨stored', puts', grown'⟩ := stored.put_eq_ok text.length (ascii "\n" ++ [0])
    (by rw [List.length_append, length_newline, List.length_singleton]; omega)
  rw [kept, ← List.append_assoc] at grown'
  have same := (stored'.segment_of_append grown').1
  rw [before] at same
  have formats : formatTransport .msvc t block (text.length + 1 : Nat)
      (size - (text.length + 1)) true = .ok (stored', 0) := by
    rw [formatTransport_cut unqualified (by omega) (by omega) exceeds, puts, ok_bind, back, puts',
      ok_bind]
  have zero : signed (0 : Nat) = 0 := by decide
  refine ⟨stored', ?_, same⟩
  rw [listTransportsLoop_step addressable (by omega) formats, zero, if_neg (by omega), Int.add_zero]

/-- The lines that are passed over, one after the other. -/
theorem listTransportsLoop_passed {longListing : Bool} {passed : List Atransport}
    {block : Block UInt8 size} {text : List UInt8}
    (shown : block.segment 0 (text ++ ascii "\n").length = text ++ ascii "\n")
    (short : (text ++ ascii "\n").length < size)
    (skipped : ∀ t ∈ passed, PassedOver longListing (size - (text ++ ascii "\n").length) t)
    (rest : List Atransport) :
    ∃ block', listTransportsLoop longListing (passed ++ rest) block (text ++ ascii "\n").length =
        listTransportsLoop longListing rest block' (text ++ ascii "\n").length ∧
      block'.segment 0 (text ++ ascii "\n").length = text ++ ascii "\n" := by
  induction passed generalizing block with
  | nil => exact ⟨block, rfl, shown⟩
  | cons t passed induction =>
      rw [List.forall_mem_cons] at skipped
      obtain ⟨stored, line, cells⟩ :=
        listTransportsLoop_passedOver addressable shown short skipped.1 (passed ++ rest)
      obtain ⟨block', loop, cells'⟩ := induction cells skipped.2
      exact ⟨block', line.trans loop, cells'⟩

/-- The lines that fit and those that are passed over. -/
theorem listTransportsLoop_listed {longListing : Bool} {front passed : List Atransport}
    (listed : Listed longListing size front passed) (block : Block UInt8 size)
    (rest : List Atransport) :
    ∃ block', listTransportsLoop longListing (front ++ passed ++ rest) block 0 =
        listTransportsLoop longListing rest block' (deviceLines longListing front).length ∧
      block'.segment 0 (deviceLines longListing front).length = deviceLines longListing front := by
  obtain ⟨fits, printable, skipped⟩ := listed
  obtain ⟨stored, loop, cells⟩ := listTransportsLoop_append addressable printable
    (show block.segment 0 ([] : List UInt8).length = [] from rfl) fits (passed ++ rest)
  rw [List.nil_append] at loop cells
  rw [List.append_assoc]
  rcases List.eq_nil_or_concat passed with rfl | ⟨others, last, rfl⟩
  · exact ⟨stored, loop, cells⟩
  · obtain ⟨text, newline⟩ := deviceLines_newline longListing (skipped last (by simp)).1
    rw [newline] at fits loop cells skipped ⊢
    obtain ⟨block', passing, cells'⟩ := listTransportsLoop_passed addressable cells fits
      (fun t member => (skipped t member).2) rest
    exact ⟨block', loop.trans passing, cells'⟩

omit addressable in
/-- Behind the lines that fit no other one does. -/
theorem Listed.maximal {longListing : Bool} {front passed rest : List Atransport}
    (listed : Listed longListing size front passed)
    (beyond : passed = [] →
      ∀ t ∈ rest.head?, size ≤ (deviceLines longListing (front ++ [t])).length) :
    ∀ t ∈ (passed ++ rest).head?, size ≤ (deviceLines longListing (front ++ [t])).length := by
  cases passed with
  | nil => exact beyond rfl
  | cons u passed =>
      intro t member
      obtain rfl : u = t := Option.some.inj member
      have exceeds := (listed.skipped u List.mem_cons_self).2.exceeds
      rw [length_deviceLines_snoc]
      omega

/-- The terminator is put behind the lines. -/
theorem listTransports_of_loop {list : List Atransport} {longListing : Bool}
    {block looped : Block UInt8 size} {text : List UInt8} (short : text.length < size)
    (loop : listTransportsLoop longListing list block 0 = .ok (looped, text.length))
    (cells : looped.segment 0 text.length = text) :
    ∃ block', listTransports list block longListing = .ok (block', text.length) ∧
      block'.segment 0 (text.length + 1) = text ++ [0] := by
  obtain ⟨block', puts, grown⟩ := looped.put_eq_ok text.length [0]
    (by rw [List.length_singleton]; omega)
  rw [cells] at grown
  refine ⟨block', ?_, grown⟩
  rw [listTransports, loop, ok_bind]
  simp only [puts, ok_bind]
  rw [signed_of_lt (by omega) (by omega)]

theorem listsWell_of_listable {longListing : Bool} {list : List Atransport}
    (listable : Listable longListing size list) (block : Block UInt8 size) :
    ListsWell list longListing block := by
  obtain ⟨front, passed, rest, rfl, listed, last⟩ := listable
  obtain ⟨stored, loop, cells⟩ := listTransportsLoop_listed addressable listed block rest
  have ends : ∃ looped, listTransportsLoop longListing rest stored
      (deviceLines longListing front).length =
        .ok (looped, (deviceLines longListing front).length) ∧
      looped.segment 0 (deviceLines longListing front).length = deviceLines longListing front := by
    cases rest with
    | nil => exact ⟨stored, rfl, cells⟩
    | cons t rest =>
        obtain ⟨printable', full⟩ := last t rfl
        rw [length_deviceLines_snoc] at full
        exact listTransportsLoop_full addressable printable' cells full rest
  obtain ⟨looped, stop, cells'⟩ := ends
  obtain ⟨block', result, cells''⟩ := listTransports_of_loop addressable listed.fits
    (loop.trans stop) cells'
  exact ⟨block', _, result, front, passed ++ rest, List.append_assoc _ _ _, rfl, listed.fits,
    cells'', listed.maximal fun _ t member => (last t member).2.ge⟩

/-! ## The lists that are not listed well -/

omit addressable in
/-- The lines that fit are determined by the list. -/
theorem shown_eq {longListing : Bool} {shown rest front rest' : List Atransport}
    (same : shown ++ rest = front ++ rest') (fits : (deviceLines longListing shown).length < size)
    (maximal : ∀ t ∈ rest.head?, size ≤ (deviceLines longListing (shown ++ [t])).length)
    (fits' : (deviceLines longListing front).length < size)
    (maximal' : ∀ t ∈ rest'.head?, size ≤ (deviceLines longListing (front ++ [t])).length) :
    shown = front := by
  have whole : front <+: shown ++ rest := ⟨rest', same.symm⟩
  rcases List.prefix_or_prefix_of_prefix (List.prefix_append shown rest) whole with
    ⟨more, rfl⟩ | ⟨more, rfl⟩
  · cases more with
    | nil => exact (List.append_nil shown).symm
    | cons t more =>
        rw [List.append_assoc, List.append_cancel_left_eq] at same
        have exceeds := maximal t (by rw [same]; rfl)
        have part := length_deviceLines_le longListing
          (⟨more, by simp⟩ : shown ++ [t] <+: shown ++ t :: more)
        omega
  · cases more with
    | nil => exact List.append_nil front
    | cons t more =>
        rw [List.append_assoc, List.append_cancel_left_eq] at same
        have exceeds := maximal' t (by rw [← same]; rfl)
        have part := length_deviceLines_le longListing
          (⟨more, by simp⟩ : front ++ [t] <+: front ++ t :: more)
        omega

omit addressable in
theorem not_listsWell_of_error {longListing : Bool} {list : List Atransport}
    {block : Block UInt8 size} {fault : Fault}
    (loop : listTransportsLoop longListing list block 0 = .error fault) :
    ¬ListsWell list longListing block := by
  rintro ⟨block', len, result, -⟩
  rw [listTransports, loop] at result
  cases result

/-- A place other than the end of the lines that fit makes a wrong listing. -/
theorem not_listsWell_of_place {longListing : Bool} {front rest : List Atransport}
    {block looped : Block UInt8 size} {p : Int}
    (loop : listTransportsLoop longListing (front ++ rest) block 0 = .ok (looped, p))
    (fits : (deviceLines longListing front).length < size)
    (maximal : ∀ t ∈ rest.head?, size ≤ (deviceLines longListing (front ++ [t])).length)
    (lower : -1 ≤ p) (upper : p < size) (other : p ≠ (deviceLines longListing front).length) :
    ¬ListsWell (front ++ rest) longListing block := by
  rintro ⟨block', len, result, shown, behind, split, returned, short, -, maximal'⟩
  obtain rfl := shown_eq split.symm short maximal' fits maximal
  have place : signed p = p := signed_of_lt (by omega) (by omega)
  rw [listTransports, loop, ok_bind] at result
  simp only [place] at result
  cases puts : looped.put p [0] with
  | error fault =>
      rw [puts] at result
      cases result
  | ok terminated =>
      rw [puts, ok_bind, Except.ok.injEq, Prod.mk.injEq] at result
      omega

/-- A line of the short listing that has to be cut moves the place for the next line back. -/
theorem listTransportsLoop_cut {block : Block UInt8 size} {before : Nat} (short : before < size)
    {t : Atransport} (exceeds : size < before + (deviceLine false t).length) :
    ∃ block', listTransportsLoop false [t] block before = .ok (block', before - 1) := by
  have formatted : Formatted.msvc (size - before) (deviceLine false t) =
      ⟨(deviceLine false t).take (size - before), -1⟩ :=
    Formatted.msvc_of_gt (by omega)
  obtain ⟨block', puts, -⟩ := block.put_eq_ok before ((deviceLine false t).take (size - before))
    (by rw [List.length_take]; omega)
  have back : signed (unsigned (-1)) = -1 := by decide
  refine ⟨block', ?_⟩
  rw [deviceLine] at formatted puts
  have formats : formatTransport .msvc t block before (size - before) false =
      .ok (block', unsigned (-1)) := by
    rw [formatTransport]
    dsimp only [Runtime.msvc]
    rw [formatted, puts, ok_bind]
  rw [listTransportsLoop_step addressable (Nat.le_of_lt short) formats, back,
    if_neg (by omega)]
  rfl

/-- A line of the long listing that starts exactly with the rest of the buffer loses its last
character. -/
theorem listTransportsLoop_headFull {block : Block UInt8 size} {before : Nat}
    (short : before < size) {t : Atransport} (full : before + (lineHead t).length = size) :
    ∃ block', listTransportsLoop true [t] block before = .ok (block', size - 1) := by
  have formatted : Formatted.msvc (size - before) (lineHead t) =
      ⟨lineHead t, (size - before : Nat)⟩ := by
    have room : (lineHead t).length = size - before := by omega
    rw [Formatted.msvc, if_neg (by omega), if_pos (by omega), List.take_of_length_le (by omega),
      room]
  obtain ⟨block', puts, -⟩ := block.put_eq_ok before (lineHead t) (by omega)
  have nothing : unsigned ((size - before : Nat) -
      (Formatted.msvc (size - before) (lineHead t)).length) = 0 := by
    rw [formatted, Int.sub_self]
    decide
  have newline : Formatted.msvc 0 (ascii "\n") = ⟨[], -1⟩ :=
    Formatted.msvc_of_gt (by rw [length_newline]; decide)
  have one : unsigned ((0 : Nat) - -1) = 1 := by decide
  have returned : unsigned ((size - before : Nat) - (1 : Nat)) = size - before - 1 :=
    unsigned_sub (by omega) (by omega)
  have formats : formatTransport .msvc t block before (size - before) true =
      .ok (block', size - before - 1) := by
    rw [formatTransport_silent nothing (.inr rfl), formatted, newline, puts, ok_bind]
    dsimp only
    rw [one, returned]
    rfl
  have length : signed (size - before - 1 : Nat) = (size - before - 1 : Nat) :=
    signed_of_lt (by omega) (by omega)
  have place : (before : Int) + (size - before - 1 : Nat) = size - 1 := by omega
  refine ⟨block', ?_⟩
  rw [listTransportsLoop_step addressable (Nat.le_of_lt short) formats, length, place,
    if_neg (by omega), listTransportsLoop]

/-- The first line is cut before its qualifiers: the newline would go in front of the buffer. -/
theorem listTransportsLoop_first {block : Block UInt8 size} (some_room : 0 < size) {t : Atransport}
    (unqualified : Unqualified t) (exceeds : size < (lineHead t).length) :
    listTransportsLoop true [t] block 0 = .error .outOfBounds := by
  obtain ⟨stored, puts, -⟩ := block.put_eq_ok 0 ((lineHead t).take size)
    (by rw [List.length_take]; omega)
  have left : unsigned ((size : Int) - 0) = size := by
    rw [Int.sub_zero, unsigned_natCast (by omega)]
  have front : signed ((0 : Int) + -1) = -1 := by decide
  have failed : stored.put (-1) (ascii "\n" ++ [0]) = .error .outOfBounds :=
    stored.put_of_neg (by decide) (by simp)
  have formats : formatTransport .msvc t block 0 size true = .error .outOfBounds := by
    rw [formatTransport_cut unqualified some_room addressable exceeds, ← Int.ofNat_zero, puts,
      ok_bind, Int.ofNat_zero, front, failed]
    rfl
  rw [listTransportsLoop, left, formats]
  rfl

/-- A qualifier ends the program. -/
theorem listTransportsLoop_qualified {block : Block UInt8 size} {before : Nat}
    (short : before < size) {t : Atransport} (qualified : ¬Unqualified t)
    (other : before + (lineHead t).length ≠ size) (rest : List Atransport) :
    listTransportsLoop true (t :: rest) block before = .error .invalidParameter := by
  have left : unsigned (size - before) = size - before := unsigned_sub (by omega) (by omega)
  have some_room : unsigned ((size - before : Nat) -
      (Formatted.msvc (size - before) (lineHead t)).length) ≠ 0 := by
    rw [Formatted.msvc]
    dsimp only
    split
    · rw [unsigned_sub (by omega) (by omega)]
      omega
    · rw [unsigned]
      omega
  have stored : ∃ stored, block.put before
      (Formatted.msvc (size - before) (lineHead t)).written = .ok stored := by
    rw [Formatted.msvc]
    dsimp only
    split
    · obtain ⟨stored, puts, -⟩ := block.put_eq_ok before (lineHead t ++ [0])
        (by rw [List.length_append, List.length_singleton]; omega)
      exact ⟨stored, puts⟩
    · obtain ⟨stored, puts, -⟩ := block.put_eq_ok before ((lineHead t).take (size - before))
        (by rw [List.length_take]; omega)
      exact ⟨stored, puts⟩
  obtain ⟨stored, puts⟩ := stored
  rw [listTransportsLoop, left, formatTransport_qualified qualified some_room puts]
  rfl

section Snoc

variable {longListing : Bool} {front passed : List Atransport} {t : Atransport}
  (listed : Listed longListing size front passed) {block : Block UInt8 size}
  (well : ListsWell (front ++ passed ++ [t]) longListing block)

include listed well

/-- Where the list is listed well, the last line does not end elsewhere. -/
theorem Listed.place {p : Int}
    (ends : ∀ stored : Block UInt8 size, stored.segment 0 (deviceLines longListing front).length =
      deviceLines longListing front → ∃ looped,
        listTransportsLoop longListing [t] stored (deviceLines longListing front).length =
          .ok (looped, p))
    (beyond : passed = [] →
      size ≤ (deviceLines longListing front).length + (deviceLine longListing t).length)
    (lower : -1 ≤ p) (upper : p < size) : p = (deviceLines longListing front).length := by
  obtain ⟨stored, loop, cells⟩ := listTransportsLoop_listed addressable listed block [t]
  obtain ⟨looped, stop⟩ := ends stored cells
  rw [List.append_assoc] at loop well
  by_contra other
  refine not_listsWell_of_place addressable (loop.trans stop) listed.fits
    (listed.maximal fun none u member => ?_) lower upper other well
  obtain rfl : t = u := Option.some.inj member
  rw [length_deviceLines_snoc]
  exact beyond none

/-- Where the list is listed well, nothing fails. -/
theorem Listed.not_error {fault : Fault}
    (fails : ∀ stored : Block UInt8 size,
      listTransportsLoop longListing [t] stored (deviceLines longListing front).length =
        .error fault) : False := by
  obtain ⟨stored, loop, -⟩ := listTransportsLoop_listed addressable listed block [t]
  exact not_listsWell_of_error (loop.trans (fails stored)) well

theorem Listed.head_ne (long : longListing = true) :
    (deviceLines longListing front).length + (lineHead t).length ≠ size := by
  subst long
  intro full
  have longer := one_lt_length_lineHead t
  have inside := length_lineHead_le t
  have place := listed.place addressable well
    (fun stored _ => listTransportsLoop_headFull addressable listed.fits full)
    (fun _ => by omega) (by omega) (by omega)
  omega

/-- A line that does not fit is one that is passed over. -/
theorem Listed.passedOver_of_exceeds (printable : Printable longListing t)
    (exceeds : size <
      (deviceLines longListing front).length + (deviceLine longListing t).length) :
    front ≠ [] ∧
      PassedOver longListing (size - (deviceLines longListing front).length) t := by
  have fits := listed.fits
  cases longListing with
  | false =>
      have place := listed.place addressable well
        (fun stored _ => listTransportsLoop_cut addressable fits exceeds)
        (fun _ => by omega) (by omega) (by omega)
      omega
  | true =>
      have unqualified := printable rfl
      have full := listed.head_ne addressable well rfl
      rw [deviceLine_of_unqualified unqualified, List.length_append, length_newline] at exceeds
      refine ⟨?_, rfl, unqualified, by omega⟩
      rintro rfl
      rw [deviceLines_nil, List.length_nil] at fits exceeds full
      exact listed.not_error addressable well fun stored =>
        listTransportsLoop_first addressable fits unqualified (by omega)

/-- A line that can be formatted was. -/
theorem Listed.printable_last : Printable longListing t := by
  rintro rfl
  by_contra qualified
  exact listed.not_error addressable well fun stored =>
    listTransportsLoop_qualified addressable listed.fits qualified
      (listed.head_ne addressable well rfl) []

/-- No line is written behind those that were passed over. -/
theorem Listed.passed_eq_nil (printable : Printable longListing t)
    (leaves : (deviceLines longListing front).length + (deviceLine longListing t).length < size) :
    passed = [] := by
  by_contra some_passed
  have some_text := length_deviceLine_pos longListing t
  have line (stored : Block UInt8 size)
      (cells : stored.segment 0 (deviceLines longListing front).length =
        deviceLines longListing front) : ∃ looped,
      listTransportsLoop longListing [t] stored (deviceLines longListing front).length =
        .ok (looped, (deviceLines longListing front ++ deviceLine longListing t).length) := by
    obtain ⟨looped, ends, -⟩ := listTransportsLoop_line addressable printable cells leaves []
    exact ⟨looped, ends⟩
  have place := listed.place addressable well line (fun none => absurd none some_passed)
    (by omega) (by rw [List.length_append]; omega)
  rw [List.length_append] at place
  omega

/-- Where the list up to a transport can be listed, and the list with it is listed well, that list
can be listed. -/
theorem Listed.snoc : Listable longListing size (front ++ passed ++ [t]) := by
  have printable := listed.printable_last addressable well
  rcases Nat.lt_trichotomy
      ((deviceLines longListing front).length + (deviceLine longListing t).length) size with
    leaves | full | exceeds
  · obtain rfl := listed.passed_eq_nil addressable well printable leaves
    refine ⟨front ++ [t], [], [], by simp, ⟨?_, ?_, by simp⟩, by simp⟩
    · rw [length_deviceLines_snoc]
      exact leaves
    · intro u member
      rcases List.mem_append.mp member with inside | same
      · exact listed.printable u inside
      · exact List.mem_singleton.mp same ▸ printable
  · refine ⟨front, passed, [t], rfl, listed, fun u member => ?_⟩
    obtain rfl : t = u := Option.some.inj member
    exact ⟨printable, (length_deviceLines_snoc _ _ _).trans full⟩
  · refine ⟨front, passed ++ [t], [], by simp, ⟨listed.fits, listed.printable, ?_⟩, by simp⟩
    intro u member
    rcases List.mem_append.mp member with inside | same
    · exact listed.skipped u inside
    · rw [List.mem_singleton.mp same]
      exact listed.passedOver_of_exceeds addressable well printable exceeds

end Snoc

theorem listable_of_listsWell {longListing : Bool} (some_room : 0 < size) {list : List Atransport}
    (every : ∀ front, front <+: list → ∀ block : Block UInt8 size,
      ListsWell front longListing block) : Listable longListing size list := by
  induction list using List.reverseRecOn with
  | nil => exact ⟨[], [], [], rfl, ⟨some_room, by simp, by simp⟩, by simp⟩
  | append_singleton list t induction =>
      obtain ⟨front, passed, rest, rfl, listed, last⟩ := induction fun front part =>
        every front (part.trans (List.prefix_append list [t]))
      cases rest with
      | nil =>
          rw [List.append_nil] at every ⊢
          exact listed.snoc addressable (every _ (List.prefix_refl _) (Block.zeros size))
      | cons stop rest =>
          exact ⟨front, passed, stop :: rest ++ [t], List.append_assoc _ _ _, listed, last⟩

/-- The lists that a list starts with can be listed if it can. -/
theorem listsWell_of_prefix {longListing : Bool} {list : List Atransport}
    (listable : Listable longListing size list) :
    ∀ front, front <+: list → ∀ block : Block UInt8 size, ListsWell front longListing block := by
  induction list using List.reverseRecOn with
  | nil =>
      intro front part block
      rw [List.prefix_nil.mp part]
      exact listsWell_of_listable addressable listable block
  | append_singleton list t induction =>
      intro front part block
      rcases List.prefix_concat_iff.mp part with rfl | before
      · exact listsWell_of_listable addressable listable block
      · exact induction listable.dropLast front before block

end Loop

/-! ## The length in front -/

theorem digitChar_eq_hexChar : ∀ digit < 16,
    (Nat.digitChar digit).toNat.toUInt8 = hexChar digit := by
  decide

theorem hexDigits_of_lt {value : Nat} (small : value < 16) :
    hexDigits value = [hexChar value] := by
  rw [hexDigits, Nat.toDigits_of_lt_base small, List.map_singleton, digitChar_eq_hexChar _ small]

theorem hexDigits_of_le {value : Nat} (large : 16 ≤ value) :
    hexDigits value = hexDigits (value / 16) ++ [hexChar (value % 16)] := by
  have last : value % 16 < 16 := Nat.mod_lt _ (by decide)
  rw [hexDigits, Nat.toDigits_of_base_le (by decide) large, List.map_append, List.map_singleton,
    digitChar_eq_hexChar _ last]
  rfl

/-- Four digits are enough for a number below 65536. -/
theorem hexText_of_lt {value : Nat} (small : value < 65536) : hexText value = hexLength value := by
  have zero : (48 : UInt8) = hexChar 0 := by decide
  by_cases one : value < 16
  · rw [hexText, hexDigits_of_lt one, hexLength, Nat.mod_eq_of_lt one]
    simp only [show value / 4096 % 16 = 0 by omega, show value / 256 % 16 = 0 by omega,
      show value / 16 % 16 = 0 by omega]
    rfl
  · by_cases two : value / 16 < 16
    · rw [hexText, hexDigits_of_le (by omega), hexDigits_of_lt two, hexLength,
        Nat.mod_eq_of_lt two]
      simp only [show value / 4096 % 16 = 0 by omega, show value / 256 % 16 = 0 by omega]
      rfl
    · by_cases three : value / 16 / 16 < 16
      · rw [hexText, hexDigits_of_le (by omega), hexDigits_of_le (by omega),
          hexDigits_of_lt three, hexLength]
        simp only [show value / 4096 % 16 = 0 by omega,
          show value / 256 % 16 = value / 16 / 16 by omega]
        rfl
      · rw [hexText, hexDigits_of_le (by omega), hexDigits_of_le (by omega),
          hexDigits_of_le (by omega), hexDigits_of_lt (by omega), hexLength]
        simp only [show value / 4096 % 16 = value / 16 / 16 / 16 by omega,
          show value / 256 % 16 = value / 16 / 16 % 16 by omega]
        rfl

/-- The listing behind the length. -/
theorem msgListsWell_of_listsWell {size : Nat} {list : List Atransport} {rest : Block UInt8 size}
    (well : ListsWell list false rest)
    (four : ∀ front, front <+: list → (deviceLines false front).length < size →
      (deviceLines false front).length < 65536) (front : Block UInt8 4) :
    MsgListsWell list front rest := by
  obtain ⟨rest', len, lists, shown, behind, rfl, rfl, fits, cells, maximal⟩ := well
  have small := four shown (List.prefix_append shown behind) fits
  have head : (Formatted.msvc 5 (hexText (deviceLines false shown).length)).written =
      hexLength (deviceLines false shown).length ++ [0] := by
    rw [hexText_of_lt small, Formatted.msvc_of_lt (by rw [length_hexLength]; decide)]
    rfl
  obtain ⟨front', puts, text⟩ := front.put_eq_ok 0 (hexLength (deviceLines false shown).length)
    (Nat.le_refl 4)
  have written : front'.cells = hexLength (deviceLines false shown).length := by
    rw [Block.segment_self, List.nil_append, Block.segment_zero,
      List.take_of_length_le (by rw [front'.length_cells, length_hexLength])] at text
    exact text
  refine ⟨front', rest', _, ?_, ⟨shown, behind, rfl, rfl, fits, cells, maximal⟩, written, ?_⟩
  · rw [listTransportsMsg, lists, ok_bind]
    simp only [unsigned_natCast (by omega : (deviceLines false shown).length < 2 ^ 32), head]
    rw [List.take_left' (length_hexLength _), show (0 : Int) = (0 : Nat) from rfl, puts, ok_bind,
      signed_of_lt (by omega) (by omega)]
  · rw [written, Int.toNat_natCast, unhex_hexLength small]

/-- Every list that the given one starts with is listed well exactly when none of their lines has to
be cut, but for lines of the long listing that are passed over, and no qualifier is printed. -/
theorem listTransports_lists {size : Nat} (nonempty : 1 ≤ size) (addressable : size < 2 ^ 31)
    (list : List Atransport) :
    (∀ longListing, (∀ front, front <+: list → ∀ block : Block UInt8 size,
      ListsWell front longListing block) ↔ Listable longListing size list) ∧
    (Listable false size list →
      (∀ front, front <+: list → (deviceLines false front).length < size →
        (deviceLines false front).length < 65536) →
      ∀ (front : Block UInt8 4) (rest : Block UInt8 size), MsgListsWell list front rest) := by
  refine ⟨fun longListing => ⟨listable_of_listsWell addressable nonempty,
    listsWell_of_prefix addressable⟩, fun listable four front rest => ?_⟩
  exact msgListsWell_of_listsWell (listsWell_of_listable addressable listable rest) four front

/-- The buffer of `update_transports` with a device, an emulator and an offline network device. -/
theorem listTransports_lists_three :
    let list : List Atransport :=
      [⟨1, .usb, .device, some (ascii "0123456789"), none, none, none, none⟩,
        ⟨2, .localTransport, .device, some (ascii "emulator-5554"), none, none, none, none⟩,
        ⟨3, .localTransport, .offline, some (ascii "10.0.0.1:5555"), none, none, none, none⟩]
    (∀ (longListing : Bool) (block : Block UInt8 1020), ListsWell list longListing block) ∧
      ∀ (front : Block UInt8 4) (rest : Block UInt8 1020), MsgListsWell list front rest := by
  intro list
  have short : (deviceLines false list).length < 1020 := by with_unfolding_all decide
  have short' : (deviceLines true list).length < 1020 := by with_unfolding_all decide
  have unqualified : ∀ t ∈ list, Unqualified t := by
    simp [list, Unqualified]
  have listable (longListing : Bool) : Listable longListing 1020 list := by
    refine ⟨list, [], [], by simp, ⟨?_, fun t member _ => unqualified t member, by simp⟩, by simp⟩
    cases longListing with
    | false => exact short
    | true => exact short'
  have lists := listTransports_lists (by decide : 1 ≤ 1020) (by decide) list
  constructor
  · exact fun longListing => (lists.1 longListing).mpr (listable longListing) list
      (List.prefix_refl list)
  · exact lists.2 (listable false) fun front part inside => Nat.lt_trans inside (by decide)

/-- Ten devices with long names do not fit the buffer of `update_transports`, and the end of the
ninth line is lost.  The long listing ends the program at the first device with a product. -/
theorem not_listsWell_ten :
    let t : Atransport :=
      ⟨1, .localTransport, .offline, some (List.replicate 99 97), none, none, none, none⟩
    let device : Atransport := { t with product := some [98] }
    ¬ListsWell (List.replicate 10 t) false (Block.zeros 1020) ∧
      ¬ListsWell [device] true (Block.zeros 1020) := by
  intro t device
  have words : (ascii "\t").length = 1 ∧ (ascii "offline").length = 7 ∧
      (ascii " ").length = 1 := by
    with_unfolding_all decide
  have line : (deviceLine false t).length = 108 := by
    change (List.replicate 99 97 ++ ascii "\t" ++ ascii "offline" ++ ascii "\n").length = 108
    simp only [List.length_append, List.length_replicate, words, length_newline]
  have nine : (deviceLines false (List.replicate 9 t)).length = 972 := by
    simp only [List.replicate, deviceLines_cons, deviceLines_nil, List.length_append, line,
      List.length_nil]
  have head : (lineHead device).length = 107 := by
    change (padded (List.replicate 99 97) ++ ascii " " ++ ascii "offline").length = 107
    simp only [padded, List.length_append, List.length_replicate, words]
  have addressable : 1020 < 2 ^ 31 := by decide
  constructor
  · have printable : ∀ u ∈ List.replicate 9 t, Printable false u :=
      fun u _ long => absurd long (by decide)
    obtain ⟨stored, loop, -⟩ := listTransportsLoop_append addressable printable
      (show (Block.zeros 1020).segment 0 ([] : List UInt8).length = [] from rfl)
      (by rw [List.nil_append, nine]; decide) [t]
    rw [List.nil_append, nine] at loop
    obtain ⟨looped, cut⟩ :
        ∃ looped, listTransportsLoop false [t] stored (972 : Nat) =
          .ok (looped, ((972 : Nat) : Int) - 1) :=
      listTransportsLoop_cut addressable (by decide) (by rw [line]; decide)
    change ¬ListsWell (List.replicate 9 t ++ [t]) false (Block.zeros 1020)
    refine not_listsWell_of_place addressable (loop.trans cut) (by rw [nine]; decide) ?_
      (by decide) (by decide) (by rw [nine]; decide)
    intro u member
    obtain rfl : t = u := Option.some.inj member
    rw [deviceLines_append, deviceLines_cons, deviceLines_nil, List.append_nil, List.length_append,
      nine, line]
    decide
  · have qualified : ¬Unqualified device := by
      intro unqualified
      have product := unqualified (some [98]) (by simp [device])
      simp at product
    have failed : listTransportsLoop true [device] (Block.zeros 1020) (0 : Nat) =
        .error .invalidParameter :=
      listTransportsLoop_qualified addressable (by decide) qualified (by rw [head]; decide) []
    exact not_listsWell_of_error failed

end Clients
end AdbWide
