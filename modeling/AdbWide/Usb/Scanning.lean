import AdbWide.Reader
import Mathlib.Tactic.SplitIfs
import Mathlib.Logic.Basic

/-!
# The descriptors of a device

`find_usb_device` reads what a device node says of the device, and walks from descriptor to
descriptor by the lengths that they give themselves, until it comes to the interface of adb.
-/

namespace AdbWide
namespace Usb

open Reader (fetch value places Within Visits)

/-! ## The code -/

/-- `is_adb_interface`, for the vendors in the table. -/
def isAdbInterface (vendorIds : List Nat) (vid : UInt16)
    (usbClass usbSubclass usbProtocol : UInt8) : Bool :=
  vid.toNat ∈ vendorIds && usbClass = 0xff && usbSubclass = 0x42 && usbProtocol = 0x1

/-- A member of two bytes. -/
def fetchShort (place : Nat) : Reader UInt16 := do
  let low ← fetch place
  let high ← fetch (place + 1)
  return low.toUInt16 ||| high.toUInt16 <<< 8

/-- What `register_device_callback` is told of the device. -/
structure Found where
  /-- `NULL` is `none`. -/
  devpath : Option (List UInt8)
  epIn : UInt8
  epOut : UInt8
  ifc : UInt8
  serialIndex : UInt8
  zeroMask : UInt32

/-- The device path, which `pathbuf` has room for 127 bytes of: what stands behind the last slash
of the link, if there is a link. -/
def devpathOf (link : Option (List UInt8)) : Option (List UInt8) :=
  link.bind fun link =>
    if 47 ∈ link then
      some (("usb:".toUTF8.toList ++ (link.reverse.takeWhile (· ≠ 47)).reverse).take 127)
    else none

/-- Whether there are two endpoint descriptors. -/
def areEndpoints (ep1 ep2 : Nat) : Reader Bool := do
  let length1 ← fetch ep1
  if length1 ≠ 7 then return false
  else do
    let type1 ← fetch (ep1 + 1)
    if type1 ≠ 5 then return false
    else do
      let length2 ← fetch ep2
      if length2 ≠ 7 then return false
      else do
        let type2 ← fetch (ep2 + 1)
        return type2 = 5

/-- Whether both endpoints are bulk. -/
def areBulk (ep1 ep2 : Nat) : Reader Bool := do
  let attributes1 ← fetch (ep1 + 3)
  if attributes1 ≠ 2 then return false
  else do
    let attributes2 ← fetch (ep2 + 3)
    return attributes2 = 2

/-- `zero_mask` of an interface: version 1 of the protocol needs packets that end a transfer. -/
def zeroMaskOf (interface ep1 : Nat) : Reader UInt32 := do
  let protocol ← fetch (interface + 7)
  if protocol ≠ 0x01 then return 0
  else do
    let wMaxPacketSize ← fetchShort (ep1 + 4)
    return wMaxPacketSize.toUInt32 - 1

/-- What is told of an interface that matches. -/
def matched (link : Option (List UInt8)) (interface ep1 ep2 : Nat) : Reader Found := do
  let zeroMask ← zeroMaskOf interface ep1
  let address1 ← fetch (ep1 + 2)
  let address2 ← fetch (ep2 + 2)
  let number ← fetch (interface + 2)
  let serialIndex ← fetch 16
  if address1 &&& 0x80 ≠ 0 then
    return ⟨devpathOf link, address1, address2, number, serialIndex, zeroMask⟩
  else return ⟨devpathOf link, address2, address1, number, serialIndex, zeroMask⟩

/-- One round of the loop over the descriptors: the next `bufptr`, or the end of the loop. -/
def descriptor (vendorIds : List Nat) (link : Option (List UInt8)) (vid : UInt16)
    (bufend bufptr : Nat) : Reader (Nat ⊕ Option Found) :=
  if bufend ≤ bufptr then return .inr none
  else do
    let length ← fetch bufptr
    let type ← fetch (bufptr + 1)
    if type ≠ 4 then return .inl (bufptr + length.toNat)
    else if length ≠ 9 then return .inr none
    else do
      let bNumEndpoints ← fetch (bufptr + 4)
      if bNumEndpoints ≠ 2 then return .inl (bufptr + 9)
      else do
        let usbClass ← fetch (bufptr + 5)
        let usbSubclass ← fetch (bufptr + 6)
        let usbProtocol ← fetch (bufptr + 7)
        if ¬isAdbInterface vendorIds vid usbClass usbSubclass usbProtocol then
          return .inl (bufptr + 9)
        else if bufend < bufptr + 23 then return .inr none
        else do
          let endpoints ← areEndpoints (bufptr + 9) (bufptr + 16)
          if ¬endpoints then return .inr none
          else do
            let bulk ← areBulk (bufptr + 9) (bufptr + 16)
            if ¬bulk then return .inl (bufptr + 23)
            else do
              let found ← matched link bufptr (bufptr + 9) (bufptr + 16)
              return .inr (some found)

/-- `desclength`, a `size_t`, from what `adb_read` returns; a failure is `none`. -/
def desclength : Option Nat → Nat
  | none => 0xffffffffffffffff
  | some bytes => bytes

/-- How far `bufend` lies behind the start of `devdesc`.  After a failure the sum of the pointer
and `desclength` wraps to the byte in front of it, so that no place of the buffer lies before it. -/
def bufendOf : Option Nat → Nat
  | none => 0
  | some bytes => bytes

/-- What `find_usb_device` makes of a device node that gives so many bytes, with so many rounds of
the loop over the descriptors. -/
def scan (vendorIds : List Nat) (link : Option (List UInt8)) (bytes : Option Nat)
    (rounds : Nat) : Reader (Option (Option Found)) :=
  if desclength bytes < 27 then return some none
  else do
    let bLength ← fetch 0
    if bLength ≠ 18 then return some none
    else do
      let bDescriptorType ← fetch 1
      if bDescriptorType ≠ 1 then return some none
      else do
        let vid ← fetchShort 8
        let _pid ← fetchShort 10
        let configLength ← fetch 18
        if configLength ≠ 9 then return some none
        else do
          let configType ← fetch 19
          if configType ≠ 2 then return some none
          else Reader.loop (descriptor vendorIds link vid (bufendOf bytes)) rounds 27

/-! ## Scans that end and stay inside -/

section Scans

variable {vendorIds : List Nat} {link : Option (List UInt8)} {vid : UInt16}
  {memory : Nat → UInt8}

/-- The loop ends, and it reads nothing but the bytes that were read from the node. -/
structure Safe (vendorIds : List Nat) (link : Option (List UInt8)) (bytes : Option Nat)
    (memory : Nat → UInt8) : Prop where
  ends : ∃ rounds found, value (scan vendorIds link bytes rounds) memory = some found
  inside : ∀ rounds, Within (bytes.getD 0) memory (scan vendorIds link bytes rounds)

/-- The device and the configuration descriptor are what they should be. -/
def Headed (memory : Nat → UInt8) : Prop :=
  memory 0 = 18 ∧ memory 1 = 1 ∧ memory 18 = 9 ∧ memory 19 = 2

/-- `idVendor` of the device. -/
def vidOf (memory : Nat → UInt8) : UInt16 :=
  (memory 8).toUInt16 ||| (memory 9).toUInt16 <<< 8

/-- The interface descriptor at a place is that of adb. -/
def IsAdb (vendorIds : List Nat) (vid : UInt16) (memory : Nat → UInt8) (place : Nat) : Prop :=
  memory (place + 4) = 2 ∧
    isAdbInterface vendorIds vid (memory (place + 5)) (memory (place + 6)) (memory (place + 7))

/-- Where descriptors start that the loop comes to, each behind the one before it.  It comes to none
behind an interface of another length than 9, or behind that of adb, unless two endpoints follow it
that are not both bulk. -/
inductive Starts (vendorIds : List Nat) (vid : UInt16) (memory : Nat → UInt8) (bytes : Nat) :
    Nat → Prop
  | first : Starts vendorIds vid memory bytes 27
  | other {place : Nat} (before : Starts vendorIds vid memory bytes place) (more : place < bytes)
      (type : memory (place + 1) ≠ 4) :
      Starts vendorIds vid memory bytes (place + (memory place).toNat)
  | interface {place : Nat} (before : Starts vendorIds vid memory bytes place)
      (more : place < bytes) (type : memory (place + 1) = 4) (length : memory place = 9)
      (different : ¬IsAdb vendorIds vid memory place) :
      Starts vendorIds vid memory bytes (place + 9)
  | endpoints {place : Nat} (before : Starts vendorIds vid memory bytes place)
      (type : memory (place + 1) = 4) (length : memory place = 9)
      (same : IsAdb vendorIds vid memory place) (enough : place + 23 ≤ bytes)
      (endpoints : memory (place + 9) = 7 ∧ memory (place + 10) = 5 ∧
        memory (place + 16) = 7 ∧ memory (place + 17) = 5)
      (different : ¬(memory (place + 12) = 2 ∧ memory (place + 19) = 2)) :
      Starts vendorIds vid memory bytes (place + 23)

/-- A descriptor that the loop can go on from: its length and its type were read, it is not empty,
and of an interface there is what is looked at. -/
structure Proper (memory : Nat → UInt8) (bytes place : Nat) : Prop where
  header : place + 2 ≤ bytes
  nonempty : memory (place + 1) ≠ 4 → memory place ≠ 0
  interface : memory (place + 1) = 4 → memory place = 9 →
    place + 5 ≤ bytes ∧ (memory (place + 4) = 2 → place + 8 ≤ bytes)

/-! ## One descriptor -/

@[simp] theorem value_areEndpoints (ep1 ep2 : Nat) :
    value (areEndpoints ep1 ep2) memory = decide (memory ep1 = 7 ∧ memory (ep1 + 1) = 5 ∧
      memory ep2 = 7 ∧ memory (ep2 + 1) = 5) := by
  simp only [areEndpoints, Reader.value_bind, Reader.value_ite, Reader.value_pure,
    Reader.value_fetch]
  grind

@[simp] theorem value_areBulk (ep1 ep2 : Nat) :
    value (areBulk ep1 ep2) memory = decide (memory (ep1 + 3) = 2 ∧ memory (ep2 + 3) = 2) := by
  simp only [areBulk, Reader.value_bind, Reader.value_ite, Reader.value_pure,
    Reader.value_fetch]
  grind

/-- Where the loop goes on. -/
theorem value_descriptor_iff {bytes place next : Nat} :
    value (descriptor vendorIds link vid bytes place) memory = .inl next ↔
      place < bytes ∧
        (memory (place + 1) ≠ 4 ∧ next = place + (memory place).toNat ∨
          memory (place + 1) = 4 ∧ memory place = 9 ∧
            (¬IsAdb vendorIds vid memory place ∧ next = place + 9 ∨
              IsAdb vendorIds vid memory place ∧ place + 23 ≤ bytes ∧
                (memory (place + 9) = 7 ∧ memory (place + 10) = 5 ∧
                  memory (place + 16) = 7 ∧ memory (place + 17) = 5) ∧
                ¬(memory (place + 12) = 2 ∧ memory (place + 19) = 2) ∧ next = place + 23)) := by
  simp only [descriptor, Reader.value_bind, Reader.value_ite, Reader.value_pure,
    Reader.value_fetch, value_areEndpoints, value_areBulk, IsAdb, Nat.add_assoc]
  grind

/-- The endpoints are looked at inside their seven bytes each. -/
theorem within_areEndpoints {bytes ep : Nat} (enough : ep + 14 ≤ bytes) :
    Within bytes memory (areEndpoints ep (ep + 7)) := by
  simp only [areEndpoints, Reader.within_bind, Reader.within_ite, Reader.within_pure,
    Reader.within_fetch]
  grind

theorem within_areBulk {bytes ep : Nat} (enough : ep + 14 ≤ bytes) :
    Within bytes memory (areBulk ep (ep + 7)) := by
  simp only [areBulk, Reader.within_bind, Reader.within_ite, Reader.within_pure,
    Reader.within_fetch]
  grind

theorem within_matched {bytes interface : Nat} (enough : interface + 23 ≤ bytes) :
    Within bytes memory (matched link interface (interface + 9) (interface + 16)) := by
  simp only [matched, zeroMaskOf, fetchShort, Reader.within_bind, Reader.within_ite,
    Reader.within_pure, Reader.within_fetch]
  grind

/-- What is read of a descriptor is there if and only if its header is, and of an interface what
is looked at. -/
theorem within_descriptor_iff {bytes start : Nat} (more : start < bytes) :
    Within bytes memory (descriptor vendorIds link vid bytes start) ↔
      start + 2 ≤ bytes ∧ (memory (start + 1) = 4 → memory start = 9 →
        start + 5 ≤ bytes ∧ (memory (start + 4) = 2 → start + 8 ≤ bytes)) := by
  have endpoints := @within_areEndpoints memory bytes (start + 9)
  have bulk := @within_areBulk memory bytes (start + 9)
  have told := @within_matched link memory bytes start
  simp only [descriptor, Reader.within_bind, Reader.within_ite, Reader.within_pure,
    Reader.within_fetch, Reader.value_fetch]
  grind

/-- The loop visits what follows descriptor by descriptor. -/
theorem visits_iff_starts {bytes place : Nat} :
    Visits (descriptor vendorIds link vid bytes) memory 27 place ↔
      Starts vendorIds vid memory bytes place := by
  constructor
  · intro visits
    induction visits with
    | start => exact .first
    | next _ goes before =>
        obtain ⟨more, ⟨type, rfl⟩ | ⟨type, length, ⟨different, rfl⟩ |
          ⟨same, enough, endpoints, different, rfl⟩⟩⟩ := value_descriptor_iff.mp goes
        · exact before.other more type
        · exact before.interface more type length different
        · exact before.endpoints type length same enough endpoints different
  · intro starts
    induction starts with
    | first => exact .start
    | other _ more type visits =>
        exact visits.next (value_descriptor_iff.mpr ⟨more, .inl ⟨type, rfl⟩⟩)
    | interface _ more type length different visits =>
        exact visits.next
          (value_descriptor_iff.mpr ⟨more, .inr ⟨type, length, .inl ⟨different, rfl⟩⟩⟩)
    | endpoints _ type length same enough endpoints different visits =>
        exact visits.next (value_descriptor_iff.mpr
          ⟨by omega, .inr ⟨type, length, .inr ⟨same, enough, endpoints, different, rfl⟩⟩⟩)

/-- Behind a descriptor that is not empty the next one starts further on. -/
theorem moves_of_nonempty {bytes place next : Nat}
    (nonempty : memory (place + 1) ≠ 4 → memory place ≠ 0)
    (goes : value (descriptor vendorIds link vid bytes place) memory = .inl next) :
    place < next := by
  obtain ⟨-, ⟨type, rfl⟩ | ⟨-, -, ⟨-, rfl⟩ | ⟨-, -, -, -, rfl⟩⟩⟩ := value_descriptor_iff.mp goes
  · have positive : (memory place).toNat ≠ 0 := fun zero => nonempty type (UInt8.toNat_inj.mp zero)
    omega
  · omega
  · omega

/-- The loop over the descriptors ends and stays inside if and only if they are proper. -/
theorem loop_safe_iff {bytes : Nat} :
    Reader.Ends (descriptor vendorIds link vid bytes) memory 27 ∧
        (∀ rounds, Within bytes memory
          (Reader.loop (descriptor vendorIds link vid bytes) rounds 27)) ↔
      ∀ place, Starts vendorIds vid memory bytes place → place < bytes →
        Proper memory bytes place := by
  rw [Reader.within_loop_iff]
  constructor
  · rintro ⟨ends, within⟩ place starts more
    have visits := (@visits_iff_starts vendorIds link vid memory bytes place).mpr starts
    obtain ⟨header, interface⟩ := (within_descriptor_iff more).mp (within place visits)
    refine ⟨header, fun type empty => ?_, interface⟩
    refine Reader.not_ends_of_again ?_ (ends.visited visits)
    exact value_descriptor_iff.mpr ⟨more, .inl ⟨type, by rw [empty]; rfl⟩⟩
  · intro proper
    constructor
    · refine Reader.ends_of_measure (bytes - ·) fun place visits next goes => ?_
      have more := (value_descriptor_iff.mp goes).1
      have nonempty := (proper place (visits_iff_starts.mp visits) more).nonempty
      have moves := moves_of_nonempty nonempty goes
      omega
    · intro place visits
      by_cases more : place < bytes
      · obtain ⟨header, -, interface⟩ := proper place (visits_iff_starts.mp visits) more
        exact (within_descriptor_iff more).mpr ⟨header, interface⟩
      · rw [descriptor, if_pos (by omega)]
        exact Reader.within_pure _

/-- What is left of a scan, if there is enough for the first two descriptors. -/
theorem scan_safe_iff {bytes : Nat} (enough : 27 ≤ bytes) :
    Safe vendorIds link (some bytes) memory ↔ (Headed memory →
      Reader.Ends (descriptor vendorIds link (vidOf memory) bytes) memory 27 ∧
        ∀ rounds, Within bytes memory
          (Reader.loop (descriptor vendorIds link (vidOf memory) bytes) rounds 27)) := by
  have long : ¬desclength (some bytes) < 27 := Nat.not_lt.mpr enough
  have ends_iff (rounds : Nat) : (∃ found, value (scan vendorIds link (some bytes) rounds) memory =
      some found) ↔ (Headed memory → ∃ found, value (Reader.loop
        (descriptor vendorIds link (vidOf memory) bytes) rounds 27) memory = some found) := by
    simp only [scan, if_neg long, bufendOf, fetchShort, Reader.value_bind, Reader.value_ite,
      Reader.value_pure, Reader.value_fetch, Headed, vidOf]
    split_ifs with bLength bDescriptorType configLength configType
    · exact iff_of_true ⟨none, rfl⟩ fun headed => absurd headed.1 bLength
    · exact iff_of_true ⟨none, rfl⟩ fun headed => absurd headed.2.1 bDescriptorType
    · exact iff_of_true ⟨none, rfl⟩ fun headed => absurd headed.2.2.1 configLength
    · exact iff_of_true ⟨none, rfl⟩ fun headed => absurd headed.2.2.2 configType
    · exact ⟨fun ends _ => ends, fun ends => ends (by grind)⟩
  have within_iff (rounds : Nat) : Within bytes memory (scan vendorIds link (some bytes) rounds) ↔
      (Headed memory → Within bytes memory (Reader.loop
        (descriptor vendorIds link (vidOf memory) bytes) rounds 27)) := by
    simp only [scan, if_neg long, bufendOf, fetchShort, Reader.value_bind, Reader.value_fetch,
      Reader.value_pure, Reader.within_bind, Reader.within_ite, Reader.within_pure,
      Reader.within_fetch, Headed, vidOf]
    grind
  constructor
  · rintro ⟨⟨rounds, ends⟩, inside⟩ headed
    obtain ⟨found, ends⟩ := (ends_iff rounds).mp ends headed
    exact ⟨⟨rounds, found, ends⟩, fun rounds => (within_iff rounds).mp (inside rounds) headed⟩
  · intro safe
    refine ⟨?_, fun rounds => (within_iff rounds).mpr fun headed => (safe headed).2 rounds⟩
    by_cases headed : Headed memory
    · obtain ⟨rounds, found, ends⟩ := (safe headed).1
      exact ⟨rounds, (ends_iff rounds).mpr fun _ => ⟨found, ends⟩⟩
    · exact ⟨0, (ends_iff 0).mpr fun headed' => absurd headed' headed⟩

theorem not_safe_error : ¬Safe vendorIds link none memory := by
  intro safe
  have inside := safe.inside 0
  rw [scan, if_neg (by decide), Reader.within_bind, Reader.within_fetch] at inside
  exact Nat.not_lt_zero 0 inside.1

/-- A scan ends and stays inside if and only if the node could be read, and all descriptors that
the loop comes to behind the first two are proper. -/
theorem safe_iff_proper (bytes : Option Nat) :
    Safe vendorIds link bytes memory ↔ ∃ size, bytes = some size ∧
      (size < 27 ∨ ¬Headed memory ∨ ∀ place, Starts vendorIds (vidOf memory) memory size place →
        place < size → Proper memory size place) := by
  cases bytes with
  | none => exact iff_of_false not_safe_error (by simp)
  | some size =>
      by_cases short : size < 27
      · refine iff_of_true ⟨⟨0, none, ?_⟩, fun rounds => ?_⟩ ⟨size, rfl, .inl short⟩
        · rw [scan, desclength, if_pos short, Reader.value_pure]
        · rw [scan, desclength, if_pos short]
          exact Reader.within_pure _
      · rw [scan_safe_iff (by omega), loop_safe_iff]
        constructor
        · intro safe
          exact ⟨size, rfl, .inr (imp_iff_not_or.mp safe)⟩
        · rintro ⟨other, same, rest⟩
          obtain rfl := Option.some.inj same
          exact imp_iff_not_or.mpr (rest.resolve_left short)

/-- A descriptor of length zero behind the first two. -/
def emptyDescriptor : Nat → UInt8
  | 0 => 18
  | 1 => 1
  | 18 => 9
  | 19 => 2
  | _ => 0

/-- The loop stays at the empty descriptor. -/
theorem not_safe_emptyDescriptor : ¬Safe [] none (some 29) emptyDescriptor := by
  intro safe
  have loops := (scan_safe_iff (by decide)).mp safe ⟨rfl, rfl, rfl, rfl⟩
  have proper := loop_safe_iff.mp loops 27 .first (by decide)
  exact proper.nonempty (by decide) rfl

end Scans

end Usb
end AdbWide
