import AdbWide.Usb.Scanning
import Mathlib.Data.Nat.Bitwise
import Mathlib.Data.UInt

/-!
# Bulk writes and their terminators

The three back ends write the data of a packet, the first two in pieces of at most 4096 bytes, and
end it with an empty transfer where the other side could not tell that it is complete.  They differ
in when they take that to be so.
-/

namespace AdbWide
namespace Usb

/-! ## The code -/

/-- What a transfer returns, given the transfers before it and its data. -/
abbrev Bulk (α : Type) := List (List UInt8) → List UInt8 → α

/-- The loop over pieces of at most 4096 bytes, with the transfers that were made; it stops where
one does not write its whole piece. -/
def writePieces (bulk : Bulk Int) (data : List UInt8) (made : List (List UInt8)) :
    Bool × List (List UInt8) :=
  if data = [] then (true, made)
  else
    let xfer := data.take 4096
    if bulk made xfer ≠ xfer.length then (false, made ++ [xfer])
    else writePieces bulk (data.drop 4096) (made ++ [xfer])
termination_by data.length
decreasing_by
  simp only [List.length_drop]
  have := List.length_pos_of_ne_nil ‹data ≠ []›
  omega

/-- `usb_write` over `usb_bulk_write`, and over what it does to see whether it needs a zero. -/
def usbWriteWith (bulk : Bulk Int) (needZero : Bool) (data : List UInt8) :
    Int × List (List UInt8) :=
  match writePieces bulk data [] with
  | (false, made) => (-1, made)
  | (true, made) => if needZero then (bulk made [], made ++ [[]]) else (0, made)

namespace Linux

/-- `usb_write` of `usb_linux.c`. -/
def usbWrite (usbBulkWrite : Bulk Int) (zeroMask : UInt32) (data : List UInt8) :
    Int × List (List UInt8) :=
  usbWriteWith usbBulkWrite (zeroMask ≠ 0 && UInt32.ofNat data.length &&& zeroMask = 0) data

end Linux

namespace Libusb

/-- `libusb_endpoint_descriptor`. -/
structure EndpointDescriptor where
  bEndpointAddress : UInt8
  bmAttributes : UInt8
  wMaxPacketSize : UInt16

/-- `libusb_interface_descriptor`; `bNumEndpoints` is the length of the list. -/
structure InterfaceDescriptor where
  endpoint : List EndpointDescriptor
  bInterfaceClass : UInt8
  bInterfaceSubClass : UInt8
  bInterfaceProtocol : UInt8

/-- What `usb_handle` takes from the descriptors. -/
structure UsbHandle where
  zeroMask : UInt32
  /-- `end_point_address[0]`. -/
  readAddress : UInt8
  /-- `end_point_address[1]`. -/
  writeAddress : UInt8

/-- What the loop over the endpoints makes of one that is bulk. -/
def UsbHandle.take (uh : UsbHandle) (bInterfaceProtocol : UInt8) (edesc : EndpointDescriptor) :
    UsbHandle :=
  let uh :=
    if edesc.bEndpointAddress &&& 0x80 ≠ 0 then { uh with readAddress := edesc.bEndpointAddress }
    else { uh with writeAddress := edesc.bEndpointAddress }
  if bInterfaceProtocol = 0x01 then { uh with zeroMask := edesc.wMaxPacketSize.toUInt32 - 1 }
  else uh

/-- The loop over the endpoints: whether it came to its end. -/
def checkEndpoints (bInterfaceProtocol : UInt8) :
    List EndpointDescriptor → UsbHandle → Bool × UsbHandle
  | [], uh => (true, uh)
  | edesc :: endpoint, uh =>
      if edesc.bmAttributes ≠ 2 then (false, uh)
      else checkEndpoints bInterfaceProtocol endpoint (uh.take bInterfaceProtocol edesc)

/-- `check_usb_interface`, of the first of the settings. -/
def checkUsbInterface (vendorIds : List Nat) (altsetting : List InterfaceDescriptor)
    (idVendor : UInt16) (uh : UsbHandle) : Int × UsbHandle :=
  match altsetting with
  | [] => (-1, uh)
  | idesc :: _ =>
      if idesc.endpoint.length ≠ 2 then (-1, uh)
      else
        match checkEndpoints idesc.bInterfaceProtocol idesc.endpoint uh with
        | (false, uh) => (-1, uh)
        | (true, uh) =>
            if isAdbInterface vendorIds idVendor idesc.bInterfaceClass idesc.bInterfaceSubClass
                idesc.bInterfaceProtocol then (1, uh)
            else (-1, uh)

/-- What `libusb_bulk_transfer` gives back. -/
structure Transfer where
  r : Int
  transferred : Nat

/-- `usb_bulk_write` of `usb_libusb.c`. -/
def usbBulkWrite (libusbBulkTransfer : Bulk Transfer) : Bulk Int := fun made data =>
  let transfer := libusbBulkTransfer made data
  if transfer.r ≠ 0 then transfer.r else transfer.transferred

/-- `usb_write` of `usb_libusb.c`. -/
def usbWrite (libusbBulkTransfer : Bulk Transfer) (zeroMask : UInt32) (data : List UInt8) :
    Int × List (List UInt8) :=
  usbWriteWith (usbBulkWrite libusbBulkTransfer)
    (zeroMask = 1 && UInt32.ofNat data.length &&& zeroMask = 0) data

end Libusb

namespace Windows

/-- What `AdbWriteEndpointSync` gives back. -/
structure Write where
  ret : Bool
  written : Nat

/-- `usb_write` of `usb_windows.cpp`, for a handle that is not `NULL`. -/
def usbWrite (adbWriteEndpointSync : Bulk Write) (zeroMask : UInt32) (data : List UInt8) :
    Int × List (List UInt8) :=
  let write := adbWriteEndpointSync [] data
  if write.ret ∧ write.written = data.length then
    if zeroMask ≠ 0 ∧ UInt32.ofNat data.length &&& zeroMask = 0 then (0, [data, []])
    else (0, [data])
  else (-1, [data])

end Windows

/-! ## Framing -/

/-- The data goes out in pieces that are not empty, and an empty transfer ends it if and only if
the mask is set and the packet size divides the length. -/
def Framed (zeroMask : UInt32) (data : List UInt8) (made : List (List UInt8)) : Prop :=
  ∃ pieces, (∀ piece ∈ pieces, piece ≠ []) ∧ pieces.flatten = data ∧
    made = pieces ++ if zeroMask ≠ 0 ∧ zeroMask.toNat + 1 ∣ data.length then [[]] else []

section Framing

variable {zeroMask : UInt32} {data : List UInt8} {bulk : Bulk Int}

/-- What is framed shows whether an empty transfer is due. -/
theorem framed_pieces_iff {pieces : List (List UInt8)} (full : ∀ piece ∈ pieces, piece ≠ [])
    (whole : pieces.flatten = data) (needZero : Bool) :
    Framed zeroMask data (pieces ++ if needZero then [[]] else []) ↔
      (needZero = true ↔ zeroMask ≠ 0 ∧ zeroMask.toNat + 1 ∣ data.length) := by
  constructor
  · rintro ⟨pieces', full', -, made⟩
    by_cases due : zeroMask ≠ 0 ∧ zeroMask.toNat + 1 ∣ data.length
    · rw [if_pos due] at made
      cases needZero with
      | true => exact iff_of_true rfl due
      | false =>
          rw [if_neg Bool.false_ne_true, List.append_nil] at made
          exact absurd rfl (full [] (made ▸ by simp))
    · rw [if_neg due, List.append_nil] at made
      cases needZero with
      | true => exact absurd rfl (full' [] (made ▸ by simp))
      | false => exact iff_of_false Bool.false_ne_true due
  · intro same
    exact ⟨pieces, full, whole, by simp only [same]⟩

/-- Where every transfer writes all it is given, the loop writes all of the data. -/
theorem writePieces_succeeds (succeeds : ∀ made xfer, bulk made xfer = xfer.length)
    (data : List UInt8) (made : List (List UInt8)) :
    ∃ pieces, (∀ piece ∈ pieces, piece ≠ []) ∧ pieces.flatten = data ∧
      writePieces bulk data made = (true, made ++ pieces) := by
  induction data, made using writePieces.induct bulk with
  | case1 made => exact ⟨[], by simp, rfl, by rw [writePieces, if_pos rfl, List.append_nil]⟩
  | case2 data made nonempty xfer short => exact absurd (succeeds made xfer) short
  | case3 data made nonempty xfer whole induction =>
      obtain ⟨pieces, full, flat, ran⟩ := induction
      refine ⟨xfer :: pieces, ?_, ?_, ?_⟩
      · have first : xfer ≠ [] := by simpa [xfer] using nonempty
        simpa using ⟨first, full⟩
      · rw [List.flatten_cons, flat, List.take_append_drop]
      · rw [writePieces, if_neg nonempty]
        dsimp only
        rw [if_neg whole, ran, List.append_assoc, List.singleton_append]

theorem usbWriteWith_succeeds (succeeds : ∀ made xfer, bulk made xfer = xfer.length)
    (needZero : Bool) (data : List UInt8) :
    ∃ pieces, (∀ piece ∈ pieces, piece ≠ []) ∧ pieces.flatten = data ∧
      usbWriteWith bulk needZero data = (0, pieces ++ if needZero then [[]] else []) := by
  obtain ⟨pieces, full, flat, ran⟩ := writePieces_succeeds succeeds data []
  refine ⟨pieces, full, flat, ?_⟩
  rw [usbWriteWith, ran]
  cases needZero with
  | true => simp [succeeds]
  | false => simp

/-- The mask of a packet size picks the remainder. -/
theorem and_mask_iff {k : Nat} (mask : zeroMask.toNat + 1 = 2 ^ k)
    (short : data.length < 2 ^ 31) :
    UInt32.ofNat data.length &&& zeroMask = 0 ↔ zeroMask.toNat + 1 ∣ data.length := by
  have eq : zeroMask.toNat = 2 ^ k - 1 := by omega
  have length : (UInt32.ofNat data.length).toNat = data.length := by
    rw [UInt32.toNat_ofNat']
    omega
  rw [← UInt32.toNat_inj, UInt32.toNat_and, length, mask, eq, Nat.and_two_pow_sub_one_eq_mod,
    Nat.dvd_iff_mod_eq_zero]
  rfl

/-- The rule of the first and the third back end. -/
theorem linux_framed {k : Nat} (mask : zeroMask.toNat + 1 = 2 ^ k) (short : data.length < 2 ^ 31)
    (succeeds : ∀ made xfer, bulk made xfer = xfer.length) :
    Framed zeroMask data (Linux.usbWrite bulk zeroMask data).2 := by
  obtain ⟨pieces, full, whole, ran⟩ := usbWriteWith_succeeds succeeds
    (zeroMask ≠ 0 && UInt32.ofNat data.length &&& zeroMask = 0) data
  rw [Linux.usbWrite, ran, framed_pieces_iff full whole]
  simp [and_mask_iff mask short]

theorem libusb_framed_iff {k : Nat} (mask : zeroMask.toNat + 1 = 2 ^ k)
    (short : data.length < 2 ^ 31) {transfer : Bulk Libusb.Transfer}
    (succeeds : ∀ made xfer, transfer made xfer = ⟨0, xfer.length⟩) :
    Framed zeroMask data (Libusb.usbWrite transfer zeroMask data).2 ↔
      (zeroMask ≤ 1 ∨ ¬zeroMask.toNat + 1 ∣ data.length) := by
  have succeeds (made : List (List UInt8)) (xfer : List UInt8) :
      Libusb.usbBulkWrite transfer made xfer = xfer.length := by
    rw [Libusb.usbBulkWrite, succeeds]
    rfl
  obtain ⟨pieces, full, whole, ran⟩ := usbWriteWith_succeeds succeeds
    (zeroMask = 1 && UInt32.ofNat data.length &&& zeroMask = 0) data
  rw [Libusb.usbWrite, ran, framed_pieces_iff full whole]
  simp only [Bool.and_eq_true, decide_eq_true_eq, and_mask_iff mask short]
  have small : zeroMask ≤ 1 ↔ zeroMask = 0 ∨ zeroMask = 1 := by
    rw [UInt32.le_iff_toNat_le, ← UInt32.toNat_inj, ← UInt32.toNat_inj]
    exact Nat.le_one_iff_eq_zero_or_eq_one
  rw [small]
  by_cases due : zeroMask.toNat + 1 ∣ data.length
  · by_cases one : zeroMask = 1
    · simp [one] at due ⊢
    · simp [due, one]
  · simp [due]

theorem windows_framed {k : Nat} (mask : zeroMask.toNat + 1 = 2 ^ k) (nonempty : data ≠ [])
    (short : data.length < 2 ^ 31) {write : Bulk Windows.Write}
    (succeeds : ∀ made xfer, write made xfer = ⟨true, xfer.length⟩) :
    Framed zeroMask data (Windows.usbWrite write zeroMask data).2 := by
  refine ⟨[data], by simpa using nonempty, by simp, ?_⟩
  rw [Windows.usbWrite, succeeds]
  by_cases due : zeroMask ≠ 0 ∧ zeroMask.toNat + 1 ∣ data.length
  · simp [and_mask_iff mask short, due]
  · simp [and_mask_iff mask short, due]

/-- The three back ends send the same if and only if no empty transfer is due that only two of them
make. -/
theorem framed_iff {k : Nat} {transfer : Bulk Libusb.Transfer} {write : Bulk Windows.Write}
    (mask : zeroMask.toNat + 1 = 2 ^ k) (nonempty : data ≠ []) (short : data.length < 2 ^ 31)
    (linux : ∀ made xfer, bulk made xfer = xfer.length)
    (libusb : ∀ made xfer, transfer made xfer = ⟨0, xfer.length⟩)
    (windows : ∀ made xfer, write made xfer = ⟨true, xfer.length⟩) :
    Framed zeroMask data (Linux.usbWrite bulk zeroMask data).2 ∧
        Framed zeroMask data (Libusb.usbWrite transfer zeroMask data).2 ∧
          Framed zeroMask data (Windows.usbWrite write zeroMask data).2 ↔
      zeroMask ≤ 1 ∨ ¬zeroMask.toNat + 1 ∣ data.length := by
  rw [← libusb_framed_iff mask short libusb]
  constructor
  · exact fun framed => framed.2.1
  · exact fun framed =>
      ⟨linux_framed mask short linux, framed, windows_framed mask nonempty short windows⟩

/-- 5000 bytes go out in two transfers, and endpoints with packets of two bytes get an empty one
behind them from all three. -/
theorem framed_iff_5000 :
    Framed 1 (.replicate 5000 7)
        (Linux.usbWrite (fun _ xfer => xfer.length) 1 (.replicate 5000 7)).2 ∧
      Framed 1 (.replicate 5000 7)
          (Libusb.usbWrite (fun _ xfer => ⟨0, xfer.length⟩) 1 (.replicate 5000 7)).2 ∧
        Framed 1 (.replicate 5000 7)
          (Windows.usbWrite (fun _ xfer => ⟨true, xfer.length⟩) 1 (.replicate 5000 7)).2 := by
  have length : (List.replicate 5000 (7 : UInt8)).length = 5000 := List.length_replicate
  have nonempty : List.replicate 5000 (7 : UInt8) ≠ [] :=
    List.ne_nil_of_length_pos (by rw [length]; decide)
  have short : (List.replicate 5000 (7 : UInt8)).length < 2 ^ 31 := by
    rw [length]
    decide
  exact (framed_iff (k := 1) rfl nonempty short (fun _ _ => rfl) (fun _ _ => rfl)
    fun _ _ => rfl).mpr (.inl (by decide))

/-- What fills a packet of its endpoint is not ended over libusb. -/
theorem not_framed_full :
    ¬Framed 511 (List.replicate 512 7)
      (Libusb.usbWrite (fun _ xfer => ⟨0, xfer.length⟩) 511 (List.replicate 512 7)).2 := by
  have length : (List.replicate 512 (7 : UInt8)).length = 512 := List.length_replicate
  rw [libusb_framed_iff (k := 9) rfl (by rw [length]; decide) fun _ _ => rfl, length]
  decide

end Framing

/-! ## Where the mask comes from -/

namespace Libusb

/-- Version 1 of the protocol takes the mask from the last endpoint. -/
theorem checkEndpoints_mask {endpoint : List EndpointDescriptor} {uh : UsbHandle}
    (bulk : (checkEndpoints 1 endpoint uh).1 = true) (nonempty : endpoint ≠ []) :
    ∃ edesc ∈ endpoint,
      (checkEndpoints 1 endpoint uh).2.zeroMask = edesc.wMaxPacketSize.toUInt32 - 1 := by
  induction endpoint generalizing uh with
  | nil => exact absurd rfl nonempty
  | cons edesc endpoint induction =>
      rw [checkEndpoints] at bulk ⊢
      split at bulk
      · exact nomatch bulk
      · next isBulk =>
          rw [if_neg isBulk]
          cases endpoint with
          | nil => exact ⟨edesc, List.mem_singleton_self edesc, rfl⟩
          | cons next rest =>
              obtain ⟨last, mem, mask⟩ := induction bulk (List.cons_ne_nil next rest)
              exact ⟨last, List.mem_cons_of_mem edesc mem, mask⟩

theorem toNat_sub_one_add_one {size : UInt16} (positive : 0 < size.toNat) :
    (size.toUInt32 - 1).toNat + 1 = size.toNat := by
  have one_le : 1 ≤ size.toUInt32 := by
    rw [UInt32.le_iff_toNat_le, UInt16.toNat_toUInt32]
    exact positive
  rw [UInt32.toNat_sub_of_le _ _ one_le, UInt16.toNat_toUInt32]
  exact Nat.sub_add_cancel positive

/-- The mask of an interface that matches is one below a power of two, if the packet sizes of its
endpoints are powers of two. -/
theorem checkUsbInterface_mask {vendorIds : List Nat} {idesc : InterfaceDescriptor}
    {rest : List InterfaceDescriptor} {idVendor : UInt16} {uh : UsbHandle}
    (powers : ∀ edesc ∈ idesc.endpoint, ∃ k, edesc.wMaxPacketSize.toNat = 2 ^ k)
    (found : (checkUsbInterface vendorIds (idesc :: rest) idVendor uh).1 = 1) :
    ∃ k, (checkUsbInterface vendorIds (idesc :: rest) idVendor uh).2.zeroMask.toNat + 1 =
      2 ^ k := by
  rw [checkUsbInterface] at found ⊢
  split at found
  · exact nomatch found
  · next two =>
      rw [if_neg two]
      cases checked : checkEndpoints idesc.bInterfaceProtocol idesc.endpoint uh with
      | mk bulk checkedUh =>
          rw [checked] at found
          cases bulk with
          | false => exact nomatch found
          | true =>
              dsimp only at found ⊢
              split at found
              · next isAdb =>
                  rw [if_pos isAdb]
                  have protocol : idesc.bInterfaceProtocol = 1 := by
                    simp only [isAdbInterface, Bool.and_eq_true, decide_eq_true_eq] at isAdb
                    exact isAdb.2
                  have nonempty : idesc.endpoint ≠ [] := by
                    rintro empty
                    exact two (by rw [empty]; decide)
                  rw [protocol] at checked
                  obtain ⟨edesc, mem, mask⟩ := checkEndpoints_mask
                    (congrArg Prod.fst checked) nonempty
                  obtain ⟨k, size⟩ := powers edesc mem
                  refine ⟨k, ?_⟩
                  rw [checked] at mask
                  rw [mask, ← size]
                  exact toNat_sub_one_add_one (size ▸ Nat.two_pow_pos k)
              · exact nomatch found

end Libusb

end Usb
end AdbWide
