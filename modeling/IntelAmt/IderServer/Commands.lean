import IntelAmt.IderServer.Driving
import IntelAmt.Ider.WritePath

/-!
# The engine as a pair of block devices

What the images of an engine hold is a block device in each slot, and a read or
a write command is answered as an access to that device is.
-/

namespace IntelAmt
namespace IderServer

open Foundation Ider

variable {ref : Type}

/-!
## The slots of an engine
-/

def blockSize (device : DeviceCode) : Nat := 2 ^ device.sectorShift

/-- The device is what the image holds, and nobody cuts its file short. -/
structure Backs (device : DeviceCode) (image : MediaImage)
    (d : BlockDevice Bytes) : Prop where
  count : d.count = image.blocks
  writable : d.writable = image.writable
  holds : Holds (blockSize device) image.file d
  uncut : image.shortReads = []

structure Presents (slots : Slots) (s : HandlerState ref) : Prop where
  empty : forall device, s.devices device = none -> slots device = none
  filled : forall device i, s.devices device = some i ->
    exists d, slots device = some d ∧ Backs device (s.images i) d

theorem Presents.congr {slots : Slots} {s s' : HandlerState ref}
    (h : Presents slots s) (hdevices : s'.devices = s.devices)
    (himages : forall i, (s.images i).SameDisk (s'.images i)) :
    Presents slots s' where
  empty := by
    rw [hdevices]
    exact h.empty
  filled := by
    intro device i hsome
    rw [hdevices] at hsome
    rcases h.filled device i hsome with ⟨d, hslot, hbacks⟩
    have hsame := himages i
    refine ⟨d, hslot, ?_, ?_, ?_, hsame.shortReads hbacks.uncut⟩
    · rw [hsame.blocks, hbacks.count]
    · rw [hsame.writable, hbacks.writable]
    · rw [hsame.file]
      exact hbacks.holds

/-!
## Commands
-/

def deviceFlags (device : DeviceCode) : UInt8 :=
  if device.code = 0xB0 then 0x10 else 0x00

theorem commandDevice_deviceFlags (device : DeviceCode) :
    commandDevice (deviceFlags device) = device := by
  cases device <;> rfl

theorem beNat_packBE_of_lt {width n : Nat} (h : n < 256 ^ width) :
    beNat (packBE width n) = n := by
  rw [beNat, packBE, List.reverse_reverse, leNat_packLE_of_lt h]

theorem extentCdb_length (op : UInt8) (lba length : Nat) :
    (extentCdb op lba length).length = 12 := by
  simp [extentCdb]

theorem extentCdb_fields {lba length : Nat} (op : UInt8)
    (hlba : lba < 2 ^ 32) (hlength : length < 2 ^ 16) :
    beNat (slice (extentCdb op lba length) 2 4) = lba ∧
      beNat (slice (extentCdb op lba length) 7 2) = length := by
  have hfirst : slice (extentCdb op lba length) 2 4 = packBE 4 lba := rfl
  have hsecond : slice (extentCdb op lba length) 7 2 = packBE 2 length := rfl
  rw [hfirst, hsecond]
  exact ⟨beNat_packBE_of_lt hlba, beNat_packBE_of_lt hlength⟩

theorem readExtent_extentCdb {lba length : Nat} (hlba : lba < 2 ^ 32)
    (hlength : length < 2 ^ 16) :
    readExtent (extentCdb opRead10 lba length) = some (lba, length) := by
  rcases extentCdb_fields opRead10 hlba hlength with ⟨hfirst, hsecond⟩
  have hread : readExtent (extentCdb opRead10 lba length) =
      some (beNat (slice (extentCdb opRead10 lba length) 2 4),
        beNat (slice (extentCdb opRead10 lba length) 7 2)) := rfl
  rw [hread, hfirst, hsecond]

theorem writeExtent_extentCdb {lba length : Nat} (hlba : lba < 2 ^ 32)
    (hlength : length < 2 ^ 16) :
    writeExtent (extentCdb opWrite10 lba length) = some (lba, length) := by
  rcases extentCdb_fields opWrite10 hlba hlength with ⟨hfirst, hsecond⟩
  have hwrite : writeExtent (extentCdb opWrite10 lba length) =
      some (beNat (slice (extentCdb opWrite10 lba length) 2 4),
        beNat (slice (extentCdb opWrite10 lba length) 7 2)) := rfl
  rw [hwrite, hfirst, hsecond]

variable [DecidableEq ref]

theorem run_commandMessage {s : HandlerState ref} (k : Nat)
    (featureRegister flags : UInt8) {cdb : Bytes} (hcdb : cdb.length = 12) :
    (dispatch (commandMessage k featureRegister flags cdb)).run s =
      (handleScsi (commandDevice flags) cdb featureRegister flags).run s := by
  generalize hmessage : commandMessage k featureRegister flags cdb = message
  have hsplit : message = inboundHeader cmdCommandWritten k ++
      (([0x00, featureRegister, 0x00, 0x00, 0x00, 0x00, flags, 0x00] : Bytes)
        ++ cdb) := by
    rw [← hmessage, commandMessage, List.append_assoc]
  have hwhole : Whole message := by
    rw [hsplit]
    apply whole_fixed
    rw [List.length_append, hcdb]
    rfl
  have hcmdid : messageCmdid message = cmdCommandWritten := by
    rw [hsplit]
    rfl
  have hflags : commandFlags message = flags := by
    rw [hsplit]
    rfl
  have hfeature : message.getD 9 0 = featureRegister := by
    rw [hsplit]
    rfl
  have hcommand : commandCdb message = cdb := by
    have hslice : commandCdb message = slice cdb 0 12 := by
      rw [hsplit]
      rfl
    rw [hslice, slice, List.drop_zero, List.take_of_length_le (by lia)]
  rw [run_dispatch_command hwhole hcmdid,
    run_onCommandWritten (hwhole.command_length hcmdid), hflags, hfeature,
    hcommand]

end IderServer
end IntelAmt
