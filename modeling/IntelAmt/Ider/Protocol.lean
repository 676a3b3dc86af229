import IntelAmt.Foundation.Bytes

/-!
# IDE-R wire constants

Command ids, device codes, start modes and the canned SCSI replies, and the
layout of an outbound frame.
-/

namespace IntelAmt
namespace Ider

open Foundation

/-!
## Command ids
-/

def cmdOpenSession : UInt8 := 0x40
def cmdOpenSessionReply : UInt8 := 0x41
def cmdClose : UInt8 := 0x43
def cmdKeepalivePing : UInt8 := 0x44
def cmdKeepalivePong : UInt8 := 0x45
def cmdResetOccurred : UInt8 := 0x46
def cmdResetOccurredResponse : UInt8 := 0x47
def cmdDisableEnableFeatures : UInt8 := 0x48
def cmdStatusData : UInt8 := 0x49
def cmdErrorOccurred : UInt8 := 0x4A
def cmdHeartbeat : UInt8 := 0x4B
def cmdCommandWritten : UInt8 := 0x50
def cmdCommandEndResponse : UInt8 := 0x51
def cmdGetDataFromHost : UInt8 := 0x52
def cmdDataFromHost : UInt8 := 0x53
def cmdDataToHost : UInt8 := 0x54

/-- Inbound commands of a fixed length, with the length of the whole frame. -/
def fixedLengthCommands : List (UInt8 × Nat) :=
  [(cmdClose, 8), (cmdKeepalivePing, 8), (cmdKeepalivePong, 8),
   (cmdHeartbeat, 8), (cmdResetOccurred, 9), (cmdStatusData, 13),
   (cmdErrorOccurred, 11), (cmdCommandWritten, 28)]

/-!
## Devices and start modes
-/

/-- The two device slots: floppy / USB-R has 512-byte sectors and is the only
one that may be writable, CD/DVD has 2048-byte sectors. -/
inductive DeviceCode where
  | floppy
  | cdrom
deriving DecidableEq, Repr

def DeviceCode.code : DeviceCode -> UInt8
  | floppy => 0xA0
  | cdrom => 0xB0

/-- When the feature toggle engages IDE-R; callers pass one of these three. -/
inductive StartMode where
  | onReboot
  | graceful
  | immediate
deriving DecidableEq, Repr

def StartMode.value : StartMode -> Nat
  | onReboot => 0x01 + 0x08
  | graceful => 0x01 + 0x10
  | immediate => 0x01 + 0x18

def maxReadWriteBuffer : Nat := 8192

/-!
## Canned SCSI replies
-/

def msLs120DiskPage : Bytes :=
  [0x00, 0x26, 0x31, 0x80, 0x00, 0x00, 0x00, 0x00, 0x05, 0x1E, 0x10, 0xA9,
   0x08, 0x20, 0x02, 0x00, 0x03, 0xC3, 0x00, 0x00, 0x00, 0x00, 0x00, 0x00,
   0x00, 0x00, 0x00, 0x00, 0x28, 0x00, 0x00, 0x00, 0x00, 0x00, 0x00, 0x00,
   0x02, 0xD0, 0x00, 0x00]

def ms3fLs120 : Bytes :=
  [0x00, 0x5C, 0x24, 0x80, 0x00, 0x00, 0x00, 0x00, 0x01, 0x0A, 0x00, 0x01,
   0x00, 0x00, 0x00, 0x00, 0x02, 0x00, 0x00, 0x00, 0x03, 0x16, 0x00, 0xA0,
   0x00, 0x00, 0x00, 0x00, 0x00, 0x12, 0x02, 0x00, 0x00, 0x00, 0x00, 0x00,
   0x00, 0x00, 0xA0, 0x00, 0x00, 0x00, 0x05, 0x1E, 0x10, 0xA9, 0x08, 0x20,
   0x02, 0x00, 0x03, 0xC3, 0x00, 0x00, 0x00, 0x00, 0x00, 0x00, 0x00, 0x00,
   0x00, 0x00, 0x28, 0x00, 0x00, 0x00, 0x00, 0x00, 0x00, 0x00, 0x02, 0xD0,
   0x00, 0x00, 0x08, 0x0A, 0x00, 0x00, 0x00, 0x00, 0x00, 0x00, 0x00, 0x00,
   0x00, 0x00, 0x0B, 0x06, 0x00, 0x00, 0x00, 0x11, 0x24, 0x31]

def msFloppyDiskPage : Bytes :=
  [0x00, 0x26, 0x24, 0x80, 0x00, 0x00, 0x00, 0x00, 0x05, 0x1E, 0x04, 0xB0,
   0x02, 0x12, 0x02, 0x00, 0x00, 0x50, 0x00, 0x00, 0x00, 0x00, 0x00, 0x00,
   0x00, 0x00, 0x00, 0x00, 0x28, 0x00, 0x00, 0x00, 0x00, 0x00, 0x00, 0x00,
   0x02, 0xD0, 0x00, 0x00]

def ms3fFloppy : Bytes :=
  [0x00, 0x5C, 0x24, 0x80, 0x00, 0x00, 0x00, 0x00, 0x01, 0x0A, 0x00, 0x01,
   0x00, 0x00, 0x00, 0x00, 0x02, 0x00, 0x00, 0x00, 0x03, 0x16, 0x00, 0xA0,
   0x00, 0x00, 0x00, 0x00, 0x00, 0x12, 0x02, 0x00, 0x00, 0x00, 0x00, 0x00,
   0x00, 0x00, 0xA0, 0x00, 0x00, 0x00, 0x05, 0x1E, 0x04, 0xB0, 0x02, 0x12,
   0x02, 0x00, 0x00, 0x50, 0x00, 0x00, 0x00, 0x00, 0x00, 0x00, 0x00, 0x00,
   0x00, 0x00, 0x28, 0x00, 0x00, 0x00, 0x00, 0x00, 0x00, 0x00, 0x02, 0xD0,
   0x00, 0x00, 0x08, 0x0A, 0x00, 0x00, 0x00, 0x00, 0x00, 0x00, 0x00, 0x00,
   0x00, 0x00, 0x0B, 0x06, 0x00, 0x00, 0x00, 0x11, 0x24, 0x31]

def msCd1a : Bytes :=
  [0x00, 0x12, 0x01, 0x80, 0x00, 0x00, 0x00, 0x00, 0x1A, 0x0A, 0x00, 0x00,
   0x00, 0x00, 0x00, 0x00, 0x00, 0x00, 0x00, 0x00]

def msCd1d : Bytes :=
  [0x00, 0x12, 0x01, 0x80, 0x00, 0x00, 0x00, 0x00, 0x1D, 0x0A, 0x00, 0x00,
   0x00, 0x00, 0x00, 0x00, 0x00, 0x00, 0x00, 0x00]

def msCd2a : Bytes :=
  [0x00, 0x20, 0x01, 0x80, 0x00, 0x00, 0x00, 0x00, 0x2A, 0x18, 0x00, 0x00,
   0x00, 0x00, 0x20, 0x00, 0x00, 0x00, 0x00, 0x00, 0x00, 0x80, 0x00, 0x00,
   0x00, 0x00, 0x00, 0x00, 0x00, 0x00, 0x00, 0x00, 0x00, 0x00]

def ms3fCd : Bytes :=
  [0x00, 0x28, 0x01, 0x80, 0x00, 0x00, 0x00, 0x00, 0x01, 0x06, 0x00, 0xFF,
   0x00, 0x00, 0x00, 0x00, 0x2A, 0x18, 0x00, 0x00, 0x00, 0x00, 0x02, 0x00,
   0x00, 0x00, 0x00, 0x00, 0x00, 0x80, 0x00, 0x00, 0x00, 0x00, 0x00, 0x00,
   0x00, 0x00, 0x00, 0x00, 0x00, 0x00]

def msFloppyErrorRecovery : Bytes :=
  [0x00, 0x12, 0x24, 0x80, 0x00, 0x00, 0x00, 0x00, 0x01, 0x0A, 0x00, 0x01,
   0x00, 0x00, 0x00, 0x00, 0x02, 0x00, 0x00, 0x00]

def msLs120ErrorRecovery : Bytes :=
  [0x00, 0x12, 0x31, 0x80, 0x00, 0x00, 0x00, 0x00, 0x01, 0x0A, 0x00, 0x01,
   0x00, 0x00, 0x00, 0x00, 0x02, 0x00, 0x00, 0x00]

def msCdErrorRecovery : Bytes :=
  [0x00, 0x0E, 0x01, 0x80, 0x00, 0x00, 0x00, 0x00, 0x01, 0x06, 0x00, 0xFF,
   0x00, 0x00, 0x00, 0x00]

def cdConfigProfileList : Bytes :=
  [0x00, 0x00, 0x03, 0x04, 0x00, 0x08, 0x01, 0x00]

def cdConfigCore : Bytes := [0x00, 0x01, 0x03, 0x04, 0x00, 0x00, 0x00, 0x02]

def cdConfigMorphing : Bytes := [0x00, 0x02, 0x03, 0x04, 0x00, 0x00, 0x00, 0x00]

def cdConfigRemovable : Bytes :=
  [0x00, 0x03, 0x03, 0x04, 0x29, 0x00, 0x00, 0x02]

def cdConfigRandom : Bytes :=
  [0x00, 0x10, 0x01, 0x08, 0x00, 0x00, 0x08, 0x00, 0x00, 0x01, 0x00, 0x00]

def cdConfigRead : Bytes := [0x00, 0x1E, 0x03, 0x00]

def cdConfigPower : Bytes := [0x01, 0x00, 0x03, 0x00]

def cdConfigTimeout : Bytes := [0x01, 0x05, 0x03, 0x00]

def getPerformanceReply : Bytes :=
  [0x00, 0x00, 0x00, 0x04, 0x02, 0x00, 0x00, 0x00]

/-- The write-protect flag in byte 3 of every canned mode page. -/
def writeProtectBit : UInt8 := 0x80

/-- A copy of a canned mode page with the write-protect bit set or cleared. -/
def modeSense10Page (data : Bytes) (writable : Bool) : Bytes :=
  data.modify 3 fun b =>
    if writable then b &&& ~~~ writeProtectBit else b ||| writeProtectBit

/-!
## Outbound frames
-/

def header (cmdid : UInt8) (seq : Nat) (completed dma : Bool) : Bytes :=
  let attributes : UInt8 :=
    (if dma then 0x01 else 0x00) |||
      (if completed && decide (50 < cmdid) then 0x02 else 0x00)
  ([cmdid, 0x00, 0x00, attributes] : Bytes) ++ packLE 4 (seq % 2 ^ 32)

/-- What the engine asks to be sent; the sequence number is added on the way
out. -/
structure Outbound where
  cmdid : UInt8
  payload : Bytes
  completed : Bool
  dma : Bool
deriving DecidableEq, Repr

def Outbound.frame (out : Outbound) (seq : Nat) : Bytes :=
  header out.cmdid seq out.completed out.dma ++ out.payload

/-- COMMAND_END_RESPONSE.  `error` selects the shape on the wire: the error
form does not transmit the sense triple at all. -/
def commandEndResponse (error : Bool) (sense : UInt8) (device : UInt8)
    (asc asq : UInt8) : Outbound where
  cmdid := cmdCommandEndResponse
  payload := (List.replicate 12 0x00 : Bytes) ++
    if error then
      [0xC5, 0x00, 0x03, 0x00, 0x00, 0x00, device, 0x50, 0x00, 0x00, 0x00]
    else
      [0x87, sense <<< 4, 0x03, 0x00, 0x00, 0x00, device, 0x51, sense, asc,
       asq]
  completed := true
  dma := false

def dataToHost (device : UInt8) (completed : Bool) (data : Bytes)
    (dma : Bool) : Outbound where
  cmdid := cmdDataToHost
  payload :=
    let dmalen := if dma then 0 else data.length
    ([0x00, UInt8.ofNat (data.length % 256),
      UInt8.ofNat (data.length / 256 % 256), 0x00,
      (if dma then 0xB4 else 0xB5), 0x00, 0x02, 0x00,
      UInt8.ofNat (dmalen % 256), UInt8.ofNat (dmalen / 256 % 256), device,
      0x58] : Bytes) ++
    (if completed then
      [0x85, 0x00, 0x03, 0x00, 0x00, 0x00, device, 0x50, 0x00, 0x00, 0x00,
       0x00, 0x00, 0x00]
    else List.replicate 14 0x00) ++
    data
  completed := completed
  dma := dma

def getDataFromHost (device : UInt8) (chunk : Nat) : Outbound where
  cmdid := cmdGetDataFromHost
  payload :=
    ([0x00, UInt8.ofNat (chunk % 256), UInt8.ofNat (chunk / 256 % 256), 0x00,
      0xB5, 0x00, 0x00, 0x00, UInt8.ofNat (chunk % 256),
      UInt8.ofNat (chunk / 256 % 256), device, 0x58] : Bytes) ++
    List.replicate 11 0x00
  completed := false
  dma := false

/-!
## Reading a frame back
-/

def frameCmdid (frame : Bytes) : UInt8 := frame.getD 0 0

def frameAttributes (frame : Bytes) : UInt8 := frame.getD 3 0

def frameSeq (frame : Bytes) : Nat := leNat (slice frame 4 4)

def framePayload (frame : Bytes) : Bytes := frame.drop 8

@[simp] theorem header_length (cmdid : UInt8) (seq : Nat)
    (completed dma : Bool) :
    (header cmdid seq completed dma).length = 8 := by
  simp [header]

@[simp] theorem frameCmdid_frame (out : Outbound) (seq : Nat) :
    frameCmdid (out.frame seq) = out.cmdid := rfl

@[simp] theorem frameAttributes_frame (out : Outbound) (seq : Nat) :
    frameAttributes (out.frame seq) =
      (if out.dma then 0x01 else 0x00) |||
        (if out.completed && decide (50 < out.cmdid) then 0x02 else 0x00) :=
  rfl

@[simp] theorem framePayload_frame (out : Outbound) (seq : Nat) :
    framePayload (out.frame seq) = out.payload := by
  rw [framePayload, Outbound.frame, ← header_length out.cmdid seq
    out.completed out.dma, List.drop_left]

theorem frameSeq_frame (out : Outbound) (seq : Nat) :
    frameSeq (out.frame seq) = seq % 2 ^ 32 := by
  have hslice :
      slice (out.frame seq) 4 4 = packLE 4 (seq % 2 ^ 32) := by
    simp [slice, Outbound.frame, header, packLE]
  rw [frameSeq, hslice, leNat_packLE]
  simp

end Ider
end IntelAmt
