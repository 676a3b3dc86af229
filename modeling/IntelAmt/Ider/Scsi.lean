import IntelAmt.Ider.Engine

/-!
# SCSI target emulation

The handlers of one command descriptor block, in the order of the source, with
its quirks: the error form of COMMAND_END_RESPONSE drops the sense triple,
READ_CAPACITY answers to the raw device flags, and a table of contents in an
unknown format is not answered at all.
-/

namespace IntelAmt
namespace Ider

open Foundation

variable {ref : Type} [DecidableEq ref]

/-!
## Operation codes
-/

def opTestUnitReady : UInt8 := 0x00
def opRead6 : UInt8 := 0x08
def opWrite6 : UInt8 := 0x0A
def opModeSense6 : UInt8 := 0x1A
def opStartStop : UInt8 := 0x1B
def opAllowMediumRemoval : UInt8 := 0x1E
def opReadFormatCapacities : UInt8 := 0x23
def opReadCapacity : UInt8 := 0x25
def opRead10 : UInt8 := 0x28
def opWrite10 : UInt8 := 0x2A
def opWriteAndVerify : UInt8 := 0x2E
def opReadToc : UInt8 := 0x43
def opGetConfiguration : UInt8 := 0x46
def opGetEventStatus : UInt8 := 0x4A
def opReadDiscInfo : UInt8 := 0x51
def opModeSelect10 : UInt8 := 0x55
def opModeSense10 : UInt8 := 0x5A
def opGetPerformance : UInt8 := 0xAC

/-!
## Commands answered at once
-/

/-- The unit attention is reported once per attached image. -/
def scsiTestUnitReady (device : DeviceCode) (image : Option ref) :
    EngineM ref Unit := do
  match image with
  | none => sendCommandEndResponse true 0x02 device 0x3A 0x00
  | some i =>
      let state ← Exec.reads fun s => s.images i
      if state.mediaChangeReported = false then
        Exec.update fun s =>
          s.setImage i { s.images i with mediaChangeReported := true }
        sendCommandEndResponse true 0x06 device 0x28 0x00
      else
        sendCommandEndResponse true 0x00 device 0x00 0x00

def scsiModeSense6 (device : DeviceCode) (image : Option ref) (cdb : Bytes)
    (dma : Bool) : EngineM ref Unit := do
  let page ← byteAt cdb 2
  let subpage ← byteAt cdb 3
  if page = 0x3F ∧ subpage = 0x00 then
    match image with
    | none => sendCommandEndResponse true 0x02 device 0x3A 0x00
    | some i =>
        let state ← Exec.reads fun s => s.images i
        let a : UInt8 := if device = DeviceCode.floppy then 0x00 else 0x05
        let b : UInt8 := if state.writable then 0x00 else 0x80
        sendDataToHost device.code true [0, a, b, 0] dma
  else
    sendCommandEndResponse true 0x05 device 0x24 0x00

def scsiAllowMediumRemoval (device : DeviceCode) (image : Option ref) :
    EngineM ref Unit :=
  match image with
  | none => sendCommandEndResponse true 0x02 device 0x3A 0x00
  | some _ => sendCommandEndResponse true 0x00 device 0x00 0x00

/-- A fixed descriptor, whatever the size of the medium. -/
def scsiReadFormatCapacities (device : DeviceCode) (image : Option ref)
    (dma : Bool) : EngineM ref Unit := do
  match image with
  | none => sendCommandEndResponse false 0x05 device 0x24 0x00
  | some i =>
      let state ← Exec.reads fun s => s.images i
      if state.size = 0 then
        sendCommandEndResponse false 0x05 device 0x24 0x00
      else
        let payload := packBE 4 8 ++
          [0x00, 0x00, 0x0B, 0x40, 0x02, 0x00, 0x02, 0x00]
        sendDataToHost device.code true payload dma

/-- The data names the raw device flags, not the device code. -/
def scsiReadCapacity (device : DeviceCode) (image : Option ref)
    (deviceFlags : UInt8) (dma : Bool) : EngineM ref Unit := do
  match image with
  | none => sendCommandEndResponse false 0x02 device 0x3A 0x00
  | some i =>
      let state ← Exec.reads fun s => s.images i
      if state.size = 0 then
        sendCommandEndResponse false 0x02 device 0x3A 0x00
      else
        let blocksMinusOne : Int := (state.blocks : Int) - 1
        let blocksizeHi : UInt8 :=
          if device = DeviceCode.cdrom then 0x08 else 0x02
        let packed ← checkedPackBE 4 blocksMinusOne
        let payload := packed ++ [0x00, 0x00, blocksizeHi, 0x00]
        sendDataToHost deviceFlags true payload dma

def tocSessionInfo : Bytes :=
  [0x00, 0x0A, 0x01, 0x01, 0x00, 0x14, 0x01, 0x00, 0x00, 0x00, 0x00, 0x00]

def tocMsf : Bytes :=
  [0x00, 0x12, 0x01, 0x01, 0x00, 0x14, 0x01, 0x00, 0x00, 0x00, 0x02, 0x00,
   0x00, 0x14, 0xAA, 0x00, 0x00, 0x00, 0x34, 0x13]

def tocLba : Bytes :=
  [0x00, 0x12, 0x01, 0x01, 0x00, 0x14, 0x01, 0x00, 0x00, 0x00, 0x00, 0x00,
   0x00, 0x14, 0xAA, 0x00, 0x00, 0x00, 0x00, 0x00]

/-- The requested format: byte 2, or the control byte when byte 2 has none. -/
def readTocFormat (cdb : Bytes) : EngineM ref UInt8 := do
  let formatByte ← byteAt cdb 2
  if formatByte &&& 0x07 = 0 then
    let controlByte ← byteAt cdb 9
    pure (controlByte >>> 6)
  else pure (formatByte &&& 0x07)

def scsiReadToc (device : DeviceCode) (cdb : Bytes) (dma : Bool) :
    EngineM ref Unit := do
  if device ≠ DeviceCode.cdrom then
    sendCommandEndResponse true 0x05 device 0x20 0x00
  else
    let msfByte ← byteAt cdb 1
    let fmt ← readTocFormat cdb
    if fmt = 1 then
      sendDataToHost device.code true tocSessionInfo dma
    else if fmt = 0 then
      let toc := if msfByte &&& 0x02 ≠ 0 then tocMsf else tocLba
      sendDataToHost device.code true toc dma
    else pure ()

/-- The feature descriptor that survives the overwriting cascade of
independent tests; `sendall` degenerates to the last one that matches. -/
def configurationDescriptor (sendall : Bool) (firstcode : Nat) :
    Option Bytes :=
  let selects := fun code : Nat =>
    firstcode = code ∨ (sendall = true ∧ firstcode < code)
  let r := if firstcode = 0x0 then some cdConfigProfileList else none
  let r := if selects 0x1 then some cdConfigCore else r
  let r := if selects 0x2 then some cdConfigMorphing else r
  let r := if selects 0x3 then some cdConfigRemovable else r
  let r := if selects 0x10 then some cdConfigRandom else r
  let r := if selects 0x1E then some cdConfigRead else r
  let r := if selects 0x100 then some cdConfigPower else r
  let r := if selects 0x105 then some cdConfigTimeout else r
  r

/-- The whole reply, before the allocation length cuts it. -/
def configurationBody (sendall : Bool) (firstcode : Nat) : Bytes :=
  match configurationDescriptor sendall firstcode with
  | none => packBE 4 0x0008 ++ packBE 4 4
  | some r => packBE 4 0x0008 ++ packBE 4 (r.length + 4) ++ r

def scsiGetConfiguration (device : DeviceCode) (cdb : Bytes) (dma : Bool) :
    EngineM ref Unit := do
  let requestType ← byteAt cdb 1
  let firstcode ← unpackBE 2 cdb 2
  let buflen ← unpackBE 2 cdb 7
  if buflen = 0 then
    sendDataToHost device.code true (packBE 4 0x003C ++ packBE 4 0x0008) dma
  else
    let sendall := decide (requestType ≠ 2)
    let body := configurationBody sendall firstcode
    let body := if buflen < body.length then body.take buflen else body
    sendDataToHost device.code true body dma

def scsiGetEventStatus (device : DeviceCode) (image : Option ref)
    (cdb : Bytes) (dma : Bool) : EngineM ref Unit := do
  let polled ← byteAt cdb 1
  let classes ← byteAt cdb 4
  if polled ≠ 0x01 ∧ classes ≠ 0x10 then
    sendCommandEndResponse true 0x05 device 0x26 0x01
  else
    let present : UInt8 := if image.isSome then 0x02 else 0x00
    sendDataToHost device.code true [0x00, present, 0x80, 0x00] dma

/-- The canned page for a page code; floppy pages come in two sizes. -/
def modeSense10Canned (device : DeviceCode) (page : UInt8)
    (sectorCount : Nat) : Option Bytes :=
  if page = 0x01 then
    if device = DeviceCode.floppy then
      some (if sectorCount ≤ 0xB40 then msFloppyErrorRecovery
        else msLs120ErrorRecovery)
    else some msCdErrorRecovery
  else if page = 0x05 then
    if device = DeviceCode.floppy then
      some (if sectorCount ≤ 0xB40 then msFloppyDiskPage
        else msLs120DiskPage)
    else none
  else if page = 0x3F then
    if device = DeviceCode.floppy then
      some (if sectorCount ≤ 0xB40 then ms3fFloppy else ms3fLs120)
    else some ms3fCd
  else if page = 0x1A ∧ device = DeviceCode.cdrom then some msCd1a
  else if page = 0x1D ∧ device = DeviceCode.cdrom then some msCd1d
  else if page = 0x2A ∧ device = DeviceCode.cdrom then some msCd2a
  else none

def scsiModeSense10 (device : DeviceCode) (image : Option ref) (cdb : Bytes)
    (dma : Bool) : EngineM ref Unit := do
  let buflen ← unpackBE 2 cdb 7
  if buflen = 0 then
    sendDataToHost device.code true (packBE 4 0x003C ++ packBE 4 0x0008) dma
  else
    let images ← Exec.reads fun s => s.images
    let sectorCount := (image.map fun i => (images i).blocks).getD 0
    let pageByte ← byteAt cdb 2
    match modeSense10Canned device (pageByte &&& 0x3F) sectorCount with
    | none => sendCommandEndResponse false 0x05 device 0x20 0x00
    | some r =>
        let writable := (image.map fun i => (images i).writable).getD false
        sendDataToHost device.code true (modeSense10Page r writable) dma

/-!
## The read path
-/

/-- What is left to do for the current read and the queued ones. -/
def pumpMeasure (s : HandlerState ref) : Nat :=
  (s.readState.toList ++ s.readQueue).foldr (fun r n => r.remaining + 1 + n) 0

/-- One frame of a read.  A read that returns nothing is the end of a file
that was cut underneath; it ends the transfer without reporting it as
completed. -/
def sendReadChunk (state : ReadRequest ref) (data : Bytes) :
    EngineM ref (ReadRequest ref) :=
  if data = [] then do
    sendCommandEndResponse false 0x03 state.device 0x11 0x00
    pure { state with remaining := 0 }
  else do
    let state :=
      { state with
        byteOffset := state.byteOffset + data.length
        remaining := state.remaining - data.length }
    sendDataToHost state.device.code (decide (state.remaining = 0)) data
      state.dma
    pure state

/-- The end of a read: a pending reset is answered and drops the queue, else
the next queued read becomes the current one. -/
def finishRead : EngineM ref Exec.Flow := do
  Exec.update fun s => { s with readState := none }
  let resetPending ← Exec.reads fun s => s.resetPending
  if resetPending then
    sendCommand cmdResetOccurredResponse []
    Exec.update fun s => { s with readQueue := [], resetPending := false }
    pure Exec.Flow.done
  else
    Exec.update fun s =>
      match s.readQueue with
      | [] => s
      | r :: rest => { s with readState := some r, readQueue := rest }
    pure Exec.Flow.next

/-- One pass of the pump. -/
def pumpReadPass (readbfr : Nat) : EngineM ref Exec.Flow := do
  let current ← Exec.reads fun s => s.readState
  match current with
  | none => pure Exec.Flow.done
  | some state =>
      let chunkSize :=
        if readbfr ≠ 0 then min state.remaining readbfr else state.remaining
      let data ← imageRead state.image state.byteOffset chunkSize
      let state ← sendReadChunk state data
      Exec.update fun s => { s with readState := some state }
      let resetPending ← Exec.reads fun s => s.resetPending
      if 0 < state.remaining ∧ resetPending = false then
        pure Exec.Flow.next
      else finishRead

/-- Drain the current read, and what is queued behind it, into successive
DATA_TO_HOST frames of at most `readbfr` bytes; a `readbfr` of zero is read
as no bound. -/
def pumpRead : EngineM ref Unit := do
  let readbfr ← Exec.reads fun s => s.sessionInfo.readbfr
  Exec.whileLoop PyError.outOfFuel pumpMeasure
    (fun s => s.readState.isSome) (pumpReadPass readbfr)

def scsiRead (device : DeviceCode) (image : Option ref) (lba length : Nat)
    (dma : Bool) : EngineM ref Unit := do
  match image with
  | none => sendCommandEndResponse true 0x02 device 0x3A 0x00
  | some i =>
      let state ← Exec.reads fun s => s.images i
      if state.blocks < lba + length then
        sendCommandEndResponse true 0x05 device 0x21 0x00
      else if length = 0 then
        sendCommandEndResponse true 0x00 device 0x00 0x00
      else
        let request : ReadRequest ref :=
          { device := device
            image := i
            byteOffset := lba <<< state.sectorShift
            remaining := length <<< state.sectorShift
            dma := dma }
        let busy ← Exec.reads fun s => s.readState.isSome
        if busy then
          Exec.update fun s => { s with readQueue := s.readQueue ++ [request] }
        else
          Exec.update fun s => { s with readState := some request }
          pumpRead

/-!
## The write path
-/

/-- The CD/DVD slot is turned away on its device code, before the writable flag
is looked at. -/
def scsiWriteRequest (device : DeviceCode) (image : Option ref)
    (lba length : Nat) : EngineM ref Unit := do
  match image with
  | none => sendCommandEndResponse true 0x02 device 0x3A 0x00
  | some i =>
      if device ≠ DeviceCode.floppy then
        sendCommandEndResponse true 0x02 device 0x3A 0x00
      else
        let state ← Exec.reads fun s => s.images i
        if state.blocks < lba + length then
          sendCommandEndResponse true 0x05 device 0x21 0x00
        else if length = 0 then
          sendCommandEndResponse true 0x00 device 0x00 0x00
        else if state.writable = false then
          sendCommandEndResponse false 0x07 device 0x27 0x00
        else
          Exec.update fun s =>
            { s with
              pendingWrite := some
                { device := device
                  image := i
                  byteOffset := lba <<< 9
                  expectedLength := 512 * length } }
          sendGetDataFromHost device (512 * length)

/-!
## Command dispatch
-/

def lba6 (b1 b2 b3 : UInt8) : Nat :=
  ((b1 &&& 0x1F).toNat <<< 16) ||| (b2.toNat <<< 8) ||| b3.toNat

/-- A length byte of zero stands for 256 sectors. -/
def length6 (b : UInt8) : Nat := if b.toNat = 0 then 256 else b.toNat

def handleScsi (device : DeviceCode) (cdb : Bytes) (featureRegister : UInt8)
    (deviceFlags : UInt8) : EngineM ref Unit := do
  let dma := decide (featureRegister &&& 1 ≠ 0)
  let image ← Exec.reads fun s => s.devices device
  let op ← byteAt cdb 0
  if op = opTestUnitReady then scsiTestUnitReady device image
  else if op = opRead6 then
    let b1 ← byteAt cdb 1
    let b2 ← byteAt cdb 2
    let b3 ← byteAt cdb 3
    let b4 ← byteAt cdb 4
    scsiRead device image (lba6 b1 b2 b3) (length6 b4) dma
  else if op = opWrite6 then
    let b1 ← byteAt cdb 1
    let b2 ← byteAt cdb 2
    let b3 ← byteAt cdb 3
    let b4 ← byteAt cdb 4
    scsiWriteRequest device image (lba6 b1 b2 b3) (length6 b4)
  else if op = opModeSense6 then scsiModeSense6 device image cdb dma
  else if op = opStartStop then sendCommandEndResponse true 0 device 0 0
  else if op = opAllowMediumRemoval then scsiAllowMediumRemoval device image
  else if op = opReadFormatCapacities then
    scsiReadFormatCapacities device image dma
  else if op = opReadCapacity then
    scsiReadCapacity device image deviceFlags dma
  else if op = opRead10 then
    let lba ← unpackBE 4 cdb 2
    let length ← unpackBE 2 cdb 7
    scsiRead device image lba length dma
  else if op = opWrite10 ∨ op = opWriteAndVerify then
    let lba ← unpackBE 4 cdb 2
    let length ← unpackBE 2 cdb 7
    scsiWriteRequest device image lba length
  else if op = opReadToc then scsiReadToc device cdb dma
  else if op = opGetConfiguration then scsiGetConfiguration device cdb dma
  else if op = opGetEventStatus then scsiGetEventStatus device image cdb dma
  else if op = opReadDiscInfo then
    sendCommandEndResponse false 0x05 device 0x20 0x00
  else if op = opModeSelect10 then
    sendCommandEndResponse true 0x05 device 0x20 0x00
  else if op = opModeSense10 then scsiModeSense10 device image cdb dma
  else if op = opGetPerformance then
    sendDataToHost device.code true getPerformanceReply dma
  else sendCommandEndResponse false 0x05 device 0x20 0x00

end Ider
end IntelAmt
