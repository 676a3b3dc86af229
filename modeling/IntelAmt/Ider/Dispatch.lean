import IntelAmt.Foundation.Framing
import IntelAmt.Ider.Scsi

/-!
# Inbound framing and dispatch

The message handlers, the length rules of inbound messages, and `feed`, which
buffers received bytes and processes every complete message in sequence.
-/

namespace IntelAmt
namespace Ider

open Foundation

variable {ref : Type} [DecidableEq ref]

/-!
## Message handlers
-/

/-- Ask firmware to engage IDE-R; type 3 is REGS_TOGGLE. -/
def sendFeatureToggle : EngineM ref Unit := do
  let startMode ← Exec.reads fun s => s.startMode
  let packed ← checkedPackLE 4 startMode.value
  sendDisableEnableFeatures 3 packed

def onOpenSessionReply (message : Bytes) : EngineM ref Unit := do
  let major ← byteAt message 8
  let minor ← byteAt message 9
  let fwMajor ← byteAt message 10
  let fwMinor ← byteAt message 11
  let readbfr ← unpackLE 2 message 16
  let writebfr ← unpackLE 2 message 18
  let proto ← byteAt message 21
  let iana ← unpackLE 4 message 25
  let info : OpenSessionInfo :=
    { major := major.toNat
      minor := minor.toNat
      fwMajor := fwMajor.toNat
      fwMinor := fwMinor.toNat
      readbfr := readbfr
      writebfr := writebfr
      proto := proto.toNat
      iana := iana }
  if info.proto ≠ 0 ∨ maxReadWriteBuffer < info.readbfr ∨
      maxReadWriteBuffer < info.writebfr then
    Exec.update fun s => { s with stopped := true }
    Exec.raise (PyError.protocol
      (.openSessionReply info.proto info.readbfr info.writebfr))
  else
    Exec.update fun s => { s with sessionInfo := info, sessionOpen := true }
    sendFeatureToggle

/-- Type 1 is REGS_AVAIL, type 2 REGS_STATUS and type 3 REGS_TOGGLE. -/
def onStatusData (message : Bytes) : EngineM ref Unit := do
  let statusType ← byteAt message 8
  let value ← unpackLE 4 message 9
  if statusType = 1 then
    if value &&& 1 ≠ 0 then sendFeatureToggle else pure ()
  else if statusType = 2 then
    Exec.update fun s => { s with enabled := decide (value &&& 2 ≠ 0) }
  else if statusType = 3 then
    Exec.update fun s => { s with featureToggleOk := some (value = 1) }
  else pure ()

def onResetOccurred : EngineM ref Unit := do
  let reading ← Exec.reads fun s => s.readState.isSome
  if reading then Exec.update fun s => { s with resetPending := true }
  else sendCommand cmdResetOccurredResponse []

def commandDevice (deviceFlags : UInt8) : DeviceCode :=
  if deviceFlags &&& 0x10 ≠ 0 then DeviceCode.cdrom else DeviceCode.floppy

def onCommandWritten (message : Bytes) : EngineM ref Unit := do
  let deviceFlags ← byteAt message 14
  let featureRegister ← byteAt message 9
  let cdb := slice message 16 12
  handleScsi (commandDevice deviceFlags) cdb featureRegister deviceFlags

/-- The payload is bounded against what the write command declared; an overrun
is refused as a whole and ends the pending write. -/
def onDataFromHost (message : Bytes) : EngineM ref Unit := do
  let length ← unpackLE 2 message 9
  let data := slice message 14 length
  let pending ← Exec.reads fun s => s.pendingWrite
  match pending with
  | none => sendCommandEndResponse false 0x05 DeviceCode.floppy 0x20 0x00
  | some pending =>
      let remaining := pending.expectedLength - pending.received
      if remaining < data.length then
        Exec.update fun s => { s with pendingWrite := none }
        sendCommandEndResponse false 0x05 pending.device 0x21 0x00
      else
        imageWrite pending.image (pending.byteOffset + pending.received) data
        let received := pending.received + data.length
        Exec.update fun s =>
          { s with pendingWrite := some { pending with received := received } }
        if pending.expectedLength ≤ received then
          Exec.update fun s => { s with pendingWrite := none }
          sendCommandEndResponse false 0x00 pending.device 0x00 0x00
        else pure ()

def dispatch (message : Bytes) : EngineM ref Unit := do
  let cmdid ← byteAt message 0
  if cmdid = cmdOpenSessionReply then onOpenSessionReply message
  else if cmdid = cmdClose then
    Exec.update fun s => { s with stopped := true }
  else if cmdid = cmdKeepalivePing then sendCommand cmdKeepalivePong []
  else if cmdid = cmdKeepalivePong then pure ()
  else if cmdid = cmdResetOccurred then onResetOccurred
  else if cmdid = cmdStatusData then onStatusData message
  else if cmdid = cmdErrorOccurred then
    let code ← byteAt message 8
    Exec.update fun s => { s with errorsSeen := s.errorsSeen ++ [code] }
  else if cmdid = cmdHeartbeat then pure ()
  else if cmdid = cmdCommandWritten then onCommandWritten message
  else if cmdid = cmdDataFromHost then onDataFromHost message
  else pure ()

/-!
## Feeding bytes

The receive side of the engine: the inbound counter, the bytes that wait for
the rest of their message, and the number of bytes received.  No message
handler reads or writes them.
-/

structure IderEngine (ref : Type) where
  inSeq : Nat := 0
  buf : Bytes := []
  bytesFromAmt : Nat := 0
  state : HandlerState ref

abbrev FeedM (ref alpha : Type) : Type :=
  Exec PyError (IderEngine ref) alpha

/-- Run a handler, which sees only its own part of the engine. -/
def liftHandler (x : EngineM ref Unit) : FeedM ref Unit :=
  ⟨fun e =>
    let result := x.run e.state
    (result.1, { e with state := result.2 })⟩

def stopAndClear : FeedM ref Unit :=
  Exec.update fun e =>
    { e with buf := [], state := { e.state with stopped := true } }

/-- The length of the message at the front of the buffer, when it can be told
from what has been received. -/
def peekLength : FeedM ref (Option Nat) := do
  let buf ← Exec.reads fun e => e.buf
  let cmdid ← byteAt buf 0
  match fixedLengthCommands.lookup cmdid with
  | some fixed => pure (some fixed)
  | none =>
      if cmdid = cmdOpenSessionReply then
        if buf.length < 30 then pure none
        else
          let trailing ← byteAt buf 29
          pure (some (30 + trailing.toNat))
      else if cmdid = cmdDataFromHost then
        if buf.length < 14 then pure none
        else
          let payload ← unpackLE 2 buf 9
          pure (some (14 + payload))
      else
        stopAndClear
        Exec.raise (PyError.protocol (.unknownCommand cmdid))

/-- One pass of the receive loop. -/
def feedPass : FeedM ref Exec.Flow := do
  let length ← peekLength
  let e ← Exec.reads id
  match length with
  | none => pure Exec.Flow.done
  | some length =>
      if e.buf.length < length then pure Exec.Flow.done
      else
        let seq ← unpackLE 4 e.buf 4
        if seq ≠ e.inSeq then
          stopAndClear
          Exec.raise (PyError.protocol (.sequenceMismatch e.inSeq seq))
        else
          Exec.update fun e =>
            { e with
              inSeq := (e.inSeq + 1) % 2 ^ 32
              buf := e.buf.drop length }
          liftHandler (dispatch (e.buf.take length))
          let stopped ← Exec.reads fun e => e.state.stopped
          if stopped then pure Exec.Flow.done else pure Exec.Flow.next

def feed (data : Bytes) : FeedM ref Unit := do
  let stopped ← Exec.reads fun e => e.state.stopped
  if stopped then Exec.raise (PyError.protocol .tornDown)
  else
    Exec.update fun e =>
      { e with
        bytesFromAmt := e.bytesFromAmt + data.length
        buf := e.buf ++ data }
    Exec.whileLoop PyError.outOfFuel (fun e => e.buf.length)
      (fun e => decide (8 ≤ e.buf.length)) feedPass

end Ider
end IntelAmt
