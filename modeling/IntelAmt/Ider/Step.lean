import IntelAmt.Ider.Receive
import IntelAmt.Ider.Replies

/-!
# What one message does

`Step` lists the ways in which an idle engine can be left by one message, and
`dispatch_step` shows that there are no others.  Everything that holds over
whole runs is read off these cases.
-/

namespace IntelAmt
namespace Ider

open Foundation

variable {ref : Type}

/-!
## Views of a message
-/

def messageCmdid (message : Bytes) : UInt8 := message.getD 0 0

def messageSeq (message : Bytes) : Nat := leNat (slice message 4 4)

/-- The device flags of COMMAND_WRITTEN. -/
def commandFlags (message : Bytes) : UInt8 := message.getD 14 0

def commandCdb (message : Bytes) : Bytes := slice message 16 12

/-- The bytes that a DATA_FROM_HOST message brings. -/
def hostPayload (message : Bytes) : Bytes :=
  slice message 14 (leNat (slice message 9 2))

/-- What an OPEN_SESSION_REPLY announces. -/
def announced (message : Bytes) : OpenSessionInfo where
  major := (message.getD 8 0).toNat
  minor := (message.getD 9 0).toNat
  fwMajor := (message.getD 10 0).toNat
  fwMinor := (message.getD 11 0).toNat
  readbfr := leNat (slice message 16 2)
  writebfr := leNat (slice message 18 2)
  proto := (message.getD 21 0).toNat
  iana := leNat (slice message 25 4)

/-- What the engine accepts as the session it will serve. -/
def OpenSessionInfo.Valid (info : OpenSessionInfo) : Prop :=
  info.proto = 0 ∧ info.readbfr ≤ maxReadWriteBuffer ∧
    info.writebfr ≤ maxReadWriteBuffer

instance (info : OpenSessionInfo) : Decidable info.Valid :=
  inferInstanceAs (Decidable (_ ∧ _))

def statusValue (message : Bytes) : Nat := leNat (slice message 9 4)

/-!
## Messages as firmware sends them
-/

def inboundHeader (cmdid : UInt8) (seq : Nat) : Bytes :=
  ([cmdid, 0x00, 0x00, 0x00] : Bytes) ++ packLE 4 seq

def resetMessage (seq : Nat) : Bytes :=
  inboundHeader cmdResetOccurred seq ++ [0x00]

def replyMessage (seq readbfr writebfr : Nat) : Bytes :=
  inboundHeader cmdOpenSessionReply seq ++ List.replicate 8 0x00 ++
    packLE 2 readbfr ++ packLE 2 writebfr ++ List.replicate 10 0x00

def commandMessage (seq : Nat) (featureRegister deviceFlags : UInt8)
    (cdb : Bytes) : Bytes :=
  inboundHeader cmdCommandWritten seq ++
    [0x00, featureRegister, 0x00, 0x00, 0x00, 0x00, deviceFlags, 0x00] ++ cdb

def dataMessage (seq : Nat) (payload : Bytes) : Bytes :=
  inboundHeader cmdDataFromHost seq ++ [0x00] ++ packLE 2 payload.length ++
    [0x00, 0x00, 0x00] ++ payload

/-- A ten-byte READ or WRITE, padded to the twelve bytes of the message. -/
def extentCdb (op : UInt8) (lba length : Nat) : Bytes :=
  [op, 0x00] ++ packBE 4 lba ++ [0x00] ++ packBE 2 length ++
    [0x00, 0x00, 0x00]

/-!
## Frames without a device
-/

def bareFrame (cmdid : UInt8) (payload : Bytes) : Outbound where
  cmdid := cmdid
  payload := payload
  completed := false
  dma := false

def featureToggle (startMode : StartMode) : Outbound :=
  bareFrame cmdDisableEnableFeatures (3 :: packLE 4 startMode.value)

theorem run_sendFeatureToggle (s : HandlerState ref) :
    sendFeatureToggle.run s =
      (Except.ok (), s.send (featureToggle s.startMode)) := by
  unfold sendFeatureToggle
  have hfits : s.startMode.value < 256 ^ 4 := by
    cases s.startMode <;> decide
  rw [Exec.run_reads_bind, run_checkedPackLE_bind hfits]
  rfl

/-!
## The ways a message can leave the engine
-/

variable [DecidableEq ref]

inductive Step (s : HandlerState ref) (message : Bytes) :
    Except PyError Unit × HandlerState ref -> Prop where
  | opened (hcmdid : messageCmdid message = cmdOpenSessionReply)
      (hvalid : (announced message).Valid) :
      Step s message
        (Except.ok (),
          { s with
            sessionInfo := announced message, sessionOpen := true }.send
            (featureToggle s.startMode))
  | refused (hcmdid : messageCmdid message = cmdOpenSessionReply)
      (hinvalid : ¬ (announced message).Valid) :
      Step s message
        (Except.error (PyError.protocol (.openSessionReply
            (announced message).proto (announced message).readbfr
            (announced message).writebfr)),
          { s with stopped := true })
  | closed (hcmdid : messageCmdid message = cmdClose) :
      Step s message (Except.ok (), { s with stopped := true })
  | pinged (hcmdid : messageCmdid message = cmdKeepalivePing) :
      Step s message
        (Except.ok (), s.send (bareFrame cmdKeepalivePong []))
  | available (hcmdid : messageCmdid message = cmdStatusData)
      (htype : message.getD 8 0 = 1) :
      Step s message (Except.ok (), s.send (featureToggle s.startMode))
  | engaged (hcmdid : messageCmdid message = cmdStatusData)
      (htype : message.getD 8 0 = 2) :
      Step s message
        (Except.ok (),
          { s with enabled := decide (statusValue message &&& 2 ≠ 0) })
  | toggled (hcmdid : messageCmdid message = cmdStatusData)
      (htype : message.getD 8 0 = 3) :
      Step s message
        (Except.ok (),
          { s with
            featureToggleOk := some (decide (statusValue message = 1)) })
  | reset (hcmdid : messageCmdid message = cmdResetOccurred) :
      Step s message
        (Except.ok (), s.send (bareFrame cmdResetOccurredResponse []))
  | errorSeen (hcmdid : messageCmdid message = cmdErrorOccurred) :
      Step s message
        (Except.ok (),
          { s with errorsSeen := s.errorsSeen ++ [message.getD 8 0] })
  | ignored
      (hcmdid : messageCmdid message ∉
        [cmdOpenSessionReply, cmdClose, cmdResetOccurred, cmdCommandWritten,
          cmdDataFromHost])
      (hstatus : messageCmdid message = cmdStatusData ->
        message.getD 8 0 ≠ 3) :
      Step s message (Except.ok (), s)
  | command {out : Except PyError Unit × HandlerState ref}
      (hcmdid : messageCmdid message = cmdCommandWritten)
      (hscsi : ScsiStep s (commandDevice (commandFlags message))
        (commandCdb message) (commandFlags message) out) :
      Step s message out
  | unsolicited (hcmdid : messageCmdid message = cmdDataFromHost)
      (hpending : s.pendingWrite = none) :
      Step s message
        (Except.ok (),
          s.send (commandEndResponse false 0x05 DeviceCode.floppy.code 0x20
            0x00))
  | overrun (p : PendingWrite ref)
      (hcmdid : messageCmdid message = cmdDataFromHost)
      (hpending : s.pendingWrite = some p)
      (hlength :
        p.expectedLength - p.received < (hostPayload message).length) :
      Step s message
        (Except.ok (),
          { s with pendingWrite := none }.send
            (commandEndResponse false 0x05 p.device.code 0x21 0x00))
  | unwritable (p : PendingWrite ref) (e : ProtocolError)
      (hcmdid : messageCmdid message = cmdDataFromHost)
      (hpending : s.pendingWrite = some p)
      (hlength :
        (hostPayload message).length ≤ p.expectedLength - p.received)
      (hwrite : (s.images p.image).write (p.byteOffset + p.received)
        (hostPayload message) = Except.error e) :
      Step s message (Except.error (PyError.protocol e), s)
  | stored (p : PendingWrite ref) (image : MediaImage)
      (hcmdid : messageCmdid message = cmdDataFromHost)
      (hpending : s.pendingWrite = some p)
      (hlength :
        (hostPayload message).length ≤ p.expectedLength - p.received)
      (hwrite : (s.images p.image).write (p.byteOffset + p.received)
        (hostPayload message) = Except.ok image)
      (hmore :
        p.received + (hostPayload message).length < p.expectedLength) :
      Step s message
        (Except.ok (),
          { s.setImage p.image image with
            trace := s.trace ++ [Effect.wrote p.image
              (p.byteOffset + p.received) (hostPayload message)]
            pendingWrite := some
              { p with
                received := p.received + (hostPayload message).length } })
  | completed (p : PendingWrite ref) (image : MediaImage)
      (hcmdid : messageCmdid message = cmdDataFromHost)
      (hpending : s.pendingWrite = some p)
      (hlength :
        (hostPayload message).length ≤ p.expectedLength - p.received)
      (hwrite : (s.images p.image).write (p.byteOffset + p.received)
        (hostPayload message) = Except.ok image)
      (hall :
        p.expectedLength ≤ p.received + (hostPayload message).length) :
      Step s message
        (Except.ok (),
          { s.setImage p.image image with
            trace := s.trace ++ [Effect.wrote p.image
              (p.byteOffset + p.received) (hostPayload message)]
            pendingWrite := none }.send
            (commandEndResponse false 0x00 p.device.code 0x00 0x00))

/-!
## One lemma per handler
-/

section Handlers

variable {s : HandlerState ref} {message : Bytes}

theorem onOpenSessionReply_step (hlength : 30 ≤ message.length)
    (hcmdid : messageCmdid message = cmdOpenSessionReply) :
    Step s message ((onOpenSessionReply message).run s) := by
  unfold onOpenSessionReply
  rw [run_byteAt_bind (by lia), run_byteAt_bind (by lia),
    run_byteAt_bind (by lia), run_byteAt_bind (by lia),
    run_unpackLE_bind (by lia), run_unpackLE_bind (by lia),
    run_byteAt_bind (by lia), run_unpackLE_bind (by lia)]
  simp only
  split
  · rename_i hrefuse
    refine Step.refused hcmdid ?_
    rintro ⟨hproto, hread, hwrite⟩
    rcases hrefuse with hrefuse | hrefuse | hrefuse
    · exact hrefuse hproto
    · exact Nat.not_lt.mpr hread hrefuse
    · exact Nat.not_lt.mpr hwrite hrefuse
  · rename_i hpass
    rw [Exec.run_update_bind, run_sendFeatureToggle]
    refine Step.opened hcmdid ⟨?_, ?_, ?_⟩
    · exact Decidable.not_not.mp fun hproto => hpass (Or.inl hproto)
    · exact Nat.not_lt.mp fun hread => hpass (Or.inr (Or.inl hread))
    · exact Nat.not_lt.mp fun hwrite => hpass (Or.inr (Or.inr hwrite))

theorem onStatusData_step (hlength : message.length = 13)
    (hcmdid : messageCmdid message = cmdStatusData) :
    Step s message ((onStatusData message).run s) := by
  have hother : messageCmdid message ∉
      [cmdOpenSessionReply, cmdClose, cmdResetOccurred, cmdCommandWritten,
        cmdDataFromHost] := by
    rw [hcmdid]
    decide
  unfold onStatusData
  rw [run_byteAt_bind (by lia), run_unpackLE_bind (by lia)]
  by_cases hone : message.getD 8 0 = 1
  · rw [if_pos hone]
    split
    · rw [run_sendFeatureToggle]
      exact Step.available hcmdid hone
    · exact Step.ignored hother fun _ => by rw [hone]; decide
  rw [if_neg hone]
  by_cases htwo : message.getD 8 0 = 2
  · rw [if_pos htwo]
    exact Step.engaged hcmdid htwo
  rw [if_neg htwo]
  by_cases hthree : message.getD 8 0 = 3
  · rw [if_pos hthree]
    exact Step.toggled hcmdid hthree
  rw [if_neg hthree]
  exact Step.ignored hother fun _ => hthree

theorem onResetOccurred_step (hidle : s.Idle)
    (hcmdid : messageCmdid message = cmdResetOccurred) :
    Step s message (onResetOccurred.run s) := by
  unfold onResetOccurred
  rw [Exec.run_reads_bind, hidle.readState, if_neg (by simp)]
  exact Step.reset hcmdid

theorem Whole.command_length (hwhole : Whole message)
    (hcmdid : messageCmdid message = cmdCommandWritten) :
    message.length = 28 := by
  have hview : message.getD 0 0 = cmdCommandWritten := hcmdid
  apply hwhole.length_fixed
  rw [hview]
  decide

theorem commandCdb_length (hlength : message.length = 28) :
    (commandCdb message).length = 12 := by
  rw [commandCdb, slice_length_of_le (by lia)]

theorem run_onCommandWritten (hlength : message.length = 28) :
    (onCommandWritten message).run s =
      (handleScsi (commandDevice (commandFlags message)) (commandCdb message)
        (message.getD 9 0) (commandFlags message)).run s := by
  unfold onCommandWritten
  rw [run_byteAt_bind (by lia), run_byteAt_bind (by lia)]
  rfl

theorem onCommandWritten_step (hidle : s.Idle)
    (hlength : message.length = 28)
    (hcmdid : messageCmdid message = cmdCommandWritten) :
    Step s message ((onCommandWritten message).run s) := by
  rw [run_onCommandWritten hlength]
  have hcdb := commandCdb_length hlength
  exact Step.command hcmdid (handleScsi_step hidle hcdb _ _)

theorem onDataFromHost_step (hlength : 14 ≤ message.length)
    (hcmdid : messageCmdid message = cmdDataFromHost) :
    Step s message ((onDataFromHost message).run s) := by
  unfold onDataFromHost
  rw [run_unpackLE_bind (by lia), Exec.run_reads_bind]
  cases hpending : s.pendingWrite with
  | none => exact Step.unsolicited hcmdid hpending
  | some p =>
      have hdata : slice message 14 (leNat (slice message 9 2)) =
          hostPayload message := rfl
      simp only [hdata]
      split
      · rename_i hover
        exact Step.overrun p hcmdid hpending hover
      · rename_i hfits
        have hle : (hostPayload message).length ≤
            p.expectedLength - p.received := Nat.le_of_not_lt hfits
        cases hwrite : (s.images p.image).write (p.byteOffset + p.received)
            (hostPayload message) with
        | error e =>
            rw [Exec.run_bind_of_error (run_imageWrite_of_error hwrite)]
            exact Step.unwritable p e hcmdid hpending hle hwrite
        | ok image =>
            rw [Exec.run_bind_of_ok (run_imageWrite_of_ok hwrite),
              Exec.run_update_bind]
            split
            · rename_i hall
              exact Step.completed p image hcmdid hpending hle hwrite hall
            · rename_i hmore
              exact Step.stored p image hcmdid hpending hle hwrite
                (Nat.lt_of_not_le hmore)

end Handlers

/-!
## Dispatch
-/

theorem dispatch_step {s : HandlerState ref} (hidle : s.Idle)
    {message : Bytes} (hwhole : Whole message) :
    Step s message ((dispatch message).run s) := by
  have hlength := hwhole.length_ge
  have hfixed : forall length,
      fixedLengthCommands.lookup (messageCmdid message) = some length ->
        message.length = length := fun _ => hwhole.length_fixed
  have hview : message.getD 0 0 = messageCmdid message := rfl
  unfold dispatch
  rw [run_byteAt_bind (by lia), hview]
  by_cases hreply : messageCmdid message = cmdOpenSessionReply
  · rw [if_pos hreply]
    exact onOpenSessionReply_step (hwhole.length_openSessionReply hreply)
      hreply
  rw [if_neg hreply]
  by_cases hclose : messageCmdid message = cmdClose
  · rw [if_pos hclose]
    exact Step.closed hclose
  rw [if_neg hclose]
  by_cases hping : messageCmdid message = cmdKeepalivePing
  · rw [if_pos hping]
    exact Step.pinged hping
  rw [if_neg hping]
  by_cases hpong : messageCmdid message = cmdKeepalivePong
  · rw [if_pos hpong]
    exact Step.ignored (by rw [hpong]; decide)
      (by rw [hpong]; intro hstatus; exact absurd hstatus (by decide))
  rw [if_neg hpong]
  by_cases hreset : messageCmdid message = cmdResetOccurred
  · rw [if_pos hreset]
    exact onResetOccurred_step hidle hreset
  rw [if_neg hreset]
  by_cases hstatus : messageCmdid message = cmdStatusData
  · rw [if_pos hstatus]
    exact onStatusData_step (hfixed 13 (by rw [hstatus]; decide)) hstatus
  rw [if_neg hstatus]
  by_cases herror : messageCmdid message = cmdErrorOccurred
  · have hlong := hfixed 11 (by rw [herror]; decide)
    rw [if_pos herror, run_byteAt_bind (by lia)]
    exact Step.errorSeen herror
  rw [if_neg herror]
  have hignored (hcommand : messageCmdid message ≠ cmdCommandWritten)
      (hdata : messageCmdid message ≠ cmdDataFromHost) :
      Step s message (Except.ok (), s) :=
    Step.ignored (by simp [hreply, hclose, hreset, hcommand, hdata])
      fun h => absurd h hstatus
  by_cases hbeat : messageCmdid message = cmdHeartbeat
  · rw [if_pos hbeat]
    exact hignored (by rw [hbeat]; decide) (by rw [hbeat]; decide)
  rw [if_neg hbeat]
  by_cases hcommand : messageCmdid message = cmdCommandWritten
  · rw [if_pos hcommand]
    exact onCommandWritten_step hidle (hfixed 28 (by rw [hcommand]; decide))
      hcommand
  rw [if_neg hcommand]
  by_cases hdata : messageCmdid message = cmdDataFromHost
  · have hlong := hwhole.length_dataFromHost hdata
    rw [if_pos hdata]
    exact onDataFromHost_step (by lia) hdata
  rw [if_neg hdata]
  exact hignored hcommand hdata

theorem run_dispatch_command {s : HandlerState ref} {message : Bytes}
    (hwhole : Whole message)
    (hcmdid : messageCmdid message = cmdCommandWritten) :
    (dispatch message).run s = (onCommandWritten message).run s := by
  have hlength := hwhole.length_ge
  have hview : message.getD 0 0 = cmdCommandWritten := hcmdid
  unfold dispatch
  rw [run_byteAt_bind (by lia), hview]
  repeat rw [if_neg (by decide)]
  rw [if_pos rfl]

theorem Step.scsiStep {s : HandlerState ref} {message : Bytes}
    {out : Except PyError Unit × HandlerState ref} (h : Step s message out)
    (hcmdid : messageCmdid message = cmdCommandWritten) :
    ScsiStep s (commandDevice (commandFlags message)) (commandCdb message)
      (commandFlags message) out := by
  have hother : forall {cmdid : UInt8}, messageCmdid message = cmdid ->
      cmdid = cmdCommandWritten := fun h => h.symm.trans hcmdid
  cases h with
  | command _ hscsi => exact hscsi
  | ignored hnot =>
      rw [hcmdid] at hnot
      exact absurd hnot (by decide)
  | opened h | refused h | closed h | pinged h | available h | engaged h
  | toggled h | reset h | errorSeen h | unsolicited h | overrun _ h
  | unwritable _ _ h | stored _ _ h | completed _ _ h =>
      exact absurd (hother h) (by decide)

end Ider
end IntelAmt
