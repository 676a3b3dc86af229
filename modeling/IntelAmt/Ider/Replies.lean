import IntelAmt.Ider.ReadPump

/-!
# What one command does

Every command leaves an idle engine in one of a few ways: a status, a single
completed block of data, the transfer of a read, a request for the payload of
an accepted write, or, for a table of contents in an unknown format, nothing.
`ScsiStep` lists them, and `handleScsi_step` shows that there are no others.
-/

namespace IntelAmt
namespace Ider

open Foundation

variable {ref : Type}

/-- No read is in flight, queued or waiting for a reset.  The engine is idle
whenever it is not working on a message. -/
structure HandlerState.Idle (s : HandlerState ref) : Prop where
  readState : s.readState = none
  readQueue : s.readQueue = []
  resetPending : s.resetPending = false

theorem HandlerState.Idle.send {s : HandlerState ref} (h : s.Idle)
    (out : Outbound) : (s.send out).Idle :=
  ⟨h.readState, h.readQueue, h.resetPending⟩

theorem HandlerState.Idle.sendAll {s : HandlerState ref} (h : s.Idle)
    (outs : List Outbound) : (s.sendAll outs).Idle where
  readState := by rw [sendAll_readState, h.readState]
  readQueue := by rw [sendAll_readQueue, h.readQueue]
  resetPending := by rw [sendAll_resetPending, h.resetPending]

theorem HandlerState.Idle.setImage [DecidableEq ref] {s : HandlerState ref}
    (h : s.Idle) (i : ref) (image : MediaImage) :
    (s.setImage i image).Idle :=
  ⟨h.readState, h.readQueue, h.resetPending⟩

/-!
## Views of a command descriptor block
-/

/-- The first block and the number of blocks that a read command asks for. -/
def readExtent (cdb : Bytes) : Option (Nat × Nat) :=
  let op := cdb.getD 0 0
  if op = opRead6 then
    some (lba6 (cdb.getD 1 0) (cdb.getD 2 0) (cdb.getD 3 0),
      length6 (cdb.getD 4 0))
  else if op = opRead10 then
    some (beNat (slice cdb 2 4), beNat (slice cdb 7 2))
  else none

/-- The first block and the number of blocks that a write command declares. -/
def writeExtent (cdb : Bytes) : Option (Nat × Nat) :=
  let op := cdb.getD 0 0
  if op = opWrite6 then
    some (lba6 (cdb.getD 1 0) (cdb.getD 2 0) (cdb.getD 3 0),
      length6 (cdb.getD 4 0))
  else if op = opWrite10 ∨ op = opWriteAndVerify then
    some (beNat (slice cdb 2 4), beNat (slice cdb 7 2))
  else none

/-- A command whose data frame, if it gets one, holds a canned reply. -/
def Canned (cdb : Bytes) : Prop :=
  readExtent cdb = none ∧ cdb.getD 0 0 ≠ opReadCapacity

/-- The format that READ_TOC answers to: byte 2, or, when that is zero, the
top two bits of the control byte. -/
def tocFormat (cdb : Bytes) : UInt8 :=
  if cdb.getD 2 0 &&& 0x07 = 0 then cdb.getD 9 0 >>> 6
  else cdb.getD 2 0 &&& 0x07

def commandDma (featureRegister : UInt8) : Bool :=
  decide (featureRegister &&& 1 ≠ 0)

/-- The request that an accepted read becomes. -/
def readRequest (device : DeviceCode) (i : ref) (image : MediaImage)
    (lba length : Nat) (dma : Bool) : ReadRequest ref where
  device := device
  image := i
  byteOffset := lba <<< image.sectorShift
  remaining := length <<< image.sectorShift
  dma := dma

/-- The record that an accepted write leaves. -/
def writeRecord (device : DeviceCode) (i : ref) (lba length : Nat) :
    PendingWrite ref where
  device := device
  image := i
  byteOffset := lba <<< 9
  expectedLength := 512 * length

/-!
## The ways a command can end
-/

variable [DecidableEq ref]

inductive ScsiStep (s : HandlerState ref) (device : DeviceCode) (cdb : Bytes)
    (deviceFlags : UInt8) : Except PyError Unit × HandlerState ref -> Prop where
  | status (error : Bool) (sense asc asq : UInt8)
      (hform : error = false -> sense ≠ 0x00 ∧ asc ≠ 0x21) :
      ScsiStep s device cdb deviceFlags
        (Except.ok (),
          s.send (commandEndResponse error sense device.code asc asq))
  | attention (i : ref) :
      ScsiStep s device cdb deviceFlags
        (Except.ok (),
          (s.setImage i { s.images i with mediaChangeReported := true }).send
            (commandEndResponse true 0x06 device.code 0x28 0x00))
  | data (payload : Bytes) (dma : Bool) (hcanned : Canned cdb)
      (hsmall : payload.length < 256) :
      ScsiStep s device cdb deviceFlags
        (Except.ok (), s.send (dataToHost device.code true payload dma))
  | capacity (i : ref) (payload : Bytes) (dma : Bool)
      (hop : cdb.getD 0 0 = opReadCapacity)
      (himage : s.devices device = some i)
      (hsize : (s.images i).size ≠ 0)
      (hblocks : 1 ≤ (s.images i).blocks ∧ (s.images i).blocks ≤ 2 ^ 32)
      (hlength : payload.length = 8) :
      ScsiStep s device cdb deviceFlags
        (Except.ok (), s.send (dataToHost deviceFlags true payload dma))
  | capacityOverflow (i : ref)
      (hop : cdb.getD 0 0 = opReadCapacity)
      (himage : s.devices device = some i)
      (hsize : (s.images i).size ≠ 0)
      (hblocks :
        ¬ (1 ≤ (s.images i).blocks ∧ (s.images i).blocks ≤ 2 ^ 32)) :
      ScsiStep s device cdb deviceFlags (Except.error PyError.struct, s)
  | silent (hop : cdb.getD 0 0 = opReadToc)
      (hdevice : device = DeviceCode.cdrom)
      (hformat : tocFormat cdb ≠ 0 ∧ tocFormat cdb ≠ 1) :
      ScsiStep s device cdb deviceFlags (Except.ok (), s)
  | transfer (i : ref) (lba length : Nat) (dma : Bool) (outs : List Outbound)
      (image : MediaImage)
      (hextent : readExtent cdb = some (lba, length))
      (himage : s.devices device = some i)
      (hbound : lba + length ≤ (s.images i).blocks) (hpos : 0 < length)
      (htransfer : Transfer s.sessionInfo.readbfr
        (readRequest device i (s.images i) lba length dma) (s.images i) outs
        image) :
      ScsiStep s device cdb deviceFlags
        (Except.ok (), (s.setImage i image).sendAll outs)
  | accepted (i : ref) (lba length : Nat)
      (hextent : writeExtent cdb = some (lba, length))
      (hdevice : device = DeviceCode.floppy)
      (himage : s.devices device = some i)
      (hbound : lba + length ≤ (s.images i).blocks) (hpos : 0 < length)
      (hwritable : (s.images i).writable = true) :
      ScsiStep s device cdb deviceFlags
        (Except.ok (),
          { s with pendingWrite := some (writeRecord device i lba length) }.send
            (getDataFromHost device.code (512 * length)))

/-!
## One lemma per handler
-/

section Handlers

variable {s : HandlerState ref} {device : DeviceCode} {cdb : Bytes}
variable {deviceFlags : UInt8}

theorem scsiTestUnitReady_step (image : Option ref) :
    ScsiStep s device cdb deviceFlags
      ((scsiTestUnitReady device image).run s) := by
  cases image with
  | none => exact ScsiStep.status true 0x02 0x3A 0x00 (by decide)
  | some i =>
      unfold scsiTestUnitReady
      simp only [Exec.run_reads_bind]
      split
      · exact ScsiStep.attention i
      · exact ScsiStep.status true 0x00 0x00 0x00 (by decide)

theorem scsiModeSense6_step (image : Option ref) (hcdb : cdb.length = 12)
    (hcanned : Canned cdb) (dma : Bool) :
    ScsiStep s device cdb deviceFlags
      ((scsiModeSense6 device image cdb dma).run s) := by
  unfold scsiModeSense6
  rw [run_byteAt_bind (by lia), run_byteAt_bind (by lia)]
  split
  · cases image with
    | none => exact ScsiStep.status true 0x02 0x3A 0x00 (by decide)
    | some i => exact ScsiStep.data _ dma hcanned (by simp)
  · exact ScsiStep.status true 0x05 0x24 0x00 (by decide)

theorem scsiAllowMediumRemoval_step (image : Option ref) :
    ScsiStep s device cdb deviceFlags
      ((scsiAllowMediumRemoval device image).run s) := by
  cases image with
  | none => exact ScsiStep.status true 0x02 0x3A 0x00 (by decide)
  | some i => exact ScsiStep.status true 0x00 0x00 0x00 (by decide)

theorem scsiReadFormatCapacities_step (image : Option ref)
    (hcanned : Canned cdb) (dma : Bool) :
    ScsiStep s device cdb deviceFlags
      ((scsiReadFormatCapacities device image dma).run s) := by
  cases image with
  | none => exact ScsiStep.status false 0x05 0x24 0x00 (by decide)
  | some i =>
      unfold scsiReadFormatCapacities
      simp only [Exec.run_reads_bind]
      split
      · exact ScsiStep.status false 0x05 0x24 0x00 (by decide)
      · exact ScsiStep.data _ dma hcanned (by simp)

theorem scsiReadCapacity_step (hop : cdb.getD 0 0 = opReadCapacity)
    (dma : Bool) :
    ScsiStep s device cdb deviceFlags
      ((scsiReadCapacity device (s.devices device) deviceFlags dma).run
        s) := by
  cases himage : s.devices device with
  | none => exact ScsiStep.status false 0x02 0x3A 0x00 (by decide)
  | some i =>
      unfold scsiReadCapacity
      simp only [Exec.run_reads_bind]
      by_cases hsize : (s.images i).size = 0
      · rw [if_pos hsize]
        exact ScsiStep.status false 0x02 0x3A 0x00 (by decide)
      · rw [if_neg hsize]
        by_cases hblocks :
            1 ≤ (s.images i).blocks ∧ (s.images i).blocks ≤ 2 ^ 32
        · have hfits : 0 ≤ ((s.images i).blocks : Int) - 1 ∧
              ((s.images i).blocks : Int) - 1 < 256 ^ 4 := by lia
          rw [checkedPackBE, if_pos hfits]
          exact ScsiStep.capacity i _ dma hop himage hsize hblocks (by simp)
        · have hover : ¬ (0 ≤ ((s.images i).blocks : Int) - 1 ∧
              ((s.images i).blocks : Int) - 1 < 256 ^ 4) := by lia
          rw [checkedPackBE, if_neg hover]
          exact ScsiStep.capacityOverflow i hop himage hsize hblocks

omit [DecidableEq ref] in
theorem run_readTocFormat (hcdb : cdb.length = 12) (s : HandlerState ref) :
    (readTocFormat cdb).run s = (Except.ok (tocFormat cdb), s) := by
  unfold readTocFormat tocFormat
  rw [run_byteAt_bind (by lia)]
  split
  · rw [run_byteAt_bind (by lia)]
    rfl
  · rfl

theorem scsiReadToc_step (hcdb : cdb.length = 12)
    (hop : cdb.getD 0 0 = opReadToc) (hcanned : Canned cdb)
    (dma : Bool) :
    ScsiStep s device cdb deviceFlags
      ((scsiReadToc device cdb dma).run s) := by
  unfold scsiReadToc
  split
  · exact ScsiStep.status true 0x05 0x20 0x00 (by decide)
  · rename_i hdevice
    have hcdrom : device = DeviceCode.cdrom := by
      cases device <;> simp_all
    rw [run_byteAt_bind (by lia),
      Exec.run_bind_of_ok (run_readTocFormat hcdb s)]
    by_cases hone : tocFormat cdb = 1
    · rw [if_pos hone]
      exact ScsiStep.data _ dma hcanned (by simp [tocSessionInfo])
    · rw [if_neg hone]
      by_cases hzero : tocFormat cdb = 0
      · rw [if_pos hzero]
        refine ScsiStep.data _ dma hcanned ?_
        split <;> simp [tocMsf, tocLba]
      · rw [if_neg hzero]
        exact ScsiStep.silent hop hcdrom ⟨hzero, hone⟩

theorem configurationDescriptor_length (sendall : Bool) (firstcode : Nat) :
    forall r, configurationDescriptor sendall firstcode = some r ->
      r.length ≤ 12 := by
  have keep : forall (p : Prop) [Decidable p] (x : Bytes) (r : Option Bytes),
      x.length ≤ 12 -> (forall y, r = some y -> y.length ≤ 12) ->
      forall y, (if p then some x else r) = some y -> y.length ≤ 12 := by
    intro p _ x r hx hr y hy
    split at hy
    · cases hy
      exact hx
    · exact hr y hy
  unfold configurationDescriptor
  refine keep _ _ _ (by simp [cdConfigTimeout]) ?_
  refine keep _ _ _ (by simp [cdConfigPower]) ?_
  refine keep _ _ _ (by simp [cdConfigRead]) ?_
  refine keep _ _ _ (by simp [cdConfigRandom]) ?_
  refine keep _ _ _ (by simp [cdConfigRemovable]) ?_
  refine keep _ _ _ (by simp [cdConfigMorphing]) ?_
  refine keep _ _ _ (by simp [cdConfigCore]) ?_
  refine keep _ _ _ (by simp [cdConfigProfileList]) ?_
  intro y hy
  cases hy

theorem configurationBody_length (sendall : Bool) (firstcode : Nat) :
    (configurationBody sendall firstcode).length ≤ 20 := by
  unfold configurationBody
  split
  · simp
  · rename_i r hr
    have hle := configurationDescriptor_length _ _ r hr
    simp only [List.length_append, packBE_length]
    lia

theorem scsiGetConfiguration_step (hcdb : cdb.length = 12)
    (hcanned : Canned cdb) (dma : Bool) :
    ScsiStep s device cdb deviceFlags
      ((scsiGetConfiguration device cdb dma).run s) := by
  unfold scsiGetConfiguration
  rw [run_byteAt_bind (by lia), run_unpackBE_bind (by lia),
    run_unpackBE_bind (by lia)]
  split
  · exact ScsiStep.data _ dma hcanned (by simp)
  · refine ScsiStep.data _ dma hcanned ?_
    have hbody := configurationBody_length (decide (cdb.getD 1 0 ≠ 2))
      (beNat (slice cdb 2 2))
    split
    · rw [List.length_take]
      lia
    · lia

theorem scsiGetEventStatus_step (image : Option ref)
    (hcdb : cdb.length = 12) (hcanned : Canned cdb) (dma : Bool) :
    ScsiStep s device cdb deviceFlags
      ((scsiGetEventStatus device image cdb dma).run s) := by
  unfold scsiGetEventStatus
  rw [run_byteAt_bind (by lia), run_byteAt_bind (by lia)]
  split
  · exact ScsiStep.status true 0x05 0x26 0x01 (by decide)
  · exact ScsiStep.data _ dma hcanned (by simp)

theorem modeSense10Canned_length (device : DeviceCode) (page : UInt8)
    (sectorCount : Nat) :
    forall r, modeSense10Canned device page sectorCount = some r ->
      r.length < 256 := by
  intro r h
  unfold modeSense10Canned at h
  repeat' split at h
  all_goals first
    | (cases h; done)
    | (cases h; decide)

theorem scsiModeSense10_step (image : Option ref) (hcdb : cdb.length = 12)
    (hcanned : Canned cdb) (dma : Bool) :
    ScsiStep s device cdb deviceFlags
      ((scsiModeSense10 device image cdb dma).run s) := by
  unfold scsiModeSense10
  rw [run_unpackBE_bind (by lia)]
  split
  · exact ScsiStep.data _ dma hcanned (by simp)
  · rw [Exec.run_reads_bind, run_byteAt_bind (by lia)]
    split
    · exact ScsiStep.status false 0x05 0x20 0x00 (by decide)
    · rename_i r hpage
      have hlength := modeSense10Canned_length _ _ _ r hpage
      exact ScsiStep.data _ dma hcanned (by simpa [modeSense10Page] using hlength)

omit [DecidableEq ref] in
theorem HandlerState.Idle.clear (h : s.Idle) :
    { s with readState := none } = s := by
  rcases s with ⟨⟩
  cases h.readState
  rfl

/-- An accepted read is a transfer. -/
theorem run_scsiRead (hidle : s.Idle) (device : DeviceCode) {i : ref}
    {lba length : Nat} (hbound : lba + length ≤ (s.images i).blocks) (hpos : 0 < length)
    (dma : Bool) :
    exists outs image,
      Transfer s.sessionInfo.readbfr
          (readRequest device i (s.images i) lba length dma) (s.images i) outs
          image ∧
        (scsiRead device (some i) lba length dma).run s =
          (Except.ok (), (s.setImage i image).sendAll outs) := by
  unfold scsiRead
  simp only [Exec.run_reads_bind]
  rw [if_neg (by lia), if_neg (by lia), Exec.run_reads_bind, hidle.readState,
    if_neg (by simp), Exec.run_update_bind, run_pumpRead]
  rcases run_pumpLoop_single (s := { s with
      readState := some (readRequest device i (s.images i) lba length dma) })
    rfl hidle.readQueue hidle.resetPending s.sessionInfo.readbfr with
    ⟨outs, image, htransfer, hrun⟩
  refine ⟨outs, image, htransfer, hrun.trans ?_⟩
  show (Except.ok (),
    ({ s with readState := none }.setImage i image).sendAll outs) = _
  rw [hidle.clear]

theorem scsiRead_step (hidle : s.Idle) {lba length : Nat}
    (hextent : readExtent cdb = some (lba, length)) (dma : Bool) :
    ScsiStep s device cdb deviceFlags
      ((scsiRead device (s.devices device) lba length dma).run s) := by
  cases himage : s.devices device with
  | none => exact ScsiStep.status true 0x02 0x3A 0x00 (by decide)
  | some i =>
      by_cases hbound : (s.images i).blocks < lba + length
      · unfold scsiRead
        simp only [Exec.run_reads_bind]
        rw [if_pos hbound]
        exact ScsiStep.status true 0x05 0x21 0x00 (by decide)
      by_cases hpos : length = 0
      · unfold scsiRead
        simp only [Exec.run_reads_bind]
        rw [if_neg hbound, if_pos hpos]
        exact ScsiStep.status true 0x00 0x00 0x00 (by decide)
      rcases run_scsiRead hidle device
        (show lba + length ≤ (s.images i).blocks by lia) (by lia) dma with
        ⟨outs, image, htransfer, hrun⟩
      rw [hrun]
      exact ScsiStep.transfer i lba length dma outs image hextent himage
        (by lia) (by lia) htransfer

theorem scsiWriteRequest_step {lba length : Nat}
    (hextent : writeExtent cdb = some (lba, length)) :
    ScsiStep s device cdb deviceFlags
      ((scsiWriteRequest device (s.devices device) lba length).run s) := by
  cases himage : s.devices device with
  | none => exact ScsiStep.status true 0x02 0x3A 0x00 (by decide)
  | some i =>
      unfold scsiWriteRequest
      simp only
      split
      · exact ScsiStep.status true 0x02 0x3A 0x00 (by decide)
      · rename_i hdevice
        rw [Exec.run_reads_bind]
        split
        · exact ScsiStep.status true 0x05 0x21 0x00 (by decide)
        · rename_i hbound
          split
          · exact ScsiStep.status true 0x00 0x00 0x00 (by decide)
          · rename_i hpos
            split
            · exact ScsiStep.status false 0x07 0x27 0x00 (by decide)
            · rename_i hwritable
              exact ScsiStep.accepted i lba length hextent
                (by simpa using hdevice) himage (by lia) (by lia)
                (by simpa using hwritable)

end Handlers

/-!
## The command as a whole
-/

section Command

variable {s : HandlerState ref} {device : DeviceCode} {cdb : Bytes}

omit [DecidableEq ref] in
theorem readExtent_eq_none_iff :
    readExtent cdb = none ↔
      cdb.getD 0 0 ≠ opRead6 ∧ cdb.getD 0 0 ≠ opRead10 := by
  simp only [readExtent]
  split
  · simp_all
  · split <;> simp_all

omit [DecidableEq ref] in
theorem writeExtent_eq_none_iff :
    writeExtent cdb = none ↔
      cdb.getD 0 0 ≠ opWrite6 ∧
        ¬ (cdb.getD 0 0 = opWrite10 ∨ cdb.getD 0 0 = opWriteAndVerify) := by
  simp only [writeExtent]
  split
  · simp_all
  · split <;> simp_all

theorem handleScsi_read (hcdb : cdb.length = 12) {lba length : Nat}
    (hextent : readExtent cdb = some (lba, length))
    (featureRegister deviceFlags : UInt8) :
    (handleScsi device cdb featureRegister deviceFlags).run s =
      (scsiRead device (s.devices device) lba length
        (commandDma featureRegister)).run s := by
  simp only [readExtent] at hextent
  unfold handleScsi
  rw [Exec.run_reads_bind, run_byteAt_bind (by lia)]
  split at hextent
  · rename_i hop
    cases hextent
    rw [hop, if_neg (by decide), if_pos rfl, run_byteAt_bind (by lia),
      run_byteAt_bind (by lia), run_byteAt_bind (by lia),
      run_byteAt_bind (by lia)]
    rfl
  · split at hextent
    · rename_i hop
      cases hextent
      rw [hop]
      repeat rw [if_neg (by decide)]
      rw [if_pos rfl, run_unpackBE_bind (by lia), run_unpackBE_bind (by lia)]
      rfl
    · cases hextent

theorem handleScsi_write (hcdb : cdb.length = 12) {lba length : Nat}
    (hextent : writeExtent cdb = some (lba, length))
    (featureRegister deviceFlags : UInt8) :
    (handleScsi device cdb featureRegister deviceFlags).run s =
      (scsiWriteRequest device (s.devices device) lba length).run s := by
  simp only [writeExtent] at hextent
  unfold handleScsi
  rw [Exec.run_reads_bind, run_byteAt_bind (by lia)]
  split at hextent
  · rename_i hop
    cases hextent
    rw [hop, if_neg (by decide), if_neg (by decide), if_pos rfl,
      run_byteAt_bind (by lia), run_byteAt_bind (by lia),
      run_byteAt_bind (by lia), run_byteAt_bind (by lia)]
  · split at hextent
    · rename_i hop
      cases hextent
      rcases hop with hop | hop
      · rw [hop]
        repeat rw [if_neg (by decide)]
        rw [if_pos (Or.inl rfl), run_unpackBE_bind (by lia),
          run_unpackBE_bind (by lia)]
      · rw [hop]
        repeat rw [if_neg (by decide)]
        rw [if_pos (Or.inr rfl), run_unpackBE_bind (by lia),
          run_unpackBE_bind (by lia)]
    · cases hextent

omit [DecidableEq ref] in
theorem run_scsiReadCapacity_overflow {i : ref}
    (hsize : (s.images i).size ≠ 0)
    (hblocks : ¬ (1 ≤ (s.images i).blocks ∧ (s.images i).blocks ≤ 2 ^ 32))
    (deviceFlags : UInt8) (dma : Bool) :
    (scsiReadCapacity device (some i) deviceFlags dma).run s =
      (Except.error PyError.struct, s) := by
  have hover : ¬ (0 ≤ ((s.images i).blocks : Int) - 1 ∧
      ((s.images i).blocks : Int) - 1 < 256 ^ 4) := by lia
  unfold scsiReadCapacity
  simp only [Exec.run_reads_bind]
  rw [if_neg hsize, checkedPackBE, if_neg hover]
  rfl

theorem handleScsi_readCapacity (hcdb : cdb.length = 12)
    (hop : cdb.getD 0 0 = opReadCapacity)
    (featureRegister deviceFlags : UInt8) :
    (handleScsi device cdb featureRegister deviceFlags).run s =
      (scsiReadCapacity device (s.devices device) deviceFlags
        (commandDma featureRegister)).run s := by
  unfold handleScsi
  rw [Exec.run_reads_bind, run_byteAt_bind (by lia), hop]
  repeat rw [if_neg (by decide)]
  rw [if_pos rfl]
  rfl

theorem handleScsi_step (hidle : s.Idle) (hcdb : cdb.length = 12)
    (featureRegister deviceFlags : UInt8) :
    ScsiStep s device cdb deviceFlags
      ((handleScsi device cdb featureRegister deviceFlags).run s) := by
  cases hread : readExtent cdb with
  | some extent =>
      rw [handleScsi_read hcdb hread]
      exact scsiRead_step hidle hread _
  | none =>
      cases hwrite : writeExtent cdb with
      | some extent =>
          rw [handleScsi_write hcdb hwrite]
          exact scsiWriteRequest_step hwrite
      | none =>
          obtain ⟨hread6, hread10⟩ := readExtent_eq_none_iff.mp hread
          have hcanned : cdb.getD 0 0 ≠ opReadCapacity -> Canned cdb :=
            fun hop => ⟨hread, hop⟩
          obtain ⟨hwrite6, hwrite10⟩ := writeExtent_eq_none_iff.mp hwrite
          unfold handleScsi
          rw [Exec.run_reads_bind, run_byteAt_bind (by lia)]
          by_cases hop : cdb.getD 0 0 = opTestUnitReady
          · rw [if_pos hop]
            exact scsiTestUnitReady_step _
          rw [if_neg hop, if_neg hread6, if_neg hwrite6]
          by_cases hop : cdb.getD 0 0 = opModeSense6
          · rw [if_pos hop]
            exact scsiModeSense6_step _ hcdb (hcanned (by rw [hop]; decide)) _
          rw [if_neg hop]
          by_cases hop : cdb.getD 0 0 = opStartStop
          · rw [if_pos hop]
            exact ScsiStep.status true 0 0 0 (by decide)
          rw [if_neg hop]
          by_cases hop : cdb.getD 0 0 = opAllowMediumRemoval
          · rw [if_pos hop]
            exact scsiAllowMediumRemoval_step _
          rw [if_neg hop]
          by_cases hop : cdb.getD 0 0 = opReadFormatCapacities
          · rw [if_pos hop]
            exact scsiReadFormatCapacities_step _ (hcanned (by rw [hop]; decide))
              _
          rw [if_neg hop]
          by_cases hop : cdb.getD 0 0 = opReadCapacity
          · rw [if_pos hop]
            exact scsiReadCapacity_step hop _
          rw [if_neg hop, if_neg hread10, if_neg hwrite10]
          by_cases hop : cdb.getD 0 0 = opReadToc
          · rw [if_pos hop]
            exact scsiReadToc_step hcdb hop (hcanned (by rw [hop]; decide)) _
          rw [if_neg hop]
          by_cases hop : cdb.getD 0 0 = opGetConfiguration
          · rw [if_pos hop]
            exact scsiGetConfiguration_step hcdb (hcanned (by rw [hop]; decide))
              _
          rw [if_neg hop]
          by_cases hop : cdb.getD 0 0 = opGetEventStatus
          · rw [if_pos hop]
            exact scsiGetEventStatus_step _ hcdb (hcanned (by rw [hop]; decide))
              _
          rw [if_neg hop]
          by_cases hop : cdb.getD 0 0 = opReadDiscInfo
          · rw [if_pos hop]
            exact ScsiStep.status false 0x05 0x20 0x00 (by decide)
          rw [if_neg hop]
          by_cases hop : cdb.getD 0 0 = opModeSelect10
          · rw [if_pos hop]
            exact ScsiStep.status true 0x05 0x20 0x00 (by decide)
          rw [if_neg hop]
          by_cases hop : cdb.getD 0 0 = opModeSense10
          · rw [if_pos hop]
            exact scsiModeSense10_step _ hcdb (hcanned (by rw [hop]; decide)) _
          rw [if_neg hop]
          by_cases hop : cdb.getD 0 0 = opGetPerformance
          · rw [if_pos hop]
            exact ScsiStep.data _ _ (hcanned (by rw [hop]; decide))
              (by decide)
          rw [if_neg hop]
          exact ScsiStep.status false 0x05 0x20 0x00 (by decide)

end Command

end Ider
end IntelAmt
