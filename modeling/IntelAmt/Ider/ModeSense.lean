import IntelAmt.Foundation.Objects
import IntelAmt.Ider.SectorReads

/-!
# Mode pages and configuration

MODE_SENSE_6, MODE_SENSE_10 and GET_CONFIGURATION are each answered by one
frame, which is a function of the command and of the image in the slot.  The
write-protect bit in it is clear exactly if a write would be accepted.
-/

namespace IntelAmt
namespace Ider

open Foundation

variable {ref : Type}

/-!
## The replies
-/

/-- Bytes 7 and 8 of a command. -/
def allocationLength (cdb : Bytes) : Nat := beNat (slice cdb 7 2)

/-- The page that MODE_SENSE_10 asks for. -/
def modePage (cdb : Bytes) : UInt8 := cdb.getD 2 0 &&& 0x3F

/-- The reply to a probe for the length of the data. -/
def shortHeader : Bytes := packBE 4 0x003C ++ packBE 4 0x0008

def modeSense6Reply (device : DeviceCode) (image : Option MediaImage)
    (cdb : Bytes) (dma : Bool) : Outbound :=
  if cdb.getD 2 0 = 0x3F ∧ cdb.getD 3 0 = 0x00 then
    match image with
    | none => commandEndResponse true 0x02 device.code 0x3A 0x00
    | some image =>
        dataToHost device.code true
          [0, if device = DeviceCode.floppy then 0x00 else 0x05,
            if image.writable then 0x00 else 0x80, 0] dma
  else commandEndResponse true 0x05 device.code 0x24 0x00

/-- What the page in a reply depends on. -/
structure PageRequest where
  device : DeviceCode
  page : UInt8
  sectorCount : Nat
  writable : Bool

def PageRequest.data (r : PageRequest) : Option Bytes :=
  (modeSense10Canned r.device r.page r.sectorCount).map
    (modeSense10Page · r.writable)

def pageRequest (device : DeviceCode) (image : Option MediaImage)
    (cdb : Bytes) : PageRequest where
  device := device
  page := modePage cdb
  sectorCount := (image.map MediaImage.blocks).getD 0
  writable := (image.map MediaImage.writable).getD false

def modeSense10Reply (device : DeviceCode) (image : Option MediaImage)
    (cdb : Bytes) (dma : Bool) : Outbound :=
  if allocationLength cdb = 0 then
    dataToHost device.code true shortHeader dma
  else
    match (pageRequest device image cdb).data with
    | none => commandEndResponse false 0x05 device.code 0x20 0x00
    | some data => dataToHost device.code true data dma

/-- The reply to GET_CONFIGURATION with so much room. -/
def configurationData (cdb : Bytes) (room : Nat) : Bytes :=
  (configurationBody (decide (cdb.getD 1 0 ≠ 2)) (beNat (slice cdb 2 2))).take
    room

def configurationReply (device : DeviceCode) (cdb : Bytes) (dma : Bool) :
    Outbound :=
  dataToHost device.code true
    (if allocationLength cdb = 0 then shortHeader
      else configurationData cdb (allocationLength cdb)) dma

variable [DecidableEq ref]

section Handlers

variable {s : HandlerState ref} {device : DeviceCode} {cdb : Bytes}

omit [DecidableEq ref] in
theorem run_scsiModeSense6 (hcdb : cdb.length = 12) (image : Option ref)
    (dma : Bool) :
    (scsiModeSense6 device image cdb dma).run s =
      (Except.ok (),
        s.send (modeSense6Reply device (image.map s.images) cdb dma)) := by
  unfold scsiModeSense6 modeSense6Reply
  rw [run_byteAt_bind (by lia), run_byteAt_bind (by lia)]
  split
  · cases image <;> rfl
  · rfl

omit [DecidableEq ref] in
theorem run_scsiModeSense10 (hcdb : cdb.length = 12) (image : Option ref)
    (dma : Bool) :
    (scsiModeSense10 device image cdb dma).run s =
      (Except.ok (),
        s.send (modeSense10Reply device (image.map s.images) cdb dma)) := by
  unfold scsiModeSense10 modeSense10Reply allocationLength
  rw [run_unpackBE_bind (by lia)]
  split
  · rfl
  · rw [Exec.run_reads_bind, run_byteAt_bind (by lia)]
    simp only [PageRequest.data, pageRequest, modePage, Option.map_map,
      Function.comp_def]
    split <;> rename_i hpage <;> rw [hpage] <;> rfl

omit [DecidableEq ref] in
theorem run_scsiGetConfiguration (hcdb : cdb.length = 12) (dma : Bool) :
    (scsiGetConfiguration device cdb dma).run s =
      (Except.ok (), s.send (configurationReply device cdb dma)) := by
  unfold scsiGetConfiguration configurationReply allocationLength
  rw [run_byteAt_bind (by lia), run_unpackBE_bind (by lia),
    run_unpackBE_bind (by lia)]
  split
  · rfl
  · simp only [configurationData]
    split
    · rfl
    · rename_i hroom
      rw [List.take_of_length_le (by lia)]
      rfl

theorem handleScsi_modeSense6 (hcdb : cdb.length = 12)
    (hop : cdb.getD 0 0 = opModeSense6)
    (featureRegister deviceFlags : UInt8) :
    (handleScsi device cdb featureRegister deviceFlags).run s =
      (Except.ok (), s.send (modeSense6Reply device
        ((s.devices device).map s.images) cdb
        (commandDma featureRegister))) := by
  unfold handleScsi
  rw [Exec.run_reads_bind, run_byteAt_bind (by lia), hop]
  repeat rw [if_neg (by decide)]
  rw [if_pos rfl]
  exact run_scsiModeSense6 hcdb _ _

theorem handleScsi_modeSense10 (hcdb : cdb.length = 12)
    (hop : cdb.getD 0 0 = opModeSense10)
    (featureRegister deviceFlags : UInt8) :
    (handleScsi device cdb featureRegister deviceFlags).run s =
      (Except.ok (), s.send (modeSense10Reply device
        ((s.devices device).map s.images) cdb
        (commandDma featureRegister))) := by
  unfold handleScsi
  rw [Exec.run_reads_bind, run_byteAt_bind (by lia), hop]
  repeat rw [if_neg (by decide)]
  rw [if_pos rfl]
  exact run_scsiModeSense10 hcdb _ _

theorem handleScsi_getConfiguration (hcdb : cdb.length = 12)
    (hop : cdb.getD 0 0 = opGetConfiguration)
    (featureRegister deviceFlags : UInt8) :
    (handleScsi device cdb featureRegister deviceFlags).run s =
      (Except.ok (), s.send (configurationReply device cdb
        (commandDma featureRegister))) := by
  unfold handleScsi
  rw [Exec.run_reads_bind, run_byteAt_bind (by lia), hop]
  repeat rw [if_neg (by decide)]
  rw [if_pos rfl]
  exact run_scsiGetConfiguration hcdb _

end Handlers

theorem Delivery.after_command {d : Delivery ref} (hwhole : Whole d.message)
    (hcmdid : messageCmdid d.message = cmdCommandWritten) :
    d.after = ((handleScsi d.device (commandCdb d.message)
      (d.message.getD 9 0) (commandFlags d.message)).run d.before).2 := by
  rw [Delivery.after, run_dispatch_command hwhole hcmdid,
    run_onCommandWritten (hwhole.command_length hcmdid)]
  rfl

/-- The image in the addressed slot. -/
def Delivery.slot (d : Delivery ref) : Option MediaImage :=
  (d.before.devices d.device).map d.before.images

def Delivery.dma (d : Delivery ref) : Bool :=
  commandDma (d.message.getD 9 0)

/-- The reply to one of the three commands. -/
def senseReply (d : Delivery ref) : Option Outbound :=
  let op := (commandCdb d.message).getD 0 0
  if op = opModeSense6 then
    some (modeSense6Reply d.device d.slot (commandCdb d.message) d.dma)
  else if op = opModeSense10 then
    some (modeSense10Reply d.device d.slot (commandCdb d.message) d.dma)
  else if op = opGetConfiguration then
    some (configurationReply d.device (commandCdb d.message) d.dma)
  else none

section Replies

variable {d : Delivery ref}

omit [DecidableEq ref] in
theorem senseReply_modeSense6
    (hop : (commandCdb d.message).getD 0 0 = opModeSense6) :
    senseReply d =
      some (modeSense6Reply d.device d.slot (commandCdb d.message) d.dma) := by
  simp only [senseReply]
  rw [hop, if_pos rfl]

omit [DecidableEq ref] in
theorem senseReply_modeSense10
    (hop : (commandCdb d.message).getD 0 0 = opModeSense10) :
    senseReply d =
      some (modeSense10Reply d.device d.slot (commandCdb d.message) d.dma) := by
  simp only [senseReply]
  rw [hop, if_neg (by decide), if_pos rfl]

omit [DecidableEq ref] in
theorem senseReply_getConfiguration
    (hop : (commandCdb d.message).getD 0 0 = opGetConfiguration) :
    senseReply d =
      some (configurationReply d.device (commandCdb d.message) d.dma) := by
  simp only [senseReply]
  rw [hop, if_neg (by decide), if_neg (by decide), if_pos rfl]

end Replies

theorem after_senseReply {d : Delivery ref} (hwhole : Whole d.message)
    (hcmdid : messageCmdid d.message = cmdCommandWritten) {out : Outbound}
    (hout : senseReply d = some out) : d.after = d.before.send out := by
  have hcdb := commandCdb_length (hwhole.command_length hcmdid)
  rw [Delivery.after_command hwhole hcmdid]
  simp only [senseReply] at hout
  split at hout
  · rename_i hop
    cases hout
    rw [handleScsi_modeSense6 hcdb hop]
    rfl
  split at hout
  · rename_i hop
    cases hout
    rw [handleScsi_modeSense10 hcdb hop]
    rfl
  split at hout
  · rename_i hop
    cases hout
    rw [handleScsi_getConfiguration hcdb hop]
    rfl
  · cases hout

theorem sentBy_senseReply {d : Delivery ref} (hwhole : Whole d.message)
    (hcmdid : messageCmdid d.message = cmdCommandWritten) {out : Outbound}
    (hout : senseReply d = some out) :
    sentBy d = [out.frame d.before.outSeq] := by
  have hsends : Sends d.before d.after [out] := by
    rw [after_senseReply hwhole hcmdid hout]
    exact sends_send d.before out
  exact hsends.sentBy_eq

/-!
## Write protection
-/

theorem writeProtectBit_cleared (b : UInt8) :
    b &&& ~~~ writeProtectBit &&& writeProtectBit = 0 := by
  rw [UInt8.and_assoc]
  simp

theorem writeProtectBit_set (b : UInt8) :
    (b ||| writeProtectBit) &&& writeProtectBit = writeProtectBit := by
  apply UInt8.toBitVec_inj.mp
  ext i hi
  simp
  exact Or.inr

theorem modeSense10Page_protected {page : Bytes} (h : 3 < page.length)
    (writable : Bool) :
    (modeSense10Page page writable).getD 3 0 &&& writeProtectBit ≠ 0 ↔
      writable = false := by
  have hbyte : (modeSense10Page page writable).getD 3 0 =
      if writable then page.getD 3 0 &&& ~~~ writeProtectBit
      else page.getD 3 0 ||| writeProtectBit := by
    simp [modeSense10Page, List.getD, List.getElem?_eq_getElem h]
  rw [hbyte]
  cases writable with
  | true => simpa using writeProtectBit_cleared (page.getD 3 0)
  | false =>
      rw [if_neg (by simp), writeProtectBit_set]
      decide

theorem modeSense10Canned_header (device : DeviceCode) (page : UInt8)
    (sectorCount : Nat) :
    forall r, modeSense10Canned device page sectorCount = some r ->
      3 < r.length := by
  intro r h
  unfold modeSense10Canned at h
  repeat' split at h
  all_goals first
    | (cases h; done)
    | (cases h; decide)

/-- What the data of a mode sense reply says about write protection.  The reply
to a probe for the length holds no page. -/
def advertisedProtection (cdb data : Bytes) : Option Bool :=
  if cdb.getD 0 0 = opModeSense6 then
    some (decide (data.getD 2 0 &&& writeProtectBit ≠ 0))
  else if cdb.getD 0 0 = opModeSense10 ∧ allocationLength cdb ≠ 0 then
    some (decide (data.getD 3 0 &&& writeProtectBit ≠ 0))
  else none

/-- A write command to the given device for a range of blocks that the image
in its slot has. -/
structure InBoundsWrite (d : Delivery ref) (device : DeviceCode) (i : ref)
    (lba length : Nat) : Prop where
  whole : Whole d.message
  cmdid : messageCmdid d.message = cmdCommandWritten
  extent : writeExtent (commandCdb d.message) = some (lba, length)
  addressed : d.device = device
  image : d.before.devices device = some i
  inside : lba + length ≤ (d.before.images i).blocks
  nonempty : 0 < length

/-- The write is recorded and its payload asked for. -/
structure GrantsWrite (d : Delivery ref) (i : ref) (lba length : Nat) :
    Prop where
  recorded : d.after.pendingWrite = some (writeRecord d.device i lba length)
  asked : sentBy d =
    [(getDataFromHost d.device.code (512 * length)).frame d.before.outSeq]

theorem not_grantsWrite_of_status {d : Delivery ref} {i : ref}
    {lba length : Nat} {error : Bool} {sense device asc asq : UInt8}
    (h : d.after =
      d.before.send (commandEndResponse error sense device asc asq)) :
    ¬ GrantsWrite d i lba length := by
  intro hgrants
  have hsends : Sends d.before d.after
      [commandEndResponse error sense device asc asq] := by
    rw [h]
    exact sends_send d.before _
  have hasked := hgrants.asked
  rw [hsends.sentBy_eq, numbered, numbered, List.cons.injEq] at hasked
  have hcmdid : cmdCommandEndResponse = cmdGetDataFromHost :=
    congrArg frameCmdid hasked.1
  exact absurd hcmdid (by decide)

theorem InBoundsWrite.grants_iff {images : ref -> MediaImage}
    {d : Delivery ref} {device : DeviceCode} {i : ref} {lba length : Nat}
    (h : InBoundsWrite d device i lba length)
    (hstanding : Standing images d.before) :
    GrantsWrite d i lba length ↔ (d.before.images i).writable = true := by
  have hcdb := commandCdb_length (h.whole.command_length h.cmdid)
  have hrun := Delivery.after_command h.whole h.cmdid
  have hslot : d.before.devices d.device = some i := by
    rw [h.addressed]
    exact h.image
  rw [handleScsi_write hcdb h.extent, hslot] at hrun
  have hinside := h.inside
  have hpos := h.nonempty
  cases hdevice : d.device with
  | cdrom =>
      rw [hdevice] at hslot
      have hreadOnly := (d.before.images i).cdrom_read_only
        (hstanding.slots _ i hslot)
      rw [hdevice] at hrun
      rw [hreadOnly]
      constructor
      · intro hgrants
        exact absurd hgrants (not_grantsWrite_of_status hrun)
      · intro htrue
        cases htrue
  | floppy =>
      unfold scsiWriteRequest at hrun
      simp only [hdevice, ne_eq, not_true_eq_false, if_false,
        Exec.run_reads_bind] at hrun
      rw [if_neg (by lia), if_neg (by lia)] at hrun
      cases hwritable : (d.before.images i).writable with
      | false =>
          rw [if_pos hwritable] at hrun
          constructor
          · intro hgrants
            exact absurd hgrants (not_grantsWrite_of_status hrun)
          · intro htrue
            cases htrue
      | true =>
          rw [if_neg (by simp [hwritable])] at hrun
          have hafter : d.after =
              { d.before with
                pendingWrite :=
                  some (writeRecord DeviceCode.floppy i lba length) }.send
                (getDataFromHost DeviceCode.floppy.code (512 * length)) :=
            hrun
          have hsends : Sends d.before d.after
              [getDataFromHost DeviceCode.floppy.code (512 * length)] := by
            rw [hafter]
            exact sends_send { d.before with pendingWrite := _ } _
          refine iff_of_true ⟨?_, ?_⟩ rfl
          · rw [hafter, hdevice]
            rfl
          · rw [hdevice]
            exact hsends.sentBy_eq

theorem advertisedProtection_eq {d : Delivery ref} (hwhole : Whole d.message)
    (hcmdid : messageCmdid d.message = cmdCommandWritten)
    {image : MediaImage} (hslot : d.slot = some image) {frame : Bytes}
    (hmem : frame ∈ sentBy d) (hdata : frameCmdid frame = cmdDataToHost)
    {flag : Bool}
    (hflag : advertisedProtection (commandCdb d.message) (frameData frame) =
      some flag) :
    flag = !image.writable := by
  unfold advertisedProtection at hflag
  split at hflag
  · rename_i hop
    rw [sentBy_senseReply hwhole hcmdid (senseReply_modeSense6 hop),
      List.mem_singleton] at hmem
    subst hmem
    rw [hslot] at hdata hflag
    rw [frameCmdid_frame] at hdata
    rw [frameData_frame] at hflag
    unfold modeSense6Reply at hdata hflag
    split at hdata
    · rename_i hpage
      rw [if_pos hpage, data_dataToHost] at hflag
      cases hflag
      show decide ((if image.writable then (0x00 : UInt8) else 0x80) &&&
        writeProtectBit ≠ 0) = !image.writable
      cases image.writable <;> decide
    · cases hdata
  · split at hflag
    · rename_i hop6 hop
      rw [sentBy_senseReply hwhole hcmdid (senseReply_modeSense10 hop.1),
        List.mem_singleton] at hmem
      subst hmem
      rw [hslot] at hdata hflag
      rw [frameCmdid_frame] at hdata
      rw [frameData_frame] at hflag
      unfold modeSense10Reply at hdata hflag
      rw [if_neg hop.2] at hdata hflag
      split at hdata
      · cases hdata
      · rename_i data hpage
        rw [hpage] at hflag
        rcases Option.map_eq_some_iff.mp hpage with ⟨page, hcanned, rfl⟩
        have hheader := modeSense10Canned_header _ _ _ page hcanned
        have hprotected := modeSense10Page_protected hheader image.writable
        simp only [data_dataToHost, pageRequest, Option.map_some,
          Option.getD_some, Option.some.injEq] at hflag
        rw [← hflag]
        cases hwritable : image.writable with
        | true => simpa [hwritable] using hprotected
        | false => simpa [hwritable] using hprotected
    · cases hflag

/-!
## The shared pages

The canned pages are objects of the interpreter that every engine refers to.
Here they are, with the copies that a reply makes of them.
-/

/-- The constants, in the order of the source. -/
def sharedPages : Heap Bytes where
  cells :=
    [msLs120DiskPage, ms3fLs120, msFloppyDiskPage, ms3fFloppy, msCd1a, msCd1d,
      msCd2a, ms3fCd, msFloppyErrorRecovery, msLs120ErrorRecovery,
      msCdErrorRecovery]

/-- The constant that a page code selects. -/
def modeSense10Shared (device : DeviceCode) (page : UInt8)
    (sectorCount : Nat) : Option Address :=
  if page = 0x01 then
    if device = DeviceCode.floppy then
      some (if sectorCount ≤ 0xB40 then 8 else 9)
    else some 10
  else if page = 0x05 then
    if device = DeviceCode.floppy then
      some (if sectorCount ≤ 0xB40 then 2 else 0)
    else none
  else if page = 0x3F then
    if device = DeviceCode.floppy then
      some (if sectorCount ≤ 0xB40 then 3 else 1)
    else some 7
  else if page = 0x1A ∧ device = DeviceCode.cdrom then some 4
  else if page = 0x1D ∧ device = DeviceCode.cdrom then some 5
  else if page = 0x2A ∧ device = DeviceCode.cdrom then some 6
  else none

theorem modeSense10Shared_canned (device : DeviceCode) (page : UInt8)
    (sectorCount : Nat) :
    (modeSense10Shared device page sectorCount).bind sharedPages.get? =
      modeSense10Canned device page sectorCount := by
  unfold modeSense10Shared modeSense10Canned
  repeat' split
  all_goals rfl

/-- The copy is an object of its own, which is changed in place and then frozen
into the object that is sent. -/
def copyPage (heap : Heap Bytes) (data : Bytes) (writable : Bool) :
    Address × Heap Bytes :=
  let copied := heap.alloc data
  let marked := copied.2.update copied.1 fun page =>
    page.modify 3 fun b =>
      if writable then b &&& ~~~ writeProtectBit else b ||| writeProtectBit
  marked.alloc ((marked.get? copied.1).getD [])

theorem copyPage_get? (heap : Heap Bytes) (data : Bytes) (writable : Bool) :
    (copyPage heap data writable).2.get? (copyPage heap data writable).1 =
      some (modeSense10Page data writable) := by
  unfold copyPage
  simp only
  rw [Heap.get?_alloc, Heap.get?_update _ _ (Heap.get?_alloc heap data)]
  rfl

theorem copyPage_extends (heap : Heap Bytes) (data : Bytes)
    (writable : Bool) : heap.Extends (copyPage heap data writable).2 :=
  (Heap.extends_update_new heap data _).trans (Heap.alloc_extends _ _)

/-- The object that is sent in reply, if the page is known. -/
def PageRequest.serve (r : PageRequest) (heap : Heap Bytes) :
    Option Address × Heap Bytes :=
  match (modeSense10Shared r.device r.page r.sectorCount).bind heap.get? with
  | none => (none, heap)
  | some data =>
      let sent := copyPage heap data r.writable
      (some sent.1, sent.2)

/-- The content of the replies to some requests, one after the other, and the
objects that are there in the end. -/
def servePages : List PageRequest -> Heap Bytes ->
    List (Option Bytes) × Heap Bytes
  | [], heap => ([], heap)
  | r :: rest, heap =>
      let sent := r.serve heap
      let later := servePages rest sent.2
      (sent.1.bind sent.2.get? :: later.1, later.2)

theorem PageRequest.serve_extends (r : PageRequest) (heap : Heap Bytes) :
    heap.Extends (r.serve heap).2 := by
  unfold PageRequest.serve
  split
  · exact Heap.Extends.refl heap
  · exact copyPage_extends heap _ r.writable

theorem PageRequest.serve_eq (r : PageRequest) {heap : Heap Bytes}
    (h : sharedPages.Extends heap) :
    (r.serve heap).1.bind (r.serve heap).2.get? = r.data := by
  have hfound : (modeSense10Shared r.device r.page r.sectorCount).bind
      heap.get? = modeSense10Canned r.device r.page r.sectorCount := by
    rw [← modeSense10Shared_canned]
    cases ha : modeSense10Shared r.device r.page r.sectorCount with
    | none => rfl
    | some a =>
        have hin : a < sharedPages.cells.length := by
          unfold modeSense10Shared at ha
          repeat' split at ha
          all_goals first
            | (cases ha; done)
            | (cases ha; decide)
        have hpage : sharedPages.get? a = some sharedPages.cells[a] :=
          List.getElem?_eq_getElem hin
        simp only [Option.bind_some]
        rw [hpage, h a _ hpage]
  unfold PageRequest.serve PageRequest.data
  rw [hfound]
  cases modeSense10Canned r.device r.page r.sectorCount with
  | none => rfl
  | some data => exact copyPage_get? heap data r.writable

/-- No sequence of requests changes a constant, so each is answered as if it
were the only one. -/
theorem servePages_eq (requests : List PageRequest) {heap : Heap Bytes}
    (h : sharedPages.Extends heap) :
    (servePages requests heap).1 = requests.map PageRequest.data ∧
      heap.Extends (servePages requests heap).2 := by
  induction requests generalizing heap with
  | nil => exact ⟨rfl, Heap.Extends.refl heap⟩
  | cons r rest ih =>
      have hserved := r.serve_extends heap
      rcases ih (h.trans hserved) with ⟨hreplies, hkept⟩
      constructor
      · rw [servePages, List.map_cons, ← hreplies, ← r.serve_eq h]
      · exact hserved.trans hkept

/-!
## Agreement
-/

omit [DecidableEq ref] in
theorem exists_inBoundsWrite {d : Delivery ref} {i : ref}
    (hslot : d.before.devices d.device = some i)
    (hblocks : 1 ≤ (d.before.images i).blocks) :
    exists write, InBoundsWrite (d.1, write) d.device i 0 1 := by
  refine ⟨commandMessage 0 0x00 (commandFlags d.message)
    (extentCdb opWrite10 0 1), ?_⟩
  exact ⟨rfl, rfl, rfl, rfl, hslot, hblocks, by decide⟩

/-- In every run the write-protect bit of every mode sense reply is clear
exactly if a write to that device would be granted at that moment; and no
sequence of replies changes the pages that they are made of. -/
theorem write_protection_agrees {images : ref -> MediaImage}
    (hfresh : forall i, (images i).Fresh) (startMode : StartMode)
    (rxTimeout txTimeout heartbeat : Nat) (calls : List (Call ref)) :
    (forall d, d ∈ deliveries calls
        (newEngine startMode rxTimeout txTimeout heartbeat images) ->
      messageCmdid d.message = cmdCommandWritten ->
      forall i, d.before.devices d.device = some i ->
        1 ≤ (d.before.images i).blocks ->
        (exists write, InBoundsWrite (d.1, write) d.device i 0 1) ∧
        forall frame, frame ∈ sentBy d -> frameCmdid frame = cmdDataToHost ->
          forall flag,
            advertisedProtection (commandCdb d.message) (frameData frame) =
              some flag ->
            forall write lba length,
              InBoundsWrite (d.1, write) d.device i lba length ->
              (flag = false ↔ GrantsWrite (d.1, write) i lba length)) ∧
    forall requests,
      (servePages requests sharedPages).1 = requests.map PageRequest.data ∧
        sharedPages.Extends (servePages requests sharedPages).2 := by
  constructor
  · intro d hmem hcmdid i hslot hblocks
    rcases deliveries_standing hfresh startMode rxTimeout txTimeout heartbeat
      calls d hmem with ⟨hstanding, hwhole⟩
    refine ⟨exists_inBoundsWrite hslot hblocks, ?_⟩
    intro frame hframe hdata flag hflag write lba length hwrite
    have himage : d.slot = some (d.before.images i) := by
      rw [Delivery.slot, hslot]
      rfl
    rw [advertisedProtection_eq hwhole hcmdid himage hframe hdata hflag,
      hwrite.grants_iff hstanding]
    simp [Delivery.before]
  · intro requests
    exact servePages_eq requests (Heap.Extends.refl sharedPages)

theorem write_protection_agrees_floppy :
    let image := MediaImage.blank ["boot.img"] DeviceCode.floppy 2 true nofun
    let start : IderEngine Unit :=
      newEngine .onReboot 30000 0 20000 fun _ => image
    let sense := commandMessage 0 0x00 0xA0
      ([opModeSense10, 0x00, 0x3F] ++ List.replicate 4 0x00 ++
        [0x00, 0xFF, 0x00, 0x00, 0x00])
    let e := ((runCall (Call.attach ())).run start).2
    let d : Delivery Unit := ((e.inSeq, e.state), sense)
    forall frame, frame ∈ sentBy d -> frameCmdid frame = cmdDataToHost ->
      forall flag,
        advertisedProtection (commandCdb d.message) (frameData frame) =
          some flag ->
        forall write lba length,
          InBoundsWrite (d.1, write) d.device () lba length ->
          (flag = false ↔ GrantsWrite (d.1, write) () lba length) := by
  intro image start sense e d
  let calls : List (Call Unit) := [Call.attach (), Call.feed sense]
  have hfresh : forall i : Unit, ((fun _ => image) i).Fresh :=
    fun _ => MediaImage.blank_fresh ..
  have hpast : deliveries calls start = [d] := by
    rw [deliveries_attach,
      deliveries_message (e := e) rfl rfl (show Whole sense from rfl) rfl]
    rfl
  exact ((write_protection_agrees hfresh .onReboot 30000 0 20000 calls).1 d
    (by rw [hpast]; simp) rfl () (by decide) (by decide)).2

end Ider
end IntelAmt
