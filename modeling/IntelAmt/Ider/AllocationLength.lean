import IntelAmt.Ider.ModeSense

/-!
# The room that the host has

MODE_SENSE_10 and GET_CONFIGURATION carry the number of bytes that the host has
room for.  GET_CONFIGURATION cuts its reply to it; MODE_SENSE_10 looks at it
only to tell a probe for the length, and sends its page whole.
-/

namespace IntelAmt
namespace Ider

open Foundation

variable {ref : Type} [DecidableEq ref]

/-- The data that a delivery sends, in order. -/
def dataSent (d : Delivery ref) : Bytes := (sentBy d).flatMap frameData

/-- The same delivery with another allocation length in the command. -/
def Delivery.withAllocation (d : Delivery ref) (room : Nat) : Delivery ref :=
  (d.1, d.message.take 23 ++ packBE 2 room ++ d.message.drop 25)

/-- The data is no longer than the room for it, and a prefix of what would be
sent if there were room for 65535 bytes. -/
def RespectsAllocation (d : Delivery ref) : Prop :=
  (dataSent d).length ≤ allocationLength (commandCdb d.message) ∧
    dataSent d <+: dataSent (d.withAllocation 65535)

/-- The length of the page that MODE_SENSE_10 sends, which does not depend on
the image. -/
def modePageLength (device : DeviceCode) (page : UInt8) : Nat :=
  match device with
  | DeviceCode.floppy =>
      if page = 0x01 then 20
      else if page = 0x05 then 40
      else if page = 0x3F then 94
      else 0
  | DeviceCode.cdrom =>
      if page = 0x01 then 16
      else if page = 0x05 then 0
      else if page = 0x3F then 42
      else if page = 0x1A then 20
      else if page = 0x1D then 20
      else if page = 0x2A then 34
      else 0

omit [DecidableEq ref] in
theorem modeSense10Canned_page_length (device : DeviceCode) (page : UInt8)
    (sectorCount : Nat) :
    ((modeSense10Canned device page sectorCount).map List.length).getD 0 =
      modePageLength device page := by
  unfold modePageLength modeSense10Canned
  cases device
  all_goals
    simp only [reduceCtorEq, and_false, and_true, if_true, if_false]
    repeat' split
  all_goals rfl

omit [DecidableEq ref] in
theorem pageData_length (r : PageRequest) :
    (r.data.map List.length).getD 0 = modePageLength r.device r.page := by
  rw [PageRequest.data, Option.map_map,
    ← modeSense10Canned_page_length r.device r.page r.sectorCount]
  congr 2
  funext page
  simp [modeSense10Page]

/-!
## The data of a reply
-/

section Replies

omit [DecidableEq ref]

theorem modeSense10Reply_data {device : DeviceCode}
    {image : Option MediaImage} {cdb : Bytes}
    (hroom : allocationLength cdb ≠ 0) (dma : Bool) :
    (modeSense10Reply device image cdb dma).data =
      ((pageRequest device image cdb).data).getD [] := by
  unfold modeSense10Reply
  rw [if_neg hroom]
  cases (pageRequest device image cdb).data with
  | none => exact data_commandEndResponse ..
  | some data => exact data_dataToHost ..

theorem configurationReply_data {device : DeviceCode} {cdb : Bytes}
    (hroom : allocationLength cdb ≠ 0) (dma : Bool) :
    (configurationReply device cdb dma).data =
      configurationData cdb (allocationLength cdb) := by
  rw [configurationReply, data_dataToHost, if_neg hroom]

end Replies

theorem dataSent_senseReply {d : Delivery ref} (hwhole : Whole d.message)
    (hcmdid : messageCmdid d.message = cmdCommandWritten) {out : Outbound}
    (hout : senseReply d = some out) : dataSent d = out.data := by
  rw [dataSent, sentBy_senseReply hwhole hcmdid hout, List.flatMap_singleton,
    frameData_frame]

/-!
## The same command with all the room
-/

section WithAllocation

omit [DecidableEq ref]

variable {d : Delivery ref}

theorem withAllocation_getD (hlong : d.message.length = 28) (room : Nat)
    {k : Nat} (hk : k < 23) :
    (d.withAllocation room).message.getD k 0 = d.message.getD k 0 := by
  show (d.message.take 23 ++ packBE 2 room ++ d.message.drop 25).getD k 0 = _
  rw [List.append_assoc, getD_append_left (by simp [hlong]; lia),
    getD_take hk]

theorem withAllocation_length (hlong : d.message.length = 28) (room : Nat) :
    (d.withAllocation room).message.length = 28 := by
  show (d.message.take 23 ++ packBE 2 room ++ d.message.drop 25).length = 28
  simp [hlong]

theorem withAllocation_cdb (hlong : d.message.length = 28) (room : Nat) :
    commandCdb (d.withAllocation room).message =
      (commandCdb d.message).take 7 ++
        (packBE 2 room ++ (commandCdb d.message).drop 9) := by
  show slice (d.message.take 23 ++ packBE 2 room ++ d.message.drop 25) 16 12 =
    (slice d.message 16 12).take 7 ++
      (packBE 2 room ++ (slice d.message 16 12).drop 9)
  have hfront : (d.message.take 23).drop 16 = (d.message.drop 16).take 7 := by
    rw [List.drop_take]
  have hback : ((d.message.drop 16).take 12).drop 9 = d.message.drop 25 := by
    rw [List.drop_take, List.drop_drop]
    exact List.take_of_length_le (by simp [hlong])
  have hfirst : ((d.message.drop 16).take 12).take 7 =
      (d.message.drop 16).take 7 := by
    rw [List.take_take]
    rfl
  simp only [slice]
  rw [hback, hfirst, List.append_assoc,
    List.drop_append_of_le_length (by simp [hlong]), hfront,
    List.take_of_length_le (by simp [hlong])]

theorem withAllocation_cdb_getD (hlong : d.message.length = 28) (room : Nat)
    {k : Nat} (hk : k < 7) :
    (commandCdb (d.withAllocation room).message).getD k 0 =
      (commandCdb d.message).getD k 0 := by
  have hcdb := commandCdb_length hlong
  rw [withAllocation_cdb hlong, getD_append_left (by simp [hcdb]; lia),
    getD_take hk]

theorem withAllocation_allocationLength (hlong : d.message.length = 28)
    {room : Nat} (hroom : room < 65536) :
    allocationLength (commandCdb (d.withAllocation room).message) = room := by
  have hcdb := commandCdb_length hlong
  have hslice : slice (commandCdb (d.withAllocation room).message) 7 2 =
      packBE 2 room := by
    have hfront : ((commandCdb d.message).take 7).length = 7 := by
      simp [hcdb]
    rw [withAllocation_cdb hlong, slice, List.drop_left' hfront]
    exact List.take_left' (by simp)
  rw [allocationLength, hslice, beNat, packBE, List.reverse_reverse,
    leNat_packLE]
  exact Nat.mod_eq_of_lt hroom

theorem withAllocation_device (hlong : d.message.length = 28) (room : Nat) :
    (d.withAllocation room).device = d.device :=
  congrArg commandDevice (withAllocation_getD hlong room (by decide))

theorem withAllocation_cmdid (hlong : d.message.length = 28) (room : Nat) :
    messageCmdid (d.withAllocation room).message = messageCmdid d.message :=
  withAllocation_getD hlong room (by decide)

theorem withAllocation_whole (hwhole : Whole d.message)
    (hcmdid : messageCmdid d.message = cmdCommandWritten) (room : Nat) :
    Whole (d.withAllocation room).message := by
  have hlong := hwhole.command_length hcmdid
  have hview : (d.withAllocation room).message.getD 0 0 =
      cmdCommandWritten := by
    rw [withAllocation_getD hlong room (by decide)]
    exact hcmdid
  have hfixed : fixedLengthCommands.lookup
      ((d.withAllocation room).message.getD 0 0) = some 28 := by
    rw [hview]
    decide
  rw [Whole, messageLength_fixed hfixed, withAllocation_length hlong]

end WithAllocation

/-!
## Exactly when the room is respected
-/

/-- One of the two commands, with room for at least one byte. -/
structure AsksForData (d : Delivery ref) : Prop where
  whole : Whole d.message
  cmdid : messageCmdid d.message = cmdCommandWritten
  op : (commandCdb d.message).getD 0 0 = opModeSense10 ∨
    (commandCdb d.message).getD 0 0 = opGetConfiguration
  room : allocationLength (commandCdb d.message) ≠ 0

section Respects

variable {d : Delivery ref}

theorem dataSent_modeSense10 (h : AsksForData d)
    (hop : (commandCdb d.message).getD 0 0 = opModeSense10) :
    dataSent d =
      (pageRequest d.device d.slot (commandCdb d.message)).data.getD [] := by
  rw [dataSent_senseReply h.whole h.cmdid (senseReply_modeSense10 hop),
    modeSense10Reply_data h.room]

theorem dataSent_getConfiguration (h : AsksForData d)
    (hop : (commandCdb d.message).getD 0 0 = opGetConfiguration) :
    dataSent d = configurationData (commandCdb d.message)
      (allocationLength (commandCdb d.message)) := by
  rw [dataSent_senseReply h.whole h.cmdid (senseReply_getConfiguration hop),
    configurationReply_data h.room]

omit [DecidableEq ref] in
theorem AsksForData.withAllocation (h : AsksForData d) :
    AsksForData (d.withAllocation 65535) where
  whole := withAllocation_whole h.whole h.cmdid 65535
  cmdid := by
    rw [withAllocation_cmdid (h.whole.command_length h.cmdid)]
    exact h.cmdid
  op := by
    rw [withAllocation_cdb_getD (h.whole.command_length h.cmdid) 65535
      (by decide)]
    exact h.op
  room := by
    rw [withAllocation_allocationLength (h.whole.command_length h.cmdid)
      (by decide)]
    decide

theorem dataSent_modeSense10_length (h : AsksForData d)
    (hop : (commandCdb d.message).getD 0 0 = opModeSense10) :
    (dataSent d).length =
      modePageLength d.device (modePage (commandCdb d.message)) := by
  have hpage := pageData_length
    (pageRequest d.device d.slot (commandCdb d.message))
  rw [dataSent_modeSense10 h hop]
  cases hdata : (pageRequest d.device d.slot (commandCdb d.message)).data with
  | none =>
      rw [hdata] at hpage
      exact hpage
  | some data =>
      rw [hdata] at hpage
      exact hpage

theorem dataSent_modeSense10_eq (h : AsksForData d)
    (hop : (commandCdb d.message).getD 0 0 = opModeSense10) :
    dataSent (d.withAllocation 65535) = dataSent d := by
  have hlong := h.whole.command_length h.cmdid
  have hop' : (commandCdb (d.withAllocation 65535).message).getD 0 0 =
      opModeSense10 := by
    rw [withAllocation_cdb_getD hlong 65535 (by decide)]
    exact hop
  have hslot : (d.withAllocation 65535).slot = d.slot := by
    rw [Delivery.slot, withAllocation_device hlong]
    rfl
  have hpage : modePage (commandCdb (d.withAllocation 65535).message) =
      modePage (commandCdb d.message) := by
    rw [modePage, withAllocation_cdb_getD hlong 65535 (by decide), modePage]
  rw [dataSent_modeSense10 h.withAllocation hop', dataSent_modeSense10 h hop,
    hslot, withAllocation_device hlong, pageRequest, hpage, ← pageRequest]

theorem dataSent_getConfiguration_prefix (h : AsksForData d)
    (hop : (commandCdb d.message).getD 0 0 = opGetConfiguration) :
    dataSent d <+: dataSent (d.withAllocation 65535) := by
  have hlong := h.whole.command_length h.cmdid
  have hcdb := commandCdb_length hlong
  have hop' : (commandCdb (d.withAllocation 65535).message).getD 0 0 =
      opGetConfiguration := by
    rw [withAllocation_cdb_getD hlong 65535 (by decide)]
    exact hop
  have hcode : slice (commandCdb (d.withAllocation 65535).message) 2 2 =
      slice (commandCdb d.message) 2 2 := by
    rw [withAllocation_cdb hlong, slice_append_left (by simp [hcdb]),
      slice_take (by decide)]
  have hroom := withAllocation_allocationLength hlong
    (show 65535 < 65536 by decide)
  rw [dataSent_getConfiguration h.withAllocation hop',
    dataSent_getConfiguration h hop, hroom, configurationData,
    configurationData, withAllocation_cdb_getD hlong 65535 (by decide), hcode]
  have hbody := configurationBody_length
    (decide ((commandCdb d.message).getD 1 0 ≠ 2))
    (beNat (slice (commandCdb d.message) 2 2))
  rw [List.take_of_length_le (show _ ≤ 65535 by lia)]
  exact List.take_prefix _ _

/-- The room is respected by GET_CONFIGURATION always, and by MODE_SENSE_10
exactly if the page fits into it. -/
theorem respectsAllocation_iff (h : AsksForData d) :
    RespectsAllocation d ↔
      (commandCdb d.message).getD 0 0 = opGetConfiguration ∨
        modePageLength d.device (modePage (commandCdb d.message)) ≤
          allocationLength (commandCdb d.message) := by
  rcases h.op with hop | hop
  · have hlength := dataSent_modeSense10_length h hop
    have hne : (commandCdb d.message).getD 0 0 ≠ opGetConfiguration := by
      rw [hop]
      decide
    rw [RespectsAllocation, hlength, dataSent_modeSense10_eq h hop]
    constructor
    · exact fun hrespects => Or.inr hrespects.1
    · rintro (hconfiguration | hfits)
      · exact absurd hconfiguration hne
      · exact ⟨hfits, List.prefix_rfl⟩
  · refine iff_of_true ⟨?_, dataSent_getConfiguration_prefix h hop⟩
      (Or.inl hop)
    rw [dataSent_getConfiguration h hop, configurationData]
    exact List.length_take_le _ _

end Respects

/-- A MODE_SENSE_10 for all pages, with room for so many bytes. -/
def modeSense10Cdb (page : UInt8) (room : Nat) : Bytes :=
  [opModeSense10, 0x00, page, 0x00, 0x00, 0x00, 0x00] ++ packBE 2 room ++
    [0x00, 0x00, 0x00]

/-- All pages of a writable floppy take 94 bytes: room for as many is respected,
and room for one less is not. -/
theorem respectsAllocation_iff_94 :
    let image := MediaImage.blank ["boot.img"] DeviceCode.floppy 2 true nofun
    let start : IderEngine Unit :=
      newEngine .onReboot 30000 0 20000 fun _ => image
    let e := ((runCall (Call.attach ())).run start).2
    let asked (room : Nat) : Delivery Unit := ((e.inSeq, e.state),
      commandMessage 0 0x00 0xA0 (modeSense10Cdb 0x3F room))
    RespectsAllocation (asked 94) ∧ ¬ RespectsAllocation (asked 93) := by
  intro image start e asked
  have hexact : AsksForData (asked 94) := ⟨rfl, rfl, Or.inl rfl, by decide⟩
  have hless : AsksForData (asked 93) := ⟨rfl, rfl, Or.inl rfl, by decide⟩
  constructor
  · exact (respectsAllocation_iff hexact).mpr (Or.inr (by decide))
  · apply mt (respectsAllocation_iff hless).mp
    rintro (hop | hroom)
    · exact absurd hop (by decide)
    · exact absurd hroom (by decide)

/-- Room for 8 bytes: 94 are sent. -/
theorem modeSense10_overlong :
    let image := MediaImage.blank ["boot.img"] DeviceCode.floppy 2 true nofun
    let start : IderEngine Unit :=
      newEngine .onReboot 30000 0 20000 fun _ => image
    let e := ((runCall (Call.attach ())).run start).2
    let d : Delivery Unit := ((e.inSeq, e.state),
      commandMessage 0 0x00 0xA0 (modeSense10Cdb 0x3F 8))
    AsksForData d ∧ (dataSent d).length = 94 ∧ ¬ RespectsAllocation d := by
  intro image start e d
  have hasks : AsksForData d := ⟨rfl, rfl, Or.inl rfl, by decide⟩
  have hlength : (dataSent d).length = 94 := by
    rw [dataSent_modeSense10_length hasks rfl]
    decide
  refine ⟨hasks, hlength, ?_⟩
  rintro ⟨hroom, _⟩
  rw [hlength] at hroom
  exact absurd hroom (by decide)

end Ider
end IntelAmt
