import IntelAmt.Ider.ReadFrames
import IntelAmt.Ider.WritePath

/-!
# The sectors of a read

A read command for blocks that the addressed image has is answered by exactly
the bytes that the image holds there at that time, the writes of the session
included, in frames of at most `readbfr` bytes, the last of which is marked.
-/

namespace IntelAmt
namespace Ider

open Foundation

variable {ref : Type}

/-!
## Views of a data frame
-/

/-- What stands behind the fixed part of a data frame. -/
def Outbound.data (out : Outbound) : Bytes := out.payload.drop 26

@[simp] theorem data_dataToHost (device : UInt8) (completed : Bool)
    (data : Bytes) (dma : Bool) :
    (dataToHost device completed data dma).data = data := by
  cases completed <;> rfl

@[simp] theorem data_commandEndResponse (error : Bool) (sense : UInt8)
    (device : UInt8) (asc asq : UInt8) :
    (commandEndResponse error sense device asc asq).data = [] := by
  cases error <;> rfl

theorem frameData_frame (out : Outbound) (seq : Nat) :
    frameData (out.frame seq) = out.data := by
  rw [frameData, framePayload_frame]
  rfl

/-- The mark of the last frame of a transfer. -/
def markedCompleted (frame : Bytes) : Bool :=
  frameAttributes frame &&& 0x02 != 0

theorem markedCompleted_dataToHost (device : UInt8) (completed : Bool)
    (data : Bytes) (dma : Bool) (seq : Nat) :
    markedCompleted ((dataToHost device completed data dma).frame seq) =
      completed := by
  have hlarge : (50 : UInt8) < cmdDataToHost := by decide
  cases completed <;> cases dma <;>
    simp [markedCompleted, dataToHost, hlarge] <;> decide

theorem numbered_flatMap_frameData (seq : Nat) (outs : List Outbound) :
    (numbered seq outs).flatMap frameData = outs.flatMap Outbound.data := by
  induction outs generalizing seq with
  | nil => rfl
  | cons out outs ih =>
      rw [numbered, List.flatMap_cons, List.flatMap_cons, ih, frameData_frame]

theorem numbered_getElem? {seq k : Nat} {outs : List Outbound} {frame : Bytes}
    (h : (numbered seq outs)[k]? = some frame) :
    exists out seq', outs[k]? = some out ∧ frame = out.frame seq' := by
  induction outs generalizing seq k with
  | nil => simp [numbered] at h
  | cons out outs ih =>
      cases k with
      | zero =>
          cases h
          exact ⟨out, seq, rfl, rfl⟩
      | succ k => exact ih h

/-!
## A transfer and its image
-/

section Transfers

variable {readbfr : Nat} {r : ReadRequest ref} {image image' : MediaImage}
variable {outs : List Outbound}

theorem MediaImage.read_image {offset length : Nat} {data : Bytes}
    (h : image.read offset length = (data, image'))
    (hshort : image.shortReads = []) :
    image' = { image with bytesRead := image.bytesRead + data.length } := by
  cases h
  rcases image with ⟨⟩
  cases hshort
  rfl

theorem Transfer.image_eq (h : Transfer readbfr r image outs image')
    (hshort : image.shortReads = []) :
    image' =
      { image with
        bytesRead :=
          image.bytesRead + (outs.flatMap Outbound.data).length } := by
  induction h with
  | cut hread => simpa using MediaImage.read_image hread hshort
  | last hread hdata hlast => simpa using MediaImage.read_image hread hshort
  | @more r image data image' outs image'' hread hdata hmore rest ih =>
      have hfirst := MediaImage.read_image hread hshort
      rw [ih (by rw [hfirst]; exact hshort), hfirst, List.flatMap_cons,
        List.length_append, data_dataToHost, Nat.add_assoc]

theorem Transfer.content (h : Transfer readbfr r image outs image')
    (hshort : image.shortReads = []) (hpos : 0 < r.remaining)
    (hfit : r.byteOffset + r.remaining ≤ image.file.length) :
    outs.flatMap Outbound.data =
      slice image.file r.byteOffset r.remaining := by
  rcases h.intact hshort hpos hfit with ⟨chunks, final, houts, hcontent⟩
  rw [houts, ← hcontent, List.flatMap_append, List.flatMap_map]
  simp [List.flatMap_id']

theorem Transfer.marked (h : Transfer readbfr r image outs image')
    (hshort : image.shortReads = []) (hpos : 0 < r.remaining)
    (hfit : r.byteOffset + r.remaining ≤ image.file.length) {k : Nat}
    {out : Outbound} (hk : outs[k]? = some out) (seq : Nat) :
    markedCompleted (out.frame seq) = true ↔ k + 1 = outs.length := by
  rcases h.intact hshort hpos hfit with ⟨chunks, final, houts, _⟩
  subst houts
  rw [List.length_append, List.length_map, List.length_singleton]
  by_cases hlast : k < chunks.length
  · rw [List.getElem?_append_left (by simpa using hlast),
      List.getElem?_map, List.getElem?_eq_getElem hlast] at hk
    cases hk
    rw [markedCompleted_dataToHost]
    constructor
    · intro hcontra
      cases hcontra
    · lia
  · rw [List.getElem?_append_right (by simpa using hlast),
      List.length_map] at hk
    cases hrest : k - chunks.length with
    | zero =>
        rw [hrest] at hk
        cases hk
        rw [markedCompleted_dataToHost]
        constructor
        · lia
        · exact fun _ => rfl
    | succ n =>
        rw [hrest] at hk
        cases hk

theorem Transfer.frame_bounds (h : Transfer readbfr r image outs image')
    (hshort : image.shortReads = []) (hpos : 0 < r.remaining)
    (hfit : r.byteOffset + r.remaining ≤ image.file.length)
    (hbound : 0 < readbfr) {out : Outbound} (hmem : out ∈ outs) (seq : Nat) :
    frameCmdid (out.frame seq) = cmdDataToHost ∧
      1 ≤ (frameData (out.frame seq)).length ∧
      (frameData (out.frame seq)).length ≤ readbfr := by
  rcases h.frames out hmem with hcut | ⟨completed, data, hdata, hchunk, rfl⟩
  · rcases h.intact hshort hpos hfit with ⟨chunks, final, houts, _⟩
    rw [houts, List.mem_append, List.mem_map, List.mem_singleton] at hmem
    rcases hmem with ⟨data, _, hout⟩ | hout
    · rw [hcut] at hout
      cases hout
    · rw [hcut] at hout
      cases hout
  · rw [ReadRequest.chunkSize, if_pos (by lia)] at hchunk
    rw [frameData_frame, data_dataToHost, frameCmdid_frame]
    exact ⟨rfl, hdata, by lia⟩

end Transfers

/-!
## The content of an image
-/

/-- A file behind the writes that were handed to it, in order. -/
def replayed (file : Bytes) (writes : List (Nat × Bytes)) : Bytes :=
  writes.foldl (fun file write => splice file write.1 write.2) file

theorem replayed_append (file : Bytes) (writes more : List (Nat × Bytes)) :
    replayed file (writes ++ more) = replayed (replayed file writes) more :=
  List.foldl_append

variable [DecidableEq ref]

/-- Every image holds what it held at first, with the writes of the session
applied. -/
def Replays (images : ref -> MediaImage) (s : HandlerState ref) : Prop :=
  forall i, (s.images i).file =
    replayed (images i).file (writtenTo i s.trace)

theorem Replays.same {images : ref -> MediaImage} {s s' : HandlerState ref}
    (h : Replays images s) (hsame : SameContent s s') : Replays images s' := by
  intro i
  rw [(hsame.images i).file, hsame.writes i]
  exact h i

theorem Replays.stored {images : ref -> MediaImage}
    {s s' : HandlerState ref} {message : Bytes} {p : PendingWrite ref}
    (h : Replays images s) (hstored : StoresPayload s s' message p) :
    Replays images s' := by
  intro i
  rw [hstored.writes i]
  by_cases hi : p.image = i
  · subst hi
    rcases MediaImage.write_eq_ok hstored.image with ⟨_, _, himage⟩
    rw [if_pos rfl, replayed_append, ← h p.image, himage]
    rfl
  · rw [if_neg hi, List.append_nil, hstored.others i (Ne.symm hi)]
    exact h i

theorem replays_kept {images : ref -> MediaImage} :
    KeptByRuns images fun r _ => Replays images r.2 where
  attach := fun i r past _ h => h
  send := fun out r past _ h =>
    h.same (SameContent.of_eq rfl fun i => writtenTo_send i r.2 out)
  halt := fun r past _ h => h
  deliver := by
    intro message r past result s _ h _ _ _ hstep
    rcases hstep.content with hsame | ⟨p, hstored⟩
    · exact h.same hsame
    · exact h.stored hstored

/-!
## Reads
-/

/-- How far a block number is shifted to a byte offset. -/
def DeviceCode.sectorShift : DeviceCode -> Nat
  | floppy => 9
  | cdrom => 11

omit [DecidableEq ref] in
theorem Standing.sectorShift {images : ref -> MediaImage}
    {s : HandlerState ref} (h : Standing images s) {device : DeviceCode}
    {i : ref} (hslot : s.devices device = some i) :
    (s.images i).sectorShift = device.sectorShift := by
  rw [MediaImage.sectorShift, h.slots device i hslot]
  cases device <;> rfl

/-- A delivery of a read command for blocks that the addressed image has, in
a session with a bound on the frames, while nobody cuts the file short. -/
structure OrdersRead (d : Delivery ref) (i : ref) (lba length : Nat) :
    Prop where
  cmdid : messageCmdid d.message = cmdCommandWritten
  extent : readExtent (commandCdb d.message) = some (lba, length)
  image : d.before.devices d.device = some i
  inside : lba + length ≤ (d.before.images i).blocks
  nonempty : 0 < length
  bounded : 0 < d.before.sessionInfo.readbfr
  uncut : (d.before.images i).shortReads = []

/-- The frames of the delivery carry the sectors, and the image stays what it
is but for the read counter. -/
structure DeliversSectors (d : Delivery ref) (i : ref) (lba length : Nat) :
    Prop where
  content : (sentBy d).flatMap frameData =
    slice (d.before.images i).file (lba <<< d.device.sectorShift)
      (length <<< d.device.sectorShift)
  whole : lba <<< d.device.sectorShift + length <<< d.device.sectorShift ≤
    (d.before.images i).file.length
  frames : forall frame, frame ∈ sentBy d ->
    frameCmdid frame = cmdDataToHost ∧ 1 ≤ (frameData frame).length ∧
      (frameData frame).length ≤ d.before.sessionInfo.readbfr
  marked : forall k frame, (sentBy d)[k]? = some frame ->
    (markedCompleted frame = true ↔ k + 1 = (sentBy d).length)
  image : d.after.images i =
    { d.before.images i with
      bytesRead := (d.before.images i).bytesRead +
        length <<< d.device.sectorShift }
  others : forall j, j ≠ i -> d.after.images j = d.before.images j

theorem OrdersRead.delivers {images : ref -> MediaImage} {d : Delivery ref}
    {i : ref} {lba length : Nat} (h : OrdersRead d i lba length)
    (hstanding : Standing images d.before) (hwhole : Whole d.message) :
    DeliversSectors d i lba length := by
  have hlong := hwhole.command_length h.cmdid
  have hcdb := commandCdb_length hlong
  have hshift := hstanding.sectorShift h.image
  have hinside := hstanding.extent_inside h.inside
  rw [hshift] at hinside
  have hpos : 0 < length <<< d.device.sectorShift := by
    rw [Nat.shiftLeft_eq]
    exact Nat.mul_pos h.nonempty (Nat.two_pow_pos _)
  rcases run_scsiRead hstanding.idle d.device h.inside h.nonempty
    (commandDma (d.message.getD 9 0)) with ⟨outs, image, htransfer, hrun⟩
  have hafter : d.after = (d.before.setImage i image).sendAll outs := by
    rw [Delivery.after, run_dispatch_command hwhole h.cmdid,
      run_onCommandWritten hlong, handleScsi_read hcdb h.extent]
    have himage : d.before.devices
        (commandDevice (commandFlags d.message)) = some i := h.image
    rw [himage]
    exact congrArg Prod.snd hrun
  have hsent : sentBy d = numbered d.before.outSeq outs := by
    apply Sends.sentBy_eq
    rw [hafter]
    exact sends_sendAll (d.before.setImage i image) outs
  have hrequest : readRequest d.device i (d.before.images i) lba length
      (commandDma (d.message.getD 9 0)) =
        { device := d.device
          image := i
          byteOffset := lba <<< d.device.sectorShift
          remaining := length <<< d.device.sectorShift
          dma := commandDma (d.message.getD 9 0) } := by
    rw [readRequest, hshift]
  rw [hrequest] at htransfer
  have hcontent := htransfer.content h.uncut hpos hinside
  have hlength : (outs.flatMap Outbound.data).length =
      length <<< d.device.sectorShift := by
    rw [hcontent]
    exact slice_length_of_le hinside
  constructor
  · rw [hsent, numbered_flatMap_frameData]
    exact hcontent
  · exact hinside
  · intro frame hmem
    rw [hsent] at hmem
    rcases mem_numbered hmem with ⟨out, seq, hout, rfl⟩
    exact htransfer.frame_bounds h.uncut hpos hinside h.bounded hout seq
  · intro k frame hk
    rw [hsent] at hk
    rcases numbered_getElem? hk with ⟨out, seq, hout, rfl⟩
    rw [hsent, numbered_length]
    exact htransfer.marked h.uncut hpos hinside hout seq
  · rw [hafter, HandlerState.sendAll_images, HandlerState.setImage_images,
      htransfer.image_eq h.uncut, hlength]
  · intro j hj
    rw [hafter, HandlerState.sendAll_images,
      HandlerState.setImage_images_of_ne _ hj]

/-- In every run every read of sectors that the image has delivers them: the
content that the image holds, which is what it held at first with the writes of
the session applied. -/
theorem reads_exact {images : ref -> MediaImage}
    (hfresh : forall i, (images i).Fresh) (startMode : StartMode)
    (rxTimeout txTimeout heartbeat : Nat) (calls : List (Call ref)) :
    forall d, d ∈ deliveries calls
        (newEngine startMode rxTimeout txTimeout heartbeat images) ->
      forall i lba length, OrdersRead d i lba length ->
        DeliversSectors d i lba length ∧
          (d.before.images i).file =
            replayed (images i).file (writtenTo i d.before.trace) := by
  intro d hmem i lba length horders
  rcases deliveries_standing hfresh startMode rxTimeout txTimeout heartbeat
    calls d hmem with ⟨hstanding, hwhole⟩
  have hhistory := run_invariant replays_kept.history hfresh startMode
    rxTimeout txTimeout heartbeat calls ⟨fun _ => rfl, by simp⟩
  rcases List.append_of_mem hmem with ⟨earlier, later, hsplit⟩
  constructor
  · exact horders.delivers hstanding hwhole
  · exact hhistory.2 earlier d later hsplit i

/-- A READ(10) of both sectors of a floppy, with a buffer of 512 bytes. -/
theorem reads_exact_sectors :
    let image := MediaImage.blank ["boot.img"] DeviceCode.floppy 2 true nofun
    let start : IderEngine Unit :=
      newEngine .onReboot 30000 0 20000 fun _ => image
    let e0 := ((runCall (Call.attach ())).run start).2
    let e1 := ((runCall (Call.feed (replyMessage 0 512 512))).run e0).2
    let d : Delivery Unit := ((e1.inSeq, e1.state),
      commandMessage 1 0x00 0xA0 (extentCdb opRead10 0 2))
    DeliversSectors d () 0 2 := by
  intro image start e0 e1 d
  let reply := replyMessage 0 512 512
  let read := commandMessage 1 0x00 0xA0 (extentCdb opRead10 0 2)
  let calls : List (Call Unit) :=
    [Call.attach (), Call.feed reply, Call.feed read]
  have hfresh : forall i : Unit, ((fun _ => image) i).Fresh :=
    fun _ => MediaImage.blank_fresh ..
  have hpast : deliveries calls start =
      [((e0.inSeq, e0.state), reply), d] := by
    rw [deliveries_attach,
      deliveries_message (e := e0) rfl rfl (show Whole reply from rfl) rfl,
      deliveries_message (e := e1) (by decide) (by decide)
        (show Whole read from rfl) (by decide)]
    rfl
  have horders : OrdersRead d () 0 2 :=
    ⟨rfl, rfl, by decide, by decide, by decide, by decide, by decide⟩
  exact (reads_exact hfresh .onReboot 30000 0 20000 calls d
    (by rw [hpast]; simp) () 0 2 horders).1

end Ider
end IntelAmt
