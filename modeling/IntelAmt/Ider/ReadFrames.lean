import IntelAmt.Ider.Answers

/-!
# Data frames and the negotiated buffer

A data frame tells its length in two 16-bit fields, and `readbfr` bounds what
a read may put into one frame.  Both hold as long as no read runs without a
bound, which is what a negotiated `readbfr` of 0 amounts to.
-/

namespace IntelAmt
namespace Ider

open Foundation

variable {ref : Type}

/-!
## Reading a data frame
-/

/-- The bytes behind the fixed part of DATA_TO_HOST. -/
def frameData (frame : Bytes) : Bytes := (framePayload frame).drop 26

/-- The length fields of a data frame tell how many bytes it carries; the
second one counts only without DMA. -/
structure Decodable (frame : Bytes) : Prop where
  length : leNat (slice (framePayload frame) 1 2) = (frameData frame).length
  pio : frameAttributes frame &&& 0x01 = 0 ->
    leNat (slice (framePayload frame) 8 2) = (frameData frame).length

theorem frameData_dataToHost (device : UInt8) (completed : Bool)
    (data : Bytes) (dma : Bool) (seq : Nat) :
    frameData ((dataToHost device completed data dma).frame seq) = data := by
  rw [frameData, framePayload_frame]
  cases completed <;> rfl

theorem leNat_pair {n : Nat} (h : n < 2 ^ 16) :
    leNat [UInt8.ofNat (n % 256), UInt8.ofNat (n / 256 % 256)] = n := by
  have hfits : n < 256 ^ 2 := h
  exact leNat_packLE_of_lt hfits

theorem decodable_dataToHost {data : Bytes} (h : data.length < 2 ^ 16)
    (device : UInt8) (completed dma : Bool) (seq : Nat) :
    Decodable ((dataToHost device completed data dma).frame seq) where
  length := by
    rw [frameData_dataToHost, framePayload_frame]
    exact leNat_pair h
  pio := by
    intro hpio
    rw [frameData_dataToHost, framePayload_frame]
    cases dma with
    | false => exact leNat_pair h
    | true =>
        have hlarge : (50 : UInt8) < cmdDataToHost := by decide
        cases completed <;> simp [dataToHost, hlarge] at hpio
        exact absurd hpio (by decide)

theorem Decodable.length_lt {frame : Bytes} (h : Decodable frame) :
    (frameData frame).length < 2 ^ 16 := by
  rw [← h.length]
  calc
    leNat (slice (framePayload frame) 1 2)
        < 256 ^ (slice (framePayload frame) 1 2).length := leNat_lt _
    _ ≤ 256 ^ 2 := Nat.pow_le_pow_right (by decide) (slice_length_le _ _ _)

/-!
## What a message may put into a data frame
-/

variable [DecidableEq ref]

/-- A read command for blocks that the addressed image has, the first of which
its file still yields. -/
def YieldsData (s : HandlerState ref) (device : DeviceCode) (cdb : Bytes) :
    Prop :=
  exists i lba length, readExtent cdb = some (lba, length) ∧
    s.devices device = some i ∧ lba + length ≤ (s.images i).blocks ∧
    0 < length ∧
    ((s.images i).read (lba <<< (s.images i).sectorShift)
      (length <<< (s.images i).sectorShift)).1 ≠ []

/-- The data frames that answer a command: canned data below 256 bytes, or a
chunk of a read, which only a `readbfr` of 0 leaves without a bound. -/
inductive DataFrame (s : HandlerState ref) (device : DeviceCode)
    (cdb : Bytes) (out : Outbound) : Prop where
  | canned (code : UInt8) (completed : Bool) (data : Bytes) (dma : Bool)
      (hout : out = dataToHost code completed data dma)
      (hread : readExtent cdb = none) (hsmall : data.length < 256)
  | chunk (code : UInt8) (completed : Bool) (data : Bytes) (dma : Bool)
      (hout : out = dataToHost code completed data dma)
      (hbuffer : s.sessionInfo.readbfr ≠ 0)
      (hchunk : data.length ≤ s.sessionInfo.readbfr)
  | unbounded (hbuffer : s.sessionInfo.readbfr = 0)
      (hyields : YieldsData s device cdb)

omit [DecidableEq ref] in
theorem Transfer.dataFrames {s : HandlerState ref} {device : DeviceCode}
    {cdb : Bytes} {i : ref} {lba length : Nat} {dma : Bool}
    {outs : List Outbound} {image : MediaImage}
    (hextent : readExtent cdb = some (lba, length))
    (himage : s.devices device = some i)
    (hbound : lba + length ≤ (s.images i).blocks) (hpos : 0 < length)
    (htransfer : Transfer s.sessionInfo.readbfr
      (readRequest device i (s.images i) lba length dma) (s.images i) outs
      image) :
    forall out, out ∈ outs -> out.cmdid = cmdDataToHost ->
      DataFrame s device cdb out := by
  intro out hmem hcmdid
  rcases htransfer.frames out hmem with
    hcut | ⟨completed, data, hdata, hchunk, hout⟩
  · rw [hcut] at hcmdid
    exact absurd hcmdid
      (show ¬ cmdCommandEndResponse = cmdDataToHost by decide)
  · by_cases hbuffer : s.sessionInfo.readbfr = 0
    · refine DataFrame.unbounded hbuffer
        ⟨i, lba, length, hextent, himage, hbound, hpos, ?_⟩
      intro hempty
      rw [hbuffer] at htransfer
      rw [htransfer.of_empty hempty] at hmem
      cases List.mem_singleton.mp hmem
      exact absurd hcmdid
        (show ¬ cmdCommandEndResponse = cmdDataToHost by decide)
    · refine DataFrame.chunk _ completed data _ hout hbuffer ?_
      rw [ReadRequest.chunkSize, if_pos hbuffer] at hchunk
      exact Nat.le_trans hchunk (Nat.min_le_right _ _)

theorem ScsiStep.dataFrames {s s' : HandlerState ref} {device : DeviceCode}
    {cdb : Bytes} {flags : UInt8} {result : Except PyError Unit}
    (hstep : ScsiStep s device cdb flags (result, s')) :
    exists outs, Sends s s' outs ∧
      forall out, out ∈ outs -> out.cmdid = cmdDataToHost ->
        DataFrame s device cdb out := by
  have hstatus : forall (error : Bool) (sense asc asq : UInt8),
      forall out, out ∈ [commandEndResponse error sense device.code asc asq] ->
        out.cmdid = cmdDataToHost -> DataFrame s device cdb out := by
    intro error sense asc asq out hmem hcmdid
    cases List.mem_singleton.mp hmem
    exact absurd hcmdid
      (show ¬ cmdCommandEndResponse = cmdDataToHost by decide)
  cases hstep with
  | status error sense asc asq _ =>
      exact ⟨_, sends_send _ _, hstatus error sense asc asq⟩
  | attention i =>
      exact ⟨_, sends_send (s.setImage i _) _, hstatus true 0x06 0x28 0x00⟩
  | data payload dma hcanned hsmall =>
      refine ⟨_, sends_send _ _, ?_⟩
      intro out hmem _
      cases List.mem_singleton.mp hmem
      exact DataFrame.canned _ _ _ _ rfl hcanned.1 hsmall
  | capacity i payload dma hop himage hsize hblocks hlength =>
      refine ⟨_, sends_send _ _, ?_⟩
      intro out hmem _
      cases List.mem_singleton.mp hmem
      refine DataFrame.canned _ _ _ _ rfl ?_ (by lia)
      rw [readExtent_eq_none_iff, hop]
      decide
  | capacityOverflow => exact ⟨[], sends_nil _, by simp⟩
  | silent => exact ⟨[], sends_nil _, by simp⟩
  | transfer i lba length dma outs image hextent himage hbound hpos
      htransfer =>
      exact ⟨outs, sends_sendAll (s.setImage i image) outs,
        htransfer.dataFrames hextent himage hbound hpos⟩
  | accepted i lba length =>
      refine ⟨_, sends_send { s with
        pendingWrite := some (writeRecord device i lba length) } _, ?_⟩
      intro out hmem hcmdid
      cases List.mem_singleton.mp hmem
      exact absurd hcmdid
        (show ¬ cmdGetDataFromHost = cmdDataToHost by decide)

omit [DecidableEq ref] in
theorem sends_wrote {s s' : HandlerState ref} {i : ref} {offset : Nat}
    {data : Bytes} {outs : List Outbound}
    (h : Sends { s with trace := s.trace ++ [Effect.wrote i offset data] } s'
      outs) : Sends s s' outs := by
  simpa [Sends] using h

theorem Step.dataFrames {s s' : HandlerState ref} {message : Bytes}
    {result : Except PyError Unit} (hstep : Step s message (result, s')) :
    exists outs, Sends s s' outs ∧
      forall out, out ∈ outs -> out.cmdid = cmdDataToHost ->
        messageCmdid message = cmdCommandWritten ∧
          DataFrame s (commandDevice (commandFlags message))
            (commandCdb message) out := by
  have hbare : forall {t t' : HandlerState ref} {out : Outbound},
      Sends t t' [out] -> out.cmdid ≠ cmdDataToHost ->
      exists outs, Sends t t' outs ∧
        forall out, out ∈ outs -> out.cmdid = cmdDataToHost ->
          messageCmdid message = cmdCommandWritten ∧
            DataFrame s (commandDevice (commandFlags message))
              (commandCdb message) out := by
    intro t t' out hsends hne
    refine ⟨[out], hsends, ?_⟩
    intro out' hmem hcmdid
    cases List.mem_singleton.mp hmem
    exact absurd hcmdid hne
  have hfeatures : (featureToggle s.startMode).cmdid ≠ cmdDataToHost :=
    show cmdDisableEnableFeatures ≠ cmdDataToHost by decide
  have hstatus : cmdCommandEndResponse ≠ cmdDataToHost := by decide
  cases hstep with
  | opened hcmdid hvalid =>
      exact hbare (sends_send { s with
        sessionInfo := announced message, sessionOpen := true } _) hfeatures
  | refused => exact ⟨[], sends_nil s, by simp⟩
  | closed => exact ⟨[], sends_nil s, by simp⟩
  | pinged => exact hbare (sends_send _ _) (by decide)
  | available => exact hbare (sends_send _ _) hfeatures
  | engaged => exact ⟨[], sends_nil s, by simp⟩
  | toggled => exact ⟨[], sends_nil s, by simp⟩
  | reset => exact hbare (sends_send _ _) (by decide)
  | errorSeen => exact ⟨[], sends_nil s, by simp⟩
  | ignored => exact ⟨[], sends_nil s, by simp⟩
  | command hcmdid hscsi =>
      rcases hscsi.dataFrames with ⟨outs, hsends, hframes⟩
      exact ⟨outs, hsends, fun out hmem hdata =>
        ⟨hcmdid, hframes out hmem hdata⟩⟩
  | unsolicited => exact hbare (sends_send _ _) hstatus
  | overrun p =>
      exact hbare (sends_send { s with pendingWrite := none } _) hstatus
  | unwritable => exact ⟨[], sends_nil s, by simp⟩
  | stored p => exact ⟨[], sends_wrote (sends_nil _), by simp⟩
  | completed p image => exact hbare (sends_wrote (sends_send _ _)) hstatus

/-!
## The negotiated buffer
-/

/-- The reply is accepted as the session that the engine serves. -/
structure AcceptsReply (d : Delivery ref) : Prop where
  cmdid : messageCmdid d.message = cmdOpenSessionReply
  valid : (announced d.message).Valid

/-- `readbfr` of the reply that was accepted last. -/
def Negotiated (past : List (Delivery ref)) (readbfr : Nat) : Prop :=
  exists before o since, past = before ++ o :: since ∧ AcceptsReply o ∧
    (announced o.message).readbfr = readbfr ∧
    forall d, d ∈ since -> ¬ AcceptsReply d

omit [DecidableEq ref] in
theorem Negotiated.snoc_cases {past : List (Delivery ref)}
    {d : Delivery ref} {readbfr : Nat}
    (h : Negotiated (past ++ [d]) readbfr) :
    AcceptsReply d ∧ (announced d.message).readbfr = readbfr ∨
      ¬ AcceptsReply d ∧ Negotiated past readbfr := by
  rcases h with ⟨before, o, since, hpast, haccepts, hreadbfr, hsince⟩
  rcases snoc_split hpast with ⟨_, _, rfl⟩ | ⟨since', rfl, hsplit⟩
  · exact Or.inl ⟨haccepts, hreadbfr⟩
  · exact Or.inr ⟨hsince d (by simp), before, o, since', hsplit, haccepts,
      hreadbfr, fun x hx => hsince x (by simp [hx])⟩

theorem ScsiStep.sessionInfo {s s' : HandlerState ref} {device : DeviceCode}
    {cdb : Bytes} {flags : UInt8} {result : Except PyError Unit}
    (hstep : ScsiStep s device cdb flags (result, s')) :
    s'.sessionInfo = s.sessionInfo := by
  cases hstep with
  | transfer => exact HandlerState.sendAll_sessionInfo _ _
  | _ => rfl

theorem Step.sessionInfo {s s' : HandlerState ref} {message : Bytes}
    {result : Except PyError Unit} (hstep : Step s message (result, s')) :
    s'.sessionInfo =
      if messageCmdid message = cmdOpenSessionReply ∧
          (announced message).Valid then announced message
      else s.sessionInfo := by
  have hother : forall {cmdid : UInt8}, messageCmdid message = cmdid ->
      cmdid ≠ cmdOpenSessionReply ->
      ¬ (messageCmdid message = cmdOpenSessionReply ∧
        (announced message).Valid) := by
    rintro cmdid hcmdid hne ⟨hreply, _⟩
    exact hne (hcmdid.symm.trans hreply)
  cases hstep with
  | opened hcmdid hvalid =>
      rw [if_pos ⟨hcmdid, hvalid⟩]
      rfl
  | refused hcmdid hinvalid => rw [if_neg fun h => hinvalid h.2]
  | command hcmdid hscsi =>
      rw [if_neg (hother hcmdid (by decide))]
      exact hscsi.sessionInfo
  | ignored hcmdid =>
      rw [if_neg]
      rintro ⟨hreply, _⟩
      exact hcmdid (by simp [hreply])
  | closed h | pinged h | available h | engaged h | toggled h | reset h
  | errorSeen h | unsolicited h | overrun _ h | unwritable _ _ h
  | stored _ _ h | completed _ _ h =>
      exact (if_neg (hother h (by decide))).symm

theorem negotiated_kept {images : ref -> MediaImage} :
    KeptByRuns images fun r past =>
      forall readbfr, Negotiated past readbfr ->
        r.2.sessionInfo.readbfr = readbfr ∧
          readbfr ≤ maxReadWriteBuffer where
  attach := fun i r past _ h => h
  send := fun out r past _ h => h
  halt := fun r past _ h => h
  deliver := by
    intro message r past result s hstanding h _ _ hrun hstep readbfr hlast
    have hinfo := hstep.sessionInfo
    rcases hlast.snoc_cases with ⟨haccepts, rfl⟩ | ⟨hnot, hearlier⟩
    · rw [if_pos ⟨haccepts.cmdid, haccepts.valid⟩] at hinfo
      rw [hinfo]
      exact ⟨rfl, haccepts.valid.2.1⟩
    · rw [if_neg fun h => hnot ⟨h.1, h.2⟩] at hinfo
      rw [hinfo]
      exact h readbfr hearlier

/-!
## Runs
-/

/-- Every data frame that is sent once a reply has been accepted can be
decoded, and a read puts no more than `readbfr` bytes into one. -/
def FramesFit (past : List (Delivery ref)) : Prop :=
  forall earlier d later readbfr, past = earlier ++ d :: later ->
    Negotiated earlier readbfr ->
    forall frame, frame ∈ sentBy d -> frameCmdid frame = cmdDataToHost ->
      Decodable frame ∧
        (messageCmdid d.message = cmdCommandWritten ->
          readExtent (commandCdb d.message) ≠ none ->
          (frameData frame).length ≤ readbfr)

/-- A read that yields data is processed although `readbfr` is 0. -/
structure ReadsUnbounded (earlier : List (Delivery ref)) (d : Delivery ref) :
    Prop where
  negotiated : Negotiated earlier 0
  cmdid : messageCmdid d.message = cmdCommandWritten
  yields : YieldsData d.before d.device (commandCdb d.message)

theorem read_sentBy {d : Delivery ref} (hidle : d.before.Idle)
    (hwhole : Whole d.message)
    (hcmdid : messageCmdid d.message = cmdCommandWritten) {i : ref}
    {lba length : Nat}
    (hextent : readExtent (commandCdb d.message) = some (lba, length))
    (himage : d.before.devices d.device = some i)
    (hbound : lba + length ≤ (d.before.images i).blocks)
    (hpos : 0 < length) :
    exists outs image dma,
      Transfer d.before.sessionInfo.readbfr
          (readRequest d.device i (d.before.images i) lba length dma)
          (d.before.images i) outs image ∧
        sentBy d = numbered d.before.outSeq outs := by
  have hlong := hwhole.command_length hcmdid
  have hcdb := commandCdb_length hlong
  rcases run_scsiRead hidle d.device hbound hpos
    (commandDma (d.message.getD 9 0)) with ⟨outs, image, htransfer, hrun⟩
  refine ⟨outs, image, _, htransfer, Sends.sentBy_eq ?_⟩
  have hafter : d.after = (d.before.setImage i image).sendAll outs := by
    rw [Delivery.after, run_dispatch_command hwhole hcmdid,
      run_onCommandWritten hlong, handleScsi_read hcdb hextent]
    rw [Delivery.device] at himage hrun
    rw [himage, hrun]
  rw [hafter]
  exact sends_sendAll (d.before.setImage i image) outs

theorem unbounded_read_sentBy {images : ref -> MediaImage} {d : Delivery ref}
    (hstanding : Standing images d.before) (hwhole : Whole d.message)
    (hcmdid : messageCmdid d.message = cmdCommandWritten) {i : ref}
    {lba length : Nat}
    (hextent : readExtent (commandCdb d.message) = some (lba, length))
    (himage : d.before.devices d.device = some i)
    (hbound : lba + length ≤ (d.before.images i).blocks)
    (hpos : 0 < length) (hzero : d.before.sessionInfo.readbfr = 0)
    (hintact : (d.before.images i).shortReads = []) :
    exists data dma,
      sentBy d =
          [(dataToHost d.device.code true data dma).frame d.before.outSeq] ∧
        data.length = length <<< (d.before.images i).sectorShift := by
  rcases read_sentBy hstanding.idle hwhole hcmdid hextent himage hbound
    hpos with ⟨outs, image, dma, htransfer, hsent⟩
  have hfit := hstanding.extent_inside hbound
  have hremaining : 0 < length <<< (d.before.images i).sectorShift := by
    rw [Nat.shiftLeft_eq]
    exact Nat.mul_pos hpos (Nat.two_pow_pos _)
  rw [hzero] at htransfer
  rw [htransfer.of_unbounded hintact hremaining hfit] at hsent
  exact ⟨_, dma, hsent, slice_length_of_le hfit⟩

/-- In a run all data frames fit exactly if no read that yields data is
processed under a negotiated `readbfr` of 0. -/
theorem read_frames_iff {images : ref -> MediaImage}
    (hfresh : forall i, (images i).Fresh) (startMode : StartMode)
    (rxTimeout txTimeout heartbeat : Nat) (calls : List (Call ref)) :
    let past := deliveries calls
      (newEngine startMode rxTimeout txTimeout heartbeat images)
    FramesFit past ↔
      forall earlier d later, past = earlier ++ d :: later ->
        ¬ ReadsUnbounded earlier d := by
  intro past
  have hhistory := run_invariant negotiated_kept.history hfresh startMode
    rxTimeout txTimeout heartbeat calls
    ⟨by rintro readbfr ⟨before, o, since, hnil, _⟩; simp at hnil, by simp⟩
  have hmet := deliveries_standing hfresh startMode rxTimeout txTimeout
    heartbeat calls
  constructor
  · rintro hfit earlier d later hpast
      ⟨hnegotiated, hcmdid, i, lba, length, hextent, himage, hbound, hpos,
        hyields⟩
    have hmem : d ∈ past := by
      rw [hpast]
      simp
    rcases read_sentBy (hmet d hmem).1.idle (hmet d hmem).2 hcmdid hextent
      himage hbound hpos with ⟨outs, image, dma, htransfer, hsent⟩
    have hbuffer : d.before.sessionInfo.readbfr = 0 :=
      (hhistory.2 earlier d later hpast 0 hnegotiated).1
    rw [hbuffer] at htransfer
    rcases htransfer.of_data hyields with
      ⟨completed, data, rest, hdata, houts⟩
    have hframe := hfit earlier d later 0 hpast hnegotiated
      ((dataToHost d.device.code completed data dma).frame d.before.outSeq)
      (by rw [hsent, houts]; exact List.mem_cons_self) rfl
    have hle := hframe.2 hcmdid (by simp [hextent])
    rw [frameData_dataToHost] at hle
    exact hdata (List.length_eq_zero_iff.mp (Nat.le_zero.mp hle))
  · intro hnot earlier d later readbfr hpast hnegotiated frame hframe hcmdid
    have hmem : d ∈ past := by
      rw [hpast]
      simp
    rcases hhistory.2 earlier d later hpast readbfr hnegotiated with
      ⟨hbuffer, hlow⟩
    change d.before.sessionInfo.readbfr = readbfr at hbuffer
    have hstep : Step d.before d.message (d.outcome, d.after) :=
      dispatch_step (hmet d hmem).1.idle (hmet d hmem).2
    rcases hstep.dataFrames with ⟨outs, hsends, hframes⟩
    rw [hsends.sentBy_eq] at hframe
    rcases mem_numbered hframe with ⟨out, seq, hout, rfl⟩
    rcases hframes out hout hcmdid with ⟨hcommand, hdata⟩
    cases hdata with
    | canned code completed data dma hout hread hsmall =>
        rw [hout]
        refine ⟨decodable_dataToHost (by lia) _ _ _ _, ?_⟩
        intro _ hextent
        exact absurd hread hextent
    | chunk code completed data dma hout _ hchunk =>
        rw [hout, frameData_dataToHost]
        rw [hbuffer] at hchunk
        have hmax : maxReadWriteBuffer < 2 ^ 16 := by decide
        exact ⟨decodable_dataToHost (by lia) _ _ _ _, fun _ _ => hchunk⟩
    | unbounded hzero hyields =>
        rw [hbuffer] at hzero
        rw [hzero] at hnegotiated
        exact absurd ⟨hnegotiated, hcommand, hyields⟩
          (hnot earlier d later hpast)

theorem read_frames_iff_bounded :
    let image := MediaImage.blank ["boot.img"] DeviceCode.floppy 2 true nofun
    let calls : List (Call Unit) :=
      [Call.attach (), Call.feed (replyMessage 0 512 512),
        Call.feed (commandMessage 1 0x00 0xA0 (extentCdb opRead10 0 2))]
    FramesFit (deliveries calls
      (newEngine .onReboot 30000 0 20000 fun _ => image)) := by
  intro image calls
  let start : IderEngine Unit :=
    newEngine .onReboot 30000 0 20000 fun _ => image
  let reply := replyMessage 0 512 512
  let read := commandMessage 1 0x00 0xA0 (extentCdb opRead10 0 2)
  let e0 := ((runCall (Call.attach ())).run start).2
  let e1 := ((runCall (Call.feed reply)).run e0).2
  have hfresh : forall i : Unit, ((fun _ => image) i).Fresh :=
    fun _ => MediaImage.blank_fresh ..
  have hpast : deliveries calls start =
      [((e0.inSeq, e0.state), reply), ((e1.inSeq, e1.state), read)] := by
    rw [deliveries_attach,
      deliveries_message (e := e0) rfl rfl (show Whole reply from rfl) rfl,
      deliveries_message (e := e1) (by decide) (by decide)
        (show Whole read from rfl) (by decide)]
    rfl
  apply (read_frames_iff hfresh .onReboot 30000 0 20000 calls).mpr
  rw [hpast]
  rintro earlier d later hsplit ⟨⟨before, o, since, hearlier, _, hzero, _⟩, _⟩
  have hreadbfr : forall x, x ∈ [((e0.inSeq, e0.state), reply),
      ((e1.inSeq, e1.state), read)] ->
      (announced (Delivery.message x)).readbfr ≠ 0 := by
    intro x hx
    simp only [List.mem_cons, List.not_mem_nil, or_false] at hx
    rcases hx with rfl | rfl
    · show (announced reply).readbfr ≠ 0
      decide
    · show (announced read).readbfr ≠ 0
      decide
  exact hreadbfr o (by rw [hsplit, hearlier]; simp) hzero

/-- A session with a buffer of 0 and a read of 128 sectors: the frame carries
65536 bytes, which its length field cannot tell. -/
theorem unbounded_read_overflows :
    let image :=
      MediaImage.blank ["boot.img"] DeviceCode.floppy 128 true nofun
    let calls : List (Call Unit) :=
      [Call.attach (), Call.feed (replyMessage 0 0 512),
        Call.feed (commandMessage 1 0x00 0xA0 (extentCdb opRead10 0 128))]
    ¬ FramesFit (deliveries calls
      (newEngine .onReboot 30000 0 20000 fun _ => image)) := by
  intro image calls hfit
  let start : IderEngine Unit :=
    newEngine .onReboot 30000 0 20000 fun _ => image
  let reply := replyMessage 0 0 512
  let read := commandMessage 1 0x00 0xA0 (extentCdb opRead10 0 128)
  let e0 := ((runCall (Call.attach ())).run start).2
  let e1 := ((runCall (Call.feed reply)).run e0).2
  let o : Delivery Unit := ((e0.inSeq, e0.state), reply)
  let d : Delivery Unit := ((e1.inSeq, e1.state), read)
  have hpast : deliveries calls start = [o] ++ d :: [] := by
    rw [deliveries_attach,
      deliveries_message (e := e0) rfl rfl (show Whole reply from rfl) rfl,
      deliveries_message (e := e1) (by decide) (by decide)
        (show Whole read from rfl) (by decide)]
    rfl
  have hnegotiated : Negotiated [o] 0 :=
    ⟨[], o, [], rfl, ⟨rfl, by decide⟩, rfl, by simp⟩
  have hfresh : forall i : Unit, ((fun _ => image) i).Fresh :=
    fun _ => MediaImage.blank_fresh ..
  have hstanding : Standing (fun _ => image) d.before :=
    (deliveries_standing hfresh .onReboot 30000 0 20000 calls d
      (by rw [hpast]; simp)).1
  rcases unbounded_read_sentBy (d := d) (i := ()) hstanding
    (show Whole read from rfl) rfl (show _ = some (0, 128) from rfl)
    (by decide) (by decide) (by decide) (by decide) (by decide) with
    ⟨data, dma, hsent, hlength⟩
  have hframe := hfit [o] d [] 0 hpast hnegotiated _
    (by rw [hsent]; exact List.mem_cons_self) rfl
  have hlt := hframe.1.length_lt
  rw [frameData_dataToHost, hlength] at hlt
  exact absurd hlt (by decide)

end Ider
end IntelAmt
