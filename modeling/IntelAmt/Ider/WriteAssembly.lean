import IntelAmt.Foundation.Collecting
import IntelAmt.Ider.SectorReads
import IntelAmt.Ider.WriteSettlement

/-!
# Assembling a split write

The payload of an accepted write comes in any number of frames, between which
other traffic passes.  The engine is a collector of as many bytes as the
command declares: what it has collected stands in the file, in order, and the
frame that brings the last byte, or too many, is the one that is answered.
-/

namespace IntelAmt
namespace Ider

open Foundation

variable {ref : Type}

/-!
## Files
-/

theorem splice_nil {file : Bytes} {offset : Nat} (h : offset ≤ file.length) :
    splice file offset [] = file := by
  rw [splice_of_le h, List.nil_append, List.length_nil, Nat.add_zero,
    List.take_append_drop]

theorem splice_splice {file data more : Bytes} {offset : Nat}
    (hfit : offset + data.length + more.length ≤ file.length) :
    splice (splice file offset data) (offset + data.length) more =
      splice file offset (data ++ more) := by
  have hlength := splice_length_of_le
    (show offset + data.length ≤ file.length by lia)
  have hwhole : offset + (data ++ more).length ≤ file.length := by
    rw [List.length_append]
    lia
  apply List.ext_getElem?
  intro k
  by_cases hmore : offset + data.length ≤ k ∧
      k < offset + data.length + more.length
  · rw [getElem?_splice_inside (by lia) hmore.1 hmore.2,
      getElem?_splice_inside hwhole (by lia)
        (by rw [List.length_append]; lia),
      List.getElem?_append_right (by lia)]
    congr 1
    lia
  · rw [getElem?_splice_outside (by lia) (by lia)]
    by_cases hdata : offset ≤ k ∧ k < offset + data.length
    · rw [getElem?_splice_inside (by lia) hdata.1 hdata.2,
        getElem?_splice_inside hwhole hdata.1
          (by rw [List.length_append]; lia),
        List.getElem?_append_left (by lia)]
    · rw [getElem?_splice_outside (by lia) (by lia),
        getElem?_splice_outside hwhole (by rw [List.length_append]; lia)]

theorem slice_splice {file data : Bytes} {offset : Nat}
    (hfit : offset + data.length ≤ file.length) :
    slice (splice file offset data) offset data.length = data := by
  have hfront : (file.take offset).length = offset :=
    List.length_take_of_le (by lia)
  rw [splice_of_le (by lia), slice, List.drop_append_of_le_length (by lia),
    List.drop_of_length_le (by lia), List.nil_append, List.take_left]

/-!
## The two ways in which a write ends
-/

def writeDone : Outbound :=
  commandEndResponse false 0x00 DeviceCode.floppy.code 0x00 0x00

def writeAborted : Outbound :=
  commandEndResponse false 0x05 DeviceCode.floppy.code 0x21 0x00

/-- The frame carries the message, under whatever number. -/
def Carries (out : Outbound) (frame : Bytes) : Prop :=
  frameCmdid frame = out.cmdid ∧ framePayload frame = out.payload

/-- A message that ends no write. -/
def EndsNoWrite (out : Outbound) : Prop :=
  out.cmdid = cmdCommandEndResponse ->
    out.payload ≠ writeDone.payload ∧ out.payload ≠ writeAborted.payload

theorem endsNoWrite_of_cmdid {out : Outbound} (cmdid : UInt8)
    (hout : out.cmdid = cmdid) (h : cmdid ≠ cmdCommandEndResponse) :
    EndsNoWrite out :=
  fun hcmdid => absurd (hout.symm.trans hcmdid) h

theorem endsNoWrite_status {error : Bool} {sense asc : UInt8}
    (hform : error = false -> sense ≠ 0x00 ∧ asc ≠ 0x21)
    (device asq : UInt8) :
    EndsNoWrite (commandEndResponse error sense device asc asq) := by
  intro _
  cases error with
  | true =>
      constructor <;> intro h <;>
        exact absurd (congrArg (fun bytes => bytes.getD 12 0) h)
          (show (0xC5 : UInt8) ≠ 0x87 by decide)
  | false =>
      rcases hform rfl with ⟨hsense, hasc⟩
      constructor
      · intro h
        exact hsense (congrArg (fun bytes => bytes.getD 20 0) h)
      · intro h
        exact hasc (congrArg (fun bytes => bytes.getD 21 0) h)

/-- What is sent from one state to the next ends no write. -/
def SendsOther (s s' : HandlerState ref) : Prop :=
  exists outs, Sends s s' outs ∧ forall out, out ∈ outs -> EndsNoWrite out

theorem sendsOther_none {s s' : HandlerState ref} (h : Sends s s' []) :
    SendsOther s s' :=
  ⟨[], h, by simp⟩

theorem sendsOther_one {s s' : HandlerState ref} {out : Outbound}
    (h : Sends s s' [out]) (hout : EndsNoWrite out) : SendsOther s s' := by
  refine ⟨[out], h, ?_⟩
  intro x hx
  rw [List.mem_singleton.mp hx]
  exact hout

theorem ScsiStep.endsNoWrite [DecidableEq ref] {s s' : HandlerState ref}
    {device : DeviceCode} {cdb : Bytes} {flags : UInt8}
    {result : Except PyError Unit}
    (hstep : ScsiStep s device cdb flags (result, s')) :
    SendsOther s s' := by
  cases hstep with
  | status error sense asc asq hform =>
      exact sendsOther_one (sends_send s _) (endsNoWrite_status hform _ _)
  | attention i =>
      exact sendsOther_one (sends_send (s.setImage i _) _)
        (endsNoWrite_status (by simp) _ _)
  | data =>
      exact sendsOther_one (sends_send s _)
        (endsNoWrite_of_cmdid cmdDataToHost rfl (by decide))
  | capacity =>
      exact sendsOther_one (sends_send s _)
        (endsNoWrite_of_cmdid cmdDataToHost rfl (by decide))
  | capacityOverflow => exact sendsOther_none (sends_nil s)
  | silent => exact sendsOther_none (sends_nil s)
  | transfer i lba length dma outs image _ _ _ _ htransfer =>
      refine ⟨outs, sends_sendAll (s.setImage i image) outs, ?_⟩
      intro out hmem
      rcases htransfer.frames out hmem with rfl | ⟨_, _, _, _, rfl⟩
      · exact endsNoWrite_status (fun _ => by decide) _ _
      · exact endsNoWrite_of_cmdid cmdDataToHost rfl (by decide)
  | accepted i lba length =>
      exact sendsOther_one (sends_send { s with pendingWrite := _ } _)
        (endsNoWrite_of_cmdid cmdGetDataFromHost rfl (by decide))

theorem Step.endsNoWrite [DecidableEq ref] {s s' : HandlerState ref}
    {message : Bytes} {result : Except PyError Unit}
    (hstep : Step s message (result, s'))
    (hnot : messageCmdid message = cmdDataFromHost ->
      s.pendingWrite = none) :
    SendsOther s s' := by
  have taken : forall {p : PendingWrite ref} {goal : Prop},
      messageCmdid message = cmdDataFromHost ->
      s.pendingWrite = some p -> goal := by
    intro p goal hcmdid hpending
    rw [hnot hcmdid] at hpending
    cases hpending
  cases hstep with
  | opened =>
      exact sendsOther_one
        (sends_send { s with sessionInfo := _, sessionOpen := _ } _)
        (endsNoWrite_of_cmdid cmdDisableEnableFeatures rfl (by decide))
  | refused => exact sendsOther_none (sends_nil s)
  | closed => exact sendsOther_none (sends_nil s)
  | pinged =>
      exact sendsOther_one (sends_send s _)
        (endsNoWrite_of_cmdid cmdKeepalivePong rfl (by decide))
  | available =>
      exact sendsOther_one (sends_send s _)
        (endsNoWrite_of_cmdid cmdDisableEnableFeatures rfl (by decide))
  | engaged => exact sendsOther_none (sends_nil s)
  | toggled => exact sendsOther_none (sends_nil s)
  | reset =>
      exact sendsOther_one (sends_send s _)
        (endsNoWrite_of_cmdid cmdResetOccurredResponse rfl (by decide))
  | errorSeen => exact sendsOther_none (sends_nil s)
  | ignored => exact sendsOther_none (sends_nil s)
  | command _ hscsi => exact hscsi.endsNoWrite
  | unsolicited =>
      exact sendsOther_one (sends_send s _)
        (endsNoWrite_status (fun _ => by decide) _ _)
  | overrun p hcmdid hpending => exact taken hcmdid hpending
  | unwritable p e hcmdid hpending => exact taken hcmdid hpending
  | stored p image hcmdid hpending => exact taken hcmdid hpending
  | completed p image hcmdid hpending => exact taken hcmdid hpending

/-!
## The engine collects
-/

/-- What a delivery brings for a pending write. -/
def hostChunk (d : Delivery ref) : Bytes :=
  if messageCmdid d.message = cmdDataFromHost then hostPayload d.message
  else []

/-- The payload that some deliveries brought, in order. -/
def hostData (since : List (Delivery ref)) : Bytes := since.flatMap hostChunk

theorem hostChunk_of_cmdid {d : Delivery ref}
    (h : messageCmdid d.message = cmdDataFromHost) :
    hostChunk d = hostPayload d.message :=
  if_pos h

theorem hostChunk_of_other {d : Delivery ref}
    (h : messageCmdid d.message ≠ cmdDataFromHost) : hostChunk d = [] :=
  if_neg h

theorem hostData_length (since : List (Delivery ref)) :
    (hostData since).length = hostBytes since := by
  induction since with
  | nil => rfl
  | cons d since ih =>
      rw [hostBytes_cons, hostBytes_singleton, ← ih, hostData,
        List.flatMap_cons, List.length_append, hostChunk]
      split <;> rfl

theorem flatten_chunks (since : List (Delivery ref)) :
    (since.map hostChunk).flatten = hostData since :=
  (List.flatMap_def ..).symm

/-- The slot of a write that has collected so much. -/
def slotOf (i : ref) (lba length : Nat) :
    Collector UInt8 -> Option (PendingWrite ref)
  | Collector.gathering items =>
      some { writeRecord DeviceCode.floppy i lba length with
        received := items.length }
  | _ => none

/-- What has been collected stands in the file as it was when the write was
accepted, and no other file has changed. -/
structure Collected (images : ref -> MediaImage) (i : ref)
    (lba length : Nat) (c : Collector UInt8) (s : HandlerState ref) :
    Prop where
  slot : s.pendingWrite = slotOf i lba length c
  file : (s.images i).file = splice (images i).file (512 * lba) c.items
  others : forall j, j ≠ i -> (s.images j).file = (images j).file

theorem Collected.congr {images : ref -> MediaImage} {i : ref}
    {lba length : Nat} {c : Collector UInt8} {s s' : HandlerState ref}
    (h : Collected images i lba length c s)
    (hpending : s'.pendingWrite = s.pendingWrite)
    (himages : forall j, (s'.images j).file = (s.images j).file) :
    Collected images i lba length c s' where
  slot := hpending.trans h.slot
  file := (himages i).trans h.file
  others := fun j hj => (himages j).trans (h.others j hj)

variable [DecidableEq ref]

theorem AcceptsWrite.inside_file {images : ref -> MediaImage}
    {w : Delivery ref} {i : ref} {lba length : Nat}
    (h : AcceptsWrite w i lba length) (hstanding : Standing images w.before) :
    512 * (lba + length) ≤ (w.before.images i).file.length := by
  have hshift : (w.before.images i).sectorShift = 9 :=
    hstanding.sectorShift h.image
  have hinside := hstanding.extent_inside h.inside
  rw [hshift, Nat.shiftLeft_eq, Nat.shiftLeft_eq] at hinside
  lia

theorem AcceptsWrite.collected {w : Delivery ref} {i : ref}
    {lba length : Nat} (h : AcceptsWrite w i lba length)
    (hinside : 512 * (lba + length) ≤ (w.before.images i).file.length) :
    Collected w.before.images i lba length (Collector.gathering [])
      w.after := by
  have hfits : 512 * lba ≤ (w.before.images i).file.length := by lia
  rw [h.granted]
  constructor
  · rfl
  · exact (splice_nil hfits).symm
  · exact fun _ _ => rfl

theorem Collected.stored {images : ref -> MediaImage} {i : ref}
    {lba length : Nat} {items : Bytes} {s s' : HandlerState ref}
    {message : Bytes} {p : PendingWrite ref}
    (h : Collected images i lba length (Collector.gathering items) s)
    (hsized : 512 * lba + items.length + (hostPayload message).length ≤
      (images i).file.length)
    (hstored : StoresPayload s s' message p) :
    (s'.images i).file =
        splice (images i).file (512 * lba) (items ++ hostPayload message) ∧
      forall j, j ≠ i -> (s'.images j).file = (images j).file := by
  have hp : p = { writeRecord DeviceCode.floppy i lba length with
      received := items.length } :=
    Option.some.inj (hstored.pending.symm.trans h.slot)
  have hi : p.image = i := by rw [hp]; rfl
  have hoffset : p.byteOffset + p.received = 512 * lba + items.length := by
    rw [hp, ← (writeRecord_records i lba length).byteOffset]
  have hfile : (s.images i).file = splice (images i).file (512 * lba) items :=
    h.file
  constructor
  · rcases MediaImage.write_eq_ok hstored.image with ⟨_, _, himage⟩
    rw [← hi, himage, hoffset]
    show splice (s.images p.image).file _ _ = _
    rw [hi, hfile, splice_splice hsized]
  · intro j hj
    rw [hstored.others j (by rw [hi]; exact hj)]
    exact h.others j hj

theorem Collected.written {images : ref -> MediaImage} {i : ref}
    {lba length : Nat} {items : Bytes} {s s' : HandlerState ref}
    {message : Bytes}
    (h : Collected images i lba length (Collector.gathering items) s)
    (hsized : 512 * lba + items.length + (hostPayload message).length ≤
      (images i).file.length)
    (hcontent : SameContent s s' ∨ exists p, StoresPayload s s' message p)
    (hwrites : writtenTo i s'.trace ≠ writtenTo i s.trace) :
    (s'.images i).file =
        splice (images i).file (512 * lba) (items ++ hostPayload message) ∧
      forall j, j ≠ i -> (s'.images j).file = (images j).file := by
  rcases hcontent with hsame | ⟨p, hstored⟩
  · exact absurd (hsame.writes i) hwrites
  · exact h.stored hsized hstored

theorem Collected.idle {images : ref -> MediaImage} {i : ref}
    {lba length : Nat} {c : Collector UInt8} {s s' : HandlerState ref}
    {message : Bytes} (h : Collected images i lba length c s)
    (hnone : s.pendingWrite = none)
    (hcontent : SameContent s s' ∨ exists p, StoresPayload s s' message p)
    (hpending : PendingStep s s' message) :
    Collected images i lba length c s' := by
  rcases hcontent with hsame | ⟨p, hstored⟩
  · exact h.congr (by rw [hpending.none hnone, hnone])
      fun j => (hsame.images j).file
  · cases hnone.symm.trans hstored.pending

/-- One delivery that accepts no write is one chunk for the collector. -/
theorem Collected.deliver {fresh images : ref -> MediaImage} {i : ref}
    {lba length : Nat} {c : Collector UInt8} {d : Delivery ref}
    (h : Collected images i lba length c d.before)
    (hstanding : Standing fresh d.before)
    (hinside : 512 * (lba + length) ≤ (images i).file.length)
    (hstep : Step d.before d.message (d.outcome, d.after))
    (hpending : PendingStep d.before d.after d.message) :
    Collected images i lba length (c.feed (512 * length) (hostChunk d))
      d.after := by
  have hsame : SameContent d.before d.after ->
      forall j, (d.after.images j).file = (d.before.images j).file :=
    fun hcontent j => (hcontent.images j).file
  cases c with
  | gathering items =>
      have hslot := h.slot
      rw [slotOf] at hslot
      have hmissing : items.length < 512 * length :=
        (hstanding.pending _ hslot).missing
      cases hpending with
      | kept hcmdid hkept =>
          rw [hostChunk_of_other hcmdid, feed_more (by simpa using hmissing),
            List.append_nil]
          rcases hstep.content with hcontent | ⟨p, hstored⟩
          · exact h.congr hkept (hsame hcontent)
          · exact absurd hstored.cmdid hcmdid
      | unsolicited _ hnone =>
          rw [hslot] at hnone
          cases hnone
      | overrun p hcmdid hp hnone hlength _ =>
          cases hp.symm.trans hslot
          have hover : 512 * length - items.length <
              (hostPayload d.message).length := hlength
          rw [hostChunk_of_cmdid hcmdid, feed_over (by lia)]
          rcases hstep.content with hcontent | ⟨p, hstored⟩
          · exact ⟨hnone, (hsame hcontent i).trans h.file,
              fun j hj => (hsame hcontent j).trans (h.others j hj)⟩
          · have hfits := hstored.fits
            cases hstored.pending.symm.trans hslot
            exact absurd hlength (Nat.not_lt.mpr hfits)
      | stored p hcmdid hp hstill hmore hsent =>
          cases hp.symm.trans hslot
          have hless : items.length + (hostPayload d.message).length <
              512 * length := hmore
          have hwrites : writtenTo i d.after.trace ≠
              writtenTo i d.before.trace := by
            rw [hsent]
            simp [writtenTo, writeRecord]
          rcases h.written (by lia) hstep.content hwrites with
            ⟨hfile, hothers⟩
          rw [hostChunk_of_cmdid hcmdid, feed_more hless]
          refine ⟨hstill.trans ?_, hfile, hothers⟩
          rw [slotOf, List.length_append]
      | completed p hcmdid hp hnone hlength hall hsent =>
          cases hp.symm.trans hslot
          have hle : (hostPayload d.message).length ≤
              512 * length - items.length := hlength
          have hge : 512 * length ≤
              items.length + (hostPayload d.message).length := hall
          have hwrites : writtenTo i d.after.trace ≠
              writtenTo i d.before.trace := by
            rw [hsent]
            simp [writtenTo, writeRecord]
          rcases h.written (by lia) hstep.content hwrites with
            ⟨hfile, hothers⟩
          rw [hostChunk_of_cmdid hcmdid, feed_last (by lia)]
          exact ⟨hnone, hfile, hothers⟩
  | complete items => exact h.idle h.slot hstep.content hpending
  | overrun items => exact h.idle h.slot hstep.content hpending

/-- The state of the collector behind an accepted write. -/
def collected (length : Nat) (since : List (Delivery ref)) :
    Collector UInt8 :=
  collect (512 * length) (since.map hostChunk)

omit [DecidableEq ref] in
theorem collected_snoc (length : Nat) (since : List (Delivery ref))
    (d : Delivery ref) :
    collected length (since ++ [d]) =
      (collected length since).feed (512 * length) (hostChunk d) := by
  rw [collected, List.map_append, List.map_singleton, collect_snoc, collected]

/-- Every accepted write is collected until another one is accepted. -/
def CollectsWrites (s : HandlerState ref) (past : List (Delivery ref)) :
    Prop :=
  forall earlier w since i lba length, past = earlier ++ w :: since ->
    AcceptsWrite w i lba length -> (forall d, d ∈ since -> ¬ Accepting d) ->
    512 * (lba + length) ≤ (w.before.images i).file.length ∧
      Collected w.before.images i lba length (collected length since) s

theorem CollectsWrites.congr {s s' : HandlerState ref}
    {past : List (Delivery ref)} (h : CollectsWrites s past)
    (hpending : s'.pendingWrite = s.pendingWrite)
    (himages : s'.images = s.images) : CollectsWrites s' past := by
  intro earlier w since i lba length hpast haccepts halone
  rcases h earlier w since i lba length hpast haccepts halone with
    ⟨hinside, hcollected⟩
  exact ⟨hinside, hcollected.congr hpending fun j => by rw [himages]⟩

theorem collectsWrites_kept {images : ref -> MediaImage} :
    KeptByRuns images fun r past => CollectsWrites r.2 past where
  attach := fun i r past _ h => h.congr rfl rfl
  send := fun out r past _ h => h.congr rfl rfl
  halt := fun r past _ h => h.congr rfl rfl
  deliver := by
    intro message r past result s hstanding h hwhole _ hrun hstep
    have hafter : Delivery.after ((r, message) : Delivery ref) = s :=
      congrArg Prod.snd hrun
    have houtcome : Delivery.outcome ((r, message) : Delivery ref) = result :=
      congrArg Prod.fst hrun
    intro earlier w since i lba length hpast haccepts halone
    rcases snoc_split hpast with ⟨rfl, rfl, rfl⟩ | ⟨since', rfl, hsplit⟩
    · have hinside := haccepts.inside_file hstanding
      rw [← hafter]
      exact ⟨hinside, haccepts.collected hinside⟩
    · have hnot : ¬ Accepting ((r, message) : Delivery ref) :=
        halone _ (by simp)
      rcases h earlier w since' i lba length hsplit haccepts
        (fun x hx => halone x (by simp [hx])) with ⟨hinside, hcollected⟩
      have hpending := hstep.pending hstanding hrun (not_accepts hnot)
      rw [← hafter] at hstep hpending ⊢
      rw [← houtcome] at hstep
      rw [collected_snoc]
      exact ⟨hinside, hcollected.deliver (d := (r, message)) hstanding hinside
        hstep hpending⟩

/-!
## One stretch of a run
-/

/-- A delivery after an accepted write, with the deliveries in between. -/
structure Follows (w : Delivery ref) (i : ref) (lba length : Nat)
    (before : List (Delivery ref)) (x : Delivery ref) : Prop where
  inside : 512 * (lba + length) ≤ (w.before.images i).file.length
  collectedBefore : Collected w.before.images i lba length
    (collected length before) x.before
  collectedAfter : Collected w.before.images i lba length
    (collected length (before ++ [x])) x.after
  step : Step x.before x.message (x.outcome, x.after)
  pending : PendingStep x.before x.after x.message

section Stretch

variable {w x : Delivery ref} {i : ref} {lba length : Nat}
variable {before : List (Delivery ref)}

omit [DecidableEq ref] in
theorem collected_gathering (h : hostBytes before < 512 * length) :
    collected length before = Collector.gathering (hostData before) := by
  rw [← flatten_chunks]
  apply collect_gathering
  rw [flatten_chunks, hostData_length]
  exact h

theorem SendsOther.not_carries (h : SendsOther x.before x.after) :
    forall frame, frame ∈ sentBy x ->
      ¬ Carries writeDone frame ∧ ¬ Carries writeAborted frame := by
  rcases h with ⟨outs, hsends, houts⟩
  intro frame hmem
  rw [hsends.sentBy_eq] at hmem
  rcases mem_numbered hmem with ⟨out, seq, hout, rfl⟩
  have hother := houts out hout
  constructor
  · rintro ⟨hcmdid, hpayload⟩
    rw [framePayload_frame] at hpayload
    exact (hother hcmdid).1 hpayload
  · rintro ⟨hcmdid, hpayload⟩
    rw [framePayload_frame] at hpayload
    exact (hother hcmdid).2 hpayload

theorem Follows.waits (h : Follows w i lba length before x)
    (hmissing : hostBytes (before ++ [x]) < 512 * length) :
    SendsOther x.before x.after := by
  have hslot := h.collectedAfter.slot
  rw [collected_gathering hmissing, slotOf] at hslot
  cases h.pending with
  | kept hcmdid =>
      exact h.step.endsNoWrite fun hcontra => absurd hcontra hcmdid
  | unsolicited _ hnone => exact h.step.endsNoWrite fun _ => hnone
  | overrun _ _ _ hnone => cases hnone.symm.trans hslot
  | stored _ _ _ _ _ hsent =>
      exact sendsOther_none (by simp [Sends, hsent, numbered])
  | completed _ _ _ hnone => cases hnone.symm.trans hslot

theorem Follows.ended (h : Follows w i lba length before x)
    (hclosed : forall items,
      collected length before ≠ Collector.gathering items) :
    x.before.pendingWrite = none ∧ SendsOther x.before x.after ∧
      SameContent x.before x.after := by
  have hnone : x.before.pendingWrite = none := by
    rw [h.collectedBefore.slot]
    cases hc : collected length before with
    | gathering items => exact absurd hc (hclosed items)
    | complete => rfl
    | overrun => rfl
  refine ⟨hnone, h.step.endsNoWrite fun _ => hnone, ?_⟩
  rcases h.step.content with hcontent | ⟨p, hstored⟩
  · exact hcontent
  · cases hnone.symm.trans hstored.pending

theorem AcceptsWrite.sendsOther (h : AcceptsWrite w i lba length) :
    SendsOther w.before w.after := by
  rw [h.granted]
  exact sendsOther_one (sends_send { w.before with pendingWrite := _ } _)
    (endsNoWrite_of_cmdid cmdGetDataFromHost rfl (by decide))

theorem Follows.completes (h : Follows w i lba length before x)
    (hcmdid : messageCmdid x.message = cmdDataFromHost)
    (hless : hostBytes before < 512 * length)
    (hlast : hostBytes before + (hostPayload x.message).length =
      512 * length) :
    sentBy x = [writeDone.frame x.before.outSeq] := by
  have hslot := h.collectedBefore.slot
  rw [collected_gathering hless, slotOf, hostData_length] at hslot
  cases h.pending with
  | kept hnot => exact absurd hcmdid hnot
  | unsolicited _ hnone => cases hnone.symm.trans hslot
  | overrun p _ hp _ hlength =>
      cases hp.symm.trans hslot
      have hover : 512 * length - hostBytes before <
          (hostPayload x.message).length := hlength
      lia
  | stored p _ hp _ hmore =>
      cases hp.symm.trans hslot
      have hmissing : hostBytes before + (hostPayload x.message).length <
          512 * length := hmore
      lia
  | completed p _ hp _ _ _ hsent =>
      cases hp.symm.trans hslot
      have hsends : Sends x.before x.after [writeDone] := by
        simp [Sends, hsent, numbered]
        rfl
      exact hsends.sentBy_eq

theorem Follows.aborts (h : Follows w i lba length before x)
    (hcmdid : messageCmdid x.message = cmdDataFromHost)
    (hless : hostBytes before < 512 * length)
    (hover : 512 * length <
      hostBytes before + (hostPayload x.message).length) :
    sentBy x = [writeAborted.frame x.before.outSeq] ∧
      SameContent x.before x.after ∧ x.after.pendingWrite = none := by
  have hslot := h.collectedBefore.slot
  rw [collected_gathering hless, slotOf, hostData_length] at hslot
  cases h.pending with
  | kept hnot => exact absurd hcmdid hnot
  | unsolicited _ hnone => cases hnone.symm.trans hslot
  | stored p _ hp _ hmore =>
      cases hp.symm.trans hslot
      have hmissing : hostBytes before + (hostPayload x.message).length <
          512 * length := hmore
      lia
  | completed p _ hp _ hlength _ _ =>
      cases hp.symm.trans hslot
      have hle : (hostPayload x.message).length ≤
          512 * length - hostBytes before := hlength
      lia
  | overrun p _ hp hnone hlength hsent =>
      cases hp.symm.trans hslot
      refine ⟨?_, ?_, hnone⟩
      · have hsends : Sends x.before x.after [writeAborted] := by
          simp [Sends, hsent, numbered]
          rfl
        exact hsends.sentBy_eq
      · rcases h.step.content with hcontent | ⟨p, hstored⟩
        · exact hcontent
        · have hfits := hstored.fits
          cases hstored.pending.symm.trans hslot
          exact absurd hlength (Nat.not_lt.mpr hfits)

end Stretch

/-!
## Split writes
-/

/-- The delivery `d` brings the last byte of the write `w`.  From then on the
range holds the payload; success is reported by `d` and by no other. -/
structure Assembles (w : Delivery ref) (i : ref) (lba length : Nat)
    (before : List (Delivery ref)) (d : Delivery ref)
    (after : List (Delivery ref)) : Prop where
  cmdid : messageCmdid d.message = cmdDataFromHost
  missing : hostBytes before < 512 * length
  range : forall x, x ∈ d :: after ->
    slice (x.after.images i).file (512 * lba) (512 * length) =
      hostData (before ++ d :: after)
  rest : forall x, x ∈ d :: after -> forall k,
    k < 512 * lba ∨ 512 * (lba + length) ≤ k ->
    (x.after.images i).file[k]? = (w.before.images i).file[k]?
  others : forall x, x ∈ d :: after -> forall j, j ≠ i ->
    (x.after.images j).file = (w.before.images j).file
  success : sentBy d = [writeDone.frame d.before.outSeq]
  once : forall x, x ∈ w :: (before ++ after) ->
    forall frame, frame ∈ sentBy x -> ¬ Carries writeDone frame

/-- The delivery `d` brings more bytes than the write `w` still waits for. -/
structure Overruns (w : Delivery ref) (before : List (Delivery ref))
    (d : Delivery ref) (after : List (Delivery ref)) : Prop where
  dropped : SameContent d.before d.after
  aborted : d.after.pendingWrite = none
  response : sentBy d = [writeAborted.frame d.before.outSeq]
  once : forall x, x ∈ w :: (before ++ after) ->
    forall frame, frame ∈ sentBy x -> ¬ Carries writeAborted frame
  nothing : forall x, x ∈ after -> SameContent x.before x.after

section Splits

variable {w d : Delivery ref} {i : ref} {lba length : Nat}
variable {before after : List (Delivery ref)}

omit [DecidableEq ref] in
theorem hostBytes_prefix (before after : List (Delivery ref)) :
    hostBytes before ≤ hostBytes (before ++ after) := by
  rw [hostBytes_append]
  exact Nat.le_add_right _ _

theorem mem_stretch {alpha : Type} (before : List alpha)
    {after : List alpha} {d x : alpha} (h : x ∈ d :: after) :
    exists middle rest,
      before ++ d :: after = (before ++ middle) ++ x :: rest ∧
        (middle = [] ∧ x = d ∨ exists middle', middle = d :: middle') := by
  rcases List.mem_cons.mp h with rfl | hafter
  · exact ⟨[], after, by simp, Or.inl ⟨rfl, rfl⟩⟩
  · rcases List.append_of_mem hafter with ⟨middle, rest, rfl⟩
    exact ⟨d :: middle, rest, by simp, Or.inr ⟨middle, rfl⟩⟩

omit [DecidableEq ref] in
theorem collected_last (hcmdid : messageCmdid d.message = cmdDataFromHost)
    (hless : hostBytes before < 512 * length)
    (hlast : hostBytes before + (hostPayload d.message).length = 512 * length)
    (more : List (Delivery ref)) :
    collected length (before ++ d :: more) =
      Collector.complete (hostData before ++ hostPayload d.message) := by
  rw [collected, List.map_append, List.map_cons, hostChunk_of_cmdid hcmdid,
    ← flatten_chunks]
  apply collect_complete
  · rw [flatten_chunks, hostData_length]
    exact hless
  · rw [flatten_chunks, hostData_length]
    exact hlast

omit [DecidableEq ref] in
theorem collected_over (hcmdid : messageCmdid d.message = cmdDataFromHost)
    (hless : hostBytes before < 512 * length)
    (hover : 512 * length <
      hostBytes before + (hostPayload d.message).length)
    (more : List (Delivery ref)) :
    collected length (before ++ d :: more) =
      Collector.overrun (hostData before) := by
  rw [collected, List.map_append, List.map_cons, hostChunk_of_cmdid hcmdid,
    ← flatten_chunks]
  apply collect_overrun
  · rw [flatten_chunks, hostData_length]
    exact hless
  · rw [flatten_chunks, hostData_length]
    exact hover

omit [DecidableEq ref] in
theorem hostData_last (hcmdid : messageCmdid d.message = cmdDataFromHost)
    (hlast : hostBytes before + (hostPayload d.message).length = 512 * length)
    (hall : (hostData (before ++ d :: after)).length = 512 * length) :
    hostData (before ++ d :: after) =
      hostData before ++ hostPayload d.message := by
  have hsum : hostData (before ++ d :: after) =
      (hostData before ++ hostPayload d.message) ++ hostData after := by
    simp [hostData, hostChunk_of_cmdid hcmdid]
  have hnone : (hostData after).length = 0 := by
    have hlength := congrArg List.length hsum
    rw [hall, List.length_append, List.length_append,
      hostData_length before, hlast] at hlength
    lia
  rw [hsum, List.length_eq_zero_iff.mp hnone, List.append_nil]

section Ending

variable (haccepts : AcceptsWrite w i lba length)
variable (hfollows : forall b x a, before ++ d :: after = b ++ x :: a ->
  Follows w i lba length b x)
variable (hcmdid : messageCmdid d.message = cmdDataFromHost)
variable (hless : hostBytes before < 512 * length)

include hfollows in
theorem ended_behind
    (hclosed : forall more items,
      collected length (before ++ d :: more) ≠ Collector.gathering items)
    {x : Delivery ref} (hx : x ∈ after) :
    SendsOther x.before x.after ∧ SameContent x.before x.after := by
  rcases List.append_of_mem hx with ⟨b, a, rfl⟩
  have hended := hfollows (before ++ d :: b) x a (by simp)
  exact (hended.ended (hclosed b)).2

include haccepts hfollows hless in
theorem sendsOther_around
    (hclosed : forall more items,
      collected length (before ++ d :: more) ≠ Collector.gathering items)
    {x : Delivery ref} (hx : x ∈ w :: (before ++ after)) :
    SendsOther x.before x.after := by
  rcases List.mem_cons.mp hx with rfl | hx
  · exact haccepts.sendsOther
  rcases List.mem_append.mp hx with hbefore | hafter
  · rcases List.append_of_mem hbefore with ⟨b, a, rfl⟩
    have hprefix := hostBytes_prefix (b ++ [x]) a
    rw [List.append_assoc, List.singleton_append] at hprefix
    exact (hfollows b x (a ++ d :: after) (by simp)).waits (by lia)
  · exact (ended_behind hfollows hclosed hafter).1

include haccepts hfollows hcmdid hless

theorem assembles_of_follows
    (hlast : hostBytes before + (hostPayload d.message).length =
      512 * length)
    (hall : (hostData (before ++ d :: after)).length = 512 * length) :
    Assembles w i lba length before d after := by
  have hd := hfollows before d after rfl
  have hcomplete : forall more, collected length (before ++ d :: more) =
      Collector.complete (hostData (before ++ d :: after)) := by
    intro more
    rw [hostData_last hcmdid hlast hall]
    exact collected_last hcmdid hless hlast more
  have hclosed : forall more items,
      collected length (before ++ d :: more) ≠ Collector.gathering items := by
    intro more items hcontra
    cases (hcomplete more).symm.trans hcontra
  have hfile : forall x, x ∈ d :: after ->
      Collected w.before.images i lba length
        (Collector.complete (hostData (before ++ d :: after))) x.after := by
    intro x hx
    rcases mem_stretch before hx with ⟨middle, rest, hsplit, hwhere⟩
    have hcollected := (hfollows _ x rest hsplit).collectedAfter
    rcases hwhere with ⟨rfl, rfl⟩ | ⟨middle', rfl⟩
    · rw [List.append_nil, hcomplete []] at hcollected
      exact hcollected
    · rw [List.append_assoc, List.cons_append, hcomplete] at hcollected
      exact hcollected
  have hinside := hd.inside
  have hfits : 512 * lba + (hostData (before ++ d :: after)).length ≤
      (w.before.images i).file.length := by lia
  constructor
  · exact hcmdid
  · exact hless
  · intro x hx
    rw [(hfile x hx).file, ← hall]
    exact slice_splice hfits
  · intro x hx k hk
    rw [(hfile x hx).file]
    exact getElem?_splice_outside hfits (by
      rw [Collector.items, hall]
      lia)
  · exact fun x hx => (hfile x hx).others
  · exact hd.completes hcmdid hless hlast
  · intro x hx frame hframe
    have hother := sendsOther_around haccepts hfollows hless hclosed hx
    exact (hother.not_carries frame hframe).1

theorem overruns_of_follows
    (hover : 512 * length <
      hostBytes before + (hostPayload d.message).length) :
    Overruns w before d after := by
  have hd := hfollows before d after rfl
  have hclosed : forall more items,
      collected length (before ++ d :: more) ≠ Collector.gathering items := by
    intro more items hcontra
    cases (collected_over hcmdid hless hover more).symm.trans hcontra
  rcases hd.aborts hcmdid hless hover with ⟨hsent, hsame, hnone⟩
  constructor
  · exact hsame
  · exact hnone
  · exact hsent
  · intro x hx frame hframe
    have hother := sendsOther_around haccepts hfollows hless hclosed hx
    exact (hother.not_carries frame hframe).2
  · exact fun x hx => (ended_behind hfollows hclosed hx).2

end Ending

end Splits

/-- What a run does to each delivery behind an accepted write. -/
theorem follows_of_run {images : ref -> MediaImage}
    (hfresh : forall i, (images i).Fresh) (startMode : StartMode)
    (rxTimeout txTimeout heartbeat : Nat) (calls : List (Call ref))
    {earlier since later : List (Delivery ref)} {w : Delivery ref} {i : ref}
    {lba length : Nat}
    (hpast : deliveries calls
        (newEngine startMode rxTimeout txTimeout heartbeat images) =
      earlier ++ w :: (since ++ later))
    (haccepts : AcceptsWrite w i lba length)
    (halone : forall d, d ∈ since -> ¬ Accepting d) :
    forall b x a, since = b ++ x :: a -> Follows w i lba length b x := by
  intro b x a hsince
  have hhistory := (run_invariant collectsWrites_kept.history hfresh startMode
    rxTimeout txTimeout heartbeat calls ⟨by
      intro _ _ _ _ _ _ hnil
      simp at hnil, by simp⟩).2
  have hsplit : deliveries calls
      (newEngine startMode rxTimeout txTimeout heartbeat images) =
        (earlier ++ w :: b) ++ x :: (a ++ later) := by
    rw [hpast, hsince]
    simp
  have hmem : x ∈ deliveries calls
      (newEngine startMode rxTimeout txTimeout heartbeat images) := by
    rw [hsplit]
    simp
  have hmet := deliveries_standing hfresh startMode rxTimeout txTimeout
    heartbeat calls x hmem
  have hstep : Step x.before x.message (x.outcome, x.after) :=
    dispatch_step hmet.1.idle hmet.2
  have hnot : ¬ Accepting x := halone x (by simp [hsince])
  have hpending : PendingStep x.before x.after x.message :=
    hstep.pending (r := x.1) hmet.1 rfl (not_accepts hnot)
  rcases hhistory (earlier ++ w :: b) x (a ++ later) hsplit earlier w b i lba
    length rfl haccepts (fun y hy => halone y (by simp [hsince, hy])) with
    ⟨hinside, hcollected⟩
  refine ⟨hinside, hcollected, ?_, hstep, hpending⟩
  rw [collected_snoc]
  exact hcollected.deliver hmet.1 hinside hstep hpending

/-- Behind every accepted write of a run, as long as no other write is
accepted: a payload of the declared length, in whatever frames and between
whatever other messages it comes, is assembled in the declared range, and a
frame that brings too many bytes ends the write with nothing of it stored. -/
theorem split_writes_assemble {images : ref -> MediaImage}
    (hfresh : forall i, (images i).Fresh) (startMode : StartMode)
    (rxTimeout txTimeout heartbeat : Nat) (calls : List (Call ref)) :
    let past := deliveries calls
      (newEngine startMode rxTimeout txTimeout heartbeat images)
    forall earlier w since later i lba length,
      past = earlier ++ w :: (since ++ later) ->
      AcceptsWrite w i lba length ->
      (forall d, d ∈ since -> ¬ Accepting d) ->
      ((hostData since).length = 512 * length ->
        exists before d after, since = before ++ d :: after ∧
          Assembles w i lba length before d after) ∧
      forall before d after, since = before ++ d :: after ->
        messageCmdid d.message = cmdDataFromHost ->
        hostBytes before < 512 * length ->
        512 * length < hostBytes before + (hostPayload d.message).length ->
        Overruns w before d after := by
  intro past earlier w since later i lba length hpast haccepts halone
  have hfollows := follows_of_run hfresh startMode rxTimeout txTimeout
    heartbeat calls hpast haccepts halone
  constructor
  · intro hall
    have hpos : 0 < 512 * length := by
      have hnonempty := haccepts.nonempty
      lia
    have hreached : 512 * length ≤ (since.flatMap hostChunk).length :=
      Nat.le_of_eq hall.symm
    rcases exists_reaching hpos hostChunk hreached with
      ⟨before, d, after, rfl, hless, hreach⟩
    refine ⟨before, d, after, rfl, ?_⟩
    have hbefore : (before.flatMap hostChunk).length = hostBytes before :=
      hostData_length before
    rw [hbefore] at hless hreach
    have hcmdid : messageCmdid d.message = cmdDataFromHost := by
      by_contra hother
      rw [hostChunk_of_other hother, List.length_nil] at hreach
      lia
    rw [hostChunk_of_cmdid hcmdid] at hreach
    have hle : hostBytes before + (hostPayload d.message).length ≤
        512 * length := by
      have hprefix := hostBytes_prefix (before ++ [d]) after
      rw [List.append_assoc, List.singleton_append, ← hostData_length
        (before ++ d :: after), hall, hostBytes_append, hostBytes_singleton,
        if_pos hcmdid] at hprefix
      exact hprefix
    exact assembles_of_follows haccepts hfollows hcmdid hless (by lia) hall
  · intro before d after hsince hcmdid hless hover
    subst hsince
    exact overruns_of_follows haccepts hfollows hcmdid hless hover

set_option maxRecDepth 8000 in
/-- One sector in two frames with a keepalive in between. -/
theorem split_writes_assemble_sector :
    let image := MediaImage.blank ["boot.img"] DeviceCode.floppy 2 true nofun
    let start : IderEngine Unit :=
      newEngine .onReboot 30000 0 20000 fun _ => image
    let write := commandMessage 0 0x00 0xA0 (extentCdb opWrite10 1 1)
    let first := dataMessage 1 (List.replicate 500 0x55)
    let ping := inboundHeader cmdKeepalivePing 2
    let second := dataMessage 3 (List.replicate 12 0x66)
    let e0 := ((runCall (Call.attach ())).run start).2
    let e1 := ((runCall (Call.feed write)).run e0).2
    let e2 := ((runCall (Call.feed first)).run e1).2
    let e3 := ((runCall (Call.feed ping)).run e2).2
    let w : Delivery Unit := ((e0.inSeq, e0.state), write)
    let since : List (Delivery Unit) :=
      [((e1.inSeq, e1.state), first), ((e2.inSeq, e2.state), ping),
        ((e3.inSeq, e3.state), second)]
    exists before d after, since = before ++ d :: after ∧
      Assembles w () 1 1 before d after := by
  intro image start write first ping second e0 e1 e2 e3 w since
  let calls : List (Call Unit) :=
    [Call.attach (), Call.feed write, Call.feed first, Call.feed ping,
      Call.feed second]
  have hfresh : forall i : Unit, ((fun _ => image) i).Fresh :=
    fun _ => MediaImage.blank_fresh ..
  have hpast : deliveries calls start = [] ++ w :: (since ++ []) := by
    rw [deliveries_attach,
      deliveries_message (e := e0) rfl rfl (show Whole write from rfl) rfl,
      deliveries_message (e := e1) (by decide) (by decide)
        (show Whole first from rfl) (by decide),
      deliveries_message (e := e2) (by decide) (by decide)
        (show Whole ping from rfl) (by decide),
      deliveries_message (e := e3) (by decide) (by decide)
        (show Whole second from rfl) (by decide)]
    rfl
  have haccepts : AcceptsWrite w () 1 1 :=
    OrdersWrite.accepted ⟨rfl, rfl, by decide, rfl, by decide, by decide,
      rfl⟩ rfl
  have hother : forall d, d ∈ since ->
      messageCmdid d.message ≠ cmdCommandWritten := by
    intro d hmem
    simp only [since, List.mem_cons, List.not_mem_nil, or_false] at hmem
    rcases hmem with rfl | rfl | rfl
    · exact (show messageCmdid first ≠ cmdCommandWritten by decide)
    · exact (show messageCmdid ping ≠ cmdCommandWritten by decide)
    · exact (show messageCmdid second ≠ cmdCommandWritten by decide)
  have halone : forall d, d ∈ since -> ¬ Accepting d := by
    rintro d hmem ⟨i, lba, length, haccepted⟩
    exact hother d hmem haccepted.cmdid
  exact (split_writes_assemble hfresh .onReboot 30000 0 20000 calls [] w since
    [] () 1 1 hpast haccepts halone).1 (by decide +kernel)

end Ider
end IntelAmt
