import IntelAmt.Ider.Runs

/-!
# The answer to a command

The frames that one delivery sends, and `commands_answered`: a command is
answered by one status, by one run of data frames, or by one request for the
payload of a write.
-/

namespace IntelAmt
namespace Ider

open Foundation

variable {ref : Type}

/-!
## The frames of a delivery
-/

/-- From one state to the next the frames of `outs` were sent. -/
def Sends (s s' : HandlerState ref) (outs : List Outbound) : Prop :=
  sentFrames s'.trace = sentFrames s.trace ++ numbered s.outSeq outs

theorem sends_nil (s : HandlerState ref) : Sends s s [] :=
  (List.append_nil _).symm

theorem sends_send (s : HandlerState ref) (out : Outbound) :
    Sends s (s.send out) [out] :=
  sentFrames_send s out

theorem sends_sendAll (s : HandlerState ref) (outs : List Outbound) :
    Sends s (s.sendAll outs) outs :=
  sentFrames_sendAll s outs

theorem mem_numbered {seq : Nat} {outs : List Outbound} {frame : Bytes}
    (h : frame ∈ numbered seq outs) :
    exists out seq', out ∈ outs ∧ frame = out.frame seq' := by
  induction outs generalizing seq with
  | nil => cases h
  | cons out outs ih =>
      rcases List.mem_cons.mp h with hhead | htail
      · exact ⟨out, seq, by simp, hhead⟩
      · rcases ih htail with ⟨out', seq', hmem, hframe⟩
        exact ⟨out', seq', List.mem_cons_of_mem _ hmem, hframe⟩

variable [DecidableEq ref]

/-- The frames that processing a message hands to `send`. -/
def sentBy (d : Delivery ref) : List Bytes :=
  (sentFrames d.after.trace).drop (sentFrames d.before.trace).length

theorem Sends.sentBy_eq {d : Delivery ref} {outs : List Outbound}
    (h : Sends d.before d.after outs) :
    sentBy d = numbered d.before.outSeq outs := by
  rw [sentBy, h, List.drop_left]

/-!
## One answer for every command
-/

/-- The device that a command addresses. -/
def Delivery.device (d : Delivery ref) : DeviceCode :=
  commandDevice (commandFlags d.message)

/-- The addressed slot is empty, or holds an image of size 0, or one of
between 1 and `2 ^ 32` blocks whose file yields what is asked of it. -/
def SlotServes (d : Delivery ref) : Prop :=
  forall i, d.before.devices d.device = some i ->
    (d.before.images i).size = 0 ∨
      1 ≤ (d.before.images i).blocks ∧ (d.before.images i).blocks ≤ 2 ^ 32 ∧
        (d.before.images i).shortReads = []

/-- The device byte of the data frames that answer a command: READ_CAPACITY
repeats the flags as they came, every other command names the device. -/
def dataDevice (d : Delivery ref) : UInt8 :=
  if (commandCdb d.message).getD 0 0 = opReadCapacity then
    commandFlags d.message
  else d.device.code

inductive Answered (d : Delivery ref) : Prop where
  | status (error : Bool) (sense asc asq : UInt8)
      (hsent : sentBy d =
        numbered d.before.outSeq
          [commandEndResponse error sense d.device.code asc asq])
  | data (chunks : List Bytes) (final : Bytes) (dma : Bool)
      (hsent : sentBy d =
        numbered d.before.outSeq
          (chunks.map (fun data => dataToHost (dataDevice d) false data dma) ++
            [dataToHost (dataDevice d) true final dma]))
  | write (p : PendingWrite ref)
      (hpending : d.after.pendingWrite = some p)
      (hdevice : p.device = d.device) (hreceived : p.received = 0)
      (hsent : sentBy d =
        numbered d.before.outSeq
          [getDataFromHost d.device.code p.expectedLength])

/-- READ_TOC for the CD/DVD slot in a format that the engine does not know. -/
structure UnknownToc (d : Delivery ref) : Prop where
  op : (commandCdb d.message).getD 0 0 = opReadToc
  device : d.device = DeviceCode.cdrom
  format : tocFormat (commandCdb d.message) ≠ 0 ∧
    tocFormat (commandCdb d.message) ≠ 1

omit [DecidableEq ref] in
theorem Standing.extent_inside {images : ref -> MediaImage}
    {s : HandlerState ref} (h : Standing images s) {i : ref}
    {lba length : Nat} (hbound : lba + length ≤ (s.images i).blocks) :
    lba <<< (s.images i).sectorShift + length <<< (s.images i).sectorShift ≤
      (s.images i).file.length := by
  have hblocks := (s.images i).blocks_shift_le
  have hmono := Nat.mul_le_mul_right (2 ^ (s.images i).sectorShift) hbound
  rw [h.sized i, Nat.shiftLeft_eq, Nat.shiftLeft_eq, ← Nat.add_mul]
  exact Nat.le_trans hmono hblocks

theorem ScsiStep.answered {images : ref -> MediaImage} {d : Delivery ref}
    (hstanding : Standing images d.before) (hserves : SlotServes d)
    (hstep : ScsiStep d.before d.device (commandCdb d.message)
      (commandFlags d.message) (d.outcome, d.after)) :
    Answered d ∨ sentBy d = [] ∧ UnknownToc d := by
  generalize hout : (d.outcome, d.after) = out at hstep
  have hafter : d.after = out.2 := congrArg Prod.snd hout
  have hsends : forall {outs : List Outbound},
      Sends d.before out.2 outs ->
      sentBy d = numbered d.before.outSeq outs := by
    intro outs h
    rw [← hafter] at h
    exact h.sentBy_eq
  cases hstep with
  | status error sense asc asq _ =>
      exact Or.inl (Answered.status error sense asc asq
        (hsends (sends_send _ _)))
  | attention i =>
      refine Or.inl (Answered.status true 0x06 0x28 0x00 (hsends ?_))
      exact sends_send (d.before.setImage i _) _
  | data payload dma hcanned hsmall =>
      refine Or.inl (Answered.data [] payload dma (hsends ?_))
      rw [dataDevice, if_neg hcanned.2]
      exact sends_send _ _
  | capacity i payload dma hop himage hsize hblocks hlength =>
      refine Or.inl (Answered.data [] payload dma (hsends ?_))
      rw [dataDevice, if_pos hop]
      exact sends_send _ _
  | capacityOverflow i hop himage hsize hblocks =>
      rcases hserves i himage with hempty | ⟨hlow, hhigh, _⟩
      · exact absurd hempty hsize
      · exact absurd ⟨hlow, hhigh⟩ hblocks
  | silent hop hdevice hformat =>
      exact Or.inr ⟨hsends (sends_nil _), hop, hdevice, hformat⟩
  | transfer i lba length dma outs image hextent himage hbound hpos
      htransfer =>
      rcases hserves i himage with hempty | ⟨_, _, hintact⟩
      · simp [MediaImage.blocks, hempty] at hbound
        lia
      have hop : (commandCdb d.message).getD 0 0 ≠ opReadCapacity := by
        intro hop
        have hnone : readExtent (commandCdb d.message) = none := by
          rw [readExtent_eq_none_iff, hop]
          decide
        rw [hnone] at hextent
        cases hextent
      have hremaining : 0 < length <<< (d.before.images i).sectorShift := by
        rw [Nat.shiftLeft_eq]
        exact Nat.mul_pos hpos (Nat.two_pow_pos _)
      rcases htransfer.intact hintact hremaining
        (hstanding.extent_inside hbound) with ⟨chunks, final, houts, _⟩
      refine Or.inl (Answered.data chunks final dma (hsends ?_))
      rw [dataDevice, if_neg hop]
      have hsent := sends_sendAll (d.before.setImage i image) outs
      rw [houts] at hsent ⊢
      exact hsent
  | accepted i lba length hextent hdevice himage hbound hpos hwritable =>
      refine Or.inl (Answered.write (writeRecord d.device i lba length) ?_ ?_
        ?_ (hsends ?_))
      · rw [hafter]
        rfl
      · rfl
      · rfl
      · exact sends_send { d.before with
          pendingWrite := some (writeRecord d.device i lba length) } _

/-!
## Exactly one
-/

/-- A frame that ends the answer to a command: a status, a request for a
payload, or a data frame that is marked completed. -/
def endsAnswer (frame : Bytes) : Bool :=
  frameCmdid frame == cmdCommandEndResponse ||
    frameCmdid frame == cmdGetDataFromHost ||
    frameCmdid frame == cmdDataToHost && frameAttributes frame &&& 0x02 != 0

omit [DecidableEq ref] in
theorem endsAnswer_chunk (device : UInt8) (data : Bytes) (dma : Bool)
    (seq : Nat) :
    endsAnswer ((dataToHost device false data dma).frame seq) = false := by
  have hlarge : (50 : UInt8) < cmdDataToHost := by decide
  cases dma <;> simp [endsAnswer, dataToHost, hlarge] <;> decide

omit [DecidableEq ref] in
theorem endsAnswer_final (device : UInt8) (data : Bytes) (dma : Bool)
    (seq : Nat) :
    endsAnswer ((dataToHost device true data dma).frame seq) = true := by
  have hlarge : (50 : UInt8) < cmdDataToHost := by decide
  cases dma <;> simp [endsAnswer, dataToHost, hlarge]
  decide

omit [DecidableEq ref] in
theorem countP_endsAnswer_chunks (device : UInt8) (chunks : List Bytes)
    (final : Bytes) (dma : Bool) (seq : Nat) :
    (numbered seq
      (chunks.map (fun data => dataToHost device false data dma) ++
        [dataToHost device true final dma])).countP endsAnswer = 1 := by
  induction chunks generalizing seq with
  | nil => simp [numbered, endsAnswer_final]
  | cons data chunks ih =>
      rw [List.map_cons, List.cons_append, numbered,
        List.countP_cons_of_neg (by simp [endsAnswer_chunk]), ih]

theorem Answered.ends_once {d : Delivery ref} (h : Answered d) :
    (sentBy d).countP endsAnswer = 1 := by
  cases h with
  | status error sense asc asq hsent =>
      rw [hsent]
      rfl
  | data chunks final dma hsent =>
      rw [hsent]
      exact countP_endsAnswer_chunks _ _ _ _ _
  | write p hpending hdevice hreceived hsent =>
      rw [hsent]
      rfl

/-- In every run every command to a slot that serves is answered, and the
answer ends once; only READ_TOC for the CD/DVD slot in an unknown format is
answered by nothing. -/
theorem commands_answered {images : ref -> MediaImage}
    (hfresh : forall i, (images i).Fresh) (startMode : StartMode)
    (rxTimeout txTimeout heartbeat : Nat) (calls : List (Call ref)) :
    forall d, d ∈ deliveries calls
        (newEngine startMode rxTimeout txTimeout heartbeat images) ->
      messageCmdid d.message = cmdCommandWritten -> SlotServes d ->
      Answered d ∧ (sentBy d).countP endsAnswer = 1 ∨
        sentBy d = [] ∧ UnknownToc d := by
  intro d hmem hcmdid hserves
  rcases deliveries_standing hfresh startMode rxTimeout txTimeout heartbeat
    calls d hmem with ⟨hstanding, hwhole⟩
  have hstep : Step d.before d.message (d.outcome, d.after) :=
    dispatch_step hstanding.idle hwhole
  rcases (hstep.scsiStep hcmdid).answered hstanding hserves with
    hanswered | hsilent
  · exact Or.inl ⟨hanswered, hanswered.ends_once⟩
  · exact Or.inr hsilent

/-- TEST_UNIT_READY for a floppy that has just been attached, and then READ(10)
of its first block. -/
theorem commands_answered_read :
    let image := MediaImage.blank ["boot.img"] DeviceCode.floppy 2 true nofun
    let test := commandMessage 0 0x00 0xA0 (List.replicate 12 0x00)
    let read := commandMessage 1 0x00 0xA0 (extentCdb opRead10 0 1)
    let calls := [Call.attach (), Call.feed test, Call.feed read]
    let start : IderEngine Unit :=
      newEngine .onReboot 30000 0 20000 fun _ => image
    (deliveries calls start).map Delivery.message = [test, read] ∧
      forall d, d ∈ deliveries calls start ->
        (sentBy d).countP endsAnswer = 1 := by
  intro image test read calls start
  have hfresh : forall i : Unit, ((fun _ => image) i).Fresh :=
    fun _ => MediaImage.blank_fresh ..
  let e0 := ((runCall (Call.attach ())).run start).2
  let e1 := ((runCall (Call.feed test)).run e0).2
  have hpast : deliveries calls start =
      [((e0.inSeq, e0.state), test), ((e1.inSeq, e1.state), read)] := by
    rw [deliveries_attach,
      deliveries_message (e := e0) rfl rfl (show Whole test from rfl) rfl,
      deliveries_message (e := e1) (by decide) (by decide)
        (show Whole read from rfl) (by decide)]
    rfl
  refine ⟨by rw [hpast]; rfl, ?_⟩
  intro d hmem
  have hanswered := commands_answered hfresh .onReboot 30000 0 20000 calls d
    hmem
  rw [hpast] at hmem
  simp only [List.mem_cons, List.not_mem_nil, or_false] at hmem
  rcases hmem with rfl | rfl
  all_goals
    rcases hanswered rfl (fun i _ => Or.inr (by cases i; decide)) with
      ⟨_, honce⟩ | ⟨_, hunknown⟩
    · exact honce
    · exact absurd hunknown.op (by decide)

end Ider
end IntelAmt
