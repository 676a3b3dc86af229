import IntelAmt.IderServer.AccessRuns

/-!
# Accesses answered

The engine answers an access to one of its slots as the block device in the
slot does.
-/

namespace IntelAmt
namespace IderServer

open Foundation Ider

variable {ref : Type}

/-!
## Slots
-/

theorem Slots.put_same {slots : Slots} {device : DeviceCode}
    {d : BlockDevice Bytes} (h : slots device = some d) :
    slots.put device d = slots := by
  funext other
  rw [Slots.put]
  split
  · rename_i heq
    rw [heq, h]
  · rfl

theorem Slots.perform_absent {slots : Slots} {device : DeviceCode}
    {access : Access Bytes} (h : slots.target device access = none) :
    slots.perform device access = (AccessResult.absent, slots) := by
  rw [Slots.perform, h]

theorem Slots.perform_some {slots : Slots} {device : DeviceCode}
    {access : Access Bytes} {d : BlockDevice Bytes}
    (h : slots.target device access = some d) :
    slots.perform device access =
      ((d.perform access).1, slots.put device (d.perform access).2) := by
  rw [Slots.perform, h]

theorem Slots.perform_quiet {slots : Slots} {device : DeviceCode}
    {access : Access Bytes} {d : BlockDevice Bytes}
    {outcome : AccessResult Bytes} (h : slots.target device access = some d)
    (hd : slots device = some d) (hperform : d.perform access = (outcome, d)) :
    slots.perform device access = (outcome, slots) := by
  rw [Slots.perform_some h, hperform, Slots.put_same hd]

theorem Presents.image {slots : Slots} {s : HandlerState ref}
    (h : Presents slots s) {device : DeviceCode} {d : BlockDevice Bytes}
    (hd : slots device = some d) :
    exists i, s.devices device = some i ∧ Backs device (s.images i) d := by
  cases hi : s.devices device with
  | none =>
      rw [h.empty device hi] at hd
      cases hd
  | some i =>
      rcases h.filled device i hi with ⟨d', hd', hbacks⟩
      rw [hd] at hd'
      cases hd'
      exact ⟨i, rfl, hbacks⟩

theorem Presents.noImage {slots : Slots} {s : HandlerState ref}
    (h : Presents slots s) {device : DeviceCode}
    (hd : slots device = none) : s.devices device = none := by
  cases hi : s.devices device with
  | none => rfl
  | some i =>
      rcases h.filled device i hi with ⟨d, hsome, _⟩
      rw [hd] at hsome
      cases hsome

/-!
## Answers that change nothing
-/

structure Quiet (s s' : HandlerState ref) : Prop where
  devices : s'.devices = s.devices
  images : forall i, (s.images i).SameDisk (s'.images i)
  pendingWrite : s'.pendingWrite = s.pendingWrite
  stopped : s'.stopped = s.stopped
  featureToggleOk : s'.featureToggleOk = s.featureToggleOk

theorem quiet_send (s : HandlerState ref) (out : Outbound) :
    Quiet s (s.send out) :=
  ⟨rfl, fun _ => MediaImage.SameDisk.refl _, rfl, rfl, rfl⟩

theorem quiet_transfer [DecidableEq ref] (s : HandlerState ref) {i : ref}
    {image : MediaImage} (h : (s.images i).SameDisk image)
    (outs : List Outbound) : Quiet s ((s.setImage i image).sendAll outs) where
  devices := HandlerState.sendAll_devices _ _
  images := by
    intro j
    rw [HandlerState.sendAll_images]
    by_cases hj : j = i
    · subst hj
      rw [HandlerState.setImage_images]
      exact h
    · rw [HandlerState.setImage_images_of_ne s hj]
      exact MediaImage.SameDisk.refl _
  pendingWrite := HandlerState.sendAll_pendingWrite _ _
  stopped := HandlerState.sendAll_stopped _ _
  featureToggleOk := HandlerState.sendAll_featureToggleOk _ _

/-- An access is answered by its command alone. -/
def AtOnce (a : HostAccess) (outcome : AccessResult Bytes)
    (s : HandlerState ref) (out : Except PyError Unit × HandlerState ref) :
    Prop :=
  exists s' more, out = (Except.ok (), s') ∧ Says s s' more ∧ Quiet s s' ∧
    Answers a outcome (more.flatMap Saying.heard)

theorem atOnce_refused {a : HostAccess} {outcome : AccessResult Bytes}
    (h : Answers a outcome [refusal a.device]) (s : HandlerState ref)
    (sense asc asq : UInt8) :
    AtOnce a outcome s
      ((sendCommandEndResponse true sense a.device asc asq).run s) :=
  ⟨_, [.status true sense a.device.code asc asq], rfl,
    says_one (sends_send _ _) trivial, quiet_send _ _, h⟩

section Reads

variable [DecidableEq ref] {s : HandlerState ref}

omit [DecidableEq ref] in
/-- The frames of a read are the range, cut into pieces that can be heard. -/
theorem read_says {a : HostAccess} {i : ref} {first length : Nat}
    {d : BlockDevice Bytes} (hbacks : Backs a.device (s.images i) d)
    (hshift : (s.images i).sectorShift = a.device.sectorShift)
    (hrange : first + length ≤ d.count) (hpos : 0 < length)
    (hread : s.sessionInfo.readbfr ≠ 0)
    (hmax : s.sessionInfo.readbfr ≤ maxReadWriteBuffer) {dma : Bool}
    {outs : List Outbound} {image : MediaImage}
    (htransfer : Transfer s.sessionInfo.readbfr
      (readRequest a.device i (s.images i) first length dma) (s.images i) outs
      image) :
    exists more : List Saying, outs = more.map Saying.outbound ∧
      (forall saying, saying ∈ more -> saying.Fits) ∧
      Answers a (AccessResult.blocks (d.range first length))
        (more.flatMap Saying.heard) := by
  have hoffset : (readRequest a.device i (s.images i) first length
      dma).byteOffset = first * blockSize a.device := by
    rw [blockSize, ← hshift]
    exact Nat.shiftLeft_eq _ _
  have hremaining : (readRequest a.device i (s.images i) first length
      dma).remaining = length * blockSize a.device := by
    rw [blockSize, ← hshift]
    exact Nat.shiftLeft_eq _ _
  have hsize : 0 < blockSize a.device := Nat.two_pow_pos _
  have hfit : first * blockSize a.device + length * blockSize a.device ≤
      (s.images i).file.length := by
    rw [← Nat.add_mul]
    exact Nat.le_trans (Nat.mul_le_mul_right _ hrange) hbacks.holds.covers
  have hsmall : forall out, out ∈ outs -> out.data.length < 2 ^ 16 := by
    intro out hmem
    have hbuffer : maxReadWriteBuffer < 2 ^ 16 := by decide
    have hbound := htransfer.frame_bounds hbacks.uncut
      (by rw [hremaining]; exact Nat.mul_pos hpos hsize)
      (by rw [hoffset, hremaining]; exact hfit)
      (Nat.pos_of_ne_zero hread) hmem 0
    rw [frameData_frame] at hbound
    lia
  rcases htransfer.intact hbacks.uncut
    (by rw [hremaining]; exact Nat.mul_pos hpos hsize)
    (by rw [hoffset, hremaining]; exact hfit) with
    ⟨chunks, final, houts, hcontent⟩
  rw [hoffset, hremaining, hbacks.holds.read hrange] at hcontent
  refine ⟨chunks.map (fun data => .data a.device.code false data dma) ++
    [.data a.device.code true final dma], ?_, ?_, ?_⟩
  · rw [houts, List.map_append, List.map_map]
    rfl
  · intro saying hmem
    rcases List.mem_append.mp hmem with hchunk | hfinal
    · rcases List.mem_map.mp hchunk with ⟨data, hdata, rfl⟩
      have hout := hsmall (dataToHost a.device.code false data dma) (by
        rw [houts]
        exact List.mem_append_left _ (List.mem_map.mpr ⟨data, hdata, rfl⟩))
      rw [data_dataToHost] at hout
      exact hout
    · rw [List.mem_singleton.mp hfinal]
      have hout := hsmall (dataToHost a.device.code true final dma) (by
        rw [houts]
        exact List.mem_append_right _ (List.mem_singleton.mpr rfl))
      rw [data_dataToHost] at hout
      exact hout
  · refine Answers.blocks _ _ chunks.length ?_
    rw [List.flatMap_append, List.flatMap_map]
    have hevents := readDataToHostStream_chunks a.device.code dma chunks final
    rw [hcontent, List.map_eq_flatMap] at hevents
    rw [List.flatMap_singleton]
    exact hevents

theorem read_answered {images : ref -> MediaImage} {slots : Slots}
    (hstanding : Standing images s) (hpresents : Presents slots s)
    (hread : s.sessionInfo.readbfr ≠ 0)
    (hmax : s.sessionInfo.readbfr ≤ maxReadWriteBuffer) {a : HostAccess}
    {first length : Nat} (haccess : a.access = Access.read first length)
    (dma : Bool) :
    exists outcome, slots.perform a.device a.access = (outcome, slots) ∧
      AtOnce a outcome s
        ((scsiRead a.device (s.devices a.device) first length dma).run s) := by
  have htarget : slots.target a.device a.access = slots a.device := by
    rw [haccess]
    rfl
  cases hd : slots a.device with
  | none =>
      rw [hpresents.noImage hd]
      refine ⟨_, Slots.perform_absent (htarget.trans hd), ?_⟩
      exact atOnce_refused Answers.absent s 0x02 0x3A 0x00
  | some d =>
      rcases hpresents.image hd with ⟨i, hi, hbacks⟩
      rw [hi]
      have hquiet : forall {outcome : AccessResult Bytes},
          d.perform a.access = (outcome, d) ->
          slots.perform a.device a.access = (outcome, slots) :=
        fun h => Slots.perform_quiet (htarget.trans hd) hd h
      rw [haccess, BlockDevice.perform] at hquiet
      by_cases hbound : d.count < first + length
      · rw [if_pos hbound] at hquiet
        rw [haccess]
        refine ⟨_, hquiet rfl, ?_⟩
        rw [hbacks.count] at hbound
        unfold scsiRead
        simp only [Exec.run_reads_bind]
        rw [if_pos hbound]
        exact atOnce_refused Answers.outOfRange s 0x05 0x21 0x00
      rw [if_neg hbound] at hquiet
      by_cases hpos : length = 0
      · rw [if_pos hpos] at hquiet
        rw [haccess]
        refine ⟨_, hquiet rfl, ?_⟩
        rw [hbacks.count] at hbound
        unfold scsiRead
        simp only [Exec.run_reads_bind]
        rw [if_neg hbound, if_pos hpos]
        exact atOnce_refused Answers.nothing s 0x00 0x00 0x00
      rw [if_neg hpos] at hquiet
      rw [haccess]
      refine ⟨_, hquiet rfl, ?_⟩
      rcases run_scsiRead hstanding.idle a.device
        (show first + length ≤ (s.images i).blocks by
          rw [← hbacks.count]; lia) (Nat.pos_of_ne_zero hpos) dma with
        ⟨outs, image, htransfer, hrun⟩
      rcases read_says hbacks (hstanding.sectorShift hi) (by lia)
        (Nat.pos_of_ne_zero hpos) hread hmax htransfer with
        ⟨more, houts, hfits, hanswers⟩
      refine ⟨_, more, hrun, ⟨?_, hfits⟩,
        quiet_transfer s htransfer.sameDisk outs, hanswers⟩
      rw [← houts]
      exact sends_sendAll (s.setImage i image) outs

end Reads

section Writes

variable [DecidableEq ref] {s : HandlerState ref}

/-- A write that the device stores: the engine asks for the payload. -/
structure AsksFor (slots : Slots) (s : HandlerState ref) (a : HostAccess)
    (first : Nat) (blocks : List Bytes) (i : ref) (d : BlockDevice Bytes)
    (out : Except PyError Unit × HandlerState ref) : Prop where
  device : a.device = DeviceCode.floppy
  image : s.devices DeviceCode.floppy = some i
  slot : slots DeviceCode.floppy = some d
  perform : slots.perform a.device a.access =
    (AccessResult.stored,
      slots.put DeviceCode.floppy (d.overwrite first blocks))
  range : first + blocks.length ≤ d.count
  nonempty : blocks ≠ []
  asks : out = (Except.ok (),
    { s with
      pendingWrite :=
        some (writeRecord DeviceCode.floppy i first blocks.length) }.send
      (getDataFromHost DeviceCode.floppy.code (512 * blocks.length)))

omit [DecidableEq ref] in
theorem write_answered {slots : Slots} (hpresents : Presents slots s)
    {a : HostAccess} {first : Nat} {blocks : List Bytes}
    (haccess : a.access = Access.write first blocks) :
    (exists outcome, outcome ≠ AccessResult.stored ∧
      slots.perform a.device a.access = (outcome, slots) ∧
      AtOnce a outcome s
        ((scsiWriteRequest a.device (s.devices a.device) first
          blocks.length).run s)) ∨
    exists i d, AsksFor slots s a first blocks i d
      ((scsiWriteRequest a.device (s.devices a.device) first
        blocks.length).run s) := by
  by_cases hdevice : a.device = DeviceCode.floppy
  · have htarget : slots.target a.device a.access = slots a.device := by
      rw [haccess, Slots.target, if_pos hdevice]
    cases hd : slots a.device with
    | none =>
        rw [hpresents.noImage hd]
        left
        refine ⟨AccessResult.absent, by simp,
          Slots.perform_absent (htarget.trans hd), ?_⟩
        exact atOnce_refused Answers.absent s 0x02 0x3A 0x00
    | some d =>
        rcases hpresents.image hd with ⟨i, hi, hbacks⟩
        rw [hi]
        have hquiet : forall {outcome : AccessResult Bytes},
            d.perform a.access = (outcome, d) ->
            slots.perform a.device a.access = (outcome, slots) :=
          fun h => Slots.perform_quiet (htarget.trans hd) hd h
        have hsome := Slots.perform_some (htarget.trans hd)
        rw [haccess, BlockDevice.perform] at hquiet hsome
        rw [haccess]
        unfold scsiWriteRequest
        simp only [hdevice, ne_eq, not_true_eq_false, if_false,
          Exec.run_reads_bind, ← hbacks.count, ← hbacks.writable]
        by_cases hbound : d.count < first + blocks.length
        · rw [if_pos hbound] at hquiet ⊢
          left
          refine ⟨AccessResult.outOfRange, by simp, hdevice ▸ hquiet rfl, ?_⟩
          exact hdevice ▸ atOnce_refused Answers.outOfRange s 0x05 0x21 0x00
        rw [if_neg hbound] at hquiet hsome ⊢
        by_cases hpos : blocks.length = 0
        · rw [if_pos hpos] at hquiet ⊢
          left
          refine ⟨AccessResult.nothing, by simp, hdevice ▸ hquiet rfl, ?_⟩
          exact hdevice ▸ atOnce_refused Answers.nothing s 0x00 0x00 0x00
        rw [if_neg hpos] at hquiet hsome ⊢
        by_cases hwritable : d.writable = false
        · rw [if_pos hwritable] at hquiet ⊢
          left
          refine ⟨AccessResult.readOnly, by simp, hdevice ▸ hquiet rfl, _,
            [.status false 0x07 a.device.code 0x27 0x00], ?_,
            says_one (sends_send _ _) trivial, quiet_send _ _,
            Answers.readOnly⟩
          rw [hdevice]
          rfl
        · rw [if_neg hwritable] at hsome ⊢
          right
          refine ⟨i, d, hdevice, hdevice ▸ hi, hdevice ▸ hd, ?_, by lia,
            ?_, rfl⟩
          · rw [haccess, hsome, hdevice]
          · intro hnil
            rw [hnil] at hpos
            exact hpos rfl
  · left
    have htarget : slots.target a.device a.access = none := by
      rw [haccess, Slots.target, if_neg hdevice]
    refine ⟨AccessResult.absent, by simp, Slots.perform_absent htarget, ?_⟩
    cases hi : s.devices a.device with
    | none => exact atOnce_refused Answers.absent s 0x02 0x3A 0x00
    | some i =>
        unfold scsiWriteRequest
        simp only [ne_eq, hdevice, not_false_eq_true, if_true]
        exact atOnce_refused Answers.absent s 0x02 0x3A 0x00

end Writes

end IderServer
end IntelAmt
