import IntelAmt.Ider.Runs

/-!
# The write path over whole runs

What a message can do to the images and to the pending write, and from it the
confinement of writes: every byte that differs from what an image held at
first was brought by a DATA_FROM_HOST message for an accepted write command,
at the offset that the command and the bytes before it lead to.
-/

namespace IntelAmt
namespace Ider

open Foundation

variable {ref : Type} [DecidableEq ref]

/-!
## What a message does to the images
-/

/-- The content of the images and what was handed to their files stay as they
are. -/
structure SameContent (s s' : HandlerState ref) : Prop where
  images : forall i, (s.images i).SameDisk (s'.images i)
  writes : forall i, writtenTo i s'.trace = writtenTo i s.trace

/-- The payload of a message is written at the front of what the pending write
still waits for. -/
structure StoresPayload (s s' : HandlerState ref) (message : Bytes)
    (p : PendingWrite ref) : Prop where
  cmdid : messageCmdid message = cmdDataFromHost
  pending : s.pendingWrite = some p
  fits : (hostPayload message).length ≤ p.expectedLength - p.received
  image : (s.images p.image).write (p.byteOffset + p.received)
    (hostPayload message) = Except.ok (s'.images p.image)
  others : forall i, i ≠ p.image -> s'.images i = s.images i
  writes : forall i, writtenTo i s'.trace =
    writtenTo i s.trace ++
      if p.image = i then
        [(p.byteOffset + p.received, hostPayload message)]
      else []

theorem SameContent.of_eq {s s' : HandlerState ref}
    (himages : s'.images = s.images)
    (hwrites : forall i, writtenTo i s'.trace = writtenTo i s.trace) :
    SameContent s s' where
  images := by
    intro i
    rw [himages]
    exact MediaImage.SameDisk.refl _
  writes := hwrites

theorem SameContent.setImage {s s' : HandlerState ref} {i : ref}
    {image : MediaImage} (h : (s.images i).SameDisk image)
    (himages : s'.images = (s.setImage i image).images)
    (hwrites : forall j, writtenTo j s'.trace = writtenTo j s.trace) :
    SameContent s s' where
  images := by
    intro j
    rw [himages]
    by_cases hj : j = i
    · subst hj
      rw [HandlerState.setImage_images]
      exact h
    · rw [HandlerState.setImage_images_of_ne s hj]
      exact MediaImage.SameDisk.refl _
  writes := hwrites

theorem ScsiStep.sameContent {s s' : HandlerState ref} {device : DeviceCode}
    {cdb : Bytes} {flags : UInt8} {result : Except PyError Unit}
    (hstep : ScsiStep s device cdb flags (result, s')) : SameContent s s' := by
  cases hstep with
  | status => exact SameContent.of_eq rfl fun i => writtenTo_send i s _
  | attention i =>
      refine SameContent.setImage (i := i) ?_ rfl
        fun j => writtenTo_send j _ _
      exact ⟨rfl, rfl, rfl, rfl, rfl, rfl, id⟩
  | data => exact SameContent.of_eq rfl fun i => writtenTo_send i s _
  | capacity => exact SameContent.of_eq rfl fun i => writtenTo_send i s _
  | capacityOverflow => exact SameContent.of_eq rfl fun _ => rfl
  | silent => exact SameContent.of_eq rfl fun _ => rfl
  | transfer i lba length dma outs image hextent himage hbound hpos
      htransfer =>
      exact SameContent.setImage htransfer.sameDisk
        (HandlerState.sendAll_images _ _) fun j => writtenTo_sendAll j _ _
  | accepted => exact SameContent.of_eq rfl fun i => writtenTo_send i _ _

theorem storesPayload_of_write {s s' : HandlerState ref} {message : Bytes}
    {p : PendingWrite ref} {image : MediaImage}
    (hcmdid : messageCmdid message = cmdDataFromHost)
    (hpending : s.pendingWrite = some p)
    (hlength :
      (hostPayload message).length ≤ p.expectedLength - p.received)
    (hwrite : (s.images p.image).write (p.byteOffset + p.received)
      (hostPayload message) = Except.ok image)
    (himages : s'.images = (s.setImage p.image image).images)
    (hwrites : forall i, writtenTo i s'.trace =
      writtenTo i s.trace ++
        if p.image = i then
          [(p.byteOffset + p.received, hostPayload message)]
        else []) :
    StoresPayload s s' message p := by
  refine ⟨hcmdid, hpending, hlength, ?_, ?_, hwrites⟩
  · rw [hwrite, himages]
    exact congrArg Except.ok
      (HandlerState.setImage_images s p.image image).symm
  · intro i hi
    rw [himages]
    exact HandlerState.setImage_images_of_ne s hi image

theorem Step.content {s s' : HandlerState ref} {message : Bytes}
    {result : Except PyError Unit} (hstep : Step s message (result, s')) :
    SameContent s s' ∨ exists p, StoresPayload s s' message p := by
  have hsent : forall (t : HandlerState ref) (out : Outbound),
      t.images = s.images -> t.trace = s.trace ->
      SameContent s (t.send out) := by
    intro t out himages htrace
    refine SameContent.of_eq himages ?_
    intro i
    rw [writtenTo_send, htrace]
  cases hstep with
  | opened => exact Or.inl (hsent _ _ rfl rfl)
  | refused => exact Or.inl (SameContent.of_eq rfl fun _ => rfl)
  | closed => exact Or.inl (SameContent.of_eq rfl fun _ => rfl)
  | pinged => exact Or.inl (hsent s _ rfl rfl)
  | available => exact Or.inl (hsent s _ rfl rfl)
  | engaged => exact Or.inl (SameContent.of_eq rfl fun _ => rfl)
  | toggled => exact Or.inl (SameContent.of_eq rfl fun _ => rfl)
  | reset => exact Or.inl (hsent s _ rfl rfl)
  | errorSeen => exact Or.inl (SameContent.of_eq rfl fun _ => rfl)
  | ignored => exact Or.inl (SameContent.of_eq rfl fun _ => rfl)
  | command hcmdid hscsi => exact Or.inl hscsi.sameContent
  | unsolicited => exact Or.inl (hsent s _ rfl rfl)
  | overrun => exact Or.inl (hsent _ _ rfl rfl)
  | unwritable => exact Or.inl (SameContent.of_eq rfl fun _ => rfl)
  | stored p image hcmdid hpending hlength hwrite hmore =>
      refine Or.inr ⟨p, storesPayload_of_write hcmdid hpending hlength hwrite
        rfl ?_⟩
      intro i
      simp
  | completed p image hcmdid hpending hlength hwrite hall =>
      refine Or.inr ⟨p, storesPayload_of_write hcmdid hpending hlength hwrite
        rfl ?_⟩
      intro i
      rw [writtenTo_send]
      simp

/-!
## What a message does to the pending write
-/

/-- A delivery of a write command that addresses a writable floppy and a range
of blocks that the floppy has. -/
structure OrdersWrite (d : Delivery ref) (i : ref) (lba length : Nat) :
    Prop where
  cmdid : messageCmdid d.message = cmdCommandWritten
  extent : writeExtent (commandCdb d.message) = some (lba, length)
  device : commandDevice (commandFlags d.message) = DeviceCode.floppy
  image : d.before.devices DeviceCode.floppy = some i
  inside : lba + length ≤ (d.before.images i).blocks
  nonempty : 0 < length
  writable : (d.before.images i).writable = true

/-- The write is accepted: the engine asks for the whole payload. -/
structure AcceptsWrite (d : Delivery ref) (i : ref) (lba length : Nat) : Prop
    extends OrdersWrite d i lba length where
  granted : d.after =
    { d.before with
      pendingWrite :=
        some (writeRecord DeviceCode.floppy i lba length) }.send
      (getDataFromHost DeviceCode.floppy.code (512 * length))

theorem OrdersWrite.accepted {d : Delivery ref} {i : ref} {lba length : Nat}
    (h : OrdersWrite d i lba length) (hwhole : Whole d.message) :
    AcceptsWrite d i lba length where
  toOrdersWrite := h
  granted := by
    have hlong := hwhole.command_length h.cmdid
    have hcdb := commandCdb_length hlong
    have hinside := h.inside
    have hpos := h.nonempty
    rw [Delivery.after, run_dispatch_command hwhole h.cmdid,
      run_onCommandWritten hlong, handleScsi_write hcdb h.extent, h.device,
      h.image]
    unfold scsiWriteRequest
    simp only [ne_eq, not_true_eq_false, if_false, Exec.run_reads_bind]
    rw [if_neg (by lia), if_neg (by lia), if_neg (by simp [h.writable])]
    rfl

/-- How a delivery that accepts no write can leave the pending write. -/
inductive PendingStep (s s' : HandlerState ref) (message : Bytes) :
    Prop where
  | kept (hcmdid : messageCmdid message ≠ cmdDataFromHost)
      (hafter : s'.pendingWrite = s.pendingWrite)
  | unsolicited (hcmdid : messageCmdid message = cmdDataFromHost)
      (hbefore : s.pendingWrite = none)
      (hafter : s'.pendingWrite = none)
  | overrun (p : PendingWrite ref)
      (hcmdid : messageCmdid message = cmdDataFromHost)
      (hbefore : s.pendingWrite = some p)
      (hafter : s'.pendingWrite = none)
      (hlength :
        p.expectedLength - p.received < (hostPayload message).length)
      (hsent : s'.trace = s.trace ++ [Effect.sent
        ((commandEndResponse false 0x05 p.device.code 0x21 0x00).frame
          s.outSeq)])
  | stored (p : PendingWrite ref)
      (hcmdid : messageCmdid message = cmdDataFromHost)
      (hbefore : s.pendingWrite = some p)
      (hafter : s'.pendingWrite = some
        { p with received := p.received + (hostPayload message).length })
      (hmore : p.received + (hostPayload message).length < p.expectedLength)
      (hsent : s'.trace = s.trace ++ [Effect.wrote p.image
        (p.byteOffset + p.received) (hostPayload message)])
  | completed (p : PendingWrite ref)
      (hcmdid : messageCmdid message = cmdDataFromHost)
      (hbefore : s.pendingWrite = some p)
      (hafter : s'.pendingWrite = none)
      (hlength :
        (hostPayload message).length ≤ p.expectedLength - p.received)
      (hall : p.expectedLength ≤ p.received + (hostPayload message).length)
      (hsent : s'.trace = s.trace ++
        [Effect.wrote p.image (p.byteOffset + p.received)
          (hostPayload message),
        Effect.sent
          ((commandEndResponse false 0x00 p.device.code 0x00 0x00).frame
            s.outSeq)])

theorem Step.pending {images : ref -> MediaImage} {r : Receiver ref}
    {s' : HandlerState ref} {message : Bytes}
    {result : Except PyError Unit} (hstanding : Standing images r.2)
    (hrun : (dispatch message).run r.2 = (result, s'))
    (hstep : Step r.2 message (result, s'))
    (hnot : forall i lba length, ¬ AcceptsWrite (r, message) i lba length) :
    PendingStep r.2 s' message := by
  have hother : forall {cmdid : UInt8}, messageCmdid message = cmdid ->
      cmdid ≠ cmdDataFromHost -> messageCmdid message ≠ cmdDataFromHost := by
    intro cmdid hcmdid hne
    rw [hcmdid]
    exact hne
  cases hstep with
  | opened hcmdid => exact PendingStep.kept (hother hcmdid (by decide)) rfl
  | refused hcmdid => exact PendingStep.kept (hother hcmdid (by decide)) rfl
  | closed hcmdid => exact PendingStep.kept (hother hcmdid (by decide)) rfl
  | pinged hcmdid => exact PendingStep.kept (hother hcmdid (by decide)) rfl
  | available hcmdid => exact PendingStep.kept (hother hcmdid (by decide)) rfl
  | engaged hcmdid => exact PendingStep.kept (hother hcmdid (by decide)) rfl
  | toggled hcmdid => exact PendingStep.kept (hother hcmdid (by decide)) rfl
  | reset hcmdid => exact PendingStep.kept (hother hcmdid (by decide)) rfl
  | errorSeen hcmdid => exact PendingStep.kept (hother hcmdid (by decide)) rfl
  | ignored hcmdid =>
      refine PendingStep.kept ?_ rfl
      intro hdata
      exact hcmdid (by simp [hdata])
  | command hcmdid hscsi =>
      have hcommand := hother hcmdid (by decide)
      cases hscsi with
      | status => exact PendingStep.kept hcommand rfl
      | attention => exact PendingStep.kept hcommand rfl
      | data => exact PendingStep.kept hcommand rfl
      | capacity => exact PendingStep.kept hcommand rfl
      | capacityOverflow => exact PendingStep.kept hcommand rfl
      | silent => exact PendingStep.kept hcommand rfl
      | transfer =>
          exact PendingStep.kept hcommand
            (HandlerState.sendAll_pendingWrite _ _)
      | accepted i lba length hextent hdevice himage hbound hpos hwritable =>
          rw [hdevice] at himage hrun
          exact absurd ⟨⟨hcmdid, hextent, hdevice, himage, hbound, hpos,
            hwritable⟩, congrArg Prod.snd hrun⟩ (hnot i lba length)
  | unsolicited hcmdid hpending =>
      exact PendingStep.unsolicited hcmdid hpending hpending
  | overrun p hcmdid hpending hlength =>
      exact PendingStep.overrun p hcmdid hpending rfl hlength rfl
  | unwritable p e hcmdid hpending hlength hwrite =>
      rcases hstanding.write_ok hpending hlength with ⟨image, hok⟩
      rw [hok] at hwrite
      cases hwrite
  | stored p image hcmdid hpending hlength hwrite hmore =>
      exact PendingStep.stored p hcmdid hpending rfl hmore rfl
  | completed p image hcmdid hpending hlength hwrite hall =>
      refine PendingStep.completed p hcmdid hpending rfl hlength hall ?_
      simp [HandlerState.send]

/-!
## Where written bytes come from
-/

/-- The payload bytes that some deliveries brought. -/
def hostBytes (past : List (Delivery ref)) : Nat :=
  (past.map fun d =>
    if messageCmdid d.message = cmdDataFromHost then
      (hostPayload d.message).length
    else 0).sum

omit [DecidableEq ref] in
@[simp] theorem hostBytes_nil : hostBytes ([] : List (Delivery ref)) = 0 :=
  rfl

omit [DecidableEq ref] in
@[simp] theorem hostBytes_append (past more : List (Delivery ref)) :
    hostBytes (past ++ more) = hostBytes past + hostBytes more := by
  simp [hostBytes]

omit [DecidableEq ref] in
theorem hostBytes_singleton (d : Delivery ref) :
    hostBytes [d] =
      if messageCmdid d.message = cmdDataFromHost then
        (hostPayload d.message).length
      else 0 := by
  simp [hostBytes]

/-- The latest accepted write of a history: the deliveries before it, its own,
and those after it, none of which accepted another write. -/
structure LatestWrite (past : List (Delivery ref)) (i : ref)
    (lba length : Nat) (since : List (Delivery ref)) : Prop where
  split : exists before d, past = before ++ d :: since ∧
    AcceptsWrite d i lba length
  alone : forall d, d ∈ since ->
    forall i lba length, ¬ AcceptsWrite d i lba length

/-- The pending write is the record of an accepted write command, and its
counter holds the payload bytes that came since. -/
structure PendingWrite.Records (p : PendingWrite ref) (lba length : Nat)
    (since : List (Delivery ref)) : Prop where
  device : p.device = DeviceCode.floppy
  byteOffset : p.byteOffset = 512 * lba
  expectedLength : p.expectedLength = 512 * length
  received : p.received = hostBytes since

omit [DecidableEq ref] in
theorem writeRecord_records (i : ref) (lba length : Nat) :
    (writeRecord DeviceCode.floppy i lba length).Records lba length [] where
  device := rfl
  byteOffset := by
    rw [writeRecord, Nat.shiftLeft_eq, Nat.mul_comm]
  expectedLength := rfl
  received := rfl

/-- Byte `k` of image `i` was brought with the value `b`: a write that covers
`k` was accepted, and a DATA_FROM_HOST message that came after it, with no
other write accepted in between, carries `b` at the place that the command and
the payload bytes in between lead to. -/
def BroughtByHost (past : List (Delivery ref)) (i : ref) (k : Nat)
    (b : UInt8) : Prop :=
  exists earlier d later lba length since,
    past = earlier ++ d :: later ∧
    LatestWrite earlier i lba length since ∧
    messageCmdid d.message = cmdDataFromHost ∧
    512 * lba + hostBytes since ≤ k ∧ k < 512 * (lba + length) ∧
    (hostPayload d.message)[k - (512 * lba + hostBytes since)]? = some b

theorem BroughtByHost.append {past : List (Delivery ref)} {i : ref} {k : Nat}
    {b : UInt8} (h : BroughtByHost past i k b)
    (more : List (Delivery ref)) : BroughtByHost (past ++ more) i k b := by
  rcases h with ⟨earlier, d, later, lba, length, since, rfl, hrest⟩
  refine ⟨earlier, d, later ++ more, lba, length, since, ?_, hrest⟩
  simp

/-- What is known about the writes of a run. -/
structure WriteLog (images : ref -> MediaImage) (r : Receiver ref)
    (past : List (Delivery ref)) : Prop where
  pending : forall p, r.2.pendingWrite = some p ->
    exists lba length since,
      LatestWrite past p.image lba length since ∧
        p.Records lba length since
  content : forall i k,
    (r.2.images i).file[k]? = (images i).file[k]? ∨
      exists b, (r.2.images i).file[k]? = some b ∧ BroughtByHost past i k b
  counted : forall i, (r.2.images i).bytesWritten =
    ((writtenTo i r.2.trace).map fun write => write.2.length).sum

namespace WriteLog

variable {images : ref -> MediaImage} {r r' : Receiver ref}
variable {past : List (Delivery ref)}

theorem congr (h : WriteLog images r past)
    (hpending : r'.2.pendingWrite = r.2.pendingWrite)
    (hcontent : SameContent r.2 r'.2) : WriteLog images r' past where
  pending := by
    rw [hpending]
    exact h.pending
  content := by
    intro i k
    rw [(hcontent.images i).file]
    exact h.content i k
  counted := by
    intro i
    rw [(hcontent.images i).bytesWritten, hcontent.writes]
    exact h.counted i

theorem content_append (h : WriteLog images r past)
    (hcontent : SameContent r.2 r'.2) (more : List (Delivery ref)) :
    forall i k,
      (r'.2.images i).file[k]? = (images i).file[k]? ∨
        exists b, (r'.2.images i).file[k]? = some b ∧
          BroughtByHost (past ++ more) i k b := by
  intro i k
  rw [(hcontent.images i).file]
  rcases h.content i k with hsame | ⟨b, hb, hbrought⟩
  · exact Or.inl hsame
  · exact Or.inr ⟨b, hb, hbrought.append more⟩

theorem counted_same (h : WriteLog images r past)
    (hcontent : SameContent r.2 r'.2) :
    forall i, (r'.2.images i).bytesWritten =
      ((writtenTo i r'.2.trace).map fun write => write.2.length).sum := by
  intro i
  rw [(hcontent.images i).bytesWritten, hcontent.writes]
  exact h.counted i

theorem counted_stored (h : WriteLog images r past) {message : Bytes}
    {p : PendingWrite ref} (hstored : StoresPayload r.2 r'.2 message p) :
    forall i, (r'.2.images i).bytesWritten =
      ((writtenTo i r'.2.trace).map fun write => write.2.length).sum := by
  intro i
  rw [hstored.writes i]
  by_cases hi : p.image = i
  · subst hi
    rcases MediaImage.write_eq_ok hstored.image with ⟨_, _, himage⟩
    rw [himage, h.counted p.image]
    simp
  · rw [hstored.others i fun heq => hi heq.symm, h.counted i]
    simp [hi]

theorem latest_append {i : ref} {lba length : Nat}
    {since : List (Delivery ref)} {d : Delivery ref}
    (h : LatestWrite past i lba length since)
    (hnot : forall i lba length, ¬ AcceptsWrite d i lba length) :
    LatestWrite (past ++ [d]) i lba length (since ++ [d]) where
  split := by
    rcases h.split with ⟨before, d', rfl, haccepts⟩
    exact ⟨before, d', by simp, haccepts⟩
  alone := by
    intro d' hmem
    rcases List.mem_append.mp hmem with hsince | hnew
    · exact h.alone d' hsince
    · cases List.mem_singleton.mp hnew
      exact hnot

theorem pending_step (h : WriteLog images r past) {message : Bytes}
    {s' : HandlerState ref} (hpending : PendingStep r.2 s' message)
    (hnot : forall i lba length, ¬ AcceptsWrite (r, message) i lba length) :
    forall p, s'.pendingWrite = some p ->
      exists lba length since,
        LatestWrite (past ++ [(r, message)]) p.image lba length since ∧
          p.Records lba length since := by
  intro p hp
  cases hpending with
  | kept hcmdid hkept =>
      rw [hkept] at hp
      rcases h.pending p hp with ⟨lba, length, since, hlatest, hrecords⟩
      have hzero : hostBytes [((r, message) : Delivery ref)] = 0 := by
        rw [hostBytes_singleton, Delivery.message, if_neg hcmdid]
      refine ⟨lba, length, since ++ [(r, message)],
        latest_append hlatest hnot,
        ⟨hrecords.device, hrecords.byteOffset, hrecords.expectedLength, ?_⟩⟩
      rw [hostBytes_append, hzero]
      exact hrecords.received
  | unsolicited _ _ hnone =>
      rw [hnone] at hp
      cases hp
  | overrun _ _ _ hnone =>
      rw [hnone] at hp
      cases hp
  | completed _ _ _ hnone =>
      rw [hnone] at hp
      cases hp
  | stored p' hcmdid hbefore hafter =>
      rw [hafter] at hp
      cases hp
      rcases h.pending p' hbefore with ⟨lba, length, since, hlatest, hrecords⟩
      have hmore : hostBytes [((r, message) : Delivery ref)] =
          (hostPayload message).length := by
        rw [hostBytes_singleton, Delivery.message, if_pos hcmdid]
      refine ⟨lba, length, since ++ [(r, message)],
        latest_append hlatest hnot,
        ⟨hrecords.device, hrecords.byteOffset, hrecords.expectedLength, ?_⟩⟩
      rw [hostBytes_append, hmore, ← hrecords.received]

theorem content_stored (h : WriteLog images r past)
    (hstanding : Standing images r.2) {message : Bytes}
    {p : PendingWrite ref} (hstored : StoresPayload r.2 r'.2 message p) :
    forall i k,
      (r'.2.images i).file[k]? = (images i).file[k]? ∨
        exists b, (r'.2.images i).file[k]? = some b ∧
          BroughtByHost (past ++ [(r, message)]) i k b := by
  intro i k
  have hkeep : (r'.2.images i).file[k]? = (r.2.images i).file[k]? ->
      (r'.2.images i).file[k]? = (images i).file[k]? ∨
        exists b, (r'.2.images i).file[k]? = some b ∧
          BroughtByHost (past ++ [(r, message)]) i k b := by
    intro hsame
    rw [hsame]
    rcases h.content i k with hold | ⟨b, hb, hbrought⟩
    · exact Or.inl hold
    · exact Or.inr ⟨b, hb, hbrought.append _⟩
  by_cases hi : i = p.image
  · subst hi
    rcases MediaImage.write_eq_ok hstored.image with ⟨_, hinside, himage⟩
    have hsized := hstanding.sized p.image
    by_cases hrange : p.byteOffset + p.received ≤ k ∧
        k < p.byteOffset + p.received + (hostPayload message).length
    · right
      have hfit : p.byteOffset + p.received + (hostPayload message).length ≤
          (r.2.images p.image).file.length := by lia
      have hvalue := getElem?_splice_inside hfit hrange.1 hrange.2
      rcases h.pending p hstored.pending with
        ⟨lba, length, since, hlatest, hrecords⟩
      have hbyte : k - (p.byteOffset + p.received) <
          (hostPayload message).length := by lia
      have hoffset : p.byteOffset + p.received =
          512 * lba + hostBytes since := by
        rw [hrecords.byteOffset, hrecords.received]
      have hfits := hstored.fits
      rw [hrecords.expectedLength, hrecords.received] at hfits
      rw [List.getElem?_eq_getElem hbyte] at hvalue
      refine ⟨_, by rw [himage]; exact hvalue, past, (r, message), [], lba,
        length, since, rfl, hlatest, hstored.cmdid, ?_, ?_, ?_⟩
      · lia
      · lia
      · rw [← hoffset]
        exact List.getElem?_eq_getElem hbyte
    · apply hkeep
      rw [himage]
      exact getElem?_splice_outside (by lia) (by lia)
  · exact hkeep (by rw [hstored.others i hi])

end WriteLog

theorem writeLog_kept {images : ref -> MediaImage} :
    KeptByRuns images (WriteLog images) where
  attach := fun i r past _ h =>
    h.congr rfl (SameContent.of_eq rfl fun _ => rfl)
  send := fun out r past _ h =>
    h.congr rfl (SameContent.of_eq rfl fun i => writtenTo_send i r.2 out)
  halt := fun r past _ h => h.congr rfl (SameContent.of_eq rfl fun _ => rfl)
  deliver := by
    intro message r past result s hstanding h _ _ hrun hstep
    by_cases haccepts : exists i lba length,
        AcceptsWrite ((r, message) : Delivery ref) i lba length
    · rcases haccepts with ⟨i, lba, length, haccepts⟩
      have hgranted := haccepts.granted
      rw [show Delivery.after (r, message) = s from congrArg Prod.snd hrun]
        at hgranted
      have hcontent : SameContent r.2 s := by
        rw [hgranted]
        exact SameContent.of_eq rfl fun j => writtenTo_send j _ _
      refine ⟨?_, h.content_append hcontent _, h.counted_same hcontent⟩
      intro p hp
      have hpending : s.pendingWrite =
          some (writeRecord DeviceCode.floppy i lba length) := by
        rw [hgranted]
        rfl
      rw [hpending] at hp
      cases hp
      exact ⟨lba, length, [], ⟨⟨past, (r, message), rfl, haccepts⟩, by simp⟩,
        writeRecord_records i lba length⟩
    · have hnot : forall i lba length,
          ¬ AcceptsWrite ((r, message) : Delivery ref) i lba length := by
        intro i lba length hcontra
        exact haccepts ⟨i, lba, length, hcontra⟩
      have hpending := h.pending_step
        (hstep.pending hstanding hrun hnot) hnot
      rcases hstep.content with hcontent | ⟨p, hstored⟩
      · exact ⟨hpending, h.content_append hcontent _,
          h.counted_same hcontent⟩
      · exact ⟨hpending, h.content_stored hstanding hstored,
          h.counted_stored hstored⟩

/-!
## Confinement
-/

theorem newEngine_writeLog {images : ref -> MediaImage}
    (hfresh : forall i, (images i).Fresh) (startMode : StartMode)
    (rxTimeout txTimeout heartbeat : Nat) :
    WriteLog images
      (0, (newEngine startMode rxTimeout txTimeout heartbeat images).state)
      [] where
  pending := by
    intro p hp
    cases hp
  content := fun i k => Or.inl rfl
  counted := fun i => (hfresh i).bytesWritten

/-- Over every run no backing file changes its length, read-only media and
CD/DVD media keep their content, every byte that has changed was brought for
an accepted write command at the place that the command and the bytes before
it lead to, and the counter of an image adds up what was handed to its
file. -/
theorem writes_confined {images : ref -> MediaImage}
    (hfresh : forall i, (images i).Fresh) (startMode : StartMode)
    (rxTimeout txTimeout heartbeat : Nat) (calls : List (Call ref)) :
    let start := newEngine startMode rxTimeout txTimeout heartbeat images
    let s := (runCalls calls start).state
    let past := deliveries calls start
    (forall i, (s.images i).file.length = (images i).file.length) ∧
    (forall i,
      (images i).writable = false ∨
        (images i).deviceCode = DeviceCode.cdrom ->
      (s.images i).file = (images i).file) ∧
    (forall i k, (s.images i).file[k]? ≠ (images i).file[k]? ->
      exists b, (s.images i).file[k]? = some b ∧
        BroughtByHost past i k b) ∧
    (forall i, (s.images i).bytesWritten =
      ((writtenTo i s.trace).map fun write => write.2.length).sum) := by
  intro start s past
  have hlog : WriteLog images ((runCalls calls start).inSeq, s) past :=
    run_invariant writeLog_kept hfresh startMode rxTimeout txTimeout heartbeat
      calls (newEngine_writeLog hfresh startMode rxTimeout txTimeout heartbeat)
  have hmet := deliveries_standing hfresh startMode rxTimeout txTimeout
    heartbeat calls
  have hstanding := runCalls_standing hfresh startMode rxTimeout txTimeout
    heartbeat calls
  refine ⟨?_, ?_, ?_, hlog.counted⟩
  · intro i
    exact (hstanding.media i).fileLength
  · intro i hprotected
    have hreadOnly : (images i).writable = false := by
      rcases hprotected with hwritable | hcdrom
      · exact hwritable
      · exact (images i).cdrom_read_only hcdrom
    apply List.ext_getElem?
    intro k
    rcases hlog.content i k with hsame | ⟨b, _, hbrought⟩
    · exact hsame
    · rcases hbrought with
        ⟨earlier, d, later, lba, length, since, hpast, hlatest, _⟩
      rcases hlatest.split with ⟨before, d', hearlier, haccepts⟩
      have hmem : d' ∈ past := by
        rw [hpast, hearlier]
        simp
      have hmedium := (hmet d' hmem).1.media i
      have hwritable := hmedium.writable.symm.trans haccepts.writable
      rw [hreadOnly] at hwritable
      cases hwritable
  · intro i k hchanged
    rcases hlog.content i k with hsame | hbrought
    · exact absurd hsame hchanged
    · exact hbrought

/-- A run that writes one sector of a floppy of two. -/
theorem writes_confined_sector :
    let image := MediaImage.blank ["boot.img"] DeviceCode.floppy 2 true nofun
    let calls : List (Call Unit) :=
      [Call.attach (),
        Call.feed (commandMessage 0 0x00 0xA0 (extentCdb opWrite10 1 1)),
        Call.feed (dataMessage 1 (List.replicate 512 0x55))]
    let s := (runCalls calls
      (newEngine .onReboot 30000 0 20000 fun _ => image)).state
    (s.images ()).file.length = 1024 := by
  intro image calls s
  have hfresh : forall i : Unit, ((fun _ => image) i).Fresh :=
    fun _ => MediaImage.blank_fresh ..
  have hconfined := writes_confined hfresh .onReboot 30000 0 20000 calls
  rw [hconfined.1 ()]
  exact List.length_replicate

end Ider
end IntelAmt
