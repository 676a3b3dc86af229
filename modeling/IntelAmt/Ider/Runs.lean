import IntelAmt.Ider.Step

/-!
# Runs of the engine

A run is a sequence of calls on a new engine: media is attached, the session
is started, bytes are fed, in any order and with any bytes.  A delivery is a
message that a run has processed, with the state it met.  `run_invariant` is
the rule by which everything about runs is proved: a property of the state and
of the deliveries so far is kept by every call and by every `Step`.
-/

namespace IntelAmt
namespace Ider

open Foundation

variable {ref : Type}

/-- The engine as its constructor leaves it. -/
def newEngine (startMode : StartMode) (rxTimeout txTimeout heartbeat : Nat)
    (images : ref -> MediaImage) : IderEngine ref where
  state :=
    { startMode := startMode
      rxTimeout := rxTimeout
      txTimeout := txTimeout
      heartbeat := heartbeat
      images := images }

inductive Call (ref : Type) where
  | attach (i : ref)
  | start
  | feed (data : Bytes)
deriving DecidableEq, Repr

/-- A processed message: the receive state it met, and the message. -/
abbrev Delivery (ref : Type) : Type := Receiver ref × Bytes

namespace Delivery

def before (d : Delivery ref) : HandlerState ref := d.1.2

def message (d : Delivery ref) : Bytes := d.2

variable [DecidableEq ref]

def outcome (d : Delivery ref) : Except PyError Unit :=
  ((dispatch d.message).run d.before).1

def after (d : Delivery ref) : HandlerState ref :=
  ((dispatch d.message).run d.before).2

end Delivery

variable [DecidableEq ref]

def runCall : Call ref -> FeedM ref Unit
  | Call.attach i => liftHandler (attachDevice i)
  | Call.start => liftHandler startSession
  | Call.feed data => feed data

/-- The engine after a sequence of calls; the caller goes on after a call that
has raised. -/
def runCalls : List (Call ref) -> IderEngine ref -> IderEngine ref
  | [], e => e
  | call :: calls, e => runCalls calls ((runCall call).run e).2

/-- The messages that one call processes. -/
def callDeliveries : Call ref -> IderEngine ref -> List (Delivery ref)
  | Call.attach _, _ => []
  | Call.start, _ => []
  | Call.feed data, e =>
      if e.state.stopped then []
      else consumed iderFramer iderConsumer (e.buf ++ data) (e.inSeq, e.state)

def deliveries : List (Call ref) -> IderEngine ref -> List (Delivery ref)
  | [], _ => []
  | call :: calls, e =>
      callDeliveries call e ++ deliveries calls ((runCall call).run e).2

theorem mem_deliveries {calls : List (Call ref)} {e : IderEngine ref}
    {d : Delivery ref} :
    d ∈ deliveries calls e ↔
      exists before call after, calls = before ++ call :: after ∧
        d ∈ callDeliveries call (runCalls before e) := by
  induction calls generalizing e with
  | nil => simp [deliveries]
  | cons call calls ih =>
      rw [deliveries, List.mem_append, ih]
      constructor
      · rintro (hfirst | ⟨before, call', after, rfl, hmem⟩)
        · exact ⟨[], call, calls, rfl, hfirst⟩
        · exact ⟨call :: before, call', after, rfl, hmem⟩
      · rintro ⟨before, call', after, hsplit, hmem⟩
        cases before with
        | nil =>
            cases hsplit
            exact Or.inl hmem
        | cons first before =>
            cases hsplit
            exact Or.inr ⟨before, call', after, rfl, hmem⟩

theorem snoc_split {alpha : Type} {past before after : List alpha}
    {x d : alpha} (h : past ++ [x] = before ++ d :: after) :
    after = [] ∧ before = past ∧ d = x ∨
      exists after', after = after' ++ [x] ∧ past = before ++ d :: after' := by
  rcases List.eq_nil_or_concat after with rfl | ⟨after', y, rfl⟩
  · rcases List.append_inj' h rfl with ⟨rfl, hx⟩
    cases hx
    exact Or.inl ⟨rfl, rfl, rfl⟩
  · rw [List.concat_eq_append] at h ⊢
    rw [← List.cons_append, ← List.append_assoc] at h
    rcases List.append_inj' h rfl with ⟨rfl, hx⟩
    cases hx
    exact Or.inr ⟨after', rfl, rfl⟩

/-!
## The media of a run

A run changes the content of an image and its counters, never what medium it
stands for or how long its file is.
-/

structure MediaImage.SameMedium (image image' : MediaImage) : Prop where
  path : image'.path = image.path
  deviceCode : image'.deviceCode = image.deviceCode
  size : image'.size = image.size
  writable : image'.writable = image.writable
  fileLength : image'.file.length = image.file.length

theorem MediaImage.SameMedium.refl (image : MediaImage) :
    image.SameMedium image := ⟨rfl, rfl, rfl, rfl, rfl⟩

theorem MediaImage.SameMedium.trans {image image' image'' : MediaImage}
    (h : image.SameMedium image') (h' : image'.SameMedium image'') :
    image.SameMedium image'' where
  path := h'.path.trans h.path
  deviceCode := h'.deviceCode.trans h.deviceCode
  size := h'.size.trans h.size
  writable := h'.writable.trans h.writable
  fileLength := h'.fileLength.trans h.fileLength

theorem MediaImage.SameMedium.blocks {image image' : MediaImage}
    (h : image.SameMedium image') : image'.blocks = image.blocks := by
  simp [MediaImage.blocks, MediaImage.sectorShift, h.deviceCode, h.size]

theorem MediaImage.SameDisk.sameMedium {image image' : MediaImage}
    (h : image.SameDisk image') : image.SameMedium image' :=
  ⟨h.path, h.deviceCode, h.size, h.writable, congrArg List.length h.file⟩

theorem MediaImage.write_sameMedium {image image' : MediaImage}
    {offset : Nat} {data : Bytes} (hlength : image.file.length = image.size)
    (h : image.write offset data = Except.ok image') :
    image.SameMedium image' := by
  obtain ⟨_, hfits, rfl⟩ := MediaImage.write_eq_ok h
  exact ⟨rfl, rfl, rfl, rfl, splice_length_of_le (by lia)⟩

/-!
## The standing invariant
-/

/-- What the engine may rely on about the write it waits for: the image is a
writable floppy, the declared range lies inside it, and something of it is
still missing. -/
structure PendingWrite.Sound (p : PendingWrite ref)
    (image : MediaImage) : Prop where
  device : p.device = DeviceCode.floppy
  deviceCode : image.deviceCode = DeviceCode.floppy
  writable : image.writable = true
  inside : p.byteOffset + p.expectedLength ≤ image.size
  missing : p.received < p.expectedLength

/-- What holds between any two calls of a run that began with `images`. -/
structure Standing (images : ref -> MediaImage) (s : HandlerState ref) :
    Prop where
  idle : s.Idle
  slots : forall device i, s.devices device = some i ->
    (s.images i).deviceCode = device
  media : forall i, (images i).SameMedium (s.images i)
  sized : forall i, (s.images i).file.length = (s.images i).size
  pending : forall p, s.pendingWrite = some p ->
    p.Sound (s.images p.image)

omit [DecidableEq ref] in
theorem PendingWrite.Sound.congr {p : PendingWrite ref}
    {image image' : MediaImage} (h : p.Sound image)
    (hsame : image.SameMedium image') : p.Sound image' where
  device := h.device
  deviceCode := hsame.deviceCode.trans h.deviceCode
  writable := hsame.writable.trans h.writable
  inside := by
    rw [hsame.size]
    exact h.inside
  missing := h.missing

namespace Standing

variable {images : ref -> MediaImage} {s s' : HandlerState ref}

omit [DecidableEq ref] in
theorem update (h : Standing images s) (hidle : s'.Idle)
    (hdevices : s'.devices = s.devices)
    (himages : forall i, (s.images i).SameMedium (s'.images i))
    (hpending : forall p, s'.pendingWrite = some p ->
      p.Sound (s'.images p.image)) :
    Standing images s' where
  idle := hidle
  slots := by
    intro device i hslot
    rw [hdevices] at hslot
    rw [(himages i).deviceCode]
    exact h.slots device i hslot
  media := fun i => (h.media i).trans (himages i)
  sized := by
    intro i
    rw [(himages i).fileLength, (himages i).size]
    exact h.sized i
  pending := hpending

omit [DecidableEq ref] in
theorem keep (h : Standing images s) (hidle : s'.Idle)
    (hdevices : s'.devices = s.devices)
    (himages : forall i, (s.images i).SameMedium (s'.images i))
    (hpending : s'.pendingWrite = s.pendingWrite) :
    Standing images s' := by
  refine h.update hidle hdevices himages ?_
  intro p hp
  rw [hpending] at hp
  exact (h.pending p hp).congr (himages p.image)

omit [DecidableEq ref] in
theorem settle (h : Standing images s) (hidle : s'.Idle)
    (hdevices : s'.devices = s.devices)
    (himages : forall i, (s.images i).SameMedium (s'.images i))
    (hpending : s'.pendingWrite = none) : Standing images s' := by
  refine h.update hidle hdevices himages ?_
  intro p hp
  rw [hpending] at hp
  cases hp

theorem setImage_sameMedium {i : ref} {image : MediaImage}
    (h : (s.images i).SameMedium image) :
    forall j, (s.images j).SameMedium ((s.setImage i image).images j) := by
  intro j
  by_cases hj : j = i
  · subst hj
    rw [HandlerState.setImage_images]
    exact h
  · rw [HandlerState.setImage_images_of_ne s hj]
    exact MediaImage.SameMedium.refl _

omit [DecidableEq ref] in
theorem writeRecord_sound (h : Standing images s) {device : DeviceCode}
    {i : ref} {lba length : Nat} (hdevice : device = DeviceCode.floppy)
    (himage : s.devices device = some i)
    (hbound : lba + length ≤ (s.images i).blocks) (hpos : 0 < length)
    (hwritable : (s.images i).writable = true) :
    (writeRecord device i lba length).Sound (s.images i) := by
  have hcode := h.slots device i himage
  rw [hdevice] at hcode
  have hshift := (s.images i).blocks_shift_le
  rw [MediaImage.sectorShift, hcode] at hshift
  have hinside : 512 * lba + 512 * length ≤ (s.images i).size := by lia
  refine ⟨hdevice, hcode, hwritable, ?_, ?_⟩
  · simpa [writeRecord, Nat.shiftLeft_eq, Nat.mul_comm] using hinside
  · simpa [writeRecord] using hpos

theorem scsiStep (h : Standing images s) {device : DeviceCode} {cdb : Bytes}
    {flags : UInt8} {result : Except PyError Unit}
    (hstep : ScsiStep s device cdb flags (result, s')) :
    Standing images s' := by
  have hidle := h.idle
  have hsame : forall i, (s.images i).SameMedium (s.images i) :=
    fun i => MediaImage.SameMedium.refl _
  cases hstep with
  | status => exact h.keep (hidle.send _) rfl hsame rfl
  | attention i =>
      exact h.keep ((hidle.setImage i _).send _) rfl
        (setImage_sameMedium ⟨rfl, rfl, rfl, rfl, rfl⟩) rfl
  | data => exact h.keep (hidle.send _) rfl hsame rfl
  | capacity => exact h.keep (hidle.send _) rfl hsame rfl
  | capacityOverflow => exact h
  | silent => exact h
  | transfer i lba length dma outs image hextent himage hbound hpos
      htransfer =>
      refine h.keep ((hidle.setImage i image).sendAll outs) ?_ ?_ ?_
      · rw [HandlerState.sendAll_devices, HandlerState.setImage_devices]
      · rw [HandlerState.sendAll_images]
        exact setImage_sameMedium htransfer.sameDisk.sameMedium
      · rw [HandlerState.sendAll_pendingWrite,
          HandlerState.setImage_pendingWrite]
  | accepted i lba length hextent hdevice himage hbound hpos hwritable =>
      refine h.update ⟨hidle.1, hidle.2, hidle.3⟩ rfl hsame ?_
      intro p hp
      cases hp
      exact h.writeRecord_sound hdevice himage hbound hpos hwritable

theorem step (h : Standing images s) {message : Bytes}
    {result : Except PyError Unit}
    (hstep : Step s message (result, s')) : Standing images s' := by
  have hidle := h.idle
  have hsame : forall i, (s.images i).SameMedium (s.images i) :=
    fun i => MediaImage.SameMedium.refl _
  cases hstep with
  | opened => exact h.keep ⟨hidle.1, hidle.2, hidle.3⟩ rfl hsame rfl
  | refused => exact h.keep ⟨hidle.1, hidle.2, hidle.3⟩ rfl hsame rfl
  | closed => exact h.keep ⟨hidle.1, hidle.2, hidle.3⟩ rfl hsame rfl
  | pinged => exact h.keep (hidle.send _) rfl hsame rfl
  | available => exact h.keep (hidle.send _) rfl hsame rfl
  | engaged => exact h.keep ⟨hidle.1, hidle.2, hidle.3⟩ rfl hsame rfl
  | toggled => exact h.keep ⟨hidle.1, hidle.2, hidle.3⟩ rfl hsame rfl
  | reset => exact h.keep (hidle.send _) rfl hsame rfl
  | errorSeen => exact h.keep ⟨hidle.1, hidle.2, hidle.3⟩ rfl hsame rfl
  | ignored => exact h
  | command hcmdid hscsi => exact h.scsiStep hscsi
  | unsolicited => exact h.keep (hidle.send _) rfl hsame rfl
  | overrun => exact h.settle ⟨hidle.1, hidle.2, hidle.3⟩ rfl hsame rfl
  | unwritable => exact h
  | stored p image hcmdid hpending hlength hwrite hmore =>
      have hmedium := MediaImage.write_sameMedium (h.sized p.image) hwrite
      refine h.update ⟨hidle.1, hidle.2, hidle.3⟩ rfl
        (setImage_sameMedium hmedium) ?_
      intro p' hp'
      cases hp'
      have hsound := (h.pending p hpending).congr hmedium
      have himage := HandlerState.setImage_images s p.image image
      refine ⟨hsound.device, ?_, ?_, ?_, hmore⟩
      · exact (congrArg MediaImage.deviceCode himage).trans hsound.deviceCode
      · exact (congrArg MediaImage.writable himage).trans hsound.writable
      · exact Nat.le_trans hsound.inside
          (Nat.le_of_eq (congrArg MediaImage.size himage.symm))
  | completed p image hcmdid hpending hlength hwrite hall =>
      have hmedium := MediaImage.write_sameMedium (h.sized p.image) hwrite
      exact h.settle ⟨hidle.1, hidle.2, hidle.3⟩ rfl
        (setImage_sameMedium hmedium) rfl

omit [DecidableEq ref] in
theorem attach (h : Standing images s) (i : ref) :
    Standing images ((attachDevice i).run s).2 where
  idle := ⟨h.idle.1, h.idle.2, h.idle.3⟩
  slots := by
    intro device j hslot
    simp only [attachDevice, Exec.run_update] at hslot ⊢
    split at hslot
    · rename_i hdevice
      cases hslot
      exact hdevice.symm
    · exact h.slots device j hslot
  media := h.media
  sized := h.sized
  pending := h.pending

omit [DecidableEq ref] in
theorem halt (h : Standing images s) :
    Standing images { s with stopped := true } :=
  h.keep ⟨h.idle.1, h.idle.2, h.idle.3⟩ rfl
    (fun _ => MediaImage.SameMedium.refl _) rfl

end Standing

omit [DecidableEq ref] in
theorem Standing.write_ok {images : ref -> MediaImage} {s : HandlerState ref}
    (h : Standing images s) {p : PendingWrite ref}
    (hpending : s.pendingWrite = some p) {data : Bytes}
    (hfits : data.length ≤ p.expectedLength - p.received) :
    exists image, (s.images p.image).write (p.byteOffset + p.received) data =
      Except.ok image := by
  have hsound := h.pending p hpending
  have hinside := hsound.inside
  have hmissing := hsound.missing
  unfold MediaImage.write
  rw [if_neg (by simp [hsound.writable]), if_neg (by lia)]
  exact ⟨_, rfl⟩

/-- OPEN_SESSION as the engine numbers its fields. -/
def openSession (s : HandlerState ref) : Outbound :=
  bareFrame cmdOpenSession
    (packLE 2 s.rxTimeout ++ packLE 2 s.txTimeout ++ packLE 2 s.heartbeat ++
      packLE 4 1)

omit [DecidableEq ref] in
theorem run_startSession (s : HandlerState ref) :
    startSession.run s = (Except.ok (), s.send (openSession s)) ∨
      startSession.run s = (Except.error PyError.struct, s) := by
  unfold startSession
  rw [Exec.run_reads_bind]
  by_cases hrx : s.rxTimeout < 256 ^ 2
  · rw [id_eq, run_checkedPackLE_bind hrx]
    by_cases htx : s.txTimeout < 256 ^ 2
    · rw [run_checkedPackLE_bind htx]
      by_cases hheart : s.heartbeat < 256 ^ 2
      · rw [run_checkedPackLE_bind hheart,
          run_checkedPackLE_bind (by decide)]
        exact Or.inl rfl
      · rw [checkedPackLE, if_neg hheart]
        exact Or.inr rfl
    · rw [checkedPackLE, if_neg htx]
      exact Or.inr rfl
  · rw [id_eq, checkedPackLE, if_neg hrx]
    exact Or.inr rfl

omit [DecidableEq ref] in
theorem Standing.start {images : ref -> MediaImage} {s : HandlerState ref}
    (h : Standing images s) : Standing images (startSession.run s).2 := by
  rcases run_startSession s with hrun | hrun
  · rw [hrun]
    exact h.keep (h.idle.send _) rfl
      (fun _ => MediaImage.SameMedium.refl _) rfl
  · rw [hrun]
    exact h

/-!
## The rule for runs
-/

section Invariant

variable {images : ref -> MediaImage}

/-- A property of the receive state and of the deliveries so far that every
call and every step keeps. -/
structure KeptByRuns (images : ref -> MediaImage)
    (P : Receiver ref -> List (Delivery ref) -> Prop) : Prop where
  attach : forall i r past, Standing images r.2 -> P r past ->
    P (r.1, ((attachDevice i).run r.2).2) past
  send : forall out r past, Standing images r.2 -> P r past ->
    P (r.1, r.2.send out) past
  halt : forall r past, Standing images r.2 -> P r past -> P r.halt past
  deliver : forall message r past result s, Standing images r.2 ->
    P r past -> Whole message -> messageSeq message = r.1 ->
    (dispatch message).run r.2 = (result, s) ->
    Step r.2 message (result, s) ->
    P ((r.1 + 1) % 2 ^ 32, s) (past ++ [(r, message)])

theorem KeptByRuns.consume {P : Receiver ref -> List (Delivery ref) -> Prop}
    (hkept : KeptByRuns images P) {message : Bytes} {r : Receiver ref}
    {past : List (Delivery ref)} (hstanding : Standing images r.2)
    (h : P r past) (hwhole : Whole message)
    (hnot : forall e r', consumeMessage message r ≠ Consumed.discard e r') :
    Standing images (consumeMessage message r).final.2 ∧
      P (consumeMessage message r).final (past ++ [(r, message)]) := by
  obtain ⟨hseq, hfinal⟩ := consumeMessage_final hnot
  have hstep := dispatch_step hstanding.idle hwhole
  rw [hfinal]
  cases hrun : (dispatch message).run r.2 with
  | mk result s =>
      rw [hrun] at hstep
      exact ⟨hstanding.step hstep,
        hkept.deliver message r past result s hstanding h hwhole hseq hrun
          hstep⟩

theorem runCall_keeps {P : Receiver ref -> List (Delivery ref) -> Prop}
    (hkept : KeptByRuns images P) (call : Call ref) {e : IderEngine ref}
    {past : List (Delivery ref)} (hstanding : Standing images e.state)
    (h : P (e.inSeq, e.state) past) :
    Standing images ((runCall call).run e).2.state ∧
      P (((runCall call).run e).2.inSeq, ((runCall call).run e).2.state)
        (past ++ callDeliveries call e) := by
  cases call with
  | attach i =>
      rw [callDeliveries, List.append_nil]
      exact ⟨hstanding.attach i, hkept.attach i _ past hstanding h⟩
  | start =>
      rw [callDeliveries, List.append_nil]
      refine ⟨hstanding.start, ?_⟩
      show P (e.inSeq, (startSession.run e.state).2) past
      rcases run_startSession e.state with hrun | hrun
      · rw [hrun]
        exact hkept.send _ _ past hstanding h
      · rw [hrun]
        exact h
  | feed data =>
      rw [callDeliveries, runCall, run_feed]
      cases hstopped : e.state.stopped with
      | true => simpa using ⟨hstanding, h⟩
      | false =>
          rw [if_neg (by simp), if_neg (by simp)]
          exact drain_induction iderFramer iderConsumer
            (P := fun r past => Standing images r.2 ∧ P r past)
            (fun cmdid r past hr =>
              ⟨hr.1.halt, hkept.halt r past hr.1 hr.2⟩)
            (fun message r past err r' hr hdiscard => by
              obtain ⟨_, rfl, _⟩ := consumeMessage_discard hdiscard
              exact ⟨hr.1.halt, hkept.halt r past hr.1 hr.2⟩)
            (fun buf message rest r past hnext hr hnot =>
              hkept.consume hr.1 hr.2 (nextMessage_whole hnext) hnot)
            (e.buf ++ data) (e.inSeq, e.state) past ⟨hstanding, h⟩

/-- The rule for runs, from any state that a run can stand in. -/
theorem runCalls_keeps {P : Receiver ref -> List (Delivery ref) -> Prop}
    (hkept : KeptByRuns images P) (calls : List (Call ref))
    {e : IderEngine ref} {past : List (Delivery ref)}
    (hstanding : Standing images e.state) (h : P (e.inSeq, e.state) past) :
    Standing images (runCalls calls e).state ∧
      P ((runCalls calls e).inSeq, (runCalls calls e).state)
        (past ++ deliveries calls e) := by
  induction calls generalizing e past with
  | nil => simpa [runCalls, deliveries] using ⟨hstanding, h⟩
  | cons call calls ih =>
      obtain ⟨hstanding', h'⟩ := runCall_keeps hkept call hstanding h
      have hrest := ih hstanding' h'
      rw [List.append_assoc] at hrest
      exact hrest

omit [DecidableEq ref] in
theorem newEngine_standing (hfresh : forall i, (images i).Fresh)
    (startMode : StartMode) (rxTimeout txTimeout heartbeat : Nat) :
    Standing images
      (newEngine startMode rxTimeout txTimeout heartbeat images).state where
  idle := ⟨rfl, rfl, rfl⟩
  slots := by
    intro device i hslot
    cases hslot
  media := fun i => MediaImage.SameMedium.refl _
  sized := fun i => (hfresh i).file_length
  pending := by
    intro p hp
    cases hp

/-- The rule for runs of a new engine. -/
theorem run_invariant {P : Receiver ref -> List (Delivery ref) -> Prop}
    (hkept : KeptByRuns images P) (hfresh : forall i, (images i).Fresh)
    (startMode : StartMode) (rxTimeout txTimeout heartbeat : Nat)
    (calls : List (Call ref))
    (hinit : P (0,
      (newEngine startMode rxTimeout txTimeout heartbeat images).state) []) :
    let e := newEngine startMode rxTimeout txTimeout heartbeat images
    P ((runCalls calls e).inSeq, (runCalls calls e).state)
      (deliveries calls e) :=
  (runCalls_keeps hkept calls
    (newEngine_standing hfresh startMode rxTimeout txTimeout heartbeat)
    hinit).2

theorem metStanding_kept : KeptByRuns images fun _ past =>
    forall d, d ∈ past -> Standing images d.before ∧ Whole d.message where
  attach := fun i r past _ h => h
  send := fun out r past _ h => h
  halt := fun r past _ h => h
  deliver := by
    intro message r past result s hstanding h hwhole _ _ _ d hmem
    rcases List.mem_append.mp hmem with hpast | hnew
    · exact h d hpast
    · cases List.mem_singleton.mp hnew
      exact ⟨hstanding, hwhole⟩

theorem deliveries_standing (hfresh : forall i, (images i).Fresh)
    (startMode : StartMode) (rxTimeout txTimeout heartbeat : Nat)
    (calls : List (Call ref)) :
    forall d, d ∈ deliveries calls
        (newEngine startMode rxTimeout txTimeout heartbeat images) ->
      Standing images d.before ∧ Whole d.message :=
  run_invariant metStanding_kept hfresh startMode rxTimeout txTimeout
    heartbeat calls (by simp)

theorem runCalls_standing (hfresh : forall i, (images i).Fresh)
    (startMode : StartMode) (rxTimeout txTimeout heartbeat : Nat)
    (calls : List (Call ref)) :
    Standing images (runCalls calls
      (newEngine startMode rxTimeout txTimeout heartbeat images)).state :=
  (runCalls_keeps metStanding_kept calls
    (newEngine_standing hfresh startMode rxTimeout txTimeout heartbeat)
    fun d (hmem : d ∈ []) => absurd hmem List.not_mem_nil).1

/-- What every run keeps, it has kept at every delivery. -/
theorem KeptByRuns.history
    {P : Receiver ref -> List (Delivery ref) -> Prop}
    (hkept : KeptByRuns images P) :
    KeptByRuns images fun r past =>
      P r past ∧ forall earlier d later, past = earlier ++ d :: later ->
        P d.1 earlier where
  attach := fun i r past hr h => ⟨hkept.attach i r past hr h.1, h.2⟩
  send := fun out r past hr h => ⟨hkept.send out r past hr h.1, h.2⟩
  halt := fun r past hr h => ⟨hkept.halt r past hr h.1, h.2⟩
  deliver := by
    intro message r past result s hr h hwhole hseq hrun hstep
    refine ⟨hkept.deliver message r past result s hr h.1 hwhole hseq hrun
      hstep, ?_⟩
    intro earlier d later hsplit
    rcases snoc_split hsplit with ⟨_, rfl, rfl⟩ | ⟨later', _, hpast⟩
    · exact h.1
    · exact h.2 earlier d later' hpast

end Invariant

/-!
## Feeding one message at a time
-/

theorem callDeliveries_message {e : IderEngine ref} {message : Bytes}
    (hbuf : e.buf = []) (hrunning : e.state.stopped = false)
    (hwhole : Whole message) (hseq : messageSeq message = e.inSeq) :
    callDeliveries (Call.feed message) e =
      [((e.inSeq, e.state), message)] := by
  have hnext : iderFramer.next message = Next.frame message [] := by
    have hframe := nextMessage_of_length hwhole (Nat.le_refl _)
    rw [List.take_length, List.drop_length] at hframe
    exact hframe
  have hempty : iderFramer.next [] = Next.incomplete := rfl
  rw [callDeliveries, if_neg (by simp [hrunning]), hbuf, List.nil_append,
    consumed_frame iderFramer iderConsumer hnext]
  cases hconsume : iderConsumer.consume message (e.inSeq, e.state) with
  | proceed r => simp only [consumed_incomplete iderFramer iderConsumer hempty]
  | stop r => rfl
  | fail err r => rfl
  | discard err r => exact absurd hseq (consumeMessage_discard hconsume).1

theorem deliveries_attach (i : ref) (calls : List (Call ref))
    (e : IderEngine ref) :
    deliveries (Call.attach i :: calls) e =
      deliveries calls ((runCall (Call.attach i)).run e).2 := rfl

theorem deliveries_message {e : IderEngine ref} {message : Bytes}
    (hbuf : e.buf = []) (hrunning : e.state.stopped = false)
    (hwhole : Whole message) (hseq : messageSeq message = e.inSeq)
    (calls : List (Call ref)) :
    deliveries (Call.feed message :: calls) e =
      ((e.inSeq, e.state), message) ::
        deliveries calls ((runCall (Call.feed message)).run e).2 := by
  rw [deliveries, callDeliveries_message hbuf hrunning hwhole hseq]
  rfl

end Ider
end IntelAmt
