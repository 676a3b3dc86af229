import IntelAmt.Ider.ReadFrames
import IntelAmt.Ider.Sequencing
import IntelAmt.IderServer.Listening

/-!
# What the engine answers

To a message of the server the engine answers with sayings, once it has
accepted the session; to the first message, which opens it, it answers with the
feature toggle.  `Attending` is what every message keeps.
-/

namespace IntelAmt
namespace IderServer

open Foundation Ider

variable {ref : Type}

/-!
## Sayings
-/

/-- From one state to the next the frames of the sayings were sent, and the
server can hear each of them. -/
structure Says (s s' : HandlerState ref) (sayings : List Saying) : Prop where
  sends : Sends s s' (sayings.map Saying.outbound)
  fits : forall saying, saying ∈ sayings -> saying.Fits

theorem says_nothing {s s' : HandlerState ref} (h : Sends s s' []) :
    Says s s' [] := ⟨h, by simp⟩

theorem says_one {s s' : HandlerState ref} {saying : Saying}
    (h : Sends s s' [saying.outbound]) (hfits : saying.Fits) :
    Says s s' [saying] :=
  ⟨h, fun _ hmem => List.mem_singleton.mp hmem ▸ hfits⟩

theorem sayings_of_outs (outs : List Outbound)
    (h : forall out, out ∈ outs ->
      exists saying : Saying, saying.outbound = out ∧ saying.Fits) :
    exists sayings : List Saying, sayings.map Saying.outbound = outs ∧
      forall saying, saying ∈ sayings -> saying.Fits := by
  induction outs with
  | nil => exact ⟨[], rfl, by simp⟩
  | cons out outs ih =>
      rcases h out List.mem_cons_self with ⟨saying, hsaying, hfits⟩
      rcases ih fun other hmem => h other (List.mem_cons_of_mem _ hmem) with
        ⟨sayings, hsayings, hall⟩
      refine ⟨saying :: sayings, by rw [List.map_cons, hsaying, hsayings], ?_⟩
      intro other hmem
      rcases List.mem_cons.mp hmem with rfl | hrest
      · exact hfits
      · exact hall other hrest

theorem numbered_append {seq : Nat} (hseq : seq < 2 ^ 32)
    (outs more : List Outbound) :
    numbered seq (outs ++ more) =
      numbered seq outs ++ numbered ((seq + outs.length) % 2 ^ 32) more := by
  induction outs generalizing seq with
  | nil =>
      rw [List.length_nil, Nat.add_zero, Nat.mod_eq_of_lt hseq]
      rfl
  | cons out outs ih =>
      rw [List.cons_append, numbered, ih (Nat.mod_lt _ (Nat.two_pow_pos 32)),
        numbered, List.cons_append, List.length_cons, Nat.mod_add_mod,
        Nat.add_right_comm, Nat.add_assoc]

/-!
## One message
-/

section Messages

variable [DecidableEq ref] {s s' : HandlerState ref}

theorem scsiStep_says {device : DeviceCode} {cdb : Bytes} {flags : UInt8}
    {result : Except PyError Unit}
    (hstep : ScsiStep s device cdb flags (result, s'))
    (hread : s.sessionInfo.readbfr ≠ 0)
    (hmax : s.sessionInfo.readbfr ≤ maxReadWriteBuffer) :
    exists sayings, Says s s' sayings := by
  cases hstep with
  | status error sense asc asq =>
      exact ⟨[.status error sense device.code asc asq],
        says_one (sends_send _ _) trivial⟩
  | attention i =>
      exact ⟨[.status true 0x06 device.code 0x28 0x00],
        says_one (sends_send (s.setImage i _) _) trivial⟩
  | data payload dma hcanned hsmall =>
      exact ⟨[.data device.code true payload dma],
        says_one (sends_send _ _) (Nat.lt_trans hsmall (by decide))⟩
  | capacity i payload dma hop himage hsize hblocks hlength =>
      refine ⟨[.data flags true payload dma],
        says_one (sends_send _ _) ?_⟩
      rw [Saying.Fits, hlength]
      decide
  | capacityOverflow => exact ⟨[], says_nothing (sends_nil _)⟩
  | silent => exact ⟨[], says_nothing (sends_nil _)⟩
  | transfer i lba length dma outs image hextent himage hbound hpos
      htransfer =>
      rcases sayings_of_outs outs (by
        intro out hmem
        rcases htransfer.frames out hmem with
          hcut | ⟨completed, data, _, hchunk, hout⟩
        · exact ⟨.status false 0x03 device.code 0x11 0x00, hcut.symm, trivial⟩
        · refine ⟨.data device.code completed data dma, hout.symm, ?_⟩
          rw [ReadRequest.chunkSize, if_pos hread] at hchunk
          have hbuffer : maxReadWriteBuffer < 2 ^ 16 := by decide
          have hle := Nat.le_trans hchunk (Nat.min_le_right _ _)
          show data.length < 2 ^ 16
          lia) with ⟨sayings, hsayings, hfits⟩
      refine ⟨sayings, ?_, hfits⟩
      rw [hsayings]
      exact sends_sendAll (s.setImage i image) outs
  | accepted i lba length =>
      exact ⟨[.request device.code (512 * length)],
        says_one (sends_send { s with
          pendingWrite := some (writeRecord device i lba length) } _) trivial⟩

/-- Every message of an open session is answered with sayings. -/
theorem step_says {message : Bytes} {result : Except PyError Unit}
    (hstep : Step s message (result, s'))
    (hcmdid : messageCmdid message ≠ cmdOpenSessionReply)
    (hstatus : messageCmdid message = cmdStatusData ->
      message.getD 8 0 = 3)
    (hread : s.sessionInfo.readbfr ≠ 0)
    (hmax : s.sessionInfo.readbfr ≤ maxReadWriteBuffer) :
    exists sayings, Says s s' sayings := by
  have hquiet : Sends s s' [] -> exists sayings, Says s s' sayings :=
    fun h => ⟨[], says_nothing h⟩
  cases hstep with
  | opened hreply => exact absurd hreply hcmdid
  | refused hreply => exact absurd hreply hcmdid
  | closed => exact hquiet (sends_nil s)
  | pinged => exact ⟨[.pong], says_one (sends_send _ _) trivial⟩
  | available hdata htype =>
      exact absurd (htype.symm.trans (hstatus hdata)) (by decide)
  | engaged => exact hquiet (sends_nil s)
  | toggled => exact hquiet (sends_nil s)
  | reset => exact ⟨[.resetDone], says_one (sends_send _ _) trivial⟩
  | errorSeen => exact hquiet (sends_nil s)
  | ignored => exact hquiet (sends_nil s)
  | command _ hscsi => exact scsiStep_says hscsi hread hmax
  | unsolicited =>
      exact ⟨[.status false 0x05 DeviceCode.floppy.code 0x20 0x00],
        says_one (sends_send _ _) trivial⟩
  | overrun p =>
      exact ⟨[.status false 0x05 p.device.code 0x21 0x00],
        says_one (sends_send { s with pendingWrite := none } _) trivial⟩
  | unwritable => exact hquiet (sends_nil s)
  | stored p => exact hquiet (sends_wrote (sends_nil _))
  | completed p image =>
      exact ⟨[.status false 0x00 p.device.code 0x00 0x00],
        says_one (sends_wrote (sends_send _ _)) trivial⟩

theorem step_startMode {message : Bytes} {result : Except PyError Unit}
    (hstep : Step s message (result, s')) : s'.startMode = s.startMode := by
  cases hstep with
  | command _ hscsi =>
      cases hscsi with
      | transfer =>
          exact HandlerState.sendAll_keeps
            (f := fun t : HandlerState ref => t.startMode) _ _ fun _ _ => rfl
      | _ => rfl
  | _ => rfl

/-- READ CAPACITY can give the number of the last block. -/
def Countable (image : MediaImage) : Prop :=
  1 ≤ image.blocks ∧ image.blocks ≤ 2 ^ 32

/-- A message of an open session fails only when the last block of an image
has no number that can be sent. -/
theorem step_result {images : ref -> MediaImage} {message : Bytes}
    {result : Except PyError Unit} (hstanding : Standing images s)
    (hstep : Step s message (result, s'))
    (hcmdid : messageCmdid message ≠ cmdOpenSessionReply) :
    result = Except.ok () ∨
      result = Except.error PyError.struct ∧
        exists i, ¬ Countable (images i) := by
  cases hstep with
  | refused hreply => exact absurd hreply hcmdid
  | command _ hscsi =>
      cases hscsi with
      | capacityOverflow i hop himage hsize hblocks =>
          refine Or.inr ⟨rfl, i, ?_⟩
          rw [Countable, ← (hstanding.media i).blocks]
          exact hblocks
      | _ => exact Or.inl rfl
  | unwritable p e _ hpending hlength hwrite =>
      rcases hstanding.write_ok hpending hlength with ⟨image, hok⟩
      rw [hok] at hwrite
      cases hwrite
  | _ => exact Or.inl rfl

end Messages

/-!
## What every message keeps
-/

/-- The engine accepts the session, reads have a bound, and the verdict on the
toggle can be sent. -/
structure ServerConfig.Acceptable (config : ServerConfig) : Prop where
  valid : (opening config).Valid
  bounded : config.readbfr ≠ 0
  status : forall status, config.featureToggleStatus = some status ->
    status < 2 ^ 32

theorem ServerConfig.Acceptable.fits {config : ServerConfig}
    (h : config.Acceptable) : config.Fits := by
  have hmax : maxReadWriteBuffer < 2 ^ 16 := by decide
  rcases h.valid with ⟨hproto, hread, hwrite⟩
  refine ⟨Nat.lt_of_le_of_lt hread hmax, Nat.lt_of_le_of_lt hwrite hmax, ?_,
    h.status⟩
  have hzero : config.proto = 0 := hproto
  rw [hzero]
  decide

/-- The frames of an engine that began as `h` and has accepted nothing yet, or
that has accepted the session. -/
inductive Spoken (h : HandlerState ref) : List Bytes -> List Saying -> Prop
  where
  | opening : Spoken h (numbered 0 [openSession h]) []
  | session (sayings : List Saying)
      (hfits : forall saying, saying ∈ sayings -> saying.Fits) :
      Spoken h (numbered 0 (spoken h sayings)) sayings

section Attending

variable [DecidableEq ref]

/-- The receive state behind the first `n` messages of the server. -/
structure Attending (images : ref -> MediaImage) (config : ServerConfig)
    (h : HandlerState ref) (r : Receiver ref) (n : Nat) : Prop where
  count : r.1 = n % 2 ^ 32
  standing : Standing images r.2
  numbers : Numbered r.2
  startMode : r.2.startMode = h.startMode
  fresh : n = 0 -> sentFrames r.2.trace = numbered 0 [openSession h]
  accepted : n ≠ 0 -> r.2.sessionInfo = opening config ∧
    exists sayings, sentFrames r.2.trace = numbered 0 (spoken h sayings) ∧
      forall saying, saying ∈ sayings -> saying.Fits

variable {images : ref -> MediaImage} {config : ServerConfig}
variable {h : HandlerState ref} {r : Receiver ref} {n : Nat}

omit [DecidableEq ref] in
theorem Attending.frames (hr : Attending images config h r n) :
    exists sayings, Spoken h (sentFrames r.2.trace) sayings := by
  by_cases hn : n = 0
  · rw [hr.fresh hn]
    exact ⟨[], Spoken.opening⟩
  · rcases (hr.accepted hn).2 with ⟨sayings, hframes, hfits⟩
    rw [hframes]
    exact ⟨sayings, Spoken.session sayings hfits⟩

omit [DecidableEq ref] in
theorem Attending.says {s : HandlerState ref} {sayings more : List Saying}
    (hr : Attending images config h r n)
    (hframes : sentFrames r.2.trace = numbered 0 (spoken h sayings))
    (hsaid : Says r.2 s more) :
    sentFrames s.trace = numbered 0 (spoken h (sayings ++ more)) := by
  have hnext := hr.numbers.next
  rw [hframes, numbered_length] at hnext
  have hsplit : spoken h (sayings ++ more) =
      spoken h sayings ++ more.map Saying.outbound := by
    simp [spoken]
  rw [hsaid.sends, hframes, hnext, hsplit,
    numbered_append (Nat.two_pow_pos 32), Nat.zero_add]

theorem step_open {s : HandlerState ref} (hconfig : config.Acceptable)
    {message : Bytes} (hcmdid : messageCmdid message = cmdOpenSessionReply)
    (hannounced : announced message = opening config)
    {out : Except PyError Unit × HandlerState ref}
    (hstep : Step s message out) :
    out = (Except.ok (),
      { s with sessionInfo := opening config, sessionOpen := true }.send
        (featureToggle s.startMode)) := by
  have hother : forall {cmdid : UInt8}, messageCmdid message = cmdid ->
      cmdid ≠ cmdOpenSessionReply -> False :=
    fun hc hne => hne (hc.symm.trans hcmdid)
  cases hstep with
  | opened => rw [hannounced]
  | refused _ hinvalid =>
      rw [hannounced] at hinvalid
      exact absurd hconfig.valid hinvalid
  | ignored hnot => exact absurd (by simp [hcmdid]) hnot
  | closed hc | pinged hc | available hc | engaged hc | toggled hc | reset hc
  | errorSeen hc | command hc | unsolicited hc | overrun _ hc
  | unwritable _ _ hc | stored _ _ hc | completed _ _ hc =>
      exact (hother hc (by decide)).elim

omit [DecidableEq ref] in
theorem Attending.toggles (hr : Attending images config h r 0) :
    sentFrames (HandlerState.send
      { r.2 with sessionInfo := opening config, sessionOpen := true }
      (featureToggle r.2.startMode)).trace = numbered 0 (spoken h []) := by
  have hframes := hr.fresh rfl
  have hnext := hr.numbers.next
  rw [hframes, numbered_length] at hnext
  rw [sentFrames_send, hr.startMode]
  show sentFrames r.2.trace ++ [(featureToggle h.startMode).frame
    r.2.outSeq] = _
  rw [hframes, hnext]
  rfl

/-- One more message of the server: the engine goes on attending, and what it
raises can only be for an image whose last block has no number. -/
theorem Attending.step (hr : Attending images config h r n)
    (hconfig : config.Acceptable) {message : Bytes}
    (hframed : Framed config n message) {result : Except PyError Unit}
    {s : HandlerState ref} (hstep : Step r.2 message (result, s)) :
    Attending images config h ((r.1 + 1) % 2 ^ 32, s) (n + 1) ∧
      (result = Except.ok () ∨
        result = Except.error PyError.struct ∧
          exists i, ¬ Countable (images i)) := by
  have hcount : (r.1 + 1) % 2 ^ 32 = (n + 1) % 2 ^ 32 := by
    rw [hr.count, Nat.mod_add_mod]
  have hmode : s.startMode = h.startMode :=
    (step_startMode hstep).trans hr.startMode
  suffices haccepted : s.sessionInfo = opening config ∧
      (exists sayings,
        sentFrames s.trace = numbered 0 (spoken h sayings) ∧
          forall saying, saying ∈ sayings -> saying.Fits) ∧
      (result = Except.ok () ∨
        result = Except.error PyError.struct ∧
          exists i, ¬ Countable (images i)) from
    ⟨{ count := hcount
       standing := hr.standing.step hstep
       numbers := hr.numbers.step hstep
       startMode := hmode
       fresh := fun hzero => absurd hzero (Nat.succ_ne_zero n)
       accepted := fun _ => ⟨haccepted.1, haccepted.2.1⟩ },
      haccepted.2.2⟩
  by_cases hn : n = 0
  · subst hn
    rcases hframed.first rfl with ⟨hcmdid, hannounced⟩
    cases step_open hconfig hcmdid hannounced hstep
    exact ⟨rfl, ⟨[], hr.toggles, by simp⟩, Or.inl rfl⟩
  · rcases hframed.later hn with ⟨hcmdid, hstatus⟩
    rcases hr.accepted hn with ⟨hinfo, sayings, hframes, hfits⟩
    have hread : r.2.sessionInfo.readbfr = config.readbfr := by
      rw [hinfo]
      rfl
    rcases step_says hstep hcmdid hstatus
      (by rw [hread]; exact hconfig.bounded)
      (by rw [hread]; exact hconfig.valid.2.1) with ⟨more, hsaid⟩
    refine ⟨?_, ⟨sayings ++ more, hr.says hframes hsaid, ?_⟩,
      step_result hr.standing hstep hcmdid⟩
    · rw [hstep.sessionInfo, if_neg fun h => hcmdid h.1, hinfo]
    · intro saying hmem
      rcases List.mem_append.mp hmem with hold | hnew
      · exact hfits saying hold
      · exact hsaid.fits saying hnew

/-- The messages up to number `total` are what the engine takes in order. -/
def Ahead (images : ref -> MediaImage) (config : ServerConfig)
    (h : HandlerState ref) (total : Nat) (r : Receiver ref)
    (messages : List Bytes) : Prop :=
  exists n, Attending images config h r n ∧ n + messages.length = total ∧
    forall k message, messages[k]? = some message ->
      Framed config (n + k) message

theorem Attending.consume (hr : Attending images config h r n)
    (hconfig : config.Acceptable) {message : Bytes}
    (hframed : Framed config n message) :
    (forall e r', iderConsumer.consume message r ≠ Consumed.discard e r') ∧
      Attending images config h (iderConsumer.consume message r).final
        (n + 1) ∧
      forall e r', iderConsumer.consume message r = Consumed.fail e r' ->
        e = PyError.struct ∧ exists i, ¬ Countable (images i) := by
  have htaken : forall e r',
      consumeMessage message r ≠ Consumed.discard e r' := by
    intro e r' hdiscard
    have hseq : messageSeq message ≠ r.1 :=
      (consumeMessage_discard hdiscard).1
    rw [hframed.seq, hr.count, Nat.mod_eq_of_lt hframed.numbered] at hseq
    exact hseq rfl
  have hstep := dispatch_step hr.standing.idle hframed.whole
  have hfinal : (iderConsumer.consume message r).final =
      ((r.1 + 1) % 2 ^ 32, ((dispatch message).run r.2).2) :=
    (consumeMessage_final htaken).2
  rw [hfinal]
  generalize hrun : (dispatch message).run r.2 = out at hstep ⊢
  rcases out with ⟨result, s⟩
  rcases hr.step hconfig hframed hstep with ⟨hnext, hresult⟩
  refine ⟨htaken, hnext, ?_⟩
  intro e r' hfail
  have hraised := (consumeMessage_fail hfail).2.2
  rw [hrun] at hraised
  rcases hresult with hok | ⟨hstruct, hi⟩
  · rw [hok] at hraised
    cases hraised
  · rw [hstruct] at hraised
    cases hraised
    exact ⟨rfl, hi⟩

theorem ahead_orderly (images : ref -> MediaImage)
    {config : ServerConfig} (hconfig : config.Acceptable)
    (h : HandlerState ref) (total : Nat) :
    Orderly iderFramer iderConsumer (Ahead images config h total) where
  whole := by
    intro r message messages hahead
    rcases hahead with ⟨n, _, _, hframed⟩
    exact framer_whole (hframed 0 message rfl).whole
  taken := by
    intro r message messages hahead
    rcases hahead with ⟨n, hr, _, hframed⟩
    exact (hr.consume hconfig (hframed 0 message rfl)).1
  next := by
    intro r message messages hahead
    rcases hahead with ⟨n, hr, htotal, hframed⟩
    refine ⟨n + 1, (hr.consume hconfig (hframed 0 message rfl)).2.1, ?_, ?_⟩
    · rw [← htotal, List.length_cons]
      lia
    · intro k message' hk
      rw [Nat.add_assoc, Nat.add_comm 1 k]
      exact hframed (k + 1) message' hk

/-- Of bytes that begin with another number no message is taken. -/
theorem turned_of_number {noise : Bytes} {r : Receiver ref}
    (h : noise ≠ [] -> 8 ≤ noise.length ∧ messageSeq noise ≠ r.1) :
    Turned iderFramer iderConsumer noise r := by
  intro buffer later message rest hstream hnext
  have hwhole : Whole message := nextMessage_whole hnext
  have hlength := hwhole.length_ge
  have hsplit := iderFramer.frame_split hnext
  rw [hsplit, List.append_assoc] at hstream
  have hseq : messageSeq noise = messageSeq message := by
    rw [← hstream, messageSeq, slice_append_left (by lia)]
    rfl
  have hne : noise ≠ [] := by
    intro hnone
    rw [hnone] at hstream
    have hempty := (List.append_eq_nil_iff.mp hstream).1
    rw [hempty] at hlength
    cases hlength
  have hother := (h hne).2
  rw [hseq] at hother
  exact ⟨_, _, if_pos hother⟩

end Attending

end IderServer
end IntelAmt
