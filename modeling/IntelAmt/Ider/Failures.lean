import IntelAmt.Ider.Sequencing

/-!
# The failures of the engine

Feeding bytes raises for a wrong sequence number, an unknown command id, a
reply that is not accepted, or a call after teardown, and each of these stops
the engine.  The one other failure is READ_CAPACITY for a block count that its
32-bit field cannot tell.
-/

namespace IntelAmt
namespace Ider

open Foundation

variable {ref : Type} [DecidableEq ref]

/-- The failures that the engine documents. -/
inductive Declared : PyError -> Prop where
  | sequenceMismatch (expected got : Nat) :
      Declared (PyError.protocol (.sequenceMismatch expected got))
  | unknownCommand (cmdid : UInt8) :
      Declared (PyError.protocol (.unknownCommand cmdid))
  | openSessionReply (proto readbfr writebfr : Nat) :
      Declared (PyError.protocol (.openSessionReply proto readbfr writebfr))
  | tornDown : Declared (PyError.protocol .tornDown)

def FailsAsDeclared (out : Except PyError Unit × IderEngine ref) : Prop :=
  forall e, out.1 = Except.error e ->
    Declared e ∧ out.2.state.stopped = true

def FeedsFailAsDeclared (calls : List (Call ref)) (start : IderEngine ref) :
    Prop :=
  forall before data after, calls = before ++ Call.feed data :: after ->
    FailsAsDeclared ((feed data).run (runCalls before start))

/-- READ_CAPACITY for an image that is not empty and whose block count is 0 or
above `2 ^ 32`. -/
structure OverflowsCapacity (d : Delivery ref) (i : ref) : Prop where
  cmdid : messageCmdid d.message = cmdCommandWritten
  op : (commandCdb d.message).getD 0 0 = opReadCapacity
  image : d.before.devices (commandDevice (commandFlags d.message)) = some i
  size : (d.before.images i).size ≠ 0
  blocks : ¬ (1 ≤ (d.before.images i).blocks ∧
    (d.before.images i).blocks ≤ 2 ^ 32)

/-!
## One message
-/

theorem Step.raised {images : ref -> MediaImage} {d : Delivery ref}
    {s' : HandlerState ref} {e : PyError}
    (hstanding : Standing images d.before)
    (hstep : Step d.before d.message (Except.error e, s')) :
    Declared e ∧ s'.stopped = true ∨ exists i, OverflowsCapacity d i := by
  cases hstep with
  | refused => exact Or.inl ⟨Declared.openSessionReply _ _ _, rfl⟩
  | command hcmdid hscsi =>
      cases hscsi with
      | capacityOverflow i hop himage hsize hblocks =>
          exact Or.inr ⟨i, hcmdid, hop, himage, hsize, hblocks⟩
  | unwritable p e hcmdid hpending hlength hwrite =>
      rcases hstanding.write_ok hpending hlength with ⟨image, hok⟩
      rw [hok] at hwrite
      cases hwrite

theorem OverflowsCapacity.raises {d : Delivery ref} {i : ref}
    (h : OverflowsCapacity d i) (hwhole : Whole d.message) :
    (dispatch d.message).run d.before =
      (Except.error PyError.struct, d.before) := by
  have hlong := hwhole.command_length h.cmdid
  have hcdb := commandCdb_length hlong
  rw [run_dispatch_command hwhole h.cmdid, run_onCommandWritten hlong,
    handleScsi_readCapacity hcdb h.op, h.image,
    run_scsiReadCapacity_overflow h.size h.blocks]

/-!
## One call
-/

theorem callDeliveries_feed {e : IderEngine ref}
    (hrunning : e.state.stopped = false) (data : Bytes) :
    callDeliveries (Call.feed data) e =
      consumed iderFramer iderConsumer (e.buf ++ data)
        (e.inSeq, e.state) := by
  rw [callDeliveries, if_neg (by simp [hrunning])]

theorem feed_failsAsDeclared {images : ref -> MediaImage}
    {e : IderEngine ref} (data : Bytes)
    (hmet : forall d, d ∈ callDeliveries (Call.feed data) e ->
      Standing images d.before ∧ Whole d.message)
    (hnot : forall d, d ∈ callDeliveries (Call.feed data) e ->
      forall i, ¬ OverflowsCapacity d i) :
    FailsAsDeclared ((feed data).run e) := by
  intro err herror
  rw [run_feed] at herror ⊢
  cases hstopped : e.state.stopped with
  | true =>
      simp only [hstopped, if_true, Except.error.injEq] at herror ⊢
      rw [← herror]
      exact ⟨Declared.tornDown, trivial⟩
  | false =>
      rw [if_neg (by simp [hstopped])] at herror ⊢
      rw [callDeliveries_feed hstopped] at hmet hnot
      have hraised : (e.drained data).verdict = Verdict.raised err := by
        cases hverdict : (e.drained data).verdict with
        | waiting => simp [hverdict, verdictResult] at herror
        | stopped => simp [hverdict, verdictResult] at herror
        | raised err' =>
            rw [hverdict] at herror
            cases herror
            rfl
      show Declared err ∧ (e.drained data).state.2.stopped = true
      rcases drain_raised iderFramer iderConsumer _ _ hraised with
        ⟨cmdid, r, hrefuse⟩ | ⟨message, r, hdiscard⟩ | ⟨d, hmem, hfail⟩
      · have hhalt : (e.drained data).state = r.halt :=
          (congrArg Prod.snd hrefuse).symm
        have herr : PyError.protocol (.unknownCommand cmdid) = err :=
          congrArg Prod.fst hrefuse
        rw [hhalt, ← herr]
        exact ⟨Declared.unknownCommand cmdid, rfl⟩
      · obtain ⟨_, hhalt, rfl⟩ := consumeMessage_discard hdiscard
        rw [IderEngine.drained, hhalt]
        exact ⟨Declared.sequenceMismatch _ _, rfl⟩
      · obtain ⟨_, _, hrun⟩ := consumeMessage_fail hfail
        have hstep : Step (Delivery.before d) (Delivery.message d) _ :=
          dispatch_step (hmet d hmem).1.idle (hmet d hmem).2
        rw [show (dispatch (Delivery.message d)).run (Delivery.before d) = _
          from hrun] at hstep
        rcases hstep.raised (hmet d hmem).1 with hdeclared | ⟨i, hover⟩
        · exact hdeclared
        · exact absurd hover (hnot d hmem i)

theorem feed_of_overflow {e : IderEngine ref} {data : Bytes}
    {d : Delivery ref} {i : ref}
    (hmem : d ∈ callDeliveries (Call.feed data) e)
    (hwhole : Whole d.message) (hover : OverflowsCapacity d i) :
    ((feed data).run e).1 = Except.error PyError.struct := by
  cases hstopped : e.state.stopped with
  | true => simp [callDeliveries, hstopped] at hmem
  | false =>
      rw [callDeliveries_feed hstopped] at hmem
      have hkept := consumed_not_discard iderFramer iderConsumer _ _ d hmem
      have hrun : (dispatch d.2).run d.1.2 = _ := hover.raises hwhole
      have hfail : exists r, iderConsumer.consume d.2 d.1 =
          Consumed.fail PyError.struct r := by
        cases hconsume : iderConsumer.consume d.2 d.1 with
        | proceed r =>
            obtain ⟨_, _, hok, _⟩ := consumeMessage_proceed hconsume
            rw [hrun] at hok
            cases hok
        | stop r =>
            obtain ⟨_, _, hok, _⟩ := consumeMessage_stop hconsume
            rw [hrun] at hok
            cases hok
        | fail err r =>
            obtain ⟨_, _, herror⟩ := consumeMessage_fail hconsume
            have hstruct : PyError.struct = err :=
              Except.error.inj (congrArg Prod.fst (hrun.symm.trans herror))
            exact ⟨r, by rw [hstruct]⟩
        | discard err r => exact absurd hconsume (hkept err r)
      rcases hfail with ⟨r, hfail⟩
      rw [run_feed, if_neg (by simp [hstopped]), IderEngine.drained,
        drain_of_fail iderFramer iderConsumer hfail _ _ hmem]
      rfl

/-!
## Runs
-/

/-- In a run every call of `feed` fails only as declared, with a stopped
engine, exactly if no READ_CAPACITY is processed for a block count of 0 or
above `2 ^ 32` of an image that is not empty. -/
theorem feeds_fail_as_declared_iff {images : ref -> MediaImage}
    (hfresh : forall i, (images i).Fresh) (startMode : StartMode)
    (rxTimeout txTimeout heartbeat : Nat) (calls : List (Call ref)) :
    let start := newEngine startMode rxTimeout txTimeout heartbeat images
    FeedsFailAsDeclared calls start ↔
      forall d, d ∈ deliveries calls start ->
        forall i, ¬ OverflowsCapacity d i := by
  intro start
  have hmet := deliveries_standing hfresh startMode rxTimeout txTimeout
    heartbeat calls
  constructor
  · intro hdeclared d hmem i hover
    rcases mem_deliveries.mp hmem with
      ⟨before, call, after, hsplit, hcall⟩
    cases call with
    | attach j => simp [callDeliveries] at hcall
    | start => simp [callDeliveries] at hcall
    | feed data =>
        have hraises := feed_of_overflow hcall (hmet d hmem).2 hover
        have hstruct := (hdeclared before data after hsplit _ hraises).1
        cases hstruct
  · intro hnot before data after hsplit
    have hbelongs : forall d,
        d ∈ callDeliveries (Call.feed data) (runCalls before start) ->
        d ∈ deliveries calls start := fun d hmem =>
      mem_deliveries.mpr ⟨before, Call.feed data, after, hsplit, hmem⟩
    exact feed_failsAsDeclared data
      (fun d hmem => hmet d (hbelongs d hmem))
      (fun d hmem => hnot d (hbelongs d hmem))

/-- READ_CAPACITY for a floppy of two blocks, and then a message with a wrong
number. -/
theorem feeds_fail_as_declared_iff_whole :
    let image := MediaImage.blank ["boot.img"] DeviceCode.floppy 2 true nofun
    let command := commandMessage 0 0x00 0xA0
      (opReadCapacity :: List.replicate 11 0x00)
    let misnumbered : Bytes := [0x44, 0x00, 0x00, 0x00, 0x07, 0x00, 0x00, 0x00]
    FeedsFailAsDeclared [Call.attach (), Call.feed (command ++ misnumbered)]
      (newEngine .onReboot 30000 0 20000 fun _ : Unit => image) := by
  intro image command misnumbered
  have hfresh : forall i : Unit, ((fun _ => image) i).Fresh :=
    fun _ => MediaImage.blank_fresh ..
  apply (feeds_fail_as_declared_iff hfresh .onReboot 30000 0 20000 _).mpr
  intro d hmem i hover
  have hmedia := (deliveries_standing hfresh .onReboot 30000 0 20000 _ d
    hmem).1.media i
  apply hover.blocks
  rw [hmedia.blocks]
  decide

/-- READ_CAPACITY for a CD/DVD image of one 512-byte sector, which is no whole
block: `struct.error`, and the engine is not stopped. -/
theorem capacity_of_partial_block_raises :
    let image := MediaImage.blank ["boot.iso"] DeviceCode.cdrom 1 false
      fun _ => rfl
    let command := commandMessage 0 0x00 0xB0
      (opReadCapacity :: List.replicate 11 0x00)
    ¬ FeedsFailAsDeclared [Call.attach (), Call.feed command]
      (newEngine .onReboot 30000 0 20000 fun _ : Unit => image) := by
  intro image command hdeclared
  let start : IderEngine Unit :=
    newEngine .onReboot 30000 0 20000 fun _ => image
  let e := runCalls [Call.attach ()] start
  let d : Delivery Unit := ((e.inSeq, e.state), command)
  have hmem : d ∈ callDeliveries (Call.feed command) e := by
    rw [callDeliveries_message rfl rfl (show Whole command from rfl) rfl]
    exact List.mem_singleton_self d
  have hover : OverflowsCapacity d () :=
    ⟨rfl, rfl, by decide, by decide, by decide⟩
  have hraises := feed_of_overflow hmem (show Whole command from rfl) hover
  have hstruct := (hdeclared [Call.attach ()] command [] rfl _ hraises).1
  cases hstruct

end Ider
end IntelAmt
