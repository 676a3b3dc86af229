import IntelAmt.Ider.Runs

/-!
# Sequence discipline

Both counters run modulo `2 ^ 32` over a whole run: the messages processed
carry successive numbers, and so do the frames sent, whatever caused them.  A
message with another number stops the engine, and a stopped engine does
nothing.
-/

namespace IntelAmt
namespace Ider

open Foundation

variable {ref : Type}

/-- The frames carry the numbers `0`, `1`, `2`, … modulo `2 ^ 32`, and the
counter holds the next one. -/
structure Numbered (s : HandlerState ref) : Prop where
  next : s.outSeq = (sentFrames s.trace).length % 2 ^ 32
  frames : forall k frame, (sentFrames s.trace)[k]? = some frame ->
    frameSeq frame = k % 2 ^ 32

namespace Numbered

variable {s s' : HandlerState ref}

theorem congr (h : Numbered s) (hseq : s'.outSeq = s.outSeq)
    (hframes : sentFrames s'.trace = sentFrames s.trace) : Numbered s' where
  next := by rw [hseq, hframes, h.next]
  frames := by
    rw [hframes]
    exact h.frames

theorem send (h : Numbered s) (out : Outbound) : Numbered (s.send out) where
  next := by
    show (s.outSeq + 1) % 2 ^ 32 =
      (sentFrames (s.trace ++ [Effect.sent (out.frame s.outSeq)])).length %
        2 ^ 32
    rw [sentFrames_append, sentFrames_sent, List.length_append,
      List.length_singleton, h.next, Nat.mod_add_mod]
  frames := by
    intro k frame hk
    have hk' : (sentFrames s.trace ++ [out.frame s.outSeq])[k]? =
        some frame := by
      simpa [HandlerState.send] using hk
    rcases Nat.lt_trichotomy k (sentFrames s.trace).length with
      hlt | heq | hgt
    · rw [List.getElem?_append_left hlt] at hk'
      exact h.frames k frame hk'
    · subst heq
      rw [List.getElem?_concat_length] at hk'
      cases hk'
      rw [frameSeq_frame, h.next, Nat.mod_mod]
    · rw [List.getElem?_eq_none (by simp; lia)] at hk'
      cases hk'

theorem sendAll (h : Numbered s) (outs : List Outbound) :
    Numbered (s.sendAll outs) := by
  induction outs generalizing s with
  | nil => exact h
  | cons out outs ih => exact ih (h.send out)

variable [DecidableEq ref]

theorem scsiStep (h : Numbered s) {device : DeviceCode} {cdb : Bytes}
    {flags : UInt8} {result : Except PyError Unit}
    (hstep : ScsiStep s device cdb flags (result, s')) : Numbered s' := by
  cases hstep with
  | status => exact h.send _
  | attention i =>
      apply Numbered.send
      exact h.congr rfl rfl
  | data => exact h.send _
  | capacity => exact h.send _
  | capacityOverflow => exact h
  | silent => exact h
  | transfer =>
      apply Numbered.sendAll
      exact h.congr rfl rfl
  | accepted =>
      apply Numbered.send
      exact h.congr rfl rfl

theorem step (h : Numbered s) {message : Bytes}
    {result : Except PyError Unit}
    (hstep : Step s message (result, s')) : Numbered s' := by
  cases hstep with
  | opened =>
      apply Numbered.send
      exact h.congr rfl rfl
  | refused => exact h.congr rfl rfl
  | closed => exact h.congr rfl rfl
  | pinged => exact h.send _
  | available => exact h.send _
  | engaged => exact h.congr rfl rfl
  | toggled => exact h.congr rfl rfl
  | reset => exact h.send _
  | errorSeen => exact h.congr rfl rfl
  | ignored => exact h
  | command hcmdid hscsi => exact h.scsiStep hscsi
  | unsolicited => exact h.send _
  | overrun =>
      apply Numbered.send
      exact h.congr rfl rfl
  | unwritable => exact h
  | stored => exact h.congr rfl (by simp)
  | completed =>
      apply Numbered.send
      exact h.congr rfl (by simp)

end Numbered

/-!
## Numbers over a run
-/

section Numbers

variable [DecidableEq ref] {images : ref -> MediaImage}

/-- What the counters say about the deliveries and the frames so far. -/
structure Counted (r : Receiver ref) (past : List (Delivery ref)) :
    Prop where
  next : r.1 = past.length % 2 ^ 32
  messages : forall k d, past[k]? = some d ->
    messageSeq d.message = k % 2 ^ 32
  numbered : Numbered r.2

theorem counted_kept : KeptByRuns images Counted where
  attach := fun i r past _ h => ⟨h.next, h.messages, h.numbered.congr rfl rfl⟩
  send := fun out r past _ h => ⟨h.next, h.messages, h.numbered.send out⟩
  halt := fun r past _ h => ⟨h.next, h.messages, h.numbered.congr rfl rfl⟩
  deliver := by
    intro message r past result s _ h _ hseq _ hstep
    refine ⟨?_, ?_, h.numbered.step hstep⟩
    · rw [List.length_append, List.length_singleton, h.next, Nat.mod_add_mod]
    · intro k d hk
      rcases Nat.lt_trichotomy k past.length with hlt | heq | hgt
      · rw [List.getElem?_append_left hlt] at hk
        exact h.messages k d hk
      · subst heq
        rw [List.getElem?_concat_length] at hk
        cases hk
        rw [← h.next]
        exact hseq
      · rw [List.getElem?_eq_none (by simp; lia)] at hk
        cases hk

omit [DecidableEq ref] in
theorem newEngine_counted (startMode : StartMode)
    (rxTimeout txTimeout heartbeat : Nat) :
    Counted
      (0, (newEngine startMode rxTimeout txTimeout heartbeat images).state)
      [] where
  next := rfl
  messages := by
    intro k d hk
    simp at hk
  numbered :=
    { next := rfl
      frames := by
        intro k frame hk
        simp [newEngine] at hk }

end Numbers

/-!
## Stopping
-/

section Stopping

variable [DecidableEq ref]

/-- A CLOSE, or a reply that announces a session the engine will not serve. -/
def Closing (message : Bytes) : Prop :=
  messageCmdid message = cmdClose ∨
    messageCmdid message = cmdOpenSessionReply ∧ ¬ (announced message).Valid

theorem Step.stopped_mono {s s' : HandlerState ref} {message : Bytes}
    {result : Except PyError Unit} (hstep : Step s message (result, s'))
    (h : s.stopped = true) : s'.stopped = true := by
  cases hstep with
  | refused => rfl
  | closed => rfl
  | command hcmdid hscsi =>
      cases hscsi with
      | transfer => rw [HandlerState.sendAll_stopped]; exact h
      | status => exact h
      | attention => exact h
      | data => exact h
      | capacity => exact h
      | capacityOverflow => exact h
      | silent => exact h
      | accepted => exact h
  | opened => exact h
  | pinged => exact h
  | available => exact h
  | engaged => exact h
  | toggled => exact h
  | reset => exact h
  | errorSeen => exact h
  | ignored => exact h
  | unsolicited => exact h
  | overrun => exact h
  | unwritable => exact h
  | stored => exact h
  | completed => exact h

theorem Step.closing {s s' : HandlerState ref} {message : Bytes}
    {result : Except PyError Unit} (hstep : Step s message (result, s'))
    (h : Closing message) : s'.stopped = true := by
  have hmember : messageCmdid message ∈ [cmdClose, cmdOpenSessionReply] := by
    rcases h with hclose | ⟨hreply, _⟩
    · simp [hclose]
    · simp [hreply]
  have hother : forall {cmdid : UInt8}, messageCmdid message = cmdid ->
      cmdid ∉ [cmdClose, cmdOpenSessionReply] -> s'.stopped = true := by
    intro cmdid hcmdid hnot
    rw [hcmdid] at hmember
    exact absurd hmember hnot
  cases hstep with
  | refused => rfl
  | closed => rfl
  | opened hcmdid hvalid =>
      rcases h with hclose | ⟨_, hinvalid⟩
      · exact absurd (hclose.symm.trans hcmdid) (by decide)
      · exact absurd hvalid hinvalid
  | ignored hcmdid =>
      rcases h with hclose | ⟨hreply, _⟩
      · exact absurd (by simp [hclose]) hcmdid
      · exact absurd (by simp [hreply]) hcmdid
  | pinged hcmdid => exact hother hcmdid (by decide)
  | available hcmdid => exact hother hcmdid (by decide)
  | engaged hcmdid => exact hother hcmdid (by decide)
  | toggled hcmdid => exact hother hcmdid (by decide)
  | reset hcmdid => exact hother hcmdid (by decide)
  | errorSeen hcmdid => exact hother hcmdid (by decide)
  | command hcmdid => exact hother hcmdid (by decide)
  | unsolicited hcmdid => exact hother hcmdid (by decide)
  | overrun p hcmdid => exact hother hcmdid (by decide)
  | unwritable p e hcmdid => exact hother hcmdid (by decide)
  | stored p image hcmdid => exact hother hcmdid (by decide)
  | completed p image hcmdid => exact hother hcmdid (by decide)

theorem closed_kept {images : ref -> MediaImage} :
    KeptByRuns images fun r past =>
      forall d, d ∈ past -> Closing d.message -> r.2.stopped = true where
  attach := fun i r past _ h => h
  send := fun out r past _ h => h
  halt := fun r past _ h d hmem hclosing => rfl
  deliver := by
    intro message r past result s _ h _ _ _ hstep d hmem hclosing
    rcases List.mem_append.mp hmem with hpast | hnew
    · exact hstep.stopped_mono (h d hpast hclosing)
    · cases List.mem_singleton.mp hnew
      exact hstep.closing hclosing

theorem consumed_running (buf : Bytes) {r : Receiver ref}
    (hrunning : r.2.stopped = false) :
    forall d, d ∈ consumed iderFramer iderConsumer buf r ->
      (Delivery.before d).stopped = false := by
  induction buf using buffer_induction iderFramer generalizing r with
  | incomplete buf hnext =>
      rw [consumed_incomplete iderFramer iderConsumer hnext]
      simp
  | reject buf cmdid hnext =>
      rw [consumed_reject iderFramer iderConsumer hnext]
      simp
  | frame buf message rest hnext ih =>
      rw [consumed_frame iderFramer iderConsumer hnext]
      cases hconsume : iderConsumer.consume message r with
      | proceed r' =>
          intro d hmem
          rcases List.mem_cons.mp hmem with rfl | hmem
          · exact hrunning
          · exact ih (consumeMessage_proceed hconsume).2.2.2 d hmem
      | stop r' =>
          intro d hmem
          cases List.mem_singleton.mp hmem
          exact hrunning
      | fail e r' =>
          intro d hmem
          cases List.mem_singleton.mp hmem
          exact hrunning
      | discard e r' => simp

theorem deliveries_running (calls : List (Call ref)) (e : IderEngine ref) :
    forall d, d ∈ deliveries calls e -> (Delivery.before d).stopped = false := by
  induction calls generalizing e with
  | nil => simp [deliveries]
  | cons call calls ih =>
      intro d hmem
      rw [deliveries] at hmem
      rcases List.mem_append.mp hmem with hfirst | hrest
      · cases call with
        | attach i => simp [callDeliveries] at hfirst
        | start => simp [callDeliveries] at hfirst
        | feed data =>
            rw [callDeliveries] at hfirst
            cases hstopped : e.state.stopped with
            | true => simp [hstopped] at hfirst
            | false =>
                rw [if_neg (by simp [hstopped])] at hfirst
                exact consumed_running (r := (e.inSeq, e.state)) _ hstopped d
                  hfirst
      · exact ih _ d hrest

/-- The state that the last of some deliveries has left. -/
def stateAfter (s : HandlerState ref) (past : List (Delivery ref)) :
    HandlerState ref :=
  match past.getLast? with
  | none => s
  | some d => d.after

theorem resumed_state {r : Receiver ref} {past : List (Delivery ref)}
    (h : forall d, d ∈ past -> forall e r',
      consumeMessage d.2 d.1 ≠ Consumed.discard e r') :
    (resumed iderConsumer r past).2 = stateAfter r.2 past := by
  unfold resumed stateAfter
  cases hlast : past.getLast? with
  | none => rfl
  | some d =>
      have hmem := List.mem_of_getLast? hlast
      exact congrArg Prod.snd (consumeMessage_final (h d hmem)).2

theorem proceeded {d : Delivery ref}
    (hkept : forall e r', consumeMessage d.2 d.1 ≠ Consumed.discard e r')
    (hok : d.outcome = Except.ok ()) (hrunning : d.after.stopped = false) :
    exists r', iderConsumer.consume d.2 d.1 = Consumed.proceed r' := by
  cases hconsume : iderConsumer.consume d.2 d.1 with
  | proceed r' => exact ⟨r', rfl⟩
  | stop r' =>
      obtain ⟨_, _, hrun, hstopped⟩ := consumeMessage_stop hconsume
      have hafter : d.after = r'.2 := congrArg Prod.snd hrun
      rw [hafter, hstopped] at hrunning
      cases hrunning
  | fail e r' =>
      obtain ⟨_, _, hrun⟩ := consumeMessage_fail hconsume
      have hfailed : d.outcome = Except.error e := congrArg Prod.fst hrun
      rw [hfailed] at hok
      cases hok
  | discard e r' => exact absurd hconsume (hkept e r')

/-- A drain that consumes nothing leaves the state as it is, or stops the
engine; at a complete message it can only be the number that is wrong, and an
unknown id it refuses. -/
theorem drain_of_unconsumed {tail : Bytes} {r : Receiver ref}
    (h : consumed iderFramer iderConsumer tail r = []) :
    ((drain iderFramer iderConsumer tail r).state = r ∨
      (drain iderFramer iderConsumer tail r).state = r.halt) ∧
    (forall message rest, nextMessage tail = Next.frame message rest ->
      messageSeq message ≠ r.1 ∧
        drain iderFramer iderConsumer tail r =
          ⟨Verdict.raised (PyError.protocol
            (.sequenceMismatch r.1 (messageSeq message))), r.halt, []⟩) ∧
    forall cmdid, nextMessage tail = Next.reject cmdid ->
      drain iderFramer iderConsumer tail r =
        ⟨Verdict.raised (PyError.protocol (.unknownCommand cmdid)), r.halt,
          []⟩ := by
  cases hnext : iderFramer.next tail with
  | incomplete =>
      rw [drain_incomplete iderFramer iderConsumer hnext]
      refine ⟨Or.inl rfl, ?_, ?_⟩
      · intro message rest hframe
        cases hframe.symm.trans hnext
      · intro cmdid hreject
        cases hreject.symm.trans hnext
  | reject cmdid =>
      rw [drain_reject iderFramer iderConsumer hnext]
      refine ⟨Or.inr rfl, ?_, ?_⟩
      · intro message rest hframe
        cases hframe.symm.trans hnext
      · intro cmdid' hreject
        cases hreject.symm.trans hnext
        rfl
  | frame message rest =>
      rw [consumed_frame iderFramer iderConsumer hnext] at h
      rw [drain_frame iderFramer iderConsumer hnext]
      cases hconsume : iderConsumer.consume message r with
      | proceed r' => simp [hconsume] at h
      | stop r' => simp [hconsume] at h
      | fail e r' => simp [hconsume] at h
      | discard e r' =>
          obtain ⟨hseq, rfl, rfl⟩ := consumeMessage_discard hconsume
          refine ⟨Or.inr rfl, ?_, ?_⟩
          · intro message' rest' hframe
            cases hframe.symm.trans hnext
            exact ⟨hseq, rfl⟩
          · intro cmdid hreject
            cases hreject.symm.trans hnext

/-- Every byte fed is accounted for: processed messages, and a tail.  When no
message ended the call, a complete message at the front of the tail had the
wrong number, and that or an unknown id there has done nothing but stop the
engine. -/
theorem feed_account {e : IderEngine ref} (hrunning : e.state.stopped = false)
    (data : Bytes) :
    let new := callDeliveries (Call.feed data) e
    let out := (feed data).run e
    let last := stateAfter e.state new
    exists tail,
      e.buf ++ data = (new.map Delivery.message).flatten ++ tail ∧
      (out.2.state = last ∨ out.2.state = { last with stopped := true }) ∧
      ((forall d, d ∈ new ->
          d.outcome = Except.ok () ∧ d.after.stopped = false) ->
        (forall message rest, nextMessage tail = Next.frame message rest ->
          messageSeq message ≠ out.2.inSeq ∧
            out.1 = Except.error (PyError.protocol
              (.sequenceMismatch out.2.inSeq (messageSeq message))) ∧
            out.2.state = { last with stopped := true } ∧ out.2.buf = []) ∧
        forall cmdid, nextMessage tail = Next.reject cmdid ->
          out.1 = Except.error (PyError.protocol (.unknownCommand cmdid)) ∧
            out.2.state = { last with stopped := true } ∧
            out.2.buf = []) := by
  have hnew : callDeliveries (Call.feed data) e =
      consumed iderFramer iderConsumer (e.buf ++ data)
        (e.inSeq, e.state) := by
    rw [callDeliveries, if_neg (by simp [hrunning])]
  have hout := run_feed e data
  rw [if_neg (by simp [hrunning])] at hout
  have hkept := consumed_not_discard iderFramer iderConsumer (e.buf ++ data)
    (e.inSeq, e.state)
  have hlast := resumed_state (r := (e.inSeq, e.state)) hkept
  obtain ⟨tail, htail, hends⟩ :=
    drain_tail iderFramer iderConsumer (e.buf ++ data) (e.inSeq, e.state)
  unfold IderEngine.drained at hout
  simp only [hnew, hout]
  generalize consumed iderFramer iderConsumer (e.buf ++ data)
    (e.inSeq, e.state) = new at *
  generalize drain iderFramer iderConsumer (e.buf ++ data)
    (e.inSeq, e.state) = drained at *
  refine ⟨tail, htail, ?_⟩
  rcases hends with ⟨hdrained, hnone⟩ | ⟨hstate, d, hmem, hd⟩
  · obtain ⟨hstate, hframe, hreject⟩ := drain_of_unconsumed hnone
    constructor
    · rw [hdrained, ← hlast]
      rcases hstate with hstate | hstate
      · exact Or.inl (congrArg Prod.snd hstate)
      · exact Or.inr (congrArg Prod.snd hstate)
    · intro _
      constructor
      · intro message rest hnext
        obtain ⟨hseq, hmismatch⟩ := hframe message rest hnext
        rw [hdrained, hmismatch, ← hlast]
        exact ⟨hseq, rfl, rfl, rfl⟩
      · intro cmdid hnext
        rw [hdrained, hreject cmdid hnext, ← hlast]
        exact ⟨rfl, rfl, rfl⟩
  · refine ⟨Or.inl ((congrArg Prod.snd hstate).trans hlast), ?_⟩
    intro hall
    obtain ⟨hok, hgoes⟩ := hall d hmem
    obtain ⟨r', hproceed⟩ := proceeded (hkept d hmem) hok hgoes
    exact absurd hproceed (hd r')

end Stopping

/-!
## The discipline
-/

section Discipline

variable [DecidableEq ref] {images : ref -> MediaImage}

theorem deliveries_append (calls more : List (Call ref))
    (e : IderEngine ref) :
    deliveries (calls ++ more) e =
      deliveries calls e ++ deliveries more (runCalls calls e) := by
  induction calls generalizing e with
  | nil => rfl
  | cons call calls ih =>
      rw [List.cons_append, deliveries, ih, deliveries, List.append_assoc]
      rfl

theorem runCalls_append (calls more : List (Call ref)) (e : IderEngine ref) :
    runCalls (calls ++ more) e = runCalls more (runCalls calls e) := by
  induction calls generalizing e with
  | nil => rfl
  | cons call calls ih => exact ih _

/-- Over every run the messages processed and the frames sent carry the
numbers `0`, `1`, `2`, … modulo `2 ^ 32`, no message is processed by a stopped
engine, and a CLOSE or an invalid reply stops it for good.  A stopped engine
refuses to be fed and stays as it is.  In a running one every byte fed belongs
to a processed message or to a tail, the state is the one that the last
processed message left but for the stop flag, and a complete message at the
front of the tail had the wrong number: it, or an unknown id there, stops the
engine and does nothing else. -/
theorem sequence_discipline (hfresh : forall i, (images i).Fresh)
    (startMode : StartMode) (rxTimeout txTimeout heartbeat : Nat)
    (calls : List (Call ref)) :
    let start := newEngine startMode rxTimeout txTimeout heartbeat images
    let e := runCalls calls start
    let past := deliveries calls start
    (forall k d, past[k]? = some d ->
      messageSeq d.message = k % 2 ^ 32 ∧ d.before.stopped = false) ∧
    (forall k frame, (sentFrames e.state.trace)[k]? = some frame ->
      frameSeq frame = k % 2 ^ 32) ∧
    (forall d, d ∈ past -> Closing d.message -> e.state.stopped = true) ∧
    (e.state.stopped = true -> forall data,
      (feed data).run e = (Except.error (PyError.protocol .tornDown), e)) ∧
    (e.state.stopped = false -> forall data,
      let new := callDeliveries (Call.feed data) e
      let out := (feed data).run e
      let last := stateAfter e.state new
      exists tail,
        e.buf ++ data = (new.map Delivery.message).flatten ++ tail ∧
        (out.2.state = last ∨ out.2.state = { last with stopped := true }) ∧
        ((forall d, d ∈ new ->
            d.outcome = Except.ok () ∧ d.after.stopped = false) ->
          (forall message rest, nextMessage tail = Next.frame message rest ->
            messageSeq message ≠ (past ++ new).length % 2 ^ 32 ∧
              out.1 = Except.error (PyError.protocol
                (.sequenceMismatch ((past ++ new).length % 2 ^ 32)
                  (messageSeq message))) ∧
              out.2.state = { last with stopped := true }) ∧
          forall cmdid, nextMessage tail = Next.reject cmdid ->
            out.1 = Except.error (PyError.protocol
              (.unknownCommand cmdid)) ∧
              out.2.state = { last with stopped := true })) := by
  intro start e past
  have hcounted := run_invariant counted_kept hfresh startMode rxTimeout
    txTimeout heartbeat calls (newEngine_counted startMode rxTimeout txTimeout
      heartbeat)
  have hclosed := run_invariant closed_kept hfresh startMode rxTimeout
    txTimeout heartbeat calls (by simp)
  refine ⟨?_, hcounted.numbered.frames, hclosed, ?_, ?_⟩
  · intro k d hk
    exact ⟨hcounted.messages k d hk,
      deliveries_running calls start d (List.mem_of_getElem? hk)⟩
  · intro hstopped data
    rw [run_feed, if_pos hstopped]
  · intro hrunning data new out last
    have hnext := run_invariant counted_kept hfresh startMode rxTimeout
      txTimeout heartbeat (calls ++ [Call.feed data])
      (newEngine_counted startMode rxTimeout txTimeout heartbeat)
    have hcount : out.2.inSeq = (past ++ new).length % 2 ^ 32 := by
      have hlength := hnext.next
      rw [runCalls_append, deliveries_append, deliveries, deliveries,
        List.append_nil] at hlength
      exact hlength
    obtain ⟨tail, htail, hstate, hframe⟩ := feed_account hrunning data
    refine ⟨tail, htail, hstate, ?_⟩
    intro hall
    obtain ⟨hmismatch, hunknown⟩ := hframe hall
    constructor
    · intro message rest hmessage
      obtain ⟨hseq, herror, hstop, _⟩ := hmismatch message rest hmessage
      rw [← hcount]
      exact ⟨hseq, herror, hstop⟩
    · intro cmdid hreject
      obtain ⟨herror, hstop, _⟩ := hunknown cmdid hreject
      exact ⟨herror, hstop⟩

/-- A PING is answered by frame number 1 when OPEN_SESSION was number 0. -/
theorem sequence_discipline_ping :
    let image := MediaImage.blank ["boot.img"] DeviceCode.floppy 2 true nofun
    let ping : Bytes := [0x44, 0x00, 0x00, 0x00, 0x00, 0x00, 0x00, 0x00]
    let e := runCalls [Call.attach (), Call.start, Call.feed ping]
      (newEngine .onReboot 30000 0 20000 fun _ : Unit => image)
    frameSeq ((sentFrames e.state.trace).getD 1 []) = 1 := by
  intro image ping e
  have hfresh : forall i : Unit, ((fun _ => image) i).Fresh :=
    fun _ => MediaImage.blank_fresh ..
  have hdiscipline := sequence_discipline hfresh .onReboot 30000 0 20000
    [Call.attach (), Call.start, Call.feed ping]
  exact hdiscipline.2.1 1 _ rfl

end Discipline

end Ider
end IntelAmt
