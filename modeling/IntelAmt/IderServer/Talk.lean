import IntelAmt.Foundation.Duplex
import IntelAmt.Ider.Segmentation
import IntelAmt.IderServer.Answering

/-!
# Engine and server over one connection

The engine is fed by the loop of the session daemon, chunk by chunk as they
come in, and the server reads and is driven beside it.  Whatever the driving
interface does, and however the two streams are cut and delivered, each side
hears what the other one says, in order and nothing else.
-/

namespace IntelAmt
namespace IderServer

open Foundation Ider

variable {ref : Type} [DecidableEq ref]

/-!
## The loop around the engine
-/

def raisedBy : Except PyError Unit -> Option PyError
  | Except.ok _ => none
  | Except.error e => some e

theorem any_kept {images : ref -> MediaImage} :
    KeptByRuns images fun _ _ => True where
  attach := fun _ _ _ _ _ => trivial
  send := fun _ _ _ _ _ => trivial
  halt := fun _ _ _ _ => trivial
  deliver := fun _ _ _ _ _ _ _ _ _ _ _ => trivial

theorem feed_standing {images : ref -> MediaImage} (chunk : Bytes)
    {e : IderEngine ref} (h : Standing images e.state) :
    Standing images ((runCall (Call.feed chunk)).run e).2.state :=
  (@runCall_keeps _ _ images _ any_kept (Call.feed chunk) e [] h trivial).1

/-- An engine in a state that a run can stand in, what its last call raised,
and the messages that it has processed. -/
structure Client (images : ref -> MediaImage) where
  engine : IderEngine ref
  standing : Standing images engine.state
  raised : Option PyError := none
  past : List (Delivery ref) := []

namespace Client

variable {images : ref -> MediaImage}

/-- The loop ends when the engine raises or is stopped, and when the feature
toggle is refused. -/
def serving (c : Client images) : Bool :=
  c.raised.isNone && !c.engine.state.stopped &&
    decide (c.engine.state.featureToggleOk ≠ some false)

def hear (chunk : Bytes) (c : Client images) : Client images :=
  if c.serving then
    { engine := ((runCall (Call.feed chunk)).run c.engine).2
      standing := feed_standing chunk c.standing
      raised := raisedBy ((runCall (Call.feed chunk)).run c.engine).1
      past := c.past ++ callDeliveries (Call.feed chunk) c.engine }
  else c

def receiver (c : Client images) : Receiver ref :=
  (c.engine.inSeq, c.engine.state)

/-- All that has been handed to `send`, as one stream. -/
def said (c : Client images) : Bytes :=
  (sentFrames c.engine.state.trace).flatten

theorem sends_more (frames : List Bytes) :
    KeptByRuns images fun r _ => frames <+: sentFrames r.2.trace where
  attach := fun _ _ _ _ h => h
  send := fun out r _ _ h => by
    rw [sentFrames_send]
    exact h.trans (List.prefix_append _ _)
  halt := fun _ _ _ h => h
  deliver := by
    intro message r past result s _ h _ _ _ hstep
    rcases hstep.dataFrames with ⟨outs, hsends, _⟩
    show frames <+: sentFrames s.trace
    rw [hsends]
    exact h.trans (List.prefix_append _ _)

theorem hear_sends (chunk : Bytes) (c : Client images) :
    sentFrames c.engine.state.trace <+:
      sentFrames (c.hear chunk).engine.state.trace := by
  rw [hear]
  split
  · exact (@runCall_keeps _ _ images _
      (sends_more (sentFrames c.engine.state.trace)) (Call.feed chunk)
      c.engine [] c.standing List.prefix_rfl).2
  · exact List.prefix_rfl

theorem hear_grows (chunk : Bytes) (c : Client images) :
    c.said <+: (c.hear chunk).said :=
  (c.hear_sends chunk).flatten

end Client

/-!
## The two of them
-/

def engineParty (images : ref -> MediaImage) : Party UInt8 (Client images) where
  said := Client.said
  hear := Client.hear
  hear_grows := Client.hear_grows

def serverParty : Party UInt8 (ExactRead UInt8 IderMockServer) where
  said := fun r => r.state.sent.flatten
  hear := fun chunk r => reader.receive r chunk
  hear_grows := fun chunk r => (receive_onward r chunk).sent.flatten

def talk (images : ref -> MediaImage) :
    Duplex UInt8 (Client images) (ExactRead UInt8 IderMockServer) Drive where
  leftParty := engineParty images
  rightParty := serverParty
  act := driven
  act_grows := fun a r => (driven_sent a r).1.1.sent.flatten

/-- A dialogue of the two. -/
abbrev Talk (images : ref -> MediaImage) : Type :=
  Dialogue UInt8 (Client images) (ExactRead UInt8 IderMockServer)

/-- The daemon attaches its media and starts the session with the timeouts
that the engine has by default. -/
def openingCalls (attached : List ref) : List (Call ref) :=
  attached.map Call.attach ++ [Call.start]

def defaultEngine (startMode : StartMode) (images : ref -> MediaImage) :
    IderEngine ref :=
  newEngine startMode 30000 0 20000 images

section Start

variable {images : ref -> MediaImage}

def Client.start (hfresh : forall i, (images i).Fresh) (startMode : StartMode)
    (attached : List ref) : Client images where
  engine := runCalls (openingCalls attached) (defaultEngine startMode images)
  standing := runCalls_standing hfresh startMode 30000 0 20000 _

def Talk.start (hfresh : forall i, (images i).Fresh) (startMode : StartMode)
    (attached : List ref) (config : ServerConfig) : Talk images where
  left := Client.start hfresh startMode attached
  right := { state := { config := config } }

theorem runCalls_attach (attached : List ref) (e : IderEngine ref) :
    exists devices, runCalls (attached.map Call.attach) e =
      { e with state := { e.state with devices := devices } } := by
  induction attached generalizing e with
  | nil => exact ⟨e.state.devices, rfl⟩
  | cons i attached ih =>
      rcases ih ((runCall (Call.attach i)).run e).2 with ⟨devices, hrest⟩
      refine ⟨devices, ?_⟩
      rw [List.map_cons, runCalls, hrest]
      rfl

theorem runCalls_opening (startMode : StartMode) (attached : List ref) :
    exists devices,
      runCalls (openingCalls attached) (defaultEngine startMode images) =
        { defaultEngine startMode images with
          state :=
            { (defaultEngine startMode images).state with
              devices := devices }.send
              (openSession (defaultEngine startMode images).state) } := by
  rcases runCalls_attach attached (defaultEngine startMode images) with
    ⟨devices, hattached⟩
  refine ⟨devices, ?_⟩
  rw [openingCalls, runCalls_append, hattached]
  rfl

theorem start_attending (hfresh : forall i, (images i).Fresh)
    (startMode : StartMode) (attached : List ref) (config : ServerConfig) :
    Attending images config (defaultEngine startMode images).state
      (Client.start hfresh startMode attached).receiver 0 := by
  have hstanding := (Client.start hfresh startMode attached).standing
  have hnumbers := (run_invariant counted_kept hfresh startMode 30000 0 20000
    (openingCalls attached)
    (newEngine_counted startMode 30000 0 20000)).numbered
  rcases @runCalls_opening _ _ images startMode attached with
    ⟨devices, hopened⟩
  refine ⟨?_, hstanding, hnumbers, ?_, ?_, fun hne => absurd rfl hne⟩
  · show (runCalls _ _).inSeq = _
    rw [hopened]
    rfl
  · show (runCalls _ _).state.startMode = _
    rw [hopened]
    rfl
  · intro _
    show sentFrames (runCalls _ _).state.trace = _
    rw [hopened]
    rfl

end Start

/-!
## What always holds
-/

section Following

variable {images : ref -> MediaImage}

/-- A client that the first frame that skips ahead has stopped, with every
frame in front of it processed. -/
structure TornDown (r : Receiver ref) (c : Client images)
    (sent taken : List Bytes) : Prop where
  all : taken = inOrder 0 sent
  astray : inOrder 0 sent ≠ sent
  halted : c.receiver = (servedBy iderConsumer r taken).halt
  raised : exists violation, c.raised = some (PyError.protocol violation)

/-- A client that began in `r` and has processed the messages `taken`, the
first of those that were sent in order; while its loop goes on, the bytes that
it has heard beyond them wait in its buffer, and only a message that failed or
a frame that skips ahead has made it raise. -/
structure Follows (r : Receiver ref) (c : Client images) (heard : Bytes)
    (sent taken : List Bytes) : Prop where
  first : taken <+: inOrder 0 sent
  past : c.past = metBy iderConsumer r taken
  buffer : c.serving = true -> heard = taken.flatten ++ c.engine.buf ∧
    iderFramer.next c.engine.buf = Next.incomplete
  state : (c.receiver = servedBy iderConsumer r taken ∧
      forall e, c.raised = some e -> exists d r',
        d ∈ metBy iderConsumer r taken ∧
          iderConsumer.consume d.2 d.1 = Consumed.fail e r') ∨
    TornDown r c sent taken

theorem Follows.more {r : Receiver ref} {c : Client images} {heard : Bytes}
    {sent sent' taken : List Bytes} (h : Follows r c heard sent taken)
    (hmore : sent <+: sent') : Follows r c heard sent' taken := by
  refine ⟨h.first.trans (inOrder_mono hmore), h.past, h.buffer, ?_⟩
  rcases h.state with hgoes | htorn
  · exact Or.inl hgoes
  · rcases hmore with ⟨rest, rfl⟩
    have hstays := inOrder_stays htorn.astray rest
    refine Or.inr ⟨by rw [hstays]; exact htorn.all, ?_, htorn.halted,
      htorn.raised⟩
    rw [hstays]
    intro hall
    have hle := (inOrder_begins 0 sent).length_le
    rw [hall, List.length_append] at hle
    have hnone : rest = [] := List.length_eq_zero_iff.mp (by lia)
    rw [hnone, List.append_nil] at hall
    exact htorn.astray hall

theorem served_attending {config : ServerConfig}
    (hconfig : config.Acceptable) {h : HandlerState ref}
    (messages : List Bytes) {r : Receiver ref} {n : Nat}
    (hr : Attending images config h r n)
    (hframed : forall k message, messages[k]? = some message ->
      Framed config (n + k) message) :
    Attending images config h (servedBy iderConsumer r messages)
      (n + messages.length) := by
  induction messages generalizing r n with
  | nil => exact hr
  | cons message messages ih =>
      rw [servedBy_cons, List.length_cons, Nat.add_comm messages.length 1,
        ← Nat.add_assoc]
      apply ih (hr.consume hconfig (hframed 0 message rfl)).2.1
      intro k message' hk
      rw [Nat.add_assoc, Nat.add_comm 1 k]
      exact hframed (k + 1) message' hk

omit [DecidableEq ref] in
theorem Client.serving_iff (c : Client images) :
    c.serving = true ↔ c.raised = none ∧ c.engine.state.stopped = false ∧
      c.engine.state.featureToggleOk ≠ some false := by
  simp [Client.serving, and_assoc]

theorem Client.hear_drained {c : Client images} (hserving : c.serving = true)
    (chunk : Bytes) :
    let drained := drain iderFramer iderConsumer (c.engine.buf ++ chunk)
      c.receiver
    (c.hear chunk).receiver = drained.state ∧
      (c.hear chunk).engine.buf = drained.rest ∧
      (c.hear chunk).raised = raisedBy (verdictResult drained.verdict) ∧
      (c.hear chunk).past = c.past ++
        consumed iderFramer iderConsumer (c.engine.buf ++ chunk)
          c.receiver := by
  intro drained
  have hrunning := (c.serving_iff.mp hserving).2.1
  have hfeed := run_feed c.engine chunk
  rw [if_neg (by simp [hrunning])] at hfeed
  have hnew : callDeliveries (Call.feed chunk) c.engine =
      consumed iderFramer iderConsumer (c.engine.buf ++ chunk)
        c.receiver := by
    rw [callDeliveries, if_neg (by simp [hrunning])]
    rfl
  have hheard : c.hear chunk =
      { engine := ((runCall (Call.feed chunk)).run c.engine).2
        standing := feed_standing chunk c.standing
        raised := raisedBy ((runCall (Call.feed chunk)).run c.engine).1
        past := c.past ++ callDeliveries (Call.feed chunk) c.engine } := by
    rw [Client.hear, if_pos hserving]
  have hrun : (runCall (Call.feed chunk)).run c.engine =
      (verdictResult drained.verdict,
        { c.engine.resume drained.state drained.rest with
          bytesFromAmt := c.engine.bytesFromAmt + chunk.length }) := hfeed
  rw [hheard, hnew]
  refine ⟨?_, ?_, ?_, rfl⟩
  · show (((runCall (Call.feed chunk)).run c.engine).2.inSeq,
      ((runCall (Call.feed chunk)).run c.engine).2.state) = _
    rw [hrun]
    rfl
  · show ((runCall (Call.feed chunk)).run c.engine).2.buf = _
    rw [hrun]
    rfl
  · show raisedBy ((runCall (Call.feed chunk)).run c.engine).1 = _
    rw [hrun]

theorem Client.hear_waiting {c : Client images} (hserving : c.serving = true)
    {chunk : Bytes} (hserves : (c.hear chunk).serving = true) :
    (drain iderFramer iderConsumer (c.engine.buf ++ chunk)
      c.receiver).verdict = Verdict.waiting := by
  rcases Client.hear_drained hserving chunk with ⟨hstate, _, hraised, _⟩
  rcases (Client.serving_iff _).mp hserves with ⟨hnone, hgoes, _⟩
  have hstopped := (drain_stopped (c.engine.buf ++ chunk) (r := c.receiver)
    (c.serving_iff.mp hserving).2.1).2
  rw [hraised] at hnone
  rw [← hstate] at hstopped
  cases hverdict : (drain iderFramer iderConsumer (c.engine.buf ++ chunk)
      c.receiver).verdict with
  | waiting => rfl
  | stopped => exact absurd ((hstopped hverdict).symm.trans hgoes) (by simp)
  | raised e =>
      rw [hverdict] at hnone
      cases hnone

theorem Follows.goesOn {r : Receiver ref} {c : Client images} {heard : Bytes}
    {sent taken : List Bytes} (h : Follows r c heard sent taken)
    (hnone : c.raised = none) :
    c.receiver = servedBy iderConsumer r taken := by
  rcases h.state with hgoes | htorn
  · exact hgoes.1
  · rcases htorn.raised with ⟨violation, hraised⟩
    rw [hnone] at hraised
    cases hraised

section Sent

variable {config : ServerConfig} {h : HandlerState ref} {r : Receiver ref}
variable {astray : Nat} {s : IderMockServer} {taken : List Bytes}
variable {c : Client images} {heard : Bytes}

/-- The messages beyond those that a client has processed. -/
theorem Follows.ahead (hconfig : config.Acceptable)
    (hr : Attending images config h r 0) (hs : Speaks config astray s)
    (hc : Follows r c heard s.sent taken) :
    exists left, inOrder 0 s.sent = taken ++ left ∧
      Ahead images config h (inOrder 0 s.sent).length
        (servedBy iderConsumer r taken) left := by
  rcases hc.first with ⟨left, hleft⟩
  refine ⟨left, hleft.symm, taken.length, ?_, ?_, ?_⟩
  · have hserved := served_attending hconfig taken hr (by
      intro k message hk
      rw [Nat.zero_add]
      apply hs.frames
      rw [← hleft,
        List.getElem?_append_left (List.getElem?_eq_some_iff.mp hk).1]
      exact hk)
    rw [Nat.zero_add] at hserved
    exact hserved
  · rw [← hleft, List.length_append]
  · intro k message hk
    apply hs.frames
    rw [← hleft, List.getElem?_append_right (Nat.le_add_right _ _),
      Nat.add_sub_cancel_left]
    exact hk

theorem ahead_fails (hconfig : config.Acceptable) {total : Nat}
    (taken left : List Bytes) {r : Receiver ref}
    (hahead : Ahead images config h total r (taken ++ left))
    {d : Delivery ref} (hd : d ∈ metBy iderConsumer r taken) {e : PyError}
    {r' : Receiver ref}
    (hfail : iderConsumer.consume d.2 d.1 = Consumed.fail e r') :
    e = PyError.struct ∧ exists i, ¬ Countable (images i) := by
  induction taken generalizing r with
  | nil => cases hd
  | cons message taken ih =>
      rcases List.mem_cons.mp hd with rfl | hrest
      · rcases hahead with ⟨n, hr, _, hframed⟩
        exact (hr.consume hconfig (hframed 0 message rfl)).2.2 e r' hfail
      · exact ih ((ahead_orderly images hconfig h total).next hahead) hrest

/-- Refused or not, a frame that skips ahead halts the engine. -/
theorem halts_of_balked {e : PyError} {r r' : Receiver ref}
    (h : (exists cmdid, iderConsumer.refuse cmdid r = (e, r')) ∨
      exists message, iderConsumer.consume message r =
        Consumed.discard e r') :
    r' = r.halt ∧ exists violation, e = PyError.protocol violation := by
  rcases h with ⟨cmdid, hrefuse⟩ | ⟨message, hdiscard⟩
  · cases hrefuse
    exact ⟨rfl, _, rfl⟩
  · rcases consumeMessage_discard hdiscard with ⟨_, hhalt, herror⟩
    exact ⟨hhalt, _, herror⟩

section Hearing

variable {noise chunk later : Bytes} {sent more left : List Bytes}

theorem Client.hear_took (hserving : c.serving = true)
    (hstate : c.receiver = servedBy iderConsumer r taken)
    (htook : Took iderFramer iderConsumer noise (c.engine.buf ++ chunk) later
      c.receiver more left) :
    (c.hear chunk).receiver = servedBy iderConsumer r (taken ++ more) ∧
      forall e, (c.hear chunk).raised = some e -> exists d r',
        d ∈ metBy iderConsumer r (taken ++ more) ∧
          iderConsumer.consume d.2 d.1 = Consumed.fail e r' := by
  rcases Client.hear_drained hserving chunk with ⟨hnext, _, hraised, _⟩
  refine ⟨?_, ?_⟩
  · rw [hnext, htook.state, hstate, servedBy_append]
  intro e he
  rw [hraised] at he
  cases hverdict : (drain iderFramer iderConsumer (c.engine.buf ++ chunk)
      c.receiver).verdict with
  | waiting => rw [hverdict] at he; cases he
  | stopped => rw [hverdict] at he; cases he
  | raised e' =>
      rw [hverdict] at he
      cases he
      rcases htook.raised e hverdict with ⟨d, r', hmem, hfail⟩
      rw [hstate] at hmem
      rw [metBy_append]
      exact ⟨d, r', List.mem_append_right _ hmem, hfail⟩

theorem Client.hear_balked (hserving : c.serving = true)
    (hstate : c.receiver = servedBy iderConsumer r taken)
    (hall : taken ++ more = inOrder 0 sent) (hastray : inOrder 0 sent ≠ sent)
    (hbalked : Balked iderFramer iderConsumer noise (c.engine.buf ++ chunk)
      c.receiver more left) :
    TornDown r (c.hear chunk) sent (taken ++ more) := by
  rcases Client.hear_drained hserving chunk with ⟨hnext, _, hraised, _⟩
  rcases hbalked.raised with ⟨e, hverdict, hturned⟩
  rcases halts_of_balked hturned with ⟨hhalt, violation, rfl⟩
  refine ⟨hall, hastray, ?_, violation, ?_⟩
  · rw [hnext, hhalt, hstate, servedBy_append]
  · rw [hraised, hverdict]
    rfl

theorem Client.hear_buffer (hserving : c.serving = true)
    (hheard : heard = taken.flatten ++ c.engine.buf)
    (hstream : (c.engine.buf ++ chunk) ++ later =
      (more ++ left).flatten ++ noise)
    (hdrains : Drains iderFramer iderConsumer noise (c.engine.buf ++ chunk)
      later c.receiver (more ++ left) more left)
    (hserves : (c.hear chunk).serving = true) :
    heard ++ chunk =
        (taken ++ more).flatten ++ (c.hear chunk).engine.buf ∧
      iderFramer.next (c.hear chunk).engine.buf = Next.incomplete := by
  rcases Client.hear_drained hserving chunk with ⟨_, hbuf, _, _⟩
  have hwaiting := Client.hear_waiting hserving hserves
  have htook := hdrains.took hwaiting
  have hrest := htook.rest
  have hincomplete := htook.waiting hwaiting
  rw [← hbuf] at hrest hincomplete
  rw [List.flatten_append, List.append_assoc more.flatten, ← hrest,
    ← List.append_assoc more.flatten] at hstream
  refine ⟨?_, hincomplete⟩
  rw [hheard, List.flatten_append, List.append_assoc,
    List.append_cancel_right hstream, List.append_assoc]

end Hearing

/-- A client goes on following whatever part of the stream comes in. -/
theorem Follows.hear (hconfig : config.Acceptable)
    (hr : Attending images config h r 0) (hs : Speaks config astray s)
    {chunk later : Bytes} (hc : Follows r c heard s.sent taken)
    (hall : heard ++ (chunk ++ later) = s.sent.flatten) :
    exists taken',
      Follows r (c.hear chunk) (heard ++ chunk) s.sent taken' := by
  cases hserving : c.serving with
  | false =>
      have hsame : c.hear chunk = c := by
        rw [Client.hear, if_neg (by simp [hserving])]
      rw [hsame]
      refine ⟨taken, hc.first, hc.past, ?_, hc.state⟩
      intro hserves
      rw [hserving] at hserves
      cases hserves
  | true =>
      rcases hc.ahead hconfig hr hs with ⟨left, hsent, hahead⟩
      rcases hc.buffer hserving with ⟨hheard, _⟩
      rcases hs.noise with ⟨noise, hflat, hnoise⟩
      have hstate := hc.goesOn (c.serving_iff.mp hserving).1
      have hstream : (c.engine.buf ++ chunk) ++ later =
          left.flatten ++ noise := by
        rw [hflat, hsent, hheard, List.flatten_append, List.append_assoc,
          List.append_assoc] at hall
        rw [List.append_assoc]
        exact List.append_cancel_left hall
      rcases drains_of_orderly rfl
        (ahead_orderly images hconfig h (inOrder 0 s.sent).length) (by
          intro r' hend
          rcases hend with ⟨n, hattending, htotal, _⟩
          apply turned_of_number
          intro hne
          rw [hattending.count, show n = (inOrder 0 s.sent).length from htotal]
          exact (hnoise hne).2)
        (c.engine.buf ++ chunk) hstream hahead with ⟨more, rest, hdrains⟩
      rw [← hstate] at hdrains
      have hmessages := hdrains.messages
      subst hmessages
      refine ⟨taken ++ more, ⟨rest, ?_⟩, ?_, ?_, ?_⟩
      · rw [hsent, List.append_assoc]
      · rw [(Client.hear_drained hserving chunk).2.2.2, hc.past,
          hdrains.consumed, hstate, metBy_append]
      · exact Client.hear_buffer hserving hheard hstream hdrains
      · rcases hdrains.outcome with htook | hbalked
        · exact Or.inl (Client.hear_took hserving hstate htook)
        · have hleft := hbalked.left
          subst hleft
          rw [List.append_nil] at hsent
          exact Or.inr (Client.hear_balked hserving hstate hsent.symm
            (hnoise hbalked.noise).1 hbalked)

/-- A client that has nothing left to hear and goes on has processed every
message up to the first that skips ahead, and has not got the whole of that
one. -/
theorem Follows.all (hs : Speaks config astray s)
    (hc : Follows r c s.sent.flatten s.sent taken)
    (hserving : c.serving = true) :
    taken = inOrder 0 s.sent ∧ forall frame rest,
      s.sent = inOrder 0 s.sent ++ frame :: rest -> ¬ Whole frame := by
  rcases hc.first with ⟨left, hleft⟩
  rcases inOrder_begins 0 s.sent with ⟨beyond, hbeyond⟩
  rcases hc.buffer hserving with ⟨hheard, hnext⟩
  have hbuf : c.engine.buf = left.flatten ++ beyond.flatten := by
    rw [← hbeyond, ← hleft, List.flatten_append, List.flatten_append,
      List.append_assoc] at hheard
    exact (List.append_cancel_left hheard).symm
  have hall : left = [] := by
    cases left with
    | nil => rfl
    | cons message left =>
        have hmessage : (inOrder 0 s.sent)[taken.length]? = some message := by
          rw [← hleft, List.getElem?_append_right (Nat.le_refl _),
            Nat.sub_self]
          rfl
        have hwhole := framer_whole (hs.frames _ message hmessage).whole
          (left.flatten ++ beyond.flatten)
        rw [hbuf, List.flatten_cons, List.append_assoc, hwhole] at hnext
        cases hnext
  subst hall
  refine ⟨by rw [← hleft, List.append_nil], ?_⟩
  intro frame rest hrest hwhole
  have hfirst : beyond = frame :: rest :=
    List.append_cancel_left (hbeyond.trans hrest)
  have hcut := framer_whole hwhole rest.flatten
  rw [hbuf, hfirst, List.flatten_nil, List.nil_append, List.flatten_cons,
    hcut] at hnext
  cases hnext

end Sent

end Following

end IderServer
end IntelAmt
