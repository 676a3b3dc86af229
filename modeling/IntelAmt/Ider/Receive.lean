import IntelAmt.Ider.Dispatch

/-!
# The receive loop as a framer and a consumer

The length rules of inbound messages form a framer, and the sequence check
followed by dispatch forms a consumer.  `run_feed` shows that `feed` drains
its buffer with the two of them.
-/

namespace IntelAmt
namespace Ider

open Foundation

/-!
## Length rules
-/

/-- The length of the message at the front of a buffer, when it can be told
from the bytes that are there. -/
def messageLength (buf : Bytes) : Except UInt8 (Option Nat) :=
  match fixedLengthCommands.lookup (buf.getD 0 0) with
  | some fixed => Except.ok (some fixed)
  | none =>
      if buf.getD 0 0 = cmdOpenSessionReply then
        if buf.length < 30 then Except.ok none
        else Except.ok (some (30 + (buf.getD 29 0).toNat))
      else if buf.getD 0 0 = cmdDataFromHost then
        if buf.length < 14 then Except.ok none
        else Except.ok (some (14 + leNat (slice buf 9 2)))
      else Except.error (buf.getD 0 0)

def nextMessage (buf : Bytes) : Next UInt8 UInt8 :=
  if buf.length < 8 then Next.incomplete
  else
    match messageLength buf with
    | Except.error cmdid => Next.reject cmdid
    | Except.ok none => Next.incomplete
    | Except.ok (some length) =>
        if buf.length < length then Next.incomplete
        else Next.frame (buf.take length) (buf.drop length)

theorem fixedLength_ge {cmdid : UInt8} {length : Nat}
    (h : fixedLengthCommands.lookup cmdid = some length) : 8 ≤ length := by
  have hall : forall entry, entry ∈ fixedLengthCommands -> 8 ≤ entry.2 := by
    decide
  obtain ⟨before, after, hlist, _⟩ := List.lookup_eq_some_iff.mp h
  exact hall (cmdid, length) (by simp [hlist])

theorem messageLength_ge {buf : Bytes} {length : Nat}
    (h : messageLength buf = Except.ok (some length)) : 8 ≤ length := by
  unfold messageLength at h
  cases hfixed : fixedLengthCommands.lookup (buf.getD 0 0) with
  | some fixed =>
      rw [hfixed] at h
      cases h
      exact fixedLength_ge hfixed
  | none =>
      rw [hfixed] at h
      simp only at h
      repeat' split at h
      all_goals cases h
      all_goals lia

theorem messageLength_append {buf : Bytes} (hpos : 0 < buf.length)
    (h : messageLength buf ≠ Except.ok none) (more : Bytes) :
    messageLength (buf ++ more) = messageLength buf := by
  have hcmdid : (buf ++ more).getD 0 0 = buf.getD 0 0 := getD_append_left hpos
  unfold messageLength at h ⊢
  rw [hcmdid, List.length_append]
  cases hfixed : fixedLengthCommands.lookup (buf.getD 0 0) with
  | some fixed => rfl
  | none =>
      rw [hfixed] at h
      simp only at h ⊢
      split
      · rename_i hreply
        rw [if_pos hreply] at h
        by_cases hshort : buf.length < 30
        · rw [if_pos hshort] at h
          exact absurd rfl h
        · rw [if_neg hshort, if_neg (by lia), getD_append_left (by lia)]
      · rename_i hreply
        rw [if_neg hreply] at h
        split
        · rename_i hdata
          rw [if_pos hdata] at h
          by_cases hshort : buf.length < 14
          · rw [if_pos hshort] at h
            exact absurd rfl h
          · rw [if_neg hshort, if_neg (by lia), slice_append_left (by lia)]
        · rfl

theorem nextMessage_eq_frame {buf message rest : Bytes}
    (h : nextMessage buf = Next.frame message rest) :
    exists length, 8 ≤ length ∧ length ≤ buf.length ∧
      messageLength buf = Except.ok (some length) ∧
      message = buf.take length ∧ rest = buf.drop length := by
  unfold nextMessage at h
  split at h
  · cases h
  · split at h
    · cases h
    · cases h
    · rename_i length hlength
      split at h
      · cases h
      · cases h
        exact ⟨length, messageLength_ge hlength, by lia, hlength, rfl, rfl⟩

theorem nextMessage_of_length {buf : Bytes} {length : Nat}
    (hlength : messageLength buf = Except.ok (some length))
    (hle : length ≤ buf.length) :
    nextMessage buf = Next.frame (buf.take length) (buf.drop length) := by
  have hge := messageLength_ge hlength
  unfold nextMessage
  rw [if_neg (by lia), hlength]
  simp only
  rw [if_neg (by lia)]

theorem nextMessage_frame_long {buf message rest : Bytes}
    (h : nextMessage buf = Next.frame message rest) : 8 ≤ buf.length := by
  obtain ⟨length, hge, hle, _⟩ := nextMessage_eq_frame h
  lia

theorem nextMessage_eq_reject {buf : Bytes} {cmdid : UInt8}
    (h : nextMessage buf = Next.reject cmdid) :
    8 ≤ buf.length ∧ messageLength buf = Except.error cmdid := by
  unfold nextMessage at h
  split at h
  · cases h
  · rename_i hlong
    split at h
    · rename_i hcmdid
      cases h
      exact ⟨by lia, hcmdid⟩
    · cases h
    · split at h <;> cases h

def iderFramer : Framer UInt8 UInt8 where
  next := nextMessage
  frame_split := by
    intro buf message rest h
    obtain ⟨length, _, _, _, rfl, rfl⟩ := nextMessage_eq_frame h
    exact (List.take_append_drop length buf).symm
  frame_nonempty := by
    intro buf message rest h
    obtain ⟨length, hge, hle, _, rfl, _⟩ := nextMessage_eq_frame h
    intro hempty
    have hlength := congrArg List.length hempty
    rw [List.length_take] at hlength
    simp only [List.length_nil] at hlength
    lia
  frame_append := by
    intro buf message rest h more
    obtain ⟨length, hge, hle, hlength, rfl, rfl⟩ := nextMessage_eq_frame h
    have hpos : 0 < buf.length := by lia
    have happend := messageLength_append hpos (by rw [hlength]; simp) more
    rw [nextMessage_of_length (happend.trans hlength) (by simp; lia),
      List.take_append_of_le_length hle, List.drop_append_of_le_length hle]
  reject_append := by
    intro buf cmdid h more
    obtain ⟨hlong, hreject⟩ := nextMessage_eq_reject h
    have hpos : 0 < buf.length := by lia
    have happend := messageLength_append hpos (by rw [hreject]; simp) more
    unfold nextMessage
    rw [if_neg (by simp; lia), happend, hreject]

/-!
## Whole messages

A message cut off the buffer is as long as its own length rule says, so every
field that its handler reads is there.
-/

def Whole (message : Bytes) : Prop :=
  messageLength message = Except.ok (some message.length)

theorem messageLength_fixed {buf : Bytes} {length : Nat}
    (h : fixedLengthCommands.lookup (buf.getD 0 0) = some length) :
    messageLength buf = Except.ok (some length) := by
  unfold messageLength
  rw [h]

theorem messageLength_openSessionReply {buf : Bytes}
    (h : buf.getD 0 0 = cmdOpenSessionReply) :
    messageLength buf =
      if buf.length < 30 then Except.ok none
      else Except.ok (some (30 + (buf.getD 29 0).toNat)) := by
  unfold messageLength
  rw [h]
  rfl

theorem messageLength_dataFromHost {buf : Bytes}
    (h : buf.getD 0 0 = cmdDataFromHost) :
    messageLength buf =
      if buf.length < 14 then Except.ok none
      else Except.ok (some (14 + leNat (slice buf 9 2))) := by
  unfold messageLength
  rw [h]
  rfl

theorem messageLength_eq_none {buf : Bytes}
    (h : messageLength buf = Except.ok none) :
    buf.getD 0 0 = cmdOpenSessionReply ∧ buf.length < 30 ∨
      buf.getD 0 0 = cmdDataFromHost ∧ buf.length < 14 := by
  unfold messageLength at h
  cases hfixed : fixedLengthCommands.lookup (buf.getD 0 0) with
  | some fixed =>
      rw [hfixed] at h
      cases h
  | none =>
      rw [hfixed] at h
      simp only at h
      split at h
      · rename_i hreply
        split at h
        · exact Or.inl ⟨hreply, by assumption⟩
        · cases h
      · split at h
        · rename_i hdata
          split at h
          · exact Or.inr ⟨hdata, by assumption⟩
          · cases h
        · cases h

theorem nextMessage_whole {buf message rest : Bytes}
    (h : nextMessage buf = Next.frame message rest) : Whole message := by
  obtain ⟨length, hge, hle, hlength, rfl, _⟩ := nextMessage_eq_frame h
  have htake : (buf.take length).length = length := by
    rw [List.length_take]
    lia
  have hpos : 0 < (buf.take length).length := by lia
  have hcmdid : buf.getD 0 0 = (buf.take length).getD 0 0 :=
    (getD_take (by lia) buf).symm
  have hanswer : messageLength (buf.take length) ≠ Except.ok none := by
    intro hnone
    rcases messageLength_eq_none hnone with
      ⟨hreply, hshort⟩ | ⟨hdata, hshort⟩
    · rw [messageLength_openSessionReply (hcmdid.trans hreply)] at hlength
      split at hlength
      · cases hlength
      · cases hlength
        lia
    · rw [messageLength_dataFromHost (hcmdid.trans hdata)] at hlength
      split at hlength
      · cases hlength
      · cases hlength
        lia
  have happend := messageLength_append hpos hanswer (buf.drop length)
  rw [List.take_append_drop, hlength] at happend
  rw [Whole, ← happend, htake]

namespace Whole

variable {message : Bytes}

theorem length_ge (h : Whole message) : 8 ≤ message.length :=
  messageLength_ge h

theorem length_fixed (h : Whole message) {length : Nat}
    (hfixed :
      fixedLengthCommands.lookup (message.getD 0 0) = some length) :
    message.length = length := by
  have hlength := (messageLength_fixed hfixed).symm.trans h
  cases hlength
  rfl

theorem length_openSessionReply (h : Whole message)
    (hcmdid : message.getD 0 0 = cmdOpenSessionReply) :
    30 ≤ message.length := by
  have hlength := (messageLength_openSessionReply hcmdid).symm.trans h
  split at hlength
  · cases hlength
  · lia

theorem length_dataFromHost (h : Whole message)
    (hcmdid : message.getD 0 0 = cmdDataFromHost) :
    message.length = 14 + leNat (slice message 9 2) := by
  have hlength := (messageLength_dataFromHost hcmdid).symm.trans h
  split at hlength
  · cases hlength
  · simp only [Except.ok.injEq, Option.some.injEq] at hlength
    exact hlength.symm

end Whole

/-!
## The consumer
-/

section Consume

variable {ref : Type} [DecidableEq ref]

/-- The inbound counter and the handlers' part of the engine. -/
abbrev Receiver (ref : Type) : Type := Nat × HandlerState ref

def Receiver.halt (r : Receiver ref) : Receiver ref :=
  (r.1, { r.2 with stopped := true })

/-- Check the sequence number, advance the counter and dispatch. -/
def consumeMessage (message : Bytes) (r : Receiver ref) :
    Consumed PyError (Receiver ref) :=
  let seq := leNat (slice message 4 4)
  if seq ≠ r.1 then
    Consumed.discard (PyError.protocol (.sequenceMismatch r.1 seq)) r.halt
  else
    match (dispatch message).run r.2 with
    | (Except.error e, s) => Consumed.fail e ((r.1 + 1) % 2 ^ 32, s)
    | (Except.ok (), s) =>
        if s.stopped then Consumed.stop ((r.1 + 1) % 2 ^ 32, s)
        else Consumed.proceed ((r.1 + 1) % 2 ^ 32, s)

def iderConsumer : Consumer UInt8 UInt8 PyError (Receiver ref) where
  consume := consumeMessage
  refuse := fun cmdid r =>
    (PyError.protocol (.unknownCommand cmdid), r.halt)

section Outcomes

variable {message : Bytes} {r r' : Receiver ref}

theorem consumeMessage_proceed
    (h : consumeMessage message r = Consumed.proceed r') :
    leNat (slice message 4 4) = r.1 ∧ r'.1 = (r.1 + 1) % 2 ^ 32 ∧
      (dispatch message).run r.2 = (Except.ok (), r'.2) ∧
      r'.2.stopped = false := by
  simp only [consumeMessage] at h
  split at h
  · cases h
  · rename_i hseq
    split at h
    · cases h
    · rename_i s hrun
      split at h
      · cases h
      · rename_i hrunning
        cases h
        exact ⟨by simpa using hseq, rfl, hrun, by simpa using hrunning⟩

theorem consumeMessage_stop (h : consumeMessage message r = Consumed.stop r') :
    leNat (slice message 4 4) = r.1 ∧ r'.1 = (r.1 + 1) % 2 ^ 32 ∧
      (dispatch message).run r.2 = (Except.ok (), r'.2) ∧
      r'.2.stopped = true := by
  simp only [consumeMessage] at h
  split at h
  · cases h
  · rename_i hseq
    split at h
    · cases h
    · rename_i s hrun
      split at h
      · rename_i hstopped
        cases h
        exact ⟨by simpa using hseq, rfl, hrun, hstopped⟩
      · cases h

theorem consumeMessage_fail {e : PyError}
    (h : consumeMessage message r = Consumed.fail e r') :
    leNat (slice message 4 4) = r.1 ∧ r'.1 = (r.1 + 1) % 2 ^ 32 ∧
      (dispatch message).run r.2 = (Except.error e, r'.2) := by
  simp only [consumeMessage] at h
  split at h
  · cases h
  · rename_i hseq
    split at h
    · rename_i err s hrun
      cases h
      exact ⟨by simpa using hseq, rfl, hrun⟩
    · split at h <;> cases h

theorem consumeMessage_discard {e : PyError}
    (h : consumeMessage message r = Consumed.discard e r') :
    leNat (slice message 4 4) ≠ r.1 ∧ r' = r.halt ∧
      e = PyError.protocol
        (.sequenceMismatch r.1 (leNat (slice message 4 4))) := by
  simp only [consumeMessage] at h
  split at h
  · rename_i hseq
    cases h
    exact ⟨hseq, rfl, rfl⟩
  · split at h
    · cases h
    · split at h <;> cases h

/-- A message that is not turned away for its number is dispatched, whatever
comes of it. -/
theorem consumeMessage_final
    (h : forall e r', consumeMessage message r ≠ Consumed.discard e r') :
    leNat (slice message 4 4) = r.1 ∧
      (consumeMessage message r).final =
        ((r.1 + 1) % 2 ^ 32, ((dispatch message).run r.2).2) := by
  cases hconsume : consumeMessage message r with
  | proceed r' =>
      obtain ⟨hseq, hcount, hrun, _⟩ := consumeMessage_proceed hconsume
      exact ⟨hseq, Prod.ext hcount (by rw [hrun]; rfl)⟩
  | stop r' =>
      obtain ⟨hseq, hcount, hrun, _⟩ := consumeMessage_stop hconsume
      exact ⟨hseq, Prod.ext hcount (by rw [hrun]; rfl)⟩
  | fail e r' =>
      obtain ⟨hseq, hcount, hrun⟩ := consumeMessage_fail hconsume
      exact ⟨hseq, Prod.ext hcount (by rw [hrun]; rfl)⟩
  | discard e r' => exact absurd hconsume (h e r')

end Outcomes

def verdictResult : Verdict PyError -> Except PyError Unit
  | Verdict.waiting => Except.ok ()
  | Verdict.stopped => Except.ok ()
  | Verdict.raised e => Except.error e

/-- The drain that `feed` amounts to. -/
def IderEngine.drained (e : IderEngine ref) (data : Bytes) :
    Drained UInt8 PyError (Receiver ref) :=
  drain iderFramer iderConsumer (e.buf ++ data) (e.inSeq, e.state)

/-- An engine with another receive state and other bytes to work on. -/
def IderEngine.resume (e : IderEngine ref) (r : Receiver ref)
    (buf : Bytes) : IderEngine ref :=
  { e with inSeq := r.1, buf := buf, state := r.2 }

/-!
## `feed` drains its buffer
-/

omit [DecidableEq ref] in
theorem run_peekLength {e : IderEngine ref} (h : 8 ≤ e.buf.length) :
    peekLength.run e =
      match messageLength e.buf with
      | Except.ok length => (Except.ok length, e)
      | Except.error cmdid =>
          (Except.error (PyError.protocol (.unknownCommand cmdid)),
            e.resume (e.inSeq, { e.state with stopped := true }) []) := by
  unfold peekLength messageLength
  rw [Exec.run_reads_bind, run_byteAt_bind (by lia)]
  cases hfixed : fixedLengthCommands.lookup (e.buf.getD 0 0) with
  | some fixed => rfl
  | none =>
      simp only
      split
      · split
        · rfl
        · rw [run_byteAt_bind (by lia)]
          rfl
      · split
        · split
          · rfl
          · rw [run_unpackLE_bind (by lia)]
            rfl
        · rfl

omit [DecidableEq ref] in
theorem run_liftHandler_of_run {x : EngineM ref Unit}
    {s s' : HandlerState ref} {result : Except PyError Unit}
    (h : x.run s = (result, s')) (inSeq : Nat) (buf : Bytes)
    (bytesFromAmt : Nat) :
    (liftHandler x).run ⟨inSeq, buf, bytesFromAmt, s⟩ =
      (result, ⟨inSeq, buf, bytesFromAmt, s'⟩) := by
  unfold liftHandler
  simp only [h]

theorem run_feedPass {e : IderEngine ref} (h : 8 ≤ e.buf.length) :
    feedPass.run e =
      match nextMessage e.buf with
      | Next.incomplete => (Except.ok Exec.Flow.done, e)
      | Next.reject cmdid =>
          (Except.error (PyError.protocol (.unknownCommand cmdid)),
            e.resume (e.inSeq, { e.state with stopped := true }) [])
      | Next.frame message rest =>
          match consumeMessage message (e.inSeq, e.state) with
          | Consumed.proceed r =>
              (Except.ok Exec.Flow.next, e.resume r rest)
          | Consumed.stop r => (Except.ok Exec.Flow.done, e.resume r rest)
          | Consumed.fail err r => (Except.error err, e.resume r rest)
          | Consumed.discard err r => (Except.error err, e.resume r []) := by
  unfold feedPass nextMessage
  rw [if_neg (by lia)]
  cases hlength : messageLength e.buf with
  | error cmdid =>
      have hpeek := run_peekLength h
      rw [hlength] at hpeek
      rw [Exec.run_bind_of_error hpeek]
  | ok length =>
      have hpeek := run_peekLength h
      rw [hlength] at hpeek
      rw [Exec.run_bind_of_ok hpeek, Exec.run_reads_bind]
      cases length with
      | none => rfl
      | some length =>
          simp only [id_eq]
          by_cases hshort : e.buf.length < length
          · rw [if_pos hshort, if_pos hshort]
            rfl
          · have hge := messageLength_ge hlength
            have hfront : slice (e.buf.take length) 4 4 = slice e.buf 4 4 :=
              slice_take (by lia) e.buf
            rw [if_neg hshort, if_neg hshort, run_unpackLE_bind (by lia)]
            simp only [consumeMessage, hfront]
            by_cases hseq : leNat (slice e.buf 4 4) ≠ e.inSeq
            · rw [if_pos hseq, if_pos hseq]
              rfl
            · rw [if_neg hseq, if_neg hseq, Exec.run_update_bind]
              cases hrun : (dispatch (e.buf.take length)).run e.state with
              | mk result s =>
                  cases result with
                  | error err =>
                      rw [Exec.run_bind_of_error
                        (run_liftHandler_of_run hrun _ _ _)]
                      rfl
                  | ok value =>
                      rw [Exec.run_bind_of_ok
                        (run_liftHandler_of_run hrun _ _ _),
                        Exec.run_reads_bind]
                      cases hstopped : s.stopped <;>
                        simp [hstopped, IderEngine.resume]

theorem feedPass_decreases :
    Exec.Decreases (fun e : IderEngine ref => e.buf.length)
      (fun e => decide (8 ≤ e.buf.length)) feedPass where
  positive := by
    intro e htest
    have hlong := of_decide_eq_true htest
    lia
  lower := by
    intro e e' htest hrun
    rw [run_feedPass (of_decide_eq_true htest)] at hrun
    cases hnext : nextMessage e.buf with
    | incomplete => simp [hnext] at hrun
    | reject cmdid => simp [hnext] at hrun
    | frame message rest =>
        have hshorter := iderFramer.rest_shorter hnext
        rw [hnext] at hrun
        cases hconsume : consumeMessage message (e.inSeq, e.state) with
        | proceed r =>
            simp only [hconsume, Prod.mk.injEq] at hrun
            rw [← hrun.2]
            exact hshorter
        | stop r => simp [hconsume] at hrun
        | fail err r => simp [hconsume] at hrun
        | discard err r => simp [hconsume] at hrun

def feedLoop : FeedM ref Unit :=
  Exec.whileLoop PyError.outOfFuel (fun e => e.buf.length)
    (fun e => decide (8 ≤ e.buf.length)) feedPass

theorem run_feedLoop_of_short {e : IderEngine ref} (h : e.buf.length < 8) :
    feedLoop.run e = (Except.ok (), e) := by
  have hunfold : feedLoop.run e = _ := Exec.run_whileLoop feedPass_decreases e
  rw [hunfold, if_neg (by simp; lia)]

theorem run_feedLoop_of_long {e : IderEngine ref} (h : 8 ≤ e.buf.length) :
    feedLoop.run e =
      match feedPass.run e with
      | (Except.ok Exec.Flow.next, e') => feedLoop.run e'
      | (Except.ok Exec.Flow.done, e') => (Except.ok (), e')
      | (Except.error err, e') => (Except.error err, e') := by
  have hunfold : feedLoop.run e = _ := Exec.run_whileLoop feedPass_decreases e
  rw [hunfold, if_pos (decide_eq_true h)]
  rcases feedPass.run e with ⟨result, e'⟩
  cases result with
  | error err => rfl
  | ok flow => cases flow <;> rfl

/-- The receive loop hands message after message to the consumer. -/
theorem run_feedLoop (e : IderEngine ref) :
    feedLoop.run e =
      (verdictResult
          (drain iderFramer iderConsumer e.buf (e.inSeq, e.state)).verdict,
        e.resume (drain iderFramer iderConsumer e.buf (e.inSeq, e.state)).state
          (drain iderFramer iderConsumer e.buf (e.inSeq, e.state)).rest) := by
  induction hbuf : e.buf using buffer_induction iderFramer
    generalizing e with
  | incomplete buf hnext =>
      subst hbuf
      rw [drain_incomplete iderFramer iderConsumer hnext]
      by_cases hlong : 8 ≤ e.buf.length
      · have hpass := run_feedPass hlong
        rw [show nextMessage e.buf = Next.incomplete from hnext] at hpass
        rw [run_feedLoop_of_long hlong, hpass]
        rfl
      · rw [run_feedLoop_of_short (by lia)]
        rfl
  | reject buf cmdid hnext =>
      subst hbuf
      have hlong : 8 ≤ e.buf.length := (nextMessage_eq_reject hnext).1
      have hpass := run_feedPass hlong
      rw [show nextMessage e.buf = Next.reject cmdid from hnext] at hpass
      rw [drain_reject iderFramer iderConsumer hnext,
        run_feedLoop_of_long hlong, hpass]
      rfl
  | frame buf message rest hnext ih =>
      subst hbuf
      have hlong : 8 ≤ e.buf.length := nextMessage_frame_long hnext
      have hpass := run_feedPass hlong
      rw [show nextMessage e.buf = Next.frame message rest from hnext] at hpass
      rw [drain_frame iderFramer iderConsumer hnext,
        run_feedLoop_of_long hlong, hpass]
      simp only [iderConsumer]
      cases hconsume : consumeMessage message (e.inSeq, e.state) with
      | proceed r =>
          have hrest := ih (e.resume r rest) rfl
          simp only [hrest]
          rfl
      | stop r => rfl
      | fail err r => rfl
      | discard err r => rfl

/-- `feed` refuses a stopped engine and drains the buffer of any other. -/
theorem run_feed (e : IderEngine ref) (data : Bytes) :
    (feed data).run e =
      if e.state.stopped then (Except.error (PyError.protocol .tornDown), e)
      else
        (verdictResult (e.drained data).verdict,
          { e.resume (e.drained data).state (e.drained data).rest with
            bytesFromAmt := e.bytesFromAmt + data.length }) := by
  unfold feed
  rw [Exec.run_reads_bind]
  cases hstopped : e.state.stopped with
  | true => rfl
  | false =>
      rw [if_neg (by simp), if_neg (by simp), Exec.run_update_bind]
      exact run_feedLoop _

end Consume

end Ider
end IntelAmt
