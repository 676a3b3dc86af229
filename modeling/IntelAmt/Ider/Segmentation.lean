import IntelAmt.Ider.Receive

/-!
# Framing does not depend on segmentation

A caller feeds chunk after chunk and goes on until the engine raises or has
stopped.  Whatever the cut, it ends as one call with the whole stream does.
-/

namespace IntelAmt
namespace Ider

open Foundation

variable {ref : Type} [DecidableEq ref]

/-- Feed chunk after chunk, up to the first point where the engine raises or
is stopped. -/
def feedChunks : List Bytes -> FeedM ref Unit
  | [] => pure ()
  | chunk :: chunks => do
      feed chunk
      let stopped ← Exec.reads fun e => e.state.stopped
      if stopped then pure () else feedChunks chunks

theorem drain_stopped (buf : Bytes) {r : Receiver ref}
    (hrunning : r.2.stopped = false) :
    ((drain iderFramer iderConsumer buf r).verdict = Verdict.waiting ->
      (drain iderFramer iderConsumer buf r).state.2.stopped = false) ∧
    ((drain iderFramer iderConsumer buf r).verdict = Verdict.stopped ->
      (drain iderFramer iderConsumer buf r).state.2.stopped = true) := by
  induction buf using buffer_induction iderFramer generalizing r with
  | incomplete buf hnext =>
      rw [drain_incomplete iderFramer iderConsumer hnext]
      exact ⟨fun _ => hrunning, nofun⟩
  | reject buf cmdid hnext =>
      rw [drain_reject iderFramer iderConsumer hnext]
      exact ⟨nofun, nofun⟩
  | frame buf message rest hnext ih =>
      rw [drain_frame iderFramer iderConsumer hnext]
      cases hconsume : iderConsumer.consume message r with
      | proceed r' => exact ih (consumeMessage_proceed hconsume).2.2.2
      | stop r' => exact ⟨nofun, fun _ => (consumeMessage_stop hconsume).2.2.2⟩
      | fail e r' => exact ⟨nofun, nofun⟩
      | discard e r' => exact ⟨nofun, nofun⟩

theorem run_feedChunks (chunks : List Bytes) {e : IderEngine ref}
    (hrunning : e.state.stopped = false) :
    exists bytesFromAmt,
      (feedChunks chunks).run e =
        (verdictResult (drainChunks iderFramer iderConsumer chunks e.buf
            (e.inSeq, e.state)).verdict,
          { e.resume
              (drainChunks iderFramer iderConsumer chunks e.buf
                (e.inSeq, e.state)).state
              (drainChunks iderFramer iderConsumer chunks e.buf
                (e.inSeq, e.state)).rest with
            bytesFromAmt := bytesFromAmt }) := by
  induction chunks generalizing e with
  | nil => exact ⟨e.bytesFromAmt, rfl⟩
  | cons chunk chunks ih =>
      have hfeed := run_feed e chunk
      rw [if_neg (by simp [hrunning])] at hfeed
      obtain ⟨hwaiting, hstopped⟩ :=
        drain_stopped (e.buf ++ chunk) (r := (e.inSeq, e.state)) hrunning
      rw [feedChunks, drainChunks]
      unfold IderEngine.drained at hfeed
      generalize drain iderFramer iderConsumer (e.buf ++ chunk)
        (e.inSeq, e.state) = first at hfeed hwaiting hstopped ⊢
      rcases first with ⟨verdict, r, rest⟩
      cases verdict with
      | waiting =>
          have hgoes : r.2.stopped = false := hwaiting rfl
          rw [Exec.run_bind_of_ok hfeed, Exec.run_reads_bind]
          simp only [IderEngine.resume, hgoes, Bool.false_eq_true, if_false]
          exact ih hgoes
      | stopped =>
          have hhalts : r.2.stopped = true := hstopped rfl
          rw [Exec.run_bind_of_ok hfeed, Exec.run_reads_bind]
          simp only [IderEngine.resume, hhalts, if_true]
          exact ⟨_, rfl⟩
      | raised err =>
          rw [Exec.run_bind_of_error hfeed]
          exact ⟨_, rfl⟩

/-- Whatever a stream is cut into, feeding the chunks raises or returns as
feeding the whole stream does, with the same counters and the same state of
the handlers: session, pending write, images and everything sent.  While the
engine runs the same bytes are left in the buffer; once it has raised or
stopped, the whole stream may also leave bytes of the chunks behind that
point. -/
theorem feedChunks_eq_feed (e : IderEngine ref) (chunk : Bytes)
    (chunks : List Bytes) :
    let cut := (feedChunks (chunk :: chunks)).run e
    let whole := (feed (chunk :: chunks).flatten).run e
    cut.1 = whole.1 ∧ cut.2.inSeq = whole.2.inSeq ∧
      cut.2.state = whole.2.state ∧
      (exists unread, unread <:+ chunks.flatten ∧
        whole.2.buf = cut.2.buf ++ unread) ∧
      (whole.1 = Except.ok () -> whole.2.state.stopped = false ->
        cut.2.buf = whole.2.buf) := by
  cases hstopped : e.state.stopped with
  | true =>
      have hfeed := run_feed e chunk
      have hwhole := run_feed e (chunk :: chunks).flatten
      rw [if_pos hstopped] at hfeed hwhole
      rw [feedChunks, Exec.run_bind_of_error hfeed, hwhole]
      exact ⟨rfl, rfl, rfl, ⟨[], List.nil_suffix, by simp⟩, fun _ _ => rfl⟩
  | false =>
      obtain ⟨bytesFromAmt, hcut⟩ := run_feedChunks (chunk :: chunks) hstopped
      have hwhole := run_feed e (chunk :: chunks).flatten
      rw [if_neg (by simp [hstopped])] at hwhole
      obtain ⟨hverdict, hstate, hunread, hrest⟩ :=
        drainChunks_flatten iderFramer iderConsumer chunk chunks e.buf
          (e.inSeq, e.state)
      obtain ⟨_, hhalted⟩ :=
        drain_stopped (e.buf ++ (chunk :: chunks).flatten)
          (r := (e.inSeq, e.state)) hstopped
      unfold IderEngine.drained at hwhole
      rw [hcut, hwhole, hverdict, hstate]
      refine ⟨rfl, rfl, rfl, hunread, ?_⟩
      intro hok hrunning
      apply hrest
      cases hwhat : (drain iderFramer iderConsumer
          (e.buf ++ (chunk :: chunks).flatten) (e.inSeq, e.state)).verdict with
      | waiting => rfl
      | stopped =>
          have hboth : false = true := hrunning.symm.trans (hhalted hwhat)
          cases hboth
      | raised err =>
          rw [hwhat] at hok
          cases hok

end Ider
end IntelAmt
