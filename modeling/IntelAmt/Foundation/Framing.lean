/-!
# Framed byte streams

A framer cuts the first message off a buffer, or says that the buffer holds no
complete message yet, or rejects it.  What it says about a buffer it also says
about every longer buffer, unless it is still waiting for bytes.

A consumer works on one message after another and may stop.  Draining a buffer
hands it message after message.  The main result is that the way a stream is
cut into chunks does not matter: draining chunk by chunk ends as draining the
whole stream does.
-/

namespace IntelAmt
namespace Foundation

variable {byte rejection error state : Type}

inductive Next (byte rejection : Type) where
  | incomplete
  | reject (reason : rejection)
  | frame (message rest : List byte)
deriving DecidableEq, Repr

structure Framer (byte rejection : Type) where
  next : List byte -> Next byte rejection
  frame_split : forall {buffer message rest : List byte},
    next buffer = Next.frame message rest -> buffer = message ++ rest
  frame_nonempty : forall {buffer message rest : List byte},
    next buffer = Next.frame message rest -> message ≠ []
  frame_append : forall {buffer message rest : List byte},
    next buffer = Next.frame message rest ->
    forall more, next (buffer ++ more) = Next.frame message (rest ++ more)
  reject_append : forall {buffer : List byte} {reason : rejection},
    next buffer = Next.reject reason ->
    forall more, next (buffer ++ more) = Next.reject reason

theorem Framer.rest_shorter (framer : Framer byte rejection)
    {buffer message rest : List byte}
    (h : framer.next buffer = Next.frame message rest) :
    rest.length < buffer.length := by
  have hsplit := framer.frame_split h
  have hpos := List.length_pos_iff.mpr (framer.frame_nonempty h)
  rw [hsplit, List.length_append]
  lia

/-!
## Consumers

`proceed` goes on with the next message and `stop` ends the stream.  Of the
two failures, `fail` leaves the unread bytes where they are, and `discard`
drops them and does not count the message as consumed.
-/

inductive Consumed (error state : Type) where
  | proceed (s : state)
  | stop (s : state)
  | fail (e : error) (s : state)
  | discard (e : error) (s : state)

def Consumed.final : Consumed error state -> state
  | proceed s => s
  | stop s => s
  | fail _ s => s
  | discard _ s => s

structure Consumer (byte rejection error state : Type) where
  consume : List byte -> state -> Consumed error state
  refuse : rejection -> state -> error × state

inductive Verdict (error : Type) where
  | waiting
  | stopped
  | raised (e : error)
deriving DecidableEq, Repr

structure Drained (byte error state : Type) where
  verdict : Verdict error
  state : state
  rest : List byte

/-- Hand the consumer every complete message of the buffer, in order, until it
stops or the rest of the buffer is incomplete. -/
def drain (framer : Framer byte rejection)
    (consumer : Consumer byte rejection error state)
    (buffer : List byte) (s : state) : Drained byte error state :=
  match _hnext : framer.next buffer with
  | Next.incomplete => ⟨Verdict.waiting, s, buffer⟩
  | Next.reject reason =>
      let refused := consumer.refuse reason s
      ⟨Verdict.raised refused.1, refused.2, []⟩
  | Next.frame message rest =>
      match consumer.consume message s with
      | Consumed.proceed s' => drain framer consumer rest s'
      | Consumed.stop s' => ⟨Verdict.stopped, s', rest⟩
      | Consumed.fail e s' => ⟨Verdict.raised e, s', rest⟩
      | Consumed.discard e s' => ⟨Verdict.raised e, s', []⟩
termination_by buffer.length
decreasing_by exact framer.rest_shorter _hnext

/-- The messages that were consumed, each with the state it met. -/
def consumed (framer : Framer byte rejection)
    (consumer : Consumer byte rejection error state)
    (buffer : List byte) (s : state) : List (state × List byte) :=
  match _hnext : framer.next buffer with
  | Next.incomplete => []
  | Next.reject _ => []
  | Next.frame message rest =>
      match consumer.consume message s with
      | Consumed.proceed s' =>
          (s, message) :: consumed framer consumer rest s'
      | Consumed.stop _ => [(s, message)]
      | Consumed.fail _ _ => [(s, message)]
      | Consumed.discard _ _ => []
termination_by buffer.length
decreasing_by exact framer.rest_shorter _hnext

section Drain

variable (framer : Framer byte rejection)
variable (consumer : Consumer byte rejection error state)

theorem drain_incomplete {buffer : List byte}
    (h : framer.next buffer = Next.incomplete) (s : state) :
    drain framer consumer buffer s = ⟨Verdict.waiting, s, buffer⟩ := by
  rw [drain]
  split <;> simp_all

theorem drain_reject {buffer : List byte} {reason : rejection}
    (h : framer.next buffer = Next.reject reason) (s : state) :
    drain framer consumer buffer s =
      ⟨Verdict.raised (consumer.refuse reason s).1,
        (consumer.refuse reason s).2, []⟩ := by
  rw [drain]
  split <;> simp_all

theorem drain_frame {buffer message rest : List byte}
    (h : framer.next buffer = Next.frame message rest) (s : state) :
    drain framer consumer buffer s =
      match consumer.consume message s with
      | Consumed.proceed s' => drain framer consumer rest s'
      | Consumed.stop s' => ⟨Verdict.stopped, s', rest⟩
      | Consumed.fail e s' => ⟨Verdict.raised e, s', rest⟩
      | Consumed.discard e s' => ⟨Verdict.raised e, s', []⟩ := by
  rw [drain]
  split <;> simp_all

theorem consumed_incomplete {buffer : List byte}
    (h : framer.next buffer = Next.incomplete) (s : state) :
    consumed framer consumer buffer s = [] := by
  rw [consumed]
  split <;> simp_all

theorem consumed_reject {buffer : List byte} {reason : rejection}
    (h : framer.next buffer = Next.reject reason) (s : state) :
    consumed framer consumer buffer s = [] := by
  rw [consumed]
  split <;> simp_all

theorem consumed_frame {buffer message rest : List byte}
    (h : framer.next buffer = Next.frame message rest) (s : state) :
    consumed framer consumer buffer s =
      match consumer.consume message s with
      | Consumed.proceed s' =>
          (s, message) :: consumed framer consumer rest s'
      | Consumed.stop _ => [(s, message)]
      | Consumed.fail _ _ => [(s, message)]
      | Consumed.discard _ _ => [] := by
  rw [consumed]
  split <;> simp_all

/-- Induction over a buffer, one message at a time. -/
theorem buffer_induction {motive : List byte -> Prop}
    (incomplete : forall buffer,
      framer.next buffer = Next.incomplete -> motive buffer)
    (reject : forall buffer reason,
      framer.next buffer = Next.reject reason -> motive buffer)
    (frame : forall buffer message rest,
      framer.next buffer = Next.frame message rest -> motive rest ->
      motive buffer)
    (buffer : List byte) : motive buffer := by
  induction hlen : buffer.length using Nat.strongRecOn generalizing buffer with
  | ind n ih =>
      cases hnext : framer.next buffer with
      | incomplete => exact incomplete buffer hnext
      | reject reason => exact reject buffer reason hnext
      | frame message rest =>
          have hlt := framer.rest_shorter hnext
          exact frame buffer message rest hnext
            (ih rest.length (by lia) rest rfl)

theorem drain_raised {e : error} (buffer : List byte) (s : state)
    (h : (drain framer consumer buffer s).verdict = Verdict.raised e) :
    (exists reason s', consumer.refuse reason s' =
        (e, (drain framer consumer buffer s).state)) ∨
      (exists message s', consumer.consume message s' =
        Consumed.discard e (drain framer consumer buffer s).state) ∨
      exists d, d ∈ consumed framer consumer buffer s ∧
        consumer.consume d.2 d.1 =
          Consumed.fail e (drain framer consumer buffer s).state := by
  induction buffer using buffer_induction framer generalizing s with
  | incomplete buffer hnext =>
      rw [drain_incomplete framer consumer hnext] at h
      cases h
  | reject buffer reason hnext =>
      rw [drain_reject framer consumer hnext] at h ⊢
      cases h
      exact Or.inl ⟨reason, s, rfl⟩
  | frame buffer message rest hnext ih =>
      rw [drain_frame framer consumer hnext] at h ⊢
      rw [consumed_frame framer consumer hnext]
      cases hconsume : consumer.consume message s with
      | proceed s' =>
          simp only [hconsume] at h ⊢
          rcases ih s' h with hrefuse | hdiscard | ⟨d, hmem, hfail⟩
          · exact Or.inl hrefuse
          · exact Or.inr (Or.inl hdiscard)
          · exact Or.inr (Or.inr ⟨d, List.mem_cons_of_mem _ hmem, hfail⟩)
      | stop s' => simp [hconsume] at h
      | fail e' s' =>
          simp only [hconsume] at h
          cases h
          exact Or.inr (Or.inr ⟨(s, message), by simp, hconsume⟩)
      | discard e' s' =>
          simp only [hconsume] at h
          cases h
          exact Or.inr (Or.inl ⟨message, s, hconsume⟩)

theorem drain_of_fail {e : error} {d : state × List byte} {s' : state}
    (hfail : consumer.consume d.2 d.1 = Consumed.fail e s')
    (buffer : List byte) (s : state)
    (hmem : d ∈ consumed framer consumer buffer s) :
    (drain framer consumer buffer s).verdict = Verdict.raised e := by
  induction buffer using buffer_induction framer generalizing s with
  | incomplete buffer hnext =>
      rw [consumed_incomplete framer consumer hnext] at hmem
      cases hmem
  | reject buffer reason hnext =>
      rw [consumed_reject framer consumer hnext] at hmem
      cases hmem
  | frame buffer message rest hnext ih =>
      rw [consumed_frame framer consumer hnext] at hmem
      rw [drain_frame framer consumer hnext]
      cases hconsume : consumer.consume message s with
      | proceed s'' =>
          simp only [hconsume] at hmem ⊢
          rcases List.mem_cons.mp hmem with rfl | hrest
          · cases hconsume.symm.trans hfail
          · exact ih s'' hrest
      | stop s'' =>
          simp only [hconsume] at hmem
          cases List.mem_singleton.mp hmem
          cases hconsume.symm.trans hfail
      | fail e' s'' =>
          simp only [hconsume] at hmem
          cases List.mem_singleton.mp hmem
          cases hconsume.symm.trans hfail
          rfl
      | discard e' s'' =>
          simp only [hconsume] at hmem
          cases hmem

/-!
## Chunks

Bytes behind a halted drain change nothing but what is left unread; bytes
behind a waiting one are read on from where it waits.
-/

theorem drain_append_of_waiting (buffer more : List byte) (s : state)
    (h : (drain framer consumer buffer s).verdict = Verdict.waiting) :
    drain framer consumer (buffer ++ more) s =
      drain framer consumer ((drain framer consumer buffer s).rest ++ more)
        (drain framer consumer buffer s).state := by
  induction buffer using buffer_induction framer generalizing s with
  | incomplete buffer hnext =>
      rw [drain_incomplete framer consumer hnext]
  | reject buffer reason hnext =>
      rw [drain_reject framer consumer hnext] at h
      cases h
  | frame buffer message rest hnext ih =>
      rw [drain_frame framer consumer hnext] at h ⊢
      rw [drain_frame framer consumer (framer.frame_append hnext more)]
      cases hconsume : consumer.consume message s with
      | proceed s' =>
          rw [hconsume] at h
          exact ih s' h
      | stop s' => simp [hconsume] at h
      | fail e s' => simp [hconsume] at h
      | discard e s' => simp [hconsume] at h

theorem drain_append_of_halted (buffer more : List byte) (s : state)
    (h : (drain framer consumer buffer s).verdict ≠ Verdict.waiting) :
    exists unread, unread <:+ more ∧
      drain framer consumer (buffer ++ more) s =
        { drain framer consumer buffer s with
          rest := (drain framer consumer buffer s).rest ++ unread } := by
  induction buffer using buffer_induction framer generalizing s with
  | incomplete buffer hnext =>
      rw [drain_incomplete framer consumer hnext] at h
      exact absurd rfl h
  | reject buffer reason hnext =>
      refine ⟨[], List.nil_suffix, ?_⟩
      rw [drain_reject framer consumer hnext,
        drain_reject framer consumer (framer.reject_append hnext more)]
      rfl
  | frame buffer message rest hnext ih =>
      rw [drain_frame framer consumer hnext] at h ⊢
      rw [drain_frame framer consumer (framer.frame_append hnext more)]
      cases hconsume : consumer.consume message s with
      | proceed s' =>
          rw [hconsume] at h
          exact ih s' h
      | stop s' => exact ⟨more, List.suffix_rfl, rfl⟩
      | fail e s' => exact ⟨more, List.suffix_rfl, rfl⟩
      | discard e s' => exact ⟨[], List.nil_suffix, rfl⟩

/-- Drain chunk after chunk, up to the first one that halts. -/
def drainChunks : List (List byte) -> List byte -> state ->
    Drained byte error state
  | [], buffer, s => ⟨Verdict.waiting, s, buffer⟩
  | chunk :: chunks, buffer, s =>
      let first := drain framer consumer (buffer ++ chunk) s
      match first.verdict with
      | Verdict.waiting => drainChunks chunks first.rest first.state
      | Verdict.stopped => first
      | Verdict.raised _ => first

/-- Draining a cut stream ends with the verdict and the state of draining it
whole; only bytes behind a halt, which were never handed over, may be missing
from what is left unread. -/
theorem drainChunks_flatten (chunk : List byte) (chunks : List (List byte))
    (buffer : List byte) (s : state) :
    let cut := drainChunks framer consumer (chunk :: chunks) buffer s
    let whole :=
      drain framer consumer (buffer ++ (chunk :: chunks).flatten) s
    cut.verdict = whole.verdict ∧ cut.state = whole.state ∧
      (exists unread, unread <:+ chunks.flatten ∧
        whole.rest = cut.rest ++ unread) ∧
      (whole.verdict = Verdict.waiting -> cut.rest = whole.rest) := by
  induction chunks generalizing chunk buffer s with
  | nil =>
      simp only [drainChunks, List.flatten_cons, List.flatten_nil,
        List.append_nil]
      cases hverdict :
          (drain framer consumer (buffer ++ chunk) s).verdict with
      | waiting => simp
      | stopped => simp [hverdict]
      | raised e => simp [hverdict]
  | cons chunk' chunks ih =>
      have hflatten :
          buffer ++ (chunk :: chunk' :: chunks).flatten =
            (buffer ++ chunk) ++ (chunk' :: chunks).flatten := by
        simp
      simp only [hflatten]
      rw [drainChunks]
      cases hverdict :
          (drain framer consumer (buffer ++ chunk) s).verdict with
      | waiting =>
          rw [drain_append_of_waiting framer consumer _ _ s hverdict]
          obtain ⟨hv, hs, ⟨unread, hsuffix, hrest⟩, hwaiting⟩ :=
            ih chunk' (drain framer consumer (buffer ++ chunk) s).rest
              (drain framer consumer (buffer ++ chunk) s).state
          exact ⟨hv, hs,
            ⟨unread, hsuffix.trans (List.suffix_append chunk' _), hrest⟩,
            hwaiting⟩
      | stopped =>
          obtain ⟨unread, hsuffix, hwhole⟩ :=
            drain_append_of_halted framer consumer (buffer ++ chunk)
              (chunk' :: chunks).flatten s (by simp [hverdict])
          rw [hwhole]
          exact ⟨rfl, rfl, ⟨unread, hsuffix, rfl⟩, by simp [hverdict]⟩
      | raised e =>
          obtain ⟨unread, hsuffix, hwhole⟩ :=
            drain_append_of_halted framer consumer (buffer ++ chunk)
              (chunk' :: chunks).flatten s (by simp [hverdict])
          rw [hwhole]
          exact ⟨rfl, rfl, ⟨unread, hsuffix, rfl⟩, by simp [hverdict]⟩

/-!
## Invariants of a drain

A property of the state and of the messages consumed so far holds after a
drain when every message keeps it.
-/

theorem drain_induction {P : state -> List (state × List byte) -> Prop}
    (hrefuse : forall reason s past, P s past ->
      P (consumer.refuse reason s).2 past)
    (hdiscard : forall message s past e s', P s past ->
      consumer.consume message s = Consumed.discard e s' -> P s' past)
    (hconsume : forall buffer message rest s past,
      framer.next buffer = Next.frame message rest -> P s past ->
      (forall e s', consumer.consume message s ≠ Consumed.discard e s') ->
      P (consumer.consume message s).final (past ++ [(s, message)]))
    (buffer : List byte) (s : state) (past : List (state × List byte))
    (h : P s past) :
    P (drain framer consumer buffer s).state
      (past ++ consumed framer consumer buffer s) := by
  induction buffer using buffer_induction framer generalizing s past with
  | incomplete buffer hnext =>
      rw [drain_incomplete framer consumer hnext,
        consumed_incomplete framer consumer hnext]
      simpa using h
  | reject buffer reason hnext =>
      rw [drain_reject framer consumer hnext,
        consumed_reject framer consumer hnext]
      simpa using hrefuse reason s past h
  | frame buffer message rest hnext ih =>
      have hstep := hconsume buffer message rest s past hnext h
      rw [drain_frame framer consumer hnext,
        consumed_frame framer consumer hnext]
      cases hc : consumer.consume message s with
      | proceed s' =>
          rw [hc] at hstep
          have hrest := ih s' (past ++ [(s, message)]) (hstep (by simp))
          simpa using hrest
      | stop s' =>
          rw [hc] at hstep
          exact hstep (by simp)
      | fail e s' =>
          rw [hc] at hstep
          exact hstep (by simp)
      | discard e s' =>
          have hkeep := hdiscard message s past e s' h hc
          simpa using hkeep

/-!
## Where a drain ends

The buffer is the consumed messages and a tail.  Either the last message ended
the drain, or the drain ends as the drain of the tail alone does, which
consumes nothing.
-/

/-- The state after the last of the consumed messages. -/
def resumed (s : state) (past : List (state × List byte)) : state :=
  match past.getLast? with
  | none => s
  | some d => (consumer.consume d.2 d.1).final

theorem resumed_cons {s s' : state} {message : List byte}
    (h : (consumer.consume message s).final = s')
    (past : List (state × List byte)) :
    resumed consumer s ((s, message) :: past) = resumed consumer s' past := by
  unfold resumed
  cases past with
  | nil => simpa using h
  | cons d past =>
      rw [List.getLast?_cons_cons]
      cases hlast : (d :: past).getLast? with
      | none => simp at hlast
      | some last => rfl

theorem consumed_not_discard (buffer : List byte) (s : state) :
    forall d, d ∈ consumed framer consumer buffer s ->
      forall e s', consumer.consume d.2 d.1 ≠ Consumed.discard e s' := by
  induction buffer using buffer_induction framer generalizing s with
  | incomplete buffer hnext =>
      rw [consumed_incomplete framer consumer hnext]
      simp
  | reject buffer reason hnext =>
      rw [consumed_reject framer consumer hnext]
      simp
  | frame buffer message rest hnext ih =>
      rw [consumed_frame framer consumer hnext]
      cases hc : consumer.consume message s with
      | proceed s' =>
          intro d hmem
          rcases List.mem_cons.mp hmem with rfl | hmem
          · simp [hc]
          · exact ih s' d hmem
      | stop s' =>
          intro d hmem
          cases List.mem_singleton.mp hmem
          simp [hc]
      | fail e s' =>
          intro d hmem
          cases List.mem_singleton.mp hmem
          simp [hc]
      | discard e s' => simp

theorem drain_tail (buffer : List byte) (s : state) :
    exists tail,
      buffer =
        ((consumed framer consumer buffer s).map Prod.snd).flatten ++ tail ∧
      (drain framer consumer buffer s =
            drain framer consumer tail
              (resumed consumer s (consumed framer consumer buffer s)) ∧
          consumed framer consumer tail
            (resumed consumer s (consumed framer consumer buffer s)) = [] ∨
        (drain framer consumer buffer s).state =
            resumed consumer s (consumed framer consumer buffer s) ∧
          exists d, d ∈ consumed framer consumer buffer s ∧
            forall s', consumer.consume d.2 d.1 ≠ Consumed.proceed s') := by
  induction buffer using buffer_induction framer generalizing s with
  | incomplete buffer hnext =>
      have hnone := consumed_incomplete framer consumer hnext s
      exact ⟨buffer, by simp [hnone], Or.inl (by simp [hnone, resumed])⟩
  | reject buffer reason hnext =>
      have hnone := consumed_reject framer consumer hnext s
      exact ⟨buffer, by simp [hnone], Or.inl (by simp [hnone, resumed])⟩
  | frame buffer message rest hnext ih =>
      have hsplit := framer.frame_split hnext
      have hdrain := drain_frame framer consumer hnext s
      have hconsumed := consumed_frame framer consumer hnext s
      cases hc : consumer.consume message s with
      | proceed s' =>
          rw [hc] at hdrain hconsumed
          simp only at hdrain hconsumed
          obtain ⟨tail, htail, hends⟩ := ih s'
          have hfinal : (consumer.consume message s).final = s' := by rw [hc]; rfl
          rw [hdrain, hconsumed, resumed_cons consumer hfinal]
          refine ⟨tail, ?_, ?_⟩
          · rw [List.map_cons, List.flatten_cons, List.append_assoc, ← htail]
            exact hsplit
          · rcases hends with hends | ⟨hstate, d, hmem, hd⟩
            · exact Or.inl hends
            · exact Or.inr ⟨hstate, d, List.mem_cons_of_mem _ hmem, hd⟩
      | stop s' =>
          rw [hc] at hdrain hconsumed
          simp only at hdrain hconsumed
          rw [hdrain, hconsumed]
          refine ⟨rest, by simpa using hsplit, Or.inr ⟨?_, ?_⟩⟩
          · simp [resumed, hc, Consumed.final]
          · exact ⟨(s, message), List.mem_singleton.mpr rfl, by simp [hc]⟩
      | fail e s' =>
          rw [hc] at hdrain hconsumed
          simp only at hdrain hconsumed
          rw [hdrain, hconsumed]
          refine ⟨rest, by simpa using hsplit, Or.inr ⟨?_, ?_⟩⟩
          · simp [resumed, hc, Consumed.final]
          · exact ⟨(s, message), List.mem_singleton.mpr rfl, by simp [hc]⟩
      | discard e s' =>
          rw [hc] at hconsumed
          simp only at hconsumed
          rw [hconsumed]
          exact ⟨buffer, by simp, Or.inl (by simp [resumed, hconsumed])⟩

end Drain
end Foundation
end IntelAmt
