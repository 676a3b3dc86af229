import IntelAmt.Foundation.Framing
import Mathlib.Data.List.Infix

/-!
# Streams of whole messages

A stream that its sender made of whole messages.  Whatever part of it has come
in, a drain consumes messages of the sender, in the order in which they were
sent, none of them twice, and what it leaves unread is the rest of the stream.
-/

namespace IntelAmt
namespace Foundation

variable {byte rejection error state : Type}

section Serving

variable (consumer : Consumer byte rejection error state)

/-- The state behind some messages. -/
def servedBy (s : state) (messages : List (List byte)) : state :=
  messages.foldl (fun s message => (consumer.consume message s).final) s

/-- Some messages, each with the state that it meets. -/
def metBy : state -> List (List byte) -> List (state × List byte)
  | _, [] => []
  | s, message :: messages =>
      (s, message) :: metBy (consumer.consume message s).final messages

@[simp] theorem servedBy_nil (s : state) : servedBy consumer s [] = s := rfl

theorem servedBy_cons (s : state) (message : List byte)
    (messages : List (List byte)) :
    servedBy consumer s (message :: messages) =
      servedBy consumer (consumer.consume message s).final messages := rfl

theorem servedBy_append (s : state) (messages more : List (List byte)) :
    servedBy consumer s (messages ++ more) =
      servedBy consumer (servedBy consumer s messages) more :=
  List.foldl_append

theorem metBy_append (s : state) (messages more : List (List byte)) :
    metBy consumer s (messages ++ more) =
      metBy consumer s messages ++
        metBy consumer (servedBy consumer s messages) more := by
  induction messages generalizing s with
  | nil => rfl
  | cons message messages ih =>
      rw [List.cons_append, metBy, ih, servedBy_cons]
      rfl

@[simp] theorem metBy_messages (s : state) (messages : List (List byte)) :
    (metBy consumer s messages).map Prod.snd = messages := by
  induction messages generalizing s with
  | nil => rfl
  | cons message messages ih => rw [metBy, List.map_cons, ih]

/-- Every message goes through, and `P` holds in front of each of them and
behind the last. -/
def Proceeds (P : state -> Prop) : state -> List (List byte) -> Prop
  | s, [] => P s
  | s, message :: messages =>
      P s ∧ exists s', consumer.consume message s = Consumed.proceed s' ∧
        Proceeds P s' messages

namespace Proceeds

variable {consumer} {P : state -> Prop} {s : state}
variable {messages : List (List byte)}

theorem append {more : List (List byte)}
    (h : Proceeds consumer P s messages)
    (hmore : Proceeds consumer P (servedBy consumer s messages) more) :
    Proceeds consumer P s (messages ++ more) := by
  induction messages generalizing s with
  | nil => exact hmore
  | cons message messages ih =>
      rcases h with ⟨hhere, s', hproceed, hrest⟩
      rw [servedBy_cons, hproceed] at hmore
      exact ⟨hhere, s', hproceed, ih hrest hmore⟩

theorem here (h : Proceeds consumer P s messages) : P s := by
  cases messages with
  | nil => exact h
  | cons message messages => exact h.1

theorem first {taken left : List (List byte)}
    (h : Proceeds consumer P s (taken ++ left)) :
    P (servedBy consumer s taken) ∧
      forall d, d ∈ metBy consumer s taken ->
        exists s', consumer.consume d.2 d.1 = Consumed.proceed s' := by
  induction taken generalizing s with
  | nil => exact ⟨h.here, fun d hd => absurd hd List.not_mem_nil⟩
  | cons message taken ih =>
      rcases h with ⟨_, s', hproceed, hrest⟩
      have hthen := ih hrest
      rw [servedBy_cons, metBy, hproceed]
      refine ⟨hthen.1, ?_⟩
      intro d hd
      rcases List.mem_cons.mp hd with rfl | hmem
      · exact ⟨s', hproceed⟩
      · exact hthen.2 d hmem

end Proceeds

end Serving

/-- A message that the framer cuts off whatever follows it. -/
def Framer.Whole (framer : Framer byte rejection) (message : List byte) :
    Prop :=
  forall more, framer.next (message ++ more) = Next.frame message more

section Drain

variable {framer : Framer byte rejection}
variable {consumer : Consumer byte rejection error state}

/-- What a sender says that is taken in order. -/
structure Orderly (framer : Framer byte rejection)
    (consumer : Consumer byte rejection error state)
    (P : state -> List (List byte) -> Prop) : Prop where
  whole : forall {s message messages}, P s (message :: messages) ->
    framer.Whole message
  taken : forall {s message messages}, P s (message :: messages) ->
    forall e s', consumer.consume message s ≠ Consumed.discard e s'
  next : forall {s message messages}, P s (message :: messages) ->
    P (consumer.consume message s).final messages

/-- Of what comes behind the messages no message is taken, whatever part of it
has come in. -/
def Turned (framer : Framer byte rejection)
    (consumer : Consumer byte rejection error state) (noise : List byte)
    (s : state) : Prop :=
  forall buffer later message rest, buffer ++ later = noise ->
    framer.next buffer = Next.frame message rest ->
      exists e s', consumer.consume message s = Consumed.discard e s'

/-- A drain that has gone no further than the messages. -/
structure Took (framer : Framer byte rejection)
    (consumer : Consumer byte rejection error state)
    (noise buffer later : List byte) (s : state)
    (taken left : List (List byte)) : Prop where
  state : (drain framer consumer buffer s).state = servedBy consumer s taken
  rest : (drain framer consumer buffer s).rest ++ later =
    left.flatten ++ noise
  waiting : (drain framer consumer buffer s).verdict = Verdict.waiting ->
    framer.next (drain framer consumer buffer s).rest = Next.incomplete
  raised : forall e,
    (drain framer consumer buffer s).verdict = Verdict.raised e ->
    exists d s', d ∈ metBy consumer s taken ∧
      consumer.consume d.2 d.1 = Consumed.fail e s'

/-- A drain that has turned away what comes behind the messages. -/
structure Balked (framer : Framer byte rejection)
    (consumer : Consumer byte rejection error state)
    (noise buffer : List byte) (s : state) (taken left : List (List byte)) :
    Prop where
  left : left = []
  noise : noise ≠ []
  raised : exists e,
    (drain framer consumer buffer s).verdict = Verdict.raised e ∧
      ((exists reason, consumer.refuse reason (servedBy consumer s taken) =
          (e, (drain framer consumer buffer s).state)) ∨
        exists message, consumer.consume message (servedBy consumer s taken) =
          Consumed.discard e (drain framer consumer buffer s).state)

/-- How a drain leaves a stream of which `messages` were still to come, and
`noise` behind them. -/
structure Drains (framer : Framer byte rejection)
    (consumer : Consumer byte rejection error state)
    (noise buffer later : List byte) (s : state)
    (messages taken left : List (List byte)) : Prop where
  messages : messages = taken ++ left
  consumed : consumed framer consumer buffer s = metBy consumer s taken
  outcome : Took framer consumer noise buffer later s taken left ∨
    Balked framer consumer noise buffer s taken left

variable {noise buffer later : List byte} {s : state}
variable {message rest : List byte} {messages taken left : List (List byte)}

theorem Drains.took (h : Drains framer consumer noise buffer later s messages
      taken left)
    (hwaiting : (drain framer consumer buffer s).verdict = Verdict.waiting) :
    Took framer consumer noise buffer later s taken left := by
  rcases h.outcome with htook | hbalked
  · exact htook
  · rcases hbalked.raised with ⟨e, hverdict, _⟩
    rw [hwaiting] at hverdict
    cases hverdict

theorem drains_incomplete (hnext : framer.next buffer = Next.incomplete)
    (hstream : buffer ++ later = messages.flatten ++ noise) :
    Drains framer consumer noise buffer later s messages [] messages := by
  refine ⟨rfl, ?_, Or.inl ⟨?_, ?_, ?_, ?_⟩⟩
  · rw [consumed_incomplete framer consumer hnext]
    rfl
  · rw [drain_incomplete framer consumer hnext]
    rfl
  · rw [drain_incomplete framer consumer hnext]
    exact hstream
  · intro _
    rw [drain_incomplete framer consumer hnext]
    exact hnext
  · intro e hraised
    rw [drain_incomplete framer consumer hnext] at hraised
    cases hraised

/-- Behind the messages nothing is taken. -/
theorem drains_noise (hempty : framer.next [] = Next.incomplete)
    (hturned : Turned framer consumer noise s)
    (hstream : buffer ++ later = noise) :
    Drains framer consumer noise buffer later s [] [] [] := by
  have hnoise : framer.next buffer ≠ Next.incomplete -> noise ≠ [] := by
    intro hnext hnone
    rw [hnone] at hstream
    exact hnext ((List.append_eq_nil_iff.mp hstream).1 ▸ hempty)
  cases hnext : framer.next buffer with
  | incomplete => exact drains_incomplete hnext (by simpa using hstream)
  | reject reason =>
      have hdrain := drain_reject framer consumer hnext s
      refine ⟨rfl, by rw [consumed_reject framer consumer hnext]; rfl,
        Or.inr ⟨rfl, hnoise (by simp [hnext]), ?_⟩⟩
      rw [hdrain]
      exact ⟨_, rfl, Or.inl ⟨reason, rfl⟩⟩
  | frame message rest =>
      rcases hturned _ _ _ _ hstream hnext with ⟨e, s', hdiscard⟩
      have hdrain := drain_frame framer consumer hnext s
      have hconsumed := consumed_frame framer consumer hnext s
      rw [hdiscard] at hdrain hconsumed
      refine ⟨rfl, hconsumed, Or.inr ⟨rfl, hnoise (by simp [hnext]), ?_⟩⟩
      rw [hdrain]
      exact ⟨_, rfl, Or.inr ⟨message, hdiscard⟩⟩

theorem drains_proceed {s' : state}
    (hnext : framer.next buffer = Next.frame message rest)
    (hconsume : consumer.consume message s = Consumed.proceed s')
    (h : Drains framer consumer noise rest later s' messages taken left) :
    Drains framer consumer noise buffer later s (message :: messages)
      (message :: taken) left := by
  have hdrain := drain_frame framer consumer hnext s
  have hconsumed := consumed_frame framer consumer hnext s
  rw [hconsume] at hdrain hconsumed
  simp only at hdrain hconsumed
  have hfinal : (consumer.consume message s).final = s' := by
    rw [hconsume]
    rfl
  have hserved : servedBy consumer s (message :: taken) =
      servedBy consumer s' taken := by
    rw [servedBy_cons, hfinal]
  refine ⟨by rw [h.messages]; rfl, ?_, ?_⟩
  · rw [hconsumed, metBy, hfinal]
    exact congrArg _ h.consumed
  rcases h.outcome with htook | hbalked
  · refine Or.inl ⟨?_, ?_, ?_, ?_⟩
    · rw [hdrain, hserved]
      exact htook.state
    · rw [hdrain]
      exact htook.rest
    · rw [hdrain]
      exact htook.waiting
    · intro e hraised
      rw [hdrain] at hraised
      rcases htook.raised e hraised with ⟨d, s'', hmem, hfail⟩
      rw [metBy, hfinal]
      exact ⟨d, s'', List.mem_cons_of_mem _ hmem, hfail⟩
  · refine Or.inr ⟨hbalked.left, hbalked.noise, ?_⟩
    rw [hdrain, hserved]
    exact hbalked.raised

theorem drains_ended {verdict : Verdict error}
    (hdrain : drain framer consumer buffer s =
      ⟨verdict, (consumer.consume message s).final, rest⟩)
    (hconsumed : consumed framer consumer buffer s = [(s, message)])
    (hnot : verdict ≠ Verdict.waiting)
    (hfail : forall e, verdict = Verdict.raised e ->
      exists s', consumer.consume message s = Consumed.fail e s')
    (hrest : rest ++ later = messages.flatten ++ noise) :
    Drains framer consumer noise buffer later s (message :: messages)
      [message] messages := by
  refine ⟨rfl, hconsumed, Or.inl ⟨by rw [hdrain]; rfl, ?_, ?_, ?_⟩⟩
  · rw [hdrain]
    exact hrest
  · intro hwaiting
    rw [hdrain] at hwaiting
    exact absurd hwaiting hnot
  · intro e hraised
    rw [hdrain] at hraised
    rcases hfail e hraised with ⟨s', hs'⟩
    exact ⟨(s, message), s', List.mem_singleton.mpr rfl, hs'⟩

theorem drains_of_orderly {P : state -> List (List byte) -> Prop}
    (hempty : framer.next [] = Next.incomplete)
    (horderly : Orderly framer consumer P)
    (hturned : forall {s}, P s [] -> Turned framer consumer noise s)
    (buffer : List byte) {s : state} {messages : List (List byte)}
    (hstream : buffer ++ later = messages.flatten ++ noise)
    (h : P s messages) :
    exists taken left,
      Drains framer consumer noise buffer later s messages taken left := by
  induction buffer using buffer_induction framer generalizing s messages with
  | incomplete buffer hnext =>
      exact ⟨[], messages, drains_incomplete hnext hstream⟩
  | reject buffer reason hnext =>
      have hall := framer.reject_append hnext later
      rw [hstream] at hall
      cases messages with
      | nil => exact ⟨[], [], drains_noise hempty (hturned h) hstream⟩
      | cons message messages =>
          rw [List.flatten_cons, List.append_assoc, horderly.whole h] at hall
          cases hall
  | frame buffer cut rest hnext ih =>
      have hall := framer.frame_append hnext later
      rw [hstream] at hall
      cases messages with
      | nil => exact ⟨[], [], drains_noise hempty (hturned h) hstream⟩
      | cons message messages =>
          rw [List.flatten_cons, List.append_assoc, horderly.whole h,
            Next.frame.injEq] at hall
          rcases hall with ⟨hfirst, hrest⟩
          subst hfirst
          have hthen := horderly.next h
          have hdrain := drain_frame framer consumer hnext s
          have hconsumed := consumed_frame framer consumer hnext s
          cases hc : consumer.consume message s with
          | proceed s' =>
              rw [hc] at hthen
              rcases ih hrest.symm hthen with ⟨taken, left, htail⟩
              exact ⟨_, _, drains_proceed hnext hc htail⟩
          | stop s' =>
              rw [hc] at hdrain hconsumed
              exact ⟨_, _, drains_ended (by rw [hdrain, hc]; rfl) hconsumed
                (by simp) (by simp) hrest.symm⟩
          | fail e s' =>
              rw [hc] at hdrain hconsumed
              refine ⟨_, _, drains_ended (by rw [hdrain, hc]; rfl) hconsumed
                (by simp) ?_ hrest.symm⟩
              intro e' hraised
              cases hraised
              exact ⟨s', hc⟩
          | discard e s' => exact absurd hc (horderly.taken h e s')

end Drain
end Foundation
end IntelAmt
