import IntelAmt.Redirection.Failures

/-!
# Segments of the stream

However the bytes of the peer come in, the handshake sends the same frames,
ends in the same way and leaves the same bytes for the next protocol.
-/

namespace IntelAmt
namespace Redirection

open Foundation

/-- The socket is open, nothing has failed, `cnonce` is what was drawn, and
`unread` is what is still to come of the bytes of the peer. -/
structure Delivers (hashes : Hashes) (session : RedirectionSession)
    (cnonce : List Char) (s : Bytes) (log : List (Exchange SocketAnswer))
    (unread : Bytes) : Prop where
  opened : exists opening rest, log = opening ++ rest ∧
    Script.After (openSocket hashes session) opening (Script.returned ())
  clean : (wire cnonce).Clean log
  drawn : (wire cnonce).Allowed log
  whole : peerBytes log ++ unread = s

/-- A start reply and one reply for each later frame, the last of them a
success. -/
def EndsWithSuccess (frames : List Bytes) (consumed : Bytes) : Prop :=
  exists (start : Bytes) (messages : List Bytes) (success : AuthReply)
    (message : Bytes), consumed = start ++ messages.flatten ++ message ∧
    IsStartReply start ∧
    (forall earlier, earlier ∈ messages ->
      exists reply, IsAuthReply reply earlier) ∧
    IsAuthReply success message ∧ success.status = 0 ∧
    frames.length = messages.length + 2

variable {hashes : Hashes} {session : RedirectionSession}
variable {cnonce : List Char} {s unread leftover : Bytes}
variable {log : List (Exchange SocketAnswer)}

/-- The messages up to the reply that decides. -/
theorem decided_messages {consumed : Bytes} {queries : List Bytes}
    {reply : AuthReply} (h : Decided session consumed queries reply) :
    exists (start : Bytes) (messages : List Bytes) (message : Bytes),
      consumed = start ++ messages.flatten ++ message ∧
      IsStartReply start ∧
      (forall earlier, earlier ∈ messages ->
        exists reply, IsAuthReply reply earlier) ∧
      IsAuthReply reply message ∧
      (askingFrames session queries).length = messages.length + 2 := by
  cases h with
  | @selects start message _ hstart hreply htype =>
      refine ⟨start, [], message, ?_, hstart, ?_, hreply, rfl⟩
      · simp
      · exact fun earlier hmem => nomatch hmem
  | @lists start listing message query first _ hstart hfirst htype hoffers
      hquery hreply =>
      refine ⟨start, [listing], message, ?_, hstart, ?_, hreply, rfl⟩
      · simp
      · intro earlier hmem
        rw [List.mem_singleton.mp hmem]
        exact ⟨first, hfirst⟩

theorem Settled.endsWithSuccess {consumed : Bytes} {events : List Event}
    (h : Settled hashes session cnonce consumed events) :
    EndsWithSuccess (events.filterMap Event.bytes) consumed := by
  cases h with
  | @waved _ queries reply hdecided hstatus htype =>
      rcases decided_messages hdecided with
        ⟨start, messages, message, hconsumed, hstart, hmessages, hreply,
          hlength⟩
      refine ⟨start, messages, reply, message, hconsumed, hstart, hmessages,
        hreply, hstatus, ?_⟩
      rw [frames_bytes]
      exact hlength
  | @answered consumed answer response queries reply last challenge hdecided
      hstatus htype hparse hresponse hlast hsuccess =>
      rcases decided_messages hdecided with
        ⟨start, messages, message, hconsumed, hstart, hmessages, hreply,
          hlength⟩
      refine ⟨start, messages ++ [message], last, answer, ?_, hstart, ?_,
        hlast, hsuccess, ?_⟩
      · rw [hconsumed]
        simp
      · intro earlier hmem
        rcases List.mem_append.mp hmem with hmem | hmem
        · exact hmessages earlier hmem
        · rw [List.mem_singleton.mp hmem]
          exact ⟨reply, hreply⟩
      · rw [List.filterMap_append, frames_bytes, List.length_append, hlength,
          List.length_append]
        rfl

theorem Delivers.heard {y : SocketScript Bytes}
    (hdelivers : Delivers hashes session cnonce s log unread)
    (h : Script.After (connect hashes session) log y) :
    exists rest x, y = ended x ∧ (wire cnonce).Clean rest ∧
      peerBytes rest ++ unread = s ∧
      sentFrames log = ((wire cnonce).events rest).filterMap Event.bytes ∧
      (wire cnonce).Heard Classified (Wire.handshake hashes session cnonce) []
        rest x := by
  rcases hdelivers.opened with ⟨opening, rest, hlog, hopened⟩
  rcases opened_transcript hopened with ⟨hpeer, hsent, _⟩
  have hclean := hdelivers.clean
  have hdrawn := hdelivers.drawn
  have hwhole := hdelivers.whole
  rw [hlog] at h hclean hdrawn hwhole
  rcases (connect_opened hopened).mp h with ⟨x, hx, hy⟩
  rw [hpeer] at hwhole
  have hrest := ((wire cnonce).allowed_append.mp hdrawn).2
  refine ⟨rest, x, hy, ((wire cnonce).clean_append.mp hclean).2, hwhole, ?_,
    handshake_follows [] rest x hrest hx⟩
  rw [hlog, hsent, sentFrames_eq]

/-- A string that one delivery completes a handshake with is read in the same
way by every other delivery: the same frames are sent, nothing fails, nothing
is waited for that does not come, and what is read ends with the success
message. -/
theorem handshake_segmentation
    (hdelivers : Delivers hashes session cnonce s log unread)
    (h : Script.After (connect hashes session) log
      (Script.returned leftover)) :
    exists consumed, EndsWithSuccess (sentFrames log) consumed ∧
      s = consumed ++ leftover ++ unread ∧
      forall log' unread' y,
        Delivers hashes session cnonce s log' unread' ->
        Script.After (connect hashes session) log' y ->
        match y with
        | Script.returned leftover' =>
            sentFrames log' = sentFrames log ∧
              s = consumed ++ leftover' ++ unread'
        | Script.raised _ => False
        | Script.call o _ =>
            sentFrames log' <+: sentFrames log ∧
              (waits o = true -> unread' ≠ []) := by
  rcases hdelivers.heard h with ⟨rest, x, hx, _, hwhole, hsent, hheard⟩
  rcases ended_eq_returned hx.symm with ⟨u, hreturned⟩
  rw [hreturned] at hheard
  have hdone := hheard.2 unread
  rw [List.nil_append, received_eq, hwhole] at hdone
  rcases handshake_done hdone with ⟨consumed, hsettled, hs⟩
  refine ⟨consumed, ?_, ?_, ?_⟩
  · rw [hsent]
    exact hsettled.endsWithSuccess
  · rw [hs, List.append_assoc]
  · intro log' unread' y hdelivers' h'
    rcases hdelivers'.heard h' with
      ⟨rest', x', hx', hclean', hwhole', hsent', hheard'⟩
    rw [hx']
    cases x' with
    | returned r =>
        have hdone' := hheard'.2 unread'
        rw [List.nil_append, received_eq, hwhole', hdone] at hdone'
        rcases Prod.mk.inj hdone' with ⟨hevents, houtcome⟩
        rcases Outcome.done.inj houtcome with ⟨_, hrest⟩
        constructor
        · rw [hsent', hsent, hevents]
        · rw [List.append_assoc, ← hrest]
          exact hs
    | raised e =>
        rcases hheard' with ⟨_, hfailed⟩ | ⟨hnot, _⟩
        · have hthis := hfailed unread'
          rw [List.nil_append, received_eq, hwhole', hdone] at hthis
          cases (Prod.mk.inj hthis).2
        · exact hnot hclean'
    | call o next =>
        rcases hheard' with ⟨_, hbegins, hstarved⟩
        constructor
        · have hthis := hbegins unread'
          rw [List.nil_append, received_eq, hwhole', hdone] at hthis
          rw [hsent', hsent]
          exact hthis.filterMap Event.bytes
        · intro hwaits hnone
          have hthis := hstarved hwaits
          rw [hnone, List.append_nil] at hwhole'
          rw [List.nil_append, received_eq, hwhole', hdone] at hthis
          cases (Prod.mk.inj hthis).2

/-!
## A delivery
-/

def plainCnonce : List Char := "00112233445566778899aabbccddeeff".toList

theorem connected_draws (chunks : List Bytes) :
    (wire plainCnonce).Allowed (connected chunks).1 := by
  intro exchange hmem
  rcases Script.mem_recorded hmem with ⟨k, hexchange⟩
  rw [hexchange]
  generalize exchange.1 = o
  cases o with
  | tokenHex size => rfl
  | _ => trivial

theorem connected_delivers {chunks : List Bytes}
    (hopened : exists rest, (connected chunks).1 = opened ++ rest)
    (hclean : ((connected chunks).1.all fun exchange =>
      !(wire plainCnonce).faulty exchange) = true) :
    Delivers hashlib plainSession plainCnonce (peerBytes (connected chunks).1)
      (connected chunks).1 [] where
  opened := by
    rcases hopened with ⟨rest, hlog⟩
    exact ⟨opened, rest, hlog, opened_after⟩
  clean := by
    intro exchange hmem
    have hthis := List.all_eq_true.mp hclean exchange hmem
    rw [Bool.not_eq_true'] at hthis
    exact hthis
  drawn := connected_draws chunks
  whole := List.append_nil _

/-- The bytes of `challengingPeer`, the first reply of them in two pieces. -/
def recutPeer : List Bytes :=
  [[], [], startReplyBytes.take 5, startReplyBytes.drop 5] ++
    challengingPeer.drop 3

theorem handshake_delivered :
    exists consumed leftover,
      Script.After (connect hashlib plainSession) (connected challengingPeer).1
          (Script.returned leftover) ∧
        EndsWithSuccess (sentFrames (connected challengingPeer).1) consumed ∧
        Script.After (connect hashlib plainSession) (connected recutPeer).1
          (Script.returned leftover) ∧
        sentFrames (connected recutPeer).1 =
          sentFrames (connected challengingPeer).1 ∧
        peerBytes (connected recutPeer).1 = consumed ++ leftover ++ [] := by
  have hresult : (connected challengingPeer).2.result = some [0x40, 1] := by
    decide +kernel
  have hrecut : (connected recutPeer).2.result = some [0x40, 1] := by
    decide +kernel
  have hafter := connected_after challengingPeer
  have hafter' := connected_after recutPeer
  rw [Script.eq_returned_of_result hresult] at hafter
  rw [Script.eq_returned_of_result hrecut] at hafter'
  have hdelivers := connected_delivers
    (show exists rest, (connected challengingPeer).1 = opened ++ rest from
      ⟨_, rfl⟩) (by decide +kernel)
  have hdelivers' := connected_delivers
    (show exists rest, (connected recutPeer).1 = opened ++ rest from
      ⟨_, rfl⟩) (by decide +kernel)
  have hsame : peerBytes (connected recutPeer).1 =
      peerBytes (connected challengingPeer).1 := by
    decide +kernel
  rw [hsame] at hdelivers'
  rcases handshake_segmentation hdelivers hafter with
    ⟨consumed, hends, hwhole, hother⟩
  rcases hother _ _ _ hdelivers' hafter' with ⟨hframes, hbytes⟩
  exact ⟨consumed, _, hafter, hends, hafter', hframes, hsame.trans hbytes⟩

end Redirection
end IntelAmt
