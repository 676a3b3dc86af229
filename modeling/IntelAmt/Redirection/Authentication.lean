import IntelAmt.Redirection.Connections

/-!
# What authentication is

`connect` returns when the firmware has reported success.  It has been
authenticated by a digest exactly when the reply that decides was a
challenge: the firmware can also report success at once, and is believed.
-/

namespace IntelAmt
namespace Redirection

open Foundation

/-- A challenge for a digest with cnonce. -/
def IsChallenge (reply : AuthReply) : Prop :=
  reply.status = 1 ∧ reply.authType = requiredAuthType

/-- What the peer sends decides for a challenge. -/
def Challenged (session : RedirectionSession) (s : Bytes) : Prop :=
  exists reply, Decides session s reply ∧ IsChallenge reply

/-- The peer has issued a challenge, the client has sent one answer to it and
no other frame behind its questions, and the reply to the answer is a
success. -/
def Authenticated (hashes : Hashes) (session : RedirectionSession)
    (log : List (Exchange SocketAnswer)) (leftover : Bytes) : Prop :=
  exists consumed queries reply challenge size cnonce response message last,
    Decided session consumed queries reply ∧ IsChallenge reply ∧
    parseChallenge reply.authData = Except.ok challenge ∧
    ⟨SocketOp.tokenHex size, cnonce⟩ ∈ log ∧
    digestFrame hashes session challenge cnonce = Except.ok response ∧
    sentFrames log = askingFrames session queries ++ [response] ∧
    IsAuthReply last message ∧ last.status = 0 ∧
    peerBytes log = consumed ++ message ++ leftover

variable {hashes : Hashes} {session : RedirectionSession}
variable {log : List (Exchange SocketAnswer)} {leftover : Bytes}

theorem frames_bytes (frames : List Bytes) :
    (frames.map Event.frame).filterMap Event.bytes = frames := by
  rw [List.filterMap_map]
  exact List.filterMap_some

theorem draw_notMem_frames (frames : List Bytes) :
    Event.draw ∉ frames.map Event.frame := by
  intro hmem
  rcases List.mem_map.mp hmem with ⟨frame, _, hframe⟩
  cases hframe

theorem opened_transcript {opening rest : List (Exchange SocketAnswer)}
    {x : SocketScript Unit}
    (h : Script.After (openSocket hashes session) opening x) :
    peerBytes (opening ++ rest) = peerBytes rest ∧
      sentFrames (opening ++ rest) = sentFrames rest ∧
      (HasDrawn (opening ++ rest) ↔ HasDrawn rest) := by
  rcases opening_quiet h with ⟨hbytes, hframes, hdrawn⟩
  refine ⟨?_, ?_, ?_⟩
  · rw [peerBytes_append, hbytes, List.nil_append]
  · rw [sentFrames_append, hframes, List.nil_append]
  · constructor
    · rintro ⟨exchange, hmem, hdraw⟩
      rcases List.mem_append.mp hmem with hmem | hmem
      · exact absurd ⟨exchange, hmem, hdraw⟩ hdrawn
      · exact ⟨exchange, hmem, hdraw⟩
    · rintro ⟨exchange, hmem, hdraw⟩
      exact ⟨exchange, List.mem_append_right _ hmem, hdraw⟩

theorem ended_eq_returned {x : SocketScript (Unit × Bytes)}
    (h : ended x = Script.returned leftover) :
    exists u, x = Script.returned (u, leftover) := by
  cases x with
  | returned r =>
      cases h
      exact ⟨r.1, rfl⟩
  | raised e => cases h
  | call o next => cases h

theorem connect_returned
    (h : Script.After (connect hashes session) log
      (Script.returned leftover)) :
    exists cnonce consumed events, (wire cnonce).Allowed log ∧
      Settled hashes session cnonce consumed events ∧
      peerBytes log = consumed ++ leftover ∧
      sentFrames log = events.filterMap Event.bytes ∧
      (HasDrawn log ↔ Event.draw ∈ events) := by
  rcases connect_cases h with
    ⟨x, _, hopen, hx⟩ | ⟨opening, rest, x, hlog, hopening, hrest, hx⟩
  · cases x with
    | returned u => exact absurd rfl hopen
    | raised e => cases hx
    | call o next => cases hx
  · rcases ended_eq_returned hx.symm with ⟨u, hreturned⟩
    rw [hreturned] at hrest
    rcases exists_cnonce hrest with ⟨cnonce, hallowed⟩
    rcases handshake_follows [] rest _ hallowed hrest with ⟨_, hdone⟩
    have hthis := hdone []
    rw [List.nil_append, List.append_nil, List.append_nil, received_eq]
      at hthis
    rcases handshake_done hthis with ⟨consumed, hsettled, hbytes⟩
    rcases opened_transcript hopening with ⟨hpeer, hsent, hdrawn⟩
    refine ⟨cnonce, consumed, _, ?_, hsettled, ?_, ?_, ?_⟩
    · rw [hlog]
      refine (wire cnonce).allowed_append.mpr ⟨?_, hallowed⟩
      intro exchange hmem
      apply draws_of_not
      exact (quiet_of_opens
        (Script.after_uses (openSocket_uses _ _) hopening exchange hmem)).2.2
    · rw [hlog, hpeer]
      exact hbytes
    · rw [hlog, hsent, sentFrames_eq]
    · rw [hlog, hdrawn, hasDrawn_iff]

/-- A connection that stands is authenticated exactly when the peer has
decided for a challenge. -/
theorem connect_authenticated_iff
    (h : Script.After (connect hashes session) log
      (Script.returned leftover)) :
    Authenticated hashes session log leftover ↔
      Challenged session (peerBytes log) := by
  rcases connect_returned h with
    ⟨cnonce, consumed, events, hallowed, hsettled, hbytes, hsent, hdrawn⟩
  cases hsettled with
  | @waved _ queries reply hdecided hstatus htype =>
      constructor
      · rintro ⟨_, _, _, _, size, drawn, _, _, _, _, _, _, hmem, _⟩
        have hdraw : HasDrawn log := ⟨_, hmem, rfl⟩
        exact absurd (hdrawn.mp hdraw) (draw_notMem_frames _)
      · rintro ⟨other, hdecides, hchallenge⟩
        have hthis : Decides session (peerBytes log) reply :=
          ⟨consumed, queries, leftover, hbytes, hdecided⟩
        rw [← decides_unique hthis hdecides] at hchallenge
        rw [hchallenge.1] at hstatus
        cases hstatus
  | @answered consumed message response queries reply last challenge hdecided
      hstatus htype hparse hresponse hlast hsuccess =>
      constructor
      · intro _
        refine ⟨reply, ⟨consumed, queries, message ++ leftover, ?_, hdecided⟩,
          hstatus, htype⟩
        rw [hbytes, List.append_assoc]
      · intro _
        have hdraw : HasDrawn log := hdrawn.mpr (by simp)
        rcases hdraw.drawn hallowed with ⟨size, hmem⟩
        refine ⟨consumed, queries, reply, challenge, size, cnonce, response,
          message, last, hdecided, ⟨hstatus, htype⟩, hparse, hmem, hresponse,
          ?_, hlast, hsuccess, hbytes⟩
        rw [hsent, List.filterMap_append, frames_bytes]
        rfl

/-!
## Two runs
-/

section Runs

def plainSession : RedirectionSession :=
  RedirectionSession.create "10.0.0.1" "admin" "secret" false none none 10
    startSessionIder

/-- Everything works, and the chunk for each position is given. -/
def plainPeer (chunks : List Bytes) (position : Nat) :
    (o : SocketOp) -> SocketAnswer o
  | SocketOp.createConnection _ _ _ => Connecting.connected
  | SocketOp.wrapSocket _ => Wrapping.wrapped
  | SocketOp.close => ()
  | SocketOp.getPeerCert => none
  | SocketOp.sendAll _ => Sending.sent
  | SocketOp.recv _ => Receiving.data (chunks.getD position [])
  | SocketOp.tokenHex _ => "00112233445566778899aabbccddeeff".toList

def connected (chunks : List Bytes) :
    List (Exchange SocketAnswer) × SocketScript Bytes :=
  Script.recorded (plainPeer chunks) 12 0 (connect hashlib plainSession)

theorem connected_after (chunks : List Bytes) :
    Script.After (connect hashlib plainSession) (connected chunks).1
      (connected chunks).2 :=
  Script.after_recorded _ _ _ _

def startReplyBytes : Bytes := [0x11, 0, 0, 0, 0, 0, 0, 0, 0, 0, 0, 0, 0]

/-- An AuthenticateSessionReply. -/
def authReplyBytes (status authType : UInt8) (authData : Bytes) : Bytes :=
  [0x14, status, 0, 0, authType] ++ packLE 4 authData.length ++ authData

/-- A firmware that reports success at once, under a type that is not even
the one that is required. -/
def wavingPeer : List Bytes :=
  [[], [], startReplyBytes, [], authReplyBytes 0 2 []]

theorem connect_not_authenticated :
    exists log leftover,
      Script.After (connect hashlib plainSession) log
          (Script.returned leftover) ∧
        ¬ Authenticated hashlib plainSession log leftover := by
  have hresult : (connected wavingPeer).2.result = some [] := by
    decide +kernel
  have hdrawless :
      ((connected wavingPeer).1.all fun exchange => !isDraw exchange.1) =
        true := by
    decide +kernel
  refine ⟨(connected wavingPeer).1, [], ?_, ?_⟩
  · rw [← Script.eq_returned_of_result hresult]
    exact connected_after wavingPeer
  · rintro ⟨_, _, _, _, size, cnonce, _, _, _, _, _, _, hmem, _⟩
    have hthis := List.all_eq_true.mp hdrawless _ hmem
    cases hthis

/-- A firmware that lists its types and issues a challenge; the bytes behind
its success belong to the next protocol. -/
def challengingPeer : List Bytes :=
  [[], [], startReplyBytes, [], authReplyBytes 0 0 [1, 3, 4], [],
    authReplyBytes 1 4
      ([4] ++ encodeUtf8 "Dlgs".toList ++ [5] ++ encodeUtf8 "n0nce".toList ++
        [4] ++ encodeUtf8 "auth".toList), [], [],
    authReplyBytes 0 4 [] ++ [0x40, 1]]

theorem connect_authenticated :
    exists log leftover,
      Script.After (connect hashlib plainSession) log
          (Script.returned leftover) ∧
        (Authenticated hashlib plainSession log leftover ↔
          Challenged plainSession (peerBytes log)) := by
  have hresult : (connected challengingPeer).2.result = some [0x40, 1] := by
    decide +kernel
  have hafter := connected_after challengingPeer
  rw [Script.eq_returned_of_result hresult] at hafter
  exact ⟨_, _, hafter, connect_authenticated_iff hafter⟩

end Runs

end Redirection
end IntelAmt
