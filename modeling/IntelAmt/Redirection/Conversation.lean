import IntelAmt.Redirection.Following

/-!
# The conversation of a connection

What a run of `connect` has received and sent, told by the messages of the
peer: the reply that decides, the challenge and its answer.
-/

namespace IntelAmt
namespace Redirection

open Foundation

/-!
## Transcripts
-/

def chunkOf : Exchange SocketAnswer -> Bytes
  | ⟨SocketOp.recv _, Receiving.data chunk⟩ => chunk
  | _ => []

/-- What the peer has sent so far. -/
def peerBytes (log : List (Exchange SocketAnswer)) : Bytes :=
  log.flatMap chunkOf

def frameOf : Exchange SocketAnswer -> Option Bytes
  | ⟨SocketOp.sendAll frame, _⟩ => some frame
  | _ => none

/-- The frames that were handed to the socket, whatever became of them. -/
def sentFrames (log : List (Exchange SocketAnswer)) : List Bytes :=
  log.filterMap frameOf

def isDraw : SocketOp -> Bool
  | SocketOp.tokenHex _ => true
  | _ => false

/-- The client has made a cnonce, which it does to answer a challenge. -/
def HasDrawn (log : List (Exchange SocketAnswer)) : Prop :=
  exists exchange, exchange ∈ log ∧ isDraw exchange.1 = true

def Event.bytes : Event -> Option Bytes
  | Event.frame bytes => some bytes
  | Event.draw => none

variable {cnonce : List Char} {log : List (Exchange SocketAnswer)}

theorem bytesIn_eq (exchange : Exchange SocketAnswer) :
    (wire cnonce).bytesIn exchange = chunkOf exchange := by
  rcases exchange with ⟨o, a⟩
  cases o with
  | recv size =>
      cases a with
      | data chunk => cases chunk <;> rfl
      | timeout => rfl
      | failed reason => rfl
  | sendAll frame => cases a <;> rfl
  | createConnection _ _ _ => rfl
  | wrapSocket _ => rfl
  | close => rfl
  | getPeerCert => rfl
  | tokenHex _ => rfl

theorem received_eq : (wire cnonce).received log = peerBytes log := by
  rw [Channel.received, peerBytes]
  congr 1
  funext exchange
  exact bytesIn_eq exchange

theorem eventIn_eq (exchange : Exchange SocketAnswer) :
    (wire cnonce).eventIn exchange =
      if isDraw exchange.1 then some Event.draw
      else (frameOf exchange).map Event.frame := by
  rcases exchange with ⟨o, a⟩
  cases o with
  | recv size =>
      cases a with
      | data chunk => cases chunk <;> rfl
      | timeout => rfl
      | failed reason => rfl
  | sendAll frame => cases a <;> rfl
  | createConnection _ _ _ => rfl
  | wrapSocket _ => rfl
  | close => rfl
  | getPeerCert => rfl
  | tokenHex _ => rfl

theorem sentFrames_eq :
    sentFrames log = ((wire cnonce).events log).filterMap Event.bytes := by
  rw [Channel.events, List.filterMap_filterMap, sentFrames]
  congr 1
  funext exchange
  rw [eventIn_eq]
  rcases exchange with ⟨o, a⟩
  cases o <;> rfl

theorem HasDrawn.drawn (h : HasDrawn log)
    (hallowed : (wire cnonce).Allowed log) :
    exists size, ⟨SocketOp.tokenHex size, cnonce⟩ ∈ log := by
  rcases h with ⟨⟨o, drawn⟩, hmem, hisDraw⟩
  cases o with
  | tokenHex size =>
      have hcnonce : drawn = cnonce := hallowed _ hmem
      rw [hcnonce] at hmem
      exact ⟨size, hmem⟩
  | _ => cases hisDraw

theorem hasDrawn_iff :
    HasDrawn log ↔ Event.draw ∈ (wire cnonce).events log := by
  rw [Channel.events, List.mem_filterMap]
  constructor
  · rintro ⟨exchange, hmem, hdraw⟩
    refine ⟨exchange, hmem, ?_⟩
    rw [eventIn_eq, if_pos hdraw]
  · rintro ⟨exchange, hmem, hevent⟩
    refine ⟨exchange, hmem, ?_⟩
    rw [eventIn_eq] at hevent
    by_cases hdraw : isDraw exchange.1 = true
    · exact hdraw
    · rw [if_neg hdraw] at hevent
      cases hframe : frameOf exchange with
      | none =>
          rw [hframe] at hevent
          cases hevent
      | some frame =>
          rw [hframe] at hevent
          cases hevent

theorem peerBytes_append (first rest : List (Exchange SocketAnswer)) :
    peerBytes (first ++ rest) = peerBytes first ++ peerBytes rest :=
  List.flatMap_append

theorem sentFrames_append (first rest : List (Exchange SocketAnswer)) :
    sentFrames (first ++ rest) = sentFrames first ++ sentFrames rest :=
  List.filterMap_append

/-!
## Decisions
-/

/-- The messages up to the reply that decides, and what the client has asked
for in between. -/
inductive Decided (session : RedirectionSession) :
    Bytes -> List Bytes -> AuthReply -> Prop where
  | selects {start message : Bytes} {reply : AuthReply}
      (hstart : IsStartReply start) (hreply : IsAuthReply reply message)
      (htype : reply.authType ≠ 0) :
      Decided session (start ++ message) [] reply
  | lists {start listing message query : Bytes} {first reply : AuthReply}
      (hstart : IsStartReply start) (hfirst : IsAuthReply first listing)
      (htype : first.authType = 0)
      (hoffers : requiredAuthType ∈ first.authData)
      (hquery : digestTypeQuery session = Except.ok query)
      (hreply : IsAuthReply reply message) :
      Decided session (start ++ listing ++ message) [query] reply

/-- The reply that decides in what the peer sends: the first one, unless it
lists the types. -/
def Decides (session : RedirectionSession) (s : Bytes) (reply : AuthReply) :
    Prop :=
  exists consumed queries rest, s = consumed ++ rest ∧
    Decided session consumed queries reply

/-- The frames in front of the answer to a challenge. -/
def askingFrames (session : RedirectionSession) (queries : List Bytes) :
    List Bytes :=
  [session.startFrame, authTypeQuery] ++ queries

variable {hashes : Hashes} {session : RedirectionSession}
variable {s rest : Bytes} {events : List Event} {reply : AuthReply}

theorem told_eq_done {alpha : Type} {result : Except Failure alpha} {a : alpha}
    (h : told result s = (events, Outcome.done a rest)) :
    result = Except.ok a ∧ events = [] ∧ rest = s := by
  cases result with
  | ok b =>
      cases h
      exact ⟨rfl, rfl, rfl⟩
  | error e => cases h

theorem decidingReply_eq_done {first : AuthReply}
    (h : Wire.decidingReply session first s =
      (events, Outcome.done reply rest)) :
    (first.authType ≠ 0 ∧ reply = first ∧ events = [] ∧ rest = s) ∨
      exists query message, first.authType = 0 ∧
        requiredAuthType ∈ first.authData ∧
        digestTypeQuery session = Except.ok query ∧
        IsAuthReply reply message ∧ s = message ++ rest ∧
        events = [Event.frame query] := by
  unfold Wire.decidingReply at h
  split at h
  · next htype =>
      split at h
      · cases h
      · next hoffers =>
          rcases Talk.bind_eq_done h with
            ⟨first', query, middle, later, htold, hlater, hevents⟩
          rcases told_eq_done htold with ⟨hquery, hfirst, hmiddle⟩
          rcases Talk.bind_eq_done hlater with
            ⟨first'', _, middle', later', hsay, hread, hevents'⟩
          cases hsay
          rcases Wire.authReply_eq_done.mp hread with
            ⟨hnone, message, hs, hmessage⟩
          refine Or.inr ⟨query, message, htype, not_not.mp hoffers, hquery,
            hmessage, ?_, ?_⟩
          · rw [← hmiddle]
            exact hs
          · rw [hevents, hevents', hfirst, hnone]
            rfl
  · next htype =>
      cases h
      exact Or.inl ⟨htype, rfl, rfl, rfl⟩

theorem decision_done
    (h : Wire.decision session s = (events, Outcome.done reply rest)) :
    exists consumed queries, Decided session consumed queries reply ∧
      s = consumed ++ rest ∧
      events = (askingFrames session queries).map Event.frame := by
  rcases Talk.bind_eq_done h with
    ⟨_, _, _, events1, hstartFrame, h1, hevents⟩
  cases hstartFrame
  rcases Talk.bind_eq_done h1 with
    ⟨startEvents, _, behindStart, events2, hstart, h2, hevents1⟩
  rcases Wire.startReply_eq_done.mp hstart with
    ⟨hstartEvents, start, hs, hisStart⟩
  rcases Talk.bind_eq_done h2 with
    ⟨_, _, _, events3, hquery, h3, hevents2⟩
  cases hquery
  rcases Talk.bind_eq_done h3 with
    ⟨firstEvents, first, behindFirst, later, hfirst, hdeciding, hevents3⟩
  rcases Wire.authReply_eq_done.mp hfirst with
    ⟨hfirstEvents, message, hbehind, hisFirst⟩
  have hall : events = [Event.frame session.startFrame] ++
      ([Event.frame authTypeQuery] ++ later) := by
    rw [hevents, hevents1, hevents2, hevents3, hstartEvents, hfirstEvents]
    rfl
  rcases decidingReply_eq_done hdeciding with
    ⟨htype, hreply, hlater, hrest⟩ |
      ⟨query, answer, htype, hoffers, hask, hisReply, hanswer, hlater⟩
  · rw [← hreply] at htype hisFirst
    refine ⟨start ++ message, [], Decided.selects hisStart hisFirst htype,
      ?_, ?_⟩
    · rw [hs, hbehind, hrest, List.append_assoc]
    · rw [hall, hlater]
      rfl
  · refine ⟨start ++ message ++ answer, [query],
      Decided.lists hisStart hisFirst htype hoffers hask hisReply, ?_, ?_⟩
    · rw [hs, hbehind, hanswer, List.append_assoc, List.append_assoc]
    · rw [hall, hlater]
      rfl

theorem decision_of_decided {consumed : Bytes} {queries : List Bytes}
    (h : Decided session consumed queries reply) (rest : Bytes) :
    Wire.decision session (consumed ++ rest) =
      ((askingFrames session queries).map Event.frame,
        Outcome.done reply rest) := by
  have hopening : forall (start message behind : Bytes) (first : AuthReply),
      IsStartReply start -> IsAuthReply first message ->
      Wire.decision session (start ++ (message ++ behind)) =
        ([Event.frame session.startFrame, Event.frame authTypeQuery] ++
            (Wire.decidingReply session first behind).1,
          (Wire.decidingReply session first behind).2) := by
    intro start message behind first hstart hfirst
    rw [Wire.decision, Talk.bind_done rfl,
      Talk.bind_done (Wire.startReply_message hstart session _),
      Talk.bind_done rfl,
      Talk.bind_done (Wire.authReply_message hfirst session _)]
    rfl
  cases h with
  | selects hstart hreply htype =>
      rw [List.append_assoc, hopening _ _ rest reply hstart hreply,
        Wire.decidingReply, if_neg htype]
      rfl
  | @lists _ listing message query first _ hstart hfirst htype hoffers hquery
      hreply =>
      have htold : told (digestTypeQuery session) (message ++ rest) =
          ([], Outcome.done query (message ++ rest)) := by
        rw [hquery]
        rfl
      rw [List.append_assoc, List.append_assoc,
        hopening _ _ (message ++ rest) first hstart hfirst,
        Wire.decidingReply, if_pos htype, if_neg (not_not_intro hoffers),
        Talk.bind_done htold, Talk.bind_done rfl,
        Wire.authReply_message hreply session _]
      rfl

/-- One reply decides. -/
theorem decides_unique {other : AuthReply} (h : Decides session s reply)
    (hother : Decides session s other) : reply = other := by
  rcases h with ⟨consumed, queries, rest, hs, hdecided⟩
  rcases hother with ⟨consumed', queries', rest', hs', hdecided'⟩
  have hthis := decision_of_decided hdecided rest
  have hthat := decision_of_decided hdecided' rest'
  rw [← hs] at hthis
  rw [← hs', hthis] at hthat
  have houtcome := congrArg Prod.snd hthat
  cases houtcome
  rfl

/-!
## Handshakes
-/

/-- What a handshake that is successful has read and done: the firmware has
let the client in without a challenge, or it has accepted the answer to
one. -/
inductive Settled (hashes : Hashes) (session : RedirectionSession)
    (cnonce : List Char) : Bytes -> List Event -> Prop where
  | waved {consumed : Bytes} {queries : List Bytes} {reply : AuthReply}
      (hdecided : Decided session consumed queries reply)
      (hstatus : reply.status = 0)
      (htype : reply.authType ∉ insecureAuthTypes) :
      Settled hashes session cnonce consumed
        ((askingFrames session queries).map Event.frame)
  | answered {consumed message response : Bytes} {queries : List Bytes}
      {reply last : AuthReply} {challenge : Challenge}
      (hdecided : Decided session consumed queries reply)
      (hstatus : reply.status = 1) (htype : reply.authType = requiredAuthType)
      (hchallenge : parseChallenge reply.authData = Except.ok challenge)
      (hresponse : digestFrame hashes session challenge cnonce =
        Except.ok response)
      (hlast : IsAuthReply last message) (hsuccess : last.status = 0) :
      Settled hashes session cnonce (consumed ++ message)
        ((askingFrames session queries).map Event.frame ++
          [Event.draw, Event.frame response])

theorem answerChallenge_eq_done {authData : Bytes}
    (h : Wire.answerChallenge hashes session cnonce authData s =
      (events, Outcome.done reply rest)) :
    exists challenge response message,
      parseChallenge authData = Except.ok challenge ∧
      digestFrame hashes session challenge cnonce = Except.ok response ∧
      IsAuthReply reply message ∧ s = message ++ rest ∧
      events = [Event.draw, Event.frame response] := by
  rcases Talk.bind_eq_done h with
    ⟨none, challenge, middle, later, hparse, h1, hevents⟩
  rcases told_eq_done hparse with ⟨hchallenge, hnone, hmiddle⟩
  rcases Talk.bind_eq_done h1 with
    ⟨drawn, response, middle1, later1, hdigest, h2, hevents1⟩
  rcases Talk.bind_eq_done hdigest with
    ⟨first, drawn', middle2, later2, hdraw, htold, hdrawn⟩
  cases hdraw
  rcases told_eq_done htold with ⟨hresponse, hnone1, hmiddle1⟩
  rcases Talk.bind_eq_done h2 with
    ⟨first', _, middle3, later3, hsay, hread, hevents2⟩
  cases hsay
  rcases Wire.authReply_eq_done.mp hread with ⟨hnone2, message, hs, hreply⟩
  refine ⟨challenge, response, message, hchallenge, hresponse, hreply, ?_, ?_⟩
  · rw [← hmiddle, ← hmiddle1]
    exact hs
  · rw [hevents, hnone, hevents1, hdrawn, hnone1, hevents2, hnone2]
    rfl

theorem settlement_done
    (h : Wire.settlement hashes session cnonce reply s =
      (events, Outcome.done () rest)) :
    (reply.status = 0 ∧ reply.authType ∉ insecureAuthTypes ∧ events = [] ∧
      rest = s) ∨
    (reply.status = 1 ∧ reply.authType = requiredAuthType ∧
      exists challenge response message last,
        parseChallenge reply.authData = Except.ok challenge ∧
        digestFrame hashes session challenge cnonce = Except.ok response ∧
        IsAuthReply last message ∧ last.status = 0 ∧ s = message ++ rest ∧
        events = [Event.draw, Event.frame response]) := by
  rcases Talk.bind_eq_done h with
    ⟨first, last, middle, later, hsettle, hend, hevents⟩
  have hlast : last.status = 0 ∧ later = [] ∧ rest = middle := by
    split at hend
    · cases hend
    · next hstatus =>
        cases hend
        exact ⟨not_not.mp hstatus, rfl, rfl⟩
  rcases hlast with ⟨hsuccess, hlater, hrest⟩
  unfold Wire.settleReply at hsettle
  split at hsettle
  · cases hsettle
  · next htype =>
      split at hsettle
      · next hchallenge =>
          rcases answerChallenge_eq_done hsettle with
            ⟨challenge, response, message, hparse, hresponse, hisReply, hs,
              hfirst⟩
          refine Or.inr ⟨hchallenge.1, hchallenge.2, challenge, response,
            message, last, hparse, hresponse, hisReply, hsuccess, ?_, ?_⟩
          · rw [hrest]
            exact hs
          · rw [hevents, hlater, List.append_nil]
            exact hfirst
      · cases hsettle
        refine Or.inl ⟨hsuccess, htype, ?_, hrest⟩
        rw [hevents, hlater]
        rfl

theorem handshake_done
    (h : Wire.handshake hashes session cnonce s =
      (events, Outcome.done () rest)) :
    exists consumed, Settled hashes session cnonce consumed events ∧
      s = consumed ++ rest := by
  rcases Talk.bind_eq_done h with
    ⟨first, reply, middle, later, hdecision, hsettlement, hevents⟩
  rcases decision_done hdecision with
    ⟨consumed, queries, hdecided, hs, hfirst⟩
  rcases settlement_done hsettlement with
    ⟨hstatus, htype, hlater, hrest⟩ |
      ⟨hstatus, htype, challenge, response, message, last, hparse, hresponse,
        hlast, hsuccess, hmiddle, hlater⟩
  · refine ⟨consumed, ?_, ?_⟩
    · rw [hevents, hlater, List.append_nil, hfirst]
      exact Settled.waved hdecided hstatus htype
    · rw [hrest]
      exact hs
  · refine ⟨consumed ++ message, ?_, ?_⟩
    · rw [hevents, hlater, hfirst]
      exact Settled.answered hdecided hstatus htype hparse hresponse hlast
        hsuccess
    · rw [hs, hmiddle, List.append_assoc]

end Redirection
end IntelAmt
