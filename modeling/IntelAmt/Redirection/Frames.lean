import IntelAmt.Redirection.Failures

/-!
# The frames of a connection

In every run, whatever the peer sends and however it ends, the client asks
its questions, and at most once it answers a challenge.
-/

namespace IntelAmt
namespace Redirection

open Foundation

variable {hashes : Hashes} {session : RedirectionSession}
variable {cnonce : List Char} {s : Bytes}

/-- The query for type 4, or none. -/
def Asked (session : RedirectionSession) (queries : List Bytes) : Prop :=
  queries = [] ∨ exists query,
    digestTypeQuery session = Except.ok query ∧ queries = [query]

theorem Decided.asked {consumed : Bytes} {queries : List Bytes}
    {reply : AuthReply} (h : Decided session consumed queries reply) :
    Asked session queries := by
  cases h with
  | selects _ _ _ => exact Or.inl rfl
  | lists _ _ _ _ hquery _ => exact Or.inr ⟨_, hquery, rfl⟩

/-!
## What the talk says
-/

theorem startReply_silent : Talk.Silent (Wire.startReply session) := by
  refine Talk.silent_bind (Talk.silent_take 13) fun header => ?_
  split
  · exact Talk.silent_raised _
  · split
    · exact Talk.silent_raised _
    · exact Talk.silent_bind (Talk.silent_take _) fun _ =>
        Talk.silent_returned ()

theorem authReply_silent : Talk.Silent (Wire.authReply session) := by
  refine Talk.silent_bind (Talk.silent_take 9) fun header => ?_
  split
  · exact Talk.silent_raised _
  · exact Talk.silent_bind (Talk.silent_take _) fun _ =>
      Talk.silent_returned _

theorem decidingReply_said (session : RedirectionSession)
    (first : AuthReply) (s : Bytes) :
    exists queries, Asked session queries ∧
      (Wire.decidingReply session first s).1 = queries.map Event.frame := by
  unfold Wire.decidingReply
  split
  · split
    · exact ⟨[], Or.inl rfl, rfl⟩
    · cases hquery : digestTypeQuery session with
      | error e => exact ⟨[], Or.inl rfl, rfl⟩
      | ok query =>
          refine ⟨[query], Or.inr ⟨query, hquery, rfl⟩, ?_⟩
          rw [Talk.bind_done rfl, Talk.bind_done rfl, authReply_silent]
          rfl
  · exact ⟨[], Or.inl rfl, rfl⟩

theorem decision_said (session : RedirectionSession) (s : Bytes) :
    exists queries, Asked session queries ∧
      (Wire.decision session s).1 <+:
        (askingFrames session queries).map Event.frame := by
  have hbegin : forall frames queries : List Bytes,
      frames <+: askingFrames session queries ->
        frames.map Event.frame <+:
          (askingFrames session queries).map Event.frame :=
    fun frames queries h => h.map Event.frame
  unfold Wire.decision
  rw [Talk.bind_done rfl]
  rcases Talk.silent_then (f := fun _ => do
      Talk.say (Event.frame authTypeQuery) ()
      let first ← Wire.authReply session
      Wire.decidingReply session first) startReply_silent s with
    ⟨_, behind, _, hthen⟩ | hnothing
  · rw [hthen, Talk.bind_done rfl]
    rcases Talk.silent_then (f := Wire.decidingReply session)
        authReply_silent behind with
      ⟨first, rest, _, hthen⟩ | hnothing
    · rw [hthen]
      rcases decidingReply_said session first rest with
        ⟨queries, hasked, hsaid⟩
      refine ⟨queries, hasked, ?_⟩
      rw [hsaid]
      exact List.prefix_refl _
    · rw [hnothing]
      exact ⟨[], Or.inl rfl, List.prefix_refl _⟩
  · rw [hnothing]
    exact ⟨[], Or.inl rfl, hbegin [session.startFrame] [] ⟨[_], rfl⟩⟩

theorem answerChallenge_said (hashes : Hashes) (session : RedirectionSession)
    (cnonce : List Char) (authData s : Bytes) :
    (Wire.answerChallenge hashes session cnonce authData s).1 = [] ∨
      exists challenge tail, parseChallenge authData = Except.ok challenge ∧
        (Wire.answerChallenge hashes session cnonce authData s).1 =
          Event.draw :: tail ∧
        (tail = [] ∨ exists response,
          digestFrame hashes session challenge cnonce = Except.ok response ∧
          tail = [Event.frame response]) := by
  unfold Wire.answerChallenge
  cases hparse : parseChallenge authData with
  | error e => exact Or.inl rfl
  | ok challenge =>
      rw [Talk.bind_done rfl]
      cases hresponse : digestFrame hashes session challenge cnonce with
      | error e =>
          have hdigest :
              Wire.digestResponse hashes session cnonce challenge s =
                ([Event.draw], Outcome.failed e) := by
            unfold Wire.digestResponse
            rw [Talk.bind_done rfl, hresponse]
            rfl
          refine Or.inr ⟨challenge, [], rfl, ?_, Or.inl rfl⟩
          rw [Talk.bind_failed hdigest]
          rfl
      | ok response =>
          have hdigest :
              Wire.digestResponse hashes session cnonce challenge s =
                ([Event.draw], Outcome.done response s) := by
            unfold Wire.digestResponse
            rw [Talk.bind_done rfl, hresponse]
            rfl
          refine Or.inr ⟨challenge, [Event.frame response], rfl, ?_,
            Or.inr ⟨response, hresponse, rfl⟩⟩
          rw [Talk.bind_done hdigest, Talk.bind_done rfl, authReply_silent]
          rfl

theorem settlement_said (hashes : Hashes) (session : RedirectionSession)
    (cnonce : List Char) (reply : AuthReply) (s : Bytes) :
    (Wire.settlement hashes session cnonce reply s).1 = [] ∨
      IsChallenge reply ∧ exists challenge tail,
        parseChallenge reply.authData = Except.ok challenge ∧
        (Wire.settlement hashes session cnonce reply s).1 =
          Event.draw :: tail ∧
        (tail = [] ∨ exists response,
          digestFrame hashes session challenge cnonce = Except.ok response ∧
          tail = [Event.frame response]) := by
  unfold Wire.settlement
  rw [Talk.bind_silent]
  · unfold Wire.settleReply
    split
    · exact Or.inl rfl
    · split
      · next hchallenge =>
          rcases answerChallenge_said hashes session cnonce reply.authData s with
            hnothing | hanswer
          · exact Or.inl hnothing
          · exact Or.inr ⟨hchallenge, hanswer⟩
      · exact Or.inl rfl
  · intro last
    split
    · exact Talk.silent_raised _
    · exact Talk.silent_returned ()

/-- A handshake asks its questions, or the peer has decided for a challenge
and the handshake draws a cnonce and answers. -/
theorem handshake_said (hashes : Hashes) (session : RedirectionSession)
    (cnonce : List Char) (s : Bytes) :
    (exists queries, Asked session queries ∧
      (Wire.handshake hashes session cnonce s).1 <+:
        (askingFrames session queries).map Event.frame) ∨
    exists consumed queries reply rest challenge tail,
      Decided session consumed queries reply ∧ s = consumed ++ rest ∧
      IsChallenge reply ∧
      parseChallenge reply.authData = Except.ok challenge ∧
      (Wire.handshake hashes session cnonce s).1 =
        (askingFrames session queries).map Event.frame ++
          Event.draw :: tail ∧
      (tail = [] ∨ exists response,
        digestFrame hashes session challenge cnonce = Except.ok response ∧
        tail = [Event.frame response]) := by
  unfold Wire.handshake
  rcases h : Wire.decision session s with ⟨events, outcome⟩
  cases outcome with
  | done reply rest =>
      rw [Talk.bind_done h]
      rcases decision_done h with ⟨consumed, queries, hdecided, hs, hevents⟩
      rw [hevents]
      rcases settlement_said hashes session cnonce reply rest with
        hnothing | ⟨hchallenge, challenge, tail, hparse, hsaid, htail⟩
      · refine Or.inl ⟨queries, hdecided.asked, ?_⟩
        rw [hnothing, List.append_nil]
      · refine Or.inr ⟨consumed, queries, reply, rest, challenge, tail,
          hdecided, hs, hchallenge, hparse, ?_, htail⟩
        rw [hsaid]
  | failed e =>
      rw [Talk.bind_failed h]
      rcases decision_said session s with
        ⟨queries, hasked, hsaid⟩
      rw [h] at hsaid
      exact Or.inl ⟨queries, hasked, hsaid⟩
  | starved =>
      rw [Talk.bind_starved h]
      rcases decision_said session s with
        ⟨queries, hasked, hsaid⟩
      rw [h] at hsaid
      exact Or.inl ⟨queries, hasked, hsaid⟩

/-!
## What a run sends
-/

/-- A frame that needs no challenge, and in which there is nothing of the
password. -/
def IsQuestion (session : RedirectionSession) (frame : Bytes) : Prop :=
  frame = session.startFrame ∨ frame = authTypeQuery ∨
    digestTypeQuery session = Except.ok frame

/-- What the peer has sent lists types without the required one, or selects
one that is insecure. -/
def Declined (session : RedirectionSession) (s : Bytes) : Prop :=
  (exists start message first rest, s = start ++ message ++ rest ∧
    IsStartReply start ∧ IsAuthReply first message ∧ first.authType = 0 ∧
    requiredAuthType ∉ first.authData) ∨
  exists reply, Decides session s reply ∧ reply.authType ∈ insecureAuthTypes

/-- The frame is the digest that answers the challenge that the peer has
decided for. -/
def IsAnswer (hashes : Hashes) (session : RedirectionSession)
    (before : List (Exchange SocketAnswer)) (frame : Bytes) : Prop :=
  exists reply challenge size cnonce,
    Decides session (peerBytes before) reply ∧ IsChallenge reply ∧
    parseChallenge reply.authData = Except.ok challenge ∧
    ⟨SocketOp.tokenHex size, cnonce⟩ ∈ before ∧
    digestFrame hashes session challenge cnonce = Except.ok frame

theorem askingFrames_question {queries : List Bytes} {frame : Bytes}
    (hasked : Asked session queries)
    (hmem : frame ∈ askingFrames session queries) :
    IsQuestion session frame := by
  rcases List.mem_append.mp hmem with hmem | hmem
  · rcases List.mem_cons.mp hmem with hstart | hmem
    · exact Or.inl hstart
    · exact Or.inr (Or.inl (List.mem_singleton.mp hmem))
  · rcases hasked with hnone | ⟨query, hquery, hqueries⟩
    · rw [hnone] at hmem
      cases hmem
    · rw [hqueries] at hmem
      rw [List.mem_singleton.mp hmem]
      exact Or.inr (Or.inr hquery)

theorem question_of_prefix {said : List Event} {frame : Bytes}
    {frames : List Bytes}
    (h : said ++ [Event.frame frame] <+: frames.map Event.frame) :
    frame ∈ frames ∧ Event.draw ∉ said := by
  have hsubset := h.subset
  constructor
  · have hmem : Event.frame frame ∈ frames.map Event.frame :=
      hsubset (List.mem_append_right _ (List.mem_singleton_self _))
    rcases List.mem_map.mp hmem with ⟨other, hother, heq⟩
    cases heq
    exact hother
  · intro hmem
    exact draw_notMem_frames frames (hsubset (List.mem_append_left _ hmem))

theorem draw_split {first other : List Bytes} {tail more : List Event}
    (h : first.map Event.frame ++ Event.draw :: tail <+:
      other.map Event.frame ++ Event.draw :: more) :
    first = other ∧ tail <+: more := by
  induction first generalizing other with
  | nil =>
      cases other with
      | nil =>
          rw [List.map_nil, List.nil_append, List.nil_append] at h
          exact ⟨rfl, (List.cons_prefix_cons.mp h).2⟩
      | cons frame other =>
          have hhead := (List.cons_prefix_cons.mp h).1
          cases hhead
  | cons frame first ih =>
      cases other with
      | nil =>
          have hhead := (List.cons_prefix_cons.mp h).1
          cases hhead
      | cons frame' other =>
          rcases List.cons_prefix_cons.mp h with ⟨hhead, htail⟩
          cases hhead
          rcases ih htail with ⟨hfirst, hmore⟩
          rw [hfirst]
          exact ⟨rfl, hmore⟩

theorem answer_of_prefix {said tail : List Event} {frame : Bytes}
    {frames : List Bytes}
    (h : said ++ [Event.frame frame] <+:
      frames.map Event.frame ++ Event.draw :: tail)
    (htail : tail.length ≤ 1) :
    said ++ [Event.frame frame] <+: frames.map Event.frame ∨
      (said = frames.map Event.frame ++ [Event.draw] ∧
        tail = [Event.frame frame]) := by
  rcases List.prefix_or_prefix_of_prefix h (List.prefix_append _ _) with
    hinside | ⟨more, hmore⟩
  · exact Or.inl hinside
  · rw [← hmore, List.prefix_append_right_inj] at h
    cases more with
    | nil =>
        rw [List.append_nil] at hmore
        rw [← hmore]
        exact Or.inl (List.prefix_refl _)
    | cons event more =>
        rcases List.cons_prefix_cons.mp h with ⟨hdraw, hmoreTail⟩
        rw [hdraw] at hmore
        cases more with
        | nil =>
            have hlast := (List.append_inj' hmore rfl).2
            cases hlast
        | cons event' more =>
            have hlength := hmoreTail.length_le
            rw [List.length_cons] at hlength
            have hnil : more = [] :=
              List.length_eq_zero_iff.mp (by lia)
            rw [hnil] at hmore hmoreTail
            have hsplit : frames.map Event.frame ++ [Event.draw] ++ [event'] =
                said ++ [Event.frame frame] := by
              rw [List.append_assoc]
              exact hmore
            rcases List.append_inj' hsplit rfl with ⟨hsaid, hevent⟩
            cases hevent
            refine Or.inr ⟨hsaid.symm, ?_⟩
            have hsame : [Event.frame frame].length = tail.length := by
              rw [List.length_singleton]
              lia
            exact (hmoreTail.eq_of_length hsame).symm

theorem tail_length {P : Bytes -> Prop} {tail : List Event}
    (h : tail = [] ∨ exists response, P response ∧
      tail = [Event.frame response]) : tail.length ≤ 1 := by
  rcases h with htail | ⟨response, _, htail⟩
  · rw [htail]
    exact Nat.zero_le 1
  · rw [htail]
    exact Nat.le_refl 1

theorem not_declined {reply : AuthReply} (hdecides : Decides session s reply)
    (hchallenge : IsChallenge reply) : ¬ Declined session s := by
  rintro (⟨start, message, first, rest, hs, hstart, hfirst, htype, hnot⟩ |
    ⟨other, hother, hinsecure⟩)
  · rcases hdecides with ⟨consumed, queries, behind, hs', hdecided⟩
    have hdecision := decision_of_decided hdecided behind
    rw [← hs', hs, List.append_assoc] at hdecision
    unfold Wire.decision at hdecision
    rw [Talk.bind_done rfl,
      Talk.bind_done (Wire.startReply_message hstart session _),
      Talk.bind_done rfl,
      Talk.bind_done (Wire.authReply_message hfirst session _)] at hdecision
    unfold Wire.decidingReply at hdecision
    rw [if_pos htype, if_pos hnot] at hdecision
    have houtcome := congrArg Prod.snd hdecision
    cases houtcome
  · rw [← decides_unique hdecides hother, hchallenge.2] at hinsecure
    exact absurd hinsecure (by decide)

section Splitting

variable {before after rest : List (Exchange SocketAnswer)}
variable {frame : Bytes} {sending : Sending}
variable {x : SocketScript (Unit × Bytes)}

theorem handshake_begins (hallowed : (wire cnonce).Allowed rest)
    (h : Script.After (handshake hashes session []) rest x) :
    (wire cnonce).events rest <+:
      (Wire.handshake hashes session cnonce (peerBytes rest)).1 := by
  have hheard := handshake_follows [] rest x hallowed h
  have hbegins := (wire cnonce).heard_begins Classified hheard []
  rw [List.nil_append, List.append_nil, received_eq] at hbegins
  exact hbegins

theorem events_sent (cnonce : List Char)
    (before : List (Exchange SocketAnswer)) (frame : Bytes)
    (sending : Sending) :
    (wire cnonce).events (before ++ [⟨SocketOp.sendAll frame, sending⟩]) =
        (wire cnonce).events before ++ [Event.frame frame] ∧
      peerBytes (before ++ [⟨SocketOp.sendAll frame, sending⟩]) =
        peerBytes before := by
  constructor
  · rw [Channel.events_append, Channel.events_cons, eventIn_eq]
    rfl
  · rw [peerBytes_append]
    exact List.append_nil _

/-- Every frame of a handshake is a question, or it is the one answer, and
then nothing is sent any more. -/
theorem handshake_frame
    (h : Script.After (handshake hashes session [])
      (before ++ ⟨SocketOp.sendAll frame, sending⟩ :: after) x) :
    (IsQuestion session frame ∧ ¬ HasDrawn before) ∨
      (IsAnswer hashes session before frame ∧ sentFrames after = []) := by
  rcases exists_cnonce h with ⟨cnonce, hallowed⟩
  have hsplit : before ++ ⟨SocketOp.sendAll frame, sending⟩ :: after =
      (before ++ [⟨SocketOp.sendAll frame, sending⟩]) ++ after := by
    simp
  have hwhole := handshake_begins hallowed h
  rw [hsplit] at h hallowed
  rcases (wire cnonce).allowed_append.mp hallowed with ⟨hfirstAll, _⟩
  rcases Script.after_shorter h with ⟨y, hfirst, _⟩
  have hbegins := handshake_begins hfirstAll hfirst
  rcases events_sent cnonce before frame sending with ⟨hevents, hbytes⟩
  rw [hevents, hbytes] at hbegins
  have hquestion : forall queries, Asked session queries ->
      (wire cnonce).events before ++ [Event.frame frame] <+:
        (askingFrames session queries).map Event.frame ->
      IsQuestion session frame ∧ ¬ HasDrawn before := by
    intro queries hasked hinside
    rcases question_of_prefix hinside with ⟨hmem, hdraw⟩
    exact ⟨askingFrames_question hasked hmem,
      fun hdrawn => hdraw (hasDrawn_iff.mp hdrawn)⟩
  rcases handshake_said hashes session cnonce (peerBytes before) with
    ⟨queries, hasked, hsaid⟩ |
      ⟨consumed, queries, reply, behind, challenge, tail, hdecided, hs,
        hchallenge, hparse, hsaid, htail⟩
  · exact Or.inl (hquestion queries hasked (hbegins.trans hsaid))
  · rw [hsaid] at hbegins
    rcases answer_of_prefix hbegins (tail_length htail) with
      hinside | ⟨hbefore, htailFrame⟩
    · exact Or.inl (hquestion queries hdecided.asked hinside)
    · have hresponse : digestFrame hashes session challenge cnonce =
          Except.ok frame := by
        rcases htail with hnil | ⟨response, hresponse, hresponseTail⟩
        · rw [hnil] at htailFrame
          cases htailFrame
        · rw [hresponseTail] at htailFrame
          cases htailFrame
          exact hresponse
      have hdrawn : HasDrawn before := by
        rw [hasDrawn_iff, hbefore]
        exact List.mem_append_right _ (List.mem_singleton_self _)
      rcases hdrawn.drawn fun exchange hmem =>
          hfirstAll exchange (List.mem_append_left _ hmem) with ⟨size, hmem⟩
      refine Or.inr ⟨?_, ?_⟩
      · exact ⟨reply, challenge, size, cnonce,
          ⟨consumed, queries, behind, hs, hdecided⟩, hchallenge, hparse,
          hmem, hresponse⟩
      · have hall : (wire cnonce).events
            (before ++ ⟨SocketOp.sendAll frame, sending⟩ :: after) =
              (askingFrames session queries).map Event.frame ++ Event.draw ::
                Event.frame frame :: (wire cnonce).events after := by
          rw [hsplit, Channel.events_append, hevents, hbefore]
          simp
        rw [hall] at hwhole
        have hnone : (wire cnonce).events after = [] := by
          rcases handshake_said hashes session cnonce (peerBytes
              (before ++ ⟨SocketOp.sendAll frame, sending⟩ :: after)) with
            ⟨queries', _, hsaid'⟩ |
              ⟨_, queries', _, _, _, tail', _, _, _, _, hsaid', htail'⟩
          · have hdraw := (hwhole.trans hsaid').subset
              (List.mem_append_right _ List.mem_cons_self)
            exact absurd hdraw (draw_notMem_frames _)
          · rw [hsaid'] at hwhole
            have hlength := (draw_split hwhole).2.length_le
            have htailLength := tail_length htail'
            rw [List.length_cons] at hlength
            exact List.length_eq_zero_iff.mp (by lia)
        rw [sentFrames_eq, hnone]
        rfl

theorem handshake_frames
    (h : Script.After (handshake hashes session []) rest x) :
    exists queries answers, Asked session queries ∧
      (answers = [] ∨ exists answer, answers = [answer] ∧
        exists challenge cnonce,
          digestFrame hashes session challenge cnonce = Except.ok answer) ∧
      sentFrames rest <+: askingFrames session queries ++ answers := by
  rcases exists_cnonce h with ⟨cnonce, hallowed⟩
  have hbegins := handshake_begins hallowed h
  rcases handshake_said hashes session cnonce (peerBytes rest) with
    ⟨queries, hasked, hsaid⟩ |
      ⟨consumed, queries, reply, behind, challenge, tail, hdecided, hs,
        hchallenge, hparse, hsaid, htail⟩
  · refine ⟨queries, [], hasked, Or.inl rfl, ?_⟩
    have hframes := (hbegins.trans hsaid).filterMap Event.bytes
    rw [frames_bytes, ← sentFrames_eq] at hframes
    rw [List.append_nil]
    exact hframes
  · rw [hsaid] at hbegins
    have hframes := hbegins.filterMap Event.bytes
    rw [List.filterMap_append, frames_bytes, ← sentFrames_eq] at hframes
    rcases htail with htail | ⟨response, hresponse, htail⟩
    · refine ⟨queries, [], hdecided.asked, Or.inl rfl, ?_⟩
      rw [htail] at hframes
      exact hframes
    · refine ⟨queries, [response], hdecided.asked,
        Or.inr ⟨response, rfl, challenge, cnonce, hresponse⟩, ?_⟩
      rw [htail] at hframes
      exact hframes

end Splitting

end Redirection
end IntelAmt
