import IntelAmt.Redirection.Frames

/-!
# Two runs under two passwords

Whatever the peer does, a connection under another password goes on in the
same way; only its answer to a challenge is another frame.
-/

namespace IntelAmt
namespace Redirection

open Foundation

variable {alpha beta : Type}

/-- Two scripts that are alike but for some frames that they send. -/
inductive Alike (frames : Bytes -> Bytes -> Prop) (R : alpha -> alpha -> Prop) :
    SocketScript alpha -> SocketScript alpha -> Prop where
  | returned {a a' : alpha} (h : R a a') :
      Alike frames R (Script.returned a) (Script.returned a')
  | raised (e : Failure) : Alike frames R (Script.raised e) (Script.raised e)
  | call (o : SocketOp) {next next' : SocketAnswer o -> SocketScript alpha}
      (h : forall a, Alike frames R (next a) (next' a)) :
      Alike frames R (Script.call o next) (Script.call o next')
  | send {frame frame' : Bytes} (hframes : frames frame frame')
      {next next' : Sending -> SocketScript alpha}
      (h : forall a, Alike frames R (next a) (next' a)) :
      Alike frames R (Script.call (SocketOp.sendAll frame) next)
        (Script.call (SocketOp.sendAll frame') next')

/-- Two exchanges that are the same but for the frame that is sent. -/
inductive SameExchange (frames : Bytes -> Bytes -> Prop) :
    Exchange SocketAnswer -> Exchange SocketAnswer -> Prop where
  | same (exchange : Exchange SocketAnswer) :
      SameExchange frames exchange exchange
  | send {frame frame' : Bytes} (hframes : frames frame frame')
      (sending : Sending) :
      SameExchange frames ⟨SocketOp.sendAll frame, sending⟩
        ⟨SocketOp.sendAll frame', sending⟩

section Alike

variable {frames : Bytes -> Bytes -> Prop} {R : alpha -> alpha -> Prop}
variable {Q : beta -> beta -> Prop} {x x' : SocketScript alpha}

theorem alike_refl (hR : forall a, R a a) (x : SocketScript alpha) :
    Alike frames R x x := by
  induction x with
  | returned a => exact Alike.returned (hR a)
  | raised e => exact Alike.raised e
  | call o next ih => exact Alike.call o ih

theorem alike_bind {f f' : alpha -> SocketScript beta}
    (hx : Alike frames R x x')
    (hf : forall a a', R a a' -> Alike frames Q (f a) (f' a')) :
    Alike frames Q (x >>= f) (x' >>= f') := by
  induction hx with
  | returned h => exact hf _ _ h
  | raised e => exact Alike.raised e
  | call o _ ih => exact Alike.call o ih
  | send hframes _ ih => exact Alike.send hframes ih

/-- A transcript of one of them is a transcript of the other one, with the
frames exchanged. -/
theorem alike_after {log : List (Exchange SocketAnswer)}
    {y : SocketScript alpha} (hx : Alike frames R x x')
    (h : Script.After x log y) :
    exists log' y', Script.After x' log' y' ∧ Alike frames R y y' ∧
      List.Forall₂ (SameExchange frames) log log' := by
  induction h generalizing x' with
  | here x => exact ⟨[], x', Script.After.here _, hx, List.Forall₂.nil⟩
  | @call o next a log y _ ih =>
      cases hx with
      | call o hnext =>
          rcases ih (hnext a) with ⟨log', y', hafter, halike, hlogs⟩
          exact ⟨_, y', Script.After.call hafter, halike,
            List.Forall₂.cons (SameExchange.same _) hlogs⟩
      | send hframes hnext =>
          rcases ih (hnext a) with ⟨log', y', hafter, halike, hlogs⟩
          exact ⟨_, y', Script.After.call hafter, halike,
            List.Forall₂.cons (SameExchange.send hframes a) hlogs⟩

end Alike

/-!
## Answers of one length
-/

theorem hexdigest_ascii (bytes : Bytes) :
    forall c, c ∈ hexdigest bytes -> c.toNat < 128 := by
  have hdigit : forall k, (hexDigits.getD k '0').toNat < 128 := by
    intro k
    rw [List.getD_eq_getElem?_getD]
    cases hk : hexDigits[k]? with
    | none => decide
    | some c =>
        have hall : hexDigits.all (fun c => c.toNat < 128) = true := rfl
        exact of_decide_eq_true
          (List.all_eq_true.mp hall c (List.mem_of_getElem? hk))
  intro c hmem
  rcases List.mem_flatMap.mp hmem with ⟨b, _, hc⟩
  rcases List.mem_cons.mp hc with hc | hc
  · rw [hc]
    exact hdigit _
  · rw [List.mem_singleton.mp hc]
    exact hdigit _

theorem hexdigest_length (bytes : Bytes) :
    (hexdigest bytes).length = 2 * bytes.length := by
  induction bytes with
  | nil => rfl
  | cons b bytes ih =>
      change (_ :: _ :: hexdigest bytes).length = _
      rw [List.length_cons, List.length_cons, ih, List.length_cons]
      lia

variable {hashes : Hashes} {session : RedirectionSession}

theorem digestOf_length (challenge : Challenge) (cnonce : List Char) :
    (encodeUtf8 (digestOf hashes session challenge cnonce)).length = 32 := by
  unfold digestOf md5Hex
  dsimp only
  rw [encodeUtf8_of_ascii (hexdigest_ascii _), List.length_map,
    hexdigest_length, hashes.md5_length]

theorem prefixedFields_lengths {fields fields' : List Bytes}
    (h : List.Forall₂ (fun field field' => field.length = field'.length)
      fields fields') :
    (exists payload payload', prefixedFields fields = Except.ok payload ∧
      prefixedFields fields' = Except.ok payload') ∨
    exists e, prefixedFields fields = Except.error e ∧
      prefixedFields fields' = Except.error e := by
  induction h with
  | nil => exact Or.inl ⟨[], [], rfl, rfl⟩
  | @cons field field' fields fields' hlength _ ih =>
      unfold prefixedFields
      by_cases hlong : 0xFF < field.length
      · have hlong' : 0xFF < field'.length := by lia
        unfold lengthPrefixed
        rw [if_pos hlong, if_pos hlong', hlength]
        exact Or.inr ⟨_, rfl, rfl⟩
      · have hlong' : ¬ 0xFF < field'.length := by lia
        unfold lengthPrefixed
        rw [if_neg hlong, if_neg hlong']
        rcases ih with ⟨payload, payload', hok, hok'⟩ | ⟨e, herror, herror'⟩
        · rw [hok, hok']
          exact Or.inl ⟨_, _, rfl, rfl⟩
        · rw [herror, herror']
          exact Or.inr ⟨e, rfl, rfl⟩

/-- The session under another password. -/
def RedirectionSession.withPassword (session : RedirectionSession)
    (password : String) : RedirectionSession :=
  { session with password := password }

/-- Two answers to one challenge, under the two passwords. -/
def AnswersAlike (hashes : Hashes) (session : RedirectionSession)
    (password : String) (frame frame' : Bytes) : Prop :=
  exists challenge cnonce,
    digestFrame hashes session challenge cnonce = Except.ok frame ∧
    digestFrame hashes (session.withPassword password) challenge cnonce =
      Except.ok frame'

theorem digestFrame_alike (challenge : Challenge) (cnonce : List Char)
    (password : String) :
    (exists frame frame',
      digestFrame hashes session challenge cnonce = Except.ok frame ∧
      digestFrame hashes (session.withPassword password) challenge cnonce =
        Except.ok frame') ∨
    exists e, digestFrame hashes session challenge cnonce = Except.error e ∧
      digestFrame hashes (session.withPassword password) challenge cnonce =
        Except.error e := by
  have hdigest : (encodeUtf8
      (digestOf hashes session challenge cnonce)).length =
        (encodeUtf8 (digestOf hashes (session.withPassword password)
          challenge cnonce)).length := by
    rw [digestOf_length, digestOf_length]
  have hlengths : List.Forall₂
      (fun field field' : Bytes => field.length = field'.length)
      [encodeUtf8 session.username.toList, encodeUtf8 challenge.realm,
        encodeUtf8 challenge.nonce, encodeUtf8 authUri, encodeUtf8 cnonce,
        encodeUtf8 snc, encodeUtf8 (digestOf hashes session challenge cnonce),
        encodeUtf8 challenge.qop]
      [encodeUtf8 (session.withPassword password).username.toList,
        encodeUtf8 challenge.realm, encodeUtf8 challenge.nonce,
        encodeUtf8 authUri, encodeUtf8 cnonce, encodeUtf8 snc,
        encodeUtf8 (digestOf hashes (session.withPassword password) challenge
          cnonce),
        encodeUtf8 challenge.qop] := by
    simp only [List.forall₂_cons, List.forall₂_nil_left_iff, hdigest,
      and_self, and_true]
    rfl
  unfold digestFrame
  dsimp only
  rcases prefixedFields_lengths hlengths with
    ⟨payload, payload', hok, hok'⟩ | ⟨e, herror, herror'⟩
  · rw [hok, hok']
    exact Or.inl ⟨_, _, rfl, rfl⟩
  · rw [herror, herror']
    exact Or.inr ⟨e, rfl, rfl⟩

/-!
## The handshake
-/

/-- Two steps that are alike with every buffer. -/
def AlikeSteps (frames : Bytes -> Bytes -> Prop) (R : alpha -> alpha -> Prop)
    (x x' : SessionM alpha) : Prop :=
  forall buffer, Alike frames (fun r r' => R r.1 r'.1 ∧ r.2 = r'.2)
    (x buffer) (x' buffer)

section Steps

variable {frames : Bytes -> Bytes -> Prop} {R : alpha -> alpha -> Prop}
variable {Q : beta -> beta -> Prop} {x x' : SessionM alpha}

theorem alikeSteps_refl (x : SessionM alpha) : AlikeSteps frames Eq x x :=
  fun buffer => alike_refl (fun _ => ⟨rfl, rfl⟩) (x buffer)

theorem alikeSteps_bind {f f' : alpha -> SessionM beta}
    (hx : AlikeSteps frames R x x')
    (hf : forall a a', R a a' -> AlikeSteps frames Q (f a) (f' a')) :
    AlikeSteps frames Q (x >>= f) (x' >>= f') := by
  intro buffer
  refine alike_bind (hx buffer) ?_
  rintro ⟨a, rest⟩ ⟨a', rest'⟩ ⟨hR, hrest⟩
  change rest = rest' at hrest
  rw [← hrest]
  exact hf a a' hR rest

theorem alikeSteps_then {f f' : alpha -> SessionM beta} (x : SessionM alpha)
    (hf : forall a, AlikeSteps frames Q (f a) (f' a)) :
    AlikeSteps frames Q (x >>= f) (x >>= f') := by
  refine alikeSteps_bind (alikeSteps_refl x) fun a a' h => ?_
  rw [← h]
  exact hf a

end Steps

variable (password : String)

theorem fillUpTo_withPassword (minBytes rounds : Nat) :
    fillUpTo (session.withPassword password) minBytes rounds =
      fillUpTo session minBytes rounds := by
  induction rounds with
  | zero =>
      funext buffer
      unfold fillUpTo
      rfl
  | succ rounds ih =>
      funext buffer
      unfold fillUpTo
      dsimp only
      simp only [ih]
      rfl

theorem fill_withPassword (minBytes : Nat) :
    fill (session.withPassword password) minBytes = fill session minBytes := by
  funext buffer
  unfold fill
  rw [fillUpTo_withPassword]

theorem readStartSessionReply_withPassword :
    readStartSessionReply (session.withPassword password) =
      readStartSessionReply session := by
  unfold readStartSessionReply
  simp only [fill_withPassword]
  rfl

theorem readAuthReply_withPassword :
    readAuthReply (session.withPassword password) = readAuthReply session := by
  unfold readAuthReply
  simp only [fill_withPassword]
  rfl

theorem decidingReply_withPassword (first : AuthReply) :
    decidingReply (session.withPassword password) first =
      decidingReply session first := by
  unfold decidingReply
  rw [readAuthReply_withPassword]
  rfl

theorem socketFactory_withPassword :
    socketFactory (session.withPassword password) = socketFactory session := by
  unfold socketFactory
  congr 1
  funext connecting
  cases connecting with
  | connected =>
      dsimp only
      congr 1
      congr 1
      funext wrapping
      cases wrapping <;> rfl
  | timeout => rfl
  | failed reason => rfl

theorem openSocket_withPassword :
    openSocket hashes (session.withPassword password) =
      openSocket hashes session := by
  unfold openSocket
  rw [socketFactory_withPassword]
  rfl

theorem digestResponse_alike (challenge : Challenge) :
    AlikeSteps (AnswersAlike hashes session password)
      (AnswersAlike hashes session password)
      (digestResponse hashes session challenge)
      (digestResponse hashes (session.withPassword password) challenge) := by
  refine alikeSteps_then _ fun cnonce buffer => ?_
  rcases digestFrame_alike challenge cnonce password with
    ⟨frame, frame', hok, hok'⟩ | ⟨e, herror, herror'⟩
  · rw [hok, hok']
    exact Alike.returned ⟨⟨challenge, cnonce, hok, hok'⟩, rfl⟩
  · rw [herror, herror']
    exact Alike.raised e

theorem send_alike {frame frame' : Bytes}
    (h : AnswersAlike hashes session password frame frame') :
    AlikeSteps (AnswersAlike hashes session password) Eq (send session frame)
      (send (session.withPassword password) frame') := by
  intro buffer
  refine Alike.send h fun sending => ?_
  cases sending with
  | sent => exact Alike.returned ⟨rfl, rfl⟩
  | timeout => exact Alike.raised _
  | failed reason => exact Alike.raised _

theorem answerChallenge_alike (authData : Bytes) :
    AlikeSteps (AnswersAlike hashes session password) Eq
      (answerChallenge hashes session authData)
      (answerChallenge hashes (session.withPassword password) authData) := by
  refine alikeSteps_then _ fun challenge => ?_
  refine alikeSteps_bind (digestResponse_alike password challenge)
    fun response response' h => ?_
  refine alikeSteps_bind (send_alike password h) fun _ _ _ => ?_
  rw [readAuthReply_withPassword]
  exact alikeSteps_refl (readAuthReply session)

theorem settleReply_alike (reply : AuthReply) :
    AlikeSteps (AnswersAlike hashes session password) Eq
      (settleReply hashes session reply)
      (settleReply hashes (session.withPassword password) reply) := by
  unfold settleReply
  split
  · exact alikeSteps_refl (raiseAuthentication session _)
  · split
    · exact answerChallenge_alike password reply.authData
    · exact alikeSteps_refl _

theorem handshake_alike :
    AlikeSteps (AnswersAlike hashes session password) Eq
      (handshake hashes session)
      (handshake hashes (session.withPassword password)) := by
  unfold handshake authenticate
  rw [readStartSessionReply_withPassword, readAuthReply_withPassword]
  simp only [decidingReply_withPassword]
  refine alikeSteps_then (send session session.startFrame) fun _ => ?_
  refine alikeSteps_then (readStartSessionReply session) fun _ => ?_
  refine alikeSteps_then (send session authTypeQuery) fun _ => ?_
  refine alikeSteps_then (readAuthReply session) fun first => ?_
  refine alikeSteps_then (decidingReply session first) fun reply => ?_
  refine alikeSteps_bind (settleReply_alike password reply)
    fun last last' h => ?_
  rw [h]
  split
  · exact alikeSteps_refl (raiseAuthentication session _)
  · exact alikeSteps_refl _

theorem connect_alike :
    Alike (AnswersAlike hashes session password) Eq (connect hashes session)
      (connect hashes (session.withPassword password)) := by
  unfold connect
  rw [openSocket_withPassword]
  refine alike_bind (alike_refl (fun _ => rfl) (openSocket hashes session))
    fun _ _ _ => ?_
  refine alike_bind (handshake_alike password []) ?_
  rintro r r' ⟨_, hbuffer⟩
  rw [hbuffer]
  exact Alike.returned rfl

/-- The peer that does the same hears the same under another password, but
for the answer to a challenge. -/
theorem connect_two_runs {log : List (Exchange SocketAnswer)}
    {y : SocketScript Bytes}
    (h : Script.After (connect hashes session) log y) :
    exists log' y',
      Script.After (connect hashes (session.withPassword password)) log' y' ∧
        List.Forall₂ (SameExchange (AnswersAlike hashes session password))
          log log' := by
  rcases alike_after (connect_alike password) h with
    ⟨log', y', hafter, _, hlogs⟩
  exact ⟨log', y', hafter, hlogs⟩

end Redirection
end IntelAmt
