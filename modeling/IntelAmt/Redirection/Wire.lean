import IntelAmt.Foundation.Deliveries
import IntelAmt.Redirection.Session

/-!
# The handshake as a talk

What the handshake makes of the bytes of the peer when it is given all of
them at once.  The session, which receives them in chunks, follows it.
-/

namespace IntelAmt
namespace Redirection

open Foundation

/-!
## The channel
-/

/-- What a handshake does: it sends a frame, or it draws its cnonce. -/
inductive Event where
  | frame (bytes : Bytes)
  | draw
deriving DecidableEq, Repr

def note : Exchange SocketAnswer -> Note UInt8 Event
  | ⟨SocketOp.recv _, Receiving.data (b :: chunk)⟩ =>
      Note.received (b :: chunk)
  | ⟨SocketOp.recv _, _⟩ => Note.fault none
  | ⟨SocketOp.sendAll frame, Sending.sent⟩ => Note.did (Event.frame frame)
  | ⟨SocketOp.sendAll frame, _⟩ => Note.fault (some (Event.frame frame))
  | ⟨SocketOp.tokenHex _, _⟩ => Note.did Event.draw
  | _ => Note.received []

def waits : SocketOp -> Bool
  | SocketOp.recv _ => true
  | _ => false

/-- Whatever is drawn is this cnonce. -/
def Draws (cnonce : List Char) : Exchange SocketAnswer -> Prop
  | ⟨SocketOp.tokenHex _, drawn⟩ => drawn = cnonce
  | _ => True

def wire (cnonce : List Char) : Channel UInt8 Event SocketOp SocketAnswer where
  note := note
  waits := waits
  allowed := Draws cnonce

/-- A failure of the collection. -/
def Classified (e : Failure) : Prop := exists error, e = Failure.amt error

theorem wire_serves (cnonce : List Char) : (wire cnonce).Serves where
  delivers := by
    intro o b hwaits
    cases o with
    | recv size => exact ⟨Receiving.data [b], rfl, trivial⟩
    | createConnection _ _ _ => cases hwaits
    | wrapSocket _ => cases hwaits
    | close => cases hwaits
    | getPeerCert => cases hwaits
    | sendAll _ => cases hwaits
    | tokenHex _ => cases hwaits
  acts := by
    intro o hwaits
    cases o with
    | recv size => cases hwaits
    | createConnection _ _ _ =>
        exact ⟨Connecting.connected, rfl, rfl, trivial⟩
    | wrapSocket _ => exact ⟨Wrapping.wrapped, rfl, rfl, trivial⟩
    | close => exact ⟨(), rfl, rfl, trivial⟩
    | getPeerCert => exact ⟨none, rfl, rfl, trivial⟩
    | sendAll _ => exact ⟨Sending.sent, rfl, rfl, trivial⟩
    | tokenHex _ => exact ⟨cnonce, rfl, rfl, rfl⟩

/-!
## The talk
-/

abbrev WireTalk (alpha : Type) : Type := Talk UInt8 Event Failure alpha

def told {alpha : Type} : Except Failure alpha -> WireTalk alpha
  | Except.ok a => Talk.returned a
  | Except.error e => Talk.raised e

def fails {alpha : Type} (error : AmtError) : WireTalk alpha :=
  Talk.raised (Failure.amt error)

namespace Wire

variable (hashes : Hashes) (session : RedirectionSession)
variable (cnonce : List Char)

def startReply : WireTalk Unit := do
  let header ← Talk.take 13
  if header.getD 0 0 ≠ 0x11 then
    fails (wrongStartReply session (header.getD 0 0))
  else if header.getD 1 0 ≠ 0 then
    fails (startRejected session (header.getD 1 0))
  else do
    let _ ← Talk.take (header.getD 12 0).toNat
    pure ()

def authReply : WireTalk AuthReply := do
  let header ← Talk.take 9
  if header.getD 0 0 ≠ 0x14 then
    fails (wrongAuthReply session (header.getD 0 0))
  else do
    let authData ← Talk.take (leNat (slice header 5 4))
    pure
      { status := header.getD 1 0
        authType := header.getD 4 0
        authData := authData }

def decidingReply (first : AuthReply) : WireTalk AuthReply :=
  if first.authType = 0 then
    if requiredAuthType ∉ first.authData then
      fails (failure session ErrorClass.authentication notOfferedMessage)
    else do
      let query ← told (digestTypeQuery session)
      Talk.say (Event.frame query) ()
      authReply session
  else pure first

/-- Everything up to the reply that decides. -/
def decision : WireTalk AuthReply := do
  Talk.say (Event.frame session.startFrame) ()
  startReply session
  Talk.say (Event.frame authTypeQuery) ()
  let first ← authReply session
  decidingReply session first

def digestResponse (challenge : Challenge) : WireTalk Bytes := do
  let drawn ← Talk.say Event.draw cnonce
  told (digestFrame hashes session challenge drawn)

def answerChallenge (authData : Bytes) : WireTalk AuthReply := do
  let challenge ← told (parseChallenge authData)
  let response ← digestResponse hashes session cnonce challenge
  Talk.say (Event.frame response) ()
  authReply session

def settleReply (reply : AuthReply) : WireTalk AuthReply :=
  if reply.authType ∈ insecureAuthTypes then
    fails
      (failure session ErrorClass.authentication
        (insecureMessage reply.authType))
  else if reply.status = 1 ∧ reply.authType = requiredAuthType then
    answerChallenge hashes session cnonce reply.authData
  else pure reply

/-- Everything behind the reply that decides. -/
def settlement (reply : AuthReply) : WireTalk Unit := do
  let last ← settleReply hashes session cnonce reply
  if last.status ≠ 0 then
    fails (failure session ErrorClass.authentication rejectedMessage)
  else pure ()

def handshake : WireTalk Unit := do
  let reply ← decision session
  settlement hashes session cnonce reply

end Wire

/-!
## Messages
-/

/-- A StartRedirectionSessionReply that accepts the session. -/
structure IsStartReply (message : Bytes) : Prop where
  header : 13 ≤ message.length
  leading : message.getD 0 0 = 0x11
  status : message.getD 1 0 = 0
  length : message.length = 13 + (message.getD 12 0).toNat

/-- An AuthenticateSessionReply with its parts. -/
structure IsAuthReply (reply : AuthReply) (message : Bytes) : Prop where
  header : 9 ≤ message.length
  leading : message.getD 0 0 = 0x14
  status : message.getD 1 0 = reply.status
  authType : message.getD 4 0 = reply.authType
  length : message.length = 9 + leNat (slice message 5 4)
  authData : reply.authData = message.drop 9

namespace Wire

variable {session : RedirectionSession} {s rest : Bytes}
variable {events : List Event} {reply : AuthReply}

theorem startReply_short (h : s.length < 13) :
    startReply session s = ([], Outcome.starved) :=
  Talk.bind_starved (Talk.take_short h)

section Start

variable (h : 13 ≤ s.length)
include h

theorem startReply_wrong (hleading : s.getD 0 0 ≠ 0x11) :
    startReply session s =
      ([], Outcome.failed
        (Failure.amt (wrongStartReply session (s.getD 0 0)))) := by
  rw [startReply, Talk.bind_done (Talk.take_enough h),
    getD_take (by lia : 0 < 13), if_pos hleading]
  rfl

theorem startReply_rejected (hleading : s.getD 0 0 = 0x11)
    (hstatus : s.getD 1 0 ≠ 0) :
    startReply session s =
      ([], Outcome.failed
        (Failure.amt (startRejected session (s.getD 1 0)))) := by
  rw [startReply, Talk.bind_done (Talk.take_enough h),
    getD_take (by lia : 0 < 13), getD_take (by lia : 1 < 13),
    if_neg (not_not_intro hleading), if_pos hstatus]
  rfl

theorem startReply_accepted (hleading : s.getD 0 0 = 0x11)
    (hstatus : s.getD 1 0 = 0) :
    startReply session s =
      if s.length < 13 + (s.getD 12 0).toNat then ([], Outcome.starved)
      else ([], Outcome.done () (s.drop (13 + (s.getD 12 0).toNat))) := by
  rw [startReply, Talk.bind_done (Talk.take_enough h),
    getD_take (by lia : 0 < 13), getD_take (by lia : 1 < 13),
    getD_take (by lia : 12 < 13), if_neg (not_not_intro hleading),
    if_neg (not_not_intro hstatus), List.nil_append]
  have hlength : (s.drop 13).length = s.length - 13 := List.length_drop
  split
  · next hshort =>
      rw [Talk.bind_starved (Talk.take_short (by lia))]
  · next hlong =>
      rw [Talk.bind_done (Talk.take_enough (by lia)), List.drop_drop]
      rfl

end Start

theorem authReply_short (h : s.length < 9) :
    authReply session s = ([], Outcome.starved) :=
  Talk.bind_starved (Talk.take_short h)

section Auth

variable (h : 9 ≤ s.length)
include h

theorem authReply_wrong (hleading : s.getD 0 0 ≠ 0x14) :
    authReply session s =
      ([], Outcome.failed
        (Failure.amt (wrongAuthReply session (s.getD 0 0)))) := by
  rw [authReply, Talk.bind_done (Talk.take_enough h),
    getD_take (by lia : 0 < 9), if_pos hleading]
  rfl

theorem authReply_accepted (hleading : s.getD 0 0 = 0x14) :
    authReply session s =
      if s.length < 9 + leNat (slice s 5 4) then ([], Outcome.starved)
      else
        ([], Outcome.done
          { status := s.getD 1 0
            authType := s.getD 4 0
            authData := slice s 9 (leNat (slice s 5 4)) }
          (s.drop (9 + leNat (slice s 5 4)))) := by
  rw [authReply, Talk.bind_done (Talk.take_enough h),
    getD_take (by lia : 0 < 9), getD_take (by lia : 1 < 9),
    getD_take (by lia : 4 < 9), slice_take (by lia),
    if_neg (not_not_intro hleading), List.nil_append]
  have hlength : (s.drop 9).length = s.length - 9 := List.length_drop
  split
  · next hshort =>
      rw [Talk.bind_starved (Talk.take_short (by lia))]
  · next hlong =>
      rw [Talk.bind_done (Talk.take_enough (by lia)), List.drop_drop]
      rfl

end Auth

theorem startReply_eq_done :
    startReply session s = (events, Outcome.done () rest) ↔
      events = [] ∧ exists message, s = message ++ rest ∧
        IsStartReply message := by
  constructor
  · intro hread
    by_cases h : s.length < 13
    · rw [startReply_short h] at hread
      cases hread
    · have h : 13 ≤ s.length := Nat.not_lt.mp h
      by_cases hleading : s.getD 0 0 = 0x11
      · by_cases hstatus : s.getD 1 0 = 0
        · rw [startReply_accepted h hleading hstatus] at hread
          split at hread
          · cases hread
          · next hlong =>
              cases hread
              refine ⟨rfl, _, (List.take_append_drop
                (13 + (s.getD 12 0).toNat) s).symm, ?_⟩
              have htake : (s.take (13 + (s.getD 12 0).toNat)).length =
                  13 + (s.getD 12 0).toNat := by
                rw [List.length_take]
                lia
              exact
                { header := by lia
                  leading := by rw [getD_take (by lia), hleading]
                  status := by rw [getD_take (by lia), hstatus]
                  length := by rw [htake, getD_take (by lia)] }
        · rw [startReply_rejected h hleading hstatus] at hread
          cases hread
      · rw [startReply_wrong h hleading] at hread
        cases hread
  · rintro ⟨hevents, message, hs, hmessage⟩
    have hheader := hmessage.header
    have hlength := hmessage.length
    have hbyte : forall k, k < message.length ->
        s.getD k 0 = message.getD k 0 := by
      intro k hk
      rw [hs, getD_append_left hk]
    have hwhole : s.length = message.length + rest.length := by
      rw [hs, List.length_append]
    rw [startReply_accepted (by lia)
      (by rw [hbyte _ (by lia), hmessage.leading])
      (by rw [hbyte _ (by lia), hmessage.status]), hbyte _ (by lia),
      ← hlength, if_neg (by lia), hevents, hs, List.drop_left]

theorem authReply_eq_done :
    authReply session s = (events, Outcome.done reply rest) ↔
      events = [] ∧ exists message, s = message ++ rest ∧
        IsAuthReply reply message := by
  constructor
  · intro hread
    by_cases h : s.length < 9
    · rw [authReply_short h] at hread
      cases hread
    · have h : 9 ≤ s.length := Nat.not_lt.mp h
      by_cases hleading : s.getD 0 0 = 0x14
      · rw [authReply_accepted h hleading] at hread
        split at hread
        · cases hread
        · next hlong =>
            cases hread
            refine ⟨rfl, _, (List.take_append_drop
              (9 + leNat (slice s 5 4)) s).symm, ?_⟩
            have htake : (s.take (9 + leNat (slice s 5 4))).length =
                9 + leNat (slice s 5 4) := by
              rw [List.length_take]
              lia
            exact
              { header := by lia
                leading := by rw [getD_take (by lia), hleading]
                status := getD_take (by lia) s
                authType := getD_take (by lia) s
                length := by rw [htake, slice_take (by lia)]
                authData := by
                  rw [List.drop_take, Nat.add_sub_cancel_left]
                  rfl }
      · rw [authReply_wrong h hleading] at hread
        cases hread
  · rintro ⟨hevents, message, hs, hmessage⟩
    have hheader := hmessage.header
    have hlength := hmessage.length
    have hbyte : forall k, k < message.length ->
        s.getD k 0 = message.getD k 0 := by
      intro k hk
      rw [hs, getD_append_left hk]
    have hslice : slice s 5 4 = slice message 5 4 := by
      rw [hs, slice_append_left (by lia)]
    have hwhole : s.length = message.length + rest.length := by
      rw [hs, List.length_append]
    have hdata : slice s 9 (leNat (slice message 5 4)) = reply.authData := by
      rw [hmessage.authData, hs, slice_append_left (by lia), slice,
        List.take_of_length_le]
      rw [List.length_drop]
      lia
    rw [authReply_accepted (by lia)
      (by rw [hbyte _ (by lia), hmessage.leading]), hslice, hdata,
      hbyte _ (by lia), hbyte _ (by lia), hmessage.status, hmessage.authType,
      ← hlength, if_neg (by lia), hevents, hs, List.drop_left]

theorem startReply_message {message : Bytes} (h : IsStartReply message)
    (session : RedirectionSession) (rest : Bytes) :
    startReply session (message ++ rest) = ([], Outcome.done () rest) :=
  startReply_eq_done.mpr ⟨rfl, message, rfl, h⟩

theorem authReply_message {message : Bytes} (h : IsAuthReply reply message)
    (session : RedirectionSession) (rest : Bytes) :
    authReply session (message ++ rest) = ([], Outcome.done reply rest) :=
  authReply_eq_done.mpr ⟨rfl, message, rfl, h⟩

end Wire
end Redirection
end IntelAmt
