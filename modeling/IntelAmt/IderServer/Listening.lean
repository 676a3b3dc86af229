import IntelAmt.IderServer.Hearing
import IntelAmt.IderServer.Speaking

/-!
# What a whole session is heard as

The session thread reads the same whatever the driving interface sends in the
meantime, so what it has heard is a function of the bytes that came in.  The
frames of a session are the opening of it, the feature toggle and then
sayings.
-/

namespace IntelAmt
namespace IderServer

open Foundation Ider

/-!
## Reading beside the driving interface
-/

/-- The servers differ in nothing but in what they have sent, and the first
has sent so many frames more. -/
structure Mirrors (more : Nat) (s e : IderMockServer) : Prop where
  config : s.config = e.config
  waiting : s.waiting = e.waiting
  expectedInSeq : s.expectedInSeq = e.expectedInSeq
  events : s.events = e.events
  handshakeError : s.handshakeError = e.handshakeError
  outSeq : s.outSeq = e.outSeq + more

namespace Mirrors

variable {more : Nat} {s e : IderMockServer}

theorem refl (s : IderMockServer) : Mirrors 0 s s :=
  ⟨rfl, rfl, rfl, rfl, rfl, rfl⟩

theorem await (h : Mirrors more s e) (waiting : Waiting) :
    Mirrors more { s with waiting := waiting } { e with waiting := waiting } :=
  ⟨h.config, rfl, h.expectedInSeq, h.events, h.handshakeError, h.outSeq⟩

theorem finish (h : Mirrors more s e) : Mirrors more s.finish e.finish := h.await _

theorem count (h : Mirrors more s e) {n m : Nat} (hnm : n = m) :
    Mirrors more { s with expectedInSeq := n } { e with expectedInSeq := m } :=
  ⟨h.config, h.waiting, hnm, h.events, h.handshakeError, h.outSeq⟩

theorem put (h : Mirrors more s e) (event : Event) :
    Mirrors more (s.put event) (e.put event) :=
  ⟨h.config, h.waiting, h.expectedInSeq,
    congrArg (fun events => events ++ [event]) h.events, h.handshakeError,
    h.outSeq⟩

theorem failHandshake (h : Mirrors more s e) (violation : ProtocolViolation) :
    Mirrors more (s.failHandshake violation) (e.failHandshake violation) :=
  ⟨h.config, rfl, h.expectedInSeq, h.events, rfl, h.outSeq⟩

end Mirrors

theorem sendFrame_of_lt {s : IderMockServer} (h : s.outSeq < 2 ^ 32)
    (cmdid : UInt8) (payload : Bytes) :
    s.sendFrame cmdid payload =
      some { s with
        sent := s.sent ++ [inboundHeader cmdid s.outSeq ++ payload]
        outSeq := s.outSeq + 1 } := by
  have hfits : s.outSeq < 256 ^ 4 := h
  rw [IderMockServer.sendFrame, encodeHeader, toBytes, if_pos hfits]
  rfl

theorem sendFrame_of_le {s : IderMockServer} (h : 2 ^ 32 ≤ s.outSeq)
    (cmdid : UInt8) (payload : Bytes) : s.sendFrame cmdid payload = none := by
  have hover : ¬ s.outSeq < 256 ^ 4 := Nat.not_lt.mpr h
  rw [IderMockServer.sendFrame, encodeHeader, toBytes, if_neg hover]
  rfl

theorem sendThen_of_lt {s : IderMockServer} (h : s.outSeq < 2 ^ 32)
    (cmdid : UInt8) (bytes : Bytes) (waiting : Waiting) :
    s.sendThen cmdid (some bytes) waiting =
      { s with
        sent := s.sent ++ [inboundHeader cmdid s.outSeq ++ bytes]
        outSeq := s.outSeq + 1
        waiting := waiting } := by
  rw [IderMockServer.sendThen, Option.bind_some, sendFrame_of_lt h]

theorem sendThen_cases (s : IderMockServer) (cmdid : UInt8)
    (payload : Option Bytes) (waiting : Waiting) :
    s.sendThen cmdid payload waiting = s.finish ∧
        (payload = none ∨ 2 ^ 32 ≤ s.outSeq) ∨
      exists bytes, payload = some bytes ∧ s.outSeq < 2 ^ 32 ∧
        s.sendThen cmdid payload waiting =
          { s with
            sent := s.sent ++ [inboundHeader cmdid s.outSeq ++ bytes]
            outSeq := s.outSeq + 1
            waiting := waiting } := by
  cases payload with
  | none => exact Or.inl ⟨rfl, Or.inl rfl⟩
  | some bytes =>
      by_cases hlt : s.outSeq < 2 ^ 32
      · exact Or.inr ⟨bytes, rfl, hlt, sendThen_of_lt hlt _ _ _⟩
      · refine Or.inl ⟨?_, Or.inr (Nat.not_lt.mp hlt)⟩
        rw [IderMockServer.sendThen, Option.bind_some,
          sendFrame_of_le (Nat.not_lt.mp hlt)]

section Thread

variable {more : Nat} {s e : IderMockServer}

theorem mirrors_sendThen (h : Mirrors more s e) {cmdid : UInt8}
    {payload : Option Bytes} {waiting : Waiting}
    (hfew : (s.sendThen cmdid payload waiting).outSeq < 2 ^ 32) :
    Mirrors more (s.sendThen cmdid payload waiting)
      (e.sendThen cmdid payload waiting) := by
  have hle := h.outSeq
  rcases sendThen_cases s cmdid payload waiting with
    ⟨hs, hnone⟩ | ⟨bytes, hbytes, hlt, hs⟩
  · rcases sendThen_cases e cmdid payload waiting with
      ⟨he, _⟩ | ⟨bytes, hbytes, _, _⟩
    · rw [hs, he]
      exact h.finish
    · rcases hnone with hnone | hover
      · rw [hbytes] at hnone
        cases hnone
      · rw [hs] at hfew
        exact absurd hover (Nat.not_le.mpr hfew)
  · rcases sendThen_cases e cmdid payload waiting with
      ⟨_, hnone | hover⟩ | ⟨_, _, _, he⟩
    · rw [hbytes] at hnone
      cases hnone
    · lia
    · rw [hs, he]
      refine ⟨h.config, rfl, h.expectedInSeq, h.events, h.handshakeError, ?_⟩
      show s.outSeq + 1 = e.outSeq + 1 + more
      lia

theorem mirrors_putDecoded (h : Mirrors more s e) {alpha : Type}
    (decoded : Except DecodeError alpha) (event : alpha -> Event) :
    Mirrors more (s.putDecoded decoded event) (e.putDecoded decoded event) := by
  cases decoded with
  | error _ => exact h.finish
  | ok a => exact (h.put (event a)).await _

theorem mirrors_onPayload (h : Mirrors more s e) {cmdid : UInt8} {payload : Bytes}
    (hfew : (s.onPayload cmdid payload).outSeq < 2 ^ 32) :
    Mirrors more (s.onPayload cmdid payload) (e.onPayload cmdid payload) := by
  rw [IderMockServer.onPayload] at hfew ⊢
  rw [IderMockServer.onPayload]
  by_cases hclose : cmdid = 0x43
  · rw [if_pos hclose, if_pos hclose]
    exact h.finish
  rw [if_neg hclose] at hfew
  rw [if_neg hclose, if_neg hclose]
  by_cases hping : cmdid = 0x44
  · rw [if_pos hping] at hfew
    rw [if_pos hping, if_pos hping]
    exact mirrors_sendThen h hfew
  rw [if_neg hping, if_neg hping]
  split
  · exact h.await _
  split
  · exact (h.put _).await _
  split
  · exact mirrors_putDecoded h _ _
  split
  · exact mirrors_putDecoded h _ _
  · exact (h.put _).await _

theorem mirrors_onHeader (h : Mirrors more s e) {cmdid : UInt8} {seq : Nat}
    (hfew : (s.onHeader cmdid seq).outSeq < 2 ^ 32) :
    Mirrors more (s.onHeader cmdid seq) (e.onHeader cmdid seq) := by
  have hcount := h.count (congrArg (· + 1) h.expectedInSeq)
  rw [IderMockServer.onHeader] at hfew ⊢
  rw [IderMockServer.onHeader, ← h.expectedInSeq]
  by_cases hseq : seq ≠ s.expectedInSeq
  · rw [if_pos hseq, if_pos hseq]
    exact (h.put _).finish
  rw [if_neg hseq] at hfew
  rw [if_neg hseq, if_neg hseq]
  rw [← h.expectedInSeq] at hcount
  dsimp only at hfew ⊢
  by_cases hdata : cmdid = 0x54
  · rw [if_pos hdata, if_pos hdata]
    exact hcount.await _
  rw [if_neg hdata] at hfew
  rw [if_neg hdata, if_neg hdata]
  cases hfixed : fixedInboundPayloadLength.lookup cmdid with
  | none => exact (hcount.put _).finish
  | some length =>
      rw [hfixed] at hfew
      cases length with
      | zero => exact mirrors_onPayload hcount hfew
      | succ length => exact hcount.await _

theorem mirrors_expectHeader (h : Mirrors more s e) (data : Bytes)
    (cmdid : UInt8) (seq : Nat)
    (violation : UInt8 -> Nat -> ProtocolViolation) (waiting : Waiting) :
    Mirrors more (s.expectHeader data cmdid seq violation waiting)
      (e.expectHeader data cmdid seq violation waiting) := by
  rw [IderMockServer.expectHeader, IderMockServer.expectHeader]
  rcases decodeHeader data with _ | ⟨got, attributes, gotSeq⟩
  · exact h.finish
  · dsimp only
    split
    · exact h.failHandshake _
    · exact h.await _

theorem mirrors_answerFeatures (h : Mirrors more s e)
    (hfew : s.answerFeatures.outSeq < 2 ^ 32) :
    Mirrors more s.answerFeatures e.answerFeatures := by
  have hcount := h.count (Eq.refl 2)
  have hsame : e.config.featureToggleStatus =
      s.config.featureToggleStatus := by
    rw [h.config]
  rw [IderMockServer.answerFeatures] at hfew ⊢
  rw [IderMockServer.answerFeatures, hsame]
  cases hstatus : s.config.featureToggleStatus with
  | none => exact hcount.await _
  | some status =>
      rw [hstatus] at hfew
      exact mirrors_sendThen hcount hfew

theorem mirrors_takeBytes (h : Mirrors more s e) {data : Bytes}
    (hfew : (s.takeBytes data).outSeq < 2 ^ 32) :
    Mirrors more (s.takeBytes data) (e.takeBytes data) := by
  rw [IderMockServer.takeBytes] at hfew ⊢
  rw [IderMockServer.takeBytes, ← h.waiting]
  cases hw : s.waiting with
  | openSession => exact mirrors_expectHeader h _ _ _ _ _
  | openSessionPayload =>
      have hsame : encodeOpenSessionReply e.config.readbfr e.config.writebfr
            e.config.proto =
          encodeOpenSessionReply s.config.readbfr s.config.writebfr
            s.config.proto := by
        rw [h.config]
      rw [hw] at hfew
      dsimp only at hfew ⊢
      rw [IderMockServer.replyOpenSession] at hfew ⊢
      rw [IderMockServer.replyOpenSession, hsame]
      exact mirrors_sendThen (h.count rfl) hfew
  | features =>
      dsimp only
      rw [← h.expectedInSeq]
      exact mirrors_expectHeader h _ _ _ _ _
  | featuresPayload =>
      rw [hw] at hfew
      exact mirrors_answerFeatures h hfew
  | header =>
      rw [hw] at hfew
      dsimp only at hfew ⊢
      rw [IderMockServer.nextFrame] at hfew ⊢
      rw [IderMockServer.nextFrame]
      cases hdecode : decodeHeader data with
      | error _ => exact h.finish
      | ok decoded =>
          rw [hdecode] at hfew
          exact mirrors_onHeader h hfew
  | dataPrefix =>
      dsimp only
      rw [IderMockServer.onDataPrefix, IderMockServer.onDataPrefix]
      split
      · exact mirrors_putDecoded h _ _
      · exact h.await _
  | data front => exact mirrors_putDecoded h _ _
  | payload cmdid length =>
      rw [hw] at hfew
      exact mirrors_onPayload h hfew
  | ended => exact h

end Thread

/-!
## What only grows
-/

/-- What later states of a server keep of earlier ones. -/
structure Onward (s s' : IderMockServer) : Prop where
  sent : s.sent <+: s'.sent
  outSeq : s.outSeq ≤ s'.outSeq
  events : s.events <+: s'.events
  error : s.handshakeError ≠ none -> s'.handshakeError ≠ none

namespace Onward

variable {s s' s'' : IderMockServer}

theorem refl (s : IderMockServer) : Onward s s :=
  ⟨List.prefix_rfl, Nat.le_refl _, List.prefix_rfl, id⟩

theorem trans (h : Onward s s') (h' : Onward s' s'') : Onward s s'' :=
  ⟨h.sent.trans h'.sent, h.outSeq.trans h'.outSeq, h.events.trans h'.events,
    h'.error ∘ h.error⟩

theorem await (h : Onward s s') (n : Nat) (waiting : Waiting) :
    Onward s { s' with expectedInSeq := n, waiting := waiting } :=
  ⟨h.sent, h.outSeq, h.events, h.error⟩

theorem put (h : Onward s s') (event : Event) : Onward s (s'.put event) :=
  ⟨h.sent, h.outSeq, h.events.trans (List.prefix_append _ _), h.error⟩

theorem failHandshake (h : Onward s s') (violation : ProtocolViolation) :
    Onward s (s'.failHandshake violation) :=
  ⟨h.sent, h.outSeq, h.events, fun _ => by
    simp [IderMockServer.failHandshake, IderMockServer.finish]⟩

theorem sendThen (h : Onward s s') (cmdid : UInt8) (payload : Option Bytes)
    (waiting : Waiting) : Onward s (s'.sendThen cmdid payload waiting) := by
  rcases sendThen_cases s' cmdid payload waiting with
    ⟨heq, _⟩ | ⟨bytes, _, _, heq⟩
  · rw [heq]
    exact ⟨h.sent, h.outSeq, h.events, h.error⟩
  · rw [heq]
    exact ⟨h.sent.trans (List.prefix_append _ _),
      h.outSeq.trans (Nat.le_succ _), h.events, h.error⟩

theorem putDecoded (h : Onward s s') {alpha : Type}
    (decoded : Except DecodeError alpha) (event : alpha -> Event) :
    Onward s (s'.putDecoded decoded event) := by
  cases decoded with
  | error _ => exact h.await _ _
  | ok a => exact (h.put (event a)).await _ _

theorem onPayload (h : Onward s s') (cmdid : UInt8) (payload : Bytes) :
    Onward s (s'.onPayload cmdid payload) := by
  rw [IderMockServer.onPayload]
  split
  · exact h.await _ _
  split
  · exact h.sendThen _ _ _
  split
  · exact h.await _ _
  split
  · exact (h.put _).await _ _
  split
  · exact h.putDecoded _ _
  split
  · exact h.putDecoded _ _
  · exact (h.put _).await _ _

end Onward

theorem onHeader_onward (s : IderMockServer) (cmdid : UInt8) (seq : Nat) :
    Onward s (s.onHeader cmdid seq) := by
  have hcount := (Onward.refl s).await (s.expectedInSeq + 1) s.waiting
  rw [IderMockServer.onHeader]
  split
  · exact ((Onward.refl s).put _).await _ _
  dsimp only
  split
  · exact hcount.await _ _
  split
  · exact (hcount.put _).await _ _
  · exact hcount.onPayload _ _
  · exact hcount.await _ _

theorem expectHeader_onward (s : IderMockServer) (data : Bytes)
    (cmdid : UInt8) (seq : Nat)
    (violation : UInt8 -> Nat -> ProtocolViolation) (waiting : Waiting) :
    Onward s (s.expectHeader data cmdid seq violation waiting) := by
  rw [IderMockServer.expectHeader]
  rcases decodeHeader data with _ | ⟨got, attributes, gotSeq⟩
  · exact (Onward.refl s).await _ _
  · dsimp only
    split
    · exact (Onward.refl s).failHandshake _
    · exact (Onward.refl s).await _ _

theorem takeBytes_onward (s : IderMockServer) (data : Bytes) :
    Onward s (s.takeBytes data) := by
  have hcount := fun n => (Onward.refl s).await n s.waiting
  rw [IderMockServer.takeBytes]
  split
  · exact expectHeader_onward _ _ _ _ _ _
  · exact (hcount 1).sendThen _ _ _
  · exact expectHeader_onward _ _ _ _ _ _
  · rw [IderMockServer.answerFeatures]
    split
    · exact (Onward.refl s).await _ _
    · exact (hcount 2).sendThen _ _ _
  · rw [IderMockServer.nextFrame]
    rcases decodeHeader data with _ | ⟨cmdid, attributes, seq⟩
    · exact (Onward.refl s).await _ _
    · exact onHeader_onward s cmdid seq
  · rw [IderMockServer.onDataPrefix]
    split
    · exact (Onward.refl s).putDecoded _ _
    · exact (Onward.refl s).await _ _
  · exact (Onward.refl s).putDecoded _ _
  · exact (Onward.refl s).onPayload _ _
  · exact Onward.refl s

theorem receive_onward (r : ExactRead UInt8 IderMockServer)
    (bytes : Bytes) : Onward r.state (reader.receive r bytes).state :=
  reader.receive_keeps (P := Onward r.state)
    (fun s data h => h.trans (takeBytes_onward s data)) r bytes
    (Onward.refl r.state)

/-- A server that only has sent. -/
def Sent (s s' : IderMockServer) : Prop :=
  Onward s s' ∧ exists more, Mirrors more s' s

theorem Sent.refl (s : IderMockServer) : Sent s s :=
  ⟨Onward.refl s, 0, Mirrors.refl s⟩

theorem Mirrors.trans {more more' : Nat} {s s' s'' : IderMockServer}
    (h : Mirrors more s s') (h' : Mirrors more' s' s'') :
    Mirrors (more' + more) s s'' :=
  ⟨h.config.trans h'.config, h.waiting.trans h'.waiting,
    h.expectedInSeq.trans h'.expectedInSeq, h.events.trans h'.events,
    h.handshakeError.trans h'.handshakeError, by
      rw [h.outSeq, h'.outSeq, Nat.add_assoc]⟩

theorem Sent.trans {s s' s'' : IderMockServer} (h : Sent s s')
    (h' : Sent s' s'') : Sent s s'' := by
  rcases h with ⟨honward, more, hmirrors⟩
  rcases h' with ⟨honward', more', hmirrors'⟩
  exact ⟨honward.trans honward', _, hmirrors'.trans hmirrors⟩

theorem trySend_sent (s : IderMockServer) (cmdid : UInt8)
    (payload : Option Bytes) : Sent s (s.trySend cmdid payload) := by
  rw [IderMockServer.trySend]
  cases payload with
  | none => exact Sent.refl s
  | some bytes =>
      rw [Option.bind_some]
      by_cases hlt : s.outSeq < 2 ^ 32
      · rw [sendFrame_of_lt hlt]
        exact ⟨⟨List.prefix_append _ _, Nat.le_succ _, List.prefix_rfl, id⟩,
          1, ⟨rfl, rfl, rfl, rfl, rfl, rfl⟩⟩
      · rw [sendFrame_of_le (Nat.not_lt.mp hlt)]
        exact Sent.refl s

theorem sendChunks_sent (chunks : List Bytes) (s : IderMockServer) :
    Sent s (s.sendChunks chunks) := by
  induction chunks generalizing s with
  | nil => exact Sent.refl s
  | cons chunk chunks ih =>
      have hone := trySend_sent s 0x53 (encodeDataFromHost chunk)
      rw [IderMockServer.trySend] at hone
      rw [IderMockServer.sendChunks]
      cases hsend : (encodeDataFromHost chunk).bind (s.sendFrame 0x53) with
      | none => exact Sent.refl s
      | some s' =>
          rw [hsend] at hone
          exact hone.trans (ih s')

theorem trySendAhead_sent (s : IderMockServer) (cmdid : UInt8)
    (payload : Bytes) : Sent s (s.trySendAhead cmdid payload) := by
  rcases trySendAhead_cases s cmdid payload with hnothing | ⟨_, hsent⟩
  · rw [hnothing]
    exact Sent.refl s
  · rw [hsent]
    exact ⟨⟨List.prefix_append _ _, Nat.le_refl _, List.prefix_rfl, id⟩, 0,
      ⟨rfl, rfl, rfl, rfl, rfl, rfl⟩⟩

/-- The driving interface sends, and does nothing else. -/
theorem drive_sent (s : IderMockServer) (a : Drive) : Sent s (s.drive a) := by
  cases a with
  | sendDataFromHost data frameSize =>
      rw [IderMockServer.drive]
      split
      · exact Sent.refl s
      split
      · exact trySend_sent _ _ _
      · exact sendChunks_sent _ _
  | sendBadSequenceFrame cmdid payload => exact trySendAhead_sent _ _ _
  | _ => exact trySend_sent _ _ _

theorem driven_sent (a : Drive) (r : ExactRead UInt8 IderMockServer) :
    Sent r.state (driven a r).state ∧
      (driven a r).collected = r.collected := by
  rw [driven]
  split
  · exact ⟨drive_sent _ _, rfl⟩
  · exact ⟨Sent.refl _, rfl⟩

theorem receive_mirrors (bytes : Bytes) {more : Nat}
    {r e : ExactRead UInt8 IderMockServer} (h : Mirrors more r.state e.state)
    (hcollected : r.collected = e.collected)
    (hfew : (reader.receive r bytes).state.outSeq < 2 ^ 32) :
    Mirrors more (reader.receive r bytes).state
        (reader.receive e bytes).state ∧
      (reader.receive r bytes).collected =
        (reader.receive e bytes).collected := by
  induction bytes generalizing r e with
  | nil => exact ⟨h, hcollected⟩
  | cons b bytes ih =>
      rw [ExactReader.receive_cons] at hfew ⊢
      rw [ExactReader.receive_cons]
      have hnext := Nat.lt_of_le_of_lt
        (receive_onward (reader.next r b) bytes).outSeq hfew
      have hneeds : reader.needs e.state = reader.needs r.state :=
        congrArg Waiting.needs h.waiting.symm
      suffices hstep : Mirrors more (reader.next r b).state
          (reader.next e b).state ∧
          (reader.next r b).collected = (reader.next e b).collected from
        ih hstep.1 hstep.2 hfew
      rw [ExactReader.next] at hnext ⊢
      rw [ExactReader.next, hneeds, ← hcollected]
      split
      · exact ⟨h, hcollected⟩
      · rename_i hmissing
        rw [if_neg hmissing] at hnext
        split
        · exact ⟨h, rfl⟩
        · rename_i hmore
          rw [if_neg hmore] at hnext
          exact ⟨mirrors_takeBytes h hnext, rfl⟩

/-!
## The opening of a session
-/

/-- The numbers of a configuration fit the fields that they are sent in. -/
structure ServerConfig.Fits (config : ServerConfig) : Prop where
  readbfr : config.readbfr < 2 ^ 16
  writebfr : config.writebfr < 2 ^ 16
  proto : config.proto < 2 ^ 8
  status : forall status, config.featureToggleStatus = some status ->
    status < 2 ^ 32

theorem toBytes_of_lt {length n : Nat} (h : n < 256 ^ length) :
    toBytes length n = some (packLE length n) := if_pos h

theorem ServerConfig.Fits.reply {config : ServerConfig} (h : config.Fits) :
    exists bytes, encodeOpenSessionReply config.readbfr config.writebfr
      config.proto = some bytes := by
  rw [encodeOpenSessionReply, toBytes_of_lt h.readbfr,
    toBytes_of_lt h.writebfr, toBytes_of_lt h.proto]
  exact ⟨_, rfl⟩

theorem ServerConfig.Fits.verdict {config : ServerConfig} (h : config.Fits)
    {status : Nat} (hstatus : config.featureToggleStatus = some status) :
    exists bytes, encodeStatusData 3 status = some bytes := by
  rw [encodeStatusData, toBytes_of_lt (h.status status hstatus)]
  exact ⟨_, rfl⟩

/-- The first frame, and the second one unless it is withheld. -/
def replyFrame (config : ServerConfig) : Bytes :=
  inboundHeader 0x41 0 ++
    (encodeOpenSessionReply config.readbfr config.writebfr
      config.proto).getD []

def verdictFrames (config : ServerConfig) : List Bytes :=
  match config.featureToggleStatus with
  | none => []
  | some status =>
      [inboundHeader 0x49 1 ++ (encodeStatusData 3 status).getD []]

/-- The server where its answer to OPEN_SESSION leaves it. -/
def openedServer (config : ServerConfig) : IderMockServer where
  config := config
  waiting := Waiting.features
  outSeq := 1
  expectedInSeq := 1
  sent := [replyFrame config]

/-- The server where the toggle leaves it. -/
def toggledServer (config : ServerConfig) : IderMockServer where
  config := config
  waiting := Waiting.header
  outSeq := 1 + (verdictFrames config).length
  expectedInSeq := 2
  sent := replyFrame config :: verdictFrames config

section Opening

variable {ref : Type} {config : ServerConfig}

theorem receive_openSession (hfits : config.Fits) (h : HandlerState ref) :
    reader.receive { state := { config := config } }
        ((openSession h).frame 0) = { state := openedServer config } := by
  have hpayload : (openSession h).payload.length = 10 := by
    simp [openSession, bareFrame]
  have hopen : IderMockServer.takeBytes { config := config }
      (header cmdOpenSession 0 false false) =
        { config := config, waiting := Waiting.openSessionPayload } := rfl
  rcases hfits.reply with ⟨bytes, hbytes⟩
  have hfirst := @ExactReader.receive_two _ _ reader { config := config }
    (header cmdOpenSession 0 false false) (openSession h).payload
    (Nat.succ_pos 7) rfl
  have hsecond := @ExactReader.receive_exact _ _ reader
    { config := config, waiting := Waiting.openSessionPayload }
    (openSession h).payload (Nat.succ_pos 9) hpayload
  rw [reader_take, hopen] at hfirst
  refine (hfirst.trans hsecond).trans ?_
  rw [reader_take, IderMockServer.takeBytes]
  simp only [IderMockServer.replyOpenSession, hbytes]
  rw [sendThen_of_lt (Nat.two_pow_pos 32), openedServer, replyFrame, hbytes]
  rfl

theorem answerFeatures_toggled (hfits : config.Fits) :
    IderMockServer.answerFeatures
        { openedServer config with waiting := Waiting.featuresPayload } =
      toggledServer config := by
  simp only [IderMockServer.answerFeatures, openedServer]
  cases hstatus : config.featureToggleStatus with
  | none => simp [toggledServer, verdictFrames, hstatus]
  | some status =>
      rcases hfits.verdict hstatus with ⟨bytes, hbytes⟩
      simp only [hbytes]
      rw [sendThen_of_lt (by decide : 1 < 2 ^ 32), toggledServer]
      simp [verdictFrames, hstatus, hbytes]

theorem receive_featureToggle (hfits : config.Fits)
    (startMode : StartMode) :
    reader.receive { state := openedServer config }
        ((featureToggle startMode).frame 1) =
      { state := toggledServer config } := by
  have hpayload : (featureToggle startMode).payload.length = 5 := by
    simp [featureToggle, bareFrame]
  have hheader : (openedServer config).takeBytes
      (header cmdDisableEnableFeatures 1 false false) =
        { openedServer config with
          waiting := Waiting.featuresPayload } := rfl
  have hfirst := @ExactReader.receive_two _ _ reader (openedServer config)
    (header cmdDisableEnableFeatures 1 false false)
    (featureToggle startMode).payload (Nat.succ_pos 7) rfl
  have hsecond := @ExactReader.receive_exact _ _ reader
    { openedServer config with waiting := Waiting.featuresPayload }
    (featureToggle startMode).payload (Nat.succ_pos 4) hpayload
  rw [reader_take, hheader] at hfirst
  refine (hfirst.trans hsecond).trans ?_
  rw [reader_take, ← answerFeatures_toggled hfits]
  rfl

end Opening

/-!
## The whole of it
-/

/-- What an engine says once its session has been accepted. -/
def spoken {ref : Type} (h : HandlerState ref) (sayings : List Saying) :
    List Outbound :=
  openSession h :: featureToggle h.startMode :: sayings.map Saying.outbound

/-- A whole session is heard as it was said. -/
theorem receive_spoken {ref : Type} {config : ServerConfig}
    (hfits : config.Fits) (h : HandlerState ref) {sayings : List Saying}
    (hfew : sayings.length + 2 ≤ 2 ^ 32)
    (hsayings : forall saying, saying ∈ sayings -> saying.Fits) :
    reader.receive { state := { config := config } }
        (numbered 0 (spoken h sayings)).flatten =
      { state := (toggledServer config).heedAll sayings } := by
  have hrest := receive_sayings sayings (s := toggledServer config) rfl
    (by rw [toggledServer]; lia) hsayings
  rw [spoken, numbered, numbered, List.flatten_cons, List.flatten_cons,
    ExactReader.receive_append, ExactReader.receive_append,
    receive_openSession hfits h, show (0 + 1) % 2 ^ 32 = 1 from rfl,
    receive_featureToggle hfits]
  exact hrest

/-- Whatever part of a session has come in, the server has heard a part of
it and nothing else. -/
theorem heard_spoken {ref : Type} {config : ServerConfig}
    (hfits : config.Fits) (h : HandlerState ref) {sayings : List Saying}
    (hfew : sayings.length + 2 ≤ 2 ^ 32)
    (hsayings : forall saying, saying ∈ sayings -> saying.Fits)
    {bytes later : Bytes}
    (hbytes : bytes ++ later = (numbered 0 (spoken h sayings)).flatten) :
    let r := reader.receive { state := { config := config } } bytes
    r.state.events <+: sayings.flatMap Saying.heard ∧
      r.state.handshakeError = none ∧
      (later = [] -> r.state.events = sayings.flatMap Saying.heard ∧
        r.state.waiting = Waiting.header ∧ r.collected = []) := by
  intro r
  have hall := receive_spoken hfits h hfew hsayings
  rw [← hbytes, ExactReader.receive_append] at hall
  have honward := receive_onward r later
  rw [hall] at honward
  have hevents : ((toggledServer config).heedAll sayings).events =
      sayings.flatMap Saying.heard := rfl
  refine ⟨hevents ▸ honward.events, ?_, ?_⟩
  · cases herror : r.state.handshakeError with
    | none => rfl
    | some violation =>
        exact absurd rfl (honward.error (by rw [herror]; simp))
  · intro hlater
    rw [hlater, ExactReader.receive_nil] at hall
    have hstate : r = _ := hall
    rw [hstate]
    exact ⟨rfl, rfl, rfl⟩

theorem heard_openSession {ref : Type} {config : ServerConfig}
    (hfits : config.Fits) (h : HandlerState ref) {bytes later : Bytes}
    (hbytes : bytes ++ later = (openSession h).frame 0) :
    let r := reader.receive { state := { config := config } } bytes
    r.state.events = [] ∧ r.state.handshakeError = none ∧
      (later = [] -> r.state.waiting = Waiting.features ∧
        r.collected = []) := by
  intro r
  have hall := receive_openSession hfits h
  rw [← hbytes, ExactReader.receive_append] at hall
  have honward := receive_onward r later
  rw [hall] at honward
  refine ⟨List.prefix_nil.mp honward.events, ?_, ?_⟩
  · cases herror : r.state.handshakeError with
    | none => rfl
    | some violation =>
        exact absurd rfl (honward.error (by rw [herror]; simp))
  · intro hlater
    rw [hlater, ExactReader.receive_nil] at hall
    have hstate : r = _ := hall
    rw [hstate]
    exact ⟨rfl, rfl⟩

end IderServer
end IntelAmt
