import IntelAmt.IderServer.Accesses
import IntelAmt.IderServer.Safety

/-!
# Driving an open session

Once the handshake is done the session thread of the server sends nothing on
its own, as long as the client sends no keepalive, which the engine never
does.  What the server sends is then what the driving interface makes it send.
-/

namespace IntelAmt
namespace IderServer

open Foundation Ider

/-!
## The frames of a call
-/

/-- The frames that a payload is sent in. -/
def hostPieces (data : Bytes) (frameSize : Nat) : List Bytes :=
  if frameSize = 0 then []
  else if data = [] then [[]]
  else IderMockServer.hostChunks data frameSize

def dataParcel (chunk : Bytes) : UInt8 × Bytes :=
  (0x53, ([0x00] : Bytes) ++ packLE 2 chunk.length ++ [0, 0, 0] ++ chunk)

/-- Command and payload of each frame of a call. -/
def parcels : Drive -> List (UInt8 × Bytes)
  | Drive.issueScsi cdb device featureRegister =>
      [(0x50, ([0, featureRegister, 0, 0, 0, 0,
        if device = 0xB0 then 0x10 else 0x00, 0] : Bytes) ++ cdb)]
  | Drive.sendDataFromHost data frameSize =>
      (hostPieces data frameSize).map dataParcel
  | Drive.injectResetOccurred resetMask =>
      [(0x46, encodeResetOccurred resetMask)]
  | Drive.injectErrorOccurred code => [(0x4A, encodeErrorOccurred code)]
  | Drive.injectClose => [(0x43, [])]
  | Drive.sendBadSequenceFrame _ _ => []

/-- Frames with successive numbers. -/
def framed : Nat -> List (UInt8 × Bytes) -> List Bytes
  | _, [] => []
  | k, parcel :: rest =>
      (inboundHeader parcel.1 k ++ parcel.2) :: framed (k + 1) rest

theorem framed_append (k : Nat) (parcels more : List (UInt8 × Bytes)) :
    framed k (parcels ++ more) =
      framed k parcels ++ framed (k + parcels.length) more := by
  induction parcels generalizing k with
  | nil => rfl
  | cons parcel parcels ih =>
      rw [List.cons_append, framed, ih, framed, List.length_cons,
        Nat.add_right_comm, Nat.add_assoc, List.cons_append]

@[simp] theorem framed_length (k : Nat) (parcels : List (UInt8 × Bytes)) :
    (framed k parcels).length = parcels.length := by
  induction parcels generalizing k with
  | nil => rfl
  | cons parcel parcels ih => rw [framed, List.length_cons, ih, List.length_cons]

/-- Every frame of the call can be encoded and is sent under the next
number. -/
def Drive.Fits : Drive -> Prop
  | Drive.issueScsi cdb _ _ => cdb.length = 12
  | Drive.sendDataFromHost _ frameSize => frameSize < 2 ^ 16
  | Drive.sendBadSequenceFrame _ _ => False
  | _ => True

/-- The server with some more frames sent. -/
def IderMockServer.sends (s : IderMockServer)
    (parcels : List (UInt8 × Bytes)) : IderMockServer :=
  { s with
    sent := s.sent ++ framed s.outSeq parcels
    outSeq := s.outSeq + parcels.length }

section Calls

variable {s : IderMockServer}

theorem hostPieces_length {data : Bytes} {frameSize : Nat} :
    forall chunk, chunk ∈ hostPieces data frameSize ->
      chunk.length ≤ frameSize := by
  intro chunk hmem
  rw [hostPieces] at hmem
  split at hmem
  · cases hmem
  split at hmem
  · rw [List.mem_singleton.mp hmem]
    exact Nat.zero_le _
  · rcases List.mem_map.mp hmem with ⟨k, _, rfl⟩
    exact slice_length_le _ _ _

end Calls

/-!
## Behind the handshake
-/

/-- How many bytes of the handshake a thread in this read has still to come to
the end of; one whose session is over never will. -/
def Waiting.unheard : Waiting -> Nat
  | openSession => 31
  | openSessionPayload => 23
  | features => 13
  | featuresPayload => 5
  | ended => 31
  | _ => 0

section Handshake

variable {s : IderMockServer}

theorem sendThen_waiting (cmdid : UInt8) (payload : Option Bytes)
    (waiting : Waiting) :
    (s.sendThen cmdid payload waiting).waiting = waiting ∨
      (s.sendThen cmdid payload waiting).waiting = Waiting.ended := by
  rcases sendThen_cases s cmdid payload waiting with
    ⟨heq, _⟩ | ⟨bytes, _, _, heq⟩
  · rw [heq]
    exact Or.inr rfl
  · rw [heq]
    exact Or.inl rfl

theorem putDecoded_waiting {alpha : Type} (decoded : Except DecodeError alpha)
    (event : alpha -> Event) :
    (s.putDecoded decoded event).waiting = Waiting.header ∨
      (s.putDecoded decoded event).waiting = Waiting.ended := by
  cases decoded with
  | error _ => exact Or.inr rfl
  | ok a => exact Or.inl rfl

theorem onPayload_waiting (cmdid : UInt8) (payload : Bytes) :
    (s.onPayload cmdid payload).waiting = Waiting.header ∨
      (s.onPayload cmdid payload).waiting = Waiting.ended := by
  rw [IderMockServer.onPayload]
  split
  · exact Or.inr rfl
  split
  · exact sendThen_waiting _ _ _
  split
  · exact Or.inl rfl
  split
  · exact Or.inl rfl
  split
  · exact putDecoded_waiting _ _
  split
  · exact putDecoded_waiting _ _
  · exact Or.inl rfl

theorem onHeader_waiting (cmdid : UInt8) (seq : Nat) :
    (s.onHeader cmdid seq).waiting.serving = true ∨
      (s.onHeader cmdid seq).waiting = Waiting.ended := by
  rw [IderMockServer.onHeader]
  split
  · exact Or.inr rfl
  dsimp only
  split
  · exact Or.inl rfl
  split
  · exact Or.inr rfl
  · rcases onPayload_waiting (s := { s with
        expectedInSeq := s.expectedInSeq + 1 }) cmdid [] with hw | hw
    · rw [hw]
      exact Or.inl rfl
    · exact Or.inr hw
  · exact Or.inl rfl

theorem expectHeader_waiting (data : Bytes) (cmdid : UInt8) (seq : Nat)
    (violation : UInt8 -> Nat -> ProtocolViolation) (waiting : Waiting) :
    (s.expectHeader data cmdid seq violation waiting).waiting = waiting ∨
      (s.expectHeader data cmdid seq violation waiting).waiting =
        Waiting.ended := by
  rw [IderMockServer.expectHeader]
  rcases decodeHeader data with _ | ⟨got, attributes, gotSeq⟩
  · exact Or.inr rfl
  · dsimp only
    split
    · exact Or.inr rfl
    · exact Or.inl rfl

theorem answerFeatures_waiting :
    s.answerFeatures.waiting = Waiting.header ∨
      s.answerFeatures.waiting = Waiting.ended := by
  rw [IderMockServer.answerFeatures]
  split
  · exact Or.inl rfl
  · exact sendThen_waiting _ _ _

/-- The thread goes through the handshake read by read, and then serves until
the session is over. -/
theorem takeBytes_waiting (data : Bytes) :
    (s.takeBytes data).waiting = Waiting.ended ∨
      s.waiting.serving = false ∧
        (s.takeBytes data).waiting.unheard + s.waiting.needs =
          s.waiting.unheard ∨
      s.waiting.serving = true ∧
        (s.takeBytes data).waiting.serving = true := by
  have hserving : forall {w : Waiting} {s' : IderMockServer},
      w.serving = true ->
      s'.waiting = Waiting.header ∨ s'.waiting = Waiting.ended ->
      s'.waiting = Waiting.ended ∨
        w.serving = false ∧ s'.waiting.unheard + w.needs = w.unheard ∨
        w.serving = true ∧ s'.waiting.serving = true := by
    intro w s' hw hnext
    rcases hnext with hnext | hnext
    · exact Or.inr (Or.inr ⟨hw, by rw [hnext]; rfl⟩)
    · exact Or.inl hnext
  have hstep : forall {w next : Waiting} {s' : IderMockServer},
      w.serving = false -> next.unheard + w.needs = w.unheard ->
      s'.waiting = next ∨ s'.waiting = Waiting.ended ->
      s'.waiting = Waiting.ended ∨
        w.serving = false ∧ s'.waiting.unheard + w.needs = w.unheard ∨
        w.serving = true ∧ s'.waiting.serving = true := by
    intro w next s' hopens hw hnext
    rcases hnext with hnext | hnext
    · exact Or.inr (Or.inl ⟨hopens, by rw [hnext]; exact hw⟩)
    · exact Or.inl hnext
  rw [IderMockServer.takeBytes]
  cases hw : s.waiting with
  | openSession => exact hstep rfl rfl (expectHeader_waiting _ _ _ _ _)
  | openSessionPayload => exact hstep rfl rfl (sendThen_waiting _ _ _)
  | features => exact hstep rfl rfl (expectHeader_waiting _ _ _ _ _)
  | featuresPayload => exact hstep rfl rfl answerFeatures_waiting
  | header =>
      dsimp only
      rw [IderMockServer.nextFrame]
      rcases decodeHeader data with _ | ⟨cmdid, attributes, seq⟩
      · exact Or.inl rfl
      · rcases onHeader_waiting (s := s) cmdid seq with hnext | hnext
        · exact Or.inr (Or.inr ⟨rfl, hnext⟩)
        · exact Or.inl hnext
  | dataPrefix =>
      dsimp only
      rw [IderMockServer.onDataPrefix]
      split
      · exact hserving rfl (putDecoded_waiting _ _)
      · exact Or.inr (Or.inr ⟨rfl, rfl⟩)
  | data front => exact hserving rfl (putDecoded_waiting _ _)
  | payload cmdid length => exact hserving rfl (onPayload_waiting _ _)
  | ended => exact Or.inl hw

end Handshake

theorem receive_serving (bytes : Bytes)
    {r : ExactRead UInt8 IderMockServer}
    (h : r.state.waiting.serving = true ∨ r.state.waiting = Waiting.ended) :
    (reader.receive r bytes).state.waiting.serving = true ∨
      (reader.receive r bytes).state.waiting = Waiting.ended := by
  apply reader.receive_keeps (P := fun s => s.waiting.serving = true ∨
    s.waiting = Waiting.ended) _ r bytes h
  intro s data hs
  rcases hs with hserving | hover
  · rcases takeBytes_waiting (s := s) data with
      hover | ⟨hopens, _⟩ | ⟨_, hserves⟩
    · exact Or.inr hover
    · rw [hserving] at hopens
      cases hopens
    · exact Or.inl hserves
  · right
    rw [reader_take, IderMockServer.takeBytes, hover]
    exact hover

/-- Behind the handshake the thread sends nothing: the engine never sends a
keepalive. -/
structure Opened (config : ServerConfig) (s : IderMockServer) : Prop where
  serving : s.waiting.serving = true
  sent : s.sent = (toggledServer config).sent
  outSeq : s.outSeq = (toggledServer config).outSeq

theorem heardBy_opened {ref : Type} {config : ServerConfig}
    (hfits : config.Fits) {h : HandlerState ref} {sayings : List Saying}
    (hfew : sayings.length + 2 ≤ 2 ^ 32)
    (hsayings : forall saying, saying ∈ sayings -> saying.Fits)
    {bytes later : Bytes}
    (hbytes : bytes ++ later = (numbered 0 (spoken h sayings)).flatten)
    (hlong : 31 ≤ bytes.length) :
    Opened config (heardBy config bytes).state := by
  have hall := receive_spoken hfits h hfew hsayings
  -- the handshake is the front of what has come in
  have hfront : exists rest, bytes = (openSession h).frame 0 ++
      (featureToggle h.startMode).frame 1 ++ rest := by
    have hlength : ((openSession h).frame 0 ++
        (featureToggle h.startMode).frame 1).length = 31 := by
      simp [Outbound.frame, openSession, featureToggle, bareFrame, header]
    have hprefix : bytes <+: (numbered 0 (spoken h sayings)).flatten :=
      ⟨later, hbytes⟩
    have hopening : (openSession h).frame 0 ++
        (featureToggle h.startMode).frame 1 <+:
          (numbered 0 (spoken h sayings)).flatten := by
      rw [spoken, numbered, numbered, List.flatten_cons, List.flatten_cons,
        ← List.append_assoc]
      exact List.prefix_append _ _
    rcases List.prefix_of_prefix_length_le hopening hprefix
      (by rw [hlength]; exact hlong) with ⟨rest, hrest⟩
    exact ⟨rest, hrest.symm⟩
  rcases hfront with ⟨rest, rfl⟩
  rw [← hbytes, ExactReader.receive_append] at hall
  have htoggled : heardBy config ((openSession h).frame 0 ++
      (featureToggle h.startMode).frame 1 ++ rest) =
        reader.receive { state := toggledServer config } rest := by
    rw [heardBy, ExactReader.receive_append, ExactReader.receive_append,
      receive_openSession hfits h, receive_featureToggle hfits]
  have hbefore := receive_onward { state := toggledServer config } rest
  have hbehind := receive_onward (heardBy config ((openSession h).frame 0 ++
    (featureToggle h.startMode).frame 1 ++ rest)) later
  have hserving := receive_serving rest
    (r := { state := toggledServer config }) (Or.inl rfl)
  rw [← htoggled] at hbefore hserving
  rw [heardBy, hall] at hbehind
  refine ⟨?_, ?_, Nat.le_antisymm hbehind.outSeq hbefore.outSeq⟩
  · rcases hserving with hserving | hover
    · exact hserving
    · -- a session that is over is not where the whole of it ends
      rw [← heardBy] at hall
      generalize heardBy config ((openSession h).frame 0 ++
        (featureToggle h.startMode).frame 1 ++ rest) = r at hall hover
      have hend : (reader.receive r later).state.waiting = Waiting.ended :=
        reader.receive_keeps (P := fun s => s.waiting = Waiting.ended)
          (fun s data hs => by
            rw [reader_take, IderMockServer.takeBytes, hs]
            exact hs) r later hover
      rw [hall] at hend
      cases hend
  · exact hbehind.sent.eq_of_length_le hbefore.sent.length_le

/-!
## The acts of a run
-/

section Acts

variable {ref : Type} [DecidableEq ref] {images : ref -> MediaImage}
variable {config : ServerConfig} {h : HandlerState ref} {r : Receiver ref}

theorem sends_of_mirrors {s e : IderMockServer}
    {parcels : List (UInt8 × Bytes)}
    (hmirrors : Mirrors parcels.length s e)
    (hsent : s.sent = e.sent ++ framed e.outSeq parcels) :
    s = e.sends parcels := by
  rcases s with ⟨config, waiting, outSeq, expectedInSeq, sent, events, error⟩
  rcases hmirrors with ⟨rfl, rfl, rfl, rfl, rfl, rfl⟩
  rw [IderMockServer.sends, ← hsent]

theorem mirrors_sends (s : IderMockServer)
    (parcels : List (UInt8 × Bytes)) :
    Mirrors parcels.length (s.sends parcels) s :=
  ⟨rfl, rfl, rfl, rfl, rfl, rfl⟩

/-- Whatever part of a session has come in beyond the handshake, the thread
serves. -/
theorem Talking.opened (hconfig : config.Acceptable)
    (hr : Attending images config h r 0) {t : Talk images}
    (ht : Talking config r t)
    (hfew : (sentFrames t.left.engine.state.trace).length ≤ 2 ^ 32)
    {bytes later : Bytes} (hbytes : bytes ++ later = t.left.said)
    (hlong : 31 ≤ bytes.length) :
    Opened config (heardBy config bytes).state := by
  rcases ht.speaks with ⟨astray, hspeaks⟩
  rcases ht.follows with ⟨taken, hfollows⟩
  rcases hfollows.spoken hconfig hr hspeaks with ⟨sayings, hspoken⟩
  have hsaid : t.left.said =
      (sentFrames t.left.engine.state.trace).flatten := rfl
  rw [hsaid] at hbytes
  generalize sentFrames t.left.engine.state.trace = frames
    at hspoken hbytes hfew
  cases hspoken with
  | opening =>
      have hlength := congrArg List.length hbytes
      simp [numbered, Outbound.frame, openSession, bareFrame, header]
        at hlength
      lia
  | session _ hsayings =>
      rw [numbered_length, spoken, List.length_cons, List.length_cons,
        List.length_map] at hfew
      exact heardBy_opened hconfig.fits hfew hsayings hbytes hlong

/-- The server has heard what it has heard, and has sent the frames of the
acts. -/
structure Driven (config : ServerConfig) (t : Talk images)
    (past : List Drive) : Prop where
  long : 31 ≤ t.rightHeard.length
  speaks : Speaks config 0 t.right.state
  state : t.right.state =
    (heardBy config t.rightHeard).state.sends (past.flatMap parcels)
  collected : t.right.collected = (heardBy config t.rightHeard).collected

theorem Driven.hear (hconfig : config.Acceptable)
    (hr : Attending images config h r 0) {t : Talk images}
    {past : List Drive} (ht : Talking config r t) (hd : Driven config t past)
    (hfew : (sentFrames t.left.engine.state.trace).length ≤ 2 ^ 32)
    {chunk later : Bytes}
    (hbytes : t.rightHeard ++ (chunk ++ later) = t.left.said)
    (hnumbers : (reader.receive t.right chunk).state.outSeq < 2 ^ 32) :
    Driven config
      { t with
        right := reader.receive t.right chunk
        rightHeard := t.rightHeard ++ chunk } past := by
  have hlong : 31 ≤ (t.rightHeard ++ chunk).length := by
    rw [List.length_append]
    exact Nat.le_trans hd.long (Nat.le_add_right _ _)
  have hbefore := ht.opened hconfig hr hfew hbytes hd.long
  rw [← List.append_assoc] at hbytes
  have hbehind := ht.opened hconfig hr hfew hbytes hlong
  have hmirrors : Mirrors (past.flatMap parcels).length t.right.state
      (heardBy config t.rightHeard).state := by
    rw [hd.state]
    exact mirrors_sends _ _
  have hnext := receive_mirrors chunk hmirrors hd.collected hnumbers
  rw [← heardBy_append] at hnext
  have honward := receive_onward t.right chunk
  have hspeaks := receive_speaks hd.speaks chunk
  -- the thread has sent nothing in the meantime
  have hsame : (reader.receive t.right chunk).state.sent =
      t.right.state.sent := by
    symm
    apply honward.sent.eq_of_length
    have hcount := hmirrors.outSeq
    rw [hd.speaks.next, hspeaks.next, hnext.1.outSeq, hbehind.outSeq,
      hcount, hbefore.outSeq]
  refine ⟨hlong, hspeaks, sends_of_mirrors hnext.1 ?_, hnext.2⟩
  rw [hsame, hd.state, hbehind.sent, hbehind.outSeq, ← hbefore.sent,
    ← hbefore.outSeq]
  rfl

end Acts

end IderServer
end IntelAmt
