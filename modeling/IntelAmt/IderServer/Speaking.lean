import IntelAmt.Foundation.Parcels
import IntelAmt.IderServer.Server

/-!
# What firmware says

Everything that the server sends is a whole message for the engine.  The
messages are numbered from 0 on, the first one is the reply that opens the
session, and none of the others is.
-/

namespace IntelAmt
namespace IderServer

open Foundation Ider

/-!
## Whole messages
-/

theorem messageSeq_inbound {k : Nat} (h : k < 2 ^ 32) (cmdid : UInt8)
    (payload : Bytes) : messageSeq (inboundHeader cmdid k ++ payload) = k := by
  have hslice : slice (inboundHeader cmdid k ++ payload) 4 4 = packLE 4 k :=
    rfl
  rw [messageSeq, hslice, leNat_packLE_of_lt h]

theorem whole_fixed {cmdid : UInt8} {payload : Bytes}
    (h : fixedLengthCommands.lookup cmdid = some (8 + payload.length))
    (k : Nat) : Whole (inboundHeader cmdid k ++ payload) := by
  have hlength : (inboundHeader cmdid k ++ payload).length =
      8 + payload.length := by
    simp [inboundHeader]
    lia
  rw [Whole, hlength]
  exact messageLength_fixed h

theorem whole_reply {payload : Bytes} (hlength : payload.length = 22)
    (htrailing : payload.getD 21 0 = 0) (k : Nat) :
    Whole (inboundHeader cmdOpenSessionReply k ++ payload) := by
  have hall : (inboundHeader cmdOpenSessionReply k ++ payload).length =
      30 := by
    simp [inboundHeader, hlength]
  have hbyte : (inboundHeader cmdOpenSessionReply k ++ payload).getD 29 0 =
      payload.getD 21 0 := rfl
  rw [Whole, messageLength_openSessionReply rfl, hall, if_neg (by decide),
    hbyte, htrailing]
  rfl

theorem whole_data {chunk : Bytes} (h : chunk.length < 256 ^ 2) (k : Nat) :
    Whole (dataMessage k chunk) := by
  have hlength : (dataMessage k chunk).length = 14 + chunk.length := by
    simp [dataMessage, inboundHeader]
    lia
  have hslice : slice (dataMessage k chunk) 9 2 = packLE 2 chunk.length := rfl
  rw [Whole, messageLength_dataFromHost rfl, hlength, if_neg (by lia), hslice,
    leNat_packLE_of_lt h]

theorem framer_whole {message : Bytes} (h : Whole message) :
    iderFramer.Whole message := by
  intro more
  have hpos : 0 < message.length := by
    have := h.length_ge
    lia
  have hlength : messageLength (message ++ more) =
      Except.ok (some message.length) := by
    rw [messageLength_append hpos (by rw [h]; simp)]
    exact h
  have hnext := nextMessage_of_length hlength (by simp)
  show nextMessage (message ++ more) = _
  simpa using hnext

/-!
## The frames of a session
-/

/-- The reply that opens the session. -/
def opening (config : ServerConfig) : OpenSessionInfo where
  major := 1
  minor := 0
  fwMajor := 10
  fwMinor := 0
  readbfr := config.readbfr
  writebfr := config.writebfr
  proto := config.proto
  iana := 0

/-- The frame that is sent under the number `k`. -/
structure Framed (config : ServerConfig) (k : Nat) (frame : Bytes) :
    Prop where
  numbered : k < 2 ^ 32
  seq : messageSeq frame = k
  whole : Whole frame
  first : k = 0 -> messageCmdid frame = cmdOpenSessionReply ∧
    announced frame = opening config
  later : k ≠ 0 ->
    messageCmdid frame ≠ cmdOpenSessionReply ∧
      (messageCmdid frame = cmdStatusData -> frame.getD 8 0 = 3)

/-- The frames up to the first whose number is not the next one. -/
def inOrder : Nat -> List Bytes -> List Bytes
  | _, [] => []
  | n, frame :: frames =>
      if messageSeq frame = n then frame :: inOrder (n + 1) frames else []

section InOrder

variable {n : Nat} {frames more : List Bytes} {frame : Bytes}

theorem inOrder_begins (n : Nat) (frames : List Bytes) :
    inOrder n frames <+: frames := by
  induction frames generalizing n with
  | nil => exact List.prefix_rfl
  | cons frame frames ih =>
      rw [inOrder]
      split
      · exact List.cons_prefix_cons.mpr ⟨rfl, ih (n + 1)⟩
      · exact List.nil_prefix

theorem inOrder_append (h : inOrder n frames = frames) (more : List Bytes) :
    inOrder n (frames ++ more) =
      frames ++ inOrder (n + frames.length) more := by
  induction frames generalizing n with
  | nil => rfl
  | cons frame frames ih =>
      rw [inOrder] at h
      split at h
      · rename_i hseq
        rw [List.cons_append, inOrder, if_pos hseq,
          ih (List.cons.inj h).2, List.length_cons, Nat.add_right_comm,
          Nat.add_assoc, List.cons_append]
      · cases h

/-- What comes behind a frame that skips ahead changes nothing. -/
theorem inOrder_stays (h : inOrder n frames ≠ frames) (more : List Bytes) :
    inOrder n (frames ++ more) = inOrder n frames := by
  induction frames generalizing n with
  | nil => exact absurd rfl h
  | cons frame frames ih =>
      rw [inOrder] at h
      rw [List.cons_append, inOrder, inOrder]
      split at h
      · rename_i hseq
        rw [if_pos hseq, if_pos hseq, ih fun hsame => h (by rw [hsame])]
      · rename_i hseq
        rw [if_neg hseq, if_neg hseq]

theorem inOrder_next (h : frames = inOrder n frames ++ frame :: more) :
    messageSeq frame ≠ n + (inOrder n frames).length := by
  induction frames generalizing n with
  | nil => cases h
  | cons first frames ih =>
      rw [inOrder] at h ⊢
      split at h
      · rename_i hseq
        rw [List.cons_append] at h
        have hnext := ih (List.cons.inj h).2
        rw [if_pos hseq, List.length_cons]
        lia
      · rename_i hseq
        cases h
        rw [if_neg hseq]
        exact hseq

theorem inOrder_mono (h : frames <+: more) :
    inOrder n frames <+: inOrder n more := by
  rcases h with ⟨rest, rfl⟩
  by_cases hall : inOrder n frames = frames
  · rw [inOrder_append hall, hall]
    exact List.prefix_append _ _
  · rw [inOrder_stays hall]

end InOrder

/-- What a server has sent, so many of the frames under numbers that skip
ahead, and that it has sent something unless it still waits for the client to
open the session. -/
structure Speaks (config : ServerConfig) (astray : Nat) (s : IderMockServer) :
    Prop where
  configured : s.config = config
  next : s.sent.length = s.outSeq + astray
  frames : forall k frame, (inOrder 0 s.sent)[k]? = some frame ->
    Framed config k frame
  ordered : inOrder 0 s.sent = s.sent ↔ astray = 0
  strayed : forall frame rest, s.sent = inOrder 0 s.sent ++ frame :: rest ->
    8 ≤ frame.length ∧ (inOrder 0 s.sent).length < 2 ^ 32
  silent : s.waiting = Waiting.openSession ∨
    s.waiting = Waiting.openSessionPayload -> s.sent = []
  opened : s.sent = [] -> s.waiting = Waiting.openSession ∨
    s.waiting = Waiting.openSessionPayload ∨ s.waiting = Waiting.ended

theorem fresh_speaks (config : ServerConfig) :
    Speaks config 0 { config := config } where
  configured := rfl
  next := rfl
  frames := by
    intro k frame h
    simp [inOrder] at h
  ordered := ⟨fun _ => rfl, fun _ => rfl⟩
  strayed := by
    intro frame rest h
    cases h
  silent := fun _ => rfl
  opened := fun _ => Or.inl rfl

namespace Speaks

variable {config : ServerConfig} {astray : Nat} {s s' : IderMockServer}

theorem quiet (h : Speaks config astray s) (hconfig : s'.config = s.config)
    (hout : s'.outSeq = s.outSeq) (hsent : s'.sent = s.sent)
    (hsilent : s'.waiting = Waiting.openSession ∨
      s'.waiting = Waiting.openSessionPayload -> s.sent = [])
    (hopened : s.sent = [] -> s'.waiting = Waiting.openSession ∨
      s'.waiting = Waiting.openSessionPayload ∨ s'.waiting = Waiting.ended) :
    Speaks config astray s' where
  configured := hconfig.trans h.configured
  next := by rw [hout, hsent, h.next]
  frames := by
    rw [hsent]
    exact h.frames
  ordered := by
    rw [hsent]
    exact h.ordered
  strayed := by
    rw [hsent]
    exact h.strayed
  silent := by
    rw [hsent]
    exact hsilent
  opened := by
    rw [hsent]
    exact hopened

theorem finish (h : Speaks config astray s) : Speaks config astray s.finish :=
  h.quiet rfl rfl rfl (fun hw => by rcases hw with hw | hw <;> cases hw)
    fun _ => Or.inr (Or.inr rfl)

theorem put (h : Speaks config astray s) (event : Event) :
    Speaks config astray (s.put event) :=
  h.quiet rfl rfl rfl h.silent h.opened

theorem await (h : Speaks config astray s) (hsent : s.sent ≠ [])
    {waiting : Waiting} (hwaiting : waiting ≠ Waiting.openSession)
    (hpayload : waiting ≠ Waiting.openSessionPayload) :
    Speaks config astray { s with waiting := waiting } := by
  refine h.quiet rfl rfl rfl ?_ fun hnone => absurd hnone hsent
  intro hw
  rcases hw with hw | hw
  · exact absurd hw hwaiting
  · exact absurd hw hpayload

theorem waits (h : Speaks config astray s) (hopen : s.sent ≠ []) :
    s.waiting ≠ Waiting.openSession ∧
      s.waiting ≠ Waiting.openSessionPayload :=
  ⟨fun hw => hopen (h.silent (Or.inl hw)),
    fun hw => hopen (h.silent (Or.inr hw))⟩

theorem inNumber (h : Speaks config 0 s) {frame : Bytes}
    (hframed : Framed config s.outSeq frame) {waiting : Waiting}
    (hwaiting : waiting ≠ Waiting.openSession ∧
      waiting ≠ Waiting.openSessionPayload) :
    Speaks config 0
      { s with
        sent := s.sent ++ [frame]
        outSeq := s.outSeq + 1
        waiting := waiting } := by
  have hall := h.ordered.mpr rfl
  have hlength : s.sent.length = s.outSeq := h.next
  have hmore : inOrder 0 (s.sent ++ [frame]) = s.sent ++ [frame] := by
    rw [inOrder_append hall, Nat.zero_add, hlength, inOrder,
      if_pos hframed.seq, inOrder]
  refine ⟨h.configured, by simp [hlength], ?_, ?_, ?_, ?_, ?_⟩
  · intro k frame' hk
    simp only [hmore] at hk
    rcases Nat.lt_trichotomy k s.sent.length with hless | heq | hbeyond
    · rw [List.getElem?_append_left hless] at hk
      apply h.frames k frame'
      rw [hall]
      exact hk
    · subst heq
      rw [List.getElem?_concat_length] at hk
      cases hk
      rw [hlength]
      exact hframed
    · rw [List.getElem?_eq_none (by simp; lia)] at hk
      cases hk
  · simp only [hmore]
  · simp only [hmore]
    intro first rest hrest
    have hnone := congrArg List.length hrest
    simp at hnone
  · intro hw
    rcases hw with hw | hw
    · exact absurd hw hwaiting.1
    · exact absurd hw hwaiting.2
  · intro hnone
    simp at hnone

theorem notInNumber (h : Speaks config astray s) {frame : Bytes}
    (hstays : inOrder 0 (s.sent ++ [frame]) = inOrder 0 s.sent)
    (hstrayed : forall first rest,
      s.sent ++ [frame] = inOrder 0 s.sent ++ first :: rest ->
        8 ≤ first.length ∧ (inOrder 0 s.sent).length < 2 ^ 32)
    {outSeq more : Nat} (hnext : s.sent.length = outSeq + more)
    {waiting : Waiting}
    (hwaiting : waiting ≠ Waiting.openSession ∧
      waiting ≠ Waiting.openSessionPayload) :
    Speaks config (more + 1)
      { s with
        sent := s.sent ++ [frame]
        outSeq := outSeq
        waiting := waiting } := by
  refine ⟨h.configured, ?_, ?_, ?_, ?_, ?_, ?_⟩
  · simp [hnext, Nat.add_assoc]
  · simp only [hstays]
    exact h.frames
  · simp only [hstays]
    refine ⟨?_, fun hzero => absurd hzero (Nat.succ_ne_zero _)⟩
    intro hall
    have hle := (inOrder_begins 0 s.sent).length_le
    rw [hall, List.length_append, List.length_singleton] at hle
    lia
  · simp only [hstays]
    exact hstrayed
  · intro hw
    rcases hw with hw | hw
    · exact absurd hw hwaiting.1
    · exact absurd hw hwaiting.2
  · intro hnone
    simp at hnone

theorem behind (h : Speaks config (astray + 1) s) {frame : Bytes}
    {outSeq more : Nat} (hnext : s.sent.length = outSeq + more)
    {waiting : Waiting}
    (hwaiting : waiting ≠ Waiting.openSession ∧
      waiting ≠ Waiting.openSessionPayload) :
    Speaks config (more + 1)
      { s with
        sent := s.sent ++ [frame]
        outSeq := outSeq
        waiting := waiting } := by
  have hne : inOrder 0 s.sent ≠ s.sent :=
    fun hall => absurd (h.ordered.mp hall) (Nat.succ_ne_zero astray)
  refine h.notInNumber (inOrder_stays hne [frame]) ?_ hnext hwaiting
  intro first rest hrest
  rcases inOrder_begins 0 s.sent with ⟨left, hleft⟩
  cases left with
  | nil =>
      rw [List.append_nil] at hleft
      exact absurd hleft hne
  | cons other left =>
      have hother := h.strayed other left hleft.symm
      have hboth : inOrder 0 s.sent ++ (other :: left ++ [frame]) =
          inOrder 0 s.sent ++ first :: rest := by
        rw [← hrest, ← List.append_assoc, hleft]
      cases List.append_cancel_left hboth
      exact hother

theorem send (h : Speaks config astray s) (hopen : s.sent ≠ [])
    {cmdid : UInt8} {payload : Bytes}
    (hsend : s.sendFrame cmdid payload = some s')
    (hwhole : Whole (inboundHeader cmdid s.outSeq ++ payload))
    (hcmdid : cmdid ≠ cmdOpenSessionReply)
    (hstatus : cmdid = cmdStatusData ->
      (inboundHeader cmdid s.outSeq ++ payload).getD 8 0 = 3) :
    Speaks config astray s' ∧ s'.sent ≠ [] ∧ s'.waiting = s.waiting := by
  rw [IderMockServer.sendFrame, Option.map_eq_some_iff] at hsend
  rcases hsend with ⟨header, hheader, rfl⟩
  rcases encodeHeader_eq_some hheader with ⟨hlt, rfl⟩
  refine ⟨?_, by simp, rfl⟩
  cases astray with
  | zero =>
      have hpos : s.outSeq ≠ 0 := by
        have hlength : s.sent.length = s.outSeq := h.next
        rw [← hlength]
        exact fun hzero => hopen (List.length_eq_zero_iff.mp hzero)
      exact h.inNumber
        { numbered := hlt
          seq := messageSeq_inbound hlt cmdid payload
          whole := hwhole
          first := fun hzero => absurd hzero hpos
          later := fun _ => ⟨hcmdid, hstatus⟩ } (h.waits hopen)
  | succ astray =>
      exact h.behind (by rw [h.next]; lia) (h.waits hopen)

/-- A frame that skips ahead. -/
theorem sendAhead (h : Speaks config astray s) (hopen : s.sent ≠ [])
    (cmdid : UInt8) (payload : Bytes)
    (hroom : s.outSeq + 999 < 2 ^ 32) :
    Speaks config (astray + 1)
      { s with
        sent := s.sent ++
          [inboundHeader cmdid (s.outSeq + 999) ++ payload] } := by
  cases astray with
  | zero =>
      have hall := h.ordered.mpr rfl
      have hlength : s.sent.length = s.outSeq := h.next
      have hseq : messageSeq
          (inboundHeader cmdid (s.outSeq + 999) ++ payload) ≠
            0 + s.sent.length := by
        rw [messageSeq_inbound hroom, hlength]
        lia
      refine h.notInNumber ?_ ?_ h.next (h.waits hopen)
      · rw [inOrder_append hall, inOrder, if_neg hseq, List.append_nil, hall]
      · rw [hall]
        intro first rest hrest
        cases List.append_cancel_left hrest
        refine ⟨?_, by lia⟩
        simp [inboundHeader]
  | succ astray => exact h.behind h.next (h.waits hopen)

theorem noise (h : Speaks config astray s) :
    exists noise, s.sent.flatten = (inOrder 0 s.sent).flatten ++ noise ∧
      (noise ≠ [] -> inOrder 0 s.sent ≠ s.sent ∧ 8 ≤ noise.length ∧
        messageSeq noise ≠ (inOrder 0 s.sent).length % 2 ^ 32) := by
  rcases inOrder_begins 0 s.sent with ⟨rest, hrest⟩
  refine ⟨rest.flatten, ?_, ?_⟩
  · rw [← List.flatten_append, hrest]
  intro hnoise
  cases rest with
  | nil => exact absurd rfl hnoise
  | cons frame rest =>
      rcases h.strayed frame rest hrest.symm with ⟨hlong, hroom⟩
      have hother := inOrder_next hrest.symm
      refine ⟨?_, ?_, ?_⟩
      · intro hall
        have hlength := congrArg List.length hrest
        rw [hall, List.length_append, List.length_cons] at hlength
        lia
      · rw [List.flatten_cons, List.length_append]
        lia
      · rw [messageSeq, List.flatten_cons, slice_append_left (by lia),
          Nat.mod_eq_of_lt hroom]
        rw [Nat.zero_add] at hother
        exact hother

end Speaks

/-!
## The session thread keeps to it
-/

section Thread

variable {config : ServerConfig} {astray : Nat} {s : IderMockServer}

theorem speaks_sendThen (h : Speaks config astray s) (hopen : s.sent ≠ [])
    {cmdid : UInt8} {payload : Option Bytes}
    (hwhole : forall bytes, payload = some bytes ->
      Whole (inboundHeader cmdid s.outSeq ++ bytes))
    (hcmdid : cmdid ≠ cmdOpenSessionReply)
    (hstatus : cmdid = cmdStatusData -> forall bytes, payload = some bytes ->
      (inboundHeader cmdid s.outSeq ++ bytes).getD 8 0 = 3) :
    Speaks config astray (s.sendThen cmdid payload Waiting.header) := by
  rw [IderMockServer.sendThen]
  cases hsend : payload.bind (s.sendFrame cmdid) with
  | none => exact h.finish
  | some s' =>
      rcases Option.bind_eq_some_iff.mp hsend with ⟨bytes, hbytes, hframe⟩
      rcases h.send hopen hframe (hwhole bytes hbytes) hcmdid
        (fun hc => hstatus hc bytes hbytes) with ⟨hspeaks, hsent, _⟩
      exact hspeaks.await hsent (by simp) (by simp)

theorem speaks_putDecoded {alpha : Type} (h : Speaks config astray s)
    (hopen : s.sent ≠ []) (decoded : Except DecodeError alpha)
    (event : alpha -> Event) :
    Speaks config astray (s.putDecoded decoded event) := by
  cases decoded with
  | error _ => exact h.finish
  | ok a => exact (h.put (event a)).await hopen (by simp) (by simp)

theorem speaks_onPayload (h : Speaks config astray s) (hopen : s.sent ≠ [])
    (cmdid : UInt8) (payload : Bytes) :
    Speaks config astray (s.onPayload cmdid payload) := by
  rw [IderMockServer.onPayload]
  split
  · exact h.finish
  split
  · apply speaks_sendThen h hopen
    · intro bytes hbytes
      cases hbytes
      exact whole_fixed rfl _
    · decide
    · intro hstatus
      exact absurd hstatus (by decide)
  split
  · exact h.await hopen (by simp) (by simp)
  split
  · exact (h.put _).await hopen (by simp) (by simp)
  split
  · exact speaks_putDecoded h hopen _ _
  split
  · exact speaks_putDecoded h hopen _ _
  · exact (h.put _).await hopen (by simp) (by simp)

theorem speaks_onHeader (h : Speaks config astray s) (hopen : s.sent ≠ [])
    (cmdid : UInt8) (seq : Nat) :
    Speaks config astray (s.onHeader cmdid seq) := by
  have hcounted : Speaks config astray
      { s with expectedInSeq := s.expectedInSeq + 1 } :=
    h.quiet rfl rfl rfl h.silent h.opened
  rw [IderMockServer.onHeader]
  split
  · exact (h.put _).finish
  dsimp only
  split
  · exact hcounted.await hopen (by simp) (by simp)
  split
  · exact (hcounted.put _).finish
  · exact speaks_onPayload hcounted hopen cmdid []
  · exact hcounted.await hopen (by simp) (by simp)

theorem speaks_reply (h : Speaks config astray s)
    (hwaiting : s.waiting = Waiting.openSessionPayload) :
    Speaks config astray s.replyOpenSession := by
  have hcounted : Speaks config astray { s with expectedInSeq := 1 } :=
    h.quiet rfl rfl rfl h.silent h.opened
  have hnone : s.sent = [] := h.silent (Or.inr hwaiting)
  have hinOrder : astray = 0 := h.ordered.mp (by rw [hnone]; rfl)
  subst hinOrder
  have hzero : s.outSeq = 0 := by
    have hlength := h.next
    rw [hnone] at hlength
    exact hlength.symm
  rw [IderMockServer.replyOpenSession, IderMockServer.sendThen]
  cases hsend : (encodeOpenSessionReply s.config.readbfr s.config.writebfr
      s.config.proto).bind (IderMockServer.sendFrame
        { s with expectedInSeq := 1 } 0x41) with
  | none => exact hcounted.finish
  | some s' =>
      rcases Option.bind_eq_some_iff.mp hsend with ⟨bytes, hbytes, hframe⟩
      rw [IderMockServer.sendFrame, Option.map_eq_some_iff] at hframe
      rcases hframe with ⟨header, hheader, rfl⟩
      rcases encodeHeader_eq_some hheader with ⟨hlt, rfl⟩
      simp only [encodeOpenSessionReply, Option.bind_eq_bind,
        Option.bind_eq_some_iff] at hbytes
      rcases hbytes with ⟨_, hread, _, hwrite, _, hproto, hbytes⟩
      rcases toBytes_eq_some hread with ⟨hreadlt, rfl⟩
      rcases toBytes_eq_some hwrite with ⟨hwritelt, rfl⟩
      rcases toBytes_eq_some hproto with ⟨hprotolt, rfl⟩
      cases hbytes
      refine hcounted.inNumber ⟨hlt, ?_, ?_, ?_, fun hne => absurd hzero hne⟩
        ⟨by simp, by simp⟩
      · rw [messageSeq_inbound hlt]
      · exact whole_reply (by simp) (by simp [packLE]) _
      · intro _
        refine ⟨rfl, ?_⟩
        have hproto : (UInt8.ofNat (s.config.proto % 256)).toNat =
            s.config.proto := by
          have hpacked := leNat_packLE_of_lt hprotolt
          simpa [packLE, leNat] using hpacked
        have hreply : announced (inboundHeader 0x41 s.outSeq ++
            (([1, 0, 10, 0, 0, 0, 0, 0] : Bytes) ++
              packLE 2 s.config.readbfr ++ packLE 2 s.config.writebfr ++
              [0] ++ packLE 1 s.config.proto ++ [0, 0, 0] ++
              [0, 0, 0, 0] ++ [0])) =
            { opening s.config with
              readbfr := leNat (packLE 2 s.config.readbfr)
              writebfr := leNat (packLE 2 s.config.writebfr)
              proto := (UInt8.ofNat (s.config.proto % 256)).toNat } := rfl
        rw [← h.configured]
        refine hreply.trans ?_
        rw [leNat_packLE_of_lt hreadlt, leNat_packLE_of_lt hwritelt, hproto]
        rfl

theorem speaks_expectHeader (h : Speaks config astray s) {data : Bytes}
    {cmdid : UInt8} {seq : Nat}
    {violation : UInt8 -> Nat -> ProtocolViolation} {waiting : Waiting}
    (hwaiting : Speaks config astray { s with waiting := waiting }) :
    Speaks config astray
      (s.expectHeader data cmdid seq violation waiting) := by
  rw [IderMockServer.expectHeader]
  rcases decodeHeader data with _ | ⟨got, attributes, gotSeq⟩
  · exact h.finish
  · dsimp only
    split
    · have hfailed : Speaks config astray
          { s with handshakeError := some (violation got gotSeq) } :=
        h.quiet rfl rfl rfl h.silent h.opened
      exact hfailed.finish
    · exact hwaiting

theorem speaks_answerFeatures (h : Speaks config astray s)
    (hopen : s.sent ≠ []) :
    Speaks config astray s.answerFeatures := by
  have hcounted : Speaks config astray { s with expectedInSeq := 2 } :=
    h.quiet rfl rfl rfl h.silent h.opened
  rw [IderMockServer.answerFeatures]
  split
  · exact hcounted.await hopen (by simp) (by simp)
  · apply speaks_sendThen hcounted hopen
    · intro bytes hbytes
      rcases Option.map_eq_some_iff.mp hbytes with ⟨packed, hpacked, rfl⟩
      rcases toBytes_eq_some hpacked with ⟨_, rfl⟩
      exact whole_fixed (by rw [List.length_cons, packLE_length]; rfl) _
    · decide
    · intro _ bytes hbytes
      rcases Option.map_eq_some_iff.mp hbytes with ⟨packed, _, rfl⟩
      rfl

theorem takeBytes_speaks (data : Bytes) (h : Speaks config astray s) :
    Speaks config astray (s.takeBytes data) := by
  have hopen : s.waiting ≠ Waiting.openSession ->
      s.waiting ≠ Waiting.openSessionPayload ->
      s.waiting ≠ Waiting.ended -> s.sent ≠ [] := by
    intro hfirst hsecond hover hnone
    rcases h.opened hnone with hw | hw | hw
    · exact hfirst hw
    · exact hsecond hw
    · exact hover hw
  rw [IderMockServer.takeBytes]
  cases hw : s.waiting with
  | openSession =>
      have hnone := h.silent (Or.inl hw)
      exact speaks_expectHeader h (h.quiet rfl rfl rfl (fun _ => hnone)
        fun _ => Or.inr (Or.inl rfl))
  | openSessionPayload => exact speaks_reply h hw
  | features =>
      have hsent := hopen (by simp [hw]) (by simp [hw]) (by simp [hw])
      exact speaks_expectHeader h (h.await hsent (by simp) (by simp))
  | featuresPayload =>
      exact speaks_answerFeatures h
        (hopen (by simp [hw]) (by simp [hw]) (by simp [hw]))
  | header =>
      have hsent := hopen (by simp [hw]) (by simp [hw]) (by simp [hw])
      dsimp only
      rw [IderMockServer.nextFrame]
      rcases decodeHeader data with _ | ⟨cmdid, attributes, seq⟩
      · exact h.finish
      · exact speaks_onHeader h hsent cmdid seq
  | dataPrefix =>
      have hsent := hopen (by simp [hw]) (by simp [hw]) (by simp [hw])
      dsimp only
      rw [IderMockServer.onDataPrefix]
      split
      · exact speaks_putDecoded h hsent _ _
      · exact h.await hsent (by simp) (by simp)
  | data front =>
      exact speaks_putDecoded h
        (hopen (by simp [hw]) (by simp [hw]) (by simp [hw])) _ _
  | payload cmdid length =>
      exact speaks_onPayload h
        (hopen (by simp [hw]) (by simp [hw]) (by simp [hw])) cmdid data
  | ended => exact h

end Thread

/-!
## So does the driving interface
-/

section Drives

variable {config : ServerConfig} {astray : Nat} {s : IderMockServer}

/-- The server speaks, and its session is open. -/
structure Serving (config : ServerConfig) (astray : Nat)
    (s : IderMockServer) : Prop where
  speaks : Speaks config astray s
  serving : s.waiting.serving = true

theorem Serving.opened (h : Serving config astray s) : s.sent ≠ [] := by
  intro hnone
  have hserving := h.serving
  rcases h.speaks.opened hnone with hw | hw | hw <;>
    rw [hw] at hserving <;> cases hserving

theorem Serving.trySend (h : Serving config astray s) {cmdid : UInt8}
    {payload : Option Bytes}
    (hwhole : forall bytes, payload = some bytes ->
      Whole (inboundHeader cmdid s.outSeq ++ bytes))
    (hcmdid : cmdid ≠ cmdOpenSessionReply) (hstatus : cmdid ≠ cmdStatusData) :
    Serving config astray (s.trySend cmdid payload) := by
  rw [IderMockServer.trySend]
  cases hsend : payload.bind (s.sendFrame cmdid) with
  | none => exact h
  | some s' =>
      rcases Option.bind_eq_some_iff.mp hsend with ⟨bytes, hbytes, hframe⟩
      rcases h.speaks.send h.opened hframe (hwhole bytes hbytes) hcmdid
        (fun hc => absurd hc hstatus) with ⟨hspeaks, _, hwaiting⟩
      exact ⟨hspeaks, by rw [Option.getD_some, hwaiting]; exact h.serving⟩

theorem dataFromHost_whole {chunk bytes : Bytes}
    (h : encodeDataFromHost chunk = some bytes) (k : Nat) :
    Whole (inboundHeader 0x53 k ++ bytes) := by
  rcases Option.map_eq_some_iff.mp h with ⟨packed, hpacked, rfl⟩
  rcases toBytes_eq_some hpacked with ⟨hlt, rfl⟩
  have hwhole := whole_data hlt k
  rw [dataMessage] at hwhole
  simpa [cmdDataFromHost, List.append_assoc] using hwhole

theorem Serving.sendChunks (chunks : List Bytes)
    (h : Serving config astray s) :
    Serving config astray (s.sendChunks chunks) := by
  induction chunks generalizing s with
  | nil => exact h
  | cons chunk chunks ih =>
      have hone := @Serving.trySend config astray s h 0x53
        (encodeDataFromHost chunk)
        (fun bytes hbytes => dataFromHost_whole hbytes _) (by decide)
        (by decide)
      rw [IderMockServer.trySend] at hone
      rw [IderMockServer.sendChunks]
      cases hsend : (encodeDataFromHost chunk).bind (s.sendFrame 0x53) with
      | none => exact h
      | some s' =>
          rw [hsend] at hone
          exact ih hone

/-- The calls that send under the next number. -/
def Drive.KeepsOrder : Drive -> Prop
  | Drive.sendBadSequenceFrame _ _ => False
  | _ => True

theorem Serving.drive (h : Serving config astray s) {a : Drive}
    (hkeeps : a.KeepsOrder) : Serving config astray (s.drive a) := by
  cases a with
  | issueScsi cdb device featureRegister =>
      apply h.trySend _ (by decide) (by decide)
      intro bytes hbytes
      simp only [encodeCommandWritten] at hbytes
      split at hbytes
      · cases hbytes
      · cases hbytes
        exact whole_fixed (by simp_all; rfl) _
  | sendDataFromHost data frameSize =>
      rw [IderMockServer.drive]
      split
      · exact h
      split
      · exact h.trySend (fun bytes hbytes => dataFromHost_whole hbytes _)
          (by decide) (by decide)
      · exact h.sendChunks _
  | injectResetOccurred resetMask =>
      apply h.trySend _ (by decide) (by decide)
      intro bytes hbytes
      cases hbytes
      exact whole_fixed rfl _
  | injectErrorOccurred code =>
      apply h.trySend _ (by decide) (by decide)
      intro bytes hbytes
      cases hbytes
      exact whole_fixed rfl _
  | injectClose =>
      apply h.trySend _ (by decide) (by decide)
      intro bytes hbytes
      cases hbytes
      exact whole_fixed rfl _
  | sendBadSequenceFrame cmdid payload => exact hkeeps.elim

/-- The call that skips ahead sends nothing where there is no such number. -/
theorem trySendAhead_cases (s : IderMockServer) (cmdid : UInt8)
    (payload : Bytes) :
    s.trySendAhead cmdid payload = s ∨
      s.outSeq + 999 < 2 ^ 32 ∧ s.trySendAhead cmdid payload =
        { s with
          sent := s.sent ++
            [inboundHeader cmdid (s.outSeq + 999) ++ payload] } := by
  rw [IderMockServer.trySendAhead]
  generalize s.outSeq + 999 = number
  cases hheader : encodeHeader cmdid number false false with
  | none => exact Or.inl rfl
  | some header =>
      rcases encodeHeader_eq_some hheader with ⟨hroom, rfl⟩
      exact Or.inr ⟨hroom, rfl⟩

theorem driven_keeps (a : Drive) {r : ExactRead UInt8 IderMockServer}
    (hkeeps : a.KeepsOrder) (h : Speaks config astray r.state) :
    Speaks config astray (driven a r).state := by
  rw [driven]
  split
  · rename_i hserving
    exact (Serving.drive ⟨h, hserving⟩ hkeeps).speaks
  · exact h

theorem driven_speaks (a : Drive) {r : ExactRead UInt8 IderMockServer}
    (h : Speaks config astray r.state) :
    exists astray', Speaks config astray' (driven a r).state := by
  cases a with
  | sendBadSequenceFrame cmdid payload =>
      rw [driven]
      split
      · rename_i hserving
        have hopened := Serving.opened ⟨h, hserving⟩
        rcases trySendAhead_cases r.state cmdid payload with
          hnothing | ⟨hroom, hsent⟩
        · rw [IderMockServer.drive, hnothing]
          exact ⟨astray, h⟩
        · rw [IderMockServer.drive, hsent]
          exact ⟨astray + 1, h.sendAhead hopened cmdid payload hroom⟩
      · exact ⟨astray, h⟩
  | _ => exact ⟨astray, driven_keeps _ trivial h⟩

end Drives

end IderServer
end IntelAmt
