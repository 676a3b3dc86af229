import IntelAmt.IderServer.Server

/-!
# What firmware hears

A `Saying` is what the engine says once its session is open.  The server makes
one event of each, or none of a keepalive, and hears a run of numbered frames
as it was said.
-/

namespace IntelAmt
namespace IderServer

open Foundation Ider

inductive Saying where
  | pong
  | resetDone
  | status (error : Bool) (sense device asc asq : UInt8)
  | request (device : UInt8) (chunk : Nat)
  | data (device : UInt8) (completed : Bool) (bytes : Bytes) (dma : Bool)
deriving DecidableEq, Repr

namespace Saying

def outbound : Saying -> Outbound
  | pong => bareFrame cmdKeepalivePong []
  | resetDone => bareFrame cmdResetOccurredResponse []
  | status error sense device asc asq =>
      commandEndResponse error sense device asc asq
  | request device chunk => getDataFromHost device chunk
  | data device completed bytes dma => dataToHost device completed bytes dma

/-- The length of a data frame has to fit its field. -/
def Fits : Saying -> Prop
  | data _ _ bytes _ => bytes.length < 2 ^ 16
  | _ => True

/-- The events it becomes: the error form of a status loses the sense triple,
and a requested length travels modulo `2 ^ 16`. -/
def heard : Saying -> List Event
  | pong => []
  | resetDone => [Event.resetOccurredResponse]
  | status error sense device asc asq =>
      [Event.commandEnd
        (if error then { error := true, device := device }
        else
          { error := false
            device := device
            sense := some sense
            asc := some asc
            asq := some asq })]
  | request device chunk =>
      [Event.getDataFromHost { device := device, chunk := chunk % 2 ^ 16 }]
  | data device completed bytes dma =>
      [Event.dataToHost
        { device := device
          data := bytes
          completed := completed
          dma := dma }]

end Saying

namespace IderMockServer

/-- The server behind one more frame. -/
def heed (s : IderMockServer) (events : List Event) : IderMockServer :=
  { s with
    expectedInSeq := s.expectedInSeq + 1
    events := s.events ++ events }

end IderMockServer

section Frames

variable {s : IderMockServer}

theorem take_header (hwaiting : s.waiting = Waiting.header)
    (hseq : s.expectedInSeq < 2 ^ 32) (cmdid : UInt8)
    (completed dma : Bool) :
    s.takeBytes (header cmdid s.expectedInSeq completed dma) =
      s.onHeader cmdid s.expectedInSeq := by
  rcases decodeHeader_header cmdid s.expectedInSeq completed dma with
    ⟨attributes, hdecode⟩
  rw [IderMockServer.takeBytes, hwaiting]
  simp only [IderMockServer.nextFrame, hdecode, Nat.mod_eq_of_lt hseq]

theorem receive_frame (hwaiting : s.waiting = Waiting.header)
    (hseq : s.expectedInSeq < 2 ^ 32) (out : Outbound) :
    reader.receive { state := s } (out.frame s.expectedInSeq) =
      reader.receive { state := s.onHeader out.cmdid s.expectedInSeq }
        out.payload := by
  have hneeds : reader.needs s = 8 := congrArg Waiting.needs hwaiting
  rw [Outbound.frame, reader.receive_two (by lia) (by rw [hneeds]; rfl),
    reader_take, take_header hwaiting hseq]

theorem receive_fixed (hwaiting : s.waiting = Waiting.header)
    (hseq : s.expectedInSeq < 2 ^ 32) (out : Outbound) {length : Nat}
    (hfixed : fixedInboundPayloadLength.lookup out.cmdid =
      some (length + 1))
    (hdata : out.cmdid ≠ 0x54) (hlength : out.payload.length = length + 1) :
    reader.receive { state := s } (out.frame s.expectedInSeq) =
      { state := IderMockServer.onPayload
          { s with
            expectedInSeq := s.expectedInSeq + 1
            waiting := Waiting.payload out.cmdid (length + 1) }
          out.cmdid out.payload } := by
  have hnext : s.onHeader out.cmdid s.expectedInSeq =
      { s with
        expectedInSeq := s.expectedInSeq + 1
        waiting := Waiting.payload out.cmdid (length + 1) } := by
    rw [IderMockServer.onHeader, if_neg (by simp)]
    simp only [if_neg hdata, hfixed]
  rw [receive_frame hwaiting hseq, hnext]
  exact reader.receive_exact (Nat.succ_pos length) hlength

theorem receive_empty (hwaiting : s.waiting = Waiting.header)
    (hseq : s.expectedInSeq < 2 ^ 32) (cmdid : UInt8)
    (hfixed : fixedInboundPayloadLength.lookup cmdid = some 0)
    (hdata : cmdid ≠ 0x54) :
    reader.receive { state := s }
        ((bareFrame cmdid []).frame s.expectedInSeq) =
      { state := IderMockServer.onPayload
          { s with expectedInSeq := s.expectedInSeq + 1 } cmdid [] } := by
  have hnext : s.onHeader cmdid s.expectedInSeq =
      IderMockServer.onPayload
        { s with expectedInSeq := s.expectedInSeq + 1 } cmdid [] := by
    rw [IderMockServer.onHeader, if_neg (by simp)]
    simp only [if_neg hdata, hfixed]
  rw [receive_frame hwaiting hseq]
  exact congrArg (fun s : IderMockServer =>
    (ExactRead.mk s [] : ExactRead UInt8 IderMockServer)) hnext

theorem receive_dataToHost (hwaiting : s.waiting = Waiting.header)
    (hseq : s.expectedInSeq < 2 ^ 32) {data : Bytes}
    (hfits : data.length < 2 ^ 16) (device : UInt8) (completed dma : Bool) :
    reader.receive { state := s }
        ((dataToHost device completed data dma).frame s.expectedInSeq) =
      { state := s.heed (Saying.data device completed data dma).heard } := by
  generalize hout : dataToHost device completed data dma = out
  have hcmdid : out.cmdid = 0x54 := by rw [← hout]; rfl
  have hlength : out.payload.length = 26 + data.length := by
    rw [← hout, dataToHost_length]
  have hdecode : decodeDataToHost out.payload =
      Except.ok
        { device := device
          data := data
          completed := completed
          dma := dma } := by
    rw [← hout, decodeDataToHost_payload hfits]
  have hfront : dataLength (out.payload.take 26) = data.length := by
    have hwhole : dataLength out.payload = data.length := by
      rw [← hout, dataLength_dataToHost hfits]
    rw [← hwhole, dataLength, dataLength, slice_take (by decide)]
  have hnext : s.onHeader out.cmdid s.expectedInSeq =
      { s with
        expectedInSeq := s.expectedInSeq + 1
        waiting := Waiting.dataPrefix } := by
    rw [IderMockServer.onHeader, if_neg (by simp), hcmdid]
    rfl
  have hheard : forall w, IderMockServer.onDataToHost
      { s with expectedInSeq := s.expectedInSeq + 1, waiting := w }
      out.payload = s.heed (Saying.data device completed data dma).heard := by
    intro w
    rw [IderMockServer.onDataToHost, hdecode]
    simp [IderMockServer.putDecoded, IderMockServer.put,
      IderMockServer.heed, Saying.heard, hwaiting]
  rw [receive_frame hwaiting hseq, hnext,
    ← List.take_append_drop 26 out.payload,
    reader.receive_two (s := { s with
      expectedInSeq := s.expectedInSeq + 1
      waiting := Waiting.dataPrefix }) (Nat.succ_pos 25)
      (by rw [List.length_take_of_le (by lia)]; rfl),
    reader_take, IderMockServer.takeBytes]
  simp only [IderMockServer.onDataPrefix, hfront]
  by_cases hempty : data.length = 0
  · have hwhole : out.payload.take 26 = out.payload :=
      List.take_of_length_le (by lia)
    have hrest : out.payload.drop 26 = [] :=
      List.drop_of_length_le (by lia)
    rw [if_pos hempty, hrest, reader.receive_nil, hwhole, hheard]
  · have hneeds : (out.payload.drop 26).length =
        dataLength (out.payload.take 26) := by
      rw [hfront, List.length_drop]
      lia
    rw [if_neg hempty, reader.receive_exact
      (by rw [reader_needs, Waiting.needs, hfront]; lia) hneeds, reader_take,
      IderMockServer.takeBytes]
    simp only [List.take_append_drop, hheard]

theorem receive_saying (hwaiting : s.waiting = Waiting.header)
    (hseq : s.expectedInSeq < 2 ^ 32) (saying : Saying)
    (hfits : saying.Fits) :
    reader.receive { state := s } (saying.outbound.frame s.expectedInSeq) =
      { state := s.heed saying.heard } := by
  cases saying with
  | pong =>
      have h := receive_empty hwaiting hseq cmdKeepalivePong rfl (by decide)
      refine h.trans ?_
      simp [IderMockServer.onPayload, IderMockServer.heed, Saying.heard,
        cmdKeepalivePong, hwaiting]
  | resetDone =>
      have h := receive_empty hwaiting hseq cmdResetOccurredResponse rfl
        (by decide)
      refine h.trans ?_
      simp [IderMockServer.onPayload, IderMockServer.heed, Saying.heard,
        IderMockServer.put, cmdResetOccurredResponse, hwaiting]
  | status error sense device asc asq =>
      have hlength :
          (commandEndResponse error sense device asc asq).payload.length =
            23 := by
        cases error <;> rfl
      have h := receive_fixed hwaiting hseq
        (commandEndResponse error sense device asc asq) rfl
        (show cmdCommandEndResponse ≠ 0x54 by decide) hlength
      refine h.trans ?_
      have hdecode := decodeCommandEndResponse_payload error sense device asc
        asq
      simp [IderMockServer.onPayload, IderMockServer.putDecoded, hdecode,
        IderMockServer.heed, Saying.heard, IderMockServer.put, hwaiting,
        show (commandEndResponse error sense device asc asq).cmdid = 0x51
          from rfl]
  | request device chunk =>
      have h := receive_fixed hwaiting hseq (getDataFromHost device chunk) rfl
        (show cmdGetDataFromHost ≠ 0x54 by decide) rfl
      refine h.trans ?_
      have hdecode := decodeGetDataFromHost_payload device chunk
      simp [IderMockServer.onPayload, IderMockServer.putDecoded, hdecode,
        IderMockServer.heed, Saying.heard, IderMockServer.put, hwaiting,
        show (getDataFromHost device chunk).cmdid = 0x52 from rfl]
  | data device completed bytes dma =>
      exact receive_dataToHost hwaiting hseq hfits device completed dma

end Frames

/-!
## Runs of frames
-/

/-- The server behind a run of sayings. -/
def IderMockServer.heedAll (s : IderMockServer) (sayings : List Saying) :
    IderMockServer :=
  { s with
    expectedInSeq := s.expectedInSeq + sayings.length
    events := s.events ++ sayings.flatMap Saying.heard }

theorem IderMockServer.heedAll_cons (s : IderMockServer) (saying : Saying)
    (sayings : List Saying) :
    s.heedAll (saying :: sayings) = (s.heed saying.heard).heedAll sayings := by
  simp only [heedAll, heed, List.length_cons, List.flatMap_cons,
    List.append_assoc]
  congr 1
  lia

/-- Successive frames are heard as they were said, as long as their numbers
have not run out. -/
theorem receive_sayings (sayings : List Saying) {s : IderMockServer}
    (hwaiting : s.waiting = Waiting.header)
    (hseq : s.expectedInSeq + sayings.length ≤ 2 ^ 32)
    (hfits : forall saying, saying ∈ sayings -> saying.Fits) :
    reader.receive { state := s }
        (numbered s.expectedInSeq (sayings.map Saying.outbound)).flatten =
      { state := s.heedAll sayings } := by
  induction sayings generalizing s with
  | nil => simp [numbered, IderMockServer.heedAll]
  | cons saying sayings ih =>
      rw [List.length_cons] at hseq
      have hfirst := receive_saying hwaiting (by lia) saying
        (hfits saying List.mem_cons_self)
      rw [List.map_cons, numbered, List.flatten_cons,
        ExactReader.receive_append, hfirst, IderMockServer.heedAll_cons]
      cases sayings with
      | nil => simp [numbered, IderMockServer.heedAll]
      | cons second sayings =>
          rw [List.length_cons] at hseq
          have hnext : (s.expectedInSeq + 1) % 2 ^ 32 =
              (s.heed saying.heard).expectedInSeq :=
            Nat.mod_eq_of_lt (by lia)
          rw [hnext]
          apply ih (s := s.heed saying.heard) hwaiting
          · rw [List.length_cons]
            show s.expectedInSeq + 1 + (sayings.length + 1) ≤ 2 ^ 32
            lia
          · exact fun x hx => hfits x (List.mem_cons_of_mem _ hx)

end IderServer
end IntelAmt
