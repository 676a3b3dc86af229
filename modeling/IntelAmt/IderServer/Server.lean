import IntelAmt.Foundation.ExactReads
import IntelAmt.IderServer.Frames

/-!
# The server that plays firmware

What its session thread does from the moment the redirection handshake has
authenticated the client: it opens the IDE-R session, then reads one frame
after another, and what it makes of each goes on the event queue.  Its driving
interface writes frames of its own.  A thread that raises ends, and so does the
session.
-/

namespace IntelAmt
namespace IderServer

open Foundation Ider

/-- The lengths of the payloads that do not tell their own. -/
def fixedInboundPayloadLength : List (UInt8 × Nat) :=
  [(0x43, 0), (0x44, 0), (0x45, 0), (0x46, 1), (0x47, 0), (0x4A, 3),
   (0x51, 23), (0x52, 23)]

inductive ProtocolViolation where
  | expectedOpenSession (cmdid : UInt8) (seq : Nat)
  | expectedFeatures (expected : Nat) (cmdid : UInt8) (seq : Nat)
  | outOfSequence (expected seq : Nat)
deriving DecidableEq, Repr

inductive Event where
  | commandEnd (response : CommandEndResponse)
  | dataToHost (frame : DataToHostFrame)
  | getDataFromHost (request : GetDataFromHostRequest)
  | resetOccurredResponse
  | unknownFrame (cmdid : UInt8) (payload : Bytes)
  | violation (violation : ProtocolViolation)
deriving DecidableEq, Repr

/-- The read that the session thread is blocked in; the first four belong to
the handshake. -/
inductive Waiting where
  | openSession
  | openSessionPayload
  | features
  | featuresPayload
  | header
  | dataPrefix
  | data (front : Bytes)
  | payload (cmdid : UInt8) (length : Nat)
  | ended
deriving DecidableEq, Repr

def Waiting.needs : Waiting -> Nat
  | openSession => 8
  | openSessionPayload => 10
  | features => 8
  | featuresPayload => 5
  | header => 8
  | dataPrefix => 26
  | data front => dataLength front
  | payload _ length => length
  | ended => 0

/-- The handshake is done and the session is not over. -/
def Waiting.serving : Waiting -> Bool
  | openSession => false
  | openSessionPayload => false
  | features => false
  | featuresPayload => false
  | ended => false
  | _ => true

structure ServerConfig where
  readbfr : Nat := 1024
  writebfr : Nat := 1024
  proto : Nat := 0
  featureToggleStatus : Option Nat := some 1
deriving DecidableEq, Repr

/-- `sent` and `events` hold everything that was ever sent or put on the
queue. -/
structure IderMockServer where
  config : ServerConfig
  waiting : Waiting := Waiting.openSession
  outSeq : Nat := 0
  expectedInSeq : Nat := 0
  sent : List Bytes := []
  events : List Event := []
  handshakeError : Option ProtocolViolation := none
deriving DecidableEq, Repr

namespace IderMockServer

/-- A sequence number that does not fit its field raises. -/
def sendFrame (s : IderMockServer) (cmdid : UInt8) (payload : Bytes) :
    Option IderMockServer :=
  (encodeHeader cmdid s.outSeq false false).map fun header =>
    { s with sent := s.sent ++ [header ++ payload], outSeq := s.outSeq + 1 }

def finish (s : IderMockServer) : IderMockServer :=
  { s with waiting := Waiting.ended }

def put (s : IderMockServer) (event : Event) : IderMockServer :=
  { s with events := s.events ++ [event] }

def failHandshake (s : IderMockServer) (violation : ProtocolViolation) :
    IderMockServer :=
  { s with handshakeError := some violation }.finish

/-- Go on as the sending of a frame leaves it. -/
def sendThen (s : IderMockServer) (cmdid : UInt8) (payload : Option Bytes)
    (waiting : Waiting) : IderMockServer :=
  match payload.bind (s.sendFrame cmdid) with
  | none => s.finish
  | some s => { s with waiting := waiting }

/-- A parsed payload goes on the queue; one that cannot be parsed raises. -/
def putDecoded {alpha : Type} (s : IderMockServer)
    (decoded : Except DecodeError alpha) (event : alpha -> Event) :
    IderMockServer :=
  match decoded with
  | Except.error _ => s.finish
  | Except.ok a => { s.put (event a) with waiting := Waiting.header }

def onPayload (s : IderMockServer) (cmdid : UInt8) (payload : Bytes) :
    IderMockServer :=
  if cmdid = 0x43 then s.finish
  else if cmdid = 0x44 then s.sendThen 0x45 (some []) Waiting.header
  else if cmdid = 0x45 then { s with waiting := Waiting.header }
  else if cmdid = 0x47 then
    { s.put Event.resetOccurredResponse with waiting := Waiting.header }
  else if cmdid = 0x51 then
    s.putDecoded (decodeCommandEndResponse payload) Event.commandEnd
  else if cmdid = 0x52 then
    s.putDecoded (decodeGetDataFromHost payload) Event.getDataFromHost
  else
    { s.put (Event.unknownFrame cmdid payload) with
      waiting := Waiting.header }

def onDataToHost (s : IderMockServer) (payload : Bytes) : IderMockServer :=
  s.putDecoded (decodeDataToHost payload) Event.dataToHost

/-- The sequence number is checked before anything else is read. -/
def onHeader (s : IderMockServer) (cmdid : UInt8) (seq : Nat) :
    IderMockServer :=
  if seq ≠ s.expectedInSeq then
    (s.put (Event.violation (.outOfSequence s.expectedInSeq seq))).finish
  else
    let s := { s with expectedInSeq := s.expectedInSeq + 1 }
    if cmdid = 0x54 then { s with waiting := Waiting.dataPrefix }
    else
      match fixedInboundPayloadLength.lookup cmdid with
      | none => (s.put (Event.unknownFrame cmdid [])).finish
      | some 0 => s.onPayload cmdid []
      | some length => { s with waiting := Waiting.payload cmdid length }

/-- A header of the handshake; any other than the expected one fails it. -/
def expectHeader (s : IderMockServer) (data : Bytes) (cmdid : UInt8)
    (seq : Nat) (violation : UInt8 -> Nat -> ProtocolViolation)
    (waiting : Waiting) : IderMockServer :=
  match decodeHeader data with
  | Except.error _ => s.finish
  | Except.ok (got, _, gotSeq) =>
      if got ≠ cmdid ∨ gotSeq ≠ seq then
        s.failHandshake (violation got gotSeq)
      else { s with waiting := waiting }

/-- OPEN_SESSION is answered; what it says is not looked at. -/
def replyOpenSession (s : IderMockServer) : IderMockServer :=
  sendThen { s with expectedInSeq := 1 } 0x41
    (encodeOpenSessionReply s.config.readbfr s.config.writebfr
      s.config.proto)
    Waiting.features

/-- The feature toggle is answered, or the verdict on it is withheld. -/
def answerFeatures (s : IderMockServer) : IderMockServer :=
  match s.config.featureToggleStatus with
  | none => { s with expectedInSeq := 2, waiting := Waiting.header }
  | some status =>
      sendThen { s with expectedInSeq := 2 } 0x49 (encodeStatusData 3 status)
        Waiting.header

def nextFrame (s : IderMockServer) (data : Bytes) : IderMockServer :=
  match decodeHeader data with
  | Except.error _ => s.finish
  | Except.ok (cmdid, _, seq) => s.onHeader cmdid seq

def onDataPrefix (s : IderMockServer) (data : Bytes) : IderMockServer :=
  if dataLength data = 0 then s.onDataToHost data
  else { s with waiting := Waiting.data data }

/-- What the session thread does with the bytes that it waited for. -/
def takeBytes (s : IderMockServer) (data : Bytes) : IderMockServer :=
  match s.waiting with
  | Waiting.openSession =>
      s.expectHeader data 0x40 0 .expectedOpenSession
        Waiting.openSessionPayload
  | Waiting.openSessionPayload => s.replyOpenSession
  | Waiting.features =>
      s.expectHeader data 0x48 s.expectedInSeq
        (.expectedFeatures s.expectedInSeq) Waiting.featuresPayload
  | Waiting.featuresPayload => s.answerFeatures
  | Waiting.header => s.nextFrame data
  | Waiting.dataPrefix => s.onDataPrefix data
  | Waiting.data front => s.onDataToHost (front ++ data)
  | Waiting.payload cmdid _ => s.onPayload cmdid data
  | Waiting.ended => s

end IderMockServer

/-- The session thread. -/
def reader : ExactReader UInt8 IderMockServer where
  needs := fun s => s.waiting.needs
  take := IderMockServer.takeBytes

@[simp] theorem reader_needs (s : IderMockServer) :
    reader.needs s = s.waiting.needs := rfl

@[simp] theorem reader_take (s : IderMockServer) (data : Bytes) :
    reader.take s data = s.takeBytes data := rfl

/-!
## The driving interface

Its callers have waited for the handshake.  A call that raises leaves what it
has sent before.
-/

inductive Drive where
  | issueScsi (cdb : Bytes) (device featureRegister : UInt8)
  | sendDataFromHost (data : Bytes) (frameSize : Nat)
  | injectResetOccurred (resetMask : UInt8)
  | injectErrorOccurred (code : UInt8)
  | injectClose
  | sendBadSequenceFrame (cmdid : UInt8) (payload : Bytes)
deriving DecidableEq, Repr

namespace IderMockServer

/-- Send a frame, unless that raises. -/
def trySend (s : IderMockServer) (cmdid : UInt8) (payload : Option Bytes) :
    IderMockServer :=
  (payload.bind (s.sendFrame cmdid)).getD s

/-- The first frame that raises is the last. -/
def sendChunks : IderMockServer -> List Bytes -> IderMockServer
  | s, [] => s
  | s, chunk :: chunks =>
      match (encodeDataFromHost chunk).bind (s.sendFrame 0x53) with
      | none => s
      | some s => sendChunks s chunks

/-- The pieces of a payload, every one but the last of the given size. -/
def hostChunks (data : Bytes) (frameSize : Nat) : List Bytes :=
  (List.range ((data.length + frameSize - 1) / frameSize)).map fun k =>
    slice data (k * frameSize) frameSize

/-- A frame whose number skips ahead, unless that raises; the counter of the
server does not move. -/
def trySendAhead (s : IderMockServer) (cmdid : UInt8) (payload : Bytes) :
    IderMockServer :=
  ((encodeHeader cmdid (s.outSeq + 999) false false).map fun header =>
    { s with sent := s.sent ++ [header ++ payload] }).getD s

def drive (s : IderMockServer) : Drive -> IderMockServer
  | Drive.issueScsi cdb device featureRegister =>
      let deviceFlags : UInt8 := if device = 0xB0 then 0x10 else 0x00
      s.trySend 0x50 (encodeCommandWritten cdb deviceFlags featureRegister)
  | Drive.sendDataFromHost data frameSize =>
      if frameSize = 0 then s
      else if data = [] then s.trySend 0x53 (encodeDataFromHost [])
      else s.sendChunks (hostChunks data frameSize)
  | Drive.injectResetOccurred resetMask =>
      s.trySend 0x46 (some (encodeResetOccurred resetMask))
  | Drive.injectErrorOccurred code =>
      s.trySend 0x4A (some (encodeErrorOccurred code))
  | Drive.injectClose => s.trySend 0x43 (some [])
  | Drive.sendBadSequenceFrame cmdid payload => s.trySendAhead cmdid payload

end IderMockServer

/-- The driving interface beside the session thread. -/
def driven (a : Drive) (r : ExactRead UInt8 IderMockServer) :
    ExactRead UInt8 IderMockServer :=
  if r.state.waiting.serving then { r with state := r.state.drive a } else r

end IderServer
end IntelAmt
